import Mathlib.Tactic

/-!
# Shared and exclusive locks

A lock that any number of owners hold shared, or one owner holds exclusively.
-/

set_option autoImplicit false

structure Resource (ι : Type) where
  shared : List ι
  exclusive : Option ι
deriving DecidableEq, Repr

namespace Resource

variable {ι : Type}

def initial : Resource ι := { shared := [], exclusive := none }

/-- A shared owner only waits for an exclusive one. -/
def acquireShared (resource : Resource ι) (owner : ι) : Option (Resource ι) :=
  match resource.exclusive with
  | none => some { resource with shared := owner :: resource.shared }
  | some _ => none

def releaseShared [DecidableEq ι] (resource : Resource ι) (owner : ι) : Resource ι :=
  { resource with shared := resource.shared.erase owner }

theorem acquireShared_eq_some (resource acquired : Resource ι) (owner : ι)
    (taken : resource.acquireShared owner = some acquired) :
    acquired = { resource with shared := owner :: resource.shared } := by
  unfold acquireShared at taken
  split at taken
  · cases taken
    rfl
  · cases taken

end Resource
