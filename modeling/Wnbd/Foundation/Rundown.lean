import Mathlib.Tactic

/-!
# Rundown protection

A reference count that stops handing out references once some thread waits for
their release.
-/

set_option autoImplicit false

/-- `waiting` is set by the first wait and stays set. -/
structure Rundown where
  references : Nat
  waiting : Bool
deriving DecidableEq, Repr

namespace Rundown

def initial : Rundown := { references := 0, waiting := false }

/-- A new reference, unless a thread already waits. -/
def acquire (protection : Rundown) : Option Rundown :=
  if protection.waiting then none
  else some { protection with references := protection.references + 1 }

def release (protection : Rundown) : Rundown :=
  { protection with references := protection.references - 1 }

def startWait (protection : Rundown) : Rundown := { protection with waiting := true }

/-- The wait returns when no reference is left. -/
def released (protection : Rundown) : Prop := protection.references = 0

instance (protection : Rundown) : Decidable protection.released := by
  unfold released
  infer_instance

theorem acquire_eq_some (protection acquired : Rundown)
    (taken : protection.acquire = some acquired) :
    protection.waiting = false ∧
      acquired = { protection with references := protection.references + 1 } := by
  unfold acquire at taken
  split at taken
  · cases taken
  · rename_i notWaiting
    cases taken
    exact ⟨Bool.eq_false_iff.mpr notWaiting, rfl⟩

end Rundown
