import Mathlib.Tactic

/-!
# Locks with one owner

A lock guards a scope when the thread it names is the one inside the scope.
-/

set_option autoImplicit false

namespace Mutex

variable {ι : Type} {lock : Option ι} {holds now : ι → Bool}

/-- The lock names exactly the threads inside its scope. -/
def Guards (lock : Option ι) (holds : ι → Bool) : Prop :=
  ∀ thread, holds thread = true ↔ lock = some thread

theorem Guards.unique (guards : Guards lock holds) {first second : ι}
    (left : holds first = true) (right : holds second = true) : first = second := by
  have named := (guards first).mp left
  rw [(guards second).mp right] at named
  exact (Option.some.inj named).symm

theorem Guards.free (guards : Guards none holds) (thread : ι) : holds thread = false := by
  cases inside : holds thread with
  | false => rfl
  | true => cases (guards thread).mp inside

theorem Guards.acquire (guards : Guards none holds) (thread : ι) (entered : now thread = true)
    (others : ∀ other, other ≠ thread → now other = holds other) :
    Guards (some thread) now := by
  intro found
  by_cases own : found = thread
  · rw [own]
    exact ⟨fun _ => rfl, fun _ => entered⟩
  · rw [others found own, guards.free found]
    exact ⟨fun inside => (by cases inside),
      fun named => absurd (Option.some.inj named).symm own⟩

theorem Guards.release (guards : Guards lock holds) (thread : ι) (inside : holds thread = true)
    (left : now thread = false) (others : ∀ other, other ≠ thread → now other = holds other) :
    Guards none now := by
  intro found
  by_cases own : found = thread
  · rw [own, left]
    exact ⟨fun inside => (by cases inside), fun named => (by cases named)⟩
  · rw [others found own]
    exact ⟨fun found => absurd (guards.unique found inside) own, fun named => (by cases named)⟩

theorem Guards.keep (guards : Guards lock holds) (thread : ι) (same : now thread = holds thread)
    (others : ∀ other, other ≠ thread → now other = holds other) : Guards lock now := by
  intro found
  by_cases own : found = thread
  · rw [own, same]
    exact guards thread
  · rw [others found own]
    exact guards found

end Mutex
