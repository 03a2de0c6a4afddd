import Mathlib.Tactic

/-!
# The last event of a kind

`LastMatch p q events`: some event satisfies `p` and no later one satisfies `q`.
`Reaches p r events`: events that satisfy `p` lead to one that stands in `r` to
them.
-/

set_option autoImplicit false

variable {α : Type}

def LastMatch (p q : α → Prop) (events : List α) : Prop :=
  ∃ before event after, events = before ++ event :: after ∧ p event ∧
    ∀ later ∈ after, ¬ q later

namespace LastMatch

variable {p q : α → Prop}

theorem nil : ¬ LastMatch p q [] := by
  rintro ⟨before, event, after, split, _⟩
  cases before <;> cases split

theorem cons (event : α) (events : List α) :
    LastMatch p q (event :: events) ↔
      LastMatch p q events ∨ (p event ∧ ∀ later ∈ events, ¬ q later) := by
  constructor
  · rintro ⟨before, found, after, split, holds, last⟩
    cases before with
    | nil =>
        cases split
        exact Or.inr ⟨holds, last⟩
    | cons head tail =>
        cases split
        exact Or.inl ⟨tail, found, after, rfl, holds, last⟩
  · rintro (⟨before, found, after, rfl, holds, last⟩ | ⟨holds, last⟩)
    · exact ⟨event :: before, found, after, rfl, holds, last⟩
    · exact ⟨[], event, events, rfl, holds, last⟩

end LastMatch

def Reaches (p : α → Prop) (r : List α → α → Prop) (events : List α) : Prop :=
  ∃ earlier event later, events = earlier ++ event :: later ∧ (∀ before ∈ earlier, p before) ∧
    r earlier event

namespace Reaches

variable {p : α → Prop} {r : List α → α → Prop}

theorem nil : ¬ Reaches p r [] := by
  rintro ⟨earlier, event, later, split, _⟩
  cases earlier <;> cases split

theorem cons (event : α) (events : List α) :
    Reaches p r (event :: events) ↔
      r [] event ∨ (p event ∧ Reaches p (fun earlier => r (event :: earlier)) events) := by
  constructor
  · rintro ⟨earlier, reached, later, split, passed, holds⟩
    cases earlier with
    | nil =>
        cases split
        exact Or.inl holds
    | cons first others =>
        cases split
        exact Or.inr ⟨passed event List.mem_cons_self, others, reached, later, rfl,
          fun other member => passed other (List.mem_cons_of_mem _ member), holds⟩
  · rintro (holds | ⟨now, earlier, reached, later, rfl, passed, holds⟩)
    · exact ⟨[], event, events, rfl, fun _ member => absurd member List.not_mem_nil, holds⟩
    · exact ⟨event :: earlier, reached, later, rfl, List.forall_mem_cons.mpr ⟨now, passed⟩, holds⟩

/-- Only what holds after events that pass matters. -/
theorem congr {s : List α → α → Prop} {events : List α}
    (same : ∀ earlier event, r earlier event ↔ s earlier event) :
    Reaches p r events ↔ Reaches p s events := by
  have equal : r = s := funext fun earlier => funext fun event => propext (same earlier event)
  rw [equal]

end Reaches
