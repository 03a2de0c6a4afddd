import Mathlib.Algebra.BigOperators.Group.Finset.Basic
import Wnbd.Foundation.StepSystem

/-!
# Systems that run dry

A measure of the work that is left, which every allowed step makes smaller.  No run of
allowed steps is longer than the work it starts with, and one that cannot go on has
settled.
-/

set_option autoImplicit false

namespace StepSystem

variable {σ α : Type} {next : σ → α → Option σ} {allowed : σ → α → Prop} {inv : σ → Prop}
  {work : σ → Nat}

/-- Allowed steps keep the invariant and do some of the work. -/
structure Drains (next : σ → α → Option σ) (allowed : σ → α → Prop) (inv : σ → Prop)
    (work : σ → Nat) : Prop where
  kept : ∀ state action after, allowed state action → inv state →
    next state action = some after → inv after
  spent : ∀ state action after, allowed state action → inv state →
    next state action = some after → work after < work state

/-- A run is paid for with the work that is left. -/
theorem Drains.length_add_work_le (drains : Drains next allowed inv work) (actions : List α)
    (start last : σ) (initially : inv start) (permitted : AllAllowed next allowed start actions)
    (ran : run next start actions = some last) :
    actions.length + work last ≤ work start := by
  induction actions generalizing start with
  | nil =>
      cases ran
      simp
  | cons action rest hypothesis =>
      obtain ⟨after, taken, ranRest⟩ := Option.bind_eq_some_iff.mp ran
      have permittedRest := permitted.2
      rw [taken] at permittedRest
      have later := hypothesis after (drains.kept start action after permitted.1 initially taken)
        permittedRest ranRest
      have spent := drains.spent start action after permitted.1 initially taken
      rw [List.length_cons]
      omega

/-- Some run of allowed steps ends where none is left. -/
theorem Drains.settles (drains : Drains next allowed inv work) (start : σ)
    (initially : inv start) :
    ∃ last, Path next allowed start last ∧
      ∀ action, allowed last action → next last action = none := by
  induction left : work start using Nat.strong_induction_on generalizing start with
  | _ amount hypothesis =>
      by_cases ended : ∀ action, allowed start action → next start action = none
      · exact ⟨start, .refl, ended⟩
      · push Not at ended
        obtain ⟨action, permitted, enabled⟩ := ended
        obtain ⟨after, taken⟩ := Option.ne_none_iff_exists'.mp enabled
        have spent := drains.spent start action after permitted initially taken
        obtain ⟨last, path, settled⟩ := hypothesis (work after) (left ▸ spent) after
          (drains.kept start action after permitted initially taken) rfl
        exact ⟨last, (Path.step action .refl permitted taken).trans path, settled⟩

theorem sum_range_replace (before after : Nat → Nat) (count index : Nat) (inside : index < count)
    (others : ∀ other, other ≠ index → after other = before other) :
    (∑ found ∈ Finset.range count, after found) + before index =
      (∑ found ∈ Finset.range count, before found) + after index := by
  have member : index ∈ Finset.range count := Finset.mem_range.mpr inside
  have rest : ∑ found ∈ (Finset.range count).erase index, after found =
      ∑ found ∈ (Finset.range count).erase index, before found := by
    apply Finset.sum_congr rfl
    intro found elsewhere
    exact others found (Finset.ne_of_mem_erase elsewhere)
  rw [← Finset.add_sum_erase _ _ member, ← Finset.add_sum_erase _ before member, rest]
  omega

end StepSystem
