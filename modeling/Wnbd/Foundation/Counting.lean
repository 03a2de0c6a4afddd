import Mathlib.Data.Finset.Card
import Mathlib.Tactic

/-!
# Counters that track a predicate

A counter is right when it equals the number of indices that satisfy a
predicate, of which there are finitely many.
-/

set_option autoImplicit false

/-- Exactly `count` indices satisfy `member`. -/
def Counts {ι : Type} (member : ι → Prop) (count : Nat) : Prop :=
  ∃ indices : Finset ι, (∀ index, index ∈ indices ↔ member index) ∧ indices.card = count

namespace Counts

variable {ι : Type} {member changed : ι → Prop} {count : Nat}

theorem zero (none : ∀ index, ¬ member index) : Counts member 0 :=
  ⟨∅, fun index => iff_of_false (Finset.notMem_empty index) (none index), rfl⟩

theorem congr (counted : Counts member count) (same : ∀ index, changed index ↔ member index) :
    Counts changed count := by
  obtain ⟨indices, exactly, card⟩ := counted
  exact ⟨indices, fun index => (exactly index).trans (same index).symm, card⟩

theorem none_of_zero (counted : Counts member 0) (index : ι) : ¬ member index := by
  obtain ⟨indices, exactly, card⟩ := counted
  rw [Finset.card_eq_zero] at card
  intro holds
  have inside := (exactly index).mpr holds
  rw [card] at inside
  exact Finset.notMem_empty index inside

theorem pos (counted : Counts member count) (index : ι) (holds : member index) : 0 < count := by
  obtain ⟨indices, exactly, card⟩ := counted
  rw [← card]
  exact Finset.card_pos.mpr ⟨index, (exactly index).mpr holds⟩

theorem eq_zero (counted : Counts member count) (none : ∀ index, ¬ member index) : count = 0 := by
  obtain ⟨indices, exactly, card⟩ := counted
  rw [← card, Finset.card_eq_zero, Finset.eq_empty_iff_forall_notMem]
  exact fun index inside => none index ((exactly index).mp inside)

theorem unique {other : Nat} (counted : Counts member count) (again : Counts member other) :
    count = other := by
  obtain ⟨indices, exactly, rfl⟩ := counted
  obtain ⟨indices', exactly', rfl⟩ := again
  congr 1
  ext index
  exact (exactly index).trans (exactly' index).symm

variable [DecidableEq ι]

theorem gain (counted : Counts member count) (index : ι) (outside : ¬ member index)
    (inside : changed index) (others : ∀ other, other ≠ index → (changed other ↔ member other)) :
    Counts changed (count + 1) := by
  obtain ⟨indices, exactly, card⟩ := counted
  refine ⟨insert index indices, fun other => ?_, ?_⟩
  · rw [Finset.mem_insert, exactly other]
    by_cases same : other = index
    · subst same
      exact iff_of_true (Or.inl rfl) inside
    · rw [others other same]
      exact or_iff_right same
  · rw [Finset.card_insert_of_notMem (fun member => outside ((exactly index).mp member)), card]

theorem lose (counted : Counts member count) (index : ι) (inside : member index)
    (outside : ¬ changed index) (others : ∀ other, other ≠ index → (changed other ↔ member other)) :
    Counts changed (count - 1) := by
  obtain ⟨indices, exactly, card⟩ := counted
  refine ⟨indices.erase index, fun other => ?_, ?_⟩
  · rw [Finset.mem_erase, exactly other]
    by_cases same : other = index
    · subst same
      exact iff_of_false (fun both => both.1 rfl) outside
    · rw [others other same]
      exact and_iff_right same
  · rw [Finset.card_erase_of_mem ((exactly index).mpr inside), card]

theorem update {σ : Type} (holds : σ → Prop) [DecidablePred holds] (states : ι → σ)
    (counted : Counts (fun index => holds (states index)) count) (index : ι) (next : σ) :
    ∃ after, Counts (fun other => holds (Function.update states index next other)) after ∧
      after + (if holds (states index) then 1 else 0) = count + (if holds next then 1 else 0) := by
  have others : ∀ other, other ≠ index →
      (holds (Function.update states index next other) ↔ holds (states other)) := by
    intro other different
    rw [Function.update_of_ne different]
  have here : holds (Function.update states index next index) ↔ holds next := by
    rw [Function.update_self]
  by_cases before : holds (states index)
  · by_cases now : holds next
    · refine ⟨count, counted.congr ?_, by rw [if_pos before, if_pos now]⟩
      intro other
      by_cases same : other = index
      · subst same
        exact iff_of_true (here.mpr now) before
      · exact others other same
    · refine ⟨count - 1, counted.lose index before (fun after => now (here.mp after)) others, ?_⟩
      have positive := counted.pos index before
      rw [if_pos before, if_neg now]
      omega
  · by_cases now : holds next
    · refine ⟨count + 1, counted.gain index before (here.mpr now) others, ?_⟩
      rw [if_neg before, if_pos now]
    · refine ⟨count, counted.congr ?_, by rw [if_neg before, if_neg now]⟩
      intro other
      by_cases same : other = index
      · subst same
        exact iff_of_false (fun after => now (here.mp after)) before
      · exact others other same

end Counts
