import Mathlib.Algebra.BigOperators.Group.Finset.Basic
import Mathlib.Tactic

/-!
# Sums over threads

The total of a weight that all but finitely many indices give as zero.  When the
state of one index changes, the total changes by what that index weighs.
-/

set_option autoImplicit false

/-- `total` is the sum of the weights. -/
def Tally {ι M : Type} [AddCommGroup M] (weight : ι → M) (total : M) : Prop :=
  ∃ indices : Finset ι, (∀ index, index ∉ indices → weight index = 0) ∧
    ∑ index ∈ indices, weight index = total

namespace Tally

variable {ι M : Type} [AddCommGroup M] {weight : ι → M} {total : M}

theorem zero (weightless : ∀ index, weight index = 0) : Tally weight 0 :=
  ⟨∅, fun index _ => weightless index, Finset.sum_empty⟩

theorem eq_zero (tally : Tally weight total) (weightless : ∀ index, weight index = 0) :
    total = 0 := by
  obtain ⟨indices, _, rfl⟩ := tally
  exact Finset.sum_eq_zero fun index _ => weightless index

variable [DecidableEq ι]

theorem extend (tally : Tally weight total) (index : ι) :
    ∃ indices : Finset ι, index ∈ indices ∧ (∀ other, other ∉ indices → weight other = 0) ∧
      ∑ other ∈ indices, weight other = total := by
  obtain ⟨indices, outside, rfl⟩ := tally
  refine ⟨insert index indices, Finset.mem_insert_self index indices, ?_, ?_⟩
  · intro other absent
    exact outside other fun present => absent (Finset.mem_insert_of_mem present)
  · refine Finset.sum_insert_of_eq_zero_if_notMem ?_
    intro absent
    exact outside index absent

theorem update {σ : Type} (weightOf : σ → M) (states : ι → σ)
    (tally : Tally (fun index => weightOf (states index)) total) (index : ι) (next : σ) :
    Tally (fun other => weightOf (Function.update states index next other))
      (total - weightOf (states index) + weightOf next) := by
  obtain ⟨indices, member, outside, rfl⟩ := tally.extend index
  refine ⟨indices, ?_, ?_⟩
  · intro other absent
    have different : other ≠ index := by
      rintro rfl
      exact absent member
    change weightOf (Function.update states index next other) = 0
    rw [Function.update_of_ne different]
    exact outside other absent
  · have others : ∑ other ∈ indices.erase index,
        weightOf (Function.update states index next other) =
          ∑ other ∈ indices.erase index, weightOf (states other) := by
      refine Finset.sum_congr rfl ?_
      intro other inside
      rw [Function.update_of_ne (Finset.ne_of_mem_erase inside)]
    rw [← Finset.add_sum_erase indices _ member, others, Function.update_self,
      ← Finset.add_sum_erase indices (fun other => weightOf (states other)) member]
    abel

end Tally
