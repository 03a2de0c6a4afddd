import Mathlib.Algebra.Order.BigOperators.Group.Finset
import Mathlib.Algebra.Order.Group.Multiset
import Mathlib.Tactic

/-!
# Shares of a stock

Owners hold shares of a stock, and some of it is spent.  The shares are backed when what is
spent and what any owners hold together does not exceed the stock.  One owner at a time may
take what is added to the stock, and spend or give up what it holds.
-/

set_option autoImplicit false

variable {ι M : Type} [AddCommMonoid M] [PartialOrder M]

/-- No owners hold more than is left of the stock. -/
def Backed (held : ι → M) (spent stock : M) : Prop :=
  ∀ owners : Finset ι, spent + ∑ owner ∈ owners, held owner ≤ stock

namespace Backed

variable {held after : ι → M} {spent stock : M}

theorem spent_le (backed : Backed held spent stock) : spent ≤ stock := by
  have nobody := backed ∅
  rwa [Finset.sum_empty, add_zero] at nobody

theorem nothing (none : ∀ owner, held owner = 0) : Backed held (0 : M) 0 := by
  intro owners
  rw [Finset.sum_eq_zero fun owner _ => none owner, add_zero]

variable [IsOrderedAddMonoid M] [CanonicallyOrderedAdd M] [DecidableEq ι]

/-- What one owner has spent and holds grows by no more than the stock does. -/
theorem step (backed : Backed held spent stock)
    (owner : ι) (others : ∀ other, other ≠ owner → after other = held other) (nowSpent added : M)
    (balance : nowSpent + after owner ≤ spent + held owner + added) :
    Backed after nowSpent (stock + added) := by
  intro owners
  let rest := owners.erase owner
  have same : ∑ other ∈ rest, after other = ∑ other ∈ rest, held other :=
    Finset.sum_congr rfl fun other member => others other (Finset.ne_of_mem_erase member)
  have absent : owner ∉ rest := Finset.notMem_erase owner owners
  have covered : owners ⊆ insert owner rest := Finset.insert_erase_subset owner owners
  calc nowSpent + ∑ other ∈ owners, after other
      ≤ nowSpent + ∑ other ∈ insert owner rest, after other := by
        gcongr
    _ = nowSpent + after owner + ∑ other ∈ rest, held other := by
        rw [Finset.sum_insert absent, same, add_assoc]
    _ ≤ spent + held owner + added + ∑ other ∈ rest, held other := by
        gcongr
    _ = spent + ∑ other ∈ insert owner rest, held other + added := by
        rw [Finset.sum_insert absent]
        abel
    _ ≤ stock + added := by
        gcongr
        exact backed _

theorem move (backed : Backed held spent stock)
    (owner : ι) (others : ∀ other, other ≠ owner → after other = held other) (nowSpent : M)
    (balance : nowSpent + after owner ≤ spent + held owner) : Backed after nowSpent stock := by
  have stepped := backed.step owner others nowSpent 0 (by rwa [add_zero])
  rwa [add_zero] at stepped

end Backed
