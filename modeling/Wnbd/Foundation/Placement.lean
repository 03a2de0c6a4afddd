import Mathlib.Tactic

/-!
# Items in places

`contents place` lists the items found in a place.  The contents are exclusive
when no item is listed twice, in one place or in two; taking an item out,
putting a new one in and moving one keep them so.
-/

set_option autoImplicit false

namespace Placement

variable {Place Item : Type}

structure Exclusive (contents : Place → List Item) : Prop where
  nodup : ∀ place, (contents place).Nodup
  unique : ∀ place other item, item ∈ contents place → item ∈ contents other → place = other

structure Puts (before after : Place → List Item) (item : Item) (target : Place) : Prop where
  here : (after target).Perm (item :: before target)
  others : ∀ place, place ≠ target → after place = before place

/-- How one step changes the contents. -/
inductive Transfer (before after : Place → List Item) : Prop
  | kept (same : ∀ place, after place = before place)
  | created (item : Item) (target : Place) (fresh : ∀ place, item ∉ before place)
      (put : Puts before after item target)
  | destroyed (item : Item) (source : Place) (taken : Puts after before item source)
  | moved (between : Place → List Item) (item : Item) (source target : Place)
      (taken : Puts between before item source) (put : Puts between after item target)

variable {before between after : Place → List Item}

namespace Puts

variable {item : Item} {target : Place}

theorem mem_target (put : Puts before after item target) : item ∈ after target :=
  put.here.mem_iff.mpr List.mem_cons_self

/-- Nothing but the new item is found anywhere it was not before. -/
theorem mem_iff (put : Puts before after item target) (place : Place) (other : Item) :
    other ∈ after place ↔ (other = item ∧ place = target) ∨ other ∈ before place := by
  by_cases here : place = target
  · subst here
    rw [put.here.mem_iff, List.mem_cons]
    simp
  · rw [put.others place here]
    simp [here]

theorem exclusive (put : Puts before after item target) (exclusive : Exclusive before)
    (fresh : ∀ place, item ∉ before place) : Exclusive after where
  nodup place := by
    by_cases here : place = target
    · subst here
      rw [put.here.nodup_iff]
      exact List.nodup_cons.mpr ⟨fresh place, exclusive.nodup place⟩
    · rw [put.others place here]
      exact exclusive.nodup place
  unique place other found first second := by
    rcases (put.mem_iff place found).mp first with ⟨rfl, rfl⟩ | old
    · rcases (put.mem_iff other found).mp second with ⟨-, rfl⟩ | old
      · rfl
      · exact absurd old (fresh other)
    · rcases (put.mem_iff other found).mp second with ⟨rfl, rfl⟩ | older
      · exact absurd old (fresh place)
      · exact exclusive.unique place other found old older

theorem exclusive_of_after (put : Puts before after item target) (exclusive : Exclusive after) :
    Exclusive before ∧ ∀ place, item ∉ before place := by
  have nodupTarget : (item :: before target).Nodup :=
    put.here.nodup_iff.mp (exclusive.nodup target)
  refine ⟨⟨fun place => ?_, fun place other found first second => ?_⟩, fun place found => ?_⟩
  · by_cases here : place = target
    · subst here
      exact (List.nodup_cons.mp nodupTarget).2
    · rw [← put.others place here]
      exact exclusive.nodup place
  · exact exclusive.unique place other found ((put.mem_iff place found).mpr (Or.inr first))
      ((put.mem_iff other found).mpr (Or.inr second))
  · have same : place = target :=
      exclusive.unique place target item ((put.mem_iff place item).mpr (Or.inr found))
        put.mem_target
    subst same
    exact (List.nodup_cons.mp nodupTarget).1 found

variable {source : Place}

/-- After a move there is only what there was. -/
theorem mem_moved (taken : Puts between before item source)
    (put : Puts between after item target) (place : Place) (other : Item)
    (member : other ∈ after place) : other = item ∨ other ∈ before place := by
  rcases (put.mem_iff place other).mp member with ⟨same, _⟩ | old
  · exact Or.inl same
  · exact Or.inr ((taken.mem_iff place other).mpr (Or.inr old))

/-- A move leaves everything but the item where it was. -/
theorem mem_kept (taken : Puts between before item source)
    (put : Puts between after item target) (place : Place) (other : Item)
    (member : other ∈ before place) : other = item ∧ place = source ∨ other ∈ after place := by
  rcases (taken.mem_iff place other).mp member with moved | old
  · exact Or.inl moved
  · exact Or.inr ((put.mem_iff place other).mpr (Or.inr old))

end Puts

/-- The order inside a place does not matter. -/
theorem Exclusive.perm (exclusive : Exclusive before)
    (same : ∀ place, (after place).Perm (before place)) : Exclusive after where
  nodup place := (same place).nodup_iff.mpr (exclusive.nodup place)
  unique place other item first second :=
    exclusive.unique place other item ((same place).mem_iff.mp first)
      ((same other).mem_iff.mp second)

theorem Exclusive.transfer (exclusive : Exclusive before) (step : Transfer before after) :
    Exclusive after := by
  cases step with
  | kept same =>
      rw [show after = before from funext same]
      exact exclusive
  | created item target fresh put => exact put.exclusive exclusive fresh
  | destroyed item source taken => exact (taken.exclusive_of_after exclusive).1
  | moved between item source target taken put =>
      obtain ⟨middle, nowhere⟩ := taken.exclusive_of_after exclusive
      exact put.exclusive middle nowhere

end Placement
