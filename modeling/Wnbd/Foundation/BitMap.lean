import Mathlib.Tactic

/-!
# Bit maps as slot allocators

A run of bits in which a set bit marks a slot in use.  Claiming takes the first
clear bit, as `RtlFindClearBitsAndSet` does for a run of one.
-/

set_option autoImplicit false

namespace BitMap

/-- The index of the first clear bit. -/
def findClear : List Bool → Option Nat
  | [] => none
  | false :: _ => some 0
  | true :: rest => (findClear rest).map (· + 1)

def setBit (bits : List Bool) (index : Nat) : List Bool := bits.set index true

def clearBit (bits : List Bool) (index : Nat) : List Bool := bits.set index false

theorem findClear_spec (bits : List Bool) (index : Nat) (found : findClear bits = some index) :
    bits[index]? = some false := by
  induction bits generalizing index with
  | nil => cases found
  | cons bit rest hypothesis =>
      cases bit with
      | false =>
          cases found
          rfl
      | true =>
          obtain ⟨tailIndex, tailFound, rfl⟩ := Option.map_eq_some_iff.mp found
          rw [List.getElem?_cons_succ]
          exact hypothesis tailIndex tailFound

theorem clearBit_setBit (bits : List Bool) (index : Nat) (clear : bits[index]? = some false) :
    clearBit (setBit bits index) index = bits := by
  obtain ⟨bound, valueExact⟩ := List.getElem?_eq_some_iff.mp clear
  rw [clearBit, setBit, List.set_set, ← valueExact, List.set_getElem_self]

theorem setBit_length (bits : List Bool) (index : Nat) :
    (setBit bits index).length = bits.length := List.length_set ..

theorem clearBit_length (bits : List Bool) (index : Nat) :
    (clearBit bits index).length = bits.length := List.length_set ..

theorem findClear_lt (bits : List Bool) (index : Nat) (found : findClear bits = some index) :
    index < bits.length := by
  obtain ⟨bound, _⟩ := List.getElem?_eq_some_iff.mp (findClear_spec bits index found)
  exact bound

/-! ## Who holds which slot -/

variable {ι : Type}

/-- The set bits are the slots in use, and each is in use by one holder. -/
structure Owned (bits : List Bool) (slot : ι → Option Nat) : Prop where
  exclusive : ∀ holder other index, slot holder = some index → slot other = some index →
    holder = other
  set_iff : ∀ index, bits[index]? = some true ↔ ∃ holder, slot holder = some index

theorem Owned.unused (size : Nat) : Owned (List.replicate size false) fun _ : ι => none where
  exclusive _ _ _ holds := by cases holds
  set_iff index := by
    constructor
    · intro set
      have member := List.mem_of_getElem? set
      cases List.eq_of_mem_replicate member
    · rintro ⟨_, holds⟩
      cases holds

variable {bits : List Bool} {slot : ι → Option Nat} [DecidableEq ι]

theorem Owned.claim (owned : Owned bits slot) (index : Nat) (found : findClear bits = some index)
    (holder : ι) (free : slot holder = none) :
    Owned (setBit bits index) (Function.update slot holder (some index)) := by
  have clear := findClear_spec bits index found
  have unused : ∀ other, slot other ≠ some index := by
    intro other holds
    rw [(owned.set_iff index).mpr ⟨other, holds⟩] at clear
    cases clear
  refine ⟨fun first second number firstHolds secondHolds => ?_, fun number => ?_⟩
  · by_cases firstIs : first = holder <;> by_cases secondIs : second = holder
    · rw [firstIs, secondIs]
    · rw [firstIs, Function.update_self] at firstHolds
      rw [Function.update_of_ne secondIs, ← firstHolds] at secondHolds
      exact absurd secondHolds (unused second)
    · rw [secondIs, Function.update_self] at secondHolds
      rw [Function.update_of_ne firstIs, ← secondHolds] at firstHolds
      exact absurd firstHolds (unused first)
    · rw [Function.update_of_ne firstIs] at firstHolds
      rw [Function.update_of_ne secondIs] at secondHolds
      exact owned.exclusive first second number firstHolds secondHolds
  · by_cases same : number = index
    · subst same
      refine iff_of_true ?_ ⟨holder, Function.update_self ..⟩
      exact List.getElem?_set_self (findClear_lt bits number found)
    · rw [setBit, List.getElem?_set_ne (Ne.symm same), owned.set_iff number]
      constructor
      · rintro ⟨other, holds⟩
        have different : other ≠ holder := by
          rintro rfl
          rw [free] at holds
          cases holds
        exact ⟨other, by rw [Function.update_of_ne different]; exact holds⟩
      · rintro ⟨other, holds⟩
        by_cases different : other = holder
        · rw [different, Function.update_self] at holds
          exact absurd (Option.some.inj holds).symm same
        · rw [Function.update_of_ne different] at holds
          exact ⟨other, holds⟩

theorem Owned.release (owned : Owned bits slot) (index : Nat) (holder : ι)
    (holds : slot holder = some index) :
    Owned (clearBit bits index) (Function.update slot holder none) := by
  have outlives : ∀ other number, Function.update slot holder none other = some number →
      other ≠ holder ∧ slot other = some number := by
    intro other number stays
    by_cases same : other = holder
    · rw [same, Function.update_self] at stays
      cases stays
    · rw [Function.update_of_ne same] at stays
      exact ⟨same, stays⟩
  refine ⟨fun first second number firstHolds secondHolds => ?_, fun number => ?_⟩
  · exact owned.exclusive first second number (outlives first number firstHolds).2
      (outlives second number secondHolds).2
  · by_cases same : number = index
    · subst same
      refine iff_of_false ?_ ?_
      · intro set
        rw [clearBit, List.getElem?_set_self'] at set
        cases bound : bits[number]? with
        | none =>
            rw [bound] at set
            cases set
        | some bit =>
            rw [bound] at set
            cases set
      · rintro ⟨other, stays⟩
        obtain ⟨different, stayed⟩ := outlives other number stays
        exact different (owned.exclusive other holder number stayed holds)
    · rw [clearBit, List.getElem?_set_ne (Ne.symm same), owned.set_iff number]
      constructor
      · rintro ⟨other, held⟩
        have different : other ≠ holder := by
          rintro rfl
          rw [holds] at held
          exact same (Option.some.inj held).symm
        exact ⟨other, by rw [Function.update_of_ne different]; exact held⟩
      · rintro ⟨other, stays⟩
        exact ⟨other, (outlives other number stays).2⟩

end BitMap
