import Wnbd.Foundation.BigEndian
import Wnbd.Foundation.CLayout

/-!
# Programs that leave a trace in a buffer

A traced program runs on a memory, byte by offset, and records each region it
touches.  A region is taken when it is a field of the input the program was
given.  `Accesses` says that a run only makes accesses with some property; its
rules follow the program step by step.
-/

set_option autoImplicit false

namespace TracedBuffer

open CLayout

abbrev Memory := Nat → UInt8

inductive AccessKind
  | take | read | write
deriving DecidableEq, Repr

structure Access where
  kind : AccessKind
  region : Region
deriving DecidableEq, Repr

structure Outcome (α : Type) where
  value : α
  memory : Memory
  accesses : List Access

def Traced (α : Type) : Type := Memory → Outcome α

instance : Monad Traced where
  pure value := fun memory => ⟨value, memory, []⟩
  bind action next := fun memory =>
    let first := action memory
    let second := next first.value first.memory
    ⟨second.value, second.memory, first.accesses ++ second.accesses⟩

/-! ## Numbers and bytes in memory -/

def bytesAt (memory : Memory) (region : Region) : List UInt8 :=
  (List.range region.length).map fun index => memory (region.offset + index)

/-- The little-endian number a region holds. -/
def natAt (memory : Memory) (region : Region) : Nat :=
  BigEndian.ofBytes (bytesAt memory region).reverse

def store (memory : Memory) (region : Region) (bytes : Nat → UInt8) : Memory := fun offset =>
  if region.offset ≤ offset ∧ offset < region.stop then bytes (offset - region.offset)
  else memory offset

/-- The bytes of a number, least significant first. -/
def leBytes (value : Nat) : Nat → UInt8 := fun index => UInt8.ofNat (value / 256 ^ index)

theorem bytesAt_store (memory : Memory) (region : Region) (bytes : Nat → UInt8) :
    bytesAt (store memory region bytes) region = (List.range region.length).map bytes := by
  refine List.map_congr_left fun index member => ?_
  have bound := List.mem_range.mp member
  have inside : region.offset ≤ region.offset + index ∧ region.offset + index < region.stop := by
    simp only [Region.stop]
    omega
  rw [store, if_pos inside, Nat.add_sub_cancel_left]

theorem bytesAt_store_of_disjoint (memory : Memory) (region written : Region)
    (bytes : Nat → UInt8)
    (disjoint : region.stop ≤ written.offset ∨ written.stop ≤ region.offset) :
    bytesAt (store memory written bytes) region = bytesAt memory region := by
  refine List.map_congr_left fun index member => ?_
  have bound := List.mem_range.mp member
  rw [store, if_neg]
  simp only [Region.stop] at disjoint ⊢
  omega

theorem reverse_leBytes (width value : Nat) :
    ((List.range width).map (leBytes value)).reverse = BigEndian.toBytes width value := by
  induction width with
  | zero => rfl
  | succ width hypothesis =>
      rw [List.range_succ, List.map_append, List.reverse_append, hypothesis]
      rfl

theorem natAt_store (memory : Memory) (region : Region) (value : Nat) :
    natAt (store memory region (leBytes value)) region = value % 256 ^ region.length := by
  rw [natAt, bytesAt_store, reverse_leBytes, BigEndian.ofBytes_toBytes]

theorem natAt_store_of_disjoint (memory : Memory) (region written : Region) (bytes : Nat → UInt8)
    (disjoint : region.stop ≤ written.offset ∨ written.stop ≤ region.offset) :
    natAt (store memory written bytes) region = natAt memory region := by
  rw [natAt, bytesAt_store_of_disjoint memory region written bytes disjoint]
  rfl

theorem store_within (memory : Memory) (base length : Nat) (bytes : Nat → UInt8) (index : Nat) :
    store memory ⟨base, length⟩ bytes (base + index) =
      if index < length then bytes index else memory (base + index) := by
  simp only [store, Region.stop, Nat.add_sub_cancel_left, Nat.add_lt_add_iff_left,
    Nat.le_add_right, true_and]

theorem natAt_congr {memory other : Memory} (region : Region)
    (same : ∀ place, region.offset ≤ place → place < region.stop → memory place = other place) :
    natAt memory region = natAt other region := by
  have bytes : bytesAt memory region = bytesAt other region := by
    refine List.map_congr_left fun index member => ?_
    have bound := List.mem_range.mp member
    exact same _ (Nat.le_add_right _ _) (Nat.add_lt_add_left bound _)
  rw [natAt, bytes]
  rfl

theorem natAt_byte (memory : Memory) (place : Nat) :
    natAt memory ⟨place, 1⟩ = (memory place).toNat := by
  simp [natAt, bytesAt, BigEndian.ofBytes]

theorem natAt_eq_zero (memory : Memory) (region : Region) :
    natAt memory region = 0 ↔ ∀ index, index < region.length → memory (region.offset + index) = 0 := by
  simp only [natAt, BigEndian.ofBytes_eq_zero, List.mem_reverse, bytesAt, List.forall_mem_map,
    List.mem_range]

/-- The memory as seen from an offset on. -/
def fromOffset (memory : Memory) (offset : Nat) : Memory := fun index => memory (offset + index)

theorem natAt_fromOffset (memory : Memory) (offset : Nat) (region : Region) :
    natAt (fromOffset memory offset) region = natAt memory ⟨offset + region.offset, region.length⟩ := by
  simp only [natAt, bytesAt, fromOffset, Nat.add_assoc]

/-- Inside a region that was stored whole the new bytes are read. -/
theorem natAt_store_inside (memory : Memory) (outer : Region) (bytes : Nat → UInt8)
    (region : Region) (fits : region.stop ≤ outer.length) :
    natAt (store memory outer bytes) ⟨outer.offset + region.offset, region.length⟩ =
      natAt bytes region := by
  have same : bytesAt (store memory outer bytes) ⟨outer.offset + region.offset, region.length⟩ =
      bytesAt bytes region := by
    refine List.map_congr_left fun index member => ?_
    have bound := List.mem_range.mp member
    have inside : outer.offset ≤ outer.offset + region.offset + index ∧
        outer.offset + region.offset + index < outer.stop := by
      simp only [Region.stop] at fits bound ⊢
      omega
    rw [store, if_pos inside, Nat.add_assoc, Nat.add_sub_cancel_left]
  rw [natAt, same]
  rfl

/-! ## Terminated strings -/

section Strings

variable (memory : Memory) (width : Nat)

/-- Units before the first zero unit; `limit` if there is none among the first
`limit`. -/
def terminatedLength : Nat → Nat → Nat
  | 0, _ => 0
  | limit + 1, offset =>
      if natAt memory ⟨offset, width⟩ = 0 then 0
      else terminatedLength limit (offset + width) + 1

/-- The units of the string at the offset. -/
def stringAt (limit offset : Nat) : List Nat :=
  (List.range (terminatedLength memory width limit offset)).map fun index =>
    natAt memory ⟨offset + index * width, width⟩

/-- Units a comparison finds equal before the first difference or zero unit. -/
def matchLength (fold : Nat → Nat) : Nat → List Nat → Nat
  | _, [] => 0
  | offset, unit :: rest =>
      if natAt memory ⟨offset, width⟩ ≠ 0 ∧ fold (natAt memory ⟨offset, width⟩) = fold unit then
        matchLength fold (offset + width) rest + 1
      else 0

variable {memory width}

/-- A zero unit ends the string there or earlier. -/
theorem terminatedLength_le (limit offset index : Nat)
    (terminator : natAt memory ⟨offset + index * width, width⟩ = 0) :
    terminatedLength memory width limit offset ≤ index := by
  induction limit generalizing offset index with
  | zero => exact Nat.zero_le index
  | succ limit hypothesis =>
      rw [terminatedLength]
      split
      case isTrue => exact Nat.zero_le index
      case isFalse nonzero =>
        cases index with
        | zero => exact absurd (by simpa using terminator) nonzero
        | succ index =>
            refine Nat.succ_le_succ (hypothesis (offset + width) index ?_)
            rw [← terminator, Nat.succ_mul]
            congr 2
            omega

theorem matchLength_le (fold : Nat → Nat) (units : List Nat) (offset index : Nat)
    (terminator : natAt memory ⟨offset + index * width, width⟩ = 0) :
    matchLength memory width fold offset units ≤ index := by
  induction units generalizing offset index with
  | nil => exact Nat.zero_le index
  | cons unit rest hypothesis =>
      rw [matchLength]
      split
      case isFalse => exact Nat.zero_le index
      case isTrue same =>
        cases index with
        | zero => exact absurd (by simpa using terminator) same.1
        | succ index =>
            refine Nat.succ_le_succ (hypothesis (offset + width) index ?_)
            rw [← terminator, Nat.succ_mul]
            congr 2
            omega

theorem stringAt_of_zero (limit offset : Nat) (zero : natAt memory ⟨offset, width⟩ = 0) :
    stringAt memory width limit offset = [] := by
  have empty : terminatedLength memory width limit offset ≤ 0 :=
    terminatedLength_le limit offset 0 (by simpa using zero)
  rw [stringAt, Nat.le_zero.mp empty]
  rfl

theorem stringAt_cons (limit offset : Nat) (nonzero : natAt memory ⟨offset, width⟩ ≠ 0) :
    stringAt memory width (limit + 1) offset =
      natAt memory ⟨offset, width⟩ :: stringAt memory width limit (offset + width) := by
  rw [stringAt, terminatedLength, if_neg nonzero, List.range_succ_eq_map, List.map_cons,
    List.map_map, stringAt, Nat.zero_mul, Nat.add_zero]
  congr 1
  refine List.map_congr_left fun index _ => ?_
  rw [Function.comp_apply, Nat.succ_mul]
  congr 2
  omega

theorem terminatedLength_nonzero (limit offset index : Nat)
    (before : index < terminatedLength memory width limit offset) :
    natAt memory ⟨offset + index * width, width⟩ ≠ 0 := by
  induction limit generalizing offset index with
  | zero => exact absurd before (Nat.not_lt_zero index)
  | succ limit hypothesis =>
      rw [terminatedLength] at before
      split at before
      case isTrue => exact absurd before (Nat.not_lt_zero index)
      case isFalse nonzero =>
        cases index with
        | zero => simpa using nonzero
        | succ index =>
            have rest := hypothesis (offset + width) index (Nat.lt_of_succ_lt_succ before)
            rw [Nat.succ_mul, Nat.add_comm (index * width), ← Nat.add_assoc]
            exact rest

theorem terminatedLength_zero (limit offset : Nat)
    (short : terminatedLength memory width limit offset < limit) :
    natAt memory ⟨offset + terminatedLength memory width limit offset * width, width⟩ = 0 := by
  induction limit generalizing offset with
  | zero => exact absurd short (Nat.not_lt_zero _)
  | succ limit hypothesis =>
      rw [terminatedLength] at short ⊢
      split at short
      case isTrue zero => simp [zero]
      case isFalse nonzero =>
        have rest := hypothesis (offset + width) (Nat.lt_of_succ_lt_succ short)
        rw [if_neg nonzero, Nat.succ_mul, Nat.add_comm (_ * width), ← Nat.add_assoc]
        exact rest

/-- A string that begins with nonzero units goes on behind them. -/
theorem stringAt_append (units : List Nat) (limit offset : Nat)
    (found : ∀ index (bound : index < units.length),
      natAt memory ⟨offset + index * width, width⟩ = units[index])
    (nonzero : ∀ unit ∈ units, unit ≠ 0) :
    stringAt memory width (units.length + limit) offset =
      units ++ stringAt memory width limit (offset + units.length * width) := by
  induction units generalizing offset with
  | nil => simp
  | cons unit rest hypothesis =>
      have first : natAt memory ⟨offset, width⟩ = unit := by
        simpa using found 0 (Nat.succ_pos _)
      have others := hypothesis (offset + width) (fun index bound => ?_)
        fun other member => nonzero other (List.mem_cons_of_mem _ member)
      · have reorder : (unit :: rest).length + limit = (rest.length + limit) + 1 := by
          rw [List.length_cons]
          omega
        rw [reorder, stringAt_cons _ _ (first ▸ nonzero unit List.mem_cons_self), first, others,
          List.cons_append, List.length_cons, Nat.succ_mul]
        congr 3
        omega
      · have next := found (index + 1) (Nat.succ_lt_succ bound)
        rw [Nat.succ_mul, Nat.add_comm (index * width), ← Nat.add_assoc] at next
        exact next

/-- Memories with the same bytes up to a terminator hold the same string. -/
theorem stringAt_congr {other : Memory} (limit offset terminator : Nat)
    (terminated : natAt memory ⟨offset + terminator * width, width⟩ = 0)
    (same : ∀ place, offset ≤ place → place < offset + (terminator + 1) * width →
      memory place = other place) :
    stringAt memory width limit offset = stringAt other width limit offset := by
  induction limit generalizing offset terminator with
  | zero => rfl
  | succ limit hypothesis =>
      have unit : natAt memory ⟨offset, width⟩ = natAt other ⟨offset, width⟩ := by
        refine natAt_congr _ fun place low high => same place low ?_
        have wider : width ≤ (terminator + 1) * width := Nat.le_mul_of_pos_left _ (by omega)
        simp only [Region.stop] at high
        omega
      by_cases zero : natAt memory ⟨offset, width⟩ = 0
      · rw [stringAt_of_zero _ _ zero, stringAt_of_zero _ _ (unit ▸ zero)]
      · obtain ⟨terminator, rfl⟩ : ∃ earlier, terminator = earlier + 1 := by
          refine Nat.exists_eq_succ_of_ne_zero fun first => zero ?_
          rw [first, Nat.zero_mul, Nat.add_zero] at terminated
          exact terminated
        have shift : offset + width + terminator * width = offset + (terminator + 1) * width := by
          rw [Nat.succ_mul]
          omega
        rw [stringAt_cons _ _ zero, stringAt_cons _ _ (unit ▸ zero), unit,
          hypothesis (offset + width) terminator (by rwa [shift]) fun place low high => ?_]
        refine same place (by omega) ?_
        rw [Nat.succ_mul]
        omega

/-- A comparison with a string shorter than the limit finds them equal when they are. -/
theorem matchLength_all_iff (fold : Nat → Nat) (units : List Nat) (limit offset : Nat)
    (short : units.length < limit) :
    (matchLength memory width fold offset units = units.length ∧
      natAt memory ⟨offset + matchLength memory width fold offset units * width, width⟩ = 0) ↔
    (stringAt memory width limit offset).map fold = units.map fold := by
  induction units generalizing limit offset with
  | nil =>
      obtain ⟨limit, rfl⟩ := Nat.exists_eq_succ_of_ne_zero (Nat.ne_of_gt short)
      by_cases zero : natAt memory ⟨offset, width⟩ = 0
      · simp [matchLength, zero, stringAt_of_zero]
      · simp [matchLength, zero, stringAt_cons]
  | cons unit rest hypothesis =>
      obtain ⟨limit, rfl⟩ := Nat.exists_eq_succ_of_ne_zero (Nat.ne_of_gt (Nat.zero_lt_of_lt short))
      by_cases zero : natAt memory ⟨offset, width⟩ = 0
      · simp [matchLength, zero, stringAt_of_zero]
      · by_cases same : fold (natAt memory ⟨offset, width⟩) = fold unit
        · have next := hypothesis limit (offset + width)
            (Nat.lt_of_succ_lt_succ (by simpa using short))
          have shifted : offset + (matchLength memory width fold (offset + width) rest + 1) * width =
              offset + width + matchLength memory width fold (offset + width) rest * width := by
            rw [Nat.succ_mul]
            omega
          rw [matchLength, if_pos ⟨zero, same⟩, stringAt_cons limit offset zero, List.map_cons,
            List.map_cons, same, shifted, List.length_cons, Nat.add_right_cancel_iff, next]
          simp
        · rw [matchLength, if_neg fun both => same both.2, stringAt_cons limit offset zero]
          simp [same]

end Strings

/-! ## Primitive programs -/

section Programs

variable (kind : AccessKind) (region : Region)

def loadNat : Traced Nat := fun memory => ⟨natAt memory region, memory, [⟨kind, region⟩]⟩

/-- The bytes of a region, by their index in it. -/
def loadBytes : Traced (Nat → UInt8) := fun memory =>
  ⟨fun index => memory (region.offset + index), memory, [⟨kind, region⟩]⟩

def storeBytes (bytes : Nat → UInt8) : Traced Unit := fun memory =>
  ⟨(), store memory region bytes, [⟨.write, region⟩]⟩

def storeNat (value : Nat) : Traced Unit := storeBytes region (leBytes value)

def zeroMemory : Traced Unit := storeBytes region fun _ => 0

/-- The bits of the mask get a new value, the others of the byte stay. -/
def storeBits (place : Nat) (mask value : UInt8) : Traced Unit := do
  let found ← loadBytes .read ⟨place, 1⟩
  storeBytes ⟨place, 1⟩ fun _ => found 0 &&& ~~~mask ||| value

variable (width : Nat) (offset : Nat)

/-- The units of a terminated string.  Without a terminator among the first
`limit` units the access passes them. -/
def loadString (limit : Nat) : Traced (List Nat) := fun memory =>
  ⟨stringAt memory width limit offset, memory,
    [⟨kind, ⟨offset, (terminatedLength memory width limit offset + 1) * width⟩⟩]⟩

/-- Compares the string in memory with another one and stops at the first
difference. -/
def compareString (fold : Nat → Nat) (units : List Nat) : Traced Bool := fun memory =>
  let length := matchLength memory width fold offset units
  ⟨decide (length = units.length ∧ natAt memory ⟨offset + length * width, width⟩ = 0), memory,
    [⟨kind, ⟨offset, (length + 1) * width⟩⟩]⟩

end Programs

theorem compareString_value {kind : AccessKind} {width offset : Nat} {fold : Nat → Nat}
    {units : List Nat} (memory : Memory) (limit : Nat) (short : units.length < limit) :
    (compareString kind width offset fold units memory).value =
      decide ((stringAt memory width limit offset).map fold = units.map fold) :=
  decide_eq_decide.mpr (matchLength_all_iff fold units limit offset short)

/-! ## Results -/

section Results

variable {α β : Type} (program : Traced α) (next : α → Traced β) (memory : Memory)

theorem bind_value : ((program >>= next) memory).value =
    (next (program memory).value (program memory).memory).value := (rfl)

theorem bind_memory : ((program >>= next) memory).memory =
    (next (program memory).value (program memory).memory).memory := (rfl)

/-- The outcome of the first part is named, so that nothing unfolds it. -/
theorem bind_value_of {program memory} {first : Outcome α} (ran : program memory = first) :
    ((program >>= next) memory).value = (next first.value first.memory).value := by
  rw [← ran]
  rfl

theorem pure_value (value : α) : ((pure value : Traced α) memory).value = value := (rfl)

theorem pure_memory (value : α) : ((pure value : Traced α) memory).memory = memory := (rfl)

variable (kind : AccessKind) (region : Region)

theorem loadNat_value : (loadNat kind region memory).value = natAt memory region := (rfl)

theorem loadNat_memory : (loadNat kind region memory).memory = memory := (rfl)

theorem loadBytes_value :
    (loadBytes kind region memory).value = fromOffset memory region.offset := (rfl)

theorem storeBytes_memory (bytes : Nat → UInt8) :
    (storeBytes region bytes memory).memory = store memory region bytes := (rfl)

theorem storeNat_memory (value : Nat) :
    (storeNat region value memory).memory = store memory region (leBytes value) := (rfl)

theorem zeroMemory_memory : (zeroMemory region memory).memory = store memory region fun _ => 0 :=
  (rfl)

theorem storeBits_memory (place : Nat) (mask value : UInt8) :
    (storeBits place mask value memory).memory =
      store memory ⟨place, 1⟩ fun _ => memory place &&& ~~~mask ||| value := (rfl)

theorem loadString_value (width limit offset : Nat) :
    (loadString kind width offset limit memory).value = stringAt memory width limit offset :=
  (rfl)

theorem loadString_memory (width limit offset : Nat) :
    (loadString kind width offset limit memory).memory = memory := (rfl)

end Results

/-- The program leaves every memory as it is. -/
def ReadOnly {α : Type} (program : Traced α) : Prop := ∀ memory, (program memory).memory = memory

theorem ReadOnly.pure {α : Type} (value : α) : ReadOnly (Pure.pure value) := fun _ => rfl

theorem ReadOnly.bind {α β : Type} {program : Traced α} {next : α → Traced β}
    (first : ReadOnly program) (second : ∀ value, ReadOnly (next value)) :
    ReadOnly (program >>= next) := by
  intro memory
  rw [bind_memory, second, first]

theorem ReadOnly.ite {α : Type} {condition : Prop} [Decidable condition] {yes no : Traced α}
    (first : ReadOnly yes) (second : ReadOnly no) :
    ReadOnly (if condition then yes else no) := by
  split
  · exact first
  · exact second

theorem ReadOnly.compareString {kind : AccessKind} {width offset : Nat} {fold : Nat → Nat}
    {units : List Nat} : ReadOnly (compareString kind width offset fold units) := fun _ => rfl

/-! ## Triples -/

/-- Every access of the run from this memory has the property. -/
def Accesses {α : Type} (allowed : Access → Prop) (program : Traced α) (memory : Memory) : Prop :=
  ∀ access ∈ (program memory).accesses, allowed access

/-- From a memory with `pre`, the program makes allowed accesses only and ends with
`post`. -/
def Triple {α : Type} (allowed : Access → Prop) (pre : Memory → Prop) (program : Traced α)
    (post : α → Memory → Prop) : Prop :=
  ∀ memory, pre memory →
    Accesses allowed program memory ∧ post (program memory).value (program memory).memory

/-- The program makes allowed accesses only and keeps the invariant. -/
def Keeps {α : Type} (allowed : Access → Prop) (inv : Memory → Prop) (program : Traced α) : Prop :=
  Triple allowed inv program fun _ => inv

section Rules

variable {α β : Type} {allowed : Access → Prop} {pre : Memory → Prop} {inv : Memory → Prop}

theorem Triple.pure {value : α} {post : α → Memory → Prop}
    (holds : ∀ memory, pre memory → post value memory) :
    Triple allowed pre (Pure.pure value) post :=
  fun memory before => ⟨fun _ member => absurd member List.not_mem_nil, holds memory before⟩

theorem Triple.bind {program : Traced α} {next : α → Traced β} {post : β → Memory → Prop}
    (middle : α → Memory → Prop) (first : Triple allowed pre program middle)
    (second : ∀ value, Triple allowed (middle value) (next value) post) :
    Triple allowed pre (program >>= next) post := by
  intro memory before
  obtain ⟨firstAllowed, between⟩ := first memory before
  obtain ⟨secondAllowed, after⟩ := second _ _ between
  exact ⟨List.forall_mem_append.mpr ⟨firstAllowed, secondAllowed⟩, after⟩

theorem Triple.map {program : Traced α} {change : α → β} {post : β → Memory → Prop}
    (holds : Triple allowed pre program fun value => post (change value)) :
    Triple allowed pre (change <$> program) post :=
  Triple.bind _ holds fun _ => Triple.pure fun _ after => after

theorem Triple.weaken {program : Traced α} {strong : Memory → Prop}
    {post weak : α → Memory → Prop} (holds : Triple allowed pre program post)
    (before : ∀ memory, strong memory → pre memory)
    (after : ∀ value memory, post value memory → weak value memory) :
    Triple allowed strong program weak := by
  intro memory starts
  obtain ⟨accessed, ends⟩ := holds memory (before memory starts)
  exact ⟨accessed, after _ _ ends⟩

/-- A fact that does not depend on the memory is at hand for the whole program. -/
theorem Triple.assume {program : Traced α} {post : α → Memory → Prop} {fact : Prop}
    (holds : fact → Triple allowed pre program post) :
    Triple allowed (fun memory => pre memory ∧ fact) program post :=
  fun memory both => holds both.2 memory both.1

/-- The number a region holds at the start can be named. -/
theorem Triple.start {program : Traced α} {post : α → Memory → Prop} (region : Region)
    (holds : ∀ number, Triple allowed (fun memory => pre memory ∧ natAt memory region = number)
      program post) : Triple allowed pre program post :=
  fun memory before => holds (natAt memory region) memory ⟨before, rfl⟩

/-- The rest of a program may use what a kept invariant says. -/
theorem Keeps.bind {program : Traced α} {next : α → Traced β} {post : β → Memory → Prop}
    (first : Keeps allowed inv program) (second : ∀ value, Triple allowed inv (next value) post) :
    Triple allowed inv (program >>= next) post :=
  Triple.bind _ first second

theorem Keeps.pure (value : α) : Keeps allowed inv (Pure.pure value) :=
  Triple.pure fun _ holds => holds

theorem Triple.ite {condition : Prop} [Decidable condition] {yes no : Traced α}
    {post : α → Memory → Prop} (first : condition → Triple allowed pre yes post)
    (second : ¬ condition → Triple allowed pre no post) :
    Triple allowed pre (if condition then yes else no) post := by
  split
  · exact first ‹_›
  · exact second ‹_›

variable {kind : AccessKind} {region : Region}

theorem Triple.loadNat (accessed : allowed ⟨kind, region⟩) :
    Triple allowed inv (loadNat kind region) fun value memory =>
      inv memory ∧ value = natAt memory region :=
  fun _ holds => ⟨List.forall_mem_singleton.mpr accessed, holds, rfl⟩

theorem Keeps.loadNat (accessed : allowed ⟨kind, region⟩) :
    Keeps allowed inv (loadNat kind region) :=
  fun _ holds => ⟨List.forall_mem_singleton.mpr accessed, holds⟩

theorem Keeps.loadBytes (accessed : allowed ⟨kind, region⟩) :
    Keeps allowed inv (loadBytes kind region) :=
  fun _ holds => ⟨List.forall_mem_singleton.mpr accessed, holds⟩

theorem Triple.storeBytes {bytes : Nat → UInt8} {post : Unit → Memory → Prop}
    (accessed : allowed ⟨.write, region⟩)
    (stored : ∀ memory, pre memory → post () (store memory region bytes)) :
    Triple allowed pre (storeBytes region bytes) post :=
  fun memory holds => ⟨List.forall_mem_singleton.mpr accessed, stored memory holds⟩

theorem Triple.storeNat {value : Nat} {post : Unit → Memory → Prop}
    (accessed : allowed ⟨.write, region⟩)
    (stored : ∀ memory, pre memory → post () (store memory region (leBytes value))) :
    Triple allowed pre (storeNat region value) post :=
  Triple.storeBytes accessed stored

theorem Keeps.storeBytes {bytes : Nat → UInt8} (accessed : allowed ⟨.write, region⟩)
    (stable : ∀ memory, inv memory → inv (store memory region bytes)) :
    Keeps allowed inv (storeBytes region bytes) :=
  Triple.storeBytes accessed stable

theorem Keeps.storeNat {value : Nat} (accessed : allowed ⟨.write, region⟩)
    (stable : ∀ memory, inv memory → inv (store memory region (leBytes value))) :
    Keeps allowed inv (storeNat region value) :=
  Triple.storeBytes accessed stable

theorem Keeps.zeroMemory (accessed : allowed ⟨.write, region⟩)
    (stable : ∀ memory, inv memory → inv (store memory region fun _ => 0)) :
    Keeps allowed inv (zeroMemory region) :=
  Triple.storeBytes accessed stable

theorem Keeps.storeBits {place : Nat} {mask value : UInt8} (loaded : allowed ⟨.read, ⟨place, 1⟩⟩)
    (stored : allowed ⟨.write, ⟨place, 1⟩⟩)
    (stable : ∀ memory bytes, inv memory → inv (store memory ⟨place, 1⟩ bytes)) :
    Keeps allowed inv (storeBits place mask value) :=
  Keeps.bind (Keeps.loadBytes loaded) fun _ =>
    Keeps.storeBytes stored fun memory => stable memory _

/-- A string that is terminated by the unit at `index` is read up to there. -/
theorem Keeps.loadString {width offset limit : Nat} (index : Nat)
    (terminated : ∀ memory, inv memory → natAt memory ⟨offset + index * width, width⟩ = 0)
    (accessed : ∀ length, length ≤ (index + 1) * width → allowed ⟨kind, ⟨offset, length⟩⟩) :
    Keeps allowed inv (loadString kind width offset limit) := by
  intro memory holds
  have short := terminatedLength_le limit offset index (terminated memory holds)
  exact ⟨List.forall_mem_singleton.mpr
    (accessed _ (Nat.mul_le_mul_right width (Nat.succ_le_succ short))), holds⟩

theorem Keeps.compareString {width offset : Nat} {fold : Nat → Nat} {units : List Nat}
    (index : Nat)
    (terminated : ∀ memory, inv memory → natAt memory ⟨offset + index * width, width⟩ = 0)
    (accessed : ∀ length, length ≤ (index + 1) * width → allowed ⟨kind, ⟨offset, length⟩⟩) :
    Keeps allowed inv (compareString kind width offset fold units) := by
  intro memory holds
  have short := matchLength_le fold units offset index (terminated memory holds)
  exact ⟨List.forall_mem_singleton.mpr
    (accessed _ (Nat.mul_le_mul_right width (Nat.succ_le_succ short))), holds⟩

end Rules

end TracedBuffer
