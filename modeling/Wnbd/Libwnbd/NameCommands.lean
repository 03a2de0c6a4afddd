import Wnbd.Ioctl.Commands

/-!
# Names in commands

How libwnbd puts an instance name into a command and what the driver makes of it
there.  `STRING_OVERFLOWS` measures the string behind its first character.
`name_marshalling_iff` gives the lengths at which the client and the driver agree;
the name the driver takes is the one its lookup compares with
(`wnbdFindDeviceByInstanceName_value`).
-/

set_option autoImplicit false

namespace Wnbd.Libwnbd

open CLayout CLayout.Region TracedBuffer Wnbd.Ioctl Wnbd.Scsi

/-! ## Strings of the caller -/

structure ClientString where
  memory : Memory
  length : Nat
  nonzero : ∀ index, index < length → memory index ≠ 0
  terminated : memory length = 0

def ClientString.chars (name : ClientString) : List Nat :=
  (List.range name.length).map fun index => (name.memory index).toNat

/-- `strlen(Str + 1) > MaxLen`, for which the first `MaxLen + 1` bytes are enough. -/
def stringOverflows (memory : Memory) (offset maxLen : Nat) : Bool :=
  terminatedLength memory byte.size (maxLen + 1) (offset + 1) > maxLen

/-! ## The client -/

def ioctlWnbdRemove : Nat := 3
def ioctlWnbdStats : Nat := 7
def ioctlWnbdShow : Nat := 10

def copyName (field : Region) (name : ClientString) : Traced Unit :=
  storeBytes ⟨field.offset, name.length⟩ name.memory

def removeCommandField (index : Nat) : Region :=
  (whole wnbdIoctlRemoveCommand).field wnbdIoctlRemoveCommandFields index

def nameCommandField (index : Nat) : Region :=
  (whole wnbdIoctlShowCommand).field wnbdIoctlNameCommandFields index

def storeOptions : Option (Nat → UInt8) → Traced Unit
  | none => pure ()
  | some options => storeBytes (removeCommandField 2) options

/-- The command on the stack of the client, and whether it is sent. -/
def wnbdIoctlRemove (name : ClientString) (removeOptions : Option (Nat → UInt8)) : Traced Bool :=
  if stringOverflows name.memory 0 wnbdMaxNameLength then pure false
  else do
    zeroMemory (whole wnbdIoctlRemoveCommand)
    storeNat (removeCommandField 0) ioctlWnbdRemove
    storeOptions removeOptions
    copyName removeCommandName name
    pure true

/-- `WnbdIoctlShow` and `WnbdIoctlStats` check nothing. -/
def sendNameCommand (ioControlCode : Nat) (name : ClientString) : Traced Bool := do
  zeroMemory (whole wnbdIoctlShowCommand)
  storeNat (nameCommandField 0) ioControlCode
  copyName nameCommandName name
  pure true

def wnbdIoctlShow (name : ClientString) : Traced Bool := sendNameCommand ioctlWnbdShow name

def wnbdIoctlStats (name : ClientString) : Traced Bool := sendNameCommand ioctlWnbdStats name

def stringFields : List Region :=
  [propertiesField 0, propertiesField 1, propertiesField 2, nbdPropertiesField 0,
    nbdPropertiesField 2]

/-- `WnbdIoctlCreate` refuses the property block at the start of the memory. -/
def wnbdIoctlCreateRefuses (memory : Memory) : Bool :=
  stringFields.any fun field => stringOverflows memory field.offset field.length

/-! ## The driver -/

def driverName (field : Region) (command : Memory) : List Nat :=
  (terminateName field command).value

/-- What a handler finds is the first device with the name that it has taken. -/
theorem wnbdFindDeviceByInstanceName_value (offset : Nat) (memory : Memory)
    (devices : List ListedDevice)
    (short : ∀ device ∈ devices, device.instanceName.length < wnbdMaxNameLength) :
    (wnbdFindDeviceByInstanceName offset devices memory).value =
      (devices.find? fun device => decide (stringAt memory byte.size wnbdMaxNameLength offset =
        device.instanceName)).filter (·.acquired) := by
  induction devices with
  | nil => rfl
  | cons device rest hypothesis =>
      have compared : (compareString .take byte.size offset id device.instanceName memory).value =
          decide (stringAt memory byte.size wnbdMaxNameLength offset = device.instanceName) := by
        rw [compareString_value memory wnbdMaxNameLength (short device List.mem_cons_self),
          List.map_id, List.map_id]
      have others := hypothesis fun other member => short other (List.mem_cons_of_mem _ member)
      rw [wnbdFindDeviceByInstanceName, bind_value, compared, List.find?_cons]
      cases decide (stringAt memory byte.size wnbdMaxNameLength offset =
          device.instanceName) with
      | true =>
          cases acquired : device.acquired with
          | true => simp [acquired, pure_value, Option.filter]
          | false => simp [acquired, pure_value, Option.filter]
      | false => exact others

/-! ## Exact names -/

/-- The command holds the name in its field, and the driver takes the same name out. -/
structure NamesExactly (field : Region) (others : List Region) (name : ClientString)
    (sent : Outcome Bool) : Prop where
  contained : ∀ access ∈ sent.accesses, access.kind = .write →
    access.region ∈ others ∨ Inside access.region field
  named : driverName field sent.memory = name.chars

/-- Nothing is sent, or a command with the exact name; `others` are the stores that do
not come from the name. -/
def Marshals (field : Region) (others : List Region) (name : ClientString)
    (sent : Outcome Bool) : Prop :=
  sent.value = true → NamesExactly field others name sent

def Unterminated (memory : Memory) (field : Region) : Prop :=
  ∀ index, index < field.length → memory (field.offset + index) ≠ 0

section Lengths

variable (name : ClientString)

theorem ClientString.chars_length : name.chars.length = name.length := by
  rw [chars, List.length_map, List.length_range]

theorem ClientString.chars_nonzero : ∀ unit ∈ name.chars, unit ≠ 0 := by
  intro unit member
  obtain ⟨index, inRange, rfl⟩ := List.mem_map.mp member
  intro zero
  exact name.nonzero index (List.mem_range.mp inRange) (UInt8.toNat_inj.mp zero)

theorem stringOverflows_iff (memory : Memory) (offset maxLen : Nat) :
    stringOverflows memory offset maxLen = true ↔
      ∀ index, index ≤ maxLen → memory (offset + 1 + index) ≠ 0 := by
  have unit : byte.size = 1 := rfl
  have unitAt : ∀ index, natAt memory ⟨offset + 1 + index * byte.size, byte.size⟩ = 0 ↔
      memory (offset + 1 + index) = 0 := by
    intro index
    rw [unit, Nat.mul_one, natAt_byte, ← UInt8.toNat_inj]
    rfl
  rw [stringOverflows, decide_eq_true_iff]
  constructor
  · intro long index bound zero
    have short := terminatedLength_le (maxLen + 1) (offset + 1) index ((unitAt index).mpr zero)
    omega
  · intro nonzero
    by_contra notLong
    have short := Nat.not_lt.mp notLong
    have zero := terminatedLength_zero (maxLen + 1) (offset + 1) (Nat.lt_succ_of_le short)
    exact nonzero _ short ((unitAt _).mp zero)

/-- The check compares the length less one with the size of the array. -/
theorem ClientString.overflows_iff (positive : 0 < name.length) :
    stringOverflows name.memory 0 wnbdMaxNameLength = true ↔
      wnbdMaxNameLength + 1 < name.length := by
  rw [stringOverflows_iff]
  constructor
  · intro nonzero
    by_contra short
    refine nonzero (name.length - 1) (by omega) ?_
    rw [Nat.zero_add, Nat.add_sub_cancel' positive]
    exact name.terminated
  · intro long index bound
    exact name.nonzero _ (by omega)

end Lengths

/-! ## Names that fit -/

section Copies

variable {field : Region} {name : ClientString}

/-- The driver's name is the string up to the terminator that it sets. -/
theorem driverName_eq (sized : field.length = wnbdMaxNameLength) (command : Memory) :
    driverName field command =
      stringAt (store command ⟨field.offset + 255, 1⟩ (leBytes 0)) byte.size wnbdMaxNameLength
        field.offset := by
  rw [driverName, terminateName, bind_value, loadString_value, storeNat_memory, sized, lastByte,
    sized]
  rfl

theorem driverName_length (field : Region) (sized : field.length = wnbdMaxNameLength)
    (command : Memory) :
    (driverName field command).length ≤ 255 := by
  have last : natAt (store command ⟨field.offset + 255, 1⟩ (leBytes 0))
      ⟨field.offset + 255 * byte.size, byte.size⟩ = 0 :=
    natAt_store command ⟨field.offset + 255, 1⟩ 0
  rw [driverName_eq sized, stringAt, List.length_map, List.length_range]
  exact terminatedLength_le _ _ 255 last

theorem driverName_of_copied (sized : field.length = wnbdMaxNameLength) (before : Memory)
    (short : name.length ≤ 255)
    (zeroed : ∀ index, index < wnbdMaxNameLength → before (field.offset + index) = 0) :
    driverName field (store before ⟨field.offset, name.length⟩ name.memory) = name.chars := by
  have unit : byte.size = 1 := rfl
  -- The driver's terminator goes where the client left a zero.
  have placed : ∀ index, index < wnbdMaxNameLength →
      store (store before ⟨field.offset, name.length⟩ name.memory) ⟨field.offset + 255, 1⟩
        (leBytes 0) (field.offset + index) =
      if index < name.length then name.memory index else 0 := by
    intro index bound
    by_cases last : index = 255
    · rw [last, if_neg (by omega)]
      exact (store_within _ (field.offset + 255) 1 (leBytes 0) 0).trans rfl
    · rw [store, if_neg (by simp only [Region.stop]; omega), store_within]
      split
      case isTrue => rfl
      case isFalse => exact zeroed index bound
  have whole : wnbdMaxNameLength = name.chars.length + (wnbdMaxNameLength - name.length) := by
    rw [name.chars_length, wnbdMaxNameLength]
    omega
  rw [driverName_eq sized, whole, stringAt_append name.chars _ _ ?_ name.chars_nonzero,
    stringAt_of_zero, List.append_nil]
  · rw [unit, Nat.mul_one, natAt_byte, name.chars_length, placed _ (by
      rw [wnbdMaxNameLength]
      omega), if_neg (Nat.lt_irrefl _)]
    rfl
  · intro index bound
    rw [name.chars_length] at bound
    rw [unit, Nat.mul_one, natAt_byte, placed _ (by
      rw [wnbdMaxNameLength]
      omega), if_pos bound]
    simp only [ClientString.chars, List.getElem_map, List.getElem_range]

def Cleared (memory : Memory) (field : Region) : Prop :=
  ∀ index, index < field.length → memory (field.offset + index) = 0

theorem cleared_zeroMemory (memory : Memory) (outer : Region) (inside : Inside field outer) :
    Cleared (store memory outer fun _ => 0) field := by
  intro index bound
  rw [store, if_pos]
  simp only [Inside, Region.stop] at inside ⊢
  omega

theorem Cleared.store {memory : Memory} (cleared : Cleared memory field) (written : Region)
    (bytes : Nat → UInt8) (apart : written.stop ≤ field.offset ∨ field.stop ≤ written.offset) :
    Cleared (store memory written bytes) field := by
  intro index bound
  rw [TracedBuffer.store, if_neg]
  · exact cleared index bound
  · simp only [Region.stop] at apart ⊢
    omega

/-- The copy into a cleared field is exact, whatever was stored before. -/
theorem namesExactly_of_copied (sized : field.length = wnbdMaxNameLength) {others : List Region}
    {sent : Outcome Bool} (before : Memory) (header : List Access)
    (memory : sent.memory = store before ⟨field.offset, name.length⟩ name.memory)
    (accesses : sent.accesses = header ++ [⟨.write, ⟨field.offset, name.length⟩⟩])
    (known : ∀ access ∈ header, access.region ∈ others)
    (cleared : Cleared before field) (short : name.length ≤ 255) :
    NamesExactly field others name sent where
  contained := by
    intro access member _
    rw [accesses, List.mem_append, List.mem_singleton] at member
    rcases member with stored | rfl
    · exact Or.inl (known access stored)
    · refine Or.inr ⟨Nat.le_refl _, ?_⟩
      have fits : name.length ≤ field.length := by
        rw [sized, wnbdMaxNameLength]
        omega
      exact Nat.add_le_add_left fits _
  named := by
    rw [memory]
    exact driverName_of_copied sized before short fun index bound =>
      cleared index (sized ▸ bound)

end Copies

/-! ## The three commands -/

section Commands

variable (name : ClientString) (memory : Memory)

/-- The stores of a name command that do not come from the name. -/
def nameCommandStores : List Region := [whole wnbdIoctlShowCommand, nameCommandField 0]

def removeCommandStores : List Region :=
  [whole wnbdIoctlRemoveCommand, removeCommandField 0, removeCommandField 2]

theorem sendNameCommand_marshals_iff (ioControlCode : Nat) :
    Marshals nameCommandName nameCommandStores name (sendNameCommand ioControlCode name memory) ↔
      name.length ≤ 255 := by
  constructor
  · intro marshals
    have exact := marshals rfl
    have fits := driverName_length nameCommandName rfl
      (sendNameCommand ioControlCode name memory).memory
    rwa [exact.named, name.chars_length] at fits
  · intro short _
    have inside : Inside nameCommandName (whole wnbdIoctlShowCommand) := by decide
    have cleared := (cleared_zeroMemory memory _ inside).store (nameCommandField 0)
      (leBytes ioControlCode) (Or.inl (by decide))
    refine namesExactly_of_copied rfl _ [⟨.write, whole wnbdIoctlShowCommand⟩,
      ⟨.write, nameCommandField 0⟩] ?_ rfl ?_ cleared short
    · simp only [sendNameCommand, bind_memory, pure_memory, zeroMemory_memory, storeNat_memory,
        copyName, storeBytes_memory]
    · simp [nameCommandStores]

theorem wnbdIoctlRemove_value (removeOptions : Option (Nat → UInt8)) :
    (wnbdIoctlRemove name removeOptions memory).value = true ↔
      stringOverflows name.memory 0 wnbdMaxNameLength = false := by
  rw [wnbdIoctlRemove]
  split
  case isTrue long => simp [pure_value, long]
  case isFalse passes => simp [bind_value, pure_value, passes]

theorem wnbdIoctlRemove_exact (removeOptions : Option (Nat → UInt8))
    (passes : stringOverflows name.memory 0 wnbdMaxNameLength = false)
    (short : name.length ≤ 255) :
    NamesExactly removeCommandName removeCommandStores name
      (wnbdIoctlRemove name removeOptions memory) := by
  have inside : Inside removeCommandName (whole wnbdIoctlRemoveCommand) := by decide
  have coded := (cleared_zeroMemory memory _ inside).store (removeCommandField 0)
    (leBytes ioctlWnbdRemove) (Or.inl (by decide))
  have sends : ¬ stringOverflows name.memory 0 wnbdMaxNameLength = true := by
    rw [passes]
    exact Bool.false_ne_true
  rw [wnbdIoctlRemove, if_neg sends]
  cases removeOptions with
  | none =>
      refine namesExactly_of_copied rfl _ [⟨.write, whole wnbdIoctlRemoveCommand⟩,
        ⟨.write, removeCommandField 0⟩] ?_ rfl ?_ coded short
      · simp only [bind_memory, pure_memory, zeroMemory_memory, storeNat_memory, storeOptions,
          copyName, storeBytes_memory]
      · simp [removeCommandStores]
  | some options =>
      -- The options lie behind the name.
      have cleared := coded.store (removeCommandField 2) options (Or.inr (by decide))
      refine namesExactly_of_copied rfl _ [⟨.write, whole wnbdIoctlRemoveCommand⟩,
        ⟨.write, removeCommandField 0⟩, ⟨.write, removeCommandField 2⟩] ?_ rfl ?_ cleared short
      · simp only [bind_memory, pure_memory, zeroMemory_memory, storeNat_memory, storeOptions,
          copyName, storeBytes_memory]
      · simp [removeCommandStores]

theorem wnbdIoctlRemove_marshals_iff (removeOptions : Option (Nat → UInt8)) :
    Marshals removeCommandName removeCommandStores name
        (wnbdIoctlRemove name removeOptions memory) ↔
      name.length ≤ 255 ∨ 258 ≤ name.length := by
  rw [Marshals, wnbdIoctlRemove_value]
  constructor
  · intro marshals
    by_contra between
    have passes : stringOverflows name.memory 0 wnbdMaxNameLength = false := by
      rw [← Bool.not_eq_true, name.overflows_iff (by omega), wnbdMaxNameLength]
      omega
    have fits := driverName_length removeCommandName rfl
      (wnbdIoctlRemove name removeOptions memory).memory
    rw [(marshals passes).named, name.chars_length] at fits
    exact between (Or.inl fits)
  · rintro (short | long) passes
    · exact wnbdIoctlRemove_exact name memory removeOptions passes short
    · have refused := (name.overflows_iff (by omega)).mpr long
      rw [refused] at passes
      exact absurd passes (by decide)

/-- A block is refused when a field goes on for its whole length behind its first byte. -/
theorem wnbdIoctlCreateRefuses_iff :
    wnbdIoctlCreateRefuses memory = true ↔ ∃ field ∈ stringFields, ∀ index, index ≤ field.length →
      memory (field.offset + 1 + index) ≠ 0 := by
  simp only [wnbdIoctlCreateRefuses, List.any_eq_true, stringOverflows_iff]

end Commands

/-- Remove is exact but for 256 and 257 characters, Show and Stats up to 255.  Create takes
a block when every field has a zero byte behind its first one, up to one past its end. -/
theorem name_marshalling_iff (name : ClientString) (memory : Memory)
    (removeOptions : Option (Nat → UInt8)) :
    (Marshals removeCommandName removeCommandStores name
        (wnbdIoctlRemove name removeOptions memory) ↔
      name.length ≤ 255 ∨ 258 ≤ name.length) ∧
    (Marshals nameCommandName nameCommandStores name (wnbdIoctlShow name memory) ↔
      name.length ≤ 255) ∧
    (Marshals nameCommandName nameCommandStores name (wnbdIoctlStats name memory) ↔
      name.length ≤ 255) ∧
    (((∃ field ∈ stringFields, Unterminated memory field) →
        wnbdIoctlCreateRefuses memory = true) ↔
      (∀ field ∈ stringFields, ∃ index, index < field.length ∧
        memory (field.offset + index) = 0) ∨
      ∃ field ∈ stringFields, ∀ index, index ≤ field.length →
        memory (field.offset + 1 + index) ≠ 0) := by
  refine ⟨wnbdIoctlRemove_marshals_iff name memory removeOptions,
    sendNameCommand_marshals_iff name memory ioctlWnbdShow,
    sendNameCommand_marshals_iff name memory ioctlWnbdStats, ?_⟩
  rw [wnbdIoctlCreateRefuses_iff, imp_iff_not_or]
  simp only [Unterminated, not_exists, not_and, not_forall, not_not, exists_prop]

def fullName : ClientString where
  memory := fun index => if index < 256 then 0x61 else 0
  length := 256
  nonzero := by
    intro index bound
    rw [if_pos bound]
    decide
  terminated := by
    rw [if_neg (Nat.lt_irrefl 256)]

/-- The driver looks up a name of 255 letters. -/
theorem fullName_cut :
    (wnbdIoctlRemove fullName none fun _ => 0).value = true ∧
      driverName removeCommandName (wnbdIoctlRemove fullName none fun _ => 0).memory ≠
        fullName.chars := by
  constructor
  · rw [wnbdIoctlRemove_value, ← Bool.not_eq_true, fullName.overflows_iff (by decide)]
    decide
  · intro named
    have fits := driverName_length removeCommandName rfl
      (wnbdIoctlRemove fullName none fun _ => 0).memory
    rw [named, fullName.chars_length] at fits
    exact absurd fits (by decide)

end Wnbd.Libwnbd
