import Wnbd.Ioctl.Accesses

/-!
# Option values

What the driver makes of an option value: the meaning of its bytes, the table of
known options, the search for a name, and `WnbdProcessOptionValue`, which leaves
a value of the option's type behind whenever it accepts one.
-/

set_option autoImplicit false

namespace Wnbd.Ioctl

open CLayout CLayout.Region TracedBuffer Wnbd.Scsi

/-! ## What a value says -/

def OptionValue.type (value : OptionValue) : Nat := natAt value (valueType (whole wnbdOptionValue))

def OptionValue.asBool (value : OptionValue) : Nat :=
  natAt value (valueAsBool (whole wnbdOptionValue))

def OptionValue.asInt64 (value : OptionValue) : Nat :=
  natAt value (valueAsInt64 (whole wnbdOptionValue))

/-- The value at a region. -/
def valueAt (memory : Memory) (value : Region) : OptionValue := fromOffset memory value.offset

/-- The value is of the type and is what a reader makes of the number. -/
structure Carries (type : WnbdOptValType) (number : Nat) (value : OptionValue) : Prop where
  typed : value.type = type.code
  bool : type = .bool → (value.asBool ≠ 0 ↔ number ≠ 0)
  int64 : type = .int64 → value.asInt64 = number

theorem OptionValue.asInt64_ne_zero (value : OptionValue) (set : value.asBool ≠ 0) :
    value.asInt64 ≠ 0 := by
  intro zero
  refine set ((natAt_eq_zero _ _).mpr fun index bound => (natAt_eq_zero _ _).mp zero index ?_)
  exact Nat.lt_of_lt_of_le bound (by decide)

theorem typedValue_type (type : WnbdOptValType) (data : Region → Region) (number : Nat)
    (apart : (valueType (whole wnbdOptionValue)).stop ≤ (data (whole wnbdOptionValue)).offset) :
    OptionValue.type (typedValue type data number) = type.code := by
  rw [OptionValue.type, typedValue, natAt_store_of_disjoint _ _ _ _ (Or.inl apart), natAt_store]
  cases type <;> rfl

theorem boolValue_carries (truth : Bool) :
    Carries .bool (OptionValue.asInt64 (boolValue truth)) (boolValue truth) := by
  refine ⟨typedValue_type .bool valueAsBool _ (by decide), fun _ => ?_, fun isInt64 => ?_⟩
  · cases truth <;> decide +kernel
  · cases isInt64

theorem int64Value_carries (number : Nat) :
    Carries .int64 (OptionValue.asInt64 (int64Value number)) (int64Value number) := by
  refine ⟨typedValue_type .int64 valueAsInt64 _ (by decide), fun isBool => ?_, fun _ => rfl⟩
  cases isBool

/-! ## The option table -/

/-- The table of the driver, whatever the values. -/
def KnownOptions (options : List WnbdOption) : Prop :=
  options.map (fun option => (option.name, option.type)) =
    wnbdDriverOptions.map fun option => (option.name, option.type)

section Known

variable {options : List WnbdOption} (known : KnownOptions options)

include known

/-- What holds of the names and types in the driver's table holds of the options. -/
theorem KnownOptions.row {option : WnbdOption} (member : option ∈ options) :
    (option.name, option.type) ∈ wnbdDriverOptions.map fun option => (option.name, option.type) := by
  rw [← known]
  exact List.mem_map_of_mem member

theorem KnownOptions.type_cases {option : WnbdOption} (member : option ∈ options) :
    option.type = .bool ∨ option.type = .int64 := by
  have table : ∀ row ∈ wnbdDriverOptions.map fun option => (option.name, option.type),
      row.2 = .bool ∨ row.2 = .int64 := by
    decide +kernel
  exact table _ (known.row member)

theorem KnownOptions.name_short {option : WnbdOption} (member : option ∈ options) :
    option.name.length < wnbdMaxNameLength := by
  have table : ∀ row ∈ wnbdDriverOptions.map fun option => (option.name, option.type),
      row.1.length < wnbdMaxNameLength := by
    decide +kernel
  exact table _ (known.row member)

/-- Two options of one name, upper case or lower, are the same option. -/
theorem KnownOptions.same {first second : WnbdOption} (firstMember : first ∈ options)
    (secondMember : second ∈ options) (same : sameName first.name second.name) :
    first.name = second.name ∧ first.type = second.type := by
  have table : ∀ row ∈ wnbdDriverOptions.map fun option => (option.name, option.type),
      ∀ other ∈ wnbdDriverOptions.map fun option => (option.name, option.type),
        sameName row.1 other.1 → row = other := by
    decide +kernel
  exact Prod.mk.inj (table _ (known.row firstMember) _ (known.row secondMember) same)

end Known

/-! ## Finding options -/

theorem sameName_iff (first second : List Nat) :
    sameName first second = true ↔ first.map foldCase = second.map foldCase := by
  rw [sameName, decide_eq_true_iff]

theorem sameName_of_found {options : List WnbdOption} {name : List Nat} {option : WnbdOption}
    (found : wnbdFindOpt options name = some option) : sameName name option.name := by
  rw [wnbdFindOpt] at found
  have passes := List.find?_some found
  exact passes

theorem mem_of_found {options : List WnbdOption} {name : List Nat} {option : WnbdOption}
    (found : wnbdFindOpt options name = some option) : option ∈ options :=
  List.mem_of_find?_eq_some found

theorem wnbdFindOpt_setValue (store : OptionStore) (option : WnbdOption) (value : OptionValue)
    (name : List Nat) :
    wnbdFindOpt (store.setValue option value).options name =
      (wnbdFindOpt store.options name).map fun found =>
        if found.name = option.name then { found with value } else found := by
  rw [wnbdFindOpt, OptionStore.setValue, List.find?_map]
  have sameTest : ((fun option => sameName name option.name) ∘ fun found : WnbdOption =>
      if found.name = option.name then { found with value } else found) =
      fun option => sameName name option.name := by
    funext found
    rw [Function.comp_apply]
    split
    · rfl
    · rfl
  rw [sameTest]
  rfl

theorem wnbdFindOptAt_readOnly (offset : Nat) (options : List WnbdOption) :
    ReadOnly (wnbdFindOptAt offset options) := by
  induction options with
  | nil => exact ReadOnly.pure none
  | cons option rest hypothesis =>
      refine ReadOnly.bind ReadOnly.compareString fun same => ?_
      exact ReadOnly.ite (ReadOnly.pure _) hypothesis

/-- The search in the system buffer finds what the search for its name finds. -/
theorem wnbdFindOptAt_value (offset : Nat) (memory : Memory) (options : List WnbdOption)
    (short : ∀ option ∈ options, option.name.length < wnbdMaxNameLength) :
    (wnbdFindOptAt offset options memory).value =
      wnbdFindOpt options (stringAt memory wchar.size wnbdMaxNameLength offset) := by
  induction options with
  | nil => rfl
  | cons option rest hypothesis =>
      have compared : (compareString .take wchar.size offset foldCase option.name memory).value =
          decide ((stringAt memory wchar.size wnbdMaxNameLength offset).map foldCase =
            option.name.map foldCase) :=
        compareString_value memory wnbdMaxNameLength (short option List.mem_cons_self)
      have others := hypothesis fun other member => short other (List.mem_cons_of_mem _ member)
      rw [wnbdFindOptAt, bind_value, compared, wnbdFindOpt, List.find?_cons, sameName]
      cases decide ((stringAt memory wchar.size wnbdMaxNameLength offset).map foldCase =
          option.name.map foldCase) with
      | true => rfl
      | false => exact others

/-! ## Processing a value -/

theorem isAnyWord_readOnly (offset : Nat) (words : List String) :
    ReadOnly (isAnyWord offset words) := by
  induction words with
  | nil => exact ReadOnly.pure false
  | cons word rest hypothesis =>
      refine ReadOnly.bind ReadOnly.compareString fun same => ?_
      exact ReadOnly.ite (ReadOnly.pure true) hypothesis

theorem wstrToBool_readOnly (offset : Nat) : ReadOnly (wstrToBool offset) := by
  refine ReadOnly.bind (isAnyWord_readOnly _ _) fun isTrue => ReadOnly.ite (ReadOnly.pure _) ?_
  refine ReadOnly.bind (isAnyWord_readOnly _ _) fun isFalse => ?_
  exact ReadOnly.ite (ReadOnly.pure _) (ReadOnly.pure _)

theorem convertWstr_readOnly (option : WnbdOption) (faults : OptionFaults) (value : Region) :
    ReadOnly (convertWstr option faults value) := by
  rw [convertWstr]
  cases option.type with
  | bool => exact ReadOnly.bind (wstrToBool_readOnly _) fun _ => ReadOnly.pure _
  | int64 => exact ReadOnly.pure _
  | wstr => exact ReadOnly.pure _
  | unknown => exact ReadOnly.pure _

/-- A converted string is a value that reads back as itself. -/
theorem convertWstr_carries (option : WnbdOption) (faults : OptionFaults) (value : Region)
    (memory : Memory) {bytes : OptionValue}
    (converted : (convertWstr option faults value memory).value = .ok bytes) :
    Carries option.type bytes.asInt64 bytes := by
  rw [convertWstr] at converted
  cases isType : option.type with
  | bool =>
      rw [isType] at converted
      simp only [bind_value, pure_value] at converted
      cases answer : (wstrToBool (valueData value).offset memory).value with
      | error status => simp [answer, Except.map] at converted
      | ok truth =>
          simp only [answer, Except.map, Except.ok.injEq] at converted
          rw [← converted]
          exact boolValue_carries truth
  | int64 =>
      rw [isType] at converted
      cases answer : faults.unicodeStringToInt64 with
      | error status => simp [answer, Except.map, pure_value] at converted
      | ok number =>
          simp only [answer, Except.map, pure_value, Except.ok.injEq] at converted
          rw [← converted]
          exact int64Value_carries number
  | wstr => simp [isType, pure_value] at converted
  | unknown => simp [isType, pure_value] at converted

/-- A conversion that fails has a status that says so. -/
def OptionFaults.Coherent (faults : OptionFaults) : Prop :=
  faults.unicodeStringToInt64 ≠ .error statusSuccess

theorem wstrToBool_failed (offset : Nat) (memory : Memory) {status : NtStatus}
    (failed : (wstrToBool offset memory).value = .error status) : status ≠ statusSuccess := by
  rw [wstrToBool, bind_value] at failed
  split at failed
  · cases failed
  · rw [bind_value] at failed
    split at failed
    · cases failed
    · cases failed
      decide

theorem convertWstr_failed (option : WnbdOption) (faults : OptionFaults)
    (coherent : faults.Coherent) (value : Region) (memory : Memory) {status : NtStatus}
    (failed : (convertWstr option faults value memory).value = .error status) :
    status ≠ statusSuccess := by
  rw [convertWstr] at failed
  cases isType : option.type with
  | bool =>
      simp only [isType, bind_value, pure_value] at failed
      cases answer : (wstrToBool (valueData value).offset memory).value with
      | error cause =>
          rw [answer] at failed
          cases failed
          exact wstrToBool_failed _ _ answer
      | ok truth =>
          rw [answer] at failed
          cases failed
  | int64 =>
      simp only [isType, pure_value] at failed
      cases answer : faults.unicodeStringToInt64 with
      | error cause =>
          rw [answer] at failed
          cases failed
          intro success
          exact coherent (answer.trans (congrArg Except.error success))
      | ok number =>
          rw [answer] at failed
          cases failed
  | wstr =>
      simp only [isType, pure_value] at failed
      cases failed
      decide
  | unknown =>
      simp only [isType, pure_value] at failed
      cases failed
      decide

/-- Memory outside the region is as it was. -/
def KeepsOutside (region : Region) (before after : Memory) : Prop :=
  ∀ offset, offset < region.offset ∨ region.stop ≤ offset → after offset = before offset

theorem KeepsOutside.store (memory : Memory) {region written : Region} (bytes : Nat → UInt8)
    (inside : Inside written region) : KeepsOutside region memory (store memory written bytes) := by
  intro offset outside
  rw [TracedBuffer.store, if_neg]
  simp only [Inside] at inside
  omega

theorem KeepsOutside.trans {region : Region} {before middle after : Memory}
    (first : KeepsOutside region before middle) (second : KeepsOutside region middle after) :
    KeepsOutside region before after := by
  intro offset outside
  rw [second offset outside, first offset outside]

/-- What an accepted value leaves behind: the value itself, or a converted string. -/
structure Processed (option : WnbdOption) (value : Region) (before after : Memory) : Prop where
  outside : KeepsOutside value before after
  typed : (valueAt after value).type = option.type.code
  kept : (valueAt before value).type = option.type.code → after = before
  converted : (valueAt before value).type ≠ option.type.code →
    Carries option.type (valueAt after value).asInt64 (valueAt after value)

theorem valueAt_type (memory : Memory) (value : Region) :
    (valueAt memory value).type = natAt memory (valueType value) := by
  rw [OptionValue.type, valueAt, natAt_fromOffset]
  rfl

theorem natAt_stored (memory : Memory) (value : Region) (bytes : OptionValue) (region : Region)
    (fits : region.stop ≤ value.length) :
    natAt (valueAt (store memory value bytes) value) region = natAt bytes region := by
  rw [valueAt, natAt_fromOffset, natAt_store_inside memory value bytes region fits]

theorem Carries.stored {type : WnbdOptValType} {bytes : OptionValue}
    (carries : Carries type bytes.asInt64 bytes) (memory : Memory) {value : Region}
    (sized : value.length = wnbdOptionValue.size) :
    Carries type (valueAt (store memory value bytes) value).asInt64
      (valueAt (store memory value bytes) value) := by
  have sameType : (valueAt (store memory value bytes) value).type = bytes.type :=
    natAt_stored memory value bytes _ (by rw [sized]; decide)
  have sameBool : (valueAt (store memory value bytes) value).asBool = bytes.asBool :=
    natAt_stored memory value bytes _ (by rw [sized]; decide)
  have sameInt64 : (valueAt (store memory value bytes) value).asInt64 = bytes.asInt64 :=
    natAt_stored memory value bytes _ (by rw [sized]; decide)
  refine ⟨?_, ?_, fun _ => rfl⟩
  · rw [sameType, carries.typed]
  · rw [sameBool, sameInt64]
    exact carries.bool

section Process

variable (option : WnbdOption) (faults : OptionFaults) (value : Region) (memory : Memory)

theorem wnbdProcessOptionValue_typed (notWstr : option.type ≠ .wstr)
    (typed : natAt memory (valueType value) = option.type.code) :
    (wnbdProcessOptionValue option faults value memory).memory = memory := by
  have other : option.type.code ≠ WnbdOptValType.wstr.code := by
    cases isType : option.type with
    | wstr => exact absurd isType notWstr
    | unknown => decide
    | bool => decide
    | int64 => decide
  simp only [wnbdProcessOptionValue, loadNat_value, loadNat_memory, bind_memory, terminateWstr, typed,
    other, if_false, if_true, pure_memory]

theorem wnbdProcessOptionValue_mismatch (other : natAt memory (valueType value) ≠ option.type.code)
    (notWstr : natAt memory (valueType value) ≠ WnbdOptValType.wstr.code) :
    (wnbdProcessOptionValue option faults value memory).value = statusObjectTypeMismatch := by
  simp only [wnbdProcessOptionValue, loadNat_value, loadNat_memory, bind_value, terminateWstr, other,
    notWstr, if_false, ne_eq, not_false_eq_true, if_true, pure_value]

/-- Memory with the string value terminated. -/
def terminatedWstr : Memory := store memory (valueLastWchar value) (leBytes 0)

variable (isWstr : natAt memory (valueType value) = WnbdOptValType.wstr.code)
  (other : WnbdOptValType.wstr.code ≠ option.type.code)

include isWstr other

theorem wnbdProcessOptionValue_failed {status : NtStatus}
    (answer : (convertWstr option faults value (terminatedWstr value memory)).value =
      .error status) :
    (wnbdProcessOptionValue option faults value memory).value = status := by
  simp only [wnbdProcessOptionValue, loadNat_value, loadNat_memory, bind_value, terminateWstr, isWstr,
    other, if_false, if_true, ne_eq, not_true_eq_false, storeNat_memory]
  rw [← terminatedWstr, answer, pure_value]

theorem wnbdProcessOptionValue_converted {bytes : OptionValue}
    (answer : (convertWstr option faults value (terminatedWstr value memory)).value = .ok bytes) :
    (wnbdProcessOptionValue option faults value memory).memory =
      store (terminatedWstr value memory) value bytes := by
  simp only [wnbdProcessOptionValue, loadNat_value, loadNat_memory, bind_memory, terminateWstr, isWstr,
    other, if_false, if_true, ne_eq, not_true_eq_false, storeNat_memory]
  rw [← terminatedWstr, answer]
  simp only [bind_memory, pure_memory, storeBytes_memory]
  rw [convertWstr_readOnly]

end Process

theorem wnbdProcessOptionValue_accepted (option : WnbdOption)
    (known : option.type = .bool ∨ option.type = .int64) (faults : OptionFaults)
    (coherent : faults.Coherent) (value : Region) (sized : value.length = wnbdOptionValue.size)
    (memory : Memory)
    (accepted : (wnbdProcessOptionValue option faults value memory).value = statusSuccess) :
    Processed option value memory (wnbdProcessOptionValue option faults value memory).memory := by
  have notWstr : option.type ≠ .wstr := by
    rcases known with isBool | isInt64
    · rw [isBool]
      decide
    · rw [isInt64]
      decide
  by_cases typed : natAt memory (valueType value) = option.type.code
  · rw [wnbdProcessOptionValue_typed option faults value memory notWstr typed]
    refine ⟨fun _ _ => rfl, ?_, fun _ => rfl, fun other => ?_⟩
    · rw [valueAt_type, typed]
    · exact absurd ((valueAt_type memory value).trans typed) other
  · by_cases isWstr : natAt memory (valueType value) = WnbdOptValType.wstr.code
    · have other : WnbdOptValType.wstr.code ≠ option.type.code := isWstr ▸ typed
      cases answer : (convertWstr option faults value (terminatedWstr value memory)).value with
      | error status =>
          rw [wnbdProcessOptionValue_failed option faults value memory isWstr other answer]
            at accepted
          exact absurd accepted (convertWstr_failed _ _ coherent _ _ answer)
      | ok bytes =>
          have carried := (convertWstr_carries _ _ _ _ answer).stored
            (terminatedWstr value memory) sized
          have terminatedOutside : KeepsOutside value memory (terminatedWstr value memory) :=
            KeepsOutside.store memory _ (valueLastWchar_inside (Nat.le_of_eq sized.symm))
          rw [wnbdProcessOptionValue_converted option faults value memory isWstr other answer]
          refine ⟨?_, carried.typed, fun same => ?_, fun _ => carried⟩
          · exact terminatedOutside.trans (KeepsOutside.store _ _ (Inside.refl value))
          · exact absurd ((valueAt_type memory value).symm.trans same) typed
    · rw [wnbdProcessOptionValue_mismatch option faults value memory typed isWstr] at accepted
      exact absurd accepted (by decide)

end Wnbd.Ioctl
