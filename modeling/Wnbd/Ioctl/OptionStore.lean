import Wnbd.Ioctl.OptionValues

/-!
# The option store

What a set, a reset and a reload do to the runtime values and to the registry.
-/

set_option autoImplicit false

namespace Wnbd.Ioctl

open CLayout CLayout.Region TracedBuffer Wnbd.Scsi

/-! ## Calls -/

/-- A name that the caller has terminated within the length of its field. -/
structure DrvOptCall where
  memory : Memory
  nameOffset : Nat
  persistent : Bool
  terminator : Nat
  bounded : terminator < wnbdMaxOptNameLength
  terminated : natAt memory ⟨nameOffset + terminator * wchar.size, wchar.size⟩ = 0

def DrvOptCall.name (call : DrvOptCall) : List Nat :=
  stringAt call.memory wchar.size wnbdMaxNameLength call.nameOffset

/-- The value lies apart from the name. -/
structure SetDrvOptCall extends DrvOptCall where
  value : Region
  sized : value.length = wnbdOptionValue.size
  apart : nameOffset + (terminator + 1) * wchar.size ≤ value.offset ∨ value.stop ≤ nameOffset

/-- `WnbdSetDrvOpt` on the arguments of the call. -/
def SetDrvOptCall.outcome (call : SetDrvOptCall) (store : OptionStore) (faults : OptionFaults) :
    Outcome (NtStatus × OptionStore) :=
  wnbdSetDrvOpt store faults call.nameOffset call.value call.persistent call.memory

/-- `WnbdResetDrvOpt` on the arguments of the call. -/
def DrvOptCall.outcome (call : DrvOptCall) (store : OptionStore) (faults : OptionFaults) :
    Outcome (NtStatus × OptionStore) :=
  wnbdResetDrvOpt store faults call.nameOffset call.persistent call.memory

/-! ## A set -/

def registryEntry (option : WnbdOption) (value : OptionValue) : RegistryValue :=
  ⟨wnbdOptRegType option.type,
    (List.range (wnbdOptRegSize option.type)).map fun index =>
      value ((valueData (whole wnbdOptionValue)).offset + index)⟩

def OptionStore.install (store : OptionStore) (persistent : Bool) (option : WnbdOption)
    (value : OptionValue) : OptionStore :=
  (if persistent then store.setRegistry option.name (some (registryEntry option value))
    else store).setValue option value

theorem setRegistry_same (store : OptionStore) {name other : List Nat} (same : sameName name other)
    (value : Option RegistryValue) :
    store.setRegistry name value = store.setRegistry other value := by
  rw [OptionStore.setRegistry, (sameName_iff _ _).mp same]
  rfl

theorem valueData_offset (value : Region) : (valueData value).offset =
    value.offset + (valueData (whole wnbdOptionValue)).offset := by
  simp only [valueData, Region.field, whole, Nat.zero_add]

theorem setPersistentOpt_readOnly (store : OptionStore) (faults : OptionFaults)
    (option : WnbdOption) (nameOffset : Nat) (value : Region) (persistent : Bool) :
    ReadOnly (setPersistentOpt store faults option nameOffset value persistent) := by
  refine ReadOnly.ite ?_ (ReadOnly.pure _)
  refine ReadOnly.bind (fun _ => rfl) fun name => ReadOnly.bind (fun _ => rfl) fun bytes => ?_
  exact ReadOnly.ite (ReadOnly.pure _) (ReadOnly.pure _)

/-- The registry takes the value under the name it is given, or fails. -/
theorem setPersistentOpt_value (store : OptionStore) (faults : OptionFaults)
    (option : WnbdOption) (nameOffset : Nat) (value : Region) (persistent : Bool)
    (memory : Memory) (name : List Nat)
    (named : stringAt memory wchar.size wnbdMaxNameLength nameOffset = name) :
    (setPersistentOpt store faults option nameOffset value persistent memory).value =
      if persistent = true ∧ faults.setValueKey name ≠ 0 then .error (faults.setValueKey name)
      else .ok (if persistent then
        store.setRegistry name (some (registryEntry option (valueAt memory value))) else store) := by
  cases persistent with
  | false =>
      simp only [setPersistentOpt, Bool.false_eq_true, if_false, false_and, pure_value]
  | true =>
      have data : fromOffset memory (valueData value).offset = fun index =>
          valueAt memory value ((valueData (whole wnbdOptionValue)).offset + index) := by
        funext index
        rw [valueData_offset, valueAt, fromOffset, fromOffset, Nat.add_assoc]
      simp only [setPersistentOpt, if_true, true_and, bind_value, loadString_value,
        loadString_memory, loadBytes_value, named, data]
      split
      · rw [pure_value]
      · rw [pure_value, registryEntry]

def setFoundOpt (store : OptionStore) (faults : OptionFaults) (option : WnbdOption)
    (nameOffset : Nat) (value : Region) (persistent : Bool) : Traced (NtStatus × OptionStore) := do
  let status ← wnbdProcessOptionValue option faults value
  if status ≠ statusSuccess then pure (status, store)
  else do
    let persisted ← setPersistentOpt store faults option nameOffset value persistent
    match persisted with
    | .error status => pure (status, store)
    | .ok store => do
        let bytes ← loadBytes .take value
        pure (statusSuccess, store.setValue option bytes)

theorem wnbdSetDrvOpt_eq (store : OptionStore) (faults : OptionFaults) (nameOffset : Nat)
    (value : Region) (persistent : Bool) :
    wnbdSetDrvOpt store faults nameOffset value persistent =
      wnbdFindOptAt nameOffset store.options >>= fun found =>
        match found with
        | none => optionNotFound store nameOffset
        | some option => setFoundOpt store faults option nameOffset value persistent := rfl

theorem wnbdSetDrvOpt_found (store : OptionStore) (faults : OptionFaults) (nameOffset : Nat)
    (value : Region) (persistent : Bool) (memory : Memory) {option : WnbdOption}
    (found : (wnbdFindOptAt nameOffset store.options memory).value = some option) :
    (wnbdSetDrvOpt store faults nameOffset value persistent memory).value =
      (setFoundOpt store faults option nameOffset value persistent memory).value := by
  have unchanged := wnbdFindOptAt_readOnly nameOffset store.options memory
  generalize search : wnbdFindOptAt nameOffset store.options memory = searched
    at found unchanged
  rw [wnbdSetDrvOpt_eq, bind_value_of _ search, found, unchanged]

/-- A found option is left alone, or the processed value is installed. -/
theorem setFoundOpt_value (store : OptionStore) (faults : OptionFaults) (option : WnbdOption)
    (nameOffset : Nat) (value : Region) (persistent : Bool) (memory : Memory) (name : List Nat)
    (processed : Outcome NtStatus)
    (ran : wnbdProcessOptionValue option faults value memory = processed)
    (named : stringAt processed.memory wchar.size wnbdMaxNameLength nameOffset = name) :
    (setFoundOpt store faults option nameOffset value persistent memory).value =
      if processed.value ≠ statusSuccess then (processed.value, store)
      else if persistent = true ∧ faults.setValueKey name ≠ 0 then
        (faults.setValueKey name, store)
      else (statusSuccess, (if persistent then
          store.setRegistry name (some (registryEntry option (valueAt processed.memory value)))
        else store).setValue option (valueAt processed.memory value)) := by
  have persisted := setPersistentOpt_value store faults option nameOffset value persistent
    processed.memory name named
  rw [setFoundOpt, bind_value_of _ ran]
  split
  case isTrue => rw [pure_value]
  case isFalse =>
    rw [bind_value, setPersistentOpt_readOnly, persisted]
    split
    case isTrue => rw [pure_value]
    case isFalse => rw [bind_value, pure_value, loadBytes_value, valueAt]

namespace SetDrvOptCall

variable (call : SetDrvOptCall) (store : OptionStore) (faults : OptionFaults)
  (short : ∀ option ∈ store.options, option.name.length < wnbdMaxNameLength)

include short

theorem outcome_unknown (missing : wnbdFindOpt store.options call.name = none) :
    (call.outcome store faults).value = (statusObjectNameNotFound, store) := by
  rw [DrvOptCall.name, ← wnbdFindOptAt_value call.nameOffset call.memory store.options short] at missing
  rw [outcome, wnbdSetDrvOpt_eq, bind_value, missing]
  rfl

/-- A set of a known option fails and leaves the store alone, or installs a value of the
option's type. -/
theorem outcome_found (coherent : faults.Coherent) {option : WnbdOption}
    (known : option.type = .bool ∨ option.type = .int64)
    (found : wnbdFindOpt store.options call.name = some option) :
    ((call.outcome store faults).value.1 ≠ statusSuccess ∧
        (call.outcome store faults).value.2 = store) ∨
      ∃ processed, Processed option call.value call.memory processed ∧
        (call.outcome store faults).value =
          (statusSuccess, store.install call.persistent option (valueAt processed call.value)) := by
  have sameOption := sameName_of_found found
  rw [DrvOptCall.name, ← wnbdFindOptAt_value call.nameOffset call.memory store.options short] at found
  rw [outcome, wnbdSetDrvOpt_found _ _ _ _ _ _ found]
  obtain ⟨processed, ran⟩ : ∃ processed,
      wnbdProcessOptionValue option faults call.value call.memory = processed := ⟨_, rfl⟩
  have accepts := wnbdProcessOptionValue_accepted option known faults coherent call.value
    call.sized call.memory
  rw [ran] at accepts
  by_cases accepted : processed.value = statusSuccess
  · have result := accepts accepted
    have sameString : stringAt processed.memory wchar.size wnbdMaxNameLength call.nameOffset =
        call.name := by
      refine (stringAt_congr _ _ call.terminator call.terminated fun place low high => ?_).symm
      have apart := call.apart
      exact (result.outside place (by omega)).symm
    rw [setFoundOpt_value _ _ _ _ _ _ _ _ processed ran sameString, if_neg (not_not.mpr accepted)]
    split
    case isTrue failed => exact Or.inl ⟨failed.2, rfl⟩
    case isFalse =>
      refine Or.inr ⟨processed.memory, result, ?_⟩
      rw [OptionStore.install, setRegistry_same store sameOption]
  · rw [setFoundOpt_value _ _ _ _ _ _ _ _ processed ran rfl, if_pos accepted]
    exact Or.inl ⟨accepted, rfl⟩

end SetDrvOptCall

/-! ## A reset -/

def OptionStore.reset (store : OptionStore) (persistent : Bool) (option : WnbdOption) :
    OptionStore :=
  (if persistent then store.setRegistry option.name none else store).setValue option option.default

namespace DrvOptCall

variable (call : DrvOptCall) (store : OptionStore) (faults : OptionFaults)
  (short : ∀ option ∈ store.options, option.name.length < wnbdMaxNameLength)

include short

theorem outcome_unknown (missing : wnbdFindOpt store.options call.name = none) :
    (call.outcome store faults).value = (statusObjectNameNotFound, store) := by
  rw [name, ← wnbdFindOptAt_value call.nameOffset call.memory store.options short] at missing
  rw [outcome, wnbdResetDrvOpt, bind_value, missing]
  rfl

/-- A reset of a known option fails and leaves the store alone, or installs the default. -/
theorem outcome_found {option : WnbdOption}
    (found : wnbdFindOpt store.options call.name = some option) :
    ((call.outcome store faults).value.1 ≠ statusSuccess ∧
        (call.outcome store faults).value.2 = store) ∨
      (call.outcome store faults).value = (statusSuccess, store.reset call.persistent option) := by
  have sameOption := sameName_of_found found
  have named : stringAt call.memory wchar.size wnbdMaxNameLength call.nameOffset = call.name := rfl
  rw [name, ← wnbdFindOptAt_value call.nameOffset call.memory store.options short] at found
  rw [outcome, wnbdResetDrvOpt, bind_value, found, wnbdFindOptAt_readOnly]
  cases call.persistent with
  | false => exact Or.inr rfl
  | true =>
      simp only [if_true, bind_value, loadString_value, loadString_memory, named]
      generalize (if faults.deleteValueKey call.name ≠ 0 then faults.deleteValueKey call.name
        else if (store.registry (call.name.map foldCase)).isNone then statusObjectNameNotFound
        else statusSuccess) = status
      split
      case isTrue failed => exact Or.inl ⟨failed, rfl⟩
      case isFalse =>
        rw [pure_value, OptionStore.reset, if_pos rfl, setRegistry_same store sameOption]
        exact Or.inr rfl

end DrvOptCall

/-! ## Reading the registry -/

/-- The registry entry is a number for the option. -/
structure Readable (type : WnbdOptValType) (entry : RegistryValue) : Prop where
  typed : wnbdOptRegType type = entry.type
  sized : entry.data.length = 8

def RegistryValue.number (entry : RegistryValue) : Nat := BigEndian.ofBytes entry.data.reverse

theorem valueAt_asBool (memory : Memory) (value : Region) :
    (valueAt memory value).asBool = natAt memory (valueAsBool value) := by
  rw [OptionValue.asBool, valueAt, natAt_fromOffset]
  rfl

theorem valueAt_asInt64 (memory : Memory) (value : Region) :
    (valueAt memory value).asInt64 = natAt memory (valueAsInt64 value) := by
  rw [OptionValue.asInt64, valueAt, natAt_fromOffset]
  rfl

theorem valueType_stop (value : Region) : (valueType value).stop ≤ (valueData value).offset := by
  simp only [valueType, valueData, Region.field, Region.stop]
  have gap : (valueType (whole wnbdOptionValue)).stop ≤
      (valueData (whole wnbdOptionValue)).offset := by
    decide
  simp only [valueType, valueData, Region.field, Region.stop, whole] at gap
  omega

theorem registryNumber_value (entry : RegistryValue) :
    registryNumber entry =
      if entry.data.length = 8 then .ok entry.number else .error statusObjectTypeMismatch := by
  rw [registryNumber, RegistryValue.number, ite_not]

section StorePersistent

variable (option : WnbdOption) (known : option.type = .bool ∨ option.type = .int64)
  (entry : RegistryValue) (value : Region) (memory : Memory)

include known

theorem wnbdStorePersistentOpt_unreadable (unreadable : ¬ Readable option.type entry) :
    (wnbdStorePersistentOpt option entry value memory).value = statusObjectTypeMismatch := by
  rw [wnbdStorePersistentOpt]
  split
  case isTrue => rw [pure_value]
  case isFalse typed =>
    have short : ¬ entry.data.length = 8 := fun sized => unreadable ⟨not_not.mp typed, sized⟩
    rcases known with isBool | isInt64
    · simp only [isBool, registryNumber_value, short, if_false, pure_value]
    · simp only [isInt64, registryNumber_value, short, if_false, pure_value]

theorem wnbdStorePersistentOpt_read (readable : Readable option.type entry) :
    (wnbdStorePersistentOpt option entry value memory).value = statusSuccess ∧
      Carries option.type entry.number
        (valueAt (wnbdStorePersistentOpt option entry value memory).memory value) := by
  have small : entry.number < 256 ^ 8 := by
    have bound := BigEndian.ofBytes_lt entry.data.reverse
    rwa [List.length_reverse, readable.sized] at bound
  have boolApart : (valueType value).stop ≤ (valueAsBool value).offset := valueType_stop value
  have int64Apart : (valueType value).stop ≤ (valueAsInt64 value).offset := valueType_stop value
  rw [wnbdStorePersistentOpt, if_neg (not_not.mpr readable.typed)]
  rcases known with isBool | isInt64
  · simp only [isBool, registryNumber_value, readable.sized, if_true, bind_value, bind_memory,
      pure_value, pure_memory, storeNat_memory]
    refine ⟨trivial, ?_, fun _ => ?_, fun isInt64 => ?_⟩
    · rw [valueAt_type, natAt_store]
      rfl
    · rw [valueAt_asBool, natAt_store_of_disjoint _ _ _ _ (Or.inr boolApart), natAt_store]
      by_cases zero : entry.number = 0
      · simp [zero]
      · have wide : byte.size ≠ 0 := by decide
        simp [zero, valueAsBool, wide]
    · cases isInt64
  · simp only [isInt64, registryNumber_value, readable.sized, if_true, bind_value, bind_memory,
      pure_value, pure_memory, storeNat_memory]
    refine ⟨trivial, ?_, fun isBool => ?_, fun _ => ?_⟩
    · rw [valueAt_type, natAt_store]
      rfl
    · cases isBool
    · rw [valueAt_asInt64, natAt_store_of_disjoint _ _ _ _ (Or.inr int64Apart), natAt_store]
      exact Nat.mod_eq_of_lt small

end StorePersistent

theorem zwQueryValueKey_ok (store : OptionStore) (faults : OptionFaults) {name : List Nat}
    {entry : RegistryValue} (queried : zwQueryValueKey store faults name = .ok entry) :
    store.registry (name.map foldCase) = some entry := by
  rw [zwQueryValueKey] at queried
  split at queried
  case isTrue => cases queried
  case isFalse =>
    cases isFound : store.registry (name.map foldCase) with
    | none => simp [isFound] at queried
    | some found =>
      rw [isFound] at queried
      dsimp only at queried
      split at queried
      case isTrue => cases queried
      case isFalse =>
        cases queried
        rfl

theorem zwQueryValueKey_failed (store : OptionStore) (faults : OptionFaults) {name : List Nat}
    {status : NtStatus} (queried : zwQueryValueKey store faults name = .error status) :
    status ≠ statusSuccess := by
  rw [zwQueryValueKey] at queried
  split at queried
  case isTrue failed =>
    cases queried
    exact failed
  case isFalse =>
    cases isFound : store.registry (name.map foldCase) with
    | none =>
      rw [isFound] at queried
      cases queried
      decide
    | some found =>
      rw [isFound] at queried
      dsimp only at queried
      split at queried
      case isTrue =>
        cases queried
        decide
      case isFalse => cases queried

section GetPersistent

variable (store : OptionStore) (faults : OptionFaults) {name : List Nat} (value : Region)
  (memory : Memory)

theorem wnbdGetPersistentOpt_missing (missing : wnbdFindOpt store.options name = none) :
    (wnbdGetPersistentOpt store faults name value memory).value = statusObjectNameNotFound := by
  rw [wnbdGetPersistentOpt, missing]
  rfl

variable {option : WnbdOption} (found : wnbdFindOpt store.options name = some option)

include found

theorem wnbdGetPersistentOpt_failed {status : NtStatus}
    (queried : zwQueryValueKey store faults name = .error status) :
    (wnbdGetPersistentOpt store faults name value memory).value = status := by
  simp only [wnbdGetPersistentOpt, found, queried, bind_value, pure_value]

theorem wnbdGetPersistentOpt_queried {entry : RegistryValue}
    (queried : zwQueryValueKey store faults name = .ok entry) :
    ∃ zeroed, (wnbdGetPersistentOpt store faults name value memory).value =
        (wnbdStorePersistentOpt option entry value zeroed).value ∧
      (wnbdGetPersistentOpt store faults name value memory).memory =
        (wnbdStorePersistentOpt option entry value zeroed).memory := by
  refine ⟨TracedBuffer.store memory (valueData value) fun _ => 0, ?_, ?_⟩
  · simp only [wnbdGetPersistentOpt, found, queried, bind_value, zeroMemory, storeBytes_memory]
  · simp only [wnbdGetPersistentOpt, found, queried, bind_memory, zeroMemory, storeBytes_memory]

end GetPersistent

/-- The value of an option that its registry entry says. -/
def Decodes (type : WnbdOptValType) (entry : Option RegistryValue) (value : OptionValue) : Prop :=
  ∃ found, entry = some found ∧ Readable type found ∧ Carries type found.number value

/-- A persistent value that could be read is the one in the registry. -/
theorem wnbdGetPersistentOpt_decodes {store : OptionStore} (known : KnownOptions store.options)
    (faults : OptionFaults) (name : List Nat) (value : Region) (memory : Memory)
    (read : (wnbdGetPersistentOpt store faults name value memory).value = statusSuccess) :
    ∃ option, wnbdFindOpt store.options name = some option ∧
      Decodes option.type (store.registry (name.map foldCase))
        (valueAt (wnbdGetPersistentOpt store faults name value memory).memory value) := by
  cases found : wnbdFindOpt store.options name with
  | none =>
      rw [wnbdGetPersistentOpt_missing _ _ _ _ found] at read
      exact absurd read (by decide)
  | some option =>
      have types := known.type_cases (mem_of_found found)
      cases queried : zwQueryValueKey store faults name with
      | error status =>
          rw [wnbdGetPersistentOpt_failed _ _ _ _ found queried] at read
          exact absurd read (zwQueryValueKey_failed _ _ queried)
      | ok entry =>
          obtain ⟨zeroed, sameValue, sameMemory⟩ :=
            wnbdGetPersistentOpt_queried store faults value memory found queried
          by_cases readable : Readable option.type entry
          · refine ⟨option, rfl, entry, zwQueryValueKey_ok _ _ queried, readable, ?_⟩
            rw [sameMemory]
            exact (wnbdStorePersistentOpt_read option types entry value zeroed readable).2
          · rw [sameValue, wnbdStorePersistentOpt_unreadable option types entry value zeroed
              readable] at read
            exact absurd read (by decide)

end Wnbd.Ioctl
