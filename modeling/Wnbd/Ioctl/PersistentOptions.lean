import Wnbd.Ioctl.OptionUpdates

/-!
# Persistent options

A persistent set writes the data of the value to the registry and keeps the value
as the runtime one.  Reading the registry gives the runtime value back, except
for one kind of Bool: the registry holds eight bytes of the union, the runtime
value is the first of them.  `persistent_round_trip_iff` says so for every value
and whatever other options are set before the registry is read.
-/

set_option autoImplicit false

namespace Wnbd.Ioctl

open CLayout CLayout.Region TracedBuffer Wnbd.Scsi

/-! ## Equal values -/

/-- Both values are of the type and equal, which for a Bool means the same truth. -/
structure SameValue (type : WnbdOptValType) (first second : OptionValue) : Prop where
  firstType : first.type = type.code
  secondType : second.type = type.code
  bool : type = .bool → (first.asBool ≠ 0 ↔ second.asBool ≠ 0)
  int64 : type = .int64 → first.asInt64 = second.asInt64

theorem SameValue.refl {type : WnbdOptValType} {value : OptionValue}
    (typed : value.type = type.code) : SameValue type value value :=
  ⟨typed, typed, fun _ => Iff.rfl, fun _ => rfl⟩

theorem Carries.sameValue_iff {type : WnbdOptValType} {number : Nat} {value : OptionValue}
    (carries : Carries type number value) (other : OptionValue) :
    SameValue type other value ↔ Carries type number other := by
  constructor
  · intro same
    refine ⟨same.firstType, ?_, ?_⟩
    · intro isBool
      exact (same.bool isBool).trans (carries.bool isBool)
    · intro isInt64
      exact (same.int64 isInt64).trans (carries.int64 isInt64)
  · intro second
    refine ⟨second.typed, carries.typed, ?_, ?_⟩
    · intro isBool
      exact (second.bool isBool).trans (carries.bool isBool).symm
    · intro isInt64
      exact (second.int64 isInt64).trans (carries.int64 isInt64).symm

/-- A Bool that is false in its first byte and has other bytes of the number set. -/
structure SplitBool (type : WnbdOptValType) (value : OptionValue) : Prop where
  declared : type = .bool
  typed : value.type = WnbdOptValType.bool.code
  falsy : value.asBool = 0
  stray : value.asInt64 ≠ 0

theorem carries_itself_iff {type : WnbdOptValType} {value : OptionValue}
    (typed : value.type = type.code) :
    Carries type value.asInt64 value ↔ ¬ SplitBool type value := by
  constructor
  · intro carries split
    exact (carries.bool split.declared).mpr split.stray split.falsy
  · intro whole
    refine ⟨typed, fun isBool => ⟨value.asInt64_ne_zero, fun number => ?_⟩, fun _ => rfl⟩
    intro falsy
    exact whole ⟨isBool, by rw [typed, isBool], falsy, number⟩

/-- The installed value is split when the value that userspace gave is. -/
theorem Processed.carries_iff {option : WnbdOption} {value : Region} {before after : Memory}
    (processed : Processed option value before after) :
    Carries option.type (valueAt after value).asInt64 (valueAt after value) ↔
      ¬ SplitBool option.type (valueAt before value) := by
  by_cases typed : (valueAt before value).type = option.type.code
  · rw [processed.kept typed]
    exact carries_itself_iff typed
  · constructor
    · intro _ split
      refine typed ?_
      rw [split.typed, split.declared]
    · intro _
      exact processed.converted typed

/-! ## What the registry holds -/

theorem registryEntry_readable {option : WnbdOption}
    (known : option.type = .bool ∨ option.type = .int64) (value : OptionValue) :
    Readable option.type (registryEntry option value) := by
  refine ⟨rfl, ?_⟩
  rw [registryEntry, List.length_map, List.length_range]
  rcases known with isBool | isInt64
  · rw [isBool]
    rfl
  · rw [isInt64]
    rfl

theorem registryEntry_number {option : WnbdOption}
    (known : option.type = .bool ∨ option.type = .int64) (value : OptionValue) :
    (registryEntry option value).number = value.asInt64 := by
  have size : wnbdOptRegSize option.type = (valueAsInt64 (whole wnbdOptionValue)).length := by
    rcases known with isBool | isInt64
    · rw [isBool]
      rfl
    · rw [isInt64]
      rfl
  rw [RegistryValue.number, registryEntry, size, OptionValue.asInt64, natAt, bytesAt]
  rfl

/-- A registry that stores and returns what it is given. -/
structure WorkingRegistry extends KernelFaults where
  queries : ∀ name, queryValueKey name = 0
  sets : ∀ name, setValueKey name = 0

theorem WorkingRegistry.query (faults : WorkingRegistry) {store : OptionStore} {name : List Nat}
    {entry : RegistryValue} (held : store.registry (name.map foldCase) = some entry)
    (sized : entry.data.length = 8) :
    zwQueryValueKey store faults.toOptionFaults name = .ok entry := by
  have fits : ¬ 12 + entry.data.length > 16 + wnbdMaxNameLength * wchar.size := by
    rw [sized]
    decide
  simp only [zwQueryValueKey, faults.queries, ne_eq, not_true_eq_false, if_false, held, fits]

/-! ## The store between the set and the read -/

/-- The option has this runtime value, and its registry value holds the data of it. -/
structure Holds (option : WnbdOption) (name : List Nat) (store : OptionStore) : Prop where
  typed : Typed store.options
  found : wnbdFindOpt store.options name = some option
  entry : store.registry (name.map foldCase) = some (registryEntry option option.value)

theorem Revalued.find {allowed : WnbdOption → OptionValue → Prop} {before after : List WnbdOption}
    (revalued : Revalued allowed before after) {name : List Nat} {option : WnbdOption}
    (found : wnbdFindOpt before name = some option) :
    ∃ value, wnbdFindOpt after name = some { option with value } ∧
      (value = option.value ∨ allowed option value) := by
  obtain ⟨values, rfl, wasAllowed⟩ := revalued
  refine ⟨values option, ?_, wasAllowed option (mem_of_found found)⟩
  rw [wnbdFindOpt] at found
  rw [wnbdFindOpt, List.find?_map]
  exact congrArg (Option.map _) found

/-- A set of another option is no matter. -/
theorem Holds.other {option : WnbdOption} {name : List Nat} {store : OptionStore}
    (holds : Holds option name store) {other : List Nat} (apart : ¬ sameName other name)
    {result : NtStatus × OptionStore} (atomic : UpdateAtomic other store result) :
    Holds option name result.2 := by
  by_cases success : result.1 = statusSuccess
  · have keys : name.map foldCase ≠ other.map foldCase := by
      intro same
      exact apart ((sameName_iff _ _).mpr same.symm)
    obtain ⟨value, found, unchanged | ⟨named, _⟩⟩ := (atomic.options success).find holds.found
    · refine ⟨holds.typed.updated atomic, ?_, ?_⟩
      · rw [found, unchanged]
      · rw [atomic.registry success _ keys]
        exact holds.entry
    · refine absurd ?_ apart
      have same := sameName_of_found holds.found
      rw [sameName_iff] at named same ⊢
      exact named.trans same.symm
  · rw [atomic.failed success]
    exact holds

def setAll (faults : OptionFaults) (store : OptionStore) (calls : List SetDrvOptCall) :
    OptionStore :=
  calls.foldl (fun store call => (call.outcome store faults).value.2) store

theorem Holds.others {option : WnbdOption} {name : List Nat} (faults : KernelFaults)
    (calls : List SetDrvOptCall) (apart : ∀ call ∈ calls, ¬ sameName call.name name)
    (store : OptionStore) (holds : Holds option name store) :
    Holds option name (setAll faults.toOptionFaults store calls) := by
  induction calls generalizing store with
  | nil => exact holds
  | cons call rest hypothesis =>
      refine hypothesis (fun other member => apart other (List.mem_cons_of_mem _ member)) _ ?_
      exact holds.other (apart call List.mem_cons_self) (call.atomic store holds.typed faults)

/-! ## The round trip -/

structure RoundTrips (option : WnbdOption) (name : List Nat) (store : OptionStore)
    (faults : OptionFaults) : Prop where
  get : ∀ (value : Region) (memory : Memory),
    (wnbdGetDrvOpt store faults name value true memory).value = statusSuccess ∧
      SameValue option.type option.value
        (valueAt (wnbdGetDrvOpt store faults name value true memory).memory value)
  reload : ∃ reloaded,
    wnbdFindOpt (wnbdReloadPersistentOptions store faults).options name = some reloaded ∧
      SameValue option.type option.value reloaded.value

section Read

variable {option : WnbdOption} {name : List Nat} {store : OptionStore}
  (holds : Holds option name store)

include holds

theorem Holds.type_cases : option.type = .bool ∨ option.type = .int64 :=
  holds.typed.known.type_cases (mem_of_found holds.found)

theorem Holds.value_typed : option.value.type = option.type.code :=
  holds.typed.values option (mem_of_found holds.found)

theorem Holds.get (faults : WorkingRegistry) (value : Region) (memory : Memory) :
    (wnbdGetDrvOpt store faults.toOptionFaults name value true memory).value = statusSuccess ∧
      Carries option.type option.value.asInt64
        (valueAt (wnbdGetDrvOpt store faults.toOptionFaults name value true memory).memory
          value) := by
  have readable := registryEntry_readable holds.type_cases option.value
  obtain ⟨zeroed, sameValue, sameMemory⟩ := wnbdGetPersistentOpt_queried store
    faults.toOptionFaults value memory holds.found (faults.query holds.entry readable.sized)
  rw [wnbdGetDrvOpt, if_pos rfl, sameValue, sameMemory,
    ← registryEntry_number holds.type_cases option.value]
  exact wnbdStorePersistentOpt_read option holds.type_cases _ value zeroed readable

/-- A reload keeps the installed value or reads the number, like a get. -/
theorem Holds.reload (faults : OptionFaults) : ∃ reloaded,
    wnbdFindOpt (wnbdReloadPersistentOptions store faults).options name = some reloaded ∧
      (reloaded.value = option.value ∨
        Carries option.type option.value.asInt64 reloaded.value) := by
  have atomic := wnbdReloadPersistentOptions_atomic holds.typed faults
  obtain ⟨value, found, kept | ⟨entry, isEntry, _, carries⟩⟩ := atomic.options.find holds.found
  · exact ⟨_, found, Or.inl kept⟩
  · refine ⟨_, found, Or.inr ?_⟩
    have same := (sameName_iff _ _).mp (sameName_of_found holds.found)
    rw [← same, holds.entry] at isEntry
    cases isEntry
    rw [registryEntry_number holds.type_cases] at carries
    exact carries

/-- The value comes back when its bytes say what its type makes of them. -/
theorem Holds.roundTrips_iff (faults : WorkingRegistry) :
    RoundTrips option name store faults.toOptionFaults ↔
      Carries option.type option.value.asInt64 option.value := by
  constructor
  · intro trips
    have read := (holds.get faults (whole wnbdOptionValue) fun _ => 0).2
    exact (read.sameValue_iff _).mp (trips.get _ _).2
  · intro carries
    refine ⟨fun value memory => ?_, ?_⟩
    · obtain ⟨success, read⟩ := holds.get faults value memory
      exact ⟨success, (read.sameValue_iff _).mpr carries⟩
    · obtain ⟨reloaded, found, kept | read⟩ := holds.reload faults.toOptionFaults
      · refine ⟨reloaded, found, ?_⟩
        rw [kept]
        exact SameValue.refl holds.value_typed
      · exact ⟨reloaded, found, (read.sameValue_iff _).mpr carries⟩

end Read

/-- A persistent set of an option leaves it with the processed value and its data in
the registry. -/
theorem SetDrvOptCall.holds {store : OptionStore} (typed : Typed store.options)
    (call : SetDrvOptCall) (persistent : call.persistent = true) (faults : KernelFaults)
    (accepted : (call.outcome store faults.toOptionFaults).value.1 = statusSuccess) :
    ∃ option processed, Processed option call.value call.memory processed ∧
      option.value = valueAt processed call.value ∧
      Holds option call.name (call.outcome store faults.toOptionFaults).value.2 := by
  have short := typed.known.short
  cases found : wnbdFindOpt store.options call.name with
  | none =>
      rw [call.outcome_unknown store faults.toOptionFaults short found] at accepted
      have failure : statusObjectNameNotFound ≠ statusSuccess := by decide
      exact absurd accepted failure
  | some option =>
      have types := typed.known.type_cases (mem_of_found found)
      have atomic := call.atomic store typed faults
      rcases call.outcome_found store _ short faults.coherent types found with
        ⟨failed, _⟩ | ⟨processed, result, installed⟩
      · exact absurd accepted failed
      · refine ⟨{ option with value := valueAt processed call.value }, processed,
          ⟨result.outside, result.typed, result.kept, result.converted⟩, rfl,
          typed.updated atomic, ?_, ?_⟩
        · rw [installed, OptionStore.install, persistent, if_pos rfl, wnbdFindOpt_setValue]
          rw [show wnbdFindOpt (store.setRegistry option.name _).options call.name = some option
            from found, Option.map_some, if_pos rfl]
        · rw [installed, OptionStore.install, persistent, if_pos rfl,
            (sameName_iff _ _).mp (sameName_of_found found)]
          exact Function.update_self _ _ _

/-- A persistent set that is accepted comes back from the registry, whatever other
options are set in between, unless it gave a Bool that is false with stray bytes in
the union. -/
theorem persistent_round_trip_iff (registry : List Nat → Option RegistryValue)
    (history : List StoreStep) (call : SetDrvOptCall) (faults : WorkingRegistry)
    (persistent : call.persistent = true)
    (accepted : (call.outcome (storeAfter registry history)
      faults.toOptionFaults).value.1 = statusSuccess)
    (others : List SetDrvOptCall) (apart : ∀ other ∈ others, ¬ sameName other.name call.name) :
    ∃ option,
      wnbdFindOpt (call.outcome (storeAfter registry history)
        faults.toOptionFaults).value.2.options call.name = some option ∧
      (RoundTrips option call.name
          (setAll faults.toOptionFaults (call.outcome (storeAfter registry history)
            faults.toOptionFaults).value.2 others) faults.toOptionFaults ↔
        ¬ SplitBool option.type (valueAt call.memory call.value)) := by
  have typed := storeAfter_typed registry history
  obtain ⟨option, processed, result, installed, holds⟩ :=
    call.holds typed persistent faults.toKernelFaults accepted
  refine ⟨option, holds.found, ?_⟩
  rw [(holds.others faults.toKernelFaults others apart).roundTrips_iff faults, installed]
  exact result.carries_iff

/-- A value with the name of its option behind it. -/
def valueThenName (value : OptionValue) (name : List Nat) : Memory := fun offset =>
  if offset < wnbdOptionValue.size then value offset
  else leBytes (name.getD ((offset - wnbdOptionValue.size) / wchar.size) 0)
    ((offset - wnbdOptionValue.size) % wchar.size)

def setNewMappingsAllowed (value : OptionValue) : SetDrvOptCall where
  memory := valueThenName value (wideName "NewMappingsAllowed")
  nameOffset := wnbdOptionValue.size
  persistent := true
  terminator := 18
  bounded := by decide
  terminated := by
    refine (natAt_eq_zero _ _).mpr fun index bound => ?_
    have small : index < 2 := bound
    interval_cases index
    · rfl
    · rfl
  value := whole wnbdOptionValue
  sized := rfl
  apart := Or.inr (Nat.le_refl _)

def workingRegistry : WorkingRegistry where
  queryValueKey := fun _ => 0
  setValueKey := fun _ => 0
  deleteValueKey := fun _ => 0
  unicodeStringToInt64 := .ok 0
  coherent := by simp [OptionFaults.Coherent]
  queries := fun _ => rfl
  sets := fun _ => rfl

theorem persistent_round_trip_iff_of_true : ∃ option,
    wnbdFindOpt ((setNewMappingsAllowed (boolValue true)).outcome (storeAfter (fun _ => none) [])
      workingRegistry.toOptionFaults).value.2.options
      (setNewMappingsAllowed (boolValue true)).name = some option ∧
    (RoundTrips option (setNewMappingsAllowed (boolValue true)).name
        (setAll workingRegistry.toOptionFaults
          ((setNewMappingsAllowed (boolValue true)).outcome (storeAfter (fun _ => none) [])
            workingRegistry.toOptionFaults).value.2 []) workingRegistry.toOptionFaults ↔
      ¬ SplitBool option.type (valueAt (setNewMappingsAllowed (boolValue true)).memory
        (setNewMappingsAllowed (boolValue true)).value)) :=
  persistent_round_trip_iff (fun _ => none) [] (setNewMappingsAllowed (boolValue true))
    workingRegistry rfl (by decide +kernel) [] fun _ member => absurd member List.not_mem_nil

def strayFalse : OptionValue :=
  typedValue .bool valueAsInt64 256

/-- Accepted as false, and read back as true. -/
theorem strayFalse_read_back_true :
    ((setNewMappingsAllowed strayFalse).outcome (storeAfter (fun _ => none) [])
        workingRegistry.toOptionFaults).value.1 = statusSuccess ∧
      (wnbdFindOpt ((setNewMappingsAllowed strayFalse).outcome (storeAfter (fun _ => none) [])
        workingRegistry.toOptionFaults).value.2.options (wideName "NewMappingsAllowed")).map
          (fun option => (option.type, option.value.asBool)) = some (.bool, 0) ∧
      OptionValue.asBool (wnbdGetDrvOpt ((setNewMappingsAllowed strayFalse).outcome
        (storeAfter (fun _ => none) []) workingRegistry.toOptionFaults).value.2
        workingRegistry.toOptionFaults (wideName "NewMappingsAllowed") (whole wnbdOptionValue) true
        fun _ => 0).memory = 1 ∧
      (wnbdFindOpt (wnbdReloadPersistentOptions ((setNewMappingsAllowed strayFalse).outcome
        (storeAfter (fun _ => none) []) workingRegistry.toOptionFaults).value.2
        workingRegistry.toOptionFaults).options (wideName "NewMappingsAllowed")).map
          (fun option => (option.type, option.value.asBool)) = some (.bool, 1) := by
  refine ⟨?_, ?_, ?_, ?_⟩
  · decide +kernel
  · decide +kernel
  · decide +kernel
  · decide +kernel

end Wnbd.Ioctl
