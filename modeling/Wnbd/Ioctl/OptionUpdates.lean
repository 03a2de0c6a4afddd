import Wnbd.Ioctl.OptionStore

/-!
# Option updates

The store under any sequence of sets, resets and reloads, with kernel calls that
fail as they like and a registry that others write to.  `Typed` is the invariant;
`option_store_typed_atomic` says what every update does to a store it holds of.
-/

set_option autoImplicit false

namespace Wnbd.Ioctl

open CLayout CLayout.Region TracedBuffer Wnbd.Scsi

/-! ## Changed values -/

/-- Only values differ, and each new value is allowed for its option. -/
def Revalued (allowed : WnbdOption → OptionValue → Prop) (before after : List WnbdOption) : Prop :=
  ∃ values : WnbdOption → OptionValue,
    after = before.map (fun option => { option with value := values option }) ∧
      ∀ option ∈ before, values option = option.value ∨ allowed option (values option)

theorem Revalued.refl (allowed : WnbdOption → OptionValue → Prop) (options : List WnbdOption) :
    Revalued allowed options options := by
  refine ⟨fun option => option.value, ?_, fun _ _ => Or.inl rfl⟩
  exact (List.map_id' options).symm

theorem Revalued.setValue {allowed : WnbdOption → OptionValue → Prop} {options : List WnbdOption}
    {store : OptionStore} (revalued : Revalued allowed options store.options)
    (option : WnbdOption) (value : OptionValue)
    (fits : ∀ old ∈ options, old.name = option.name → allowed old value) :
    Revalued allowed options (store.setValue option value).options := by
  obtain ⟨values, sameOptions, wasAllowed⟩ := revalued
  refine ⟨fun old => if old.name = option.name then value else values old, ?_, ?_⟩
  · rw [OptionStore.setValue, sameOptions, List.map_map]
    refine List.map_congr_left fun old _ => ?_
    by_cases named : old.name = option.name
    · simp only [Function.comp_apply, named, if_true]
    · simp only [Function.comp_apply, named, if_false]
  · intro old member
    by_cases named : old.name = option.name
    · simp only [named, if_true]
      exact Or.inr (fits old member named)
    · simp only [named, if_false]
      exact wasAllowed old member

/-! ## The invariant -/

/-- The driver's table, with values and defaults of the declared types. -/
structure Typed (options : List WnbdOption) : Prop where
  known : KnownOptions options
  values : ∀ option ∈ options, option.value.type = option.type.code
  defaults : ∀ option ∈ options, option.default.type = option.type.code

theorem typed_wnbdDriverOptions : Typed wnbdDriverOptions := by
  refine ⟨rfl, ?_, ?_⟩
  · decide +kernel
  · decide +kernel

theorem Typed.revalued {allowed : WnbdOption → OptionValue → Prop} {before after : List WnbdOption}
    (typed : Typed before) (revalued : Revalued allowed before after)
    (fits : ∀ option ∈ before, ∀ value, allowed option value → value.type = option.type.code) :
    Typed after := by
  obtain ⟨values, rfl, wasAllowed⟩ := revalued
  refine ⟨?_, ?_, ?_⟩
  · rw [KnownOptions, ← typed.known, List.map_map]
    rfl
  · intro option member
    obtain ⟨old, oldMember, rfl⟩ := List.mem_map.mp member
    rcases wasAllowed old oldMember with same | isAllowed
    · exact (congrArg OptionValue.type same).trans (typed.values old oldMember)
    · exact fits old oldMember _ isAllowed
  · intro option member
    obtain ⟨old, oldMember, rfl⟩ := List.mem_map.mp member
    exact typed.defaults old oldMember

theorem KnownOptions.short {options : List WnbdOption} (known : KnownOptions options) :
    ∀ option ∈ options, option.name.length < wnbdMaxNameLength :=
  fun _ member => known.name_short member

theorem KnownOptions.named {options : List WnbdOption} (known : KnownOptions options)
    {option old : WnbdOption} (member : option ∈ options) (oldMember : old ∈ options)
    (named : old.name = option.name) : old.type = option.type := by
  refine (known.same oldMember member ?_).2
  rw [named, sameName_iff]

/-! ## Updates of one option -/

/-- A failed update changes nothing.  One that succeeds gives the named option a
value of its type and leaves the other options and registry values alone. -/
structure UpdateAtomic (name : List Nat) (before : OptionStore) (result : NtStatus × OptionStore) :
    Prop where
  failed : result.1 ≠ statusSuccess → result.2 = before
  named : result.1 = statusSuccess → ∃ option ∈ before.options, sameName name option.name
  options : result.1 = statusSuccess →
    Revalued (fun option value => sameName name option.name ∧ value.type = option.type.code)
      before.options result.2.options
  registry : result.1 = statusSuccess →
    ∀ key, key ≠ name.map foldCase → result.2.registry key = before.registry key

theorem UpdateAtomic.unchanged (name : List Nat) {before : OptionStore}
    {result : NtStatus × OptionStore} (failed : result.1 ≠ statusSuccess)
    (same : result.2 = before) : UpdateAtomic name before result :=
  ⟨fun _ => same, fun success => absurd success failed, fun success => absurd success failed,
    fun success => absurd success failed⟩

/-- An option found by its name is set, after a registry value under the name. -/
theorem UpdateAtomic.installed {name : List Nat} {before : OptionStore} {option : WnbdOption}
    (known : KnownOptions before.options)
    (found : wnbdFindOpt before.options name = some option) (persistent : Bool)
    (entry : Option RegistryValue) {value : OptionValue} (typed : value.type = option.type.code) :
    UpdateAtomic name before (statusSuccess,
      (if persistent then before.setRegistry option.name entry else before).setValue option
        value) := by
  have member := mem_of_found found
  have same := sameName_of_found found
  refine ⟨fun failed => absurd rfl failed, fun _ => ⟨option, member, same⟩, fun _ => ?_,
    fun _ key other => ?_⟩
  · have options : (if persistent then before.setRegistry option.name entry
        else before).options = before.options := by
      cases persistent with
      | true => rfl
      | false => rfl
    refine Revalued.setValue (by rw [options]; exact Revalued.refl _ _) option value ?_
    intro old oldMember named
    rw [named, known.named member oldMember named]
    exact ⟨same, typed⟩
  · cases persistent with
    | false => rfl
    | true =>
        refine Function.update_of_ne ?_ _ _
        rw [← (sameName_iff _ _).mp same]
        exact other

/-- Kernel calls that fail as they like, a failed conversion with a status that says so. -/
structure KernelFaults extends OptionFaults where
  coherent : toOptionFaults.Coherent

section Update

variable (store : OptionStore) (typed : Typed store.options) (faults : KernelFaults)

include typed

theorem SetDrvOptCall.atomic (call : SetDrvOptCall) :
    UpdateAtomic call.name store (call.outcome store faults.toOptionFaults).value := by
  have short := typed.known.short
  cases found : wnbdFindOpt store.options call.name with
  | none =>
      rw [call.outcome_unknown store faults.toOptionFaults short found]
      have failure : statusObjectNameNotFound ≠ statusSuccess := by decide
      exact UpdateAtomic.unchanged _ failure rfl
  | some option =>
      have types := typed.known.type_cases (mem_of_found found)
      rcases call.outcome_found store _ short faults.coherent types found with
        ⟨failed, unchanged⟩ | ⟨processed, result, installed⟩
      · exact UpdateAtomic.unchanged _ failed unchanged
      · rw [installed]
        exact UpdateAtomic.installed typed.known found _ _ result.typed

theorem DrvOptCall.atomic (call : DrvOptCall) :
    UpdateAtomic call.name store (call.outcome store faults.toOptionFaults).value := by
  have short := typed.known.short
  cases found : wnbdFindOpt store.options call.name with
  | none =>
      rw [call.outcome_unknown store faults.toOptionFaults short found]
      have failure : statusObjectNameNotFound ≠ statusSuccess := by decide
      exact UpdateAtomic.unchanged _ failure rfl
  | some option =>
      rcases call.outcome_found store faults.toOptionFaults short found with
        ⟨failed, unchanged⟩ | installed
      · exact UpdateAtomic.unchanged _ failed unchanged
      · rw [installed]
        exact UpdateAtomic.installed typed.known found _ _
          (typed.defaults option (mem_of_found found))

end Update

/-! ## A reload -/

/-- A reload leaves the registry alone and each option either alone or at the value
its registry entry says. -/
structure ReloadAtomic (before after : OptionStore) : Prop where
  registry : after.registry = before.registry
  options : Revalued (fun option value =>
      Decodes option.type (before.registry (option.name.map foldCase)) value)
    before.options after.options

theorem valueAt_whole (memory : Memory) (layout : CType) :
    valueAt memory (whole layout) = memory := by
  funext index
  rw [valueAt, fromOffset, whole, Nat.zero_add]

theorem KnownOptions.finds {options others : List WnbdOption} (known : KnownOptions options)
    (otherKnown : KnownOptions others) {option : WnbdOption} (member : option ∈ others)
    {found : WnbdOption} (isFound : wnbdFindOpt options option.name = some found) :
    found.type = option.type := by
  have row := otherKnown.row member
  rw [← known] at row
  obtain ⟨twin, twinMember, sameRow⟩ := List.mem_map.mp row
  obtain ⟨sameTwin, sameType⟩ := Prod.mk.inj sameRow
  have same := sameName_of_found isFound
  rw [← sameTwin] at same
  rw [← sameType]
  exact (known.same twinMember (mem_of_found isFound) same).2.symm

theorem persistentValue_decodes {store : OptionStore} (known : KnownOptions store.options)
    (faults : OptionFaults) {name : List Nat} {value : OptionValue}
    (read : persistentValue store faults name = (statusSuccess, value)) :
    ∃ option, wnbdFindOpt store.options name = some option ∧
      Decodes option.type (store.registry (name.map foldCase)) value := by
  obtain ⟨success, sameValue⟩ := Prod.mk.inj read
  obtain ⟨option, found, decodes⟩ := wnbdGetPersistentOpt_decodes known faults name
    (whole wnbdOptionValue) (fun _ => 0) success
  rw [sameValue, valueAt_whole] at decodes
  exact ⟨option, found, decodes⟩

theorem reloadOption_of (faults : OptionFaults) (store : OptionStore) (option : WnbdOption)
    {status : NtStatus} {value : OptionValue} {processed : Outcome NtStatus}
    (read : persistentValue store faults option.name = (status, value))
    (ran : wnbdProcessOptionValue option faults (whole wnbdOptionValue) value = processed) :
    reloadOption faults store option =
      if status ≠ statusSuccess then store
      else if processed.value ≠ statusSuccess then store
      else store.setValue option processed.memory := by
  rw [← ran, reloadOption, read]

theorem reloadOption_atomic {before store : OptionStore} (known : KnownOptions before.options)
    (storeKnown : KnownOptions store.options) (faults : OptionFaults)
    (atomic : ReloadAtomic before store) {option : WnbdOption} (member : option ∈ before.options) :
    ReloadAtomic before (reloadOption faults store option) := by
  obtain ⟨⟨status, value⟩, read⟩ : ∃ result, persistentValue store faults option.name = result :=
    ⟨_, rfl⟩
  obtain ⟨processed, ran⟩ : ∃ processed,
      wnbdProcessOptionValue option faults (whole wnbdOptionValue) value = processed := ⟨_, rfl⟩
  rw [reloadOption_of faults store option read ran]
  split
  case isTrue => exact atomic
  case isFalse success =>
    split
    case isTrue => exact atomic
    case isFalse =>
      rw [not_not.mp success] at read
      obtain ⟨found, isFound, decodes⟩ := persistentValue_decodes storeKnown faults read
      rw [storeKnown.finds known member isFound, atomic.registry] at decodes
      have kept : processed.memory = value := by
        obtain ⟨entry, _, _, carries⟩ := decodes
        rw [← ran]
        refine wnbdProcessOptionValue_typed option faults _ value ?_ carries.typed
        rcases known.type_cases member with isBool | isInt64
        · rw [isBool]
          decide
        · rw [isInt64]
          decide
      refine ⟨atomic.registry, atomic.options.setValue option _ ?_⟩
      intro old oldMember named
      rw [kept, named, known.named member oldMember named]
      exact decodes

theorem Typed.reloaded {before after : OptionStore} (typed : Typed before.options)
    (atomic : ReloadAtomic before after) : Typed after.options := by
  refine typed.revalued atomic.options ?_
  rintro option _ value ⟨entry, _, _, carries⟩
  exact carries.typed

theorem wnbdReloadPersistentOptions_atomic {store : OptionStore} (typed : Typed store.options)
    (faults : OptionFaults) : ReloadAtomic store (wnbdReloadPersistentOptions store faults) := by
  have rounds : ∀ (options : List WnbdOption) (reached : OptionStore),
      (∀ option ∈ options, option ∈ store.options) → ReloadAtomic store reached →
        ReloadAtomic store (options.foldl (reloadOption faults) reached) := by
    intro options
    induction options with
    | nil => exact fun reached _ atomic => atomic
    | cons option rest hypothesis =>
        intro reached members atomic
        refine hypothesis _ (fun other member => members other (List.mem_cons_of_mem _ member)) ?_
        exact reloadOption_atomic typed.known (typed.reloaded atomic).known faults atomic
          (members option List.mem_cons_self)
  exact rounds store.options store (fun _ member => member) ⟨rfl, Revalued.refl _ _⟩

/-! ## Runs -/

inductive StoreStep
  | set (call : SetDrvOptCall) (faults : KernelFaults)
  | reset (call : DrvOptCall) (faults : KernelFaults)
  | reload (faults : KernelFaults)
  /-- Something else than the driver writes to the registry. -/
  | edit (registry : List Nat → Option RegistryValue)

def StoreStep.after (store : OptionStore) : StoreStep → OptionStore
  | .set call faults => (call.outcome store faults.toOptionFaults).value.2
  | .reset call faults => (call.outcome store faults.toOptionFaults).value.2
  | .reload faults => wnbdReloadPersistentOptions store faults.toOptionFaults
  | .edit registry => { store with registry }

/-- The store of a driver that is loaded with this registry, after the steps. -/
def storeAfter (registry : List Nat → Option RegistryValue) (steps : List StoreStep) :
    OptionStore :=
  steps.foldl StoreStep.after ⟨wnbdDriverOptions, registry⟩

theorem Typed.updated {name : List Nat} {store : OptionStore} {result : NtStatus × OptionStore}
    (typed : Typed store.options) (atomic : UpdateAtomic name store result) :
    Typed result.2.options := by
  by_cases success : result.1 = statusSuccess
  · refine typed.revalued (atomic.options success) ?_
    rintro option _ value ⟨_, valueTyped⟩
    exact valueTyped
  · rw [atomic.failed success]
    exact typed

theorem StoreStep.typed {store : OptionStore} (typed : Typed store.options) (step : StoreStep) :
    Typed (step.after store).options := by
  cases step with
  | set call faults => exact typed.updated (call.atomic store typed faults)
  | reset call faults => exact typed.updated (call.atomic store typed faults)
  | reload faults => exact typed.reloaded (wnbdReloadPersistentOptions_atomic typed _)
  | edit registry => exact typed

theorem storeAfter_typed (registry : List Nat → Option RegistryValue) (steps : List StoreStep) :
    Typed (storeAfter registry steps).options := by
  have run : ∀ (rest : List StoreStep) (store : OptionStore), Typed store.options →
      Typed (rest.foldl StoreStep.after store).options := by
    intro rest
    induction rest with
    | nil => exact fun store typed => typed
    | cons step rest hypothesis =>
        intro store typed
        exact hypothesis _ (step.typed typed)
  exact run steps _ typed_wnbdDriverOptions

/-- After every history each value has its option's type, and the next set, reset or
reload is atomic, whatever its input, the registry and the failures of the kernel. -/
theorem option_store_typed_atomic (registry : List Nat → Option RegistryValue)
    (steps : List StoreStep) :
    (∀ option ∈ (storeAfter registry steps).options, option.value.type = option.type.code) ∧
      (∀ (call : SetDrvOptCall) (faults : KernelFaults),
        UpdateAtomic call.name (storeAfter registry steps)
          (call.outcome (storeAfter registry steps) faults.toOptionFaults).value) ∧
      (∀ (call : DrvOptCall) (faults : KernelFaults),
        UpdateAtomic call.name (storeAfter registry steps)
          (call.outcome (storeAfter registry steps) faults.toOptionFaults).value) ∧
      ∀ faults : KernelFaults, ReloadAtomic (storeAfter registry steps)
        (wnbdReloadPersistentOptions (storeAfter registry steps) faults.toOptionFaults) := by
  have typed := storeAfter_typed registry steps
  refine ⟨typed.values, ?_, ?_, ?_⟩
  · intro call faults
    exact call.atomic _ typed faults
  · intro call faults
    exact call.atomic _ typed faults
  · intro faults
    exact wnbdReloadPersistentOptions_atomic typed _

end Wnbd.Ioctl
