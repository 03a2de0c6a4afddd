import Wnbd.Foundation.TracedBuffer
import Wnbd.Ioctl.Layout
import Wnbd.Scsi.Srb

/-!
# Driver options

The option table of the driver and the functions that read and change it.  A
`WNBD_OPTION_VALUE` is its 584 bytes; one that lives in the system buffer is
named by its region there.  The registry holds what `ZwSetValueKey` stored, and
`OptionFaults` says which kernel calls fail.
-/

set_option autoImplicit false

namespace Wnbd.Ioctl

open CLayout CLayout.Region TracedBuffer Wnbd.Scsi

inductive WnbdOptValType
  | unknown | bool | int64 | wstr
deriving DecidableEq, Repr

def WnbdOptValType.code : WnbdOptValType → Nat
  | .unknown => 0
  | .bool => 1
  | .int64 => 2
  | .wstr => 3

/-- The bytes of a `WNBD_OPTION_VALUE`. -/
abbrev OptionValue := Memory

/-! ## Places in an option value -/

section Places

variable (value : Region)

def valueType : Region := value.field wnbdOptionValueFields 0

def valueData : Region := value.field wnbdOptionValueFields 1

def valueAsBool : Region := ⟨(valueData value).offset, byte.size⟩

def valueAsInt64 : Region := ⟨(valueData value).offset, uint64.size⟩

def valueLastWchar : Region := (valueData value).element wchar (wnbdMaxNameLength - 1)

end Places

/-! ## The table -/

structure WnbdOption where
  name : List Nat
  type : WnbdOptValType
  default : OptionValue
  value : OptionValue

def wideName (name : String) : List Nat := name.toList.map Char.toNat

def typedValue (type : WnbdOptValType) (data : Region → Region) (value : Nat) : OptionValue :=
  store (store (fun _ => 0) (valueType (whole wnbdOptionValue)) (leBytes type.code))
    (data (whole wnbdOptionValue)) (leBytes value)

def boolValue (value : Bool) : OptionValue := typedValue .bool valueAsBool value.toNat

def int64Value (value : Nat) : OptionValue := typedValue .int64 valueAsInt64 value

def wnbdDefOpt (name : String) (type : WnbdOptValType) (value : OptionValue) : WnbdOption :=
  { name := wideName name, type, default := value, value }

def wnbdLvlWarn : Nat := 1

/-- `WnbdDriverOptions` before any option is set. -/
def wnbdDriverOptions : List WnbdOption :=
  [wnbdDefOpt "LogLevel" .int64 (int64Value wnbdLvlWarn),
    wnbdDefOpt "NewMappingsAllowed" .bool (boolValue true),
    wnbdDefOpt "EtwLoggingEnabled" .bool (boolValue true),
    wnbdDefOpt "WppLoggingEnabled" .bool (boolValue false),
    wnbdDefOpt "DbgPrintEnabled" .bool (boolValue true),
    wnbdDefOpt "MaxIOReqPerAdapter" .int64 (int64Value 1000),
    wnbdDefOpt "MaxIOReqPerLun" .int64 (int64Value 255),
    wnbdDefOpt "RemoveStaleConnections" .bool (boolValue true),
    wnbdDefOpt "StaleReqTimeoutMs" .int64 (int64Value 15000),
    wnbdDefOpt "StaleConnTimeoutMs" .int64 (int64Value 60000)]

def foldCase (unit : Nat) : Nat := if 65 ≤ unit ∧ unit ≤ 90 then unit + 32 else unit

def sameName (first second : List Nat) : Bool := first.map foldCase = second.map foldCase

structure RegistryValue where
  type : Nat
  data : List UInt8

structure OptionStore where
  options : List WnbdOption
  /-- Registry values by case-folded name. -/
  registry : List Nat → Option RegistryValue

def OptionStore.setValue (store : OptionStore) (option : WnbdOption) (value : OptionValue) :
    OptionStore :=
  { store with options := store.options.map fun found =>
      if found.name = option.name then { found with value } else found }

def OptionStore.setRegistry (store : OptionStore) (name : List Nat)
    (value : Option RegistryValue) : OptionStore :=
  { store with registry := Function.update store.registry (name.map foldCase) value }

/-- Failures of the registry calls by value name, zero where a call works, and
what `RtlUnicodeStringToInt64` makes of the string of length zero it is given. -/
structure OptionFaults where
  queryValueKey : List Nat → NtStatus
  setValueKey : List Nat → NtStatus
  deleteValueKey : List Nat → NtStatus
  unicodeStringToInt64 : Except NtStatus Nat

def regSz : Nat := 1
def regNone : Nat := 0
def regQword : Nat := 11

def wnbdOptRegType : WnbdOptValType → Nat
  | .bool | .int64 => regQword
  | .wstr => regSz
  | .unknown => regNone

def wnbdOptRegSize : WnbdOptValType → Nat
  | .bool | .int64 => 8
  | .wstr => wnbdMaxNameLength
  | .unknown => 0

/-- `ZwQueryValueKey` into a buffer for the header, 12 bytes of it in front of the
data, and one more name. -/
def zwQueryValueKey (store : OptionStore) (faults : OptionFaults) (name : List Nat) :
    Except NtStatus RegistryValue :=
  if faults.queryValueKey name ≠ 0 then .error (faults.queryValueKey name)
  else
    match store.registry (name.map foldCase) with
    | none => .error statusObjectNameNotFound
    | some value =>
        if 12 + value.data.length > 16 + wnbdMaxNameLength * wchar.size then
          .error statusBufferOverflow
        else .ok value

/-! ## Reading options -/

/-- `WnbdFindOpt` for a name outside the system buffer. -/
def wnbdFindOpt (options : List WnbdOption) (name : List Nat) : Option WnbdOption :=
  options.find? fun option => sameName name option.name

/-- The registry value of an option as the 64 bit number it must be. -/
def registryNumber (value : RegistryValue) : Except NtStatus Nat :=
  if value.data.length ≠ 8 then .error statusObjectTypeMismatch
  else .ok (BigEndian.ofBytes value.data.reverse)

/-- The part of `WnbdGetPersistentOpt` behind the registry query. -/
def wnbdStorePersistentOpt (option : WnbdOption) (found : RegistryValue) (value : Region) :
    Traced NtStatus :=
  if wnbdOptRegType option.type ≠ found.type then pure statusObjectTypeMismatch
  else
    match option.type with
    | .bool =>
        match registryNumber found with
        | .error status => pure status
        | .ok number => do
            storeNat (valueAsBool value) (decide (number ≠ 0)).toNat
            storeNat (valueType value) option.type.code
            pure statusSuccess
    | .int64 =>
        match registryNumber found with
        | .error status => pure status
        | .ok number => do
            storeNat (valueAsInt64 value) number
            storeNat (valueType value) option.type.code
            pure statusSuccess
    | .wstr =>
        if found.data.length > wnbdMaxNameLength * wchar.size then pure statusBufferOverflow
        else do
          storeBytes ⟨(valueData value).offset, found.data.length⟩ fun index =>
            found.data.getD index 0
          storeNat (valueType value) option.type.code
          pure statusSuccess
    | .unknown => pure statusObjectTypeMismatch

def wnbdGetPersistentOpt (store : OptionStore) (faults : OptionFaults) (name : List Nat)
    (value : Region) : Traced NtStatus :=
  match wnbdFindOpt store.options name with
  | none => pure statusObjectNameNotFound
  | some option => do
      zeroMemory (valueData value)
      match zwQueryValueKey store faults name with
      | .error status => pure status
      | .ok found => wnbdStorePersistentOpt option found value

def wnbdGetDrvOpt (store : OptionStore) (faults : OptionFaults) (name : List Nat) (value : Region)
    (persistent : Bool) : Traced NtStatus :=
  if persistent then wnbdGetPersistentOpt store faults name value
  else
    match wnbdFindOpt store.options name with
    | none => pure statusObjectNameNotFound
    | some option => do
        storeBytes value option.value
        pure statusSuccess

/-- `WnbdGetPersistentOpt` into a zeroed value on the stack. -/
def persistentValue (store : OptionStore) (faults : OptionFaults) (name : List Nat) :
    NtStatus × OptionValue :=
  let outcome := wnbdGetPersistentOpt store faults name (whole wnbdOptionValue) fun _ => 0
  (outcome.value, outcome.memory)

/-! ## Setting options -/

/-- `WnbdFindOpt` for a name in the system buffer. -/
def wnbdFindOptAt (offset : Nat) : List WnbdOption → Traced (Option WnbdOption)
  | [] => pure none
  | option :: rest => do
      let same ← compareString .take wchar.size offset foldCase option.name
      if same then pure (some option) else wnbdFindOptAt offset rest

def isAnyWord (offset : Nat) : List String → Traced Bool
  | [] => pure false
  | word :: rest => do
      let same ← compareString .take wchar.size offset foldCase (wideName word)
      if same then pure true else isAnyWord offset rest

def wstrToBool (offset : Nat) : Traced (Except NtStatus Bool) := do
  let isTrue ← isAnyWord offset ["1", "t", "true", "yes", "y"]
  if isTrue then pure (.ok true)
  else do
    let isFalse ← isAnyWord offset ["0", "f", "false", "no", "n"]
    if isFalse then pure (.ok false) else pure (.error statusInvalidParameter)

/-- The conversion of a string value to the option's type. -/
def convertWstr (option : WnbdOption) (faults : OptionFaults) (value : Region) :
    Traced (Except NtStatus OptionValue) :=
  match option.type with
  | .bool => do
      let converted ← wstrToBool (valueData value).offset
      pure (converted.map boolValue)
  | .int64 => pure (faults.unicodeStringToInt64.map int64Value)
  | .wstr | .unknown => pure (.error statusObjectTypeMismatch)

def terminateWstr (type : Nat) (value : Region) : Traced Unit :=
  if type = WnbdOptValType.wstr.code then storeNat (valueLastWchar value) 0 else pure ()

def wnbdProcessOptionValue (option : WnbdOption) (faults : OptionFaults) (value : Region) :
    Traced NtStatus := do
  let type ← loadNat .take (valueType value)
  terminateWstr type value
  if type = option.type.code then pure statusSuccess
  else if type ≠ WnbdOptValType.wstr.code then pure statusObjectTypeMismatch
  else do
    let converted ← convertWstr option faults value
    match converted with
    | .error status => pure status
    | .ok bytes => do
        storeBytes value bytes
        pure statusSuccess

/-- `ZwSetValueKey` with the data of the value, for a persistent option. -/
def setPersistentOpt (store : OptionStore) (faults : OptionFaults) (option : WnbdOption)
    (nameOffset : Nat) (value : Region) (persistent : Bool) :
    Traced (Except NtStatus OptionStore) :=
  if persistent then do
    let name ← loadString .take wchar.size nameOffset wnbdMaxNameLength
    let bytes ← loadBytes .take ⟨(valueData value).offset, wnbdOptRegSize option.type⟩
    if faults.setValueKey name ≠ 0 then pure (.error (faults.setValueKey name))
    else
      let data := (List.range (wnbdOptRegSize option.type)).map bytes
      pure (.ok (store.setRegistry name (some ⟨wnbdOptRegType option.type, data⟩)))
  else pure (.ok store)

/-- The warning prints the name. -/
def optionNotFound (store : OptionStore) (nameOffset : Nat) : Traced (NtStatus × OptionStore) := do
  let _ ← loadString .take wchar.size nameOffset wnbdMaxNameLength
  pure (statusObjectNameNotFound, store)

def wnbdSetDrvOpt (store : OptionStore) (faults : OptionFaults) (nameOffset : Nat) (value : Region)
    (persistent : Bool) : Traced (NtStatus × OptionStore) := do
  let found ← wnbdFindOptAt nameOffset store.options
  match found with
  | none => optionNotFound store nameOffset
  | some option => do
      let status ← wnbdProcessOptionValue option faults value
      if status ≠ statusSuccess then pure (status, store)
      else do
        let persisted ← setPersistentOpt store faults option nameOffset value persistent
        match persisted with
        | .error status => pure (status, store)
        | .ok store => do
            let bytes ← loadBytes .take value
            pure (statusSuccess, store.setValue option bytes)

def wnbdResetDrvOpt (store : OptionStore) (faults : OptionFaults) (nameOffset : Nat)
    (persistent : Bool) : Traced (NtStatus × OptionStore) := do
  let found ← wnbdFindOptAt nameOffset store.options
  match found with
  | none => optionNotFound store nameOffset
  | some option =>
      if persistent then do
        let name ← loadString .take wchar.size nameOffset wnbdMaxNameLength
        let status := if faults.deleteValueKey name ≠ 0 then faults.deleteValueKey name
          else if (store.registry (name.map foldCase)).isNone then statusObjectNameNotFound
          else statusSuccess
        if status ≠ statusSuccess then pure (status, store)
        else pure (statusSuccess, (store.setRegistry name none).setValue option option.default)
      else pure (statusSuccess, store.setValue option option.default)

def reloadOption (faults : OptionFaults) (store : OptionStore) (option : WnbdOption) :
    OptionStore :=
  let (status, value) := persistentValue store faults option.name
  if status ≠ statusSuccess then store
  else
    let processed := wnbdProcessOptionValue option faults (whole wnbdOptionValue) value
    if processed.value ≠ statusSuccess then store else store.setValue option processed.memory

def wnbdReloadPersistentOptions (store : OptionStore) (faults : OptionFaults) : OptionStore :=
  store.options.foldl (reloadOption faults) store

/-! ## Listing options -/

def optionBytes (option : WnbdOption) (value : OptionValue) : Memory :=
  let record := whole wnbdOption
  let name := store (fun _ => 0) (record.field wnbdOptionFields 0) fun index =>
    leBytes (option.name.getD (index / wchar.size) 0) (index % wchar.size)
  let type := store name (record.field wnbdOptionFields 1) (leBytes option.type.code)
  let default := store type (record.field wnbdOptionFields 2) option.default
  store default (record.field wnbdOptionFields 3) value

def optionListCount : Region := (whole wnbdOptionList).field wnbdOptionListFields 1

/-- The list may go on behind the one element its type declares. -/
def optionListEntry (index : Nat) : Region :=
  ((whole wnbdOptionList).field wnbdOptionListFields 2).element wnbdOption index

def incrementCount (count : Region) : Traced Unit := do
  let found ← loadNat .read count
  storeNat count (found + 1)

/-- The persistent listing reads `Count` again for the value. -/
def storePersistentValue : Option OptionValue → Traced Unit
  | none => pure ()
  | some value => do
      let count ← loadNat .read optionListCount
      storeBytes ((optionListEntry count).field wnbdOptionFields 3) value

def appendOption (option : WnbdOption) (value : Option OptionValue) (index : Nat) :
    Traced Unit := do
  storeBytes (optionListEntry index) (optionBytes option option.value)
  storePersistentValue value
  incrementCount optionListCount

def listOption (store : OptionStore) (faults : OptionFaults) (persistent : Bool) (index : Nat)
    (option : WnbdOption) : Traced Unit :=
  if persistent then
    if (persistentValue store faults option.name).1 = statusSuccess then do
      let count ← loadNat .read optionListCount
      appendOption option (some (persistentValue store faults option.name).2) count
    else pure ()
  else appendOption option none index

def listOptions (store : OptionStore) (faults : OptionFaults) (persistent : Bool) :
    Nat → List WnbdOption → Traced Unit
  | _, [] => pure ()
  | index, option :: rest => do
      listOption store faults persistent index option
      listOptions store faults persistent (index + 1) rest

def listDrvOptSize (options : List WnbdOption) : Nat :=
  wnbdOption.size * options.length + wnbdOptionList.size

/-- The status and the value of `*BufferSize`. -/
def wnbdListDrvOpt (store : OptionStore) (faults : OptionFaults) (bufferSize : Nat)
    (persistent : Bool) : Traced (NtStatus × Nat) :=
  if bufferSize < listDrvOptSize store.options then
    pure (statusBufferTooSmall, listDrvOptSize store.options)
  else do
    storeNat optionListCount 0
    listOptions store faults persistent 0 store.options
    pure (statusSuccess, bufferSize)

end Wnbd.Ioctl
