import Wnbd.Ioctl.Transfer

/-!
# The commands

One definition for each case of the switch in `WnbdParseUserIOCTL`, with the
length checks as the source has them.
-/

set_option autoImplicit false

namespace Wnbd.Ioctl

open CLayout CLayout.Region TracedBuffer Wnbd.Scsi Wnbd.Dispatch

def pointerSize : Nat := pointer.size

/-- `sizeof(IOCTL_WNBD_LIST_DRV_OPT)`: the constant is an `int`. -/
def ioctlCodeSize : Nat := uint32.size

/-! ## Create -/

def createProperties : Region :=
  (whole wnbdIoctlCreateCommand).field wnbdIoctlCreateCommandFields 1

def lastByte (array : Region) : Region := ⟨array.offset + (array.length - 1), 1⟩

def nbdPropertiesField (index : Nat) : Region :=
  (propertiesField 8).field [array byte wnbdMaxNameLength, uint32, array byte wnbdMaxNameLength,
    uint32, array byte 32] index

def terminateStrings (properties : Memory) : Memory :=
  [propertiesField 0, propertiesField 1, propertiesField 2, nbdPropertiesField 0,
    nbdPropertiesField 2].foldl
      (fun properties array => store properties (lastByte array) fun _ => 0) properties

def ullongMaxNat : Nat := 2 ^ 64 - 1

/-- The checks and defaults of the create command on its copy of the properties. -/
def prepareProperties (requestorPid : UInt32) (properties : Memory) : Option Memory :=
  let properties := terminateStrings properties
  let instanceName := stringAt properties byte.size wnbdMaxNameLength (propertiesField 0).offset
  let serialNumber := stringAt properties byte.size wnbdMaxNameLength (propertiesField 1).offset
  let blockCount := natAt properties (propertiesField 4)
  let blockSize := natAt properties (propertiesField 5)
  if flagSet properties 5 then none
  else if instanceName = [] then none
  else if blockCount = 0 ∨ blockSize = 0 ∨ blockCount > ullongMaxNat / blockSize then none
  else
    let named := if serialNumber = [] then
      store properties ⟨(propertiesField 1).offset, instanceName.length⟩ fun index =>
        UInt8.ofNat (instanceName.getD index 0)
      else properties
    some (if natAt named (propertiesField 7) = 0 then
      store named (propertiesField 7) (leBytes requestorPid.toNat) else named)

def ioctlCreate (extension : WnbdExtension) (irp : ServiceIrp) : Traced IoctlResult :=
  if checkILocation irp wnbdIoctlCreateCommand.size ∨
      checkOLocation irp wnbdConnectionInfo.size then
    finish statusInvalidParameter
  else do
    let properties ← loadBytes .take createProperties
    match prepareProperties extension.requestorPid properties with
    | none => finish statusInvalidParameter
    | some properties =>
        match extension.createConnection properties with
        | .error status => finish status
        | .ok connectionInfo => do
            storeBytes (whole wnbdConnectionInfo) connectionInfo
            pure ⟨statusSuccess, wnbdConnectionInfo.size, .connect properties⟩

/-! ## Commands that name a device -/

def nameCommandName : Region :=
  (whole wnbdIoctlShowCommand).field wnbdIoctlNameCommandFields 1

def removeCommandName : Region :=
  (whole wnbdIoctlRemoveCommand).field wnbdIoctlRemoveCommandFields 1

/-- The terminator is set in place and the length taken. -/
def terminateName (name : Region) : Traced (List Nat) := do
  storeNat (lastByte name) 0
  loadString .take byte.size name.offset name.length

def ioctlRemove (extension : WnbdExtension) (irp : ServiceIrp) : Traced IoctlResult :=
  if checkILocation irp wnbdIoctlRemoveCommand.size then finish statusInvalidParameter
  else do
    let name ← terminateName removeCommandName
    if name = [] then finish statusInvalidParameter
    else do
      let found ← wnbdFindDeviceByInstanceName removeCommandName.offset extension.devices
      match found with
      | none => finish statusObjectNameNotFound
      | some device => pure ⟨statusSuccess, 0, .disconnect device.connectionId⟩

/-- The steps `SHOW` and `STATS` share: the name, the output check, the lookup. -/
def withNamedDevice (extension : WnbdExtension) (irp : ServiceIrp) (inputSize outputSize : Nat)
    (handle : ListedDevice → Traced IoctlResult) : Traced IoctlResult :=
  if checkILocation irp inputSize then finish statusInvalidParameter
  else do
    let name ← terminateName nameCommandName
    if name = [] then finish statusInvalidParameter
    else if checkOLocation irp outputSize then finish statusBufferOverflow
    else do
      let found ← wnbdFindDeviceByInstanceName nameCommandName.offset extension.devices
      match found with
      | none => finish statusObjectNameNotFound
      | some device => handle device

/-- The input check compares with the size of a pointer. -/
def ioctlShow (extension : WnbdExtension) (irp : ServiceIrp) : Traced IoctlResult :=
  withNamedDevice extension irp pointerSize wnbdConnectionInfo.size fun device => do
    writeConnectionInfo (whole wnbdConnectionInfo) device
    pure ⟨statusSuccess, wnbdConnectionInfo.size, .none⟩

def ioctlStats (extension : WnbdExtension) (irp : ServiceIrp) : Traced IoctlResult :=
  withNamedDevice extension irp wnbdIoctlStatsCommand.size wnbdDrvStats.size fun device => do
    storeBytes (whole wnbdDrvStats) device.stats
    pure ⟨statusSuccess, wnbdDrvStats.size, .none⟩

/-! ## Commands that name a connection -/

def setSizeField (index : Nat) : Region :=
  (whole wnbdIoctlSetSizeCommand).field wnbdIoctlSetSizeCommandFields index

/-- Nothing compares the input length with the size of the command. -/
def ioctlSetDiskSize (extension : WnbdExtension) : Traced IoctlResult := do
  let connectionId ← loadNat .take (setSizeField 1)
  let blockCount ← loadNat .take (setSizeField 2)
  match wnbdFindDeviceByConnId extension.devices connectionId with
  | none => finish statusObjectNameNotFound
  | some device => pure ⟨statusSuccess, 0, .resize device.connectionId blockCount⟩

/-- Both checks compare with the size of a pointer. -/
def ioctlFetchReq (extension : WnbdExtension) (irp : ServiceIrp) : Traced (Option IoctlResult) :=
  if checkILocation irp pointerSize ∨ checkOLocation irp pointerSize then
    some <$> finish statusInvalidParameter
  else do
    let connectionId ← loadNat .take (fetchCommandField 2)
    match wnbdFindDeviceByConnId extension.devices connectionId with
    | none => some <$> finish statusInvalidHandle
    | some device => do
        let status ← wnbdDispatchRequestAt (propertiesOf device.properties) extension.requestorPid
          device.fetchRounds
        match status with
        | none => pure none
        | some status => do
            let _ ← loadNat .read (requestField 1)
            let _ ← loadNat .read (requestField 0)
            pure (some ⟨status, wnbdIoctlFetchReqCommand.size, .none⟩)

/-- The check compares with the size of a pointer. -/
def ioctlSendRsp (extension : WnbdExtension) (irp : ServiceIrp) : Traced IoctlResult :=
  if checkILocation irp pointerSize then finish statusInvalidParameter
  else do
    let connectionId ← loadNat .take (rspCommandField 2)
    match wnbdFindDeviceByConnId extension.devices connectionId with
    | none => finish statusInvalidHandle
    | some device => do
        let status ← wnbdHandleResponseAt device extension.requestorPid
        finish status

/-! ## List -/

def connectionListCount : Region := (whole wnbdConnectionList).field wnbdConnectionListFields 1

def connectionListElementSize : Region :=
  (whole wnbdConnectionList).field wnbdConnectionListFields 0

/-- The list may go on behind the one element its type declares. -/
def connectionListEntry (index : Nat) : Region :=
  ((whole wnbdConnectionList).field wnbdConnectionListFields 2).element wnbdConnectionInfo index

def connectionListHeader : Nat := connectionListCount.stop

/-- `RequiredBuffSize`: a product of 64 bit numbers, kept in 32 bits. -/
def listRequiredSize (extension : WnbdExtension) : Nat :=
  ((extension.deviceCount * wnbdConnectionInfo.size + wnbdConnectionList.size) % 2 ^ 32).toNat

def enumerateDevices : Nat → List ListedDevice → Traced Bool
  | _, [] => pure true
  | 0, _ :: _ => pure false
  | remaining + 1, device :: rest => do
      let count ← loadNat .read connectionListCount
      writeConnectionInfo (connectionListEntry count) device
      incrementCount connectionListCount
      enumerateDevices remaining rest

/-- `Remaining`, computed in 64 bits and kept in 32. -/
def listRemaining (outputBufferLength : UInt32) : Nat :=
  (outputBufferLength.toUInt64 - UInt64.ofNat connectionListHeader).toNat /
    wnbdConnectionInfo.size % 2 ^ 32

def wnbdEnumerateActiveConnections (extension : WnbdExtension) (irp : ServiceIrp) :
    Traced IoctlResult := do
  storeNat connectionListCount 0
  storeNat connectionListElementSize wnbdConnectionInfo.size
  let complete ← enumerateDevices (listRemaining irp.outputBufferLength) extension.devices
  let count ← loadNat .read connectionListCount
  let _ ← loadNat .read connectionListElementSize
  pure ⟨if complete then statusSuccess else statusBufferOverflow,
    count * wnbdConnectionInfo.size + connectionListHeader, .none⟩

/-- A short buffer is answered with the size it needs and no error. -/
def ioctlList (extension : WnbdExtension) (irp : ServiceIrp) : Traced IoctlResult :=
  if checkOLocation irp (listRequiredSize extension) then
    pure ⟨statusSuccess, listRequiredSize extension, .none⟩
  else wnbdEnumerateActiveConnections extension irp

/-! ## Version -/

def versionField (index : Nat) : Region := (whole wnbdVersion).field wnbdVersionFields index

def ioctlVersion (extension : WnbdExtension) (irp : ServiceIrp) : Traced IoctlResult :=
  if checkILocation irp wnbdIoctlBaseCommand.size then finish statusInvalidParameter
  else if checkOLocation irp wnbdVersion.size then finish statusBufferOverflow
  else do
    zeroMemory (whole wnbdVersion)
    storeNat (versionField 0) extension.version.major
    storeNat (versionField 1) extension.version.minor
    storeNat (versionField 2) extension.version.patch
    let length := min extension.version.str.length (wnbdMaxVersionStrLength - 1)
    storeBytes ⟨(versionField 3).offset, length⟩ fun index => extension.version.str.getD index 0
    pure ⟨statusSuccess, wnbdVersion.size, .none⟩

/-! ## Options -/

def drvOptField (index : Nat) : Region :=
  (whole wnbdIoctlGetDrvOptCommand).field wnbdIoctlDrvOptCommandFields index

def setDrvOptField (index : Nat) : Region :=
  (whole wnbdIoctlSetDrvOptCommand).field wnbdIoctlSetDrvOptCommandFields index

def terminateOptName (name : Region) : Traced Unit :=
  storeNat (name.element wchar (wnbdMaxOptNameLength - 1)) 0

def ioctlGetDrvOpt (extension : WnbdExtension) (irp : ServiceIrp) : Traced IoctlResult :=
  if checkILocation irp wnbdIoctlGetDrvOptCommand.size then finish statusInvalidParameter
  else if checkOLocation irp wnbdOptionValue.size then finish statusBufferOverflow
  else do
    terminateOptName (drvOptField 1)
    let name ← loadString .take wchar.size (drvOptField 1).offset wnbdMaxOptNameLength
    let persistent ← loadNat .take (drvOptField 2)
    let status ← wnbdGetDrvOpt extension.optionStore extension.optionFaults name
      (whole wnbdOptionValue) (persistent ≠ 0)
    pure ⟨status, wnbdOptionValue.size, .none⟩

/-- A success that turns `NewMappingsAllowed` off waits for pending mappings. -/
def loadMappingsBarrier (status : NtStatus) : Traced Unit :=
  if status = statusSuccess then do
    let same ← compareString .take wchar.size (setDrvOptField 1).offset foldCase
      (wideName "NewMappingsAllowed")
    if same then do
      let _ ← loadNat .take (valueAsBool (setDrvOptField 2))
      pure ()
    else pure ()
  else pure ()

def ioctlSetDrvOpt (extension : WnbdExtension) (irp : ServiceIrp) : Traced IoctlResult :=
  if checkILocation irp wnbdIoctlSetDrvOptCommand.size then finish statusInvalidParameter
  else do
    terminateOptName (setDrvOptField 1)
    let persistent ← loadNat .take (setDrvOptField 3)
    let (status, optionStore) ← wnbdSetDrvOpt extension.optionStore extension.optionFaults
      (setDrvOptField 1).offset (setDrvOptField 2) (persistent ≠ 0)
    loadMappingsBarrier status
    pure ⟨status, 0, .options optionStore⟩

def ioctlResetDrvOpt (extension : WnbdExtension) (irp : ServiceIrp) : Traced IoctlResult :=
  if checkILocation irp wnbdIoctlResetDrvOptCommand.size then finish statusInvalidParameter
  else do
    terminateOptName (drvOptField 1)
    let persistent ← loadNat .take (drvOptField 2)
    let (status, optionStore) ← wnbdResetDrvOpt extension.optionStore extension.optionFaults
      (drvOptField 1).offset (persistent ≠ 0)
    pure ⟨status, 0, .options optionStore⟩

def listDrvOptPersistent : Region :=
  (whole wnbdIoctlListDrvOptCommand).field wnbdIoctlListDrvOptCommandFields 1

/-- The check compares with the size of the control code; a short output buffer is
answered with the size it needs and no error. -/
def ioctlListDrvOpt (extension : WnbdExtension) (irp : ServiceIrp) : Traced IoctlResult :=
  if checkILocation irp ioctlCodeSize then finish statusInvalidParameter
  else do
    let persistent ← loadNat .take listDrvOptPersistent
    let (status, bufferSize) ← wnbdListDrvOpt extension.optionStore extension.optionFaults
      irp.outputBufferLength.toNat (persistent ≠ 0)
    if status = statusSuccess ∨ status = statusBufferTooSmall then
      pure ⟨statusSuccess, bufferSize, .none⟩
    else finish status

def ioctlReloadConfig (extension : WnbdExtension) : Traced IoctlResult :=
  pure ⟨statusSuccess, 0, .options
    (wnbdReloadPersistentOptions extension.optionStore extension.optionFaults)⟩

/-! ## The switch -/

inductive WnbdCommand
  | ping | create | remove | fetchReq | sendRsp | list | stats | reloadConfig | version | show
  | getDrvOpt | setDrvOpt | resetDrvOpt | listDrvOpt | setDiskSize
deriving DecidableEq, Repr

def wnbdCommand : Nat → Option WnbdCommand
  | 1 => some .ping
  | 2 => some .create
  | 3 => some .remove
  | 4 => some .fetchReq
  | 5 => some .sendRsp
  | 6 => some .list
  | 7 => some .stats
  | 8 => some .reloadConfig
  | 9 => some .version
  | 10 => some .show
  | 11 => some .getDrvOpt
  | 12 => some .setDrvOpt
  | 13 => some .resetDrvOpt
  | 14 => some .listDrvOpt
  | 15 => some .setDiskSize
  | _ => none

def handleCommand (extension : WnbdExtension) (irp : ServiceIrp) :
    WnbdCommand → Traced (Option IoctlResult)
  | .ping => some <$> finish statusSuccess
  | .create => some <$> ioctlCreate extension irp
  | .remove => some <$> ioctlRemove extension irp
  | .fetchReq => ioctlFetchReq extension irp
  | .sendRsp => some <$> ioctlSendRsp extension irp
  | .list => some <$> ioctlList extension irp
  | .stats => some <$> ioctlStats extension irp
  | .reloadConfig => some <$> ioctlReloadConfig extension
  | .version => some <$> ioctlVersion extension irp
  | .show => some <$> ioctlShow extension irp
  | .getDrvOpt => some <$> ioctlGetDrvOpt extension irp
  | .setDrvOpt => some <$> ioctlSetDrvOpt extension irp
  | .resetDrvOpt => some <$> ioctlResetDrvOpt extension irp
  | .listDrvOpt => some <$> ioctlListDrvOpt extension irp
  | .setDiskSize => some <$> ioctlSetDiskSize extension

def ioctlMiniportProcessServiceIrp : UInt32 := 0x0004D038

def baseCommandCode : Region := ⟨0, wnbdIoctlBaseCommand.size⟩

/-- The result, or none while a fetch still waits. -/
def wnbdParseUserIoctl (extension : WnbdExtension) (irp : ServiceIrp) :
    Traced (Option IoctlResult) :=
  if irp.ioControlCode ≠ ioctlMiniportProcessServiceIrp then
    some <$> finish statusInvalidDeviceRequest
  else if !irp.hasSystemBuffer ∨ checkILocation irp wnbdIoctlBaseCommand.size then
    some <$> finish statusInvalidParameter
  else do
    let code ← loadNat .take baseCommandCode
    match wnbdCommand code with
    | none => some <$> finish statusInvalidDeviceRequest
    | some command => handleCommand extension irp command

end Wnbd.Ioctl
