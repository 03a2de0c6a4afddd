import Wnbd.Dispatch.Fetch
import Wnbd.Dispatch.Response
import Wnbd.Ioctl.Options

/-!
# Service IRPs

The lengths an IRP comes with, what the handlers see of the rest of the driver,
and the parts they share: the device lookups and the connection record.
`AssociatedIrp.SystemBuffer` is the memory the handlers run on.
-/

set_option autoImplicit false

namespace Wnbd.Ioctl

open CLayout CLayout.Region TracedBuffer Wnbd.Scsi Wnbd.Dispatch

structure ServiceIrp where
  ioControlCode : UInt32
  /-- `SystemBuffer` is not NULL. -/
  hasSystemBuffer : Bool
  inputBufferLength : UInt32
  outputBufferLength : UInt32

/-- `CHECK_I_LOCATION`: the input buffer is shorter than the type. -/
def checkILocation (irp : ServiceIrp) (size : Nat) : Bool := irp.inputBufferLength.toNat < size

def checkOLocation (irp : ServiceIrp) (size : Nat) : Bool := irp.outputBufferLength.toNat < size

/-- What a handled command does outside the system buffer. -/
inductive IoctlEffect
  | none
  | connect (properties : Memory)
  | disconnect (connectionId : UInt64)
  | resize (connectionId : UInt64) (blockCount : Nat)
  | options (store : OptionStore)

/-- The status and `IoStatus.Information`, which the I/O manager sets to zero
beforehand. -/
structure IoctlResult where
  status : NtStatus
  information : Nat
  effect : IoctlEffect

def finish (status : NtStatus) : Traced IoctlResult := pure ⟨status, 0, .none⟩

structure SubmittedElement where
  range : ElementRange
  srb : Srb
  aborted : Bool
  faults : ResponseFaults

/-- A device as the handlers find it.  Its threads and queues appear through what
one fetch call meets and through the submitted list by tag. -/
structure ListedDevice where
  /-- `WNBD_PROPERTIES`. -/
  properties : Memory
  connectionId : UInt64
  /-- `WnbdAcquireDevice` succeeds. -/
  acquired : Bool
  bus : Nat
  target : Nat
  lun : Nat
  diskNumber : Nat
  pnpDeviceId : Memory
  stats : Memory
  fetchRounds : List FetchRound
  submitted : Nat → Option SubmittedElement

structure WnbdVersion where
  major : Nat
  minor : Nat
  patch : Nat
  str : List UInt8

/-- The driver around the handlers.  The devices are the list as it is walked;
`DeviceCount` is read outside its lock. -/
structure WnbdExtension where
  requestorPid : UInt32
  deviceCount : Int
  devices : List ListedDevice
  /-- The outcome of `WnbdCreateConnection`. -/
  createConnection : Memory → Except NtStatus Memory
  optionStore : OptionStore
  optionFaults : OptionFaults
  version : WnbdVersion

/-! ## Properties -/

def propertiesField (index : Nat) : Region :=
  (whole wnbdProperties).field wnbdPropertiesFields index

def flagSet (properties : Memory) (bit : Nat) : Bool :=
  (natAt properties (propertiesField 3)).testBit bit

def propertiesOf (properties : Memory) : WnbdProperties :=
  { instanceName := (stringAt properties byte.size wnbdMaxNameLength
      (propertiesField 0).offset).map UInt8.ofNat
    flags :=
      { readOnly := flagSet properties 0
        flushSupported := flagSet properties 1
        fuaSupported := flagSet properties 2
        unmapSupported := flagSet properties 3
        useKernelNbd := flagSet properties 5
        persistResSupported := flagSet properties 6 }
    blockCount := UInt64.ofNat (natAt properties (propertiesField 4))
    blockSize := UInt32.ofNat (natAt properties (propertiesField 5))
    pid := UInt32.ofNat (natAt properties (propertiesField 7)) }

def ListedDevice.instanceName (device : ListedDevice) : List Nat :=
  stringAt device.properties byte.size wnbdMaxNameLength (propertiesField 0).offset

/-! ## Lookups -/

def wnbdFindDeviceByInstanceName (nameOffset : Nat) :
    List ListedDevice → Traced (Option ListedDevice)
  | [] => pure none
  | device :: rest => do
      let same ← compareString .take byte.size nameOffset id device.instanceName
      if same then pure (if device.acquired then some device else none)
      else wnbdFindDeviceByInstanceName nameOffset rest

def wnbdFindDeviceByConnId (devices : List ListedDevice) (connectionId : Nat) :
    Option ListedDevice :=
  (devices.find? fun device => device.connectionId.toNat = connectionId).filter (·.acquired)

/-! ## The connection record -/

def connectionField (entry : Region) (index : Nat) : Region :=
  entry.field wnbdConnectionInfoFields index

def writeConnectionInfo (entry : Region) (device : ListedDevice) : Traced Unit := do
  zeroMemory entry
  storeBytes (connectionField entry 0) device.properties
  storeNat (connectionField entry 2) device.bus
  storeNat (connectionField entry 3) device.target
  storeNat (connectionField entry 4) device.lun
  storeNat (connectionField entry 6) device.diskNumber
  storeBytes (connectionField entry 7) device.pnpDeviceId

end Wnbd.Ioctl
