import Wnbd.Foundation.BitMap
import Wnbd.Foundation.HashIndex
import Wnbd.Foundation.Rundown
import Wnbd.Foundation.SyncEvent
import Wnbd.Scsi.Srb

/-!
# Adapter state

The device extension, the SCSI address bit map and the device objects, with the
operations that `WnbdCreateConnection`, the monitor thread and the lookups run
under the device list lock or as single interlocked steps.  A `DeviceId` stands
for one allocation: the id of a freed device is never handed out again, so a
use of a freed device cannot be hidden by the reuse of its memory.
-/

set_option autoImplicit false

namespace Wnbd.Adapter

open Wnbd.Scsi

abbrev DeviceId := Nat

/-- The fields of `WNBD_DISK_DEVICE` that take part in its life cycle. -/
structure WnbdDiskDevice where
  properties : WnbdProperties
  connectionId : UInt64
  bus : Nat
  target : Nat
  lun : Nat
  inquiryData : Bool
  deviceMonitorThread : Bool
  connected : Bool
  hardRemoveDevice : Bool
  deviceRemovalEvent : Bool
  rundownProtection : Rundown
deriving DecidableEq

/-- `MallocZero` and the copy of the properties. -/
def WnbdDiskDevice.zeroed (props : WnbdProperties) : WnbdDiskDevice :=
  { properties := props
    connectionId := 0
    bus := 0
    target := 0
    lun := 0
    inquiryData := false
    deviceMonitorThread := false
    connected := false
    hardRemoveDevice := false
    deviceRemovalEvent := false
    rundownProtection := Rundown.initial }

def wnbdMaxLunsPerTarget : Nat := 1
def wnbdMaxTargetsPerBus : Nat := 128
def wnbdMaxBusesPerAdapter : Nat := 1
def wnbdMaxNumberOfDisks : Nat :=
  wnbdMaxLunsPerTarget * wnbdMaxTargetsPerBus * wnbdMaxBusesPerAdapter

def wnbdConnIdBucket (connectionId : UInt64) : Nat := (connectionId &&& 63).toNat

structure AdapterState where
  deviceList : List DeviceId
  connIdHashBuckets : Nat → List DeviceId
  deviceCount : Int
  rundownProtection : Rundown
  globalDeviceRemovalEvent : SyncEvent DeviceId
  /-- `ScsiBitMapHeader`. -/
  scsiBitMap : List Bool
  /-- The static counter of `WnbdCreateConnection`. -/
  connectionId : UInt64
  /-- The `NewMappingsAllowed` option. -/
  newMappingsAllowed : Bool
  /-- Allocated device objects. -/
  devices : DeviceId → Option WnbdDiskDevice

/-- The adapter after `WnbdHwFindAdapter`. -/
def AdapterState.initial : AdapterState :=
  { deviceList := []
    connIdHashBuckets := fun _ => []
    deviceCount := 0
    rundownProtection := Rundown.initial
    globalDeviceRemovalEvent := SyncEvent.initial
    scsiBitMap := List.replicate wnbdMaxNumberOfDisks false
    connectionId := 1
    newMappingsAllowed := true
    devices := fun _ => none }

namespace AdapterState

def setDevice (state : AdapterState) (device : DeviceId) (value : Option WnbdDiskDevice) :
    AdapterState :=
  { state with devices := Function.update state.devices device value }

def updateDevice (state : AdapterState) (device : DeviceId)
    (change : WnbdDiskDevice → WnbdDiskDevice) : AdapterState :=
  state.setDevice device ((state.devices device).map change)

def acquireRundown (state : AdapterState) : Bool × AdapterState :=
  match state.rundownProtection.acquire with
  | some acquired => (true, { state with rundownProtection := acquired })
  | none => (false, state)

def releaseRundown (state : AdapterState) : AdapterState :=
  { state with rundownProtection := state.rundownProtection.release }

def findDeviceByInstanceName (state : AdapterState) (name : List UInt8) : Option DeviceId :=
  state.deviceList.find? fun device =>
    (state.devices device).any fun value => value.properties.instanceName = name

def scsiBus (scsiBitNumber : Nat) : Nat :=
  scsiBitNumber / wnbdMaxLunsPerTarget / wnbdMaxTargetsPerBus

def scsiTarget (scsiBitNumber : Nat) : Nat :=
  scsiBitNumber / wnbdMaxLunsPerTarget % wnbdMaxTargetsPerBus

def scsiLun (scsiBitNumber : Nat) : Nat := scsiBitNumber % wnbdMaxLunsPerTarget

def addressBit (device : WnbdDiskDevice) : Nat :=
  device.lun + device.target * wnbdMaxLunsPerTarget +
    device.bus * wnbdMaxLunsPerTarget * wnbdMaxTargetsPerBus

def claimBit (state : AdapterState) (scsiBitNumber : Nat) : AdapterState :=
  { state with scsiBitMap := BitMap.setBit state.scsiBitMap scsiBitNumber }

def clearBit (state : AdapterState) (scsiBitNumber : Nat) : AdapterState :=
  { state with scsiBitMap := BitMap.clearBit state.scsiBitMap scsiBitNumber }

def assignAddress (state : AdapterState) (device : DeviceId) (scsiBitNumber : Nat) :
    AdapterState :=
  { state with connectionId := state.connectionId + 1 }.updateDevice device fun value =>
    { value with
      bus := scsiBus scsiBitNumber
      target := scsiTarget scsiBitNumber
      lun := scsiLun scsiBitNumber
      connectionId := state.connectionId + 1 }

/-- `Device->ConnectionId`; the value read from freed memory does not matter here. -/
def connectionIdOf (state : AdapterState) (device : DeviceId) : UInt64 :=
  match state.devices device with
  | some value => value.connectionId
  | none => 0

theorem connectionIdOf_eq {state : AdapterState} {device : DeviceId} {value : WnbdDiskDevice}
    (stored : state.devices device = some value) :
    state.connectionIdOf device = value.connectionId := by
  rw [connectionIdOf, stored]

/-- Both insertions made under the list lock. -/
def linkDevice (state : AdapterState) (device : DeviceId) : AdapterState :=
  { state with
    deviceList := state.deviceList ++ [device]
    connIdHashBuckets := HashIndex.insertHead state.connIdHashBuckets
      (wnbdConnIdBucket (state.connectionIdOf device)) device }

/-- The monitor's section under the list lock: both removals and the address bit. -/
def unlinkDevice (state : AdapterState) (device : DeviceId) : AdapterState :=
  { state with
    deviceList := state.deviceList.erase device
    connIdHashBuckets := HashIndex.remove state.connIdHashBuckets
      (wnbdConnIdBucket (state.connectionIdOf device)) device
    scsiBitMap := match state.devices device with
      | some value => BitMap.clearBit state.scsiBitMap (addressBit value)
      | none => state.scsiBitMap }

end AdapterState

theorem addressBit_assigned (value : WnbdDiskDevice) (scsiBitNumber : Nat)
    (bus : value.bus = AdapterState.scsiBus scsiBitNumber)
    (target : value.target = AdapterState.scsiTarget scsiBitNumber)
    (lun : value.lun = AdapterState.scsiLun scsiBitNumber) :
    AdapterState.addressBit value = scsiBitNumber := by
  rw [AdapterState.addressBit, bus, target, lun]
  unfold AdapterState.scsiBus AdapterState.scsiTarget AdapterState.scsiLun
  unfold wnbdMaxLunsPerTarget wnbdMaxTargetsPerBus
  omega

end Wnbd.Adapter
