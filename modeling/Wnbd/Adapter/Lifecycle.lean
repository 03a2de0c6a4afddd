import Wnbd.Adapter.State
import Wnbd.Foundation.StepSystem

/-!
# Device life cycle under concurrency

Create calls, monitor threads, threads that look a device up and adapter
cleanup, each as a sequence of atomic steps over the shared adapter state.  A
step is one interlocked operation, one section under a spin lock, or the code
between two of them that touches one device.  The create call that allocates a
device carries the device's id.
-/

set_option autoImplicit false

namespace Wnbd.Adapter

open Wnbd.Scsi AdapterState

inductive CreatorPc
  | idle
  | findName (props : WnbdProperties)
  | allocate (props : WnbdProperties)
  | allocateInquiry
  | claimAddress
  | assignAddress (scsiBitNumber : Nat)
  | startThread (scsiBitNumber : Nat)
  | referenceThread (scsiBitNumber : Nat)
  | populatePool
  | copyInfo
  | link
  | count
  | notify
  | connect
  | done
  | exitDevice (scsiBitNumber : Option Nat) (status : NtStatus)
  | exitClear (scsiBitNumber : Option Nat) (status : NtStatus)
  | exitRelease (status : NtStatus)
  /-- Returned with an error; `kept` when the rundown reference was not released. -/
  | failed (status : NtStatus) (kept : Bool)
deriving DecidableEq

inductive MonitorPc
  | absent
  | start
  | waiting
  | mark
  | signal
  | startRundown
  | rundown
  | drain
  | unlink
  | notify
  | count
  | freeInquiry
  | drainPool
  | dereferenceThread
  | free
  | release
  | finished
deriving DecidableEq, Repr

inductive UserPc
  | idle
  | holding (device : DeviceId)
  | waitingThread (device : DeviceId)
deriving DecidableEq, Repr

inductive CleanupPc
  | idle | startWait | waiting
deriving DecidableEq, Repr

structure LifecycleState where
  adapter : AdapterState
  creators : DeviceId → CreatorPc
  monitors : DeviceId → MonitorPc
  users : Nat → UserPc
  cleanup : CleanupPc

def LifecycleState.initial : LifecycleState :=
  { adapter := AdapterState.initial
    creators := fun _ => .idle
    monitors := fun _ => .absent
    users := fun _ => .idle
    cleanup := .idle }

namespace LifecycleState

def setCreator (state : LifecycleState) (call : DeviceId) (pc : CreatorPc) : LifecycleState :=
  { state with creators := Function.update state.creators call pc }

def setMonitor (state : LifecycleState) (device : DeviceId) (pc : MonitorPc) : LifecycleState :=
  { state with monitors := Function.update state.monitors device pc }

def setUser (state : LifecycleState) (user : Nat) (pc : UserPc) : LifecycleState :=
  { state with users := Function.update state.users user pc }

def setAdapter (state : LifecycleState) (adapter : AdapterState) : LifecycleState :=
  { state with adapter }

end LifecycleState

open LifecycleState

/-! ## Create -/

def createBegin (state : LifecycleState) (call : DeviceId) (props : WnbdProperties) :
    Option LifecycleState :=
  if state.creators call = .idle then
    let acquired := (state.setAdapter state.adapter.acquireRundown.2)
    if !state.adapter.newMappingsAllowed then
      some (acquired.setCreator call
        (.failed statusShutdownInProgress state.adapter.acquireRundown.1))
    else if !state.adapter.acquireRundown.1 then
      some (acquired.setCreator call (.failed statusShutdownInProgress false))
    else some (acquired.setCreator call (.findName props))
  else none

/-- One step of a create call; `fails` is the result of the allocation, thread
creation or handle reference the step makes, if it makes one. -/
def creatorStep (state : LifecycleState) (call : DeviceId) (fails : Bool) :
    Option LifecycleState :=
  let adapter := state.adapter
  match state.creators call with
  | .idle | .done | .failed _ _ => none
  | .findName props =>
      if (adapter.findDeviceByInstanceName props.instanceName).isSome then
        some (state.setCreator call (.failed statusObjectNameCollision true))
      else some (state.setCreator call (.allocate props))
  | .allocate props =>
      if fails then some (state.setCreator call (.failed statusInsufficientResources true))
      else
        some ((state.setAdapter
          (adapter.setDevice call (some (WnbdDiskDevice.zeroed props)))).setCreator
          call .allocateInquiry)
  | .allocateInquiry =>
      if fails then some (state.setCreator call (.exitDevice none statusInsufficientResources))
      else
        some ((state.setAdapter
          (adapter.updateDevice call ({ · with inquiryData := true }))).setCreator
          call .claimAddress)
  | .claimAddress =>
      match BitMap.findClear adapter.scsiBitMap with
      | none => some (state.setCreator call (.exitDevice none statusTooManyAddresses))
      | some scsiBitNumber =>
          some ((state.setAdapter (adapter.claimBit scsiBitNumber)).setCreator call
            (.assignAddress scsiBitNumber))
  | .assignAddress scsiBitNumber =>
      let assigned := state.setAdapter (adapter.assignAddress call scsiBitNumber)
      if (adapter.devices call).any (fun value => geometryAccepted value.properties) then
        some (assigned.setCreator call (.startThread scsiBitNumber))
      else
        some (assigned.setCreator call (.exitDevice (some scsiBitNumber) statusInvalidParameter))
  | .startThread scsiBitNumber =>
      if fails then
        some (state.setCreator call (.exitDevice (some scsiBitNumber) statusInsufficientResources))
      else some ((state.setMonitor call .start).setCreator call (.referenceThread scsiBitNumber))
  | .referenceThread scsiBitNumber =>
      if fails then
        some (state.setCreator call (.exitDevice (some scsiBitNumber) statusInsufficientResources))
      else
        some ((state.setAdapter (adapter.updateDevice call
          ({ · with deviceMonitorThread := true }))).setCreator call .populatePool)
  | .populatePool => some (state.setCreator call .copyInfo)
  | .copyInfo => some (state.setCreator call .link)
  | .link => some ((state.setAdapter (adapter.linkDevice call)).setCreator call .count)
  | .count =>
      some ((state.setAdapter { adapter with deviceCount := adapter.deviceCount + 1 }).setCreator
        call .notify)
  | .notify => some (state.setCreator call .connect)
  | .connect =>
      some ((state.setAdapter (adapter.updateDevice call ({ · with connected := true }))).setCreator
        call .done)
  | .exitDevice scsiBitNumber status =>
      if (adapter.devices call).any (·.deviceMonitorThread) then
        some (state.setCreator call (.failed status true))
      else
        some ((state.setAdapter (adapter.setDevice call none)).setCreator call
          (.exitClear scsiBitNumber status))
  | .exitClear scsiBitNumber status =>
      match scsiBitNumber with
      | some scsiBitNumber =>
          some ((state.setAdapter (adapter.clearBit scsiBitNumber)).setCreator call
            (.exitRelease status))
      | none => some (state.setCreator call (.exitRelease status))
  | .exitRelease status =>
      some ((state.setAdapter adapter.releaseRundown).setCreator call (.failed status false))

/-! ## Events and the monitor thread -/

def wakeMonitor (state : LifecycleState) (device : DeviceId) : LifecycleState :=
  if state.monitors device = .waiting then
    (state.setAdapter { state.adapter with
      globalDeviceRemovalEvent := state.adapter.globalDeviceRemovalEvent.leave device }).setMonitor
        device .mark
  else state

/-- `KeSetEvent` on a device's own removal event, a notification event: it stays
set, and releases the monitor if that waits. -/
def signalDevice (state : LifecycleState) (device : DeviceId) : LifecycleState :=
  let woken := wakeMonitor state device
  woken.setAdapter (woken.adapter.updateDevice device ({ · with deviceRemovalEvent := true }))

/-- `KeWaitForMultipleObjects` on the shared and the own event, in this order. -/
def monitorWait (state : LifecycleState) (device : DeviceId) : LifecycleState :=
  let waited := state.adapter.globalDeviceRemovalEvent.wait device
  if waited.1 then
    (state.setAdapter { state.adapter with globalDeviceRemovalEvent := waited.2 }).setMonitor
      device .mark
  else if (state.adapter.devices device).any (·.deviceRemovalEvent) then
    state.setMonitor device .mark
  else
    (state.setAdapter { state.adapter with globalDeviceRemovalEvent := waited.2 }).setMonitor
      device .waiting

def monitorStep (state : LifecycleState) (device : DeviceId) : Option LifecycleState :=
  let adapter := state.adapter
  match state.monitors device with
  | .absent | .waiting | .finished => none
  | .start => some (monitorWait state device)
  | .mark =>
      some ((state.setAdapter (adapter.updateDevice device
        ({ · with hardRemoveDevice := true }))).setMonitor device .signal)
  | .signal =>
      some ((state.setAdapter (adapter.updateDevice device
        ({ · with deviceRemovalEvent := true }))).setMonitor device .startRundown)
  | .startRundown =>
      some ((state.setAdapter (adapter.updateDevice device fun value =>
        { value with rundownProtection := value.rundownProtection.startWait })).setMonitor
          device .rundown)
  | .rundown =>
      if (adapter.devices device).all (fun value => decide value.rundownProtection.released) then
        some (state.setMonitor device .drain)
      else none
  | .drain => some (state.setMonitor device .unlink)
  | .unlink => some ((state.setAdapter (adapter.unlinkDevice device)).setMonitor device .notify)
  | .notify => some (state.setMonitor device .count)
  | .count =>
      some ((state.setAdapter { adapter with deviceCount := adapter.deviceCount - 1 }).setMonitor
        device .freeInquiry)
  | .freeInquiry =>
      some ((state.setAdapter (adapter.updateDevice device
        ({ · with inquiryData := false }))).setMonitor device .drainPool)
  | .drainPool => some (state.setMonitor device .dereferenceThread)
  | .dereferenceThread => some (state.setMonitor device .free)
  | .free => some ((state.setAdapter (adapter.setDevice device none)).setMonitor device .release)
  | .release => some ((state.setAdapter adapter.releaseRundown).setMonitor device .finished)

/-! ## Threads that use devices -/

/-- What `WnbdFindDeviceByAddr`, `ByConnId` and `ByInstanceName` look for. -/
inductive LookupKey
  | addr (pathId targetId lun : Nat)
  | connId (connectionId : UInt64)
  | instanceName (name : List UInt8)
deriving DecidableEq

def lookupChain (adapter : AdapterState) : LookupKey → List DeviceId
  | .addr _ _ _ => adapter.deviceList
  | .connId connectionId => adapter.connIdHashBuckets (wnbdConnIdBucket connectionId)
  | .instanceName _ => adapter.deviceList

def LookupKey.matches (key : LookupKey) (value : WnbdDiskDevice) : Bool :=
  match key with
  | .addr pathId targetId lun => value.bus = pathId ∧ value.target = targetId ∧ value.lun = lun
  | .connId connectionId => value.connectionId = connectionId
  | .instanceName name => value.properties.instanceName = name

/-- A lookup with `Acquire` set: the first match, if its rundown protection can
still be acquired. -/
def lookupStep (state : LifecycleState) (user : Nat) (key : LookupKey) : Option LifecycleState :=
  if state.users user = .idle then
    match (lookupChain state.adapter key).find? fun device =>
        (state.adapter.devices device).any key.matches with
    | none => some state
    | some device =>
        match (state.adapter.devices device).bind (·.rundownProtection.acquire) with
        | none => some state
        | some acquired =>
            some ((state.setAdapter (state.adapter.updateDevice device
              ({ · with rundownProtection := acquired }))).setUser user (.holding device))
  else none

inductive UserOp
  /-- Any read or write that takes no part in the life cycle. -/
  | access
  /-- The two writes of `WnbdDisconnectAsync`; `WnbdDisconnectSync` makes the second. -/
  | markRemoval
  | signalRemoval
  /-- `WnbdReleaseDevice`, after which `WnbdDisconnectSync` waits for the monitor thread. -/
  | release
  | releaseAndWait
deriving DecidableEq, Repr

def userStep (state : LifecycleState) (user : Nat) (op : UserOp) : Option LifecycleState :=
  match state.users user with
  | .idle => none
  | .waitingThread device =>
      if state.monitors device = .finished then some (state.setUser user .idle) else none
  | .holding device =>
      let released := state.setAdapter (state.adapter.updateDevice device fun value =>
        { value with rundownProtection := value.rundownProtection.release })
      match op with
      | .access => some state
      | .markRemoval =>
          some (state.setAdapter (state.adapter.updateDevice device
            ({ · with hardRemoveDevice := true })))
      | .signalRemoval => some (signalDevice state device)
      | .release => some (released.setUser user .idle)
      | .releaseAndWait => some (released.setUser user (.waitingThread device))

/-! ## Adapter cleanup and the whole system -/

/-- `WnbdCleanupAllDevices`; `chosen` is the monitor its `KeSetEvent` releases. -/
def cleanupStep (state : LifecycleState) (chosen : Option DeviceId) : Option LifecycleState :=
  let adapter := state.adapter
  match state.cleanup with
  | .idle =>
      (adapter.globalDeviceRemovalEvent.set chosen).map fun event =>
        let signaled := { state.setAdapter { adapter with globalDeviceRemovalEvent := event } with
          cleanup := .startWait }
        match chosen with
        | some device => signaled.setMonitor device .mark
        | none => signaled
  | .startWait =>
      some { state.setAdapter { adapter with
        rundownProtection := adapter.rundownProtection.startWait } with cleanup := .waiting }
  | .waiting =>
      if adapter.rundownProtection.released then some { state with cleanup := .idle } else none

inductive LifecycleAction
  | create (call : DeviceId) (props : WnbdProperties)
  | creator (call : DeviceId) (fails : Bool)
  | monitor (device : DeviceId)
  | lookup (user : Nat) (key : LookupKey)
  | user (user : Nat) (op : UserOp)
  | cleanup (chosen : Option DeviceId)
deriving DecidableEq

def lifecycleNext (state : LifecycleState) : LifecycleAction → Option LifecycleState
  | .create call props => createBegin state call props
  | .creator call fails => creatorStep state call fails
  | .monitor device => monitorStep state device
  | .lookup user key => lookupStep state user key
  | .user user op => userStep state user op
  | .cleanup chosen => cleanupStep state chosen

/-- The device and its possible neighbours in the two chains it is linked into. -/
def chainNeighbours (adapter : AdapterState) (device : DeviceId) : List DeviceId :=
  device :: adapter.deviceList ++
    adapter.connIdHashBuckets (wnbdConnIdBucket (adapter.connectionIdOf device))

def touched (state : LifecycleState) : LifecycleAction → List DeviceId
  | .create _ _ => []
  | .creator call _ =>
      match state.creators call with
      | .idle | .allocate _ | .count | .done => []
      | .exitClear _ _ | .exitRelease _ | .failed _ _ => []
      | .findName _ => state.adapter.deviceList
      | .link => chainNeighbours state.adapter call
      | _ => [call]
  | .monitor device =>
      match state.monitors device with
      | .absent | .waiting | .count | .release | .finished => []
      | .unlink => chainNeighbours state.adapter device
      | _ => [device]
  | .lookup _ key => lookupChain state.adapter key
  | .user user _ =>
      match state.users user with
      | .holding device => [device]
      | .idle | .waitingThread _ => []
  | .cleanup chosen => if state.cleanup = .idle then chosen.toList else []

end Wnbd.Adapter
