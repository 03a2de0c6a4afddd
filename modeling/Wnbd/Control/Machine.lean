import Wnbd.Adapter.LifecycleSteps
import Wnbd.Foundation.LinkedList
import Wnbd.Foundation.Resource
import Wnbd.Ioctl.Commands

/-!
# Control requests

The life cycle of the devices together with the control requests around it:
`IOCTL_WNBD_CREATE` with its creation lock, the requests that change the
`NewMappingsAllowed` option, and `WnbdRemoveAllDisks` of libwnbd with the IOCTLs
it sends.
-/

set_option autoImplicit false

namespace Wnbd.Control

open Wnbd.Scsi Wnbd.Adapter Wnbd.Adapter.AdapterState

/-- The characters of an instance name before the terminating NUL. -/
abbrev InstanceName := List UInt8

inductive LockOwner
  | create (call : DeviceId)
  | request (thread : Nat)
deriving DecidableEq, Repr

inductive CreateRequest
  | idle
  | locked (props : WnbdProperties)
  | returned
deriving DecidableEq

/-- What a thread does once its `IOCTL_WNBD_SET_DRV_OPT` has returned. -/
inductive Purpose
  | setOption | removeAllDisks
deriving DecidableEq, Repr

inductive RequestPc
  | idle
  | acquireCreation (purpose : Purpose)
  | releaseCreation (purpose : Purpose)
  | optionSet
  /-- `WnbdIoctlList` without a buffer. -/
  | listSize
  | allocate (bufferSize : Nat)
  /-- `WnbdIoctlList`, up to the read of `DeviceList.Flink`, which takes no lock. -/
  | list (bufferSize : Nat)
  | enumerate (bufferSize : Nat) (currentEntry : Option DeviceId)
  /-- `WnbdIoctlRemove` for the rest of the listed names. -/
  | removeNext (names : List InstanceName)
  | signalRemoval (names : List InstanceName)
  | releaseDevice (names : List InstanceName)
  | waitMonitor (names : List InstanceName)
  | disksRemoved
  | failed
deriving DecidableEq

structure ControlState where
  lifecycle : LifecycleState
  /-- The forward links left in the list entries of unlinked devices. -/
  keptLinks : DeviceId → Option DeviceId
  deviceCreationLock : Resource LockOwner
  creates : DeviceId → CreateRequest
  requests : Nat → RequestPc

def ControlState.initial : ControlState :=
  { lifecycle := LifecycleState.initial
    keptLinks := fun _ => none
    deviceCreationLock := Resource.initial
    creates := fun _ => .idle
    requests := fun _ => .idle }

namespace ControlState

def setRequest (state : ControlState) (thread : Nat) (pc : RequestPc) : ControlState :=
  { state with requests := Function.update state.requests thread pc }

def setCreate (state : ControlState) (call : DeviceId) (request : CreateRequest) : ControlState :=
  { state with creates := Function.update state.creates call request }

def setLifecycle (state : ControlState) (lifecycle : LifecycleState) : ControlState :=
  { state with lifecycle }

def writeOption (state : ControlState) (value : Bool) : ControlState :=
  state.setLifecycle (state.lifecycle.setAdapter
    { state.lifecycle.adapter with newMappingsAllowed := value })

def flink (state : ControlState) : DeviceId → Option DeviceId :=
  LinkedList.flink state.lifecycle.adapter.deviceList state.keptLinks

end ControlState

open ControlState

def nameOf (adapter : AdapterState) (device : DeviceId) : Option InstanceName :=
  (adapter.devices device).map fun value => value.properties.instanceName

/-! ## Create requests and the life cycle -/

/-- `IOCTL_WNBD_CREATE` down to the lock.  The other checks of the handler turn
requests away before anything is shared. -/
def lockCreate (state : ControlState) (call : DeviceId) (props : WnbdProperties) :
    Option ControlState :=
  if state.creates call = .idle ∧ props.instanceName ≠ [] then
    (state.deviceCreationLock.acquireShared (.create call)).map fun lock =>
      { state with deviceCreationLock := lock }.setCreate call (.locked props)
  else none

def createReturned : CreatorPc → Bool
  | .done | .failed _ _ => true
  | _ => false

def unlockCreate (state : ControlState) (call : DeviceId) : Option ControlState :=
  match state.creates call with
  | .locked _ =>
      if createReturned (state.lifecycle.creators call) then
        some ({ state with deviceCreationLock :=
          state.deviceCreationLock.releaseShared (.create call) }.setCreate call .returned)
      else none
  | _ => none

/-- A create call runs inside its request, and a thread that is in a request of
its own serves no other. -/
def mayRun (state : ControlState) : LifecycleAction → Bool
  | .create call props => state.creates call = .locked props
  | .lookup user _ | .user user _ => state.requests user = .idle
  | .creator _ _ | .monitor _ | .cleanup _ => true

def linksAfter (state : ControlState) : LifecycleAction → DeviceId → Option DeviceId
  | .monitor device =>
      if state.lifecycle.monitors device = .unlink then
        LinkedList.keepLink state.lifecycle.adapter.deviceList state.keptLinks device
      else state.keptLinks
  | _ => state.keptLinks

def lifecycleStep (state : ControlState) (action : LifecycleAction) : Option ControlState :=
  if mayRun state action then
    (lifecycleNext state.lifecycle action).map fun lifecycle =>
      { state with lifecycle, keptLinks := linksAfter state action }
  else none

/-! ## Requests -/

/-- What a step takes from outside: a failing IOCTL or allocation with the byte
count it leaves, or the contents of a list the driver did not write. -/
inductive RequestChoice
  | proceed
  | fails (bytesReturned : Nat)
  | unwritten (names : List InstanceName)
deriving DecidableEq

def requiredBuffSize (adapter : AdapterState) : Nat :=
  ((adapter.deviceCount * Ioctl.wnbdConnectionInfo.size + Ioctl.wnbdConnectionList.size) %
    2 ^ 32).toNat

/-- The entries `WnbdEnumerateActiveConnections` meets, and where it stops. -/
def enumerateActiveConnections (state : ControlState) (bufferSize : Nat)
    (currentEntry : Option DeviceId) : List DeviceId × Option DeviceId :=
  LinkedList.walk state.flink currentEntry (Ioctl.listRemaining (UInt32.ofNat bufferSize))

/-- Every entry the walk reads is an allocated device. -/
def WalksAllocated (state : ControlState) (bufferSize : Nat) (currentEntry : Option DeviceId) :
    Prop :=
  ∀ device ∈ (enumerateActiveConnections state bufferSize currentEntry).1,
    (state.lifecycle.adapter.devices device).isSome = true

instance (state : ControlState) (bufferSize : Nat) (currentEntry : Option DeviceId) :
    Decidable (WalksAllocated state bufferSize currentEntry) := by
  unfold WalksAllocated
  infer_instance

/-- `IOCTL_WNBD_SET_DRV_OPT` with the value false, up to the lock. -/
def disallow (state : ControlState) (thread : Nat) (purpose : Purpose) (choice : RequestChoice) :
    Option ControlState :=
  if state.requests thread = .idle ∧ state.lifecycle.users thread = .idle then
    match choice with
    | .proceed => some ((state.writeOption false).setRequest thread (.acquireCreation purpose))
    | .fails _ => some (state.setRequest thread .failed)
    | .unwritten _ => none
  else none

/-- Both calls of `WnbdIoctlList`.  A buffer that is too short is answered with
success and the required size; the list in it is not written then. -/
def listStep (state : ControlState) (thread : Nat) (choice : RequestChoice) :
    Option ControlState :=
  let adapter := state.lifecycle.adapter
  match state.requests thread, choice with
  | .listSize, .proceed =>
      let bufferSize := requiredBuffSize adapter
      some (state.setRequest thread
        (if bufferSize = 0 then .disksRemoved else .allocate bufferSize))
  | .listSize, .fails bytesReturned =>
      -- An error is only looked at when it left no size.
      some (state.setRequest thread
        (if bytesReturned = 0 then .failed else .allocate bytesReturned))
  | .allocate bufferSize, .proceed => some (state.setRequest thread (.list bufferSize))
  | .list bufferSize, .proceed =>
      if bufferSize < requiredBuffSize adapter then none
      else some (state.setRequest thread (.enumerate bufferSize adapter.deviceList.head?))
  | .list bufferSize, .unwritten names =>
      if bufferSize < requiredBuffSize adapter then
        some (state.setRequest thread (.removeNext names))
      else none
  | .enumerate bufferSize currentEntry, .proceed =>
      let walked := enumerateActiveConnections state bufferSize currentEntry
      if WalksAllocated state bufferSize currentEntry then
        some (state.setRequest thread
          (if walked.2 = none then .removeNext (walked.1.filterMap (nameOf adapter))
            else .failed))
      else none
  | .enumerate bufferSize currentEntry, .unwritten names =>
      -- The walk has read a freed device.
      if WalksAllocated state bufferSize currentEntry then none
      else some (state.setRequest thread (.removeNext names))
  | .allocate _, .fails _ | .list _, .fails _ => some (state.setRequest thread .failed)
  | _, _ => none

/-- `WnbdIoctlRemove` with `WnbdDeleteConnection` and `WnbdDisconnectSync`. -/
def removeStep (state : ControlState) (thread : Nat) (choice : RequestChoice) :
    Option ControlState :=
  match state.requests thread, choice with
  | .removeNext [], .proceed => some (state.setRequest thread .disksRemoved)
  | .removeNext (_ :: _), .fails _ => some (state.setRequest thread .failed)
  | .removeNext (name :: names), .proceed =>
      if name = [] then some (state.setRequest thread .failed)
      else
        (lookupStep state.lifecycle thread (.instanceName name)).map fun lifecycle =>
          (state.setLifecycle lifecycle).setRequest thread
            (if lifecycle.users thread = .idle then .failed else .signalRemoval names)
  | .signalRemoval names, .proceed =>
      (userStep state.lifecycle thread .signalRemoval).map fun lifecycle =>
        (state.setLifecycle lifecycle).setRequest thread (.releaseDevice names)
  | .releaseDevice names, .proceed =>
      (userStep state.lifecycle thread .releaseAndWait).map fun lifecycle =>
        (state.setLifecycle lifecycle).setRequest thread (.waitMonitor names)
  | .waitMonitor names, .proceed =>
      (userStep state.lifecycle thread .access).map fun lifecycle =>
        (state.setLifecycle lifecycle).setRequest thread (.removeNext names)
  | _, _ => none

/-- `IOCTL_WNBD_SET_DRV_OPT` acquires the creation lock in shared mode. -/
def requestStep (state : ControlState) (thread : Nat) (choice : RequestChoice) :
    Option ControlState :=
  match state.requests thread, choice with
  | .acquireCreation purpose, .proceed =>
      (state.deviceCreationLock.acquireShared (.request thread)).map fun lock =>
        { state with deviceCreationLock := lock }.setRequest thread (.releaseCreation purpose)
  | .releaseCreation purpose, .proceed =>
      some ({ state with deviceCreationLock :=
        state.deviceCreationLock.releaseShared (.request thread) }.setRequest thread
          (match purpose with
            | .setOption => .optionSet
            | .removeAllDisks => .listSize))
  | .listSize, _ | .allocate _, _ | .list _, _ | .enumerate _ _, _ => listStep state thread choice
  | .removeNext _, _ | .signalRemoval _, _ | .releaseDevice _, _ | .waitMonitor _, _ =>
      removeStep state thread choice
  | _, _ => none

inductive ControlAction
  | lockCreate (call : DeviceId) (props : WnbdProperties)
  | lifecycle (action : LifecycleAction)
  | unlockCreate (call : DeviceId)
  /-- A request that changes the option: `SET_DRV_OPT` with the value true,
  `RESET_DRV_OPT` or `RELOAD_CONFIG`. -/
  | writeOption (value : Bool)
  | disallow (thread : Nat) (purpose : Purpose) (choice : RequestChoice)
  | request (thread : Nat) (choice : RequestChoice)
deriving DecidableEq

def controlNext (state : ControlState) : ControlAction → Option ControlState
  | .lockCreate call props => lockCreate state call props
  | .lifecycle action => lifecycleStep state action
  | .unlockCreate call => unlockCreate state call
  | .writeOption value => some (state.writeOption value)
  | .disallow thread purpose choice => disallow state thread purpose choice
  | .request thread choice => requestStep state thread choice

end Wnbd.Control
