import Wnbd.Adapter.Create
import Wnbd.Adapter.Lifecycle
import Wnbd.Device.Machine

/-!
# Calls on any number of devices

Creates, removals, I/O, fetches, drains and responses on all devices of an adapter, one
call or one turn of a call's loop after the other.  A lookup with a reference succeeds
while the device is not run down; the reference is given back when the call ends, so it
does not show between two calls.  The history has no counterpart in the driver.
-/

set_option autoImplicit false

namespace Wnbd.Routing

open Wnbd.Scsi Wnbd.Dispatch Wnbd.Device Wnbd.Adapter AdapterState DeviceQueues

/-- What was handed to userspace on a connection, and what was taken back. -/
inductive RoutingEvent
  | submitted (connectionId tag : UInt64) (srb : SrbId)
  | removed (connectionId tag : UInt64)
deriving DecidableEq

structure RoutingState where
  adapter : AdapterState
  /-- The id of the next allocation. -/
  allocated : DeviceId
  queues : DeviceId → DeviceQueues
  /-- The static counter of `WnbdDispatchRequest`, one for all devices. -/
  requestHandle : UInt64
  ledger : SrbLedger
  history : List RoutingEvent

def emptyQueues : DeviceQueues :=
  { heap := fun _ => none
    srbElementPool := []
    pendingReqList := []
    submittedReqList := []
    submittedReqHashBuckets := fun _ => []
    lost := [] }

def RoutingState.initial : RoutingState :=
  { adapter := AdapterState.initial
    allocated := 0
    queues := fun _ => emptyQueues
    requestHandle := 0
    ledger := { srbs := fun _ => zeroSrb, issued := 0, accepted := [], reported := [] }
    history := [] }

/-- `WnbdFindDeviceByAddr`, `ByConnId` and `ByInstanceName` with `Acquire` set: the first
match, unless it is being run down. -/
def findDevice (adapter : AdapterState) (key : LookupKey) : Option (DeviceId × WnbdDiskDevice) :=
  ((lookupChain adapter key).find? fun device => (adapter.devices device).any key.matches).bind
    fun device => (adapter.devices device).bind fun value =>
      value.rundownProtection.acquire.map fun _ => (device, value)

namespace RoutingState

def setQueues (state : RoutingState) (device : DeviceId) (queues : DeviceQueues) : RoutingState :=
  { state with queues := Function.update state.queues device queues }

def setSrb (state : RoutingState) (srb : SrbId) (contents : Srb) : RoutingState :=
  { state with ledger.srbs := Function.update state.ledger.srbs srb contents }

def report (state : RoutingState) (srb : SrbId) : RoutingState :=
  { state with ledger.reported := state.ledger.reported ++ [srb] }

def log (state : RoutingState) (event : RoutingEvent) : RoutingState :=
  { state with history := state.history ++ [event] }

end RoutingState

open RoutingState

/-- The end of an element that is on no list any more: its SRB gets the contents and is
reported, unless that was done, and its memory is free. -/
def finishElement (state : RoutingState) (device : DeviceId) (element : ElementId) (silent : Bool)
    (srb : SrbId) (contents : Srb) : RoutingState :=
  let queues := state.queues device
  let freed := (state.setSrb srb contents).setQueues device
    { queues with heap := Function.update queues.heap element none }
  if silent then freed else freed.report srb

/-! ## StartIo -/

def wnbdPendElement (state : RoutingState) (device : DeviceId) (element : ElementId) (srb : SrbId)
    (range : ElementRange) : RoutingState :=
  let queues := state.queues device
  { state.setQueues device
      { queues with
        heap := Function.update queues.heap element (some
          { srb := some srb, range, tag := 0, aborted := false, completed := false,
            pooled := false })
        pendingReqList := queues.pendingReqList ++ [element] } with
    ledger.accepted := state.ledger.accepted ++ [srb] }

def wnbdExecuteScsiFunction (state : RoutingState) (key : LookupKey) (element : Option ElementId)
    (contents : Srb) : Option RoutingState :=
  let srb := state.ledger.issued
  let issued := { state with ledger.issued := srb + 1 }
  let refuse := fun updated => (issued.setSrb srb updated).report srb
  match findDevice state.adapter key with
  | none => some (refuse (contents.setSrbStatus srbStatusNoDevice))
  | some (device, value) =>
      if value.hardRemoveDevice then some (refuse (contents.setSrbStatus srbStatusNoDevice))
      else
        let aborted := contents.setSrbStatus srbStatusAborted
        match wnbdPendOperation value.properties aborted, element with
        | .finish _ updated, _ => some (refuse updated)
        | .pend _ _ _, none => some (refuse aborted)
        | .pend startingLbn dataLength fua, some element =>
            if (state.queues device).heap element = none then
              some (wnbdPendElement (issued.setSrb srb aborted) device element srb
                (wnbdPendElementRange startingLbn dataLength fua))
            else none

/-! ## Fetches -/

def fetchHead (state : RoutingState) (device : DeviceId) (value : WnbdDiskDevice)
    (bufferSize : UInt32) (faults : FetchFaults) (element : ElementId) (rest : List ElementId) :
    Option RoutingState :=
  let queues := state.queues device
  (queues.heap element).bind fun stored => stored.srb.map fun srb =>
    let tag := state.requestHandle + 1
    let fetched := fetchElement value.properties bufferSize tag stored.range
      (state.ledger.srbs srb) faults
    let popped := { state.setQueues device { queues with
        heap := Function.update queues.heap element (some { stored with tag })
        pendingReqList := rest } with
      requestHandle := tag }
    match fetched.verdict with
    | .submit _ =>
        ((popped.setSrb srb fetched.srb).setQueues device
          ((popped.queues device).wnbdSubmittedReqInsert element)).log
            (.submitted value.connectionId tag srb)
    | .invalid | .bufferTooSmall | .lockFailed _ | .noSrbBuffer =>
        finishElement popped device element stored.completed srb fetched.srb

/-- One turn of `WnbdDispatchRequest`.  With nothing pending the call waits. -/
def fetchTurn (state : RoutingState) (connectionId : UInt64) (requestorPid bufferSize : UInt32)
    (faults : FetchFaults) : Option RoutingState :=
  match findDevice state.adapter (.connId connectionId) with
  | none => some state
  | some (device, value) =>
      if value.properties.pid ≠ requestorPid ∨ value.properties.flags.useKernelNbd then some state
      else if value.hardRemoveDevice then some state
      else
        match (state.queues device).pendingReqList with
        | [] => some state
        | element :: rest => fetchHead state device value bufferSize faults element rest

/-! ## Responses -/

def wnbdHandleResponse (state : RoutingState) (device : DeviceId) (value : WnbdDiskDevice)
    (requestorPid : UInt32) (command : SendRspCommand) (faults : ResponseFaults) :
    NtStatus × RoutingState :=
  let queues := state.queues device
  if value.properties.pid ≠ requestorPid ∨ value.properties.flags.useKernelNbd then
    (statusAccessDenied, state)
  else
    match queues.findSubmittedByTag command.requestHandle with
    | none => (statusNotFound, state)
    | some element =>
        match queues.heap element with
        | some ⟨some srb, range, tag, aborted, completed, _⟩ =>
            let handled := applyResponse range aborted (state.ledger.srbs srb) command faults
            (handled.status,
              (finishElement (state.setQueues device (queues.unlinkSubmitted element)) device
                element (aborted || completed) srb handled.srb).log
                  (.removed value.connectionId tag))
        | _ => (statusNotFound, state)

def sendRsp (state : RoutingState) (connectionId : UInt64) (requestorPid : UInt32)
    (command : SendRspCommand) (faults : ResponseFaults) : NtStatus × RoutingState :=
  match findDevice state.adapter (.connId connectionId) with
  | none => (statusInvalidHandle, state)
  | some (device, value) => wnbdHandleResponse state device value requestorPid command faults

/-! ## Drains and removals -/

def drainHead (state : RoutingState) (device : DeviceId) (connectionId : UInt64) :
    DrainedList → Option RoutingState
  | .pending =>
      let queues := state.queues device
      match queues.pendingReqList with
      | [] => none
      | element :: rest =>
          (queues.heap element).bind fun stored => stored.srb.map fun srb =>
            finishElement (state.setQueues device { queues with pendingReqList := rest }) device
              element stored.completed srb (abortSrb (state.ledger.srbs srb))
  | .submitted =>
      let queues := state.queues device
      match queues.submittedReqList with
      | [] => none
      | element :: _ =>
          (queues.heap element).bind fun stored => stored.srb.map fun srb =>
            (finishElement (state.setQueues device (queues.unlinkSubmitted element)) device
              element stored.completed srb (abortSrb (state.ledger.srbs srb))).log
                (.removed connectionId stored.tag)

/-- `WnbdDisconnectSync` sets the removal event, `WnbdDisconnectAsync` the flag as well. -/
def disconnect (state : RoutingState) (key : LookupKey) (async : Bool) : RoutingState :=
  match findDevice state.adapter key with
  | none => state
  | some (device, _) =>
      { state with adapter := state.adapter.updateDevice device fun value =>
          { value with
            hardRemoveDevice := value.hardRemoveDevice || async, deviceRemovalEvent := true } }

/-- The monitor thread up to the end of its wait for the references.  Its own wait may
end at any time, on the event of the device or of the adapter. -/
def monitorRundown (state : RoutingState) (device : DeviceId) : Option RoutingState :=
  if device ∈ state.adapter.deviceList then
    some { state with adapter := state.adapter.updateDevice device fun value =>
      { value with
        hardRemoveDevice := true
        deviceRemovalEvent := true
        rundownProtection := value.rundownProtection.startWait } }
  else none

def monitorDrain (state : RoutingState) (device : DeviceId) (list : DrainedList) :
    Option RoutingState :=
  if device ∈ state.adapter.deviceList then
    (state.adapter.devices device).bind fun value =>
      if value.rundownProtection.waiting then drainHead state device value.connectionId list
      else none
  else none

def monitorUnlink (state : RoutingState) (device : DeviceId) : Option RoutingState :=
  let queues := state.queues device
  if device ∈ state.adapter.deviceList ∧ queues.pendingReqList = [] ∧ queues.submittedReqList = []
  then
    (state.adapter.devices device).bind fun value =>
      if value.rundownProtection.waiting then
        let unlinked := state.adapter.unlinkDevice device
        some { state with adapter :=
          ({ unlinked with deviceCount := unlinked.deviceCount - 1 }.setDevice device
            none).releaseRundown }
      else none
  else none

/-! ## Runs -/

inductive RoutingCall
  | create (props : WnbdProperties) (faults : CreateFaults)
  | startIo (key : LookupKey) (element : Option ElementId) (contents : Srb)
  | fetch (connectionId : UInt64) (requestorPid bufferSize : UInt32) (faults : FetchFaults)
  | respond (connectionId : UInt64) (requestorPid : UInt32) (command : SendRspCommand)
      (faults : ResponseFaults)
  | drain (key : LookupKey) (list : DrainedList)
  | disconnect (key : LookupKey) (async : Bool)
  | monitorRundown (device : DeviceId)
  | monitorDrain (device : DeviceId) (list : DrainedList)
  | monitorUnlink (device : DeviceId)

def routingNext (state : RoutingState) : RoutingCall → Option RoutingState
  | .create props faults =>
      some { state with
        adapter := (wnbdCreateConnection state.adapter state.allocated props faults).state
        allocated := state.allocated + 1 }
  | .startIo key element contents => wnbdExecuteScsiFunction state key element contents
  | .fetch connectionId requestorPid bufferSize faults =>
      fetchTurn state connectionId requestorPid bufferSize faults
  | .respond connectionId requestorPid command faults =>
      some (sendRsp state connectionId requestorPid command faults).2
  | .drain key list =>
      (findDevice state.adapter key).bind fun found =>
        drainHead state found.1 found.2.connectionId list
  | .disconnect key async => some (disconnect state key async)
  | .monitorRundown device => monitorRundown state device
  | .monitorDrain device list => monitorDrain state device list
  | .monitorUnlink device => monitorUnlink state device

/-- The counters of connection ids and tags do not wrap. -/
def NoWrap (state : RoutingState) : RoutingCall → Prop
  | .create _ _ => state.adapter.connectionId.toNat + 1 < 2 ^ 64
  | .fetch _ _ _ _ => state.requestHandle.toNat + 1 < 2 ^ 64
  | _ => True

instance (state : RoutingState) (call : RoutingCall) : Decidable (NoWrap state call) := by
  cases call <;> unfold NoWrap <;> infer_instance

end Wnbd.Routing
