import Wnbd.Dispatch.Fetch
import Wnbd.Dispatch.Response
import Wnbd.Foundation.HashIndex
import Wnbd.Foundation.Rundown
import Wnbd.Foundation.StepSystem

/-!
# The queues of one device

StartIo threads, fetch and response calls, abort and LUN-reset drains,
synchronous removals and the monitor thread of one device, each as a sequence of
atomic steps.  A step is one interlocked list operation, one section under a
spin lock, one access to a shared flag or event, or the code between two of them
that works on an element the thread has taken off every list.
-/

set_option autoImplicit false

namespace Wnbd.Device

open Wnbd.Scsi Wnbd.Dispatch

abbrev ElementId := Nat

/-- One SRB handed to `WnbdHwStartIo`; a recycled SRB counts as a new one. -/
abbrev SrbId := Nat

structure SrbQueueElement where
  /-- NULL in an element that was only zeroed. -/
  srb : Option SrbId
  range : ElementRange
  tag : UInt64
  aborted : Bool
  completed : Bool
  pooled : Bool
deriving DecidableEq, Repr

def SrbQueueElement.zeroed (pooled : Bool) : SrbQueueElement :=
  { srb := none, range := ⟨0, 0, false⟩, tag := 0, aborted := false, completed := false, pooled }

inductive ThreadId
  | user (index : Nat)
  | monitor
deriving DecidableEq, Repr

inductive DrainedList
  | pending | submitted
deriving DecidableEq, Repr

inductive Resume
  | fetchTest (bufferSize : UInt32)
  | release
  | drain (list : DrainedList) (checkStaleConn staleConnDetected : Bool)
deriving DecidableEq, Repr

inductive ThreadPc
  | idle
  /-- `WnbdExecuteScsiFunction`, down to `WnbdPendElement`. -/
  | startCheck (srb : SrbId)
  | startHandle (srb : SrbId)
  | startAlloc (srb : SrbId) (range : ElementRange)
  | startFill (srb : SrbId) (range : ElementRange) (element : ElementId)
  | startInsert (element : ElementId)
  | startSignal
  | startRefused (srb : SrbId)
  | startReport (srb : SrbId)
  /-- `WnbdDispatchRequest`. -/
  | fetchTest (bufferSize : UInt32)
  | fetchWait (bufferSize : UInt32)
  | fetchAlerted
  | fetchPop (bufferSize : UInt32)
  | fetchCheck (bufferSize : UInt32) (taken : Option ElementId)
  | fetchPrepare (bufferSize : UInt32) (element : ElementId)
  | fetchSubmit (element : ElementId)
  /-- `WnbdHandleResponse`. -/
  | responseTake (command : SendRspCommand)
  | responseApply (command : SendRspCommand) (element : ElementId)
  /-- `DrainDeviceQueue` and `WnbdDisconnectAsync`. -/
  | drain (list : DrainedList) (checkStaleConn staleConnDetected : Bool)
  | abort (list : DrainedList) (checkStaleConn staleConnDetected : Bool) (element : ElementId)
  | disconnectMark (list : DrainedList) (checkStaleConn : Bool)
  | disconnectSignal (list : DrainedList) (checkStaleConn : Bool)
  /-- `WnbdDisconnectSync`, up to the release of the device. -/
  | removeSignal
  /-- `CompleteRequest` and `WnbdFreeSrbElement`. -/
  | complete (element : ElementId) (resume : Resume)
  | free (element : ElementId) (resume : Resume)
  /-- `WnbdReleaseDevice`. -/
  | release
  /-- `WnbdDeviceMonitorThread`. -/
  | monitorWait
  | monitorMark
  | monitorSignal
  | monitorRundown
  | monitorRundownWait
  | monitorDrainPool
  | monitorFreeElement (element : ElementId)
  | monitorFree
  | monitorDone
deriving DecidableEq, Repr

def Resume.pc : Resume → ThreadPc
  | .fetchTest bufferSize => .fetchTest bufferSize
  | .release => .release
  | .drain list checkStaleConn staleConnDetected => .drain list checkStaleConn staleConnDetected

def ThreadPc.hand : ThreadPc → Option ElementId
  | .startFill _ _ element | .startInsert element | .fetchPrepare _ element
  | .fetchSubmit element | .responseApply _ element | .abort _ _ _ element
  | .complete element _ | .free element _ | .monitorFreeElement element => some element
  | .fetchCheck _ taken => taken
  | _ => none

def ThreadPc.startingSrb : ThreadPc → Option SrbId
  | .startCheck srb | .startHandle srb | .startAlloc srb _ | .startFill srb _ _
  | .startRefused srb | .startReport srb => some srb
  | _ => none

/-! ## State -/

/-- The element memory and the lists of a `WNBD_DISK_DEVICE`.  `lost` has no
counterpart in the driver: it holds the elements a fetch call left behind. -/
structure DeviceQueues where
  heap : ElementId → Option SrbQueueElement
  srbElementPool : List ElementId
  pendingReqList : List ElementId
  submittedReqList : List ElementId
  submittedReqHashBuckets : UInt64 → List ElementId
  lost : List ElementId

/-- The SRBs: their contents, those `WnbdPendElement` queued (it then returns
`STATUS_PENDING`), and those reported through `StorPortNotification`. -/
structure SrbLedger where
  srbs : SrbId → Srb
  issued : Nat
  accepted : List SrbId
  reported : List SrbId

structure DeviceState where
  queues : DeviceQueues
  ledger : SrbLedger
  requestHandle : UInt64
  hardRemoveDevice : Bool
  /-- The count of the semaphore. -/
  deviceEvent : Nat
  deviceRemovalEvent : Bool
  rundown : Rundown
  freed : Bool
  threads : ThreadId → ThreadPc

def zeroSrb : Srb :=
  { cdb := none, dataTransferLength := 0, dataBuffer := none, srbStatus := 0, scsiStatus := 0,
    srbFlags := 0, senseInfoBuffer := none, senseInfoBufferLength := 0 }

/-- A registered device whose pool was populated with `poolSize` elements. -/
def DeviceState.initial (poolSize : Nat) : DeviceState :=
  { queues :=
      { heap := fun element => if element < poolSize then some (.zeroed true) else none
        srbElementPool := (List.range poolSize).reverse
        pendingReqList := []
        submittedReqList := []
        submittedReqHashBuckets := fun _ => []
        lost := [] }
    ledger := { srbs := fun _ => zeroSrb, issued := 0, accepted := [], reported := [] }
    requestHandle := 0
    hardRemoveDevice := false
    deviceEvent := 0
    deviceRemovalEvent := false
    rundown := Rundown.initial
    freed := false
    threads := fun
      | .monitor => .monitorWait
      | .user _ => .idle }

namespace DeviceState

def setPc (state : DeviceState) (thread : ThreadId) (pc : ThreadPc) : DeviceState :=
  { state with threads := Function.update state.threads thread pc }

def setElement (state : DeviceState) (element : ElementId) (value : Option SrbQueueElement) :
    DeviceState :=
  { state with queues.heap := Function.update state.queues.heap element value }

def setSrb (state : DeviceState) (srb : SrbId) (value : Srb) : DeviceState :=
  { state with ledger.srbs := Function.update state.ledger.srbs srb value }

def report (state : DeviceState) (srb : SrbId) : DeviceState :=
  { state with ledger.reported := state.ledger.reported ++ [srb] }

end DeviceState

def wnbdSubmittedReqBucket (tag : UInt64) : UInt64 := tag &&& 255

def bucketOf (heap : ElementId → Option SrbQueueElement) (element : ElementId) : UInt64 :=
  match heap element with
  | some value => wnbdSubmittedReqBucket value.tag
  | none => 0

namespace DeviceQueues

def wnbdSubmittedReqInsert (queues : DeviceQueues) (element : ElementId) : DeviceQueues :=
  { queues with
    submittedReqList := queues.submittedReqList ++ [element]
    submittedReqHashBuckets := HashIndex.insertHead queues.submittedReqHashBuckets
      (bucketOf queues.heap element) element }

def unlinkSubmitted (queues : DeviceQueues) (element : ElementId) : DeviceQueues :=
  { queues with
    submittedReqList := queues.submittedReqList.erase element
    submittedReqHashBuckets := HashIndex.remove queues.submittedReqHashBuckets
      (bucketOf queues.heap element) element }

/-- The element `WnbdSubmittedReqRemoveByTag` unlinks. -/
def findSubmittedByTag (queues : DeviceQueues) (tag : UInt64) : Option ElementId :=
  (queues.submittedReqHashBuckets (wnbdSubmittedReqBucket tag)).find? fun element =>
    (queues.heap element).any fun value => value.tag == tag

end DeviceQueues

open DeviceState DeviceQueues

/-! ## Steps -/

/-- What a step takes from outside: the call a thread starts, and the results of
waits, allocations, buffer locks and the stale connection check. -/
inductive Choice
  | proceed
  | startIo (contents : Srb)
  | fetch (requestorPid bufferSize : UInt32)
  | respond (requestorPid : UInt32) (command : SendRspCommand)
  | reset
  | remove
  | wait (result : WaitResult)
  | allocation (address : Option ElementId)
  /-- The tag counter is one for all devices: so many tags were drawn elsewhere. -/
  | fetchFaults (elsewhere : UInt64) (faults : FetchFaults)
  | responseFaults (faults : ResponseFaults)
  | staleConnection (detected : Bool)

/-- A call into the driver.  `WnbdFindDeviceByAddr` and `WnbdFindDeviceByConnId`
take a device reference; without one StartIo completes the SRB itself and the
other calls end. -/
def beginStep (props : WnbdProperties) (state : DeviceState) (thread : ThreadId) :
    Choice → Option DeviceState
  | .startIo contents =>
      let srb := state.ledger.issued
      let issued (contents : Srb) := { state.setSrb srb contents with ledger.issued := srb + 1 }
      match state.rundown.acquire with
      | none =>
          some ((issued (contents.setSrbStatus srbStatusNoDevice)).setPc thread (.startReport srb))
      | some rundown => some ({ issued contents with rundown }.setPc thread (.startCheck srb))
  | .fetch requestorPid bufferSize =>
      state.rundown.acquire.map fun rundown => { state with rundown }.setPc thread
        (if props.pid ≠ requestorPid ∨ props.flags.useKernelNbd then .release
          else .fetchTest bufferSize)
  | .respond requestorPid command =>
      state.rundown.acquire.map fun rundown => { state with rundown }.setPc thread
        (if props.pid ≠ requestorPid ∨ props.flags.useKernelNbd then .release
          else .responseTake command)
  | .reset =>
      state.rundown.acquire.map fun rundown => { state with rundown }.setPc thread
        (.drain .pending true false)
  | .remove =>
      state.rundown.acquire.map fun rundown => { state with rundown }.setPc thread .removeSignal
  | _ => none

/-- `WnbdHandleSrbOperation` for the operation codes that may be queued. -/
def startHandleStep (props : WnbdProperties) (state : DeviceState) (thread : ThreadId)
    (srb : SrbId) : DeviceState :=
  if state.hardRemoveDevice then
    (state.setSrb srb ((state.ledger.srbs srb).setSrbStatus srbStatusInvalidRequest)).setPc thread
      (.startRefused srb)
  else
    let contents := (state.ledger.srbs srb).setSrbStatus srbStatusAborted
    match wnbdPendOperation props contents with
    | .finish _ updated => (state.setSrb srb updated).setPc thread (.startRefused srb)
    | .pend startingLbn dataLength fua =>
        (state.setSrb srb contents).setPc thread
          (.startAlloc srb (wnbdPendElementRange startingLbn dataLength fua))

/-- `WnbdAllocSrbElement`: the head of the pool, else a direct allocation at an
address that is not in use. -/
def startAllocStep (state : DeviceState) (thread : ThreadId) (srb : SrbId) (range : ElementRange)
    (choice : Choice) : Option DeviceState :=
  match state.queues.srbElementPool, choice with
  | element :: rest, .proceed =>
      some ({ state with queues.srbElementPool := rest }.setPc thread
        (.startFill srb range element))
  | [], .allocation (some element) =>
      if state.queues.heap element = none then
        some ((state.setElement element (some (.zeroed false))).setPc thread
          (.startFill srb range element))
      else none
  | [], .allocation none =>
      some ((state.setSrb srb ((state.ledger.srbs srb).setSrbStatus srbStatusAborted)).setPc thread
        (.startRefused srb))
  | _, _ => none

def startIoStep (props : WnbdProperties) (state : DeviceState) (thread : ThreadId) :
    ThreadPc → Choice → Option DeviceState
  | .startCheck srb, .proceed =>
      some (if state.hardRemoveDevice then
          (state.setSrb srb ((state.ledger.srbs srb).setSrbStatus srbStatusNoDevice)).setPc thread
            (.startRefused srb)
        else state.setPc thread (.startHandle srb))
  | .startHandle srb, .proceed => some (startHandleStep props state thread srb)
  | .startAlloc srb range, choice => startAllocStep state thread srb range choice
  | .startFill srb range element, .proceed =>
      -- A pooled element is zeroed first; every other field is assigned here.
      (state.queues.heap element).map fun value =>
        (state.setElement element (some
          { srb := some srb, range, tag := 0, aborted := false, completed := false,
            pooled := value.pooled })).setPc thread (.startInsert element)
  | .startInsert element, .proceed =>
      (state.queues.heap element).bind fun value => value.srb.map fun srb =>
        { state with
          queues.pendingReqList := state.queues.pendingReqList ++ [element]
          ledger.accepted := state.ledger.accepted ++ [srb] }.setPc thread .startSignal
  | .startSignal, .proceed =>
      some ({ state with deviceEvent := state.deviceEvent + 1 }.setPc thread .release)
  | .startRefused srb, .proceed =>
      some ({ state with rundown := state.rundown.release }.setPc thread (.startReport srb))
  | .startReport srb, .proceed => some ((state.report srb).setPc thread .idle)
  | _, _ => none

/-- From the new tag to the decision; the element is on no list. -/
def fetchPrepareStep (props : WnbdProperties) (state : DeviceState) (thread : ThreadId)
    (bufferSize : UInt32) (element : ElementId) (elsewhere : UInt64) (faults : FetchFaults) :
    Option DeviceState :=
  (state.queues.heap element).bind fun value => value.srb.map fun srb =>
    let tag := state.requestHandle + elsewhere + 1
    let fetched := fetchElement props bufferSize tag value.range (state.ledger.srbs srb) faults
    let prepared := { state with requestHandle := tag }.setElement element (some { value with tag })
    (prepared.setSrb srb fetched.srb).setPc thread
      (match fetched.verdict with
        | .submit _ => .fetchSubmit element
        | .bufferTooSmall => .complete element .release
        | .invalid | .lockFailed _ | .noSrbBuffer => .complete element (.fetchTest bufferSize))

/-- Which of two signaled objects ends a wait is left open. -/
def fetchWaitStep (state : DeviceState) (thread : ThreadId) (bufferSize : UInt32) :
    WaitResult → Option DeviceState
  | .deviceEvent =>
      if 0 < state.deviceEvent then
        some ({ state with deviceEvent := state.deviceEvent - 1 }.setPc thread
          (.fetchPop bufferSize))
      else none
  | .removalEvent =>
      if state.deviceRemovalEvent then some (state.setPc thread .release) else none
  | .alerted => some (state.setPc thread .fetchAlerted)

def fetchStep (props : WnbdProperties) (state : DeviceState) (thread : ThreadId) :
    ThreadPc → Choice → Option DeviceState
  | .fetchTest bufferSize, .proceed =>
      some (state.setPc thread
        (if state.hardRemoveDevice then .release else .fetchWait bufferSize))
  | .fetchWait bufferSize, .wait result => fetchWaitStep state thread bufferSize result
  | .fetchAlerted, .proceed =>
      some ({ state with deviceRemovalEvent := true }.setPc thread .release)
  | .fetchPop bufferSize, .proceed =>
      match state.queues.pendingReqList with
      | [] => some (state.setPc thread (.fetchCheck bufferSize none))
      | element :: rest =>
          some ({ state with queues.pendingReqList := rest }.setPc thread
            (.fetchCheck bufferSize (some element)))
  | .fetchCheck bufferSize taken, .proceed =>
      -- The break comes before the test for an empty queue and forgets the entry.
      if state.hardRemoveDevice then
        some ({ state with queues.lost := state.queues.lost ++ taken.toList }.setPc thread .release)
      else
        match taken with
        | none => some (state.setPc thread (.fetchTest bufferSize))
        | some element => some (state.setPc thread (.fetchPrepare bufferSize element))
  | .fetchPrepare bufferSize element, .fetchFaults elsewhere faults =>
      fetchPrepareStep props state thread bufferSize element elsewhere faults
  | .fetchSubmit element, .proceed =>
      some ({ state with queues := state.queues.wnbdSubmittedReqInsert element }.setPc thread
        .release)
  | _, _ => none

def responseStep (state : DeviceState) (thread : ThreadId) :
    ThreadPc → Choice → Option DeviceState
  | .responseTake command, .proceed =>
      match state.queues.findSubmittedByTag command.requestHandle with
      | none => some (state.setPc thread .release)
      | some element =>
          some ({ state with queues := state.queues.unlinkSubmitted element }.setPc thread
            (.responseApply command element))
  | .responseApply command element, .responseFaults faults =>
      (state.queues.heap element).bind fun value => value.srb.map fun srb =>
        let handled :=
          applyResponse value.range value.aborted (state.ledger.srbs srb) command faults
        (state.setSrb srb handled.srb).setPc thread
          (if value.aborted then .free element .release else .complete element .release)
  | _, _ => none

def drainNext (thread : ThreadId) (checkStaleConn : Bool) : DrainedList → ThreadPc
  | .pending => .drain .submitted checkStaleConn false
  | .submitted =>
      match thread with
      | .monitor => .monitorDrainPool
      | .user _ => .release

def drainStep (state : DeviceState) (thread : ThreadId) :
    ThreadPc → Choice → Option DeviceState
  | .drain list checkStaleConn staleConnDetected, .proceed =>
      let emptied := if staleConnDetected then .disconnectMark list checkStaleConn
        else drainNext thread checkStaleConn list
      match list with
      | .pending =>
          match state.queues.pendingReqList with
          | [] => some (state.setPc thread emptied)
          | element :: rest =>
              some ({ state with queues.pendingReqList := rest }.setPc thread
                (.abort list checkStaleConn staleConnDetected element))
      | .submitted =>
          match state.queues.submittedReqList with
          | [] => some (state.setPc thread emptied)
          | element :: _ =>
              some ({ state with queues := state.queues.unlinkSubmitted element }.setPc thread
                (.abort list checkStaleConn staleConnDetected element))
  | .abort list checkStaleConn staleConnDetected element, .staleConnection detected =>
      -- `detected` includes the RemoveStaleConnections option.
      (state.queues.heap element).bind fun value => value.srb.map fun srb =>
        ((state.setSrb srb (abortSrb (state.ledger.srbs srb))).setElement element
          (some { value with aborted := true })).setPc thread
          (.complete element (.drain list checkStaleConn
            (staleConnDetected || (checkStaleConn && detected))))
  | .disconnectMark list checkStaleConn, .proceed =>
      some ({ state with hardRemoveDevice := true }.setPc thread
        (.disconnectSignal list checkStaleConn))
  | .disconnectSignal list checkStaleConn, .proceed =>
      some ({ state with deviceRemovalEvent := true }.setPc thread
        (drainNext thread checkStaleConn list))
  | _, _ => none

def wnbdFreeSrbElement (state : DeviceState) (element : ElementId) (value : SrbQueueElement) :
    DeviceState :=
  if value.pooled then
    { state with queues.srbElementPool := element :: state.queues.srbElementPool }
  else state.setElement element none

def completionStep (state : DeviceState) (thread : ThreadId) :
    ThreadPc → Choice → Option DeviceState
  | .complete element resume, .proceed =>
      (state.queues.heap element).bind fun value => value.srb.map fun srb =>
        (if value.completed then state
          else (state.setElement element (some { value with completed := true })).report srb).setPc
          thread (.free element resume)
  | .free element resume, .proceed =>
      (state.queues.heap element).map fun value =>
        (wnbdFreeSrbElement state element value).setPc thread resume.pc
  | .removeSignal, .proceed =>
      some ({ state with deviceRemovalEvent := true }.setPc thread .release)
  | .release, .proceed =>
      some ({ state with rundown := state.rundown.release }.setPc thread .idle)
  | _, _ => none

/-- The wait ends on this device's removal event or on the adapter's, which may
be signaled at any time.  The steps that only touch the adapter are left out. -/
def monitorStep (state : DeviceState) (thread : ThreadId) :
    ThreadPc → Choice → Option DeviceState
  | .monitorWait, .proceed => some (state.setPc thread .monitorMark)
  | .monitorMark, .proceed =>
      some ({ state with hardRemoveDevice := true }.setPc thread .monitorSignal)
  | .monitorSignal, .proceed =>
      some ({ state with deviceRemovalEvent := true }.setPc thread .monitorRundown)
  | .monitorRundown, .proceed =>
      some ({ state with rundown := state.rundown.startWait }.setPc thread .monitorRundownWait)
  | .monitorRundownWait, .proceed =>
      if state.rundown.released then some (state.setPc thread (.drain .pending false false))
      else none
  | .monitorDrainPool, .proceed =>
      match state.queues.srbElementPool with
      | [] => some (state.setPc thread .monitorFree)
      | element :: rest =>
          some ({ state with queues.srbElementPool := rest }.setPc thread
            (.monitorFreeElement element))
  | .monitorFreeElement element, .proceed =>
      some ((state.setElement element none).setPc thread .monitorDrainPool)
  | .monitorFree, .proceed => some ({ state with freed := true }.setPc thread .monitorDone)
  | _, _ => none

/-- One step of one thread. -/
def deviceNext (props : WnbdProperties) (state : DeviceState) (action : ThreadId × Choice) :
    Option DeviceState :=
  let (thread, choice) := action
  match state.threads thread with
  | .idle => beginStep props state thread choice
  | pc@(.startCheck _) | pc@(.startHandle _) | pc@(.startAlloc _ _) | pc@(.startFill _ _ _)
  | pc@(.startInsert _) | pc@(.startSignal) | pc@(.startRefused _) | pc@(.startReport _) =>
      startIoStep props state thread pc choice
  | pc@(.fetchTest _) | pc@(.fetchWait _) | pc@(.fetchAlerted) | pc@(.fetchPop _)
  | pc@(.fetchCheck _ _) | pc@(.fetchPrepare _ _) | pc@(.fetchSubmit _) =>
      fetchStep props state thread pc choice
  | pc@(.responseTake _) | pc@(.responseApply _ _) => responseStep state thread pc choice
  | pc@(.drain _ _ _) | pc@(.abort _ _ _ _) | pc@(.disconnectMark _ _)
  | pc@(.disconnectSignal _ _) => drainStep state thread pc choice
  | pc@(.complete _ _) | pc@(.free _ _) | pc@(.removeSignal) | pc@(.release) =>
      completionStep state thread pc choice
  | pc@(.monitorWait) | pc@(.monitorMark) | pc@(.monitorSignal) | pc@(.monitorRundown)
  | pc@(.monitorRundownWait) | pc@(.monitorDrainPool) | pc@(.monitorFreeElement _)
  | pc@(.monitorFree) => monitorStep state thread pc choice
  | .monitorDone => none

end Wnbd.Device
