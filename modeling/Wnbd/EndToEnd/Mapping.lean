import Wnbd.Nbd.Reply
import Wnbd.Dispatch.Fetch
import Wnbd.Foundation.StepSystem

/-!
# An NBD mapping at work

The driver's two queues, the dispatcher threads and the reply worker of the NBD
daemon, and the requests that are with the server.  A call into the driver is
one step here: the element it works on is in no one else's hands.  The server
answers in any order, with or without an error, or never.
-/

set_option autoImplicit false

namespace Wnbd.EndToEnd

open Wnbd.Scsi Wnbd.Dispatch Wnbd.Nbd

/-- The properties of a mapping made by `NbdDaemon::TryStart`, which clears the
persistent reservation flag. -/
structure NbdMapping where
  props : WnbdProperties
  noPersistRes : props.flags.persistResSupported = false

structure QueuedRequest where
  srbId : Nat
  tag : UInt64
  range : ElementRange
  srb : Srb

structure CompletedSrb where
  srbId : Nat
  srb : Srb

/-- A dispatcher thread: inside a fetch call that has this `Status`, between the
fetch and the entry in `PendingRequests`, before the frame is sent, or out of
its loop, on the way to a hard removal. -/
inductive DispatcherPc
  | fetching (status : NtStatus)
  | handling (request : WnbdIoRequest) (payload : FetchPayload)
  | sending (sent : SentRequest)
  | removing

/-- The reply worker.  It stops by calling `Shutdown(true)`. -/
inductive WorkerPc
  | reading
  | responding (command : SendRspCommand)
  | stopped
deriving DecidableEq

structure MappingState where
  pendingReqList : List QueuedRequest
  submittedReqList : List QueuedRequest
  requestHandle : UInt64
  completed : List CompletedSrb
  dispatchers : Nat → DispatcherPc
  pendingRequests : PendingRequests
  /-- The requests the server has not answered. -/
  wire : List NbdHeader
  worker : WorkerPc
  /-- Set when a removal was asked for, also if the driver then refused it. -/
  terminateInProgress : Bool

def MappingState.initial : MappingState :=
  { pendingReqList := []
    submittedReqList := []
    requestHandle := 0
    completed := []
    dispatchers := fun _ => .fetching statusSuccess
    pendingRequests := fun _ => none
    wire := []
    worker := .reading
    terminateInProgress := false }

namespace MappingState

def setDispatcher (state : MappingState) (index : Nat) (pc : DispatcherPc) : MappingState :=
  { state with dispatchers := Function.update state.dispatchers index pc }

def complete (state : MappingState) (request : QueuedRequest) (srb : Srb) : MappingState :=
  { state with completed := state.completed ++ [⟨request.srbId, srb⟩] }

def findSubmitted (state : MappingState) (tag : UInt64) : Option QueuedRequest :=
  state.submittedReqList.find? fun request => request.tag == tag

end MappingState

open MappingState

/-- `WNBD_DEFAULT_MAX_TRANSFER_LENGTH`, the size of a dispatcher's buffer. -/
def dispatcherBufferSize : UInt32 := wnbdDefaultMaxTransferLength

def fetchHead (mapping : NbdMapping) (state : MappingState) (index : Nat) (status : NtStatus)
    (faults : FetchFaults) : Option MappingState :=
  match state.pendingReqList with
  | [] => none
  | request :: rest =>
      let tag := state.requestHandle + 1
      let fetched := fetchElement mapping.props dispatcherBufferSize tag request.range request.srb
        faults
      let status := fetched.verdict.status.getD status
      let popped := { state with pendingReqList := rest, requestHandle := tag }
      match fetched.verdict with
      | .submit payload =>
          some ({ popped with
            submittedReqList := state.submittedReqList ++ [{ request with tag, srb := fetched.srb }]
            }.setDispatcher index
              (if ntSuccess status then .handling fetched.request payload else .removing))
      | .bufferTooSmall =>
          some ((popped.complete request fetched.srb).setDispatcher index .removing)
      | .invalid | .lockFailed _ | .noSrbBuffer =>
          some ((popped.complete request fetched.srb).setDispatcher index (.fetching status))

/-- `WnbdHandleRequest`: the entry is registered before the frame is sent.  A
request without a handler does not occur (`fetched_sentFor`). -/
def registerRequest (mapping : NbdMapping) (state : MappingState) (index : Nat)
    (buffer : Nat → UInt8) : Option MappingState :=
  match state.dispatchers index with
  | .handling request payload =>
      (wnbdHandleRequest mapping.props request payload buffer).map fun sent =>
        { state with
          pendingRequests := state.pendingRequests.emplace sent.info }.setDispatcher index
          (.sending sent)
  | _ => none

def sendRequest (state : MappingState) (index : Nat) : Option MappingState :=
  match state.dispatchers index with
  | .sending sent =>
      (decodeHeader sent.frame).map fun header =>
        { state with wire := state.wire ++ [header] }.setDispatcher index (.fetching statusSuccess)
  | _ => none

/-- One turn of the drain loop of an abort or a LUN reset.  The element is taken
off the list, completed and freed, so nothing is left for a later reply. -/
def drainPending (state : MappingState) : Option MappingState :=
  match state.pendingReqList with
  | [] => none
  | request :: rest =>
      some ({ state with pendingReqList := rest }.complete request (abortSrb request.srb))

def drainSubmitted (state : MappingState) : Option MappingState :=
  match state.submittedReqList with
  | [] => none
  | request :: rest =>
      some ({ state with submittedReqList := rest }.complete request (abortSrb request.srb))

/-- The server answers one of its requests, and the worker reads the reply. -/
def receiveReply (state : MappingState) (header : NbdHeader) (error : UInt32) :
    Option MappingState :=
  if state.worker = .reading ∧ header ∈ state.wire then
    let (pendingRequests, response) := processNbdReply state.pendingRequests ⟨error, header.handle⟩
    some { state with
      wire := state.wire.erase header
      pendingRequests
      worker := match response with
        | .ok command => .responding command
        | .error _ => .stopped }
  else none

/-- `WnbdHandleResponse`: the state it leaves and the status it returns. -/
def wnbdHandleResponse (state : MappingState) (command : SendRspCommand)
    (faults : ResponseFaults) : MappingState × NtStatus :=
  match state.findSubmitted command.requestHandle with
  | none => (state, statusNotFound)
  | some request =>
      let handled := applyResponse request.range false request.srb command faults
      ({ state with
        submittedReqList := state.submittedReqList.eraseP fun request =>
          request.tag == command.requestHandle }.complete request handled.srb, handled.status)

/-- The worker sends its response.  An error ends `NbdReplyWorker` unless
`TerminateInProgress` is set. -/
def sendResponse (state : MappingState) (faults : ResponseFaults) : Option MappingState :=
  match state.worker with
  | .responding command =>
      let (answered, status) := wnbdHandleResponse state command faults
      some { answered with
        worker := if ntSuccess status ∨ state.terminateInProgress then .reading else .stopped }
  | _ => none

inductive MappingAction
  | pend (srbId : Nat) (srb : Srb)
  | fetch (index : Nat) (faults : FetchFaults)
  /-- A fetch of another disk draws a tag: `RequestHandle` is one counter of the driver. -/
  | fetchElsewhere
  | register (index : Nat) (buffer : Nat → UInt8)
  | send (index : Nat)
  | drainPending
  | drainSubmitted
  | reply (header : NbdHeader) (error : UInt32)
  | respond (faults : ResponseFaults)
  /-- A call of `Shutdown` whose removal the driver refuses. -/
  | refuseRemoval

def mappingNext (mapping : NbdMapping) (state : MappingState) :
    MappingAction → Option MappingState
  | .pend srbId srb =>
      (acceptedRange mapping.props (srb.setSrbStatus srbStatusAborted)).map fun range =>
        { state with
          pendingReqList := state.pendingReqList ++
            [⟨srbId, 0, range, srb.setSrbStatus srbStatusAborted⟩] }
  | .fetch index faults =>
      match state.dispatchers index with
      | .fetching status => fetchHead mapping state index status faults
      | _ => none
  | .fetchElsewhere => some { state with requestHandle := state.requestHandle + 1 }
  | .register index buffer => registerRequest mapping state index buffer
  | .send index => sendRequest state index
  | .drainPending => drainPending state
  | .drainSubmitted => drainSubmitted state
  | .reply header error => receiveReply state header error
  | .respond faults => sendResponse state faults
  | .refuseRemoval => some { state with terminateInProgress := true }

end Wnbd.EndToEnd
