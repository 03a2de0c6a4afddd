import Wnbd.Nbd.Reply
import Wnbd.Nbd.Socket
import Wnbd.Foundation.StepSystem

/-!
# The threads of the NBD daemon

Dispatcher threads in `Read`, `Write`, `Flush` and `Unmap`, the reply worker, any
number of callers of `Shutdown` and the destructor, each as a sequence of atomic
steps over one connection.  A step is one call of `send`, `recv` or of the
driver, the taking or the release of a lock, or the code between two of them.
The machine starts in the transmission phase.
-/

set_option autoImplicit false

namespace Wnbd.Nbd

open Wnbd.Scsi Wnbd.Dispatch BigEndian

def errorIoPending : UInt32 := 997

def nbdReplyMagic : UInt32 := 0x67446698

def nbdRequestSize : Nat := 28

def nbdReplySize : Nat := 16

/-- `NbdReadReply`, once the bytes are received.  The handle is in the memory order
of the host, and the error is only compared with zero. -/
def nbdReadReply (bytes : List UInt8) : Except UInt32 NbdReply :=
  let (magic, afterMagic) := bytes.splitAt 4
  let (error, handle) := afterMagic.splitAt 4
  if ofBytes magic ≠ nbdReplyMagic.toNat then .error errorBadFormat
  else .ok
    { error := UInt32.ofNat (ofBytes error)
      handle := UInt64.ofNat (ofBytes handle.reverse) }

inductive HandlerCall
  | read (requestHandle blockAddress : UInt64) (blockCount : UInt32)
  | write (requestHandle : UInt64) (buffer : Nat → UInt8) (blockAddress : UInt64)
      (blockCount : UInt32) (forceUnitAccess : Bool)
  | flush (requestHandle : UInt64) (blockCount : UInt32)
  | unmap (requestHandle blockAddress : UInt64) (blockCount : UInt32)

def HandlerCall.sent (blockSize : UInt32) : HandlerCall → SentRequest
  | .read requestHandle blockAddress blockCount =>
      nbdDaemonRead blockSize requestHandle blockAddress blockCount
  | .write requestHandle buffer blockAddress blockCount forceUnitAccess =>
      nbdDaemonWrite blockSize requestHandle buffer blockAddress blockCount forceUnitAccess
  | .flush requestHandle blockCount => nbdDaemonFlush blockSize requestHandle blockCount
  | .unmap requestHandle blockAddress blockCount =>
      nbdDaemonUnmap blockSize requestHandle blockAddress blockCount

def nbdDisconnectFrame : List UInt8 := nbdRequest 0 0 0 nbdCmdDisc

inductive ThreadId
  | dispatcher (index : Nat)
  | caller (index : Nat)
  | worker
  | destructor
deriving DecidableEq, Repr

/-- Why a thread sends: for a request handler or for `DisconnectNbd`. -/
inductive Purpose
  | request | disconnect
deriving DecidableEq, Repr

/-- A response to the driver, with the payload the server sent for it. -/
structure SubmittedResponse where
  requestType : WnbdRequestType
  command : SendRspCommand
  payload : List UInt8
deriving DecidableEq, Repr

inductive Phase
  | idle
  /-- `SendExact` under `SendLock`. -/
  | lockSend (frame : List UInt8) (purpose : Purpose)
  | send (frame : List UInt8) (sent : Nat) (purpose : Purpose)
  | unlockSend (failed : Bool) (purpose : Purpose)
  /-- `Shutdown` and `DisconnectNbd`. -/
  | lockShutdown (hardRemove : Bool)
  | remove (hardRemove : Bool)
  | terminate
  | stopSocket
  | closeSocket
  | unlockShutdown
  /-- `NbdReplyWorker` and `ProcessNbdReply`. -/
  | createEvent
  | testTerminated
  | resetEvent
  | readHeader (received : List UInt8)
  | readPayload (request : PendingRequestInfo) (command : SendRspCommand) (received : List UInt8)
  | respond (response : SubmittedResponse)
  | checkStatus (status : UInt32)
  | awaitResponse
  /-- `~NbdDaemon`, behind its `Shutdown`. -/
  | waitDispatchers
  | joinWorker
  | finished
deriving DecidableEq, Repr

/-- `closed` is a `Socket` field that holds `INVALID_SOCKET`. -/
inductive SocketState
  | connected | reset | shutDown | closed
deriving DecidableEq, Repr

/-- The data buffer of a response: what the server sent, and what the driver copied. -/
structure DeliveredResponse where
  response : SubmittedResponse
  copied : List UInt8
deriving DecidableEq, Repr

/-- The daemon, its connection and its calls into the driver.  `issued`, `cut` and
`delivered` have no counterpart in the daemon: the frames handed to `SendExact`,
the bytes accepted when `SendExact` first gave up inside a frame, and the completed
responses. -/
structure DaemonState where
  wnbdDisk : Bool
  nbdTransmissionStarted : Bool
  terminated : Bool
  terminateInProgress : Bool
  shutdownLock : Option ThreadId
  sendLock : Option ThreadId
  pendingRequests : PendingRequests
  preallocatedRBuff : Nat → UInt8
  overlappedEvent : Bool
  threads : ThreadId → Phase
  socket : SocketState
  serverReads : Bool
  serverAnswers : Bool
  incoming : List UInt8
  accepted : List UInt8
  inFlight : List SubmittedResponse
  delivered : List DeliveredResponse
  issued : List (List UInt8)
  cut : Option Nat

def DaemonState.initial : DaemonState :=
  { wnbdDisk := false
    nbdTransmissionStarted := true
    terminated := false
    terminateInProgress := false
    shutdownLock := none
    sendLock := none
    pendingRequests := fun _ => none
    preallocatedRBuff := fun _ => 0
    overlappedEvent := true
    threads := fun
      | .worker => .createEvent
      | _ => .idle
    socket := .connected
    serverReads := true
    serverAnswers := true
    incoming := []
    accepted := []
    inFlight := []
    delivered := []
    issued := []
    cut := none }

namespace DaemonState

def setPhase (state : DaemonState) (thread : ThreadId) (phase : Phase) : DaemonState :=
  { state with threads := Function.update state.threads thread phase }

@[simp] theorem setPhase_self (state : DaemonState) (thread : ThreadId) (phase : Phase) :
    (state.setPhase thread phase).threads thread = phase :=
  Function.update_self _ _ _

theorem setPhase_of_ne (state : DaemonState) (thread : ThreadId) (phase : Phase)
    {other : ThreadId} (different : other ≠ thread) :
    (state.setPhase thread phase).threads other = state.threads other :=
  Function.update_of_ne different _ _

def fillBuffer (state : DaemonState) (offset : Nat) (bytes : List UInt8) : DaemonState :=
  { state with preallocatedRBuff := fun position =>
      if offset ≤ position then (bytes[position - offset]?).getD (state.preallocatedRBuff position)
      else state.preallocatedRBuff position }

def deliver (state : DaemonState) (response : SubmittedResponse) : DaemonState :=
  { state with
    overlappedEvent := true
    delivered := state.delivered ++
      [⟨response, (List.range response.payload.length).map state.preallocatedRBuff⟩] }

end DaemonState

open DaemonState

/-! ## Steps -/

inductive RemoveOutcome
  | removed | fileNotFound | failed
deriving DecidableEq, Repr

inductive SubmitOutcome
  | completed
  | pending
  | failed (status : UInt32)
deriving DecidableEq, Repr

/-- What a step takes from outside: the call a thread starts, and the results of
`send`, `recv`, the driver and the event functions.  `sentNothing` is a `send` that
returns 0 behind a last error `SendExact` does not know. -/
inductive Choice
  | proceed
  | request (call : HandlerCall)
  | shutdown (hardRemove : Bool)
  | destroy
  | accepted (count : Nat)
  | sendFailed
  | sentNothing
  | received (count : Nat)
  | receiveFailed
  | removed (outcome : RemoveOutcome)
  | submitted (outcome : SubmitOutcome)
  | failed

/-- A call into the daemon.  Dispatchers run once the disk exists. -/
def beginStep (blockSize : UInt32) (state : DaemonState) (thread : ThreadId) :
    Choice → Option DaemonState
  | .request call =>
      match thread with
      | .dispatcher _ =>
          let sent := call.sent blockSize
          if state.wnbdDisk then
            some ({ state with pendingRequests := state.pendingRequests.emplace sent.info }.setPhase
              thread (.lockSend sent.frame .request))
          else none
      | _ => none
  | .shutdown hardRemove =>
      match thread with
      | .caller _ => some (state.setPhase thread (.lockShutdown hardRemove))
      | _ => none
  | .destroy =>
      if thread = .destructor then some (state.setPhase thread (.lockShutdown false)) else none
  | _ => none

/-- The end of the buffer of the current `SendExact` call: first the header, then
what follows it. -/
def sendEnd (frame : List UInt8) (sent : Nat) : Nat :=
  if sent < nbdRequestSize then min nbdRequestSize frame.length else frame.length

/-- Where `SendExact` leaves its caller when it returns 0 early: behind a header the
data goes out all the same. -/
def afterNothing (frame : List UInt8) (sent : Nat) (purpose : Purpose) : Phase :=
  if sent < nbdRequestSize ∧ nbdRequestSize < frame.length then .send frame nbdRequestSize purpose
  else .unlockSend false purpose

/-- A `send` on a connection the peer no longer drains does not return. -/
def sendStep (state : DaemonState) (thread : ThreadId) (frame : List UInt8) (sent : Nat)
    (purpose : Purpose) : Choice → Option DaemonState
  | .accepted count =>
      if state.socket = .connected ∧ state.serverReads = true ∧ 0 < count ∧
          sent + count ≤ sendEnd frame sent then
        some ({ state with accepted := state.accepted ++ (frame.drop sent).take count }.setPhase
          thread
          (if sent + count = frame.length then .unlockSend false purpose
            else .send frame (sent + count) purpose))
      else none
  | .sendFailed =>
      if state.socket ≠ .connected ∨ state.serverReads = true then
        some ({ state with
          cut := if sent = 0 then state.cut else state.cut.or (some state.accepted.length)
          }.setPhase thread (.unlockSend true purpose))
      else none
  -- `Result` is 0, and the `default` branch returns it
  | .sentNothing =>
      if state.socket ≠ .connected ∨ state.serverReads = true then
        some ({ state with
          cut := if sent = 0 ∧ frame.length ≤ nbdRequestSize then state.cut
            else state.cut.or (some state.accepted.length)
          }.setPhase thread (afterNothing frame sent purpose))
      else none
  | _ => none

def sendLockStep (state : DaemonState) (thread : ThreadId) :
    Phase → Choice → Option DaemonState
  | .lockSend frame purpose, .proceed =>
      if state.sendLock = none then
        some ({ state with
          sendLock := some thread
          issued := state.issued ++ [frame] }.setPhase thread
          (if state.socket = SocketState.closed then .unlockSend true purpose
            else .send frame 0 purpose))
      else none
  | .send frame sent purpose, choice => sendStep state thread frame sent purpose choice
  | .unlockSend failed purpose, .proceed =>
      some ({ state with sendLock := none }.setPhase thread
        (match purpose with
          | .request => if failed then .lockShutdown true else .idle
          | .disconnect => .stopSocket))
  | _, _ => none

/-- Where a caller of `Shutdown` goes on: the worker returns, the destructor waits
for the dispatchers. -/
def afterShutdown : ThreadId → Phase
  | .dispatcher _ | .caller _ => .idle
  | .worker => .finished
  | .destructor => .waitDispatchers

/-- `Shutdown`.  A removal that fails returns with `Terminated` unset. -/
def shutdownStep (state : DaemonState) (thread : ThreadId) :
    Phase → Choice → Option DaemonState
  | .lockShutdown hardRemove, .proceed =>
      if state.shutdownLock = none then
        let locked := { state with shutdownLock := some thread }
        if state.terminated then some (locked.setPhase thread .unlockShutdown)
        else some ({ locked with terminateInProgress := true }.setPhase thread
          (if state.wnbdDisk then .remove hardRemove else .terminate))
      else none
  | .remove _, .removed outcome =>
      some (state.setPhase thread
        (match outcome with
          | .removed | .fileNotFound => .terminate
          | .failed => .unlockShutdown))
  | .terminate, .proceed =>
      some ({ state with terminated := true }.setPhase thread
        (if state.socket = SocketState.closed then .unlockShutdown
          else if state.nbdTransmissionStarted then .lockSend nbdDisconnectFrame .disconnect
          else .stopSocket))
  | .stopSocket, .proceed =>
      some ({ state with socket := .shutDown }.setPhase thread .closeSocket)
  | .closeSocket, .proceed =>
      some ({ state with socket := .closed, nbdTransmissionStarted := false }.setPhase thread
        .unlockShutdown)
  | .unlockShutdown, .proceed =>
      some ({ state with shutdownLock := none }.setPhase thread (afterShutdown thread))
  | _, _ => none

/-- `recv` found `count` bytes, at most as many as were asked for. -/
def received (state : DaemonState) (missing count : Nat) : Option (List UInt8 × DaemonState) :=
  if state.socket = .connected ∧ 0 < count ∧ count ≤ missing ∧ count ≤ state.incoming.length then
    some (state.incoming.take count, { state with incoming := state.incoming.drop count })
  else none

def receiveFails (state : DaemonState) : Bool :=
  decide (state.socket ≠ .connected) || state.serverAnswers

/-- The lookup behind a complete reply header.  A payload of no bytes is received at once. -/
def demultiplex (state : DaemonState) (thread : ThreadId) (header : List UInt8) : DaemonState :=
  match nbdReadReply header with
  | .error _ => state.setPhase thread (.lockShutdown true)
  | .ok reply =>
      let (pendingRequests, response) := processNbdReply state.pendingRequests reply
      let found := { state with pendingRequests }
      match state.pendingRequests reply.handle, response with
      | some request, .ok command => found.setPhase thread
          (if command.hasBuffer ∧ request.length ≠ 0 then .readPayload request command []
            else .respond ⟨request.requestType, command, []⟩)
      | _, _ => found.setPhase thread (.lockShutdown true)

def receiveStep (state : DaemonState) (thread : ThreadId) :
    Phase → Choice → Option DaemonState
  | .readHeader bytes, .received count =>
      (received state (nbdReplySize - bytes.length) count).map fun (piece, after) =>
        after.setPhase thread (.readHeader (bytes ++ piece))
  | .readHeader bytes, .proceed =>
      if bytes.length = nbdReplySize then some (demultiplex state thread bytes) else none
  | .readPayload request command bytes, .received count =>
      (received state (request.length.toNat - bytes.length) count).map fun (piece, after) =>
        (after.fillBuffer bytes.length piece).setPhase thread
          (if bytes.length + count = request.length.toNat then
            .respond ⟨request.requestType, command, bytes ++ piece⟩
          else .readPayload request command (bytes ++ piece))
  | .readHeader bytes, .receiveFailed =>
      if receiveFails state = true ∧ bytes.length < nbdReplySize then
        some (state.setPhase thread (.lockShutdown true))
      else none
  | .readPayload _ _ _, .receiveFailed =>
      if receiveFails state then some (state.setPhase thread (.lockShutdown true)) else none
  | _, _ => none

/-- `WnbdSendResponseEx` with the worker's OVERLAPPED. -/
def submitStep (state : DaemonState) (thread : ThreadId) (response : SubmittedResponse) :
    SubmitOutcome → Option DaemonState
  | .completed => some ((state.deliver response).setPhase thread (.checkStatus 0))
  | .pending =>
      some ({ state with
        overlappedEvent := false
        inFlight := state.inFlight ++ [response] }.setPhase thread (.checkStatus errorIoPending))
  | .failed status =>
      if status ≠ 0 ∧ status ≠ errorIoPending then
        some (state.setPhase thread (.checkStatus status))
      else none

/-- The test for `TerminateInProgress` comes before the one for a pending IOCTL. -/
def checkStatusStep (state : DaemonState) (status : UInt32) : Phase :=
  let err := if status ≠ 0 ∧ state.terminateInProgress then 0 else status
  if err = errorIoPending then .awaitResponse
  else if err ≠ 0 then .lockShutdown true
  else .testTerminated

/-- `failed` is an event that could not be created or reset, or a response that
completed with an error. -/
def workerStep (state : DaemonState) (thread : ThreadId) :
    Phase → Choice → Option DaemonState
  | .createEvent, .proceed =>
      some ({ state with overlappedEvent := true }.setPhase thread .testTerminated)
  | .createEvent, .failed => some (state.setPhase thread (.lockShutdown true))
  | .testTerminated, .proceed =>
      some (state.setPhase thread (if state.terminated then .finished else .resetEvent))
  | .resetEvent, .proceed =>
      some ({ state with overlappedEvent := false }.setPhase thread (.readHeader []))
  | .resetEvent, .failed => some (state.setPhase thread (.lockShutdown true))
  | .respond response, .submitted outcome => submitStep state thread response outcome
  | .checkStatus status, .proceed =>
      some (state.setPhase thread (checkStatusStep state status))
  | .awaitResponse, .proceed =>
      if state.overlappedEvent then some (state.setPhase thread .testTerminated) else none
  | .awaitResponse, .failed =>
      if state.overlappedEvent then some (state.setPhase thread (.lockShutdown true)) else none
  | _, _ => none

/-- `WnbdWaitDispatcher` may fail, which is only logged. -/
def destructorStep (state : DaemonState) (thread : ThreadId) :
    Phase → Choice → Option DaemonState
  | .waitDispatchers, .proceed => some (state.setPhase thread .joinWorker)
  | .joinWorker, .proceed =>
      if state.threads .worker = .finished then some (state.setPhase thread .finished) else none
  | _, _ => none

def threadStep (blockSize : UInt32) (state : DaemonState) (thread : ThreadId) (choice : Choice) :
    Option DaemonState :=
  match state.threads thread with
  | .idle => beginStep blockSize state thread choice
  | phase@(.lockSend _ _) | phase@(.send _ _ _) | phase@(.unlockSend _ _) =>
      sendLockStep state thread phase choice
  | phase@(.lockShutdown _) | phase@(.remove _) | phase@(.terminate) | phase@(.stopSocket)
  | phase@(.closeSocket) | phase@(.unlockShutdown) => shutdownStep state thread phase choice
  | phase@(.readHeader _) | phase@(.readPayload _ _ _) => receiveStep state thread phase choice
  | phase@(.createEvent) | phase@(.testTerminated) | phase@(.resetEvent) | phase@(.respond _)
  | phase@(.checkStatus _) | phase@(.awaitResponse) => workerStep state thread phase choice
  | phase@(.waitDispatchers) | phase@(.joinWorker) => destructorStep state thread phase choice
  | .finished => none

/-- A thread's step, or something that happens outside: `WnbdCreate` returns the
disk, the driver completes a response, or the server or the network acts. -/
inductive DaemonAction
  | thread (thread : ThreadId) (choice : Choice)
  | diskCreated
  | responseCompleted (index : Nat)
  | serverSends (bytes : List UInt8)
  | serverStopsReading
  | serverStopsAnswering
  | connectionReset

def daemonNext (blockSize : UInt32) (state : DaemonState) : DaemonAction → Option DaemonState
  | .thread thread choice => threadStep blockSize state thread choice
  | .diskCreated => some { state with wnbdDisk := true }
  | .responseCompleted index =>
      (state.inFlight[index]?).map fun response =>
        { state.deliver response with inFlight := state.inFlight.eraseIdx index }
  | .serverSends bytes =>
      if state.serverAnswers then some { state with incoming := state.incoming ++ bytes } else none
  | .serverStopsReading => some { state with serverReads := false }
  | .serverStopsAnswering => some { state with serverAnswers := false }
  | .connectionReset =>
      if state.socket = .connected then some { state with socket := .reset } else none

end Wnbd.Nbd
