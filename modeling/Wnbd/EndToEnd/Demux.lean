import Wnbd.EndToEnd.Mapping
import Wnbd.Nbd.Framing
import Wnbd.Nbd.ReplyBuffer

/-!
# Replies on the wire

The driver's queues and SRB buffers, the threads of the NBD daemon with their sockets and
locks, and a server that reads request headers out of the bytes `send` accepted.  It
answers each request once, in any order, with an error or with exactly the bytes a read
asked for.  `fetched` and `answers` are histories.
-/

set_option autoImplicit false

namespace Wnbd.EndToEnd

open Wnbd.Scsi Wnbd.Dispatch Wnbd.Nbd BigEndian

structure ServerAnswer where
  handle : UInt64
  error : UInt32
  payload : List UInt8
deriving DecidableEq, Repr

def ServerAnswer.bytes (answer : ServerAnswer) : List UInt8 :=
  toBytes 4 nbdReplyMagic.toNat ++ toBytes 4 answer.error.toNat ++ hostBytes answer.handle ++
    answer.payload

structure DemuxState where
  daemon : DaemonState
  pendingReqList : List QueuedRequest
  submittedReqList : List QueuedRequest
  requestHandle : UInt64
  completed : List CompletedSrb
  /-- The memory from an SRB's data buffer on; nothing but the element's length stops a write. -/
  srbBuffers : Nat → Nat → UInt8
  dispatchers : Nat → DispatcherPc
  /-- Where the next request header starts in the accepted bytes. -/
  serverPosition : Nat
  outstanding : List NbdHeader
  answers : List ServerAnswer
  fetched : List QueuedRequest
  /-- The block count `IOCTL_WNBD_SET_DISK_SIZE` has set. -/
  resized : Option UInt64

def DemuxState.initial : DemuxState :=
  { daemon := .initial
    pendingReqList := []
    submittedReqList := []
    requestHandle := 0
    completed := []
    srbBuffers := fun _ _ => 0
    dispatchers := fun _ => .fetching statusSuccess
    serverPosition := 0
    outstanding := []
    answers := []
    fetched := []
    resized := none }

namespace DemuxState

def setDispatcher (state : DemuxState) (index : Nat) (pc : DispatcherPc) : DemuxState :=
  { state with dispatchers := Function.update state.dispatchers index pc }

def complete (state : DemuxState) (request : QueuedRequest) (srb : Srb) : DemuxState :=
  { state with completed := state.completed ++ [⟨request.srbId, srb⟩] }

def props (mapping : NbdMapping) (state : DemuxState) : WnbdProperties :=
  { mapping.props with blockCount := state.resized.getD mapping.props.blockCount }

def findSubmitted (state : DemuxState) (tag : UInt64) : Option QueuedRequest :=
  state.submittedReqList.find? fun request => request.tag == tag

end DemuxState

open DemuxState

/-! ## The driver -/

/-- A dispatcher's fetch call meets the head of the pending queue.  The block count is for
admission only, so that the created disk's properties serve here. -/
def fetchPending (mapping : NbdMapping) (state : DemuxState) (index : Nat) (status : NtStatus)
    (faults : FetchFaults) : Option DemuxState :=
  match state.pendingReqList with
  | [] => none
  | request :: rest =>
      let tag := state.requestHandle + 1
      let fetched := fetchElement mapping.props dispatcherBufferSize tag request.range request.srb
        faults
      let status := fetched.verdict.status.getD status
      let popped := { state with pendingReqList := rest, requestHandle := tag }
      match fetched.verdict with
      | .submit payload =>
          let submitted := { request with tag, srb := fetched.srb }
          some ({ popped with
            submittedReqList := state.submittedReqList ++ [submitted]
            fetched := state.fetched ++ [submitted] }.setDispatcher index
              (if ntSuccess status then .handling fetched.request payload else .removing))
      | .bufferTooSmall =>
          some ((popped.complete request fetched.srb).setDispatcher index .removing)
      | .invalid | .lockFailed _ | .noSrbBuffer =>
          some ((popped.complete request fetched.srb).setDispatcher index (.fetching status))

def copyMemory (destination source : Nat → UInt8) (length : Nat) : Nat → UInt8 := fun position =>
  if position < length then source position else destination position

def zeroMemory (destination : Nat → UInt8) (offset length : Nat) : Nat → UInt8 := fun position =>
  if offset ≤ position ∧ position < offset + length then 0 else destination position

def storeResponse (dataLength : UInt32) (command : SendRspCommand) (dataBuffer : Nat → UInt8)
    (srbBuffer : Nat → UInt8) : Nat → UInt8 :=
  let copied :=
    if command.hasBuffer ∧ command.dataBufferSize > 0 then
      copyMemory srbBuffer dataBuffer (min dataLength.toNat command.dataBufferSize.toNat)
    else srbBuffer
  if command.dataBufferSize < dataLength then
    zeroMemory copied command.dataBufferSize.toNat
      (dataLength.toNat - command.dataBufferSize.toNat)
  else copied

/-- `WnbdHandleResponse`.  The data buffer of the response is the daemon's reply buffer. -/
def handleResponse (state : DemuxState) (command : SendRspCommand) (faults : ResponseFaults) :
    NtStatus × DemuxState :=
  match state.findSubmitted command.requestHandle with
  | none => (statusNotFound, state)
  | some request =>
      let handled := applyResponse request.range false request.srb command faults
      let answered := { state with
        submittedReqList := state.submittedReqList.eraseP fun request =>
          request.tag == command.requestHandle }.complete request handled.srb
      (handled.status,
        if handled.writes = [] then answered
        else { answered with
          srbBuffers := Function.update state.srbBuffers request.srbId
            (storeResponse request.range.dataLength command state.daemon.preallocatedRBuff
              (state.srbBuffers request.srbId)) })

/-- One turn of the drain loop of an abort or a reset. -/
def abortPending (state : DemuxState) : Option DemuxState :=
  match state.pendingReqList with
  | [] => none
  | request :: rest =>
      some ({ state with pendingReqList := rest }.complete request (abortSrb request.srb))

def abortSubmitted (state : DemuxState) : Option DemuxState :=
  match state.submittedReqList with
  | [] => none
  | request :: rest =>
      some ({ state with submittedReqList := rest }.complete request (abortSrb request.srb))

/-! ## The daemon -/

def handlerCall (props : WnbdProperties) (request : WnbdIoRequest) (payload : FetchPayload)
    (buffer : Nat → UInt8) : Option HandlerCall :=
  match request.requestType, request.cmd, payload with
  | .read, .read blockAddress blockCount _, _ =>
      some (.read request.requestHandle blockAddress blockCount)
  | .write, .write blockAddress blockCount forceUnitAccess, _ =>
      some (.write request.requestHandle buffer blockAddress blockCount forceUnitAccess)
  | .flush, .flush _ blockCount, _ =>
      if props.flags.flushSupported then some (.flush request.requestHandle blockCount) else none
  | .unmap, .unmap _, .unmapDescriptor blockAddress blockCount =>
      if props.flags.unmapSupported then
        some (.unmap request.requestHandle blockAddress blockCount)
      else none
  | _, _, _ => none

/-- Steps that need the driver are composed with it; the others are the daemon's own. -/
def ownStep : Choice → Bool
  | .request _ | .submitted _ => false
  | _ => true

def daemonStep (mapping : NbdMapping) (state : DemuxState) (thread : ThreadId) (choice : Choice) :
    Option DemuxState :=
  (threadStep mapping.props.blockSize state.daemon thread choice).map fun daemon =>
    { state with daemon }

def handleRequest (mapping : NbdMapping) (state : DemuxState) (index : Nat)
    (buffer : Nat → UInt8) : Option DemuxState :=
  match state.dispatchers index with
  | .handling request payload =>
      (handlerCall mapping.props request payload buffer).bind fun call =>
        (daemonStep mapping state (.dispatcher index) (.request call)).map fun handled =>
          handled.setDispatcher index (.fetching statusSuccess)
  | _ => none

/-- The worker hands over a response; the call returns when the driver handled it, or at
once.  `code` is the error of a call that failed. -/
def respond (mapping : NbdMapping) (state : DemuxState) (faults : ResponseFaults)
    (code : UInt32) : Option DemuxState :=
  match state.daemon.threads .worker with
  | .respond response =>
      let (status, answered) := handleResponse state response.command faults
      daemonStep mapping answered .worker
        (.submitted (if ntSuccess status then .completed else .failed code))
  | _ => none

def completePending (mapping : NbdMapping) (state : DemuxState) (index : Nat)
    (faults : ResponseFaults) : Option DemuxState :=
  (state.daemon.inFlight[index]?).bind fun response =>
    let answered := (handleResponse state response.command faults).2
    (daemonNext mapping.props.blockSize answered.daemon (.responseCompleted index)).map
      fun daemon => { answered with daemon }

/-! ## The server -/

/-- The server reads the next header once it has arrived, and goes on behind the payload. -/
def serverReads (state : DemuxState) : Option DemuxState :=
  (decodeHeader (state.daemon.accepted.drop state.serverPosition)).map fun header =>
    { state with
      serverPosition := state.serverPosition + nbdRequestSize + header.payloadLength
      outstanding := state.outstanding ++ [header] }

def isReadHeader (header : NbdHeader) : Bool := decide (header.type &&& 0xFFFF = nbdCmdRead)

def conforming (header : NbdHeader) (error : UInt32) (payload : List UInt8) : Prop :=
  payload.length = if error = 0 ∧ isReadHeader header then header.length.toNat else 0

instance (header : NbdHeader) (error : UInt32) (payload : List UInt8) :
    Decidable (conforming header error payload) := by
  unfold conforming
  infer_instance

def serverAnswers (state : DemuxState) (index : Nat) (error : UInt32) (payload : List UInt8) :
    Option DemuxState :=
  (state.outstanding[index]?).bind fun header =>
    if conforming header error payload then
      let answer : ServerAnswer := ⟨header.handle, error, payload⟩
      some { state with
        daemon := { state.daemon with incoming := state.daemon.incoming ++ answer.bytes }
        outstanding := state.outstanding.eraseIdx index
        answers := state.answers ++ [answer] }
    else none

/-! ## Runs -/

inductive DemuxAction
  | diskCreated
  | pend (srbId : Nat) (srb : Srb)
  | fetch (index : Nat) (faults : FetchFaults)
  | handle (index : Nat) (buffer : Nat → UInt8)
  | daemon (thread : ThreadId) (choice : Choice)
  | respond (faults : ResponseFaults) (code : UInt32)
  | respondPending
  | completePending (index : Nat) (faults : ResponseFaults)
  | serverReads
  | serverAnswers (index : Nat) (error : UInt32) (payload : List UInt8)
  /-- The tag counter is one for all disks: a fetch of another draws from it too. -/
  | fetchElsewhere
  | abortPending
  | abortSubmitted
  | setDiskSize (blockCount : UInt64)

def demuxNext (mapping : NbdMapping) (state : DemuxState) : DemuxAction → Option DemuxState
  | .diskCreated => some { state with daemon := { state.daemon with wnbdDisk := true } }
  | .pend srbId srb =>
      (acceptedRange (state.props mapping) (srb.setSrbStatus srbStatusAborted)).map fun range =>
        { state with
          pendingReqList := state.pendingReqList ++
            [⟨srbId, 0, range, srb.setSrbStatus srbStatusAborted⟩] }
  | .fetch index faults =>
      match state.dispatchers index with
      | .fetching status =>
          if state.daemon.wnbdDisk = true ∧ state.daemon.threads (.dispatcher index) = .idle then
            fetchPending mapping state index status faults
          else none
      | _ => none
  | .handle index buffer => handleRequest mapping state index buffer
  | .daemon thread choice => if ownStep choice then daemonStep mapping state thread choice else none
  | .respond faults code => respond mapping state faults code
  | .respondPending => daemonStep mapping state .worker (.submitted .pending)
  | .completePending index faults => completePending mapping state index faults
  | .serverReads => serverReads state
  | .serverAnswers index error payload => serverAnswers state index error payload
  | .fetchElsewhere => some { state with requestHandle := state.requestHandle + 1 }
  | .abortPending => abortPending state
  | .abortSubmitted => abortSubmitted state
  | .setDiskSize blockCount => some { state with resized := some blockCount }

def fitsReplyBuffer (props : WnbdProperties) (srb : Srb) : Bool :=
  match srb.cdb, acceptedRange props (srb.setSrbStatus srbStatusAborted) with
  | some cdb, some range => decide (scsiOpToWnbdReqType (cdb.asByte 0) = .read →
      range.dataLength ≤ wnbdDefaultMaxTransferLength)
  | _, _ => true

def smoothChoice : Choice → Bool
  | .shutdown _ | .destroy | .sendFailed | .sentNothing | .receiveFailed | .failed => false
  | _ => true

/-- No socket call, event function or mapping of a buffer fails, nobody calls `Shutdown` or
aborts a request, the reads are within the maximum, and the tag counter does not wrap. -/
def smooth (mapping : NbdMapping) (state : DemuxState) : DemuxAction → Bool
  | .pend _ srb => fitsReplyBuffer (state.props mapping) srb
  | .fetch _ _ | .fetchElsewhere => decide (state.requestHandle.toNat + 1 < 2 ^ 64)
  | .abortPending | .abortSubmitted => false
  | .daemon _ choice => smoothChoice choice
  | .respond faults _ | .completePending _ faults => decide (faults = ⟨0, 0⟩)
  | _ => true

def Smooth (mapping : NbdMapping) (state : DemuxState) (action : DemuxAction) : Prop :=
  smooth mapping state action = true

end Wnbd.EndToEnd
