import Wnbd.EndToEnd.QuietSteps

/-!
# The two byte streams

What the daemon sends and the server has not read is a row of whole request frames, and
what the server sent and the worker has not read is a row of whole replies.
-/

set_option autoImplicit false

namespace Wnbd.EndToEnd

open Wnbd.Scsi Wnbd.Dispatch Wnbd.Nbd BigEndian DaemonState

/-! ## Headers -/

theorem decodeHeader_eq (bytes : List UInt8) : decodeHeader bytes =
    if ((bytes.drop 24).take 4).length = 4 ∧ ofBytes (bytes.take 4) = nbdRequestMagic.toNat then
      some
        { type := UInt32.ofNat (ofBytes ((bytes.drop 4).take 4))
          handle := UInt64.ofNat (ofBytes ((bytes.drop 8).take 8).reverse)
          offset := UInt64.ofNat (ofBytes ((bytes.drop 16).take 8))
          length := UInt32.ofNat (ofBytes ((bytes.drop 24).take 4)) }
    else none := by
  simp only [decodeHeader, List.splitAt_eq, List.drop_drop]

theorem decodeHeader_long {bytes : List UInt8} {header : NbdHeader}
    (decoded : decodeHeader bytes = some header) : nbdRequestSize ≤ bytes.length := by
  rw [decodeHeader_eq, Option.ite_none_right_eq_some] at decoded
  have whole := decoded.1.1
  rw [List.length_take, List.length_drop] at whole
  rw [nbdRequestSize]
  omega

theorem decodeHeader_append (bytes rest : List UInt8) (long : nbdRequestSize ≤ bytes.length) :
    decodeHeader (bytes ++ rest) = decodeHeader bytes := by
  rw [nbdRequestSize] at long
  have field : ∀ offset width, offset + width ≤ 28 →
      ((bytes ++ rest).drop offset).take width = (bytes.drop offset).take width := by
    intro offset width inside
    rw [List.drop_append_of_le_length (by omega), List.take_append_of_le_length
      (by rw [List.length_drop]; omega)]
  have front := field 0 4 (by omega)
  rw [List.drop_zero, List.drop_zero] at front
  rw [decodeHeader_eq, decodeHeader_eq, front, field 4 4 (by omega), field 8 8 (by omega),
    field 16 8 (by omega), field 24 4 (by omega)]

/-- The header found at the front of a stream is that of its first frame. -/
theorem header_of_stream (arrived rest : List UInt8) (frames : List (List UInt8))
    (stream : arrived ++ rest = frames.flatten)
    (whole : ∀ frame ∈ frames, nbdRequestSize ≤ frame.length) (header : NbdHeader)
    (decoded : decodeHeader arrived = some header) :
    ∃ frame more, frames = frame :: more ∧ decodeHeader frame = some header := by
  have long := decodeHeader_long decoded
  cases frames with
  | nil =>
      rw [List.flatten_nil, List.append_eq_nil_iff] at stream
      rw [stream.1, nbdRequestSize] at long
      exact absurd long (by decide)
  | cons frame more =>
      refine ⟨frame, more, rfl, ?_⟩
      rw [← decodeHeader_append arrived rest long, stream, List.flatten_cons,
        decodeHeader_append frame _ (whole frame List.mem_cons_self)] at decoded
      exact decoded

theorem nbdReadReply_bytes (answer : ServerAnswer) (rest bytes : List UInt8)
    (front : bytes = (answer.bytes ++ rest).take nbdReplySize) :
    nbdReadReply bytes = .ok ⟨answer.error, answer.handle⟩ ∧
      (answer.bytes ++ rest).drop nbdReplySize = answer.payload ++ rest := by
  have split : answer.bytes ++ rest = (toBytes 4 nbdReplyMagic.toNat ++
      (toBytes 4 answer.error.toNat ++ hostBytes answer.handle)) ++ (answer.payload ++ rest) := by
    simp only [ServerAnswer.bytes, List.append_assoc]
  have exact : (toBytes 4 nbdReplyMagic.toNat ++
      (toBytes 4 answer.error.toNat ++ hostBytes answer.handle)).length = nbdReplySize := by
    simp [nbdReplySize]
  rw [split, List.take_left' exact] at front
  refine ⟨?_, by rw [split, List.drop_left' exact]⟩
  have magic : ofBytes (toBytes 4 nbdReplyMagic.toNat) = nbdReplyMagic.toNat :=
    ofBytes_toBytes_of_lt 4 _ nbdReplyMagic.toNat_lt
  rw [front]
  simp only [nbdReadReply]
  rw [splitAt_field 4 _ _ (toBytes_length 4 _)]
  dsimp only
  rw [splitAt_field 4 _ _ (toBytes_length 4 _), magic]
  simp only [ne_eq, not_true_eq_false, if_false, ofBytes_word32, hostBytes, List.reverse_reverse,
    ofBytes_word64]

/-! ## Responses -/

/-- The response says what the server answered. -/
structure RespondsTo (answer : ServerAnswer) (response : SubmittedResponse) : Prop where
  handle : response.command.requestHandle = answer.handle
  status : response.command.status.scsiStatus ≠ 0 ↔ answer.error ≠ 0
  buffer : response.command.hasBuffer = true ↔ response.requestType = .read ∧ answer.error = 0
  unbuffered : response.command.hasBuffer = false → response.command.dataBufferSize = 0
  size : response.command.dataBufferSize.toNat = answer.payload.length
  payload : response.payload = answer.payload

/-- A response to a request that was fetched, with what the server answered to it. -/
def Answered (state : DemuxState) (response : SubmittedResponse) : Prop :=
  (∃ answer ∈ state.answers, RespondsTo answer response) ∧
    ∃ request ∈ state.fetched, request.tag = response.command.requestHandle ∧
      request.kind = some response.requestType

theorem Answered.mono {state after : DemuxState} {response : SubmittedResponse}
    (answered : Answered state response)
    (answers : ∀ answer ∈ state.answers, answer ∈ after.answers)
    (fetched : ∀ request ∈ state.fetched, request ∈ after.fetched) : Answered after response := by
  obtain ⟨⟨answer, member, responds⟩, request, known, same⟩ := answered
  exact ⟨⟨answer, answers answer member, responds⟩, request, fetched request known, same⟩

def repliesBytes (replies : List ServerAnswer) : List UInt8 :=
  (replies.map ServerAnswer.bytes).flatten

/-- The worker stands in front of whole replies, or inside the one it is reading. -/
def InStep (state : DemuxState) (replies : List ServerAnswer) : Prop :=
  match state.daemon.threads .worker with
  | .readHeader bytes =>
      bytes.length ≤ nbdReplySize ∧ bytes ++ state.daemon.incoming = repliesBytes replies
  | .readPayload request command bytes =>
      ∃ payload, Answered state ⟨request.requestType, command, payload⟩ ∧
        payload.length = request.length.toNat ∧ bytes.length < request.length.toNat ∧
          bytes ++ state.daemon.incoming = payload ++ repliesBytes replies
  | .respond response =>
      Answered state response ∧ state.daemon.incoming = repliesBytes replies
  | _ => state.daemon.incoming = repliesBytes replies

/-! ## The invariant -/

/-- What is between the daemon and the server: frames whose header is unread, the part of
the last one that is not sent yet, and replies whose header is unread. -/
structure Transit where
  frames : List (List UInt8)
  unsent : List UInt8
  replies : List ServerAnswer

def waitingFrame : Phase → Option (List UInt8)
  | .lockSend frame _ => some frame
  | _ => none

def workerHandle : Phase → Option UInt64
  | .readPayload _ command _ => some command.requestHandle
  | .respond response => some response.command.requestHandle
  | _ => none

def DemuxState.pipeline (state : DemuxState) (transit : Transit) : Pipeline :=
  { pendingReqList := state.pendingReqList
    submittedReqList := state.submittedReqList
    fetched := state.fetched
    requestHandle := state.requestHandle
    dispatchers := state.dispatchers
    waiting := fun index => waitingFrame (state.daemon.threads (.dispatcher index))
    frames := transit.frames
    outstanding := state.outstanding
    replies := transit.replies
    current := (workerHandle (state.daemon.threads .worker)).toList ++
      state.daemon.inFlight.map (·.command.requestHandle)
    answered := state.answers.map (·.handle)
    pendingRequests := state.daemon.pendingRequests }

structure WireInv (state : DemuxState) (transit : Transit) : Prop where
  sending : ∀ thread frame sent purpose,
    state.daemon.threads thread = .send frame sent purpose → transit.unsent = frame.drop sent
  resting : (∀ thread frame sent purpose,
    state.daemon.threads thread ≠ .send frame sent purpose) → transit.unsent = []
  position : state.serverPosition ≤ (state.daemon.accepted ++ transit.unsent).length
  output : (state.daemon.accepted ++ transit.unsent).drop state.serverPosition =
    transit.frames.flatten
  input : InStep state transit.replies
  history : ∃ taken, state.answers = taken ++ transit.replies
  answered : ∀ response, response ∈ state.daemon.inFlight ∨
    (∃ done ∈ state.daemon.delivered, done.response = response) → Answered state response

structure DemuxInv (mapping : NbdMapping) (state : DemuxState) (transit : Transit) : Prop where
  calm : Calm state.daemon
  wire : WireInv state transit
  pipeline : PipelineInv mapping (state.pipeline transit)

theorem demuxInv_initial (mapping : NbdMapping) :
    DemuxInv mapping .initial ⟨[], [], []⟩ where
  calm := calm_initial
  wire :=
    { sending := fun thread _ _ _ here => by cases thread <;> cases here
      resting := fun _ => rfl
      position := Nat.le_refl _
      output := rfl
      input := rfl
      history := ⟨[], rfl⟩
      answered := by
        rintro response (flying | ⟨done, member, _⟩)
        · cases flying
        · cases member }
  pipeline := pipelineInv_initial mapping

end Wnbd.EndToEnd
