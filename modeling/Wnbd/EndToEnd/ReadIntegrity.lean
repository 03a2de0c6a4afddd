import Wnbd.EndToEnd.DemuxDriver
import Wnbd.EndToEnd.LateReply

/-!
# Read integrity

In every smooth run each reply finds its entry and its element, and the bytes the server
sent for a read, filled up with zeros, are what its SRB buffer holds.
-/

set_option autoImplicit false

namespace Wnbd.EndToEnd

open Wnbd.Scsi Wnbd.Dispatch Wnbd.Nbd DaemonState StepSystem

/-- A read the server did not report an error for. -/
def SubmittedResponse.carries (response : SubmittedResponse) : Prop :=
  response.command.status.scsiStatus = 0 ∧ response.requestType = .read

instance (response : SubmittedResponse) : Decidable (SubmittedResponse.carries response) := by
  unfold SubmittedResponse.carries
  infer_instance

/-- The buffers after the driver has handled a response. -/
structure Stored (state after : DemuxState) (response : SubmittedResponse)
    (request : QueuedRequest) : Prop where
  removed : after.submittedReqList = state.submittedReqList.eraseP fun found =>
    found.tag == response.command.requestHandle
  others : ∀ srbId, srbId ≠ request.srbId → after.srbBuffers srbId = state.srbBuffers srbId
  copied : SubmittedResponse.carries response → ∀ position byte,
    position < request.range.dataLength.toNat → response.payload[position]? = some byte →
    after.srbBuffers request.srbId position = byte
  zeroed : SubmittedResponse.carries response → ∀ position, response.payload.length ≤ position →
    position < request.range.dataLength.toNat → after.srbBuffers request.srbId position = 0
  beyond : ∀ position, request.range.dataLength.toNat ≤ position →
    after.srbBuffers request.srbId position = state.srbBuffers request.srbId position
  bare : ¬ SubmittedResponse.carries response → after.srbBuffers = state.srbBuffers

def submittedResponse : Phase → Option SubmittedResponse
  | .respond response => some response
  | _ => none

/-- The response the driver handles in a step. -/
def handledResponse (state : DemuxState) : DemuxAction → Option SubmittedResponse
  | .respond _ _ => submittedResponse (state.daemon.threads .worker)
  | .completePending index _ => state.daemon.inFlight[index]?
  | _ => none

structure ReadIntegrity (mapping : NbdMapping) (state : DemuxState) : Prop where
  /-- Nobody has entered `Shutdown`, so no lookup or receive has failed. -/
  undisturbed : ∀ thread, (state.daemon.threads thread).shutdownScope = false
  found : ∀ bytes, state.daemon.threads .worker = .readHeader bytes →
    bytes.length = nbdReplySize → ∃ answer ∈ state.answers, ∃ info,
      nbdReadReply bytes = .ok ⟨answer.error, answer.handle⟩ ∧
        state.daemon.pendingRequests answer.handle = some info
  synchronized : ∃ taken replies, state.answers = taken ++ replies ∧ InStep state replies
  fetchedOnce : (state.fetched.map (·.tag)).Nodup
  answeredOnce : (state.answers.map (·.handle)).Nodup
  responses : ∀ response, state.daemon.threads .worker = .respond response ∨
    response ∈ state.daemon.inFlight ∨
      (∃ done ∈ state.daemon.delivered, done.response = response) → Answered state response
  stores : ∀ action after response, Smooth mapping state action →
    demuxNext mapping state action = some after → handledResponse state action = some response →
    ∃ request ∈ state.submittedReqList, request.tag = response.command.requestHandle ∧
      request.kind = some response.requestType ∧ Stored state after response request
  keeps : ∀ action after, demuxNext mapping state action = some after →
    handledResponse state action = none → after.srbBuffers = state.srbBuffers

/-! ## The copy and the zero fill -/

theorem storeResponse_at (dataLength : UInt32) (command : SendRspCommand)
    (dataBuffer srbBuffer : Nat → UInt8) (position : Nat)
    (unbuffered : command.hasBuffer = false → command.dataBufferSize = 0) :
    storeResponse dataLength command dataBuffer srbBuffer position =
      if position < min dataLength.toNat command.dataBufferSize.toNat then dataBuffer position
      else if position < dataLength.toNat then 0 else srbBuffer position := by
  have copied : (if command.hasBuffer = true ∧ command.dataBufferSize > 0 then
        copyMemory srbBuffer dataBuffer (min dataLength.toNat command.dataBufferSize.toNat)
      else srbBuffer) =
      copyMemory srbBuffer dataBuffer (min dataLength.toNat command.dataBufferSize.toNat) := by
    split
    case isTrue => rfl
    case isFalse none =>
      have empty : command.dataBufferSize.toNat = 0 := by
        cases buffer : command.hasBuffer with
        | false => rw [unbuffered buffer, UInt32.toNat_zero]
        | true =>
            have notPositive : ¬ (0 : UInt32) < command.dataBufferSize :=
              fun positive => none ⟨buffer, positive⟩
            rw [UInt32.lt_iff_toNat_lt, UInt32.toNat_zero] at notPositive
            omega
      funext other
      rw [copyMemory, empty, Nat.min_zero, if_neg (Nat.not_lt_zero other)]
  unfold storeResponse
  rw [copied]
  by_cases short : command.dataBufferSize < dataLength
  · rw [if_pos short]
    rw [UInt32.lt_iff_toNat_lt] at short
    unfold zeroMemory copyMemory
    split_ifs <;> first | rfl | omega
  · rw [if_neg short]
    rw [UInt32.lt_iff_toNat_lt] at short
    unfold copyMemory
    split_ifs <;> first | rfl | omega

theorem holds_at {daemon : DaemonState} {bytes : List UInt8} (holds : Holds daemon bytes)
    (position : Nat) (byte : UInt8) (here : bytes[position]? = some byte) :
    daemon.preallocatedRBuff position = byte := by
  obtain ⟨inside, _⟩ := List.getElem?_eq_some_iff.mp here
  unfold Holds at holds
  rw [← holds, List.getElem?_map, List.getElem?_range inside, Option.map_some] at here
  exact Option.some.inj here

section

variable {mapping : NbdMapping} {state after : DemuxState} {transit : Transit}

/-- The driver handles a response whose payload the reply buffer still holds. -/
theorem stored_of_handled (inv : DemuxInv mapping state transit) (response : SubmittedResponse)
    (answered : Answered state response)
    (current : response.command.requestHandle ∈ (state.pipeline transit).current)
    (holds : Holds state.daemon response.payload) (daemon : DaemonState)
    (same : after = { (handleResponse state response.command ⟨0, 0⟩).2 with daemon }) :
    ∃ request ∈ state.submittedReqList, request.tag = response.command.requestHandle ∧
      request.kind = some response.requestType ∧ Stored state after response request := by
  obtain ⟨request, submitted, completed, tagged, kind, handled⟩ :=
    handleResponse_eq inv response answered current
  obtain ⟨answer, _, responds⟩ := answered.1
  have size : response.command.dataBufferSize.toNat = response.payload.length := by
    rw [responds.size, responds.payload]
  rw [handled] at same
  refine ⟨request, submitted, tagged, kind, ?_⟩
  subst same
  have stored : SubmittedResponse.carries response → ∀ position,
      (if SubmittedResponse.carries response then
        Function.update state.srbBuffers request.srbId
          (storeResponse request.range.dataLength response.command
            state.daemon.preallocatedRBuff (state.srbBuffers request.srbId))
      else state.srbBuffers) request.srbId position =
        if position < min request.range.dataLength.toNat response.payload.length then
          state.daemon.preallocatedRBuff position
        else if position < request.range.dataLength.toNat then 0
        else state.srbBuffers request.srbId position := by
    intro carries position
    rw [if_pos carries, Function.update_self, storeResponse_at _ _ _ _ _ responds.unbuffered, size]
  refine ⟨rfl, fun srbId other => ?_, fun carries position byte inside here => ?_,
    fun carries position behind inside => ?_, fun position outside => ?_, fun bare => if_neg bare⟩
  · by_cases carries : SubmittedResponse.carries response
    · exact (congrFun (if_pos carries) srbId).trans (Function.update_of_ne other _ _)
    · exact congrFun (if_neg carries) srbId
  · have received := (List.getElem?_eq_some_iff.mp here).1
    refine (stored carries position).trans ?_
    rw [if_pos (Nat.lt_min.mpr ⟨inside, received⟩)]
    exact holds_at holds position byte here
  · refine (stored carries position).trans ?_
    rw [if_neg (fun copies => Nat.not_lt.mpr behind (Nat.lt_min.mp copies).2), if_pos inside]
  · by_cases carries : SubmittedResponse.carries response
    · refine (stored carries position).trans ?_
      rw [if_neg (fun copies => Nat.not_lt.mpr outside (Nat.lt_min.mp copies).1),
        if_neg (Nat.not_lt.mpr outside)]
    · exact congrFun (congrFun (if_neg carries) request.srbId) position

theorem respond_after (faults : ResponseFaults) (code : UInt32) (response : SubmittedResponse)
    (here : state.daemon.threads .worker = .respond response)
    (taken : respond mapping state faults code = some after) :
    ∃ daemon, after = { (handleResponse state response.command faults).2 with daemon } := by
  unfold respond at taken
  rw [here] at taken
  obtain ⟨daemon, _, rfl⟩ := Option.map_eq_some_iff.mp taken
  exact ⟨daemon, rfl⟩

theorem completePending_after (index : Nat) (faults : ResponseFaults)
    (response : SubmittedResponse) (found : state.daemon.inFlight[index]? = some response)
    (taken : completePending mapping state index faults = some after) :
    ∃ daemon, after = { (handleResponse state response.command faults).2 with daemon } := by
  unfold completePending at taken
  rw [found] at taken
  obtain ⟨daemon, _, rfl⟩ := Option.map_eq_some_iff.mp taken
  exact ⟨daemon, rfl⟩

theorem daemonStep_buffers (thread : ThreadId) (choice : Choice)
    (stepped : daemonStep mapping state thread choice = some after) :
    after.srbBuffers = state.srbBuffers := by
  obtain ⟨_, _, rfl⟩ := Option.map_eq_some_iff.mp stepped
  rfl

theorem buffers_kept (action : DemuxAction) (taken : demuxNext mapping state action = some after)
    (none : handledResponse state action = none) : after.srbBuffers = state.srbBuffers := by
  cases demuxNext_cases taken with
  | fetch index faults status _ _ _ fetches =>
      cases fetchPending_cases fetches with
      | submitted => rfl
      | refused => rfl
  | handle index buffer request payload call handled _ _ stepped =>
      have kept := daemonStep_buffers _ _ stepped
      exact kept
  | daemon thread choice _ _ stepped => exact daemonStep_buffers thread choice stepped
  | respond faults code response _ here stepped =>
      have waits : submittedResponse (state.daemon.threads .worker) = .none := none
      rw [here] at waits
      cases waits
  | respondPending _ stepped => exact daemonStep_buffers _ _ stepped
  | completePending index faults response _ found _ =>
      rw [show state.daemon.inFlight[index]? = .none from none] at found
      cases found
  | diskCreated | pend | serverReads | serverAnswers | fetchElsewhere | abortPending
  | abortSubmitted | setDiskSize => rfl

theorem DemuxInv.stores (inv : DemuxInv mapping state transit) (action : DemuxAction)
    (response : SubmittedResponse) (permitted : Smooth mapping state action)
    (taken : demuxNext mapping state action = some after)
    (handles : handledResponse state action = some response) :
    ∃ request ∈ state.submittedReqList, request.tag = response.command.requestHandle ∧
      request.kind = some response.requestType ∧ Stored state after response request := by
  cases action with
  | respond faults code =>
      obtain rfl : faults = ⟨0, 0⟩ := of_decide_eq_true permitted
      have here : state.daemon.threads .worker = .respond response := by
        have waits : submittedResponse (state.daemon.threads .worker) = some response := handles
        generalize state.daemon.threads .worker = phase at waits
        cases phase <;> cases waits
        rfl
      obtain ⟨daemon, same⟩ := respond_after ⟨0, 0⟩ code response here taken
      have inStep := inv.wire.input
      unfold InStep at inStep
      rw [here] at inStep
      refine stored_of_handled inv response inStep.1 ?_ (inv.calm.buffer.loaded _ ?_) daemon same
      · change _ ∈ (workerHandle (state.daemon.threads .worker)).toList ++ _
        rw [here]
        exact List.mem_cons_self
      · rw [here]
        rfl
  | completePending index faults =>
      obtain rfl : faults = ⟨0, 0⟩ := of_decide_eq_true permitted
      obtain ⟨daemon, same⟩ := completePending_after index ⟨0, 0⟩ response handles taken
      have flying := List.mem_of_getElem? (show state.daemon.inFlight[index]? = some response
        from handles)
      refine stored_of_handled inv response (inv.wire.answered response (Or.inl flying)) ?_ ?_
        daemon same
      · exact List.mem_append_right _ (List.mem_map_of_mem flying)
      · rcases inv.calm.buffer.flying with none | ⟨only, alone, holds, _, _⟩
        · rw [none] at flying
          cases flying
        · rw [alone] at flying
          rw [List.mem_singleton.mp flying]
          exact holds
  | diskCreated | pend | fetch | handle | daemon | respondPending | serverReads
  | serverAnswers | fetchElsewhere | abortPending | abortSubmitted | setDiskSize => cases handles

theorem servesPhase_outside (phase : Phase) (serves : servesPhase phase = true) :
    phase.shutdownScope = false := by
  cases phase <;> first | rfl | cases serves

theorem DemuxInv.integrity (inv : DemuxInv mapping state transit) :
    ReadIntegrity mapping state where
  undisturbed thread := servesPhase_outside _ (inv.calm.serving thread)
  found bytes here full := by
    obtain ⟨answer, rest, info, replies, read, _, entered, _⟩ := inv.reply bytes here full
    obtain ⟨taken, all⟩ := inv.wire.history
    refine ⟨answer, ?_, info, read, entered⟩
    rw [all, replies]
    exact List.mem_append_right _ List.mem_cons_self
  synchronized := by
    obtain ⟨taken, all⟩ := inv.wire.history
    exact ⟨taken, transit.replies, all, inv.wire.input⟩
  fetchedOnce := inv.pipeline.fetchedOnce
  answeredOnce := inv.pipeline.answeredOnce
  responses response found := by
    rcases found with here | under
    · have inStep := inv.wire.input
      unfold InStep at inStep
      rw [here] at inStep
      exact inStep.1
    · exact inv.wire.answered response under
  stores action after response permitted taken handles :=
    inv.stores action response permitted taken handles
  keeps action after taken none := buffers_kept action taken none

end

theorem demuxInv_of_path (mapping : NbdMapping) (state : DemuxState)
    (path : Path (demuxNext mapping) (Smooth mapping) .initial state) :
    ∃ transit, DemuxInv mapping state transit :=
  path.invariant (fun state => ∃ transit, DemuxInv mapping state transit)
    ⟨_, demuxInv_initial mapping⟩ fun _ action after permitted ⟨_, inv⟩ taken =>
      demuxNext_inv inv action permitted after taken

instance (mapping : NbdMapping) (state : DemuxState) (action : DemuxAction) :
    Decidable (Smooth mapping state action) := by
  unfold Smooth
  infer_instance

/-- Replies and read data in every smooth run, for any number of dispatchers and a server
that answers in any order. -/
theorem read_integrity (mapping : NbdMapping) (state : DemuxState)
    (path : Path (demuxNext mapping) (Smooth mapping) .initial state) :
    ReadIntegrity mapping state := by
  obtain ⟨transit, inv⟩ := demuxInv_of_path mapping state path
  exact inv.integrity

/-- A READ(10) of one block at address 0. -/
def read10Srb : Srb :=
  { write10Srb 1 512 with
    cdb := some #v[0x28, 0, 0, 0, 0, 0, 0, 0, 1, 0, 0, 0, 0, 0, 0, 0] }

/-- A dispatcher fetches a request and sends its frame. -/
def sendRequestRun (index : Nat) : List DemuxAction :=
  [.fetch index ⟨0, 0⟩, .handle index fun _ => 0, .daemon (.dispatcher index) .proceed,
    .daemon (.dispatcher index) (.accepted 28), .daemon (.dispatcher index) .proceed]

/-- The worker goes around its loop and receives a block. -/
def receiveReplyRun : List DemuxAction :=
  [.daemon .worker .proceed, .daemon .worker .proceed, .daemon .worker (.received 16),
    .daemon .worker .proceed, .daemon .worker (.received 512)]

/-- Two reads are answered in the other order; the second response is pending for a while. -/
def reorderedReadsRun : List DemuxAction :=
  [.diskCreated, .daemon .worker .proceed, .pend 0 read10Srb, .pend 1 read10Srb] ++
    sendRequestRun 0 ++ sendRequestRun 1 ++
    [.serverReads, .serverReads, .serverAnswers 1 0 (List.replicate 512 7),
      .serverAnswers 0 0 (List.replicate 512 9)] ++
    receiveReplyRun ++ [.respond ⟨0, 0⟩ 0, .daemon .worker .proceed] ++
    receiveReplyRun ++ [.respondPending, .completePending 0 ⟨0, 0⟩]

theorem read_integrity_reordered : ∃ state,
    run (demuxNext nbdDisk) .initial reorderedReadsRun = some state ∧
      state.srbBuffers 0 511 = 9 ∧ state.srbBuffers 1 511 = 7 ∧ ReadIntegrity nbdDisk state := by
  have ran : (run (demuxNext nbdDisk) .initial reorderedReadsRun).map
      (fun state => (state.srbBuffers 0 511, state.srbBuffers 1 511)) = some (9, 7) := by
    decide +kernel
  obtain ⟨last, reached, bytes⟩ := Option.map_eq_some_iff.mp ran
  obtain ⟨first, second⟩ := Prod.mk.inj bytes
  exact ⟨last, reached, first, second, read_integrity nbdDisk last
    (path_of_run _ last reorderedReadsRun (by decide +kernel) reached)⟩

end Wnbd.EndToEnd
