import Wnbd.EndToEnd.Connection
import Wnbd.EndToEnd.WireFrames

/-!
# Requests that are completed with success

In a smooth run a request is completed with success only once its frame has arrived, with
the data of the SRB, and was answered without an error.
-/

set_option autoImplicit false

namespace Wnbd.EndToEnd

open Wnbd.Scsi Wnbd.Dispatch Wnbd.Nbd DaemonState StepSystem TracedBuffer

/-! ## Completions -/

theorem setSrbStatus_notSuccess (srb : Srb) (status : WnbdStatus) :
    (setSrbStatus srb status).srbStatus ≠ srbStatusSuccess := by
  have autosense : srbStatusError ||| srbStatusAutosenseValid ≠ srbStatusSuccess := by
    decide
  have plain : srbStatusError ≠ srbStatusSuccess := by
    decide
  unfold setSrbStatus
  split
  · exact autosense
  · exact plain

/-- Success is reported for a response without an error. -/
theorem applyResponse_error (range : ElementRange) (srb : Srb) (command : SendRspCommand)
    (faults : ResponseFaults) (hasCdb : srb.cdb ≠ none)
    (success : (applyResponse range false srb command faults).srb.srbStatus = srbStatusSuccess) :
    command.status.scsiStatus = 0 := by
  by_contra failed
  have internal : srbStatusInternalError ≠ srbStatusSuccess := by
    decide
  unfold applyResponse at success
  dsimp only at success
  split at success
  case isTrue missing => exact hasCdb (Option.isNone_iff_eq_none.mp missing.2)
  case isFalse =>
    split at success
    case isTrue => exact internal success
    case isFalse =>
      rw [if_neg (fun both => failed both.1)] at success
      simp only [reportStatus] at success
      rw [if_pos failed] at success
      exact setSrbStatus_notSuccess _ _ success

theorem fetchElement_notSuccess (props : WnbdProperties) (bufferSize : UInt32) (tag : UInt64)
    (range : ElementRange) (srb : Srb) (faults : FetchFaults)
    (rejected : ∀ payload, (fetchElement props bufferSize tag range srb faults).verdict ≠
      .submit payload) :
    (fetchElement props bufferSize tag range srb faults).srb.srbStatus ≠ srbStatusSuccess := by
  have invalid : srbStatusInvalidRequest ≠ srbStatusSuccess := by
    decide
  have internal : srbStatusInternalError ≠ srbStatusSuccess := by
    decide
  unfold fetchElement at rejected ⊢
  simp only [Srb.setDataTransferLength_cdb] at rejected ⊢
  cases found : srb.cdb with
  | none => exact invalid
  | some cdb =>
    simp only [found] at rejected
    dsimp only
    split
    · rename_i valid
      rw [if_pos valid] at rejected
      dsimp only at rejected ⊢
      cases verdict : fetchVerdict props bufferSize range faults
          (scsiOpToWnbdReqType (cdb.asByte 0)) with
      | submit payload => exact absurd verdict (rejected payload)
      | invalid | bufferTooSmall | lockFailed | noSrbBuffer => exact internal
    · exact invalid

/-! ## The invariant -/

structure AckInv (state : DemuxState) : Prop where
  served : ServedInv state
  answered : ∀ answer ∈ state.answers, ∃ frame, frameHandle frame = some answer.handle ∧
    Arrived state.daemon frame
  tagged : ∀ request ∈ state.fetched, request.tag ≠ 0
  completed : ∀ done ∈ state.completed, done.srb.srbStatus = srbStatusSuccess →
    ∃ request ∈ state.fetched, request.srbId = done.srbId ∧
      ∃ answer ∈ state.answers, answer.handle = request.tag ∧ answer.error = 0

theorem ackInv_initial : AckInv .initial where
  served := servedInv_initial
  answered _ member := by cases member
  tagged _ member := by cases member
  completed _ member := by cases member

/-- A server answers a request once all of it has arrived. -/
def patient (state : DemuxState) : DemuxAction → Bool
  | .serverAnswers _ _ _ => decide (state.serverPosition ≤ state.daemon.accepted.length)
  | _ => true

section

variable {mapping : NbdMapping} {state after : DemuxState} {transit : Transit}

theorem AckInv.daemonMoves (inv : AckInv state) (daemon : DaemonState)
    (moved : InOrder daemon ∧ state.daemon.issued <+: daemon.issued ∧
      state.daemon.accepted <+: daemon.accepted) : AckInv { state with daemon } := by
  obtain ⟨order, issued, accepted⟩ := moved
  refine ⟨inv.served.moves order issued rfl rfl rfl, ?_, inv.tagged, inv.completed⟩
  intro answer member
  obtain ⟨frame, handle, arrived⟩ := inv.answered answer member
  exact ⟨frame, handle, arrived.mono issued accepted⟩

theorem AckInv.daemonStep (inv : AckInv state) (calm : Calm state.daemon) (thread : ThreadId)
    (choice : Choice) (works : sendsWhole choice = true)
    (stepped : daemonStep mapping state thread choice = some after) : AckInv after := by
  obtain ⟨daemon, taken, rfl⟩ := Option.map_eq_some_iff.mp stepped
  exact inv.daemonMoves daemon (InOrder.threadStep calm inv.served.order works taken)

theorem AckInv.queues (inv : AckInv state) (after : DemuxState)
    (daemon : after.daemon = state.daemon) (position : after.serverPosition = state.serverPosition)
    (outstanding : after.outstanding = state.outstanding) (answers : after.answers = state.answers)
    (kept : ∀ request ∈ state.fetched, request ∈ after.fetched)
    (tagged : ∀ request ∈ after.fetched, request.tag ≠ 0)
    (completed : ∀ done ∈ after.completed, done ∈ state.completed ∨
      (done.srb.srbStatus = srbStatusSuccess → ∃ request ∈ after.fetched,
        request.srbId = done.srbId ∧ ∃ answer ∈ after.answers,
          answer.handle = request.tag ∧ answer.error = 0)) : AckInv after := by
  refine ⟨?_, ?_, tagged, ?_⟩
  · exact inv.served.moves (daemon ▸ inv.served.order) (by rw [daemon]) position outstanding answers
  · rw [daemon, answers]
    exact inv.answered
  · intro done member success
    rcases completed done member with before | now
    · obtain ⟨request, known, same, answer, answered, rest⟩ := inv.completed done before success
      exact ⟨request, kept request known, same, answer, answers ▸ answered, rest⟩
    · exact now success

theorem AckInv.fetch (inv : AckInv state) (index : Nat) (status : NtStatus)
    (faults : FetchFaults) (noWrap : state.requestHandle.toNat + 1 < 2 ^ 64)
    (taken : fetchPending mapping state index status faults = some after) : AckInv after := by
  cases fetchPending_cases taken with
  | submitted request rest element payload queue =>
      have positive : state.requestHandle + 1 ≠ 0 := by
        rw [ne_eq, ← UInt64.toNat_inj, UInt64.toNat_add]
        change ¬ (state.requestHandle.toNat + 1) % 2 ^ 64 = 0
        rw [Nat.mod_eq_of_lt noWrap]
        exact Nat.succ_ne_zero _
      refine inv.queues _ rfl rfl rfl rfl (fun _ => List.mem_append_left _) ?_
        fun done member => Or.inl member
      intro found member
      rcases List.mem_append.mp member with before | now
      · exact inv.tagged found before
      · rw [List.mem_singleton.mp now]
        exact positive
  | refused request rest element pc queue makes verdict =>
      subst makes
      refine inv.queues _ rfl rfl rfl rfl (fun _ => id) inv.tagged fun done member => ?_
      rcases List.mem_append.mp member with before | now
      · exact Or.inl before
      · rw [List.mem_singleton.mp now]
        exact Or.inr fun success => absurd success (fetchElement_notSuccess _ _ _ _ _ _ verdict)

theorem AckInv.handled (inv : AckInv state) (whole : DemuxInv mapping state transit)
    (response : SubmittedResponse) (answered : Answered state response)
    (faults : ResponseFaults) : AckInv (handleResponse state response.command faults).2 := by
  unfold handleResponse
  cases search : state.findSubmitted response.command.requestHandle with
  | none => exact inv
  | some request =>
    have submitted := List.mem_of_find?_eq_some search
    have wanted := List.find?_some search
    have tag : request.tag = response.command.requestHandle := beq_iff_eq.mp wanted
    have known := whole.pipeline.submittedFetched request submitted
    have completes : AckInv ({ state with
        submittedReqList := state.submittedReqList.eraseP fun found =>
          found.tag == response.command.requestHandle }.complete request
        (applyResponse request.range false request.srb response.command faults).srb) := by
      refine inv.queues _ rfl rfl rfl rfl (fun _ => id) inv.tagged fun done member => ?_
      rcases List.mem_append.mp member with before | now
      · exact Or.inl before
      · rw [List.mem_singleton.mp now]
        refine Or.inr fun success => ⟨request, known, rfl, ?_⟩
        obtain ⟨answer, given, responds⟩ := answered.1
        have hasCdb : request.srb.cdb ≠ none := by
          obtain ⟨kind, typed, _⟩ := whole.pipeline.submittedKind request submitted
          obtain ⟨cdb, found, _⟩ := Option.map_eq_some_iff.mp typed
          rw [found]
          exact Option.some_ne_none cdb
        have fine := applyResponse_error _ _ _ _ hasCdb success
        refine ⟨answer, given, by rw [tag, responds.handle], ?_⟩
        by_contra failed
        exact responds.status.mpr failed fine
    dsimp only
    split
    · exact completes
    · exact completes.queues _ rfl rfl rfl rfl (fun _ => id) completes.tagged
        fun _ member => Or.inl member

theorem AckInv.serverReads (inv : AckInv state) (whole : DemuxInv mapping state transit)
    (framed : ∀ frame ∈ state.daemon.issued, WholeFrame frame)
    (taken : serverReads state = some after) : AckInv after := by
  have served := inv.served.serverReads whole framed taken
  obtain ⟨header, _, rfl⟩ := Option.map_eq_some_iff.mp taken
  exact ⟨served, inv.answered, inv.tagged, inv.completed⟩

theorem ServedInv.arrived (served : ServedInv state) (whole : DemuxInv mapping state transit)
    (inside : state.serverPosition ≤ state.daemon.accepted.length) (frame : List UInt8)
    (read : frame ∈ readFrames state) : Arrived state.daemon frame := by
  have issued : readFrames state <+: state.daemon.issued := List.take_prefix _ _
  obtain ⟨earlier, later, split⟩ := List.append_of_mem read
  have front : earlier ++ [frame] <+: readFrames state := ⟨later, by simp [split]⟩
  refine ⟨earlier, front.trans issued, ?_⟩
  have output := served.order transit.unsent ⟨whole.wire.sending, whole.wire.resting⟩
  have bytes : (earlier ++ [frame]).flatten <+: state.daemon.accepted ++ transit.unsent := by
    rw [output]
    exact (front.trans issued).flatten
  refine List.prefix_of_prefix_length_le bytes (List.prefix_append _ _) ?_
  rw [served.position] at inside
  exact front.flatten.length_le.trans inside

theorem AckInv.serverAnswers (inv : AckInv state) (whole : DemuxInv mapping state transit)
    (index : Nat) (error : UInt32) (payload : List UInt8)
    (arrived : state.serverPosition ≤ state.daemon.accepted.length)
    (taken : serverAnswers state index error payload = some after) : AckInv after := by
  have served := (inv.served.serverAnswers index error payload taken).1
  obtain ⟨header, found, answers⟩ := Option.bind_eq_some_iff.mp taken
  obtain ⟨_, same⟩ := Option.ite_none_right_eq_some.mp answers
  cases same
  refine ⟨served, ?_, inv.tagged, ?_⟩
  · intro answer member
    rcases List.mem_append.mp member with before | now
    · obtain ⟨frame, handle, there⟩ := inv.answered answer before
      exact ⟨frame, handle, there⟩
    · rw [List.mem_singleton.mp now]
      obtain ⟨frame, inRead, handle⟩ := inv.served.outstanding header (List.mem_of_getElem? found)
      exact ⟨frame, handle, inv.served.arrived whole arrived frame inRead⟩
  · intro done member success
    obtain ⟨request, known, same, answer, given, rest⟩ := inv.completed done member success
    exact ⟨request, known, same, answer, List.mem_append_left _ given, rest⟩

end

/-! ## Runs -/

/-- The invariants of a smooth run with a patient server. -/
structure SmoothInv (mapping : NbdMapping) (state : WireState) : Prop where
  demux : ∃ transit, DemuxInv mapping state.demux transit
  confined : ConfinedInv mapping anySize state.demux
  frames : FramesInv mapping state
  acks : AckInv state.demux

def SmoothWire (mapping : NbdMapping) (state : WireState) (action : DemuxAction) : Prop :=
  Smooth mapping state.demux action ∧ patient state.demux action = true

section

variable {mapping : NbdMapping} {state after : WireState}

theorem smooth_withBuffer (action : DemuxAction) :
    smooth mapping state.demux (state.withBuffer action) = smooth mapping state.demux action := by
  cases action <;> rfl

theorem SmoothInv.acksStep (inv : SmoothInv mapping state) (action : DemuxAction)
    (permitted : SmoothWire mapping state action) (demux : DemuxState)
    (moved : demuxNext mapping state.demux (state.withBuffer action) = some demux) :
    AckInv demux := by
  obtain ⟨transit, whole⟩ := inv.demux
  obtain ⟨quiet, waits⟩ := permitted
  have acks := inv.acks
  cases action with
  | diskCreated =>
      cases moved
      exact acks.daemonMoves _ ⟨acks.served.order.congr rfl rfl fun _ _ _ _ => Iff.rfl,
        List.prefix_refl _, List.prefix_refl _⟩
  | pend srbId srb =>
      obtain ⟨range, accepted, rfl⟩ := Option.map_eq_some_iff.mp moved
      exact acks.queues _ rfl rfl rfl rfl (fun _ => id) acks.tagged fun _ member => Or.inl member
  | fetch index faults =>
      cases demuxNext_cases moved with
      | fetch _ _ status _ _ _ fetches =>
          exact acks.fetch index status faults (of_decide_eq_true quiet) fetches
  | handle index buffer =>
      cases demuxNext_cases moved with
      | handle _ _ request payload call handled _ _ stepped =>
          have sent : AckInv handled := acks.daemonStep whole.calm _ _ rfl stepped
          exact sent.queues _ rfl rfl rfl rfl (fun _ => id) sent.tagged
            fun _ member => Or.inl member
  | daemon thread choice =>
      cases demuxNext_cases moved with
      | daemon _ _ _ _ stepped =>
          exact acks.daemonStep whole.calm thread choice (sendsWhole_of_smooth quiet) stepped
  | respond faults code =>
      cases demuxNext_cases moved with
      | respond _ _ response _ here stepped =>
          have inStep := whole.wire.input
          unfold InStep at inStep
          rw [here] at inStep
          have handled := acks.handled whole response inStep.1 faults
          have calm : Calm (handleResponse state.demux response.command faults).2.daemon := by
            rw [(handleResponse_keeps response.command faults).2.2.2]
            exact whole.calm
          refine handled.daemonStep calm .worker _ ?_ stepped
          split
          · rfl
          · rfl
  | respondPending =>
      exact acks.daemonStep whole.calm .worker _ rfl moved
  | completePending index faults =>
      obtain ⟨response, found, rest⟩ := Option.bind_eq_some_iff.mp moved
      obtain ⟨daemon, delivered, rfl⟩ := Option.map_eq_some_iff.mp rest
      obtain ⟨again, _, rfl⟩ := Option.map_eq_some_iff.mp delivered
      have answered := whole.wire.answered response (Or.inl (List.mem_of_getElem? found))
      have handled := acks.handled whole response answered faults
      exact handled.daemonMoves _ ⟨handled.served.order.congr rfl rfl fun _ _ _ _ => Iff.rfl,
        List.prefix_refl _, List.prefix_refl _⟩
  | serverReads => exact acks.serverReads whole inv.confined.whole moved
  | serverAnswers index error payload =>
      exact acks.serverAnswers whole index error payload (of_decide_eq_true waits) moved
  | fetchElsewhere | setDiskSize _ =>
      cases moved
      exact acks.queues _ rfl rfl rfl rfl (fun _ => id) acks.tagged fun _ member => Or.inl member
  | abortPending | abortSubmitted => cases quiet

theorem SmoothInv.step (inv : SmoothInv mapping state)
    (created : geometryAccepted mapping.props = true) (action : DemuxAction)
    (permitted : SmoothWire mapping state action)
    (taken : wireNext mapping state action = some after) : SmoothInv mapping after := by
  have moved := wireNext_demux taken
  obtain ⟨transit, whole⟩ := inv.demux
  have block := ((geometryAccepted_iff mapping.props).mp created).1
  refine ⟨demuxNext_inv whole _ ?_ after.demux moved,
    inv.confined.step block _ (fun blockCount _ => blockCount_anySize blockCount) moved,
    inv.frames.step block action taken, inv.acksStep action permitted after.demux moved⟩
  unfold Smooth
  rw [smooth_withBuffer]
  exact permitted.1

end

theorem frameHandle_elementFrame (props : WnbdProperties) (request : QueuedRequest)
    (handle : UInt64) (framed : frameHandle (elementFrame props request) = some handle) :
    request.tag = handle := by
  have plain : ∀ (offset : UInt64) (length type : UInt32),
      frameHandle (nbdRequest offset length request.tag type) = some handle →
        request.tag = handle := by
    intro offset length type framed
    rw [frameHandle, decodeHeader_request, Option.map_some] at framed
    exact Option.some.inj framed
  unfold elementFrame at framed
  cases kind : request.kind with
  | none => simp [kind, frameHandle, decodeHeader] at framed
  | some type =>
    rw [kind] at framed
    cases type with
    | read => exact plain _ _ _ framed
    | write =>
        dsimp only at framed
        rw [frameHandle, nbdSendWrite, decodeHeader_encode, Option.map_some] at framed
        exact Option.some.inj framed
    | flush => exact plain _ _ _ framed
    | unmap => exact plain _ _ _ framed
    | unknown | disconnect | persistResIn | persistResOut => cases framed

/-- The frame of an element has arrived as a whole, it is the one its SRB asks for if the
element can represent that, and the server answered it without an error. -/
structure Acknowledged (mapping : NbdMapping) (state : WireState) (request : QueuedRequest) :
    Prop where
  arrived : Arrived state.demux.daemon (elementFrame mapping.props request)
  asked : Representable request.srb →
    Asks mapping.props request (elementFrame mapping.props request)
  answered : ∃ answer ∈ state.demux.answers, answer.handle = request.tag ∧ answer.error = 0

/-- A queued SRB that is completed with success was handed out and acknowledged. -/
theorem success_acknowledged (mapping : NbdMapping)
    (created : geometryAccepted mapping.props = true) (state : WireState)
    (path : Path (wireNext mapping) (SmoothWire mapping) .initial state)
    (done : CompletedSrb) (member : done ∈ state.demux.completed)
    (success : done.srb.srbStatus = srbStatusSuccess) :
    ∃ request ∈ state.handedOut, request.srbId = done.srbId ∧
      Acknowledged mapping state request := by
  have inv : SmoothInv mapping state :=
    path.invariant (SmoothInv mapping)
      ⟨⟨_, demuxInv_initial mapping⟩,
        confinedInv_initial mapping anySize (blockCount_anySize _), framesInv_initial mapping,
        ackInv_initial⟩
      fun _ action _ permitted inv taken => inv.step created action permitted taken
  obtain ⟨transit, whole⟩ := inv.demux
  obtain ⟨known, fetched, same, answer, given, tag, fine⟩ := inv.acks.completed done member success
  obtain ⟨frame, handle, arrived⟩ := inv.acks.answered answer given
  have issued : frame ∈ state.demux.daemon.issued := by
    obtain ⟨earlier, ⟨later, order⟩, _⟩ := arrived
    rw [← order]
    simp
  have other : frame ≠ nbdDisconnectFrame := by
    rintro rfl
    have zero : frameHandle nbdDisconnectFrame = some 0 := by
      decide +kernel
    have tagZero := Option.some.inj (handle.symm.trans zero)
    exact inv.acks.tagged known fetched (tag.symm.trans tagZero)
  have framed : frame ∈ state.handedOut.map (elementFrame mapping.props) := by
    have backed := Multiset.coe_le.mp inv.frames.backed.spent_le
    exact backed.subset (List.mem_filter.mpr ⟨issued, decide_eq_true other⟩)
  obtain ⟨request, handed, rfl⟩ := List.mem_map.mp framed
  have requestTag := frameHandle_elementFrame _ _ _ handle
  -- The element whose frame was answered is the one that was completed: it has its tag.
  have requestKnown : request.submitted ∈ state.demux.fetched := by
    rw [inv.frames.fetched]
    exact List.mem_map_of_mem handed
  have submitted : request.submitted = known := List.inj_on_of_nodup_map
    whole.pipeline.fetchedOnce requestKnown fetched (requestTag.trans tag)
  have sameSrb : request.srbId = done.srbId := by
    rw [← same, ← submitted]
    rfl
  have block := ((geometryAccepted_iff mapping.props).mp created).1
  obtain ⟨admitted, served⟩ := inv.frames.handed request handed
  exact ⟨request, handed, sameSrb, arrived, elementFrame_asks block admitted served,
    answer, given, requestTag.symm, fine⟩

instance (mapping : NbdMapping) (state : WireState) (action : DemuxAction) :
    Decidable (SmoothWire mapping state action) := by
  unfold SmoothWire
  infer_instance

/-- A write of one block is sent, read, answered and completed. -/
def acknowledgedWriteRun : List DemuxAction :=
  [.diskCreated, .daemon .worker .proceed, .pend 3 (write10Srb 1 512), .fetch 0 ⟨0, 0⟩,
    .handle 0 fun _ => 0, .daemon (.dispatcher 0) .proceed, .daemon (.dispatcher 0) (.accepted 28),
    .serverReads, .daemon (.dispatcher 0) (.accepted 512), .daemon (.dispatcher 0) .proceed,
    .serverAnswers 0 0 [], .daemon .worker .proceed, .daemon .worker .proceed,
    .daemon .worker (.received 16), .daemon .worker .proceed, .respond ⟨0, 0⟩ 0]

theorem success_acknowledged_write : ∃ state done,
    run (wireNext nbdDisk) .initial acknowledgedWriteRun = some state ∧
      done ∈ state.demux.completed ∧ done.srbId = 3 ∧
      ∃ request ∈ state.handedOut, request.srbId = done.srbId ∧
        Acknowledged nbdDisk state request := by
  have ran : (run (wireNext nbdDisk) .initial acknowledgedWriteRun).map (fun state =>
      state.demux.completed.map fun done => (done.srbId, done.srb.srbStatus)) =
      some [(3, srbStatusSuccess)] := by
    decide +kernel
  obtain ⟨state, reached, completions⟩ := Option.map_eq_some_iff.mp ran
  obtain ⟨done, only, both⟩ := List.map_eq_singleton_iff.mp completions
  obtain ⟨own, success⟩ := Prod.mk.inj both
  have member : done ∈ state.demux.completed := by
    rw [only]
    exact List.mem_singleton_self done
  exact ⟨state, done, reached, member, own, success_acknowledged nbdDisk (by decide) state
    (path_of_run _ state acknowledgedWriteRun (by decide +kernel) reached) done member success⟩

end Wnbd.EndToEnd
