import Wnbd.EndToEnd.Connection
import Wnbd.Nbd.Issued

/-!
# Where a request is

Every accepted SRB waits in one of the driver's queues or is completed.  While no call
fails and no fetch loses its request, a submitted request is in the hands of a dispatcher,
on its way to the server, at the server, or answered.
-/

set_option autoImplicit false

namespace Wnbd.EndToEnd

open Wnbd.Scsi Wnbd.Dispatch Wnbd.Nbd DaemonState StepSystem

/-! ## SRBs -/

def queuedIds (requests : List QueuedRequest) : Multiset Nat := ↑(requests.map (·.srbId))

def completedIds (completed : List CompletedSrb) : Multiset Nat := ↑(completed.map (·.srbId))

/-- The SRBs the driver holds or has completed. -/
def knownSrbs (state : DemuxState) : Multiset Nat :=
  queuedIds state.pendingReqList + queuedIds state.submittedReqList +
    completedIds state.completed

/-- The SRB a step hands to the driver. -/
def pendedSrb : DemuxAction → Option Nat
  | .pend srbId _ => some srbId
  | _ => none

theorem queuedIds_append (requests : List QueuedRequest) (request : QueuedRequest) :
    queuedIds (requests ++ [request]) = queuedIds requests + {request.srbId} := by
  simp [queuedIds, ← Multiset.coe_add]

theorem queuedIds_perm {requests others : List QueuedRequest} (same : requests.Perm others) :
    queuedIds requests = queuedIds others :=
  Multiset.coe_eq_coe.mpr (same.map _)

theorem queuedIds_cons (request : QueuedRequest) (rest : List QueuedRequest) :
    queuedIds (request :: rest) = queuedIds rest + {request.srbId} := by
  rw [← queuedIds_append]
  exact queuedIds_perm (List.perm_append_singleton request rest).symm

theorem completedIds_append (completed : List CompletedSrb) (done : CompletedSrb) :
    completedIds (completed ++ [done]) = completedIds completed + {done.srbId} := by
  simp [completedIds, ← Multiset.coe_add]

theorem perm_eraseP (requests : List QueuedRequest) (wanted : QueuedRequest → Bool)
    (request : QueuedRequest) (found : requests.find? wanted = some request) :
    requests.Perm (request :: requests.eraseP wanted) := by
  induction requests with
  | nil => cases found
  | cons head rest hypothesis =>
      cases here : wanted head with
      | true =>
          rw [List.find?_cons_of_pos here] at found
          cases found
          rw [List.eraseP_cons_of_pos here]
      | false =>
          rw [List.find?_cons_of_neg (by simp [here])] at found
          rw [List.eraseP_cons_of_neg (by simp [here])]
          exact ((hypothesis found).cons head).trans (List.Perm.swap request head _)

section

variable {mapping : NbdMapping} {state after : DemuxState}

theorem fetchPending_knownSrbs (index : Nat) (status : NtStatus) (faults : FetchFaults)
    (taken : fetchPending mapping state index status faults = some after) :
    knownSrbs after = knownSrbs state := by
  cases fetchPending_cases taken with
  | submitted request rest element payload queue =>
      change queuedIds rest + queuedIds (state.submittedReqList ++ [_]) +
        completedIds state.completed = _
      rw [knownSrbs, queue, queuedIds_cons, queuedIds_append]
      abel
  | refused request rest element pc queue =>
      change queuedIds rest + queuedIds state.submittedReqList +
        completedIds (state.completed ++ [_]) = _
      rw [knownSrbs, queue, queuedIds_cons, completedIds_append]
      abel

theorem handleResponse_knownSrbs (command : SendRspCommand) (faults : ResponseFaults) :
    knownSrbs (handleResponse state command faults).2 = knownSrbs state := by
  unfold handleResponse
  cases found : state.findSubmitted command.requestHandle with
  | none => rfl
  | some request =>
    have erased := queuedIds_perm (perm_eraseP _ _ request found)
    rw [queuedIds_cons] at erased
    have answered : queuedIds state.pendingReqList +
        queuedIds (state.submittedReqList.eraseP fun other =>
          other.tag == command.requestHandle) +
        completedIds (state.completed ++ [⟨request.srbId,
          (applyResponse request.range false request.srb command faults).srb⟩]) =
        knownSrbs state := by
      rw [knownSrbs, erased, completedIds_append]
      abel
    dsimp only
    split
    · exact answered
    · exact answered

theorem daemonStep_knownSrbs (thread : ThreadId) (choice : Choice)
    (stepped : daemonStep mapping state thread choice = some after) :
    knownSrbs after = knownSrbs state := by
  obtain ⟨_, _, rfl⟩ := Option.map_eq_some_iff.mp stepped
  rfl

/-- Only a new SRB is added, and none is lost or completed twice. -/
theorem demuxNext_knownSrbs (action : DemuxAction)
    (taken : demuxNext mapping state action = some after) :
    knownSrbs after = knownSrbs state + ↑(pendedSrb action).toList := by
  have none_ : knownSrbs state + ↑(none : Option Nat).toList = knownSrbs state := add_zero _
  cases demuxNext_cases taken with
  | pend srbId srb range =>
      change queuedIds (state.pendingReqList ++ [_]) + queuedIds state.submittedReqList +
        completedIds state.completed = knownSrbs state + {srbId}
      rw [queuedIds_append, knownSrbs]
      abel
  | fetch index faults status _ _ _ fetches =>
      rw [fetchPending_knownSrbs index status faults fetches]
      exact none_.symm
  | handle index buffer request payload call handled _ _ stepped =>
      have kept := daemonStep_knownSrbs _ _ stepped
      exact kept.trans none_.symm
  | daemon thread choice _ _ stepped =>
      exact (daemonStep_knownSrbs thread choice stepped).trans none_.symm
  | respond faults code response _ _ stepped =>
      rw [daemonStep_knownSrbs _ _ stepped]
      exact (handleResponse_knownSrbs response.command faults).trans none_.symm
  | respondPending _ stepped => exact (daemonStep_knownSrbs _ _ stepped).trans none_.symm
  | completePending index faults response =>
      exact (handleResponse_knownSrbs response.command faults).trans none_.symm
  | abortPending request rest queue =>
      change queuedIds rest + queuedIds state.submittedReqList +
        completedIds (state.completed ++ [⟨request.srbId, _⟩]) = knownSrbs state + 0
      rw [completedIds_append, knownSrbs, queue, queuedIds_cons]
      abel
  | abortSubmitted request rest queue =>
      change queuedIds state.pendingReqList + queuedIds rest +
        completedIds (state.completed ++ [⟨request.srbId, _⟩]) = knownSrbs state + 0
      rw [completedIds_append, knownSrbs, queue, queuedIds_cons]
      abel
  | diskCreated | serverReads | serverAnswers | fetchElsewhere | setDiskSize => exact none_.symm

/-- What the driver was given in a run, it holds or has completed, each SRB as often as it
was given. -/
theorem knownSrbs_of_run (actions : List DemuxAction) (start last : DemuxState)
    (ran : run (demuxNext mapping) start actions = some last) :
    knownSrbs last = knownSrbs start + ↑(actions.filterMap pendedSrb) := by
  induction actions generalizing start with
  | nil =>
      cases ran
      exact (add_zero _).symm
  | cons action rest hypothesis =>
      obtain ⟨after, taken, ranRest⟩ := Option.bind_eq_some_iff.mp ran
      rw [hypothesis after ranRest, demuxNext_knownSrbs action taken, add_assoc,
        Multiset.coe_add]
      cases given : pendedSrb action <;> simp [given]

end

/-! ## Submitted requests -/

/-- Where the request with this tag is, once it was fetched. -/
inductive UnderWay (state : DemuxState) (tag : UInt64) : Prop
  | handling (index : Nat) (request : WnbdIoRequest) (payload : FetchPayload)
      (here : state.dispatchers index = .handling request payload)
      (same : request.requestHandle = tag)
  | waiting (index : Nat) (frame : List UInt8)
      (here : state.daemon.threads (.dispatcher index) = .lockSend frame .request)
      (same : frameHandle frame = some tag)
  | unread (frame : List UInt8) (member : frame ∈ unreadFrames state)
      (same : frameHandle frame = some tag)
  | outstanding (header : NbdHeader) (member : header ∈ state.outstanding)
      (same : header.handle = tag)
  | answered (answer : ServerAnswer) (member : answer ∈ state.answers)
      (same : answer.handle = tag)

/-- No failure is behind the dispatcher, or it has left its loop. -/
def steadyPc : DispatcherPc → Bool
  | .fetching status => decide (status = statusSuccess)
  | .handling _ _ | .removing => true
  | .sending _ => false

/-- No dispatcher goes on with the status of an earlier failure, and no request is lost. -/
structure CoverInv (state : DemuxState) : Prop where
  steady : ∀ index, steadyPc (state.dispatchers index) = true
  covered : ∀ request ∈ state.submittedReqList, UnderWay state request.tag

theorem coverInv_initial : CoverInv .initial where
  steady _ := rfl
  covered _ member := by cases member

/-- The buffers that requests are copied from can be locked. -/
def locksBuffers : DemuxAction → Bool
  | .fetch _ faults => decide (faults.lockStatus = 0)
  | _ => true

section

variable {mapping : NbdMapping} {state after : DemuxState} {transit : Transit} {tag : UInt64}

theorem unreadFrames_mono (counted : headersRead state ≤ state.daemon.issued.length)
    (read : headersRead after = headersRead state)
    (issued : state.daemon.issued <+: after.daemon.issued) :
    ∃ more, unreadFrames after = unreadFrames state ++ more ∧
      after.daemon.issued = state.daemon.issued ++ more := by
  obtain ⟨more, added⟩ := issued
  refine ⟨more, ?_, added.symm⟩
  rw [unreadFrames, read, ← added, List.drop_append_of_le_length counted, unreadFrames]

/-- The thread that waits with a frame goes on only by issuing it. -/
theorem waits_or_issues {blockSize : UInt32} {daemon later : DaemonState} {thread : ThreadId}
    {choice : Choice} (stepped : threadStep blockSize daemon thread choice = some later)
    (index : Nat) (frame : List UInt8)
    (here : daemon.threads (.dispatcher index) = .lockSend frame .request) :
    later.threads (.dispatcher index) = .lockSend frame .request ∨
      later.issued = daemon.issued ++ [frame] := by
  by_cases own : thread = .dispatcher index
  · subst own
    rcases threadStep_cases blockSize daemon later _ choice stepped with
      ⟨_, sends⟩ | ⟨scope, _⟩ | ⟨unsent, _⟩
    · have step := sendStep_of sends
      rw [here] at step
      cases step with
      | acquire frame purpose free => exact Or.inr rfl
    · rw [here] at scope
      cases scope
    · rw [here] at unsent
      cases unsent
  · left
    rw [(threadStep_frames stepped).1 _ fun same => own same.symm]
    exact here

theorem UnderWay.daemonStep (underWay : UnderWay state tag) (served : ServedInv state)
    (calm : Calm state.daemon) (thread : ThreadId) (choice : Choice)
    (works : sendsWhole choice = true)
    (stepped : daemonStep mapping state thread choice = some after) : UnderWay after tag := by
  obtain ⟨daemon, taken, rfl⟩ := Option.map_eq_some_iff.mp stepped
  obtain ⟨_, issued, _⟩ := InOrder.threadStep calm served.order works taken
  obtain ⟨more, unread, added⟩ :=
    @unreadFrames_mono state { state with daemon } served.counted rfl issued
  cases underWay with
  | handling index request payload here same => exact .handling index request payload here same
  | waiting index frame here same =>
      rcases waits_or_issues taken index frame here with waits | issues
      · exact .waiting index frame waits same
      · refine .unread frame ?_ same
        rw [unread, List.append_cancel_left (added.symm.trans issues)]
        exact List.mem_append_right _ (List.mem_singleton_self frame)
  | unread frame member same =>
      refine .unread frame ?_ same
      rw [unread]
      exact List.mem_append_left _ member
  | outstanding header member same => exact .outstanding header member same
  | answered answer member same => exact .answered answer member same

theorem UnderWay.congr (underWay : UnderWay state tag)
    (dispatchers : after.dispatchers = state.dispatchers)
    (threads : after.daemon.threads = state.daemon.threads)
    (unread : unreadFrames after = unreadFrames state)
    (outstanding : after.outstanding = state.outstanding)
    (answers : after.answers = state.answers) : UnderWay after tag := by
  cases underWay with
  | handling index request payload here same =>
      exact .handling index request payload (dispatchers ▸ here) same
  | waiting index frame here same => exact .waiting index frame (threads ▸ here) same
  | unread frame member same => exact .unread frame (unread ▸ member) same
  | outstanding header member same => exact .outstanding header (outstanding ▸ member) same
  | answered answer member same => exact .answered answer (answers ▸ member) same

theorem UnderWay.setDispatcher (underWay : UnderWay state tag) (index : Nat) (pc : DispatcherPc)
    (daemon : after.daemon = state.daemon)
    (dispatchers : after.dispatchers = Function.update state.dispatchers index pc)
    (outstanding : after.outstanding = state.outstanding) (answers : after.answers = state.answers)
    (empty : ∀ request payload, state.dispatchers index ≠ .handling request payload) :
    UnderWay after tag := by
  cases underWay with
  | handling found request payload here same =>
      have other : found ≠ index := by
        rintro rfl
        exact empty request payload here
      refine .handling found request payload ?_ same
      rw [dispatchers, Function.update_of_ne other]
      exact here
  | waiting found frame here same => exact .waiting found frame (daemon ▸ here) same
  | unread frame member same =>
      refine .unread frame ?_ same
      rw [unreadFrames, headersRead, daemon, outstanding, answers]
      exact member
  | outstanding header member same => exact .outstanding header (outstanding ▸ member) same
  | answered answer member same => exact .answered answer (answers ▸ member) same

theorem fetchPending_moves (index : Nat) (status : NtStatus) (faults : FetchFaults)
    (taken : fetchPending mapping state index status faults = some after) :
    ∃ request rest pc submittedReqList requestHandle completed fetched,
      state.pendingReqList = request :: rest ∧
      after = { state with
        pendingReqList := rest
        submittedReqList
        requestHandle
        completed
        fetched
        dispatchers := Function.update state.dispatchers index pc } := by
  cases fetchPending_cases taken with
  | submitted request rest _ _ queue | refused request rest _ _ queue =>
      exact ⟨request, rest, _, _, _, _, _, queue, rfl⟩

theorem fetchVerdict_locks (props : WnbdProperties) (bufferSize : UInt32) (range : ElementRange)
    (faults : FetchFaults) (requestType : WnbdRequestType) (locks : faults.lockStatus = 0)
    (status : NtStatus) :
    fetchVerdict props bufferSize range faults requestType ≠ .lockFailed status := by
  unfold fetchVerdict
  simp only [locks, ne_eq, not_true_eq_false, if_false]
  cases requestType with
  | write | persistResOut | unmap => split_ifs <;> simp
  | _ => simp

theorem fetchElement_locks (props : WnbdProperties) (bufferSize : UInt32) (number : UInt64)
    (range : ElementRange) (srb : Srb) (faults : FetchFaults) (locks : faults.lockStatus = 0)
    (status : NtStatus) :
    (fetchElement props bufferSize number range srb faults).verdict ≠ .lockFailed status := by
  unfold fetchElement
  dsimp only
  cases (srb.setDataTransferLength 0).cdb with
  | none => simp
  | some cdb =>
    dsimp only
    by_cases valid : validateScsiRequest props (some cdb) = true
    · rw [if_pos valid]
      exact fetchVerdict_locks props bufferSize range faults _ locks status
    · rw [if_neg valid]
      simp

theorem CoverInv.steady_update (inv : CoverInv state) (index : Nat) (pc : DispatcherPc)
    (steady : steadyPc pc = true) (found : Nat) :
    steadyPc (Function.update state.dispatchers index pc found) = true := by
  by_cases own : found = index
  · rw [own, Function.update_self]
    exact steady
  · rw [Function.update_of_ne own]
    exact inv.steady found

theorem CoverInv.fetch (inv : CoverInv state) (index : Nat) (faults : FetchFaults)
    (locks : faults.lockStatus = 0)
    (here : state.dispatchers index = .fetching statusSuccess)
    (taken : fetchPending mapping state index statusSuccess faults = some after) :
    CoverInv after := by
  have empty : ∀ request payload, state.dispatchers index ≠ .handling request payload := by
    intro request payload same
    rw [here] at same
    cases same
  have steady := fun pc good => inv.steady_update index pc good
  cases fetchPending_cases taken with
  | submitted request rest element payload queue makes submitted =>
      subst makes
      obtain ⟨registered, _⟩ := fetched_submit _ _ _ _ _ _ _ submitted
      rw [submit_status, if_pos (by decide)]
      refine ⟨steady _ rfl, ?_⟩
      intro found member
      rcases List.mem_append.mp member with before | now
      · exact (inv.covered found before).setDispatcher index _ rfl rfl rfl rfl empty
      · rw [List.mem_singleton.mp now]
        exact .handling index _ payload (Function.update_self _ _ _) registered
  | refused request rest element pc queue makes rejected goesOn =>
      have unlocked := fetchElement_locks mapping.props dispatcherBufferSize
        (state.requestHandle + 1) request.range request.srb faults locks
      rw [makes] at unlocked
      refine ⟨steady pc ?_, ?_⟩
      · rcases goesOn with ⟨_, rfl⟩ | ⟨large, rfl⟩
        · rfl
        · cases verdict : element.verdict with
          | submit payload => exact absurd verdict (rejected payload)
          | lockFailed failure => exact absurd verdict (unlocked failure)
          | bufferTooSmall => exact absurd verdict large
          | invalid | noSrbBuffer => rfl
      · intro found member
        exact (inv.covered found member).setDispatcher index pc rfl rfl rfl rfl empty

theorem CoverInv.handle (inv : CoverInv state) (whole : DemuxInv mapping state transit)
    (index : Nat) (buffer : Nat → UInt8)
    (taken : handleRequest mapping state index buffer = some after) : CoverInv after := by
  cases handleRequest_cases taken with
  | handle _ _ request payload call handled here called stepped =>
    obtain ⟨daemon, begun, rfl⟩ := Option.map_eq_some_iff.mp stepped
    obtain ⟨idle, rfl⟩ := begin_request begun
    obtain ⟨same, calls, handle, framed, _⟩ :=
      whole.pipeline.handling index request payload here buffer
    obtain rfl : call = same := Option.some.inj (called.symm.trans calls)
    refine ⟨inv.steady_update index (.fetching statusSuccess) rfl, fun found member => ?_⟩
    · cases inv.covered found member with
      | handling other held heldPayload there tagged =>
          by_cases own : other = index
          · rw [own, here] at there
            cases there
            refine .waiting index _ (setPhase_self _ _ _) ?_
            rw [framed.handle, handle, tagged]
          · exact .handling other held heldPayload
              ((Function.update_of_ne own _ _).trans there) tagged
      | waiting other frame there tagged =>
          have own : other ≠ index := by
            rintro rfl
            rw [idle] at there
            cases there
          refine .waiting other frame ?_ tagged
          exact (setPhase_of_ne _ _ _ fun both => own (ThreadId.dispatcher.inj both)).trans there
      | unread frame found tagged => exact .unread frame found tagged
      | outstanding header found tagged => exact .outstanding header found tagged
      | answered answer found tagged => exact .answered answer found tagged

theorem CoverInv.daemonStep (inv : CoverInv state) (served : ServedInv state)
    (calm : Calm state.daemon) (thread : ThreadId) (choice : Choice)
    (works : sendsWhole choice = true)
    (stepped : daemonStep mapping state thread choice = some after) : CoverInv after := by
  have moved := fun found member =>
    (inv.covered found member).daemonStep served calm thread choice works stepped
  obtain ⟨daemon, _, rfl⟩ := Option.map_eq_some_iff.mp stepped
  exact ⟨inv.steady, moved⟩

theorem CoverInv.shrinks (inv : CoverInv state) (submitted : List QueuedRequest)
    (fewer : ∀ request ∈ submitted, request ∈ state.submittedReqList)
    (completed : List CompletedSrb) (srbBuffers : Nat → Nat → UInt8) :
    CoverInv { state with submittedReqList := submitted, completed, srbBuffers } :=
  ⟨inv.steady, fun request member =>
    (inv.covered request (fewer request member)).congr rfl rfl rfl rfl rfl⟩

/-- A response only takes a request off the list and completes it. -/
theorem handleResponse_eq_with (command : SendRspCommand) (faults : ResponseFaults) :
    ∃ submittedReqList completed srbBuffers, (handleResponse state command faults).2 =
        { state with submittedReqList, completed, srbBuffers } ∧
      ∀ request ∈ submittedReqList, request ∈ state.submittedReqList := by
  unfold handleResponse
  cases state.findSubmitted command.requestHandle with
  | none => exact ⟨_, _, _, rfl, fun _ => id⟩
  | some request =>
    dsimp only
    split
    · exact ⟨_, _, _, rfl, fun _ => List.mem_of_mem_eraseP⟩
    · exact ⟨_, _, _, rfl, fun _ => List.mem_of_mem_eraseP⟩

theorem CoverInv.handled (inv : CoverInv state) (command : SendRspCommand)
    (faults : ResponseFaults) : CoverInv (handleResponse state command faults).2 := by
  obtain ⟨submitted, completed, srbBuffers, same, fewer⟩ :=
    @handleResponse_eq_with state command faults
  rw [same]
  exact inv.shrinks submitted fewer completed srbBuffers

theorem CoverInv.serverReads (inv : CoverInv state) (served : ServedInv state)
    (whole : DemuxInv mapping state transit)
    (framed : ∀ frame ∈ state.daemon.issued, WholeFrame frame)
    (taken : serverReads state = some after) : CoverInv after := by
  obtain ⟨header, decoded, rfl⟩ := Option.map_eq_some_iff.mp taken
  obtain ⟨frame, more, unread, found, _⟩ := served.next_frame whole framed header decoded
  obtain ⟨_, rest⟩ := @readFrames_succ state { state with
      serverPosition := state.serverPosition + nbdRequestSize + header.payloadLength
      outstanding := state.outstanding ++ [header] } frame more unread (by
    simp only [headersRead, List.length_append, List.length_singleton]
    omega) rfl
  refine ⟨inv.steady, fun request member => ?_⟩
  cases inv.covered request member with
  | handling index held payload here same => exact .handling index held payload here same
  | waiting index other here same => exact .waiting index other here same
  | unread other member same =>
      rw [unread] at member
      rcases List.mem_cons.mp member with rfl | later
      · refine .outstanding header (List.mem_append_right _ (List.mem_singleton_self header)) ?_
        rw [frameHandle, found, Option.map_some] at same
        exact Option.some.inj same
      · refine .unread other ?_ same
        rw [rest]
        exact later
  | outstanding other member same =>
      exact .outstanding other (List.mem_append_left _ member) same
  | answered answer member same => exact .answered answer member same

theorem CoverInv.serverAnswers (inv : CoverInv state) (index : Nat) (error : UInt32)
    (payload : List UInt8)
    (taken : EndToEnd.serverAnswers state index error payload = some after) :
    CoverInv after := by
  obtain ⟨header, found, answers⟩ := Option.bind_eq_some_iff.mp taken
  obtain ⟨_, same⟩ := Option.ite_none_right_eq_some.mp answers
  cases same
  obtain ⟨inside, rfl⟩ := List.getElem?_eq_some_iff.mp found
  refine ⟨inv.steady, fun request member => ?_⟩
  cases inv.covered request member with
  | handling held request payload here same => exact .handling held request payload here same
  | waiting held frame here same => exact .waiting held frame here same
  | unread frame member same =>
      refine .unread frame ?_ same
      rw [unreadFrames, headersRead, List.length_append, List.length_singleton,
        List.length_eraseIdx_of_lt inside]
      have counts : state.outstanding.length - 1 + (state.answers.length + 1) =
          state.outstanding.length + state.answers.length := by
        omega
      rw [counts]
      exact member
  | outstanding other member same =>
      rcases List.mem_cons.mp ((List.getElem_cons_eraseIdx_perm inside).mem_iff.mpr member) with
        rfl | rest
      · exact .answered _ (List.mem_append_right _ (List.mem_singleton_self _)) same
      · exact .outstanding other rest same
  | answered answer member same => exact .answered answer (List.mem_append_left _ member) same

theorem CoverInv.kept (inv : CoverInv state) (daemon : DaemonState)
    (threads : daemon.threads = state.daemon.threads)
    (issued : daemon.issued = state.daemon.issued) : CoverInv { state with daemon } := by
  have unread : unreadFrames { state with daemon } = unreadFrames state := by
    change daemon.issued.drop (headersRead state) = _
    rw [issued]
    rfl
  exact ⟨inv.steady, fun request member =>
    (inv.covered request member).congr rfl threads unread rfl rfl⟩

theorem responded_whole (status : NtStatus) (code : UInt32) :
    sendsWhole (.submitted (if ntSuccess status then .completed else .failed code)) = true := by
  split
  · rfl
  · rfl

/-- The connection and the submitted requests after a smooth step. -/
theorem ServedInv.step (served : ServedInv state) (cover : CoverInv state)
    (whole : DemuxInv mapping state transit)
    (framed : ∀ frame ∈ state.daemon.issued, WholeFrame frame) (action : DemuxAction)
    (smooth : Smooth mapping state action) (locks : locksBuffers action = true)
    (taken : demuxNext mapping state action = some after) : ServedInv after ∧ CoverInv after := by
  have stays : ∀ later : DemuxState, later.daemon = state.daemon →
      later.serverPosition = state.serverPosition → later.outstanding = state.outstanding →
      later.answers = state.answers → ServedInv later := by
    intro later daemon position outstanding answers
    refine served.moves (by rw [daemon]; exact served.order) ?_ position outstanding answers
    rw [daemon]
  cases demuxNext_cases taken with
  | diskCreated =>
      exact ⟨served.moves (served.order.congr rfl rfl fun _ _ _ _ => Iff.rfl)
        (List.prefix_refl _) rfl rfl rfl, cover.kept _ rfl rfl⟩
  | pend | fetchElsewhere | setDiskSize =>
      exact ⟨stays _ rfl rfl rfl rfl, cover.steady, fun request member =>
        (cover.covered request member).congr rfl rfl rfl rfl rfl⟩
  | fetch index faults status _ here _ fetches =>
      have same := cover.steady index
      rw [here] at same
      obtain rfl : status = statusSuccess := of_decide_eq_true same
      refine ⟨?_, cover.fetch index faults (of_decide_eq_true locks) here fetches⟩
      obtain ⟨_, _, _, _, _, _, _, _, rfl⟩ := fetchPending_moves index _ faults fetches
      exact stays _ rfl rfl rfl rfl
  | handle index buffer request payload call handled _ _ stepped =>
      refine ⟨?_, cover.handle whole index buffer taken⟩
      have sent := served.daemonStep whole.calm _ _ rfl stepped
      exact sent.moves sent.order (List.prefix_refl _) rfl rfl rfl
  | daemon thread choice _ _ stepped =>
      have works := sendsWhole_of_smooth smooth
      exact ⟨served.daemonStep whole.calm thread choice works stepped,
        cover.daemonStep served whole.calm thread choice works stepped⟩
  | respond faults code response _ _ stepped =>
      have handled := cover.handled response.command faults
      obtain ⟨submitted, completed, srbBuffers, same, _⟩ :=
        @handleResponse_eq_with state response.command faults
      rw [same] at stepped handled
      have before := stays { state with submittedReqList := submitted, completed, srbBuffers }
        rfl rfl rfl rfl
      exact ⟨before.daemonStep whole.calm .worker _ (responded_whole _ _) stepped,
        handled.daemonStep before whole.calm .worker _ (responded_whole _ _) stepped⟩
  | respondPending _ stepped =>
      exact ⟨served.daemonStep whole.calm .worker _ rfl stepped,
        cover.daemonStep served whole.calm .worker _ rfl stepped⟩
  | completePending index faults response _ _ delivered =>
      have handled := cover.handled response.command faults
      obtain ⟨submitted, completed, srbBuffers, same, _⟩ :=
        @handleResponse_eq_with state response.command faults
      rw [same] at delivered handled ⊢
      obtain ⟨again, _, rfl⟩ := Option.map_eq_some_iff.mp delivered
      exact ⟨served.moves (served.order.congr rfl rfl fun _ _ _ _ => Iff.rfl)
        (List.prefix_refl _) rfl rfl rfl, handled.kept _ rfl rfl⟩
  | serverReads =>
      exact ⟨served.serverReads whole framed taken,
        cover.serverReads served whole framed taken⟩
  | serverAnswers index error payload =>
      exact ⟨(served.serverAnswers index error payload taken).1,
        cover.serverAnswers index error payload taken⟩
  | abortPending | abortSubmitted => cases smooth

end

end Wnbd.EndToEnd
