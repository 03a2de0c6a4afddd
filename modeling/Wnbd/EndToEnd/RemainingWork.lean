import Wnbd.EndToEnd.Accounting
import Wnbd.EndToEnd.Confinement
import Wnbd.Foundation.Draining

/-!
# The work that is left

While no call fails, every step that neither creates the disk nor queues an SRB does a part
of the work that is left: bytes to send, headers to read, replies to make and receive,
responses to submit.
-/

set_option autoImplicit false

namespace Wnbd.EndToEnd

open Wnbd.Scsi Wnbd.Dispatch Wnbd.Nbd DaemonState StepSystem BigEndian

/-! ## Steps of an undisturbed daemon -/

/-- Smooth choices of steps that need no driver. -/
theorem quiet_of_own {choice : Choice} (works : smoothChoice choice = true)
    (plain : ownStep choice = true) : quietChoice choice = true := by
  cases choice <;> first
    | rfl
    | exact absurd works Bool.false_ne_true
    | exact absurd plain Bool.false_ne_true

/-! ## The work that is left -/

/-- Phases in which the worker is about to wait for a response in flight. -/
def awaitsResponse : Phase → Bool
  | .awaitResponse => true
  | .checkStatus status => decide (status = errorIoPending)
  | _ => false

/-- A byte to receive counts two, and one more until the header it is part of is read. -/
def workerWork : Phase → Nat
  | .createEvent | .awaitResponse => 3
  | .testTerminated => 2
  | .resetEvent => 1
  | .readHeader bytes => bytes.length
  | .readPayload _ _ _ => 7
  | .respond _ => 6
  | .checkStatus _ => 4
  | _ => 0

/-- The server's reply to a header is yet to be made and received. -/
def headerWork (header : NbdHeader) : Nat := 2 * (nbdReplySize + header.length.toNat) + 1

/-- More than what follows from a frame once it is issued. -/
def frameWork : Nat := 2 ^ 34

/-- More than what follows from a request that a dispatcher holds. -/
def handlingWork : Nat := 2 ^ 35

/-- More than what follows from a request on the pending list. -/
def pendingWork : Nat := 2 ^ 36

def senderWork : Phase → Nat
  | .lockSend frame _ => frameWork + frame.length + 3
  | .send frame sent _ => frame.length - sent + 2
  | .unlockSend _ _ => 1
  | _ => 0

def dispatcherWork : DispatcherPc → Nat
  | .handling _ _ => handlingWork
  | _ => 0

/-- What `pool` dispatchers and the worker have left to do. -/
def daemonWork (pool : Nat) (daemon : DaemonState) : Nat :=
  (∑ index ∈ Finset.range pool, senderWork (daemon.threads (.dispatcher index))) +
    2 * daemon.incoming.length + daemon.inFlight.length + workerWork (daemon.threads .worker)

def work (pool : Nat) (state : DemuxState) : Nat :=
  state.pendingReqList.length * pendingWork +
    (∑ index ∈ Finset.range pool, dispatcherWork (state.dispatchers index)) +
    (unreadFrames state).length * frameWork + (state.outstanding.map headerWork).sum +
    daemonWork pool state.daemon

theorem headerWork_lt (header : NbdHeader) : headerWork header < frameWork := by
  have size := header.length.toNat_lt
  rw [headerWork, frameWork, nbdReplySize]
  omega

theorem payloadLength_lt (header : NbdHeader) : header.payloadLength < 2 ^ 32 := by
  have size := header.length.toNat_lt
  unfold NbdHeader.payloadLength
  split_ifs
  · exact size
  · simp

section

variable {pool : Nat} {daemon after base : DaemonState} {thread : ThreadId}

theorem senders_setPhase (index : Nat) (inside : index < pool) (phase : Phase)
    (threads : base.threads = daemon.threads) :
    (∑ found ∈ Finset.range pool, senderWork ((base.setPhase (.dispatcher index) phase).threads
        (.dispatcher found))) + senderWork (daemon.threads (.dispatcher index)) =
      (∑ found ∈ Finset.range pool, senderWork (daemon.threads (.dispatcher found))) +
        senderWork phase := by
  have replaced := sum_range_replace
    (fun found => senderWork (daemon.threads (.dispatcher found)))
    (fun found => senderWork ((base.setPhase (.dispatcher index) phase).threads
      (.dispatcher found))) pool index inside (by
    intro other different
    rw [setPhase_of_ne _ _ _ fun same => different (ThreadId.dispatcher.inj same), threads])
  rw [setPhase_self] at replaced
  exact replaced

theorem senders_worker (phase : Phase) (threads : base.threads = daemon.threads) :
    (∑ found ∈ Finset.range pool, senderWork ((base.setPhase .worker phase).threads
        (.dispatcher found))) =
      ∑ found ∈ Finset.range pool, senderWork (daemon.threads (.dispatcher found)) := by
  apply Finset.sum_congr rfl
  intro found _
  rw [setPhase_of_ne _ _ _ ThreadId.noConfusion, threads]

theorem daemonWork_dispatcher (index : Nat) (inside : index < pool) (phase : Phase)
    (threads : base.threads = daemon.threads) (incoming : base.incoming = daemon.incoming)
    (flying : base.inFlight = daemon.inFlight) :
    daemonWork pool (base.setPhase (.dispatcher index) phase) +
        senderWork (daemon.threads (.dispatcher index)) =
      daemonWork pool daemon + senderWork phase := by
  have senders := @senders_setPhase pool daemon base index inside phase threads
  unfold daemonWork
  rw [worker_setPhase, threads]
  change _ + 2 * base.incoming.length + base.inFlight.length + _ + _ = _
  rw [incoming, flying]
  omega

theorem daemonWork_worker (phase : Phase) (threads : base.threads = daemon.threads) :
    daemonWork pool (base.setPhase .worker phase) + workerWork (daemon.threads .worker) +
        2 * daemon.incoming.length + daemon.inFlight.length =
      daemonWork pool daemon + workerWork phase + 2 * base.incoming.length +
        base.inFlight.length := by
  have senders := @senders_worker pool daemon base phase threads
  unfold daemonWork
  rw [senders, setPhase_self]
  change _ + 2 * base.incoming.length + base.inFlight.length + _ + _ + _ + _ = _
  omega

theorem received_spends {missing count : Nat} {piece : List UInt8}
    (arrived : received daemon missing count = some (piece, base)) :
    0 < count ∧ piece.length = count ∧ base.threads = daemon.threads ∧
      base.inFlight = daemon.inFlight ∧ base.issued = daemon.issued ∧
      base.incoming.length + count = daemon.incoming.length := by
  obtain ⟨both, same⟩ := Option.ite_none_right_eq_some.mp arrived
  cases same
  refine ⟨both.2.1, ?_, rfl, rfl, rfl, ?_⟩
  · rw [List.length_take]
    omega
  · rw [List.length_drop]
    omega

/-- The worker leaves a header behind for the payload or for the response. -/
theorem demultiplex_eq (header : List UInt8) :
    ∃ pendingRequests phase, demultiplex daemon .worker header =
        { daemon with pendingRequests }.setPhase .worker phase ∧ workerWork phase ≤ 7 ∧
        awaitsResponse phase = false ∧ phase ≠ .idle := by
  unfold demultiplex
  split
  · exact ⟨_, _, rfl, by simp [workerWork], rfl, by simp⟩
  · dsimp only
    split
    · refine ⟨_, _, rfl, ?_, ?_, ?_⟩
      · split_ifs <;> simp [workerWork]
      · split_ifs <;> rfl
      · split_ifs <;> simp
    · exact ⟨_, _, rfl, by simp [workerWork], rfl, by simp⟩

theorem turn_spends (phase : Phase) (threads : base.threads = daemon.threads)
    (incoming : base.incoming = daemon.incoming) (flying : base.inFlight = daemon.inFlight)
    (issued : base.issued = daemon.issued)
    (less : workerWork phase < workerWork (daemon.threads .worker)) :
    daemonWork pool (base.setPhase .worker phase) +
        (base.setPhase .worker phase).issued.length * frameWork <
      daemonWork pool daemon + daemon.issued.length * frameWork := by
  have spent := @daemonWork_worker pool daemon base phase threads
  rw [incoming, flying] at spent
  change _ + base.issued.length * frameWork < _
  rw [issued]
  omega

/-- A step of the daemon does some of its work; what it issues is paid for. -/
theorem QuietStep.spends (step : QuietStep daemon thread after)
    (inside : ∀ index, thread = .dispatcher index → index < pool) :
    daemonWork pool after + after.issued.length * frameWork <
      daemonWork pool daemon + daemon.issued.length * frameWork := by
  cases step with
  | acquire index frame here free =>
      have spent := @daemonWork_dispatcher pool daemon { daemon with
        sendLock := some (.dispatcher index), issued := daemon.issued ++ [frame] } index
        (inside index rfl) (.send frame 0 .request) rfl rfl rfl
      rw [here] at spent
      simp only [senderWork] at spent
      change _ + (daemon.issued ++ [frame]).length * frameWork < _
      rw [List.length_append, List.length_singleton, Nat.succ_mul]
      omega
  | accept index frame sent count here positive fits =>
      have spent := fun phase => @daemonWork_dispatcher pool daemon
        { daemon with accepted := daemon.accepted ++ (frame.drop sent).take count } index
        (inside index rfl) phase rfl rfl rfl
      rw [here] at spent
      change _ + daemon.issued.length * frameWork < _
      split_ifs
      · have done := spent (.unlockSend false .request)
        simp only [senderWork] at done
        omega
      · have more := spent (.send frame (sent + count) .request)
        simp only [senderWork] at more
        omega
  | release index here =>
      have spent := @daemonWork_dispatcher pool daemon { daemon with sendLock := none } index
        (inside index rfl) .idle rfl rfl rfl
      rw [here] at spent
      simp only [senderWork] at spent
      change _ + daemon.issued.length * frameWork < _
      omega
  | header bytes piece count base here arrived =>
      obtain ⟨positive, size, threads, flying, issued, incoming⟩ := received_spends arrived
      have spent := @daemonWork_worker pool daemon base (.readHeader (bytes ++ piece)) threads
      rw [here, flying] at spent
      simp only [workerWork, List.length_append, size] at spent
      change _ + base.issued.length * frameWork < _
      rw [issued]
      omega
  | demultiplex bytes here full =>
      obtain ⟨pendingRequests, phase, same, small, _⟩ := @demultiplex_eq daemon bytes
      rw [same]
      have header : workerWork (.readHeader bytes) = 16 := full
      refine turn_spends phase rfl rfl rfl rfl ?_
      rw [here, header]
      omega
  | payload request command bytes piece count base here arrived =>
      obtain ⟨positive, size, threads, flying, issued, incoming⟩ := received_spends arrived
      have spent := fun phase => @daemonWork_worker pool daemon
        (base.fillBuffer bytes.length piece) phase threads
      have sameIncoming : (base.fillBuffer bytes.length piece).incoming = base.incoming := rfl
      have sameFlying : (base.fillBuffer bytes.length piece).inFlight = daemon.inFlight := flying
      rw [here, sameIncoming, sameFlying] at spent
      change _ + base.issued.length * frameWork < _
      rw [issued]
      split_ifs
      · have done := spent (.respond ⟨request.requestType, command, bytes ++ piece⟩)
        simp only [workerWork] at done
        omega
      · have more := spent (.readPayload request command (bytes ++ piece))
        simp only [workerWork] at more
        omega
  | create here => exact turn_spends .testTerminated rfl rfl rfl rfl (by rw [here]; decide)
  | test here => exact turn_spends .resetEvent rfl rfl rfl rfl (by rw [here]; decide)
  | reset here => exact turn_spends (.readHeader []) rfl rfl rfl rfl (by rw [here]; decide)
  | checkDone here => exact turn_spends .testTerminated rfl rfl rfl rfl (by rw [here]; decide)
  | checkPending here => exact turn_spends .awaitResponse rfl rfl rfl rfl (by rw [here]; decide)
  | wake here => exact turn_spends .testTerminated rfl rfl rfl rfl (by rw [here]; decide)

end

/-! ## Each step does a part of it -/

/-- The steps that nothing from outside has to cause, by `pool` dispatchers, with buffers
that can be locked and calls that do not fail. -/
def ownMove (pool : Nat) : DemuxAction → Bool
  | .diskCreated | .pend _ _ | .fetchElsewhere | .abortPending | .abortSubmitted
  | .setDiskSize _ => false
  | .fetch index faults => decide (index < pool) && decide (faults.lockStatus = 0)
  | .handle index _ => decide (index < pool)
  | .daemon (.dispatcher index) choice => decide (index < pool) && smoothChoice choice
  | .daemon _ choice => smoothChoice choice
  | .respond faults _ | .completePending _ faults => decide (faults = ⟨0, 0⟩)
  | .respondPending | .serverReads | .serverAnswers _ _ _ => true

section

variable {mapping : NbdMapping} {pool : Nat} {state after : DemuxState} {transit : Transit}

theorem work_lt (pending : after.pendingReqList = state.pendingReqList)
    (dispatchers : after.dispatchers = state.dispatchers)
    (outstanding : after.outstanding = state.outstanding)
    (answers : after.answers = state.answers)
    (counted : headersRead state ≤ state.daemon.issued.length)
    (issued : state.daemon.issued.length ≤ after.daemon.issued.length)
    (spends : daemonWork pool after.daemon + after.daemon.issued.length * frameWork <
      daemonWork pool state.daemon + state.daemon.issued.length * frameWork) :
    work pool after < work pool state := by
  have read : headersRead after = headersRead state := by
    rw [headersRead, headersRead, outstanding, answers]
  unfold work unreadFrames
  rw [pending, dispatchers, outstanding, read, List.length_drop, List.length_drop]
  rw [frameWork] at spends ⊢
  omega

theorem dispatcherWork_le (pc : DispatcherPc) : dispatcherWork pc ≤ handlingWork := by
  cases pc <;> simp [dispatcherWork]

theorem dispatchers_update (index : Nat) (inside : index < pool) (pc : DispatcherPc) :
    (∑ found ∈ Finset.range pool,
        dispatcherWork (Function.update state.dispatchers index pc found)) +
        dispatcherWork (state.dispatchers index) =
      (∑ found ∈ Finset.range pool, dispatcherWork (state.dispatchers found)) +
        dispatcherWork pc := by
  have replaced := sum_range_replace (fun found => dispatcherWork (state.dispatchers found))
    (fun found => dispatcherWork (Function.update state.dispatchers index pc found)) pool index
    inside (by
      intro other different
      rw [Function.update_of_ne different])
  rw [Function.update_self] at replaced
  exact replaced

theorem fetch_spends (index : Nat) (inside : index < pool) (status : NtStatus)
    (faults : FetchFaults)
    (taken : fetchPending mapping state index status faults = some after) :
    work pool after < work pool state := by
  obtain ⟨request, rest, pc, _, _, _, _, queue, rfl⟩ :=
    fetchPending_moves index status faults taken
  have moved := @dispatchers_update pool state index inside pc
  have small := dispatcherWork_le pc
  change rest.length * pendingWork + (∑ found ∈ Finset.range pool,
    dispatcherWork (Function.update state.dispatchers index pc found)) +
      (unreadFrames state).length * frameWork + (state.outstanding.map headerWork).sum +
      daemonWork pool state.daemon < _
  rw [work, queue, List.length_cons, Nat.succ_mul, pendingWork]
  rw [handlingWork] at small
  omega

/-- A handler registers its request, whose frame now waits. -/
theorem handle_spends (index : Nat) (inside : index < pool) (buffer : Nat → UInt8)
    (taken : handleRequest mapping state index buffer = some after) :
    work pool after < work pool state := by
  cases handleRequest_cases taken with
  | handle _ _ request payload call handled here _ stepped =>
    obtain ⟨daemon, begun, rfl⟩ := Option.map_eq_some_iff.mp stepped
    obtain ⟨idle, same⟩ := begin_request begun
    have moved := @dispatchers_update pool state index inside (.fetching statusSuccess)
    have waits := @daemonWork_dispatcher pool state.daemon { state.daemon with
      pendingRequests := state.daemon.pendingRequests.emplace
        (call.sent mapping.props.blockSize).info } index inside
      (.lockSend (call.sent mapping.props.blockSize).frame .request) rfl rfl rfl
    obtain ⟨header, _, _, size⟩ := call_frameOf mapping.props.blockSize call
    have small := payloadLength_lt header
    have unread : unreadFrames { state with daemon } = unreadFrames state := by
      rw [same]
      rfl
    have holds : dispatcherWork (.handling request payload) = 2 ^ 35 := rfl
    have fetches : dispatcherWork (.fetching statusSuccess) = 0 := rfl
    have idles : senderWork .idle = 0 := rfl
    have locks : senderWork (.lockSend (call.sent mapping.props.blockSize).frame .request) =
        2 ^ 34 + (28 + header.payloadLength) + 3 := congrArg (2 ^ 34 + · + 3) size
    rw [here, holds, fetches] at moved
    rw [idle, idles, locks, ← same] at waits
    change state.pendingReqList.length * pendingWork + (∑ found ∈ Finset.range pool,
      dispatcherWork (Function.update state.dispatchers index (.fetching statusSuccess) found)) +
        (unreadFrames { state with daemon }).length * frameWork +
        (state.outstanding.map headerWork).sum + daemonWork pool daemon < _
    rw [unread, work]
    omega

theorem serverReads_spends (served : ServedInv state) (whole : DemuxInv mapping state transit)
    (framed : ∀ frame ∈ state.daemon.issued, WholeFrame frame)
    (taken : serverReads state = some after) : work pool after < work pool state := by
  obtain ⟨header, decoded, rfl⟩ := Option.map_eq_some_iff.mp taken
  obtain ⟨frame, more, unread, _⟩ := served.next_frame whole framed header decoded
  obtain ⟨_, rest⟩ := @readFrames_succ state { state with
      serverPosition := state.serverPosition + nbdRequestSize + header.payloadLength
      outstanding := state.outstanding ++ [header] } frame more unread (by
    simp only [headersRead, List.length_append, List.length_singleton]
    omega) rfl
  have small := headerWork_lt header
  unfold work
  rw [unread, rest, List.length_cons, Nat.succ_mul, List.map_append, List.sum_append,
    List.map_singleton, List.sum_singleton]
  dsimp only
  omega

theorem answer_length (answer : ServerAnswer) :
    answer.bytes.length = nbdReplySize + answer.payload.length := by
  simp only [ServerAnswer.bytes, hostBytes, List.length_append, List.length_reverse,
    toBytes_length, nbdReplySize]

theorem serverAnswers_spends (index : Nat) (error : UInt32) (payload : List UInt8)
    (taken : serverAnswers state index error payload = some after) :
    work pool after < work pool state := by
  obtain ⟨header, found, answers⟩ := Option.bind_eq_some_iff.mp taken
  obtain ⟨conforms, same⟩ := Option.ite_none_right_eq_some.mp answers
  cases same
  obtain ⟨inside, rfl⟩ := List.getElem?_eq_some_iff.mp found
  have small : payload.length ≤ state.outstanding[index].length.toNat := by
    rw [conforms]
    split_ifs
    · exact le_refl _
    · exact Nat.zero_le _
  have split : (state.outstanding.map headerWork).sum =
      headerWork state.outstanding[index] +
        ((state.outstanding.eraseIdx index).map headerWork).sum := by
    rw [← ((List.getElem_cons_eraseIdx_perm inside).map headerWork).sum_eq, List.map_cons,
      List.sum_cons]
  have counts : state.outstanding.length - 1 + (state.answers.length + 1) =
      state.outstanding.length + state.answers.length := by
    omega
  unfold work unreadFrames headersRead daemonWork
  simp only [split, List.length_append, List.length_singleton, answer_length,
    List.length_eraseIdx_of_lt inside, counts, headerWork]
  omega

theorem daemonStep_spends (served : ServedInv state) (calm : Calm state.daemon)
    (thread : ThreadId) (choice : Choice) (quiet : quietChoice choice = true)
    (inside : ∀ index, thread = .dispatcher index → index < pool)
    (stepped : daemonStep mapping state thread choice = some after) :
    work pool after < work pool state := by
  obtain ⟨daemon, taken, rfl⟩ := Option.map_eq_some_iff.mp stepped
  have works := sendsWhole_of_quiet quiet
  obtain ⟨_, issued, _⟩ := InOrder.threadStep calm served.order works taken
  exact work_lt rfl rfl rfl rfl served.counted issued.length_le
    ((quietStep_of calm quiet taken).spends inside)

theorem submitted_spends {blockSize : UInt32} {daemon later : DaemonState}
    {outcome : SubmitOutcome}
    (stepped : threadStep blockSize daemon .worker (.submitted outcome) = some later) :
    daemonWork pool later < daemonWork pool daemon ∧ later.issued = daemon.issued := by
  obtain ⟨response, here, submitted⟩ := submitted_worker stepped
  have spent := fun base => @daemonWork_worker pool daemon base
  have responds : workerWork (daemon.threads .worker) = 6 := by
    rw [here]
    rfl
  have checks : ∀ status, workerWork (.checkStatus status) = 4 := fun _ => rfl
  cases outcome with
  | completed =>
      cases submitted
      have done := spent (daemon.deliver response) (.checkStatus 0) rfl
      rw [responds, checks] at done
      change _ = _ + 4 + 2 * daemon.incoming.length + daemon.inFlight.length at done
      exact ⟨by omega, rfl⟩
  | pending =>
      cases submitted
      have flying := spent { daemon with
        overlappedEvent := false
        inFlight := daemon.inFlight ++ [response] } (.checkStatus errorIoPending) rfl
      rw [responds, checks, List.length_append, List.length_singleton] at flying
      change _ = _ + 4 + 2 * daemon.incoming.length + _ at flying
      exact ⟨by omega, rfl⟩
  | failed status =>
      obtain ⟨_, same⟩ := Option.ite_none_right_eq_some.mp submitted
      cases same
      have failed := spent daemon (.checkStatus status) rfl
      rw [responds, checks] at failed
      exact ⟨by omega, rfl⟩

theorem submit_spends (counted : headersRead state ≤ state.daemon.issued.length)
    (outcome : SubmitOutcome)
    (stepped : daemonStep mapping state .worker (.submitted outcome) = some after) :
    work pool after < work pool state := by
  obtain ⟨daemon, taken, rfl⟩ := Option.map_eq_some_iff.mp stepped
  obtain ⟨spent, issued⟩ := @submitted_spends pool _ _ _ _ taken
  refine work_lt rfl rfl rfl rfl counted (by rw [issued]) ?_
  rw [issued]
  exact Nat.add_lt_add_right spent _

theorem respond_spends (counted : headersRead state ≤ state.daemon.issued.length)
    (faults : ResponseFaults) (code : UInt32)
    (taken : respond mapping state faults code = some after) :
    work pool after < work pool state := by
  cases respond_cases taken with
  | respond _ _ response _ _ stepped =>
    obtain ⟨submitted, completed, srbBuffers, same, _⟩ :=
      @handleResponse_eq_with state response.command faults
    rw [same] at stepped
    exact @submit_spends mapping pool
      { state with submittedReqList := submitted, completed, srbBuffers } _ counted _ stepped

theorem completePending_spends (counted : headersRead state ≤ state.daemon.issued.length)
    (index : Nat) (faults : ResponseFaults)
    (taken : completePending mapping state index faults = some after) :
    work pool after < work pool state := by
  obtain ⟨response, found, rest⟩ := Option.bind_eq_some_iff.mp taken
  obtain ⟨submitted, completed, srbBuffers, same, _⟩ :=
    @handleResponse_eq_with state response.command faults
  rw [same] at rest
  obtain ⟨daemon, stepped, rfl⟩ := Option.map_eq_some_iff.mp rest
  obtain ⟨again, _, rfl⟩ := Option.map_eq_some_iff.mp stepped
  obtain ⟨inside, _⟩ := List.getElem?_eq_some_iff.mp found
  refine work_lt rfl rfl rfl rfl counted (le_refl _) ?_
  apply Nat.add_lt_add_right
  have fewer : (state.daemon.inFlight.eraseIdx index).length < state.daemon.inFlight.length := by
    rw [List.length_eraseIdx_of_lt inside]
    omega
  unfold daemonWork
  change _ + 2 * state.daemon.incoming.length +
    (state.daemon.inFlight.eraseIdx index).length + _ < _
  change (∑ found ∈ Finset.range pool, senderWork (state.daemon.threads (.dispatcher found))) +
    2 * state.daemon.incoming.length + _ + workerWork (state.daemon.threads .worker) < _
  omega

/-- Every own move does some of the work that is left. -/
theorem ownMove_spends (served : ServedInv state) (whole : DemuxInv mapping state transit)
    (framed : ∀ frame ∈ state.daemon.issued, WholeFrame frame) (action : DemuxAction)
    (own : ownMove pool action = true) (taken : demuxNext mapping state action = some after) :
    work pool after < work pool state := by
  cases action with
  | diskCreated | pend | fetchElsewhere | abortPending | abortSubmitted | setDiskSize => cases own
  | fetch index faults =>
      obtain ⟨inside, _⟩ := Bool.and_eq_true_iff.mp own
      cases demuxNext_cases taken with
      | fetch _ _ status _ _ _ fetches =>
          exact fetch_spends index (of_decide_eq_true inside) status faults fetches
  | handle index buffer => exact handle_spends index (of_decide_eq_true own) buffer taken
  | daemon thread choice =>
      obtain ⟨plain, stepped⟩ := Option.ite_none_right_eq_some.mp taken
      have smooth : smoothChoice choice = true ∧
          ∀ index, thread = .dispatcher index → index < pool := by
        cases thread with
        | dispatcher index =>
            obtain ⟨inside, works⟩ := Bool.and_eq_true_iff.mp own
            refine ⟨works, fun found same => ?_⟩
            cases same
            exact of_decide_eq_true inside
        | caller | worker | destructor => exact ⟨own, fun _ same => by cases same⟩
      exact daemonStep_spends served whole.calm thread choice (quiet_of_own smooth.1 plain)
        smooth.2 stepped
  | respond faults code => exact respond_spends served.counted faults code taken
  | respondPending => exact submit_spends served.counted .pending taken
  | completePending index faults => exact completePending_spends served.counted index faults taken
  | serverReads => exact serverReads_spends served whole framed taken
  | serverAnswers index error payload => exact serverAnswers_spends index error payload taken

end

end Wnbd.EndToEnd
