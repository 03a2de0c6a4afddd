import Wnbd.EndToEnd.RemainingWork

/-!
# The data path runs dry

As long as a request is submitted some step can be taken, and the steps do a part of the
work that is left.  So the dispatchers, the server and the worker come to rest, and then
every SRB is completed, unless each dispatcher has left its loop over a request that does
not fit its buffer.
-/

set_option autoImplicit false

namespace Wnbd.EndToEnd

open Wnbd.Scsi Wnbd.Dispatch Wnbd.Nbd DaemonState StepSystem

/-! ## Nothing waits for what never comes -/

/-- The server goes on reading, nobody sends nothing, the worker waits for a response that
is in flight or is done, and there are only the dispatchers of the pool. -/
structure ReadyInv (pool : Nat) (state : DemuxState) : Prop where
  reads : state.daemon.serverReads = true
  working : state.daemon.threads .worker ≠ .idle
  sending : ∀ index frame sent, state.daemon.threads (.dispatcher index) =
    .send frame sent .request → sent < frame.length
  awaiting : awaitsResponse (state.daemon.threads .worker) = true →
    state.daemon.overlappedEvent = true ∨ state.daemon.inFlight ≠ []
  resting : ∀ index, pool ≤ index → state.daemon.threads (.dispatcher index) = .idle ∧
    ∀ request payload, state.dispatchers index ≠ .handling request payload

theorem readyInv_initial (pool : Nat) : ReadyInv pool .initial where
  reads := rfl
  working idle := by cases idle
  sending _ _ _ here := by cases here
  awaiting waits := by cases waits
  resting _ _ := ⟨rfl, fun _ _ here => by cases here⟩

section

variable {mapping : NbdMapping} {pool : Nat} {state after : DemuxState} {transit : Transit}

theorem ReadyInv.dispatcherMoves (ready : ReadyInv pool state) (index : Nat)
    (inside : index < pool) (base : DaemonState) (phase : Phase)
    (threads : base.threads = state.daemon.threads)
    (reads : base.serverReads = state.daemon.serverReads)
    (event : base.overlappedEvent = state.daemon.overlappedEvent)
    (flying : base.inFlight = state.daemon.inFlight)
    (sends : ∀ frame sent, phase = .send frame sent .request → sent < frame.length) :
    ReadyInv pool { state with daemon := base.setPhase (.dispatcher index) phase } where
  reads := reads.trans ready.reads
  working := by
    change (base.setPhase (.dispatcher index) phase).threads .worker ≠ .idle
    rw [worker_setPhase, threads]
    exact ready.working
  sending found frame sent here := by
    by_cases own : found = index
    · rw [own] at here
      exact sends frame sent ((setPhase_self _ _ _).symm.trans here)
    · refine ready.sending found frame sent ?_
      rw [← threads]
      exact (setPhase_of_ne _ _ _ fun same => own (ThreadId.dispatcher.inj same)).symm.trans here
  awaiting waits := by
    change base.overlappedEvent = true ∨ base.inFlight ≠ []
    rw [event, flying]
    apply ready.awaiting
    rw [← threads, ← worker_setPhase base index phase]
    exact waits
  resting found outside := by
    refine ⟨?_, (ready.resting found outside).2⟩
    have other : found ≠ index := by
      rintro rfl
      exact absurd inside (Nat.not_lt.mpr outside)
    rw [← (ready.resting found outside).1, ← threads]
    exact setPhase_of_ne _ _ _ fun same => other (ThreadId.dispatcher.inj same)

theorem ReadyInv.workerMoves (ready : ReadyInv pool state) (base : DaemonState) (phase : Phase)
    (threads : base.threads = state.daemon.threads)
    (reads : base.serverReads = state.daemon.serverReads) (works : phase ≠ .idle)
    (awaits : awaitsResponse phase = true →
      base.overlappedEvent = true ∨ base.inFlight ≠ []) :
    ReadyInv pool { state with daemon := base.setPhase .worker phase } where
  reads := reads.trans ready.reads
  working := by
    change (base.setPhase .worker phase).threads .worker ≠ .idle
    rw [setPhase_self]
    exact works
  sending index frame sent here := by
    refine ready.sending index frame sent ?_
    rw [← threads, ← setPhase_of_ne base .worker phase ThreadId.noConfusion]
    exact here
  awaiting waits := awaits (by
    rw [← setPhase_self base .worker phase]
    exact waits)
  resting index outside := by
    refine ⟨?_, (ready.resting index outside).2⟩
    rw [← (ready.resting index outside).1, ← threads]
    exact setPhase_of_ne _ _ _ ThreadId.noConfusion

theorem ReadyInv.queues (ready : ReadyInv pool state) (daemon : after.daemon = state.daemon)
    (resting : ∀ index, pool ≤ index → ∀ request payload,
      after.dispatchers index ≠ .handling request payload) : ReadyInv pool after where
  reads := daemon ▸ ready.reads
  working := daemon ▸ ready.working
  sending := daemon ▸ ready.sending
  awaiting := daemon ▸ ready.awaiting
  resting index outside := ⟨daemon ▸ (ready.resting index outside).1, resting index outside⟩

theorem ReadyInv.update (ready : ReadyInv pool state) (index : Nat) (inside : index < pool)
    (pc : DispatcherPc) (daemon : after.daemon = state.daemon)
    (dispatchers : after.dispatchers = Function.update state.dispatchers index pc) :
    ReadyInv pool after := by
  refine ready.queues daemon fun found outside request payload => ?_
  have other : found ≠ index := by
    rintro rfl
    exact absurd inside (Nat.not_lt.mpr outside)
  rw [dispatchers, Function.update_of_ne other]
  exact (ready.resting found outside).2 request payload

theorem ReadyInv.quietStep (ready : ReadyInv pool state) {thread : ThreadId}
    {daemon : DaemonState} (step : QuietStep state.daemon thread daemon)
    (waiting : ∀ index frame, state.daemon.threads (.dispatcher index) = .lockSend frame .request →
      0 < frame.length)
    (inside : ∀ index, thread = .dispatcher index → index < pool) :
    ReadyInv pool { state with daemon } := by
  cases step with
  | acquire index frame here free =>
      refine ready.dispatcherMoves index (inside index rfl) _ _ rfl rfl rfl rfl ?_
      intro other sent same
      cases same
      exact waiting index frame here
  | accept index frame sent count here positive fits =>
      refine ready.dispatcherMoves index (inside index rfl) _ _ rfl rfl rfl rfl ?_
      intro other position same
      split_ifs at same with done
      cases same
      exact lt_of_le_of_ne fits done
  | release index here =>
      refine ready.dispatcherMoves index (inside index rfl) _ _ rfl rfl rfl rfl ?_
      intro other position same
      cases same
  | header bytes piece count base here arrived =>
      obtain ⟨_, same⟩ := Option.ite_none_right_eq_some.mp arrived
      cases same
      exact ready.workerMoves _ _ rfl rfl (by simp) fun waits => by cases waits
  | demultiplex bytes here full =>
      obtain ⟨pendingRequests, phase, same, _, goesOn, busy⟩ := @demultiplex_eq state.daemon bytes
      rw [same]
      refine ready.workerMoves { state.daemon with pendingRequests } phase rfl rfl busy
        fun waits => ?_
      rw [goesOn] at waits
      cases waits
  | payload request command bytes piece count base here arrived =>
      obtain ⟨_, same⟩ := Option.ite_none_right_eq_some.mp arrived
      cases same
      refine ready.workerMoves _ _ rfl rfl (by split_ifs <;> simp) fun waits => ?_
      split_ifs at waits
      · cases waits
      · cases waits
  | create here => exact ready.workerMoves _ _ rfl rfl (by simp) fun waits => by cases waits
  | test here => exact ready.workerMoves _ _ rfl rfl (by simp) fun waits => by cases waits
  | reset here => exact ready.workerMoves _ _ rfl rfl (by simp) fun waits => by cases waits
  | checkDone here => exact ready.workerMoves _ _ rfl rfl (by simp) fun waits => by cases waits
  | checkPending here =>
      refine ready.workerMoves _ _ rfl rfl (by simp) fun _ => ready.awaiting ?_
      rw [here]
      rfl
  | wake here => exact ready.workerMoves _ _ rfl rfl (by simp) fun waits => by cases waits

/-- A submitted response is in flight before the worker waits for it. -/
theorem ReadyInv.submit (ready : ReadyInv pool state) (outcome : SubmitOutcome)
    (stepped : daemonStep mapping state .worker (.submitted outcome) = some after) :
    ReadyInv pool after := by
  obtain ⟨daemon, taken, rfl⟩ := Option.map_eq_some_iff.mp stepped
  obtain ⟨response, here, submitted⟩ := submitted_worker taken
  cases outcome with
  | completed =>
      cases submitted
      exact ready.workerMoves (state.daemon.deliver response) _ rfl rfl (by simp)
        fun _ => Or.inl rfl
  | pending =>
      cases submitted
      exact ready.workerMoves { state.daemon with
        overlappedEvent := false
        inFlight := state.daemon.inFlight ++ [response] } _ rfl rfl (by simp)
        fun _ => Or.inr (by simp)
  | failed status =>
      obtain ⟨known, same⟩ := Option.ite_none_right_eq_some.mp submitted
      cases same
      exact ready.workerMoves state.daemon _ rfl rfl (by simp)
        fun waits => absurd (of_decide_eq_true waits) known.2

end

/-! ## Runs -/

/-- Smooth steps of a pool of dispatchers. -/
def pooled (pool : Nat) : DemuxAction → Bool
  | .diskCreated | .pend _ _ | .fetchElsewhere | .setDiskSize _ => true
  | action => ownMove pool action

def SmoothPool (mapping : NbdMapping) (pool : Nat) (state : DemuxState)
    (action : DemuxAction) : Prop :=
  Smooth mapping state action ∧ pooled pool action = true

instance (mapping : NbdMapping) (pool : Nat) (state : DemuxState) (action : DemuxAction) :
    Decidable (SmoothPool mapping pool state action) := by
  unfold SmoothPool Smooth
  infer_instance

structure DrainInv (mapping : NbdMapping) (pool : Nat) (state : DemuxState) : Prop where
  demux : ∃ transit, DemuxInv mapping state transit
  confined : ConfinedInv mapping anySize state
  served : ServedInv state
  cover : CoverInv state
  ready : ReadyInv pool state

theorem drainInv_initial (mapping : NbdMapping) (pool : Nat) : DrainInv mapping pool .initial where
  demux := ⟨_, demuxInv_initial mapping⟩
  confined := confinedInv_initial mapping anySize (blockCount_anySize _)
  served := servedInv_initial
  cover := coverInv_initial
  ready := readyInv_initial pool

section

variable {mapping : NbdMapping} {pool : Nat} {state after : DemuxState}

theorem DrainInv.waiting (inv : DrainInv mapping pool state) (index : Nat) (frame : List UInt8)
    (here : state.daemon.threads (.dispatcher index) = .lockSend frame .request) :
    0 < frame.length := by
  rcases inv.confined.daemon.waiting _ frame _ here with rfl | ⟨header, _, _, size⟩
  · decide
  · rw [size, nbdRequestSize]
    omega

theorem DrainInv.readyStep (inv : DrainInv mapping pool state) (action : DemuxAction)
    (permitted : SmoothPool mapping pool state action)
    (taken : demuxNext mapping state action = some after) : ReadyInv pool after := by
  obtain ⟨transit, whole⟩ := inv.demux
  obtain ⟨smooth, own⟩ := permitted
  have ready := inv.ready
  have stays : ∀ later : DemuxState, later.daemon = state.daemon →
      later.dispatchers = state.dispatchers → ReadyInv pool later := by
    intro later daemon dispatchers
    refine ready.queues daemon fun index outside => ?_
    rw [dispatchers]
    exact (ready.resting index outside).2
  cases demuxNext_cases taken with
  | diskCreated | serverAnswers =>
      exact ⟨ready.reads, ready.working, ready.sending, ready.awaiting, ready.resting⟩
  | pend | serverReads | fetchElsewhere | setDiskSize => exact stays _ rfl rfl
  | fetch index faults status _ _ _ fetches =>
      obtain ⟨inside, _⟩ := Bool.and_eq_true_iff.mp own
      obtain ⟨_, _, pc, _, _, _, _, _, rfl⟩ := fetchPending_moves index _ faults fetches
      exact ready.update index (of_decide_eq_true inside) pc rfl rfl
  | handle index buffer request payload call handled _ _ stepped =>
      have inside : index < pool := of_decide_eq_true own
      obtain ⟨daemon, begun, rfl⟩ := Option.map_eq_some_iff.mp stepped
      obtain ⟨_, rfl⟩ := begin_request begun
      have waits := ready.dispatcherMoves index inside { state.daemon with
        pendingRequests := state.daemon.pendingRequests.emplace
          (call.sent mapping.props.blockSize).info }
        (.lockSend (call.sent mapping.props.blockSize).frame .request) rfl rfl rfl rfl
        (fun _ _ same => by cases same)
      exact waits.update index inside (.fetching statusSuccess) rfl rfl
  | daemon thread choice _ plain stepped =>
      obtain ⟨daemon, moved, rfl⟩ := Option.map_eq_some_iff.mp stepped
      refine ready.quietStep (quietStep_of whole.calm (quiet_of_own smooth plain) moved)
        inv.waiting ?_
      rintro index rfl
      obtain ⟨inside, _⟩ := Bool.and_eq_true_iff.mp own
      exact of_decide_eq_true inside
  | respond faults code response _ _ stepped =>
      obtain ⟨submitted, completed, srbBuffers, same, _⟩ :=
        @handleResponse_eq_with state response.command faults
      rw [same] at stepped
      exact (stays { state with submittedReqList := submitted, completed, srbBuffers }
        rfl rfl).submit _ stepped
  | respondPending _ stepped => exact ready.submit .pending stepped
  | completePending index faults response _ _ delivered =>
      obtain ⟨submitted, completed, srbBuffers, same, _⟩ :=
        @handleResponse_eq_with state response.command faults
      rw [same] at delivered ⊢
      obtain ⟨again, _, rfl⟩ := Option.map_eq_some_iff.mp delivered
      exact ⟨ready.reads, ready.working, ready.sending, fun _ => Or.inl rfl, ready.resting⟩
  | abortPending | abortSubmitted => cases smooth

theorem pooled_locks (action : DemuxAction) (own : pooled pool action = true) :
    locksBuffers action = true := by
  cases action with
  | fetch index faults => exact (Bool.and_eq_true_iff.mp own).2
  | _ => rfl

theorem DrainInv.step (inv : DrainInv mapping pool state)
    (created : geometryAccepted mapping.props = true) (action : DemuxAction)
    (permitted : SmoothPool mapping pool state action)
    (taken : demuxNext mapping state action = some after) : DrainInv mapping pool after := by
  obtain ⟨transit, whole⟩ := inv.demux
  obtain ⟨served, cover⟩ := inv.served.step inv.cover whole inv.confined.whole action permitted.1
    (pooled_locks action permitted.2) taken
  exact ⟨demuxNext_inv whole action permitted.1 after taken,
    inv.confined.step ((geometryAccepted_iff _).mp created).1 action
      (fun blockCount _ => blockCount_anySize blockCount) taken,
    served, cover, inv.readyStep action permitted taken⟩

end

/-- The steps that work off what was queued. -/
def OwnMove (mapping : NbdMapping) (pool : Nat) (state : DemuxState) (action : DemuxAction) :
    Prop :=
  Smooth mapping state action ∧ ownMove pool action = true

theorem pooled_of_ownMove (pool : Nat) (action : DemuxAction)
    (own : ownMove pool action = true) : pooled pool action = true := by
  cases action with
  | diskCreated | pend | fetchElsewhere | setDiskSize => rfl
  | _ => exact own

theorem drains (mapping : NbdMapping) (created : geometryAccepted mapping.props = true)
    (pool : Nat) :
    Drains (demuxNext mapping) (OwnMove mapping pool) (DrainInv mapping pool) (work pool) where
  kept state action after own inv taken :=
    inv.step created action ⟨own.1, pooled_of_ownMove pool action own.2⟩ taken
  spent state action after own inv taken := by
    obtain ⟨transit, whole⟩ := inv.demux
    exact ownMove_spends inv.served whole inv.confined.whole action own.2 taken

/-! ## At rest -/

/-- None of the moves of the dispatchers, the server, the worker and the driver is left. -/
def AtRest (mapping : NbdMapping) (pool : Nat) (state : DemuxState) : Prop :=
  ∀ action, OwnMove mapping pool state action → demuxNext mapping state action = none

section

variable {mapping : NbdMapping} {pool : Nat} {state : DemuxState} {transit : Transit}

theorem AtRest.thread (rest : AtRest mapping pool state) (thread : ThreadId) (choice : Choice)
    (smooth : smoothChoice choice = true) (own : ownMove pool (.daemon thread choice) = true)
    (plain : ownStep choice = true) :
    threadStep mapping.props.blockSize state.daemon thread choice = none := by
  have none_ := rest (.daemon thread choice) ⟨smooth, own⟩
  simp only [demuxNext, if_pos plain, daemonStep, Option.map_eq_none_iff] at none_
  exact none_

theorem AtRest.dispatcher (rest : AtRest mapping pool state) (index : Nat) (inside : index < pool)
    (choice : Choice) (smooth : smoothChoice choice = true) (plain : ownStep choice = true) :
    threadStep mapping.props.blockSize state.daemon (.dispatcher index) choice = none :=
  rest.thread _ choice smooth (Bool.and_eq_true_iff.mpr ⟨decide_eq_true inside, smooth⟩) plain

theorem ReadyInv.inside (ready : ReadyInv pool state) (index : Nat)
    (busy : state.daemon.threads (.dispatcher index) ≠ .idle) : index < pool := by
  by_contra outside
  exact busy (ready.resting index (Nat.not_lt.mp outside)).1

/-- Nobody sends: a thread inside the scope of the lock could go on. -/
theorem AtRest.lock_free (rest : AtRest mapping pool state) (inv : DrainInv mapping pool state) :
    state.daemon.sendLock = none := by
  obtain ⟨transit, whole⟩ := inv.demux
  cases held : state.daemon.sendLock with
  | none => rfl
  | some thread =>
      have holds : (state.daemon.threads thread).holdsSendLock = true :=
        (whole.calm.locks.send thread).mpr held
      have serves := whole.calm.serving thread
      obtain ⟨index, rfl⟩ := whole.calm.senders thread (Phase.sendScope_of_holds _ holds)
      have inside : index < pool := by
        refine inv.ready.inside index fun idle => ?_
        rw [idle] at holds
        cases holds
      cases here : state.daemon.threads (.dispatcher index) with
      | send frame sent purpose =>
          rw [here] at serves
          cases purpose with
          | disconnect => cases serves
          | request =>
              have room := inv.ready.sending index frame sent here
              have fits : sent + 1 ≤ sendEnd frame sent := by
                unfold sendEnd
                split_ifs
                · omega
                · omega
              have stuck := rest.dispatcher index inside (.accepted 1) rfl rfl
              simp only [threadStep, here, sendLockStep, sendStep] at stuck
              rw [if_pos ⟨whole.calm.connected, inv.ready.reads, Nat.one_pos, fits⟩] at stuck
              cases stuck
      | unlockSend failed purpose =>
          have stuck := rest.dispatcher index inside .proceed rfl rfl
          simp only [threadStep, here, sendLockStep] at stuck
          cases stuck
      | _ =>
          rw [here] at holds
          cases holds

theorem AtRest.idle (rest : AtRest mapping pool state) (inv : DrainInv mapping pool state)
    (index : Nat) : state.daemon.threads (.dispatcher index) = .idle := by
  by_contra busy
  have inside := inv.ready.inside index busy
  have free := rest.lock_free inv
  obtain ⟨transit, whole⟩ := inv.demux
  have serves := whole.calm.serving (.dispatcher index)
  have worker : (state.daemon.threads (.dispatcher index)).workerScope = false := by
    cases scope : (state.daemon.threads (.dispatcher index)).workerScope with
    | false => rfl
    | true => cases whole.calm.worker_thread scope
  have outside : (state.daemon.threads (.dispatcher index)).holdsSendLock = false :=
    (free ▸ whole.calm.locks.send).free _
  cases here : state.daemon.threads (.dispatcher index) with
  | idle => exact busy here
  | lockSend frame purpose =>
      have stuck := rest.dispatcher index inside .proceed rfl rfl
      simp only [threadStep, here, sendLockStep] at stuck
      rw [if_pos free] at stuck
      cases stuck
  | send frame sent purpose | unlockSend failed purpose =>
      rw [here] at outside
      cases outside
  | createEvent | testTerminated | resetEvent | readHeader | readPayload | respond
  | checkStatus | awaitResponse =>
      rw [here] at worker
      cases worker
  | lockShutdown | remove | terminate | stopSocket | closeSocket | unlockShutdown
  | waitDispatchers | joinWorker | finished =>
      rw [here] at serves
      cases serves

/-- A dispatcher that holds a request could hand it to its handler. -/
theorem AtRest.not_handling (rest : AtRest mapping pool state)
    (inv : DrainInv mapping pool state) (disk : state.daemon.wnbdDisk = true) (index : Nat)
    (request : WnbdIoRequest) (payload : FetchPayload) :
    state.dispatchers index ≠ .handling request payload := by
  intro here
  have inside : index < pool := by
    by_contra outside
    exact (inv.ready.resting index (Nat.not_lt.mp outside)).2 request payload here
  obtain ⟨transit, whole⟩ := inv.demux
  obtain ⟨call, called, _⟩ := whole.pipeline.handling index request payload here fun _ => 0
  have stuck := rest (.handle index fun _ => 0) ⟨rfl, decide_eq_true inside⟩
  have idle := rest.idle inv index
  simp only [demuxNext, handleRequest, here, called, Option.bind_some, daemonStep, threadStep,
    idle, beginStep] at stuck
  rw [if_pos disk] at stuck
  cases stuck

/-- The server could read the header of a frame that has arrived. -/
theorem AtRest.all_read (rest : AtRest mapping pool state) (inv : DrainInv mapping pool state) :
    unreadFrames state = [] := by
  cases unread : unreadFrames state with
  | nil => rfl
  | cons frame more =>
      obtain ⟨transit, whole⟩ := inv.demux
      have nobody := whole.calm.nobody_sends (rest.lock_free inv)
      have arrived := inv.served.order [] ⟨fun thread frame sent purpose here =>
        absurd here (nobody thread frame sent purpose), fun _ => rfl⟩
      have member : frame ∈ unreadFrames state := by
        rw [unread]
        exact List.mem_cons_self
      obtain ⟨header, decoded, size⟩ :=
        inv.confined.whole frame (List.mem_of_mem_drop member)
      have front : state.daemon.accepted.drop state.serverPosition = frame ++ more.flatten := by
        rw [List.append_nil] at arrived
        rw [arrived, ← List.take_append_drop (headersRead state) state.daemon.issued,
          List.flatten_append, inv.served.position]
        change ((readFrames state).flatten ++ (unreadFrames state).flatten).drop _ = _
        rw [List.drop_left, unread, List.flatten_cons]
      have stuck := rest .serverReads ⟨rfl, rfl⟩
      simp only [demuxNext, serverReads, front] at stuck
      rw [decodeHeader_append frame _ (by rw [size]; exact Nat.le_add_right _ _), decoded] at stuck
      cases stuck

/-- The server could answer with an error. -/
theorem AtRest.all_answered (rest : AtRest mapping pool state) : state.outstanding = [] := by
  cases waiting : state.outstanding with
  | nil => rfl
  | cons header more =>
      have stuck := rest (.serverAnswers 0 1 []) ⟨rfl, rfl⟩
      simp [demuxNext, serverAnswers, waiting, conforming] at stuck

theorem AtRest.landed (rest : AtRest mapping pool state) : state.daemon.inFlight = [] := by
  cases flying : state.daemon.inFlight with
  | nil => rfl
  | cons response more =>
      have stuck := rest (.completePending 0 ⟨0, 0⟩) ⟨rfl, rfl⟩
      obtain ⟨_, _, _, same, _⟩ := @handleResponse_eq_with state response.command ⟨0, 0⟩
      simp [demuxNext, completePending, flying, same, daemonNext] at stuck

theorem AtRest.not_responding (rest : AtRest mapping pool state) (response : SubmittedResponse) :
    state.daemon.threads .worker ≠ .respond response := by
  intro here
  have stuck := rest (.respond ⟨0, 0⟩ 1) ⟨rfl, rfl⟩
  obtain ⟨_, _, _, same, _⟩ := @handleResponse_eq_with state response.command ⟨0, 0⟩
  simp only [demuxNext, respond, here, same, daemonStep, threadStep, workerStep, submitStep,
    Option.map_eq_none_iff] at stuck
  cases success : ntSuccess (handleResponse state response.command ⟨0, 0⟩).1 with
  | true =>
      rw [if_pos success] at stuck
      cases stuck
  | false =>
      rw [if_neg (by rw [success]; exact Bool.false_ne_true)] at stuck
      cases stuck

theorem nothing_incoming (daemon : DaemonState) (missing : Nat) (short : 0 < missing)
    (connected : daemon.socket = .connected) (waits : received daemon missing 1 = none) :
    daemon.incoming = [] := by
  unfold received at waits
  by_contra busy
  have some_ : 1 ≤ daemon.incoming.length := List.length_pos_iff.mpr busy
  rw [if_pos ⟨connected, Nat.one_pos, short, some_⟩] at waits
  cases waits

/-- The worker waits in front of a header, and no response is on its way. -/
theorem AtRest.worker (rest : AtRest mapping pool state) (inv : DrainInv mapping pool state)
    (whole : DemuxInv mapping state transit) :
    transit.replies = [] ∧ workerHandle (state.daemon.threads .worker) = none := by
  have stuck := fun choice (smooth : smoothChoice choice = true) plain =>
    rest.thread .worker choice smooth smooth plain
  have input := whole.wire.input
  have serves := whole.calm.serving .worker
  have outside : (state.daemon.threads .worker).sendScope = false := by
    cases scope : (state.daemon.threads .worker).sendScope with
    | false => rfl
    | true =>
        obtain ⟨index, same⟩ := whole.calm.senders .worker scope
        cases same
  unfold InStep at input
  cases here : state.daemon.threads .worker with
  | readHeader bytes =>
      rw [here] at input
      obtain ⟨short, stream⟩ := input
      have missing : bytes.length ≠ nbdReplySize := by
        intro full
        have goes := stuck .proceed rfl rfl
        simp only [threadStep, here, receiveStep, if_pos full] at goes
        cases goes
      have waits := stuck (.received 1) rfl rfl
      simp only [threadStep, here, receiveStep, Option.map_eq_none_iff] at waits
      have empty := nothing_incoming _ _ (by omega) whole.calm.connected waits
      refine ⟨?_, rfl⟩
      cases replies : transit.replies with
      | nil => rfl
      | cons answer more =>
          have size := congrArg List.length stream
          rw [empty, replies, repliesBytes, List.map_cons, List.flatten_cons, List.append_nil,
            List.length_append, answer_length] at size
          omega
  | readPayload request command bytes =>
      rw [here] at input
      obtain ⟨payload, _, size, short, stream⟩ := input
      have waits := stuck (.received 1) rfl rfl
      simp only [threadStep, here, receiveStep, Option.map_eq_none_iff] at waits
      have empty := nothing_incoming _ _ (by omega) whole.calm.connected waits
      have total := congrArg List.length stream
      rw [empty, List.append_nil, List.length_append] at total
      omega
  | respond response => exact absurd here (rest.not_responding response)
  | awaitResponse =>
      have set := inv.ready.awaiting (by rw [here]; rfl)
      rcases set with event | flying
      · have goes := stuck .proceed rfl rfl
        simp only [threadStep, here, workerStep, if_pos event] at goes
        cases goes
      · exact absurd rest.landed flying
  | createEvent | testTerminated | resetEvent | checkStatus =>
      have goes := stuck .proceed rfl rfl
      simp only [threadStep, here, workerStep] at goes
      cases goes
  | idle => exact absurd here inv.ready.working
  | lockSend | send | unlockSend =>
      rw [here] at outside
      cases outside
  | lockShutdown | remove | terminate | stopSocket | closeSocket | unlockShutdown
  | waitDispatchers | joinWorker | finished =>
      rw [here] at serves
      cases serves

/-- A daemon that waits for its next request and its next reply is at rest. -/
theorem atRest_of (inv : DrainInv mapping pool state) (pending : state.pendingReqList = [])
    (unread : unreadFrames state = []) (outstanding : state.outstanding = [])
    (incoming : state.daemon.incoming = []) (landed : state.daemon.inFlight = [])
    (worker : state.daemon.threads .worker = .readHeader [])
    (idle : ∀ index < pool, state.daemon.threads (.dispatcher index) = .idle)
    (free : ∀ index < pool, ∀ request payload,
      state.dispatchers index ≠ .handling request payload) : AtRest mapping pool state := by
  obtain ⟨transit, whole⟩ := inv.demux
  intro action own
  cases action with
  | diskCreated | pend | fetchElsewhere | abortPending | abortSubmitted | setDiskSize => cases own.2
  | fetch index faults =>
      simp only [demuxNext, fetchPending, pending]
      split
      · split_ifs <;> rfl
      · rfl
  | handle index buffer =>
      have inside : index < pool := of_decide_eq_true own.2
      simp only [demuxNext, handleRequest]
      cases here : state.dispatchers index with
      | handling request payload => exact absurd here (free index inside request payload)
      | fetching | sending | removing => rfl
  | daemon thread choice =>
      refine Option.eq_none_iff_forall_ne_some.mpr fun after taken => ?_
      obtain ⟨plain, stepped⟩ := Option.ite_none_right_eq_some.mp taken
      obtain ⟨daemon, moved, rfl⟩ := Option.map_eq_some_iff.mp stepped
      have inside : ∀ index, thread = .dispatcher index → index < pool := by
        rintro index rfl
        exact of_decide_eq_true (Bool.and_eq_true_iff.mp own.2).1
      cases quietStep_of whole.calm (quiet_of_own own.1 plain) moved with
      | acquire index frame here | accept index _ _ _ here | release index here =>
          rw [idle index (inside index rfl)] at here
          cases here
      | header bytes piece count base here arrived =>
          obtain ⟨positive, _, _, _, _, rest⟩ := received_spends arrived
          rw [incoming, List.length_nil] at rest
          omega
      | demultiplex bytes here full =>
          rw [worker] at here
          cases here
          cases full
      | payload _ _ _ _ _ _ here _ | create here | test here | reset here | checkDone here
      | checkPending here | wake here =>
          rw [worker] at here
          cases here
  | respond faults code => simp only [demuxNext, respond, worker]
  | respondPending =>
      simp only [demuxNext, daemonStep, threadStep, worker, receiveStep, Option.map_none]
  | completePending index faults =>
      simp only [demuxNext, completePending, landed, List.getElem?_nil, Option.bind_none]
  | serverReads =>
      refine Option.eq_none_iff_forall_ne_some.mpr fun after taken => ?_
      obtain ⟨header, decoded, _⟩ := Option.map_eq_some_iff.mp taken
      obtain ⟨frame, more, listed, _⟩ :=
        inv.served.next_frame whole inv.confined.whole header decoded
      rw [unread] at listed
      cases listed
  | serverAnswers index error payload =>
      simp only [demuxNext, serverAnswers, outstanding, List.getElem?_nil, Option.bind_none]

/-- At rest nothing is submitted, and what is pending finds no dispatcher. -/
theorem AtRest.settled (rest : AtRest mapping pool state) (inv : DrainInv mapping pool state)
    (disk : state.daemon.wnbdDisk = true) (tags : state.requestHandle.toNat + 1 < 2 ^ 64) :
    state.submittedReqList = [] ∧
      (state.pendingReqList = [] ∨ ∀ index < pool, state.dispatchers index = .removing) := by
  constructor
  · obtain ⟨transit, whole⟩ := inv.demux
    obtain ⟨replies, phase⟩ := rest.worker inv whole
    have current : (state.pipeline transit).current = [] := by
      change (workerHandle (state.daemon.threads .worker)).toList ++ _ = _
      rw [phase, rest.landed]
      rfl
    cases submitted : state.submittedReqList with
    | nil => rfl
    | cons request more =>
        have member : request ∈ state.submittedReqList := by
          rw [submitted]
          exact List.mem_cons_self
        cases inv.cover.covered request member with
        | handling index held payload here same =>
            exact absurd here (rest.not_handling inv disk index held payload)
        | waiting index frame here same =>
            rw [rest.idle inv index] at here
            cases here
        | unread frame found same =>
            rw [rest.all_read inv] at found
            cases found
        | outstanding header found same =>
            rw [rest.all_answered] at found
            cases found
        | answered answer found same =>
            rcases whole.pipeline.answeredPast request.tag
              (List.mem_map.mpr ⟨answer, found, same⟩) with unread | held | gone
            · change _ ∈ transit.replies.map _ at unread
              rw [replies] at unread
              cases unread
            · rw [current] at held
              cases held
            · exact absurd rfl (gone request member)
  · cases pending : state.pendingReqList with
    | nil => exact Or.inl rfl
    | cons request more =>
        right
        intro index inside
        have steady := inv.cover.steady index
        cases here : state.dispatchers index with
        | fetching status =>
            have stuck := rest (.fetch index ⟨0, 0⟩)
              ⟨decide_eq_true tags, by simp [ownMove, inside]⟩
            simp only [demuxNext, here, if_pos (And.intro disk (rest.idle inv index)),
              fetchPending, pending] at stuck
            split at stuck <;> cases stuck
        | handling held payload => exact absurd here (rest.not_handling inv disk index held payload)
        | sending sent =>
            rw [here] at steady
            cases steady
        | removing => rfl

end

/-! ## Runs -/

/-- While no call fails and no SRB is queued, every run is shorter than the work it starts
with, and one that cannot go on has come to rest.  At rest every SRB that was queued is
completed, unless each dispatcher of the pool has left its loop. -/
theorem data_path_drains (mapping : NbdMapping) (created : geometryAccepted mapping.props = true)
    (pool : Nat) (actions : List DemuxAction) (state : DemuxState)
    (permitted : AllAllowed (demuxNext mapping) (SmoothPool mapping pool) .initial actions)
    (ran : run (demuxNext mapping) .initial actions = some state) :
    (∀ more last, AllAllowed (demuxNext mapping) (OwnMove mapping pool) state more →
      run (demuxNext mapping) state more = some last → more.length ≤ work pool state) ∧
    (∃ last, Path (demuxNext mapping) (OwnMove mapping pool) state last ∧
      AtRest mapping pool last) ∧
    (AtRest mapping pool state → state.daemon.wnbdDisk = true →
      state.requestHandle.toNat + 1 < 2 ^ 64 →
      completedIds state.completed = ↑(actions.filterMap pendedSrb) ∨
        state.submittedReqList = [] ∧ ∀ index < pool, state.dispatchers index = .removing) := by
  have inv : DrainInv mapping pool state :=
    (path_of_run _ state actions permitted ran).invariant (DrainInv mapping pool)
      (drainInv_initial mapping pool)
      fun _ action _ allowed inv taken => inv.step created action allowed taken
  have dry := drains mapping created pool
  refine ⟨fun more last allowed further => ?_, dry.settles state inv, fun rest disk tags => ?_⟩
  · have spent := dry.length_add_work_le more state last inv allowed further
    omega
  · obtain ⟨submitted, pending | gone⟩ := rest.settled inv disk tags
    · left
      have known := knownSrbs_of_run actions _ state ran
      rw [knownSrbs, pending, submitted] at known
      simpa [knownSrbs, queuedIds, completedIds, DemuxState.initial] using known
    · exact Or.inr ⟨submitted, gone⟩

/-- A write of one block is queued, sent, answered and completed, and the worker goes back to
its next header. -/
def drainedWriteRun : List DemuxAction :=
  [.diskCreated, .daemon .worker .proceed, .pend 3 (write10Srb 1 512), .fetch 0 ⟨0, 0⟩,
    .handle 0 fun _ => 0, .daemon (.dispatcher 0) .proceed, .daemon (.dispatcher 0) (.accepted 28),
    .daemon (.dispatcher 0) (.accepted 512), .daemon (.dispatcher 0) .proceed, .serverReads,
    .serverAnswers 0 0 [], .daemon .worker .proceed, .daemon .worker .proceed,
    .daemon .worker (.received 16), .daemon .worker .proceed, .respond ⟨0, 0⟩ 0,
    .daemon .worker .proceed, .daemon .worker .proceed, .daemon .worker .proceed]

theorem data_path_drains_write : ∃ state,
    run (demuxNext nbdDisk) .initial drainedWriteRun = some state ∧
      completedIds state.completed = {3} := by
  have permitted : AllAllowed (demuxNext nbdDisk) (SmoothPool nbdDisk 1) .initial
      drainedWriteRun := by
    decide +kernel
  have counts : (run (demuxNext nbdDisk) .initial drainedWriteRun).map (fun state =>
      (state.pendingReqList.length, (unreadFrames state).length, state.outstanding.length,
        state.daemon.incoming.length, state.daemon.inFlight.length)) =
      some (0, 0, 0, 0, 0) := by
    decide +kernel
  have phases : (run (demuxNext nbdDisk) .initial drainedWriteRun).map (fun state =>
      (state.daemon.threads .worker, state.daemon.threads (.dispatcher 0),
        (state.dispatchers 0).ctorIdx)) = some (.readHeader [], .idle, 0) := by
    decide +kernel
  have fields : (run (demuxNext nbdDisk) .initial drainedWriteRun).map (fun state =>
      (state.daemon.wnbdDisk, state.requestHandle, state.completed.length)) =
      some (true, 1, 1) := by
    decide +kernel
  obtain ⟨state, reached, lengths⟩ := Option.map_eq_some_iff.mp counts
  obtain ⟨pending, unread, outstanding, incoming, landed⟩ := by
    simpa only [Prod.mk.injEq, List.length_eq_zero_iff] using lengths
  obtain ⟨worker, idle, fetching⟩ := by
    simpa only [Prod.mk.injEq] using field_of_run _ _ state _ _ reached phases
  obtain ⟨disk, handle, done⟩ := by
    simpa only [Prod.mk.injEq] using field_of_run _ _ state _ _ reached fields
  have drained := data_path_drains nbdDisk (by decide) 1 drainedWriteRun state permitted reached
  have inv : DrainInv nbdDisk 1 state :=
    (path_of_run _ state _ permitted reached).invariant (DrainInv nbdDisk 1)
      (drainInv_initial nbdDisk 1)
      fun _ action _ allowed inv taken => inv.step (by decide) action allowed taken
  have first : ∀ index, index < 1 → index = 0 := fun index inside => by omega
  have rest : AtRest nbdDisk 1 state := by
    refine atRest_of inv pending unread outstanding incoming landed worker ?_ ?_
    · intro index inside
      rw [first index inside]
      exact idle
    · intro index inside request payload here
      rw [first index inside] at here
      rw [here] at fetching
      cases fetching
  refine ⟨state, reached, ?_⟩
  rcases drained.2.2 rest disk (by rw [handle]; decide) with completed | ⟨_, gone⟩
  · exact completed
  · rw [gone 0 Nat.one_pos] at fetching
    cases fetching

end Wnbd.EndToEnd
