import Wnbd.Nbd.ThreadSteps

/-!
# When the shutdown of the daemon gets stuck

`DisconnectNbd` takes `SendLock` before it shuts the socket down, so a sender that
is blocked in `send` keeps it waiting for good.  The destructor joins the worker
even if its own `Shutdown` failed and left the socket open.
-/

set_option autoImplicit false

namespace Wnbd.Nbd

open DaemonState StepSystem

/-- A `send` that returns only when the socket is shut down. -/
def sendBlocked (state : DaemonState) (thread : ThreadId) : Bool :=
  match state.threads thread with
  | .send _ _ _ => decide (state.socket = .connected) && !state.serverReads
  | _ => false

/-- A `recv` that returns only when the socket is shut down. -/
def receiveBlocked (state : DaemonState) (thread : ThreadId) : Bool :=
  match state.threads thread with
  | .readHeader _ | .readPayload _ _ _ =>
      decide (state.socket = .connected ∧ state.incoming = []) && !state.serverAnswers
  | _ => false

def waitsToDisconnect (state : DaemonState) (thread : ThreadId) : Bool :=
  match state.threads thread with
  | .lockSend _ .disconnect => true
  | _ => false

theorem sendBlocked_iff (state : DaemonState) (thread : ThreadId) :
    sendBlocked state thread = true ↔
      (∃ frame sent purpose, state.threads thread = .send frame sent purpose) ∧
        state.socket = .connected ∧ state.serverReads = false := by
  unfold sendBlocked
  cases here : state.threads thread with
  | send frame sent purpose => simp
  | _ => simp

theorem waitsToDisconnect_iff (state : DaemonState) (thread : ThreadId) :
    waitsToDisconnect state thread = true ↔
      ∃ frame, state.threads thread = .lockSend frame .disconnect := by
  unfold waitsToDisconnect
  cases here : state.threads thread with
  | lockSend frame purpose => cases purpose <;> simp
  | _ => simp

/-- `Shutdown` waits for a lock whose holder is blocked in `send`. -/
def ShutdownStuck (state : DaemonState) : Prop :=
  ∃ caller holder, waitsToDisconnect state caller = true ∧ state.sendLock = some holder ∧
    sendBlocked state holder = true

/-- `Shutdown` is itself blocked in `send`, ahead of the call that would end it. -/
def DisconnectStuck (state : DaemonState) : Prop :=
  ∃ caller, state.shutdownLock = some caller ∧ sendBlocked state caller = true

/-- The destructor joins a running worker with the socket open. -/
def JoinStuck (state : DaemonState) : Prop :=
  state.threads .destructor = .joinWorker ∧ state.threads .worker ≠ .finished ∧
    state.terminated = false ∧ state.socket = .connected

def Phase.disconnects : Phase → Bool
  | .lockSend _ .disconnect | .send _ _ .disconnect => true
  | _ => false

def disconnecting (state : DaemonState) : Bool :=
  state.shutdownLock.any fun caller => (state.threads caller).disconnects

def stopsReading : DaemonAction → Bool
  | .serverStopsReading => true
  | _ => false

def startsDisconnect (state : DaemonState) : DaemonAction → Bool
  | .thread thread .proceed => decide (state.threads thread = .terminate)
  | _ => false

def abandonsWorker : DaemonAction → Bool
  | .thread .destructor (.removed .failed) => true
  | _ => false

/-- The server reads from the moment a `Shutdown` starts to disconnect until the
socket is shut down, and the destructor's removal does not fail. -/
structure Cooperates (state : DaemonState) (action : DaemonAction) : Prop where
  readsOn : stopsReading action = true →
    disconnecting state = false ∨ state.socket ≠ .connected
  reads : startsDisconnect state action = true →
    state.serverReads = true ∨ state.socket ≠ .connected
  removes : abandonsWorker action = false

instance (state : DaemonState) (action : DaemonAction) : Decidable (Cooperates state action) :=
  decidable_of_iff
    ((stopsReading action = true → disconnecting state = false ∨ state.socket ≠ .connected) ∧
      (startsDisconnect state action = true →
        state.serverReads = true ∨ state.socket ≠ .connected) ∧ abandonsWorker action = false)
    ⟨fun ⟨readsOn, reads, removes⟩ => ⟨readsOn, reads, removes⟩,
      fun ⟨readsOn, reads, removes⟩ => ⟨readsOn, reads, removes⟩⟩

/-! ## The invariant -/

/-- Phases of `Shutdown` that follow the store to `Terminated`, when no removal failed. -/
def Phase.pastTerminate : Phase → Bool
  | .lockSend _ .disconnect | .send _ _ .disconnect | .unlockSend _ .disconnect | .stopSocket
  | .closeSocket | .unlockShutdown | .waitDispatchers | .joinWorker => true
  | _ => false

structure ShutdownInv (state : DaemonState) : Prop where
  locks : LocksHeld state
  reading : ∀ thread, (state.threads thread).disconnects = true →
    state.serverReads = true ∨ state.socket ≠ .connected
  terminated : (state.threads .destructor).pastTerminate = true → state.terminated = true

theorem shutdownInv_initial : ShutdownInv .initial where
  locks := locksHeld_initial
  reading thread here := by cases thread <;> cases here
  terminated here := by cases here

section

variable {blockSize : UInt32} {state after base : DaemonState} {thread : ThreadId} {phase : Phase}
  {choice : Choice}

theorem ShutdownInv.unblocked (inv : ShutdownInv state)
    (here : (state.threads thread).disconnects = true) (found : ThreadId) :
    sendBlocked state found = false := by
  unfold sendBlocked
  split
  · rcases inv.reading thread here with reads | gone
    · rw [reads, Bool.not_true, Bool.and_false]
    · rw [decide_eq_false gone, Bool.false_and]
  · rfl

theorem ShutdownInv.notStuck (inv : ShutdownInv state) :
    ¬ ShutdownStuck state ∧ ¬ DisconnectStuck state ∧ ¬ JoinStuck state := by
  refine ⟨?_, ?_, ?_⟩
  · rintro ⟨caller, holder, waits, _, blocked⟩
    have disconnects : (state.threads caller).disconnects = true := by
      obtain ⟨frame, here⟩ := (waitsToDisconnect_iff state caller).mp waits
      rw [here]
      rfl
    rw [inv.unblocked disconnects holder] at blocked
    cases blocked
  · rintro ⟨caller, named, blocked⟩
    have holds := (inv.locks.shutdown caller).mpr named
    have disconnects : (state.threads caller).disconnects = true := by
      obtain ⟨⟨frame, sent, purpose, here⟩, _⟩ := (sendBlocked_iff state caller).mp blocked
      dsimp only at holds
      rw [here] at holds ⊢
      cases purpose with
      | request => cases holds
      | disconnect => rfl
    rw [inv.unblocked disconnects caller] at blocked
    cases blocked
  · rintro ⟨joining, _, running, _⟩
    have done := inv.terminated (by rw [joining]; rfl)
    rw [running] at done
    cases done

theorem ShutdownInv.move (inv : ShutdownInv state) (locks : LocksHeld after)
    (others : ∀ other, other ≠ thread → after.threads other = state.threads other)
    (gone : state.serverReads = true ∨ state.socket ≠ .connected →
      after.serverReads = true ∨ after.socket ≠ .connected)
    (terminated : state.terminated = true → after.terminated = true)
    (disconnects : (after.threads thread).disconnects = true →
      (state.threads thread).disconnects = true ∨ after.serverReads = true ∨
        after.socket ≠ .connected)
    (past : thread = .destructor → (after.threads thread).pastTerminate = true →
      (state.threads thread).pastTerminate = true ∨ after.terminated = true) :
    ShutdownInv after where
  locks := locks
  reading found here := by
    by_cases own : found = thread
    · rw [own] at here
      rcases disconnects here with before | now
      · exact gone (inv.reading thread before)
      · exact now
    · rw [others found own] at here
      exact gone (inv.reading found here)
  terminated here := by
    by_cases own : ThreadId.destructor = thread
    · rw [own] at here
      rcases past own.symm here with before | now
      · exact terminated (inv.terminated (by rw [own]; exact before))
      · exact now
    · rw [others .destructor own] at here
      exact terminated (inv.terminated here)

theorem ShutdownInv.sendStep (inv : ShutdownInv state)
    (stepped : SendStep state thread (state.threads thread) choice after) : ShutdownInv after := by
  have locks := inv.locks.sendStep stepped
  generalize here : state.threads thread = phase at stepped
  cases stepped with
  | acquire frame purpose free =>
      refine inv.move locks (fun _ different => setPhase_of_ne _ _ _ different) id id ?_ ?_
      · rw [setPhase_self, here]
        intro disconnects
        cases purpose <;> split at disconnects <;> first
          | exact Or.inl disconnects
          | cases disconnects
      · rw [setPhase_self, here]
        intro _ past
        cases purpose <;> split at past <;> exact Or.inl past
  | accept frame sent purpose count =>
      refine inv.move locks (fun _ different => setPhase_of_ne _ _ _ different) id id ?_ ?_
      · rw [setPhase_self, here]
        intro disconnects
        cases purpose <;> split at disconnects <;> first
          | exact Or.inl disconnects
          | cases disconnects
      · rw [setPhase_self, here]
        intro _ past
        cases purpose <;> split at past <;> exact Or.inl past
  | fail frame sent purpose =>
      refine inv.move locks (fun _ different => setPhase_of_ne _ _ _ different) id id ?_ ?_
      · rw [setPhase_self]
        nofun
      · rw [setPhase_self, here]
        intro _ past
        cases purpose <;> exact Or.inl past
  | skip frame sent purpose =>
      refine inv.move locks (fun _ different => setPhase_of_ne _ _ _ different) id id ?_ ?_
      · rw [setPhase_self, here]
        intro disconnects
        rcases afterNothing_cases frame sent purpose with ⟨_, next⟩ | next
        · rw [next] at disconnects
          cases purpose <;> exact Or.inl disconnects
        · rw [next] at disconnects
          cases disconnects
      · rw [setPhase_self, here]
        intro _ past
        rcases afterNothing_cases frame sent purpose with ⟨_, next⟩ | next
        · rw [next] at past
          cases purpose <;> exact Or.inl past
        · rw [next] at past
          cases purpose <;> exact Or.inl past
  | release failed purpose =>
      refine inv.move locks (fun _ different => setPhase_of_ne _ _ _ different) id id ?_ ?_
      · rw [setPhase_self]
        cases purpose <;> cases failed <;> nofun
      · rw [setPhase_self, here]
        cases purpose with
        | request => cases failed <;> nofun
        | disconnect => exact fun _ _ => Or.inl rfl

theorem ShutdownInv.shutdownStep (inv : ShutdownInv state)
    (permitted : Cooperates state (.thread thread choice))
    (stepped : ShutdownStep state thread (state.threads thread) choice after) :
    ShutdownInv after := by
  have locks := inv.locks.shutdownStep stepped
  generalize here : state.threads thread = phase at stepped
  cases stepped with
  | again hardRemove free done =>
      refine inv.move locks (fun _ different => setPhase_of_ne _ _ _ different) id id ?_ ?_
      · rw [setPhase_self]
        nofun
      · exact fun _ _ => Or.inr done
  | begin hardRemove =>
      refine inv.move locks (fun _ different => setPhase_of_ne _ _ _ different) id id ?_ ?_
      · rw [setPhase_self]
        split <;> nofun
      · rw [setPhase_self]
        split <;> nofun
  | remove hardRemove outcome =>
      refine inv.move locks (fun _ different => setPhase_of_ne _ _ _ different) id id ?_ ?_
      · rw [setPhase_self]
        cases outcome <;> nofun
      · rw [setPhase_self]
        intro destructor past
        cases outcome with
        | removed | fileNotFound => cases past
        | failed =>
            subst destructor
            cases permitted.removes
  | terminate =>
      refine inv.move locks (fun _ different => setPhase_of_ne _ _ _ different) id (fun _ => rfl)
        (fun _ => Or.inr (permitted.reads (decide_eq_true here))) fun _ _ => Or.inr rfl
  | stopSocket =>
      refine inv.move locks (fun _ different => setPhase_of_ne _ _ _ different)
        (fun _ => Or.inr nofun) id ?_ ?_
      · exact fun _ => Or.inr (Or.inr nofun)
      · rw [here]
        exact fun _ _ => Or.inl rfl
  | closeSocket =>
      refine inv.move locks (fun _ different => setPhase_of_ne _ _ _ different)
        (fun _ => Or.inr nofun) id ?_ ?_
      · exact fun _ => Or.inr (Or.inr nofun)
      · rw [here]
        exact fun _ _ => Or.inl rfl
  | release =>
      refine inv.move locks (fun _ different => setPhase_of_ne _ _ _ different) id id ?_ ?_
      · rw [setPhase_self]
        cases thread <;> nofun
      · rw [here]
        exact fun _ _ => Or.inl rfl

theorem Phase.disconnects_holds (disconnects : phase.disconnects = true) :
    phase.holdsShutdownLock = true := by
  unfold Phase.disconnects at disconnects
  split at disconnects
  · rfl
  · rfl
  · cases disconnects

theorem Phase.pastTerminate_cases (past : phase.pastTerminate = true) :
    phase.holdsShutdownLock = true ∨ phase.leaving = true := by
  unfold Phase.pastTerminate at past
  split at past <;> first | exact Or.inl rfl | exact Or.inr rfl | cases past

theorem Phase.leaving_past (leaving : phase.leaving = true) : phase.pastTerminate = true := by
  unfold Phase.leaving at leaving
  split at leaving <;> first | rfl | cases leaving

theorem ShutdownInv.serves (inv : ShutdownInv state)
    (serves : Serves blockSize state after thread phase)
    (unsent : (state.threads thread).sendScope = false)
    (unshut : (state.threads thread).shutdownScope = false) : ShutdownInv after := by
  have reads : after.serverReads = state.serverReads :=
    serves.field Control.serverReads fun _ _ => rfl
  have socket : after.socket = state.socket := serves.field Control.socket fun _ _ => rfl
  have terminated : after.terminated = state.terminated :=
    serves.field Control.terminated fun _ _ => rfl
  refine inv.move (inv.locks.serves serves unsent unshut)
    (fun _ different => serves.threads_of_ne different) (by rw [reads, socket]; exact id)
    (by rw [terminated]; exact id) ?_ ?_
  · rw [serves.threads_self]
    intro disconnects
    exact absurd (serves.shutting.symm.trans (Phase.disconnects_holds disconnects)) (by decide)
  · rw [serves.threads_self]
    intro _ past
    rcases Phase.pastTerminate_cases past with holds | leaving
    · exact absurd (serves.shutting.symm.trans holds) (by decide)
    · exact Or.inl (Phase.leaving_past (serves.leaving leaving))

theorem ShutdownInv.notDisconnecting (inv : ShutdownInv state)
    (quiet : disconnecting state = false) (found : ThreadId) :
    (state.threads found).disconnects = false := by
  refine Bool.eq_false_iff.mpr fun disconnects => ?_
  have named := (inv.locks.shutdown found).mp (Phase.disconnects_holds disconnects)
  rw [disconnecting, named, Option.any_some, disconnects] at quiet
  cases quiet

theorem ShutdownInv.step (inv : ShutdownInv state) (action : DaemonAction)
    (permitted : Cooperates state action)
    (stepped : daemonNext blockSize state action = some after) : ShutdownInv after := by
  have locks := inv.locks.step stepped
  cases action with
  | thread thread choice =>
      rcases threadStep_cases blockSize state after thread choice stepped with
        ⟨_, sent⟩ | ⟨_, shut⟩ | ⟨unsent, unshut, phase, serves⟩
      · exact inv.sendStep (sendStep_of sent)
      · exact inv.shutdownStep permitted (shutdownStep_of shut)
      · exact inv.serves serves unsent unshut
  | serverStopsReading =>
      cases stepped
      refine ⟨locks, fun found disconnects => ?_, inv.terminated⟩
      rcases permitted.readsOn rfl with quiet | gone
      · exact absurd disconnects (Bool.eq_false_iff.mp (inv.notDisconnecting quiet found))
      · exact Or.inr gone
  | connectionReset =>
      obtain ⟨_, ⟨⟩⟩ := Option.ite_none_right_eq_some.mp stepped
      exact ⟨locks, fun _ _ => Or.inr nofun, inv.terminated⟩
  | responseCompleted index =>
      obtain ⟨response, _, rfl⟩ := Option.map_eq_some_iff.mp stepped
      exact ⟨locks, inv.reading, inv.terminated⟩
  | serverSends bytes =>
      obtain ⟨_, ⟨⟩⟩ := Option.ite_none_right_eq_some.mp stepped
      exact ⟨locks, inv.reading, inv.terminated⟩
  | diskCreated | serverStopsAnswering =>
      cases stepped
      exact ⟨locks, inv.reading, inv.terminated⟩

end

/-- In every run whose steps cooperate, `Shutdown` never waits for a blocked sender
and the destructor joins the worker only after the connection was ended. -/
theorem shutdown_not_stuck (blockSize : UInt32) (state : DaemonState)
    (path : Path (daemonNext blockSize) Cooperates .initial state) :
    ¬ ShutdownStuck state ∧ ¬ DisconnectStuck state ∧ ¬ JoinStuck state :=
  (path.invariant ShutdownInv shutdownInv_initial
    fun _ action _ permitted inv stepped => inv.step action permitted stepped).notStuck

/-- A caller's `Shutdown` with a patient server, which stops reading afterwards. -/
def cleanShutdownRun : List DaemonAction :=
  [.diskCreated,
    .thread (.caller 0) (.shutdown true),
    .thread (.caller 0) .proceed,
    .thread (.caller 0) (.removed .removed),
    .thread (.caller 0) .proceed,
    .thread (.caller 0) .proceed,
    .thread (.caller 0) (.accepted 28),
    .thread (.caller 0) .proceed,
    .thread (.caller 0) .proceed,
    .serverStopsReading,
    .thread (.caller 0) .proceed,
    .thread (.caller 0) .proceed]

theorem shutdown_not_stuck_clean : ∃ state,
    run (daemonNext 512) .initial cleanShutdownRun = some state ∧
      ¬ ShutdownStuck state ∧ ¬ DisconnectStuck state ∧ ¬ JoinStuck state := by
  have ran : (run (daemonNext 512) .initial cleanShutdownRun).isSome = true := by decide +kernel
  obtain ⟨last, reached⟩ := Option.isSome_iff_exists.mp ran
  exact ⟨last, reached, shutdown_not_stuck 512 last
    (path_of_run _ last cleanShutdownRun (by decide +kernel) reached)⟩

/-! ## The two ways to get stuck -/

section

variable {blockSize : UInt32} {state after : DaemonState}

/-- Nothing but a loss of the connection ends the wait. -/
theorem ShutdownStuck.stays (locks : LocksHeld state) (stuck : ShutdownStuck state)
    (action : DaemonAction) (kept : action ≠ .connectionReset)
    (stepped : daemonNext blockSize state action = some after) : ShutdownStuck after := by
  obtain ⟨caller, holder, waits, named, blocked⟩ := stuck
  obtain ⟨discFrame, waiting⟩ := (waitsToDisconnect_iff state caller).mp waits
  obtain ⟨⟨frame, sent, purpose, sending⟩, connected, silent⟩ :=
    (sendBlocked_iff state holder).mp blocked
  have holds : (state.threads caller).holdsShutdownLock = true := by
    rw [waiting]
    rfl
  have shutting : state.shutdownLock = some caller := (locks.shutdown caller).mp holds
  cases action with
  | thread thread choice =>
      rcases threadStep_cases blockSize state after thread choice stepped with
        ⟨_, send⟩ | ⟨_, shut⟩ | ⟨unsent, unshut, phase, serves⟩
      · have moved := sendStep_of send
        generalize here : state.threads thread = phase at moved
        cases moved with
        | acquire _ _ free =>
            rw [named] at free
            cases free
        | accept _ _ _ _ _ reads =>
            rw [silent] at reads
            cases reads
        | fail _ _ _ unblocked | skip _ _ _ unblocked =>
            rcases unblocked with gone | reads
            · exact absurd connected gone
            · rw [silent] at reads
              cases reads
        | release failed purpose =>
            have inside : (state.threads thread).holdsSendLock = true := by
              rw [here]
              rfl
            have held : (state.threads holder).holdsSendLock = true := by
              rw [sending]
              rfl
            have same : thread = holder := locks.send.unique inside held
            rw [same, sending] at here
            cases here
      · have moved := shutdownStep_of shut
        have own : (state.threads thread).holdsShutdownLock = true → thread = caller :=
          fun holds => Option.some.inj (((locks.shutdown thread).mp holds).symm.trans shutting)
        generalize here : state.threads thread = phase at moved own
        cases moved with
        | again _ free | begin _ free =>
            rw [shutting] at free
            cases free
        | remove | terminate | stopSocket | closeSocket | release =>
            rw [own rfl, waiting] at here
            cases here
      · have notCaller : caller ≠ thread := by
          rintro rfl
          rw [waiting] at unsent
          cases unsent
        have notHolder : holder ≠ thread := by
          rintro rfl
          rw [sending] at unsent
          cases unsent
        refine ⟨caller, holder, ?_, ?_, ?_⟩
        · rw [waitsToDisconnect, serves.threads_of_ne notCaller]
          exact waits
        · exact (serves.field Control.sendLock fun _ _ => rfl).trans named
        · refine (sendBlocked_iff after holder).mpr ⟨⟨frame, sent, purpose, ?_⟩, ?_, ?_⟩
          · rw [serves.threads_of_ne notHolder, sending]
          · exact (serves.field Control.socket fun _ _ => rfl).trans connected
          · exact (serves.field Control.serverReads fun _ _ => rfl).trans silent
  | connectionReset => exact absurd rfl kept
  | responseCompleted index =>
      obtain ⟨response, _, rfl⟩ := Option.map_eq_some_iff.mp stepped
      exact ⟨caller, holder, waits, named, blocked⟩
  | serverSends bytes =>
      obtain ⟨_, ⟨⟩⟩ := Option.ite_none_right_eq_some.mp stepped
      exact ⟨caller, holder, waits, named, blocked⟩
  | serverStopsReading =>
      cases stepped
      exact ⟨caller, holder, waits, named, (sendBlocked_iff _ holder).mpr
        ⟨⟨frame, sent, purpose, sending⟩, connected, rfl⟩⟩
  | diskCreated | serverStopsAnswering =>
      cases stepped
      exact ⟨caller, holder, waits, named, blocked⟩

end

/-- A dispatcher is inside a request frame when the server stops reading; then a
caller shuts the daemon down. -/
def blockedSenderRun : List DaemonAction :=
  [.diskCreated,
    .thread (.dispatcher 0) (.request (.read 1 0 1)),
    .thread (.dispatcher 0) .proceed,
    .thread (.dispatcher 0) (.accepted 4),
    .serverStopsReading,
    .thread (.caller 0) (.shutdown true),
    .thread (.caller 0) .proceed,
    .thread (.caller 0) (.removed .removed),
    .thread (.caller 0) .proceed]

/-- The destructor's removal fails while the worker waits for a silent server. -/
def abandonedWorkerRun : List DaemonAction :=
  [.diskCreated,
    .thread .worker .proceed,
    .thread .worker .proceed,
    .thread .worker .proceed,
    .serverStopsAnswering,
    .thread .destructor .destroy,
    .thread .destructor .proceed,
    .thread .destructor (.removed .failed),
    .thread .destructor .proceed,
    .thread .destructor .proceed]

/-- A `Shutdown` behind a blocked sender, and a destructor behind a worker with an open socket. -/
theorem shutdown_gets_stuck :
    (∃ state, run (daemonNext 512) .initial blockedSenderRun = some state ∧
        ShutdownStuck state) ∧
      ∃ state, run (daemonNext 512) .initial abandonedWorkerRun = some state ∧
        JoinStuck state ∧ receiveBlocked state .worker = true := by
  constructor
  · have ran : (run (daemonNext 512) .initial blockedSenderRun).isSome = true := by
      decide +kernel
    obtain ⟨last, reached⟩ := Option.isSome_iff_exists.mp ran
    refine ⟨last, reached, .caller 0, .dispatcher 0, ?_, ?_, ?_⟩
    · exact field_of_run (fun state => waitsToDisconnect state (.caller 0)) .initial last
        blockedSenderRun true reached (by decide +kernel)
    · exact field_of_run DaemonState.sendLock .initial last blockedSenderRun
        (some (.dispatcher 0)) reached (by decide +kernel)
    · exact field_of_run (fun state => sendBlocked state (.dispatcher 0)) .initial last
        blockedSenderRun true reached (by decide +kernel)
  · have ran : (run (daemonNext 512) .initial abandonedWorkerRun).isSome = true := by
      decide +kernel
    obtain ⟨last, reached⟩ := Option.isSome_iff_exists.mp ran
    have blocked : receiveBlocked last .worker = true :=
      field_of_run (fun state => receiveBlocked state .worker) .initial last abandonedWorkerRun
        true reached (by decide +kernel)
    refine ⟨last, reached, ⟨?_, ?_, ?_, ?_⟩, blocked⟩
    · exact field_of_run (fun state => state.threads .destructor) .initial last
        abandonedWorkerRun .joinWorker reached (by decide +kernel)
    · intro finished
      rw [receiveBlocked, finished] at blocked
      cases blocked
    · exact field_of_run DaemonState.terminated .initial last abandonedWorkerRun false reached
        (by decide +kernel)
    · exact field_of_run DaemonState.socket .initial last abandonedWorkerRun .connected reached
        (by decide +kernel)

end Wnbd.Nbd
