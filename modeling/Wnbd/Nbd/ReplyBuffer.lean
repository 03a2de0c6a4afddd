import Wnbd.Nbd.ThreadSteps

/-!
# One buffer and one OVERLAPPED for all replies

While a response is in flight the driver may still copy from `PreallocatedRBuff`.
The wait for its completion is skipped when `TerminateInProgress` rewrites
`ERROR_IO_PENDING`; then the next reply is received over the payload.
-/

set_option autoImplicit false

namespace Wnbd.Nbd

open DaemonState StepSystem

/-- The next step resets the event, receives into the buffer or submits a response. -/
def Phase.reusesReply : Phase → Bool
  | .createEvent | .resetEvent | .readPayload _ _ _ | .respond _ => true
  | _ => false

/-- The driver's copies are the payloads, and the worker leaves the buffer and the
OVERLAPPED alone while a response is in flight. -/
def ReplyBufferSafe (state : DaemonState) : Prop :=
  (∀ done ∈ state.delivered, done.copied = done.response.payload) ∧
    (state.inFlight ≠ [] → (state.threads .worker).reusesReply = false)

/-- The worker looks at the status of a response that is still pending. -/
def checksPending (state : DaemonState) : DaemonAction → Bool
  | .thread thread .proceed => decide (state.threads thread = .checkStatus errorIoPending)
  | _ => false

/-- A pending response is not waited for only if the worker is about to stop. -/
def AwaitsPending (state : DaemonState) (action : DaemonAction) : Prop :=
  checksPending state action = true → state.terminateInProgress = false ∨ state.terminated = true

instance (state : DaemonState) (action : DaemonAction) :
    Decidable (AwaitsPending state action) := by
  unfold AwaitsPending
  infer_instance

/-! ## The invariant -/

/-- Phases of `NbdReplyWorker` outside `Shutdown`. -/
def Phase.workerScope : Phase → Bool
  | .createEvent | .testTerminated | .resetEvent | .readHeader _ | .readPayload _ _ _
  | .respond _ | .checkStatus _ | .awaitResponse => true
  | _ => false

theorem Phase.workerScope_of_receiving (phase : Phase) (receives : phase.receiving = true) :
    phase.workerScope = true := by
  cases phase <;> first | rfl | cases receives

theorem Phase.workerScope_of_working (phase : Phase) (works : phase.working = true) :
    phase.workerScope = true := by
  cases phase <;> first | rfl | cases works

/-- The bytes the buffer must hold. -/
def Phase.loaded : Phase → Option (List UInt8)
  | .readPayload _ _ received => some received
  | .respond response => some response.payload
  | _ => none

/-- Phases a response may be in flight in. -/
def Phase.awaits (terminated : Bool) : Phase → Bool
  | .checkStatus status => decide (status = errorIoPending)
  | .awaitResponse | .finished => true
  | .testTerminated => terminated
  | _ => false

def Holds (state : DaemonState) (bytes : List UInt8) : Prop :=
  (List.range bytes.length).map state.preallocatedRBuff = bytes

structure BufferInv (state : DaemonState) : Prop where
  roles : ∀ thread, (state.threads thread).workerScope = true → thread = .worker
  delivered : ∀ done ∈ state.delivered, done.copied = done.response.payload
  loaded : ∀ bytes, (state.threads .worker).loaded = some bytes → Holds state bytes
  flying : state.inFlight = [] ∨ ∃ response, state.inFlight = [response] ∧
    Holds state response.payload ∧ state.overlappedEvent = false ∧
    (state.threads .worker).awaits state.terminated = true

theorem bufferInv_initial : BufferInv .initial where
  roles thread inside := by
    cases thread with
    | worker => rfl
    | dispatcher | caller | destructor => cases inside
  delivered _ member := by cases member
  loaded _ here := by cases here
  flying := Or.inl rfl

theorem BufferInv.safe {state : DaemonState} (inv : BufferInv state) : ReplyBufferSafe state := by
  refine ⟨inv.delivered, fun busy => ?_⟩
  rcases inv.flying with none | ⟨_, _, _, _, awaits⟩
  · exact absurd none busy
  · generalize state.threads .worker = phase at awaits
    cases phase <;> first | rfl | cases awaits

/-- The fields the worker and the driver share. -/
structure ReplyFields where
  preallocatedRBuff : Nat → UInt8
  overlappedEvent : Bool
  inFlight : List SubmittedResponse
  delivered : List DeliveredResponse

def DaemonState.replyFields (state : DaemonState) : ReplyFields :=
  { preallocatedRBuff := state.preallocatedRBuff
    overlappedEvent := state.overlappedEvent
    inFlight := state.inFlight
    delivered := state.delivered }

section

variable {blockSize : UInt32} {state after base : DaemonState} {thread : ThreadId} {phase : Phase}
  {choice : Choice}

/-- A step outside the reply worker's own code. -/
structure Elsewhere (state after : DaemonState) (thread : ThreadId) : Prop where
  fields : after.replyFields = state.replyFields
  others : ∀ other, other ≠ thread → after.threads other = state.threads other
  outside : (after.threads thread).workerScope = false
  terminated : state.terminated = true → after.terminated = true

theorem elsewhere_setPhase (base : DaemonState) (fields : base.replyFields = state.replyFields)
    (threads : base.threads = state.threads) (outside : phase.workerScope = false)
    (terminated : state.terminated = true → base.terminated = true) :
    Elsewhere state (base.setPhase thread phase) thread where
  fields := fields
  others other different := by rw [setPhase_of_ne base thread phase different, threads]
  outside := by rw [setPhase_self, outside]
  terminated := terminated

theorem SendStep.elsewhere (stepped : SendStep state thread phase choice after) :
    Elsewhere state after thread := by
  cases stepped with
  | acquire =>
      refine elsewhere_setPhase _ rfl rfl ?_ id
      split <;> rfl
  | accept =>
      refine elsewhere_setPhase _ rfl rfl ?_ id
      split <;> rfl
  | fail => exact elsewhere_setPhase _ rfl rfl rfl id
  | skip frame sent purpose =>
      refine elsewhere_setPhase _ rfl rfl ?_ id
      rcases afterNothing_cases frame sent purpose with ⟨_, next⟩ | next
      · rw [next]
        rfl
      · rw [next]
        rfl
  | release failed purpose =>
      refine elsewhere_setPhase _ rfl rfl ?_ id
      cases purpose <;> cases failed <;> rfl

theorem ShutdownStep.elsewhere (stepped : ShutdownStep state thread phase choice after) :
    Elsewhere state after thread := by
  cases stepped with
  | again | stopSocket | closeSocket => exact elsewhere_setPhase _ rfl rfl rfl id
  | begin =>
      refine elsewhere_setPhase _ rfl rfl ?_ id
      split <;> rfl
  | remove hardRemove outcome =>
      refine elsewhere_setPhase _ rfl rfl ?_ id
      cases outcome <;> rfl
  | terminate =>
      refine elsewhere_setPhase _ rfl rfl ?_ fun _ => rfl
      split_ifs <;> rfl
  | release =>
      refine elsewhere_setPhase _ rfl rfl ?_ id
      cases thread <;> rfl

theorem beginStep_elsewhere (stepped : beginStep blockSize state thread choice = some after) :
    Elsewhere state after thread := by
  cases choice with
  | request call =>
      cases thread with
      | dispatcher index =>
          obtain ⟨_, ⟨⟩⟩ := Option.ite_none_right_eq_some.mp stepped
          exact elsewhere_setPhase _ rfl rfl rfl id
      | _ => cases stepped
  | shutdown hardRemove =>
      cases thread with
      | caller index =>
          cases stepped
          exact elsewhere_setPhase _ rfl rfl rfl id
      | _ => cases stepped
  | destroy =>
      obtain ⟨_, ⟨⟩⟩ := Option.ite_none_right_eq_some.mp stepped
      exact elsewhere_setPhase _ rfl rfl rfl id
  | _ => cases stepped

theorem destructorStep_elsewhere (stepped : destructorStep state thread phase choice = some after) :
    Elsewhere state after thread := by
  cases phase with
  | waitDispatchers =>
      cases choice with
      | proceed =>
          cases stepped
          exact elsewhere_setPhase _ rfl rfl rfl id
      | _ => cases stepped
  | joinWorker =>
      cases choice with
      | proceed =>
          obtain ⟨_, ⟨⟩⟩ := Option.ite_none_right_eq_some.mp stepped
          exact elsewhere_setPhase _ rfl rfl rfl id
      | _ => cases stepped
  | _ => cases stepped

theorem threadStep_worker (stepped : threadStep blockSize state thread choice = some after) :
    Elsewhere state after thread ∧ (state.threads thread).workerScope = false ∧
        state.threads thread ≠ .finished ∨
      (state.threads thread).workerScope = true ∧
        (receiveStep state thread (state.threads thread) choice = some after ∨
          workerStep state thread (state.threads thread) choice = some after) := by
  generalize here : state.threads thread = phase
  cases threadStep_of _ _ _ _ _ _ here stepped with
  | begins begun => exact Or.inl ⟨beginStep_elsewhere begun, rfl, nofun⟩
  | sends _ inScope stepped =>
      have step := (sendStep_of stepped).elsewhere
      cases phase with
      | lockSend | send | unlockSend => exact Or.inl ⟨step, rfl, nofun⟩
      | _ => cases inScope
  | shuts _ inScope stepped =>
      have step := (shutdownStep_of stepped).elsewhere
      cases phase with
      | lockShutdown | remove | terminate | stopSocket | closeSocket | unlockShutdown =>
          exact Or.inl ⟨step, rfl, nofun⟩
      | _ => cases inScope
  | receives _ inScope stepped =>
      exact Or.inr ⟨Phase.workerScope_of_receiving _ inScope, Or.inl stepped⟩
  | works _ inScope stepped =>
      exact Or.inr ⟨Phase.workerScope_of_working _ inScope, Or.inr stepped⟩
  | leaves _ inScope stepped =>
      have step := destructorStep_elsewhere stepped
      cases phase with
      | waitDispatchers | joinWorker => exact Or.inl ⟨step, rfl, nofun⟩
      | _ => cases inScope

theorem Holds.of_fields {bytes : List UInt8} (holds : Holds state bytes)
    (same : after.preallocatedRBuff = state.preallocatedRBuff) : Holds after bytes := by
  unfold Holds at holds ⊢
  rw [same, holds]

theorem Phase.awaits_mono {first second : Bool} (later : first = true → second = true)
    (waits : phase.awaits first = true) : phase.awaits second = true := by
  cases phase with
  | testTerminated => exact later waits
  | _ => exact waits

theorem Phase.loaded_outside (outside : phase.workerScope = false) : phase.loaded = none := by
  cases phase <;> first | rfl | cases outside

theorem Phase.awaits_outside {terminated : Bool} (outside : phase.workerScope = false)
    (running : phase ≠ .finished) : phase.awaits terminated = false := by
  cases phase <;> first | rfl | exact absurd rfl running | cases outside

theorem BufferInv.elsewhere (inv : BufferInv state) (elsewhere : Elsewhere state after thread)
    (outside : (state.threads thread).workerScope = false)
    (running : state.threads thread ≠ .finished) : BufferInv after := by
  have buffer := congrArg ReplyFields.preallocatedRBuff elsewhere.fields
  have event := congrArg ReplyFields.overlappedEvent elsewhere.fields
  have flight := congrArg ReplyFields.inFlight elsewhere.fields
  have delivered := congrArg ReplyFields.delivered elsewhere.fields
  dsimp only [replyFields] at buffer event flight delivered
  refine ⟨?_, by rw [delivered]; exact inv.delivered, ?_, ?_⟩
  · intro found inside
    by_cases own : found = thread
    · rw [own, elsewhere.outside] at inside
      cases inside
    · rw [elsewhere.others found own] at inside
      exact inv.roles found inside
  · intro bytes loaded
    by_cases own : ThreadId.worker = thread
    · rw [own, Phase.loaded_outside elsewhere.outside] at loaded
      cases loaded
    · rw [elsewhere.others .worker own] at loaded
      exact (inv.loaded bytes loaded).of_fields buffer
  · rw [flight]
    refine inv.flying.imp id ?_
    rintro ⟨response, alone, holds, unset, waits⟩
    by_cases own : ThreadId.worker = thread
    · rw [own, Phase.awaits_outside outside running] at waits
      cases waits
    · refine ⟨response, alone, holds.of_fields buffer, by rw [event, unset], ?_⟩
      rw [elsewhere.others .worker own]
      exact Phase.awaits_mono elsewhere.terminated waits

/-! ## The worker's own steps -/

theorem BufferInv.landed (inv : BufferInv state)
    (resting : (state.threads .worker).awaits state.terminated = false) : state.inFlight = [] := by
  rcases inv.flying with none | ⟨_, _, _, _, waits⟩
  · exact none
  · rw [resting] at waits
    cases waits

theorem BufferInv.rest (inv : BufferInv state) (base : DaemonState) (phase : Phase)
    (threads : base.threads = state.threads)
    (delivered : ∀ done ∈ base.delivered, done.copied = done.response.payload)
    (landed : base.inFlight = [])
    (loaded : ∀ bytes, phase.loaded = some bytes → Holds base bytes) :
    BufferInv (base.setPhase .worker phase) where
  roles found inside := by
    by_cases own : found = .worker
    · exact own
    · rw [setPhase_of_ne _ _ _ own, threads] at inside
      exact inv.roles found inside
  delivered := delivered
  loaded bytes here := by
    rw [setPhase_self] at here
    exact loaded bytes here
  flying := Or.inl landed

theorem BufferInv.wait (inv : BufferInv state) (phase : Phase) (empty : phase.loaded = none)
    (waits : (state.threads .worker).awaits state.terminated = true →
      phase.awaits state.terminated = true) : BufferInv (state.setPhase .worker phase) where
  roles found inside := by
    by_cases own : found = .worker
    · exact own
    · rw [setPhase_of_ne _ _ _ own] at inside
      exact inv.roles found inside
  delivered := inv.delivered
  loaded bytes here := by
    rw [setPhase_self, empty] at here
    cases here
  flying := inv.flying.imp id fun ⟨response, alone, holds, unset, before⟩ =>
    ⟨response, alone, holds, unset, by rw [setPhase_self]; exact waits before⟩

theorem holds_nil (state : DaemonState) : Holds state [] := rfl

theorem Holds.fill {bytes : List UInt8} (holds : Holds state bytes) (piece : List UInt8) :
    Holds (state.fillBuffer bytes.length piece) (bytes ++ piece) := by
  unfold Holds at holds ⊢
  rw [List.length_append, List.range_add, List.map_append, List.map_map]
  congr 1
  · refine (List.map_congr_left fun position inside => ?_).trans holds
    have below := List.mem_range.mp inside
    exact if_neg (Nat.not_le.mpr below)
  · refine List.ext_getElem (by simp) fun index _ inside => ?_
    rw [List.getElem_map, List.getElem_range, Function.comp_apply]
    simp only [fillBuffer]
    rw [if_pos (Nat.le_add_right _ _), Nat.add_sub_cancel_left, List.getElem?_eq_getElem inside]
    rfl

theorem received_fields (missing count : Nat) (piece : List UInt8)
    (arrived : received state missing count = some (piece, base)) :
    base.delivered = state.delivered ∧ base.inFlight = state.inFlight ∧
      base.preallocatedRBuff = state.preallocatedRBuff ∧ base.threads = state.threads := by
  unfold received at arrived
  obtain ⟨_, same⟩ := Option.ite_none_right_eq_some.mp arrived
  cases same
  exact ⟨rfl, rfl, rfl, rfl⟩

theorem BufferInv.demultiplex (inv : BufferInv state) (landed : state.inFlight = [])
    (header : List UInt8) : BufferInv (demultiplex state .worker header) := by
  unfold Nbd.demultiplex
  split
  · exact inv.rest _ _ rfl inv.delivered landed nofun
  · dsimp only
    split
    · refine inv.rest _ _ rfl inv.delivered landed fun bytes loaded => ?_
      split at loaded <;> cases loaded <;> exact holds_nil _
    · exact inv.rest _ _ rfl inv.delivered landed nofun

theorem BufferInv.receiveStep (inv : BufferInv state)
    (stepped : receiveStep state .worker (state.threads .worker) choice = some after) :
    BufferInv after := by
  generalize here : state.threads .worker = phase at stepped
  have landed : phase.awaits state.terminated = false → state.inFlight = [] := fun resting =>
    inv.landed (by rw [here, resting])
  cases receiveStep_of stepped with
  | header bytes piece count base arrived =>
      obtain ⟨delivered, flight, buffer, threads⟩ := received_fields _ _ _ arrived
      refine inv.rest base _ threads ?_ ?_ nofun
      · rw [delivered]
        exact inv.delivered
      · rw [flight]
        exact landed rfl
  | demultiplex bytes => exact inv.demultiplex (landed rfl) _
  | payload request command bytes piece count base arrived =>
      obtain ⟨delivered, flight, buffer, threads⟩ := received_fields _ _ _ arrived
      have holds : Holds base bytes := (inv.loaded bytes (by rw [here]; rfl)).of_fields buffer
      refine inv.rest (base.fillBuffer bytes.length piece) _ threads ?_ ?_ ?_
      · intro done member
        exact inv.delivered done (delivered ▸ member)
      · exact flight.trans (landed rfl)
      · intro loadedBytes loaded
        split at loaded <;> cases loaded <;> exact holds.fill piece
  | headerFails | payloadFails => exact inv.rest _ _ rfl inv.delivered (landed rfl) nofun

theorem BufferInv.submit (inv : BufferInv state) (response : SubmittedResponse)
    (outcome : SubmitOutcome) (landed : state.inFlight = [])
    (holds : Holds state response.payload)
    (stepped : submitStep state .worker response outcome = some after) : BufferInv after := by
  unfold submitStep at stepped
  cases outcome with
  | completed =>
      cases stepped
      refine inv.rest (state.deliver response) _ rfl ?_ landed nofun
      intro done member
      rcases List.mem_append.mp member with old | new
      · exact inv.delivered done old
      · rw [List.mem_singleton.mp new]
        exact holds
  | pending =>
      cases stepped
      constructor
      · intro found inside
        by_cases own : found = .worker
        · exact own
        · rw [setPhase_of_ne _ _ _ own] at inside
          exact inv.roles found inside
      · exact inv.delivered
      · intro bytes loaded
        rw [setPhase_self] at loaded
        cases loaded
      · refine Or.inr ⟨response, ?_, holds, rfl, by rw [setPhase_self]; rfl⟩
        change state.inFlight ++ [response] = [response]
        rw [landed, List.nil_append]
  | failed status =>
      obtain ⟨_, ⟨⟩⟩ := Option.ite_none_right_eq_some.mp stepped
      exact inv.rest state _ rfl inv.delivered landed nofun

theorem checkStatusStep_loaded (status : UInt32) :
    (checkStatusStep state status).loaded = none := by
  unfold checkStatusStep
  dsimp only
  split_ifs <;> rfl

/-- A pending response is waited for, or the worker stops. -/
theorem checkStatusStep_awaits
    (permitted : state.terminateInProgress = false ∨ state.terminated = true) :
    (checkStatusStep state errorIoPending).awaits state.terminated = true := by
  unfold checkStatusStep
  dsimp only
  by_cases rewritten : errorIoPending ≠ 0 ∧ state.terminateInProgress = true
  · rw [if_pos rewritten, if_neg (by decide), if_neg (by decide)]
    rcases permitted with running | done
    · rw [running] at rewritten
      cases rewritten.2
    · exact done
  · rw [if_neg rewritten, if_pos rfl]
    rfl

theorem BufferInv.workerStep (inv : BufferInv state)
    (permitted : choice = .proceed → state.threads .worker = .checkStatus errorIoPending →
      state.terminateInProgress = false ∨ state.terminated = true)
    (stepped : workerStep state .worker (state.threads .worker) choice = some after) :
    BufferInv after := by
  generalize here : state.threads .worker = phase at stepped permitted
  have landed : phase.awaits state.terminated = false → state.inFlight = [] := fun resting =>
    inv.landed (by rw [here, resting])
  cases workerStep_of stepped with
  | create | createFails | reset | resetFails =>
      exact inv.rest _ _ rfl inv.delivered (landed rfl) nofun
  | test =>
      refine inv.wait _ (by split <;> rfl) fun waits => ?_
      rw [here] at waits
      have done : state.terminated = true := waits
      rw [if_pos done]
      rfl
  | submit response outcome _ submitted =>
      exact inv.submit response outcome (landed rfl) (inv.loaded _ (by rw [here]; rfl)) submitted
  | check status =>
      refine inv.wait _ (checkStatusStep_loaded status) fun waits => ?_
      rw [here] at waits
      have pending : status = errorIoPending := of_decide_eq_true waits
      subst pending
      exact checkStatusStep_awaits (permitted rfl rfl)
  | wake signaled | wakeFails signaled =>
      refine inv.rest state _ rfl inv.delivered ?_ nofun
      rcases inv.flying with none | ⟨_, _, _, unset, _⟩
      · exact none
      · rw [unset] at signaled
        cases signaled

theorem BufferInv.complete (inv : BufferInv state) (index : Nat) (response : SubmittedResponse)
    (found : state.inFlight[index]? = some response) :
    BufferInv { state.deliver response with inFlight := state.inFlight.eraseIdx index } := by
  rcases inv.flying with none | ⟨only, alone, holds, _, _⟩
  · rw [none] at found
    cases found
  · rw [alone] at found
    cases index with
    | succ index => cases found
    | zero =>
        cases found
        refine ⟨inv.roles, ?_, fun bytes loaded => inv.loaded bytes loaded, Or.inl ?_⟩
        · intro done member
          rcases List.mem_append.mp member with old | new
          · exact inv.delivered done old
          · rw [List.mem_singleton.mp new]
            exact holds
        · change state.inFlight.eraseIdx 0 = []
          rw [alone]
          rfl

theorem BufferInv.step (inv : BufferInv state) (action : DaemonAction)
    (permitted : AwaitsPending state action)
    (stepped : daemonNext blockSize state action = some after) : BufferInv after := by
  cases action with
  | thread thread choice =>
      rcases threadStep_worker stepped with ⟨elsewhere, outside, running⟩ | ⟨inside, own⟩
      · exact inv.elsewhere elsewhere outside running
      · have worker := inv.roles thread inside
        subst worker
        rcases own with received | worked
        · exact inv.receiveStep received
        · refine inv.workerStep (fun goesOn here => ?_) worked
          subst goesOn
          exact permitted (decide_eq_true here)
  | responseCompleted index =>
      obtain ⟨response, found, rfl⟩ := Option.map_eq_some_iff.mp stepped
      exact inv.complete index response found
  | serverSends bytes | connectionReset =>
      obtain ⟨_, ⟨⟩⟩ := Option.ite_none_right_eq_some.mp stepped
      exact ⟨inv.roles, inv.delivered, inv.loaded, inv.flying⟩
  | diskCreated | serverStopsReading | serverStopsAnswering =>
      cases stepped
      exact ⟨inv.roles, inv.delivered, inv.loaded, inv.flying⟩

end

/-- In every run that waits for pending responses or stops, the driver copies what
the server sent for each response. -/
theorem reply_buffer_not_reused (blockSize : UInt32) (state : DaemonState)
    (path : Path (daemonNext blockSize) AwaitsPending .initial state) : ReplyBufferSafe state :=
  (path.invariant BufferInv bufferInv_initial
    fun _ action _ permitted inv stepped => inv.step action permitted stepped).safe

/-- A successful reply header. -/
def replyHeader (handle : UInt64) : List UInt8 :=
  BigEndian.toBytes 4 nbdReplyMagic.toNat ++ BigEndian.toBytes 4 0 ++ hostBytes handle

/-- Dispatcher 0 sends a read of one block. -/
def sendReadRun (handle : UInt64) : List DaemonAction :=
  [.thread (.dispatcher 0) (.request (.read handle 0 1)),
    .thread (.dispatcher 0) .proceed,
    .thread (.dispatcher 0) (.accepted 28),
    .thread (.dispatcher 0) .proceed]

/-- The worker goes around its loop and receives a block of equal bytes. -/
def receiveBlockRun (handle : UInt64) (byte : UInt8) : List DaemonAction :=
  [.thread .worker .proceed,
    .thread .worker .proceed,
    .serverSends (replyHeader handle ++ List.replicate 512 byte),
    .thread .worker (.received 16),
    .thread .worker .proceed,
    .thread .worker (.received 512)]

/-- The first response is pending while a caller's removal has failed, so the second
block is received over the first one. -/
def overwrittenReplyRun : List DaemonAction :=
  [.diskCreated, .thread .worker .proceed] ++ sendReadRun 1 ++ sendReadRun 2 ++
    [.thread (.caller 0) (.shutdown true),
      .thread (.caller 0) .proceed,
      .thread (.caller 0) (.removed .failed),
      .thread (.caller 0) .proceed] ++
    receiveBlockRun 1 1 ++
    [.thread .worker (.submitted .pending), .thread .worker .proceed] ++
    receiveBlockRun 2 2 ++
    [.responseCompleted 0]

/-- Both responses are pending, and each is waited for. -/
def awaitedRepliesRun : List DaemonAction :=
  [.diskCreated, .thread .worker .proceed] ++ sendReadRun 1 ++ sendReadRun 2 ++
    receiveBlockRun 1 1 ++
    [.thread .worker (.submitted .pending), .thread .worker .proceed, .responseCompleted 0,
      .thread .worker .proceed] ++
    receiveBlockRun 2 2 ++
    [.thread .worker (.submitted .pending), .thread .worker .proceed, .responseCompleted 0]

theorem reply_buffer_awaited : ∃ state,
    run (daemonNext 512) .initial awaitedRepliesRun = some state ∧
      state.delivered.length = 2 ∧ ReplyBufferSafe state := by
  have ran : (run (daemonNext 512) .initial awaitedRepliesRun).map
      (fun state => state.delivered.length) = some 2 := by
    decide +kernel
  obtain ⟨last, reached, both⟩ := Option.map_eq_some_iff.mp ran
  exact ⟨last, reached, both, reply_buffer_not_reused 512 last
    (path_of_run _ last awaitedRepliesRun (by decide +kernel) reached)⟩

/-- The first bytes of what the driver copied and of what the server had sent. -/
def firstBytes (state : DaemonState) : List (Option UInt8 × Option UInt8) :=
  state.delivered.map fun done => (done.copied.head?, done.response.payload.head?)

/-- The next reply is received while the driver has not copied the one before. -/
theorem pending_reply_overwritten : ¬ ∀ (blockSize : UInt32) (actions : List DaemonAction)
    (state : DaemonState), run (daemonNext blockSize) .initial actions = some state →
      ReplyBufferSafe state := by
  intro safe
  have ran : (run (daemonNext 512) .initial overwrittenReplyRun).map firstBytes =
      some [(some 2, some 1)] := by
    decide +kernel
  obtain ⟨last, reached, delivered⟩ := Option.map_eq_some_iff.mp ran
  obtain ⟨copied, _⟩ := safe 512 overwrittenReplyRun last reached
  have inside : (some 2, some 1) ∈ firstBytes last := by
    rw [delivered]
    exact List.mem_singleton.mpr rfl
  obtain ⟨done, member, same⟩ := List.mem_map.mp inside
  obtain ⟨copies, payloads⟩ := Prod.mk.inj same
  have wrong : done.copied.head? = done.response.payload.head? := by rw [copied done member]
  rw [copies, payloads] at wrong
  exact absurd wrong (by decide)

end Wnbd.Nbd
