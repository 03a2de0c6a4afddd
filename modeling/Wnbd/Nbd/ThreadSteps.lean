import Wnbd.Nbd.Threads
import Wnbd.Foundation.Mutex

/-!
# What a step of the daemon leaves alone

The two locks are held in known phases.  Steps outside their scopes change the
phase of one thread and nothing that the sender and the shutdown path read.
-/

set_option autoImplicit false

namespace Wnbd.Nbd

open Wnbd.Dispatch DaemonState Mutex

namespace Phase

def holdsSendLock : Phase → Bool
  | .send _ _ _ | .unlockSend _ _ => true
  | _ => false

def holdsShutdownLock : Phase → Bool
  | .remove _ | .terminate | .stopSocket | .closeSocket | .unlockShutdown
  | .lockSend _ .disconnect | .send _ _ .disconnect | .unlockSend _ .disconnect => true
  | _ => false

/-- Phases of the destructor behind its `Shutdown`. -/
def leaving : Phase → Bool
  | .waitDispatchers | .joinWorker => true
  | _ => false

def sendScope : Phase → Bool
  | .lockSend _ _ | .send _ _ _ | .unlockSend _ _ => true
  | _ => false

def shutdownScope : Phase → Bool
  | .lockShutdown _ | .remove _ | .terminate | .stopSocket | .closeSocket | .unlockShutdown => true
  | _ => false

def receiving : Phase → Bool
  | .readHeader _ | .readPayload _ _ _ => true
  | _ => false

/-- The worker's loop outside its two receive calls. -/
def working : Phase → Bool
  | .createEvent | .testTerminated | .resetEvent | .respond _ | .checkStatus _
  | .awaitResponse => true
  | _ => false

theorem sendScope_of_holds (phase : Phase) (holds : phase.holdsSendLock = true) :
    phase.sendScope = true := by
  cases phase <;> first | rfl | cases holds

theorem scope_of_holdsShutdownLock (phase : Phase) (holds : phase.holdsShutdownLock = true) :
    phase.sendScope = true ∨ phase.shutdownScope = true := by
  cases phase <;> first | exact Or.inl rfl | exact Or.inr rfl | cases holds

end Phase

/-! ## What a step of the worker can do -/

/-- The receiving side of the worker's loop. -/
inductive ReceiveStep (state : DaemonState) (thread : ThreadId) :
    Phase → Choice → DaemonState → Prop
  | header (bytes piece : List UInt8) (count : Nat) (base : DaemonState)
      (arrived : received state (nbdReplySize - bytes.length) count = some (piece, base)) :
      ReceiveStep state thread (.readHeader bytes) (.received count)
        (base.setPhase thread (.readHeader (bytes ++ piece)))
  | demultiplex (bytes : List UInt8) (full : bytes.length = nbdReplySize) :
      ReceiveStep state thread (.readHeader bytes) .proceed (demultiplex state thread bytes)
  | payload (request : PendingRequestInfo) (command : SendRspCommand) (bytes piece : List UInt8)
      (count : Nat) (base : DaemonState)
      (arrived : received state (request.length.toNat - bytes.length) count = some (piece, base)) :
      ReceiveStep state thread (.readPayload request command bytes) (.received count)
        ((base.fillBuffer bytes.length piece).setPhase thread
          (if bytes.length + count = request.length.toNat then
            .respond ⟨request.requestType, command, bytes ++ piece⟩
          else .readPayload request command (bytes ++ piece)))
  | headerFails (bytes : List UInt8) :
      ReceiveStep state thread (.readHeader bytes) .receiveFailed
        (state.setPhase thread (.lockShutdown true))
  | payloadFails (request : PendingRequestInfo) (command : SendRspCommand)
      (bytes : List UInt8) :
      ReceiveStep state thread (.readPayload request command bytes) .receiveFailed
        (state.setPhase thread (.lockShutdown true))

/-- The rest of the worker's loop. -/
inductive WorkerStep (state : DaemonState) (thread : ThreadId) :
    Phase → Choice → DaemonState → Prop
  | create :
      WorkerStep state thread .createEvent .proceed
        ({ state with overlappedEvent := true }.setPhase thread .testTerminated)
  | createFails :
      WorkerStep state thread .createEvent .failed (state.setPhase thread (.lockShutdown true))
  | test :
      WorkerStep state thread .testTerminated .proceed
        (state.setPhase thread (if state.terminated then .finished else .resetEvent))
  | reset :
      WorkerStep state thread .resetEvent .proceed
        ({ state with overlappedEvent := false }.setPhase thread (.readHeader []))
  | resetFails :
      WorkerStep state thread .resetEvent .failed (state.setPhase thread (.lockShutdown true))
  | submit (response : SubmittedResponse) (outcome : SubmitOutcome) (after : DaemonState)
      (submitted : submitStep state thread response outcome = some after) :
      WorkerStep state thread (.respond response) (.submitted outcome) after
  | check (status : UInt32) :
      WorkerStep state thread (.checkStatus status) .proceed
        (state.setPhase thread (checkStatusStep state status))
  | wake (signaled : state.overlappedEvent = true) :
      WorkerStep state thread .awaitResponse .proceed (state.setPhase thread .testTerminated)
  | wakeFails (signaled : state.overlappedEvent = true) :
      WorkerStep state thread .awaitResponse .failed
        (state.setPhase thread (.lockShutdown true))

section

variable {state after : DaemonState} {thread : ThreadId} {phase : Phase} {choice : Choice}

theorem receiveStep_of (stepped : receiveStep state thread phase choice = some after) :
    ReceiveStep state thread phase choice after := by
  cases phase with
  | readHeader bytes =>
      cases choice with
      | received count =>
          obtain ⟨⟨piece, base⟩, arrived, rfl⟩ := Option.map_eq_some_iff.mp stepped
          exact .header bytes piece count base arrived
      | proceed =>
          obtain ⟨full, ⟨⟩⟩ := Option.ite_none_right_eq_some.mp stepped
          exact .demultiplex bytes full
      | receiveFailed =>
          obtain ⟨_, ⟨⟩⟩ := Option.ite_none_right_eq_some.mp stepped
          exact .headerFails bytes
      | _ => cases stepped
  | readPayload request command bytes =>
      cases choice with
      | received count =>
          obtain ⟨⟨piece, base⟩, arrived, rfl⟩ := Option.map_eq_some_iff.mp stepped
          exact .payload request command bytes piece count base arrived
      | receiveFailed =>
          obtain ⟨_, ⟨⟩⟩ := Option.ite_none_right_eq_some.mp stepped
          exact .payloadFails request command bytes
      | _ => cases stepped
  | _ => cases stepped

theorem workerStep_of (stepped : workerStep state thread phase choice = some after) :
    WorkerStep state thread phase choice after := by
  cases phase with
  | createEvent | resetEvent =>
      cases choice with
      | proceed | failed =>
          cases stepped
          constructor
      | _ => cases stepped
  | testTerminated | checkStatus status =>
      cases choice with
      | proceed =>
          cases stepped
          constructor
      | _ => cases stepped
  | respond response =>
      cases choice with
      | submitted outcome => exact .submit response outcome after stepped
      | _ => cases stepped
  | awaitResponse =>
      cases choice with
      | proceed =>
          obtain ⟨signaled, ⟨⟩⟩ := Option.ite_none_right_eq_some.mp stepped
          exact .wake signaled
      | failed =>
          obtain ⟨signaled, ⟨⟩⟩ := Option.ite_none_right_eq_some.mp stepped
          exact .wakeFails signaled
      | _ => cases stepped
  | _ => cases stepped

end

/-! ## Steps outside both scopes -/

/-- The fields the sender and the shutdown path read or write. -/
structure Control where
  nbdTransmissionStarted : Bool
  terminated : Bool
  terminateInProgress : Bool
  shutdownLock : Option ThreadId
  sendLock : Option ThreadId
  threads : ThreadId → Phase
  socket : SocketState
  serverReads : Bool
  accepted : List UInt8
  issued : List (List UInt8)
  cut : Option Nat

def DaemonState.control (state : DaemonState) : Control :=
  { nbdTransmissionStarted := state.nbdTransmissionStarted
    terminated := state.terminated
    terminateInProgress := state.terminateInProgress
    shutdownLock := state.shutdownLock
    sendLock := state.sendLock
    threads := state.threads
    socket := state.socket
    serverReads := state.serverReads
    accepted := state.accepted
    issued := state.issued
    cut := state.cut }

/-- A step outside both scopes: the thread goes on to `phase`. -/
structure Serves (blockSize : UInt32) (state after : DaemonState) (thread : ThreadId)
    (phase : Phase) : Prop where
  control : ∃ base : DaemonState, base.control = state.control ∧ after = base.setPhase thread phase
  sending : phase.holdsSendLock = false
  shutting : phase.holdsShutdownLock = false
  leaving : phase.leaving = true → (state.threads thread).leaving = true
  called : ∀ frame purpose, phase = .lockSend frame purpose →
    ∃ call : HandlerCall, frame = (call.sent blockSize).frame

namespace Serves

variable {blockSize : UInt32} {state after : DaemonState} {thread : ThreadId} {phase : Phase}

theorem threads_self (serves : Serves blockSize state after thread phase) :
    after.threads thread = phase := by
  obtain ⟨base, _, rfl⟩ := serves.control
  exact setPhase_self base thread phase

theorem threads_of_ne (serves : Serves blockSize state after thread phase) {other : ThreadId}
    (different : other ≠ thread) : after.threads other = state.threads other := by
  obtain ⟨base, same, rfl⟩ := serves.control
  have threads := congrArg Control.threads same
  dsimp only [DaemonState.control] at threads
  rw [setPhase_of_ne base thread phase different, threads]

theorem field {β : Type} (serves : Serves blockSize state after thread phase) (read : Control → β)
    (unread : ∀ control threads, read { control with threads } = read control) :
    read after.control = read state.control := by
  obtain ⟨base, same, rfl⟩ := serves.control
  rw [← same]
  exact unread base.control _

end Serves

section

variable (blockSize : UInt32) (state after : DaemonState) (thread : ThreadId) (choice : Choice)

theorem serves_setPhase (base : DaemonState) (phase : Phase) (same : base.control = state.control)
    (sending : phase.holdsSendLock = false) (shutting : phase.holdsShutdownLock = false)
    (leaving : phase.leaving = true → (state.threads thread).leaving = true)
    (called : ∀ frame purpose, phase = .lockSend frame purpose →
      ∃ call : HandlerCall, frame = (call.sent blockSize).frame) :
    Serves blockSize state (base.setPhase thread phase) thread phase :=
  ⟨⟨base, same, rfl⟩, sending, shutting, leaving, called⟩

theorem beginStep_serves (stepped : beginStep blockSize state thread choice = some after) :
    ∃ phase, Serves blockSize state after thread phase := by
  cases choice with
  | request call =>
      cases thread with
      | dispatcher index =>
          simp only [beginStep] at stepped
          split_ifs at stepped
          cases stepped
          refine ⟨_, serves_setPhase _ _ _ _ _ rfl rfl rfl (by simp [Phase.leaving]) ?_⟩
          intro frame purpose same
          cases same
          exact ⟨call, rfl⟩
      | caller index | worker | destructor => cases stepped
  | shutdown hardRemove =>
      cases thread with
      | caller index =>
          cases stepped
          exact ⟨_, serves_setPhase _ _ _ _ _ rfl rfl rfl (by simp [Phase.leaving]) nofun⟩
      | dispatcher index | worker | destructor => cases stepped
  | destroy =>
      simp only [beginStep] at stepped
      split_ifs at stepped
      cases stepped
      exact ⟨_, serves_setPhase _ _ _ _ _ rfl rfl rfl (by simp [Phase.leaving]) nofun⟩
  | _ => cases stepped

theorem received_control (missing count : Nat) (piece : List UInt8) (base : DaemonState)
    (arrived : received state missing count = some (piece, base)) :
    base.control = state.control := by
  unfold received at arrived
  split_ifs at arrived
  cases arrived
  rfl

theorem demultiplex_serves (header : List UInt8) :
    ∃ phase, Serves blockSize state (demultiplex state thread header) thread phase := by
  unfold demultiplex
  split
  · exact ⟨_, serves_setPhase _ _ _ _ _ rfl rfl rfl (by simp [Phase.leaving]) nofun⟩
  · dsimp only
    split
    · split_ifs
      · exact ⟨_, serves_setPhase _ _ _ _ _ rfl rfl rfl (by simp [Phase.leaving]) nofun⟩
      · exact ⟨_, serves_setPhase _ _ _ _ _ rfl rfl rfl (by simp [Phase.leaving]) nofun⟩
    · exact ⟨_, serves_setPhase _ _ _ _ _ rfl rfl rfl (by simp [Phase.leaving]) nofun⟩

theorem receiveStep_serves (phase : Phase)
    (stepped : receiveStep state thread phase choice = some after) :
    ∃ phase, Serves blockSize state after thread phase := by
  cases receiveStep_of stepped with
  | header bytes piece count base arrived =>
      exact ⟨_, serves_setPhase _ _ _ _ _ (received_control _ _ _ _ _ arrived) rfl rfl
        (by simp [Phase.leaving]) nofun⟩
  | demultiplex bytes => exact demultiplex_serves _ _ _ _
  | payload request command bytes piece count base arrived =>
      have same := received_control _ _ _ _ _ arrived
      split_ifs
      · exact ⟨_, serves_setPhase _ _ _ _ _ same rfl rfl (by simp [Phase.leaving]) nofun⟩
      · exact ⟨_, serves_setPhase _ _ _ _ _ same rfl rfl (by simp [Phase.leaving]) nofun⟩
  | headerFails | payloadFails =>
      exact ⟨_, serves_setPhase _ _ _ _ _ rfl rfl rfl (by simp [Phase.leaving]) nofun⟩

theorem checkStatusStep_unlocked (status : UInt32) :
    (checkStatusStep state status).holdsSendLock = false ∧
      (checkStatusStep state status).holdsShutdownLock = false ∧
      (checkStatusStep state status).leaving = false ∧
      ∀ frame purpose, checkStatusStep state status ≠ .lockSend frame purpose := by
  unfold checkStatusStep
  dsimp only
  split_ifs <;> exact ⟨rfl, rfl, rfl, nofun⟩

theorem submitStep_serves (response : SubmittedResponse) (outcome : SubmitOutcome)
    (stepped : submitStep state thread response outcome = some after) :
    ∃ phase, Serves blockSize state after thread phase := by
  unfold submitStep at stepped
  cases outcome with
  | completed | pending =>
      cases stepped
      exact ⟨_, serves_setPhase _ _ _ _ _ rfl rfl rfl (by simp [Phase.leaving]) nofun⟩
  | failed status =>
      dsimp only at stepped
      split_ifs at stepped
      cases stepped
      exact ⟨_, serves_setPhase _ _ _ _ _ rfl rfl rfl (by simp [Phase.leaving]) nofun⟩

theorem workerStep_serves (phase : Phase)
    (stepped : workerStep state thread phase choice = some after) :
    ∃ phase, Serves blockSize state after thread phase := by
  cases workerStep_of stepped with
  | create | createFails | reset | resetFails | wake | wakeFails =>
      exact ⟨_, serves_setPhase _ _ _ _ _ rfl rfl rfl (by simp [Phase.leaving]) nofun⟩
  | test =>
      split_ifs
      · exact ⟨_, serves_setPhase _ _ _ _ _ rfl rfl rfl (by simp [Phase.leaving]) nofun⟩
      · exact ⟨_, serves_setPhase _ _ _ _ _ rfl rfl rfl (by simp [Phase.leaving]) nofun⟩
  | submit response outcome _ submitted => exact submitStep_serves _ _ _ _ _ _ submitted
  | check status =>
      obtain ⟨sending, shutting, leaving, uncalled⟩ := checkStatusStep_unlocked state status
      exact ⟨_, serves_setPhase _ _ _ _ _ rfl sending shutting (by simp [leaving])
        fun frame purpose same => absurd same (uncalled frame purpose)⟩

theorem destructorStep_serves (phase : Phase) (here : state.threads thread = phase)
    (stepped : destructorStep state thread phase choice = some after) :
    ∃ phase, Serves blockSize state after thread phase := by
  cases phase with
  | waitDispatchers =>
      cases choice with
      | proceed =>
          cases stepped
          exact ⟨_, serves_setPhase _ _ _ _ _ rfl rfl rfl (fun _ => by rw [here]; rfl) nofun⟩
      | _ => cases stepped
  | joinWorker =>
      cases choice with
      | proceed =>
          obtain ⟨_, ⟨⟩⟩ := Option.ite_none_right_eq_some.mp stepped
          exact ⟨_, serves_setPhase _ _ _ _ _ rfl rfl rfl (by simp [Phase.leaving]) nofun⟩
      | _ => cases stepped
  | _ => cases stepped

/-- Where the step of a thread in `phase` is. -/
inductive ThreadCase : Phase → Prop
  | begins (stepped : beginStep blockSize state thread choice = some after) : ThreadCase .idle
  | sends (phase : Phase) (inScope : phase.sendScope = true)
      (stepped : sendLockStep state thread phase choice = some after) : ThreadCase phase
  | shuts (phase : Phase) (inScope : phase.shutdownScope = true)
      (stepped : shutdownStep state thread phase choice = some after) : ThreadCase phase
  | receives (phase : Phase) (inScope : phase.receiving = true)
      (stepped : receiveStep state thread phase choice = some after) : ThreadCase phase
  | works (phase : Phase) (inScope : phase.working = true)
      (stepped : workerStep state thread phase choice = some after) : ThreadCase phase
  | leaves (phase : Phase) (inScope : phase.leaving = true)
      (stepped : destructorStep state thread phase choice = some after) : ThreadCase phase

theorem threadStep_of (phase : Phase) (here : state.threads thread = phase)
    (stepped : threadStep blockSize state thread choice = some after) :
    ThreadCase blockSize state after thread choice phase := by
  unfold threadStep at stepped
  rw [here] at stepped
  cases phase with
  | idle => exact .begins stepped
  | lockSend | send | unlockSend => exact .sends _ rfl stepped
  | lockShutdown | remove | terminate | stopSocket | closeSocket | unlockShutdown =>
      exact .shuts _ rfl stepped
  | readHeader | readPayload => exact .receives _ rfl stepped
  | createEvent | testTerminated | resetEvent | respond | checkStatus | awaitResponse =>
      exact .works _ rfl stepped
  | waitDispatchers | joinWorker => exact .leaves _ rfl stepped
  | finished => cases stepped

/-- A thread's step is in the scope of `SendLock`, in that of `Shutdown`, or in neither. -/
theorem threadStep_cases (stepped : threadStep blockSize state thread choice = some after) :
    ((state.threads thread).sendScope = true ∧
        sendLockStep state thread (state.threads thread) choice = some after) ∨
      ((state.threads thread).shutdownScope = true ∧
        shutdownStep state thread (state.threads thread) choice = some after) ∨
      ((state.threads thread).sendScope = false ∧ (state.threads thread).shutdownScope = false ∧
        ∃ phase, Serves blockSize state after thread phase) := by
  generalize here : state.threads thread = phase
  cases threadStep_of _ _ _ _ _ _ here stepped with
  | begins stepped => exact Or.inr (Or.inr ⟨rfl, rfl, beginStep_serves _ _ _ _ _ stepped⟩)
  | sends _ inScope stepped => exact Or.inl ⟨inScope, stepped⟩
  | shuts _ inScope stepped => exact Or.inr (Or.inl ⟨inScope, stepped⟩)
  | receives _ _ stepped =>
      have serves := receiveStep_serves blockSize _ _ _ _ _ stepped
      cases receiveStep_of stepped <;> exact Or.inr (Or.inr ⟨rfl, rfl, serves⟩)
  | works _ _ stepped =>
      have serves := workerStep_serves blockSize _ _ _ _ _ stepped
      cases workerStep_of stepped <;> exact Or.inr (Or.inr ⟨rfl, rfl, serves⟩)
  | leaves _ inScope stepped =>
      have serves := destructorStep_serves blockSize _ _ _ _ _ here stepped
      cases phase <;> first | exact Or.inr (Or.inr ⟨rfl, rfl, serves⟩) | cases inScope

end

/-! ## The scopes of the two locks -/

/-- The steps in the scope of `SendLock`. -/
inductive SendStep (state : DaemonState) (thread : ThreadId) :
    Phase → Choice → DaemonState → Prop
  | acquire (frame : List UInt8) (purpose : Purpose) (free : state.sendLock = none) :
      SendStep state thread (.lockSend frame purpose) .proceed
        ({ state with
          sendLock := some thread
          issued := state.issued ++ [frame] }.setPhase thread
          (if state.socket = SocketState.closed then .unlockSend true purpose
            else .send frame 0 purpose))
  | accept (frame : List UInt8) (sent : Nat) (purpose : Purpose) (count : Nat)
      (connected : state.socket = .connected) (reads : state.serverReads = true)
      (positive : 0 < count) (fits : sent + count ≤ frame.length) :
      SendStep state thread (.send frame sent purpose) (.accepted count)
        ({ state with accepted := state.accepted ++ (frame.drop sent).take count }.setPhase thread
          (if sent + count = frame.length then .unlockSend false purpose
            else .send frame (sent + count) purpose))
  | fail (frame : List UInt8) (sent : Nat) (purpose : Purpose)
      (unblocked : state.socket ≠ .connected ∨ state.serverReads = true) :
      SendStep state thread (.send frame sent purpose) .sendFailed
        ({ state with
          cut := if sent = 0 then state.cut else state.cut.or (some state.accepted.length)
          }.setPhase thread (.unlockSend true purpose))
  | skip (frame : List UInt8) (sent : Nat) (purpose : Purpose)
      (unblocked : state.socket ≠ .connected ∨ state.serverReads = true) :
      SendStep state thread (.send frame sent purpose) .sentNothing
        ({ state with
          cut := if sent = 0 ∧ frame.length ≤ nbdRequestSize then state.cut
            else state.cut.or (some state.accepted.length)
          }.setPhase thread (afterNothing frame sent purpose))
  | release (failed : Bool) (purpose : Purpose) :
      SendStep state thread (.unlockSend failed purpose) .proceed
        ({ state with sendLock := none }.setPhase thread
          (match purpose with
            | .request => if failed then .lockShutdown true else .idle
            | .disconnect => .stopSocket))

/-- The steps in the scope of `ShutdownLock`. -/
inductive ShutdownStep (state : DaemonState) (thread : ThreadId) :
    Phase → Choice → DaemonState → Prop
  | again (hardRemove : Bool) (free : state.shutdownLock = none) (done : state.terminated = true) :
      ShutdownStep state thread (.lockShutdown hardRemove) .proceed
        ({ state with shutdownLock := some thread }.setPhase thread .unlockShutdown)
  | begin (hardRemove : Bool) (free : state.shutdownLock = none)
      (running : state.terminated = false) :
      ShutdownStep state thread (.lockShutdown hardRemove) .proceed
        ({ state with shutdownLock := some thread, terminateInProgress := true }.setPhase thread
          (if state.wnbdDisk then .remove hardRemove else .terminate))
  | remove (hardRemove : Bool) (outcome : RemoveOutcome) :
      ShutdownStep state thread (.remove hardRemove) (.removed outcome)
        (state.setPhase thread
          (match outcome with
            | .removed | .fileNotFound => .terminate
            | .failed => .unlockShutdown))
  | terminate :
      ShutdownStep state thread .terminate .proceed
        ({ state with terminated := true }.setPhase thread
          (if state.socket = SocketState.closed then .unlockShutdown
            else if state.nbdTransmissionStarted then .lockSend nbdDisconnectFrame .disconnect
            else .stopSocket))
  | stopSocket :
      ShutdownStep state thread .stopSocket .proceed
        ({ state with socket := .shutDown }.setPhase thread .closeSocket)
  | closeSocket :
      ShutdownStep state thread .closeSocket .proceed
        ({ state with socket := .closed, nbdTransmissionStarted := false }.setPhase thread
          .unlockShutdown)
  | release :
      ShutdownStep state thread .unlockShutdown .proceed
        ({ state with shutdownLock := none }.setPhase thread (afterShutdown thread))

section

variable {state after : DaemonState} {thread : ThreadId} {phase : Phase} {choice : Choice}

theorem sendEnd_le (frame : List UInt8) (sent : Nat) : sendEnd frame sent ≤ frame.length := by
  unfold sendEnd
  split <;> omega

theorem sendStep_of (stepped : sendLockStep state thread phase choice = some after) :
    SendStep state thread phase choice after := by
  cases phase with
  | lockSend frame purpose =>
      cases choice with
      | proceed =>
          obtain ⟨free, ⟨⟩⟩ := Option.ite_none_right_eq_some.mp stepped
          exact .acquire frame purpose free
      | _ => cases stepped
  | send frame sent purpose =>
      cases choice with
      | accepted count =>
          obtain ⟨⟨connected, reads, positive, fits⟩, ⟨⟩⟩ :=
            Option.ite_none_right_eq_some.mp stepped
          exact .accept frame sent purpose count connected reads positive
            (fits.trans (sendEnd_le frame sent))
      | sendFailed =>
          obtain ⟨unblocked, ⟨⟩⟩ := Option.ite_none_right_eq_some.mp stepped
          exact .fail frame sent purpose unblocked
      | sentNothing =>
          obtain ⟨unblocked, ⟨⟩⟩ := Option.ite_none_right_eq_some.mp stepped
          exact .skip frame sent purpose unblocked
      | _ => cases stepped
  | unlockSend failed purpose =>
      cases choice with
      | proceed =>
          cases stepped
          exact .release failed purpose
      | _ => cases stepped
  | _ => cases stepped

theorem shutdownStep_of (stepped : shutdownStep state thread phase choice = some after) :
    ShutdownStep state thread phase choice after := by
  cases phase with
  | lockShutdown hardRemove =>
      cases choice with
      | proceed =>
          obtain ⟨free, locked⟩ := Option.ite_none_right_eq_some.mp stepped
          by_cases done : state.terminated = true
          · rw [if_pos done] at locked
            cases locked
            exact .again hardRemove free done
          · rw [if_neg done] at locked
            cases locked
            exact .begin hardRemove free (Bool.eq_false_iff.mpr done)
      | _ => cases stepped
  | remove hardRemove =>
      cases choice with
      | removed outcome =>
          cases stepped
          exact .remove hardRemove outcome
      | _ => cases stepped
  | terminate =>
      cases choice with
      | proceed =>
          cases stepped
          exact .terminate
      | _ => cases stepped
  | stopSocket =>
      cases choice with
      | proceed =>
          cases stepped
          exact .stopSocket
      | _ => cases stepped
  | closeSocket =>
      cases choice with
      | proceed =>
          cases stepped
          exact .closeSocket
      | _ => cases stepped
  | unlockShutdown =>
      cases choice with
      | proceed =>
          cases stepped
          exact .release
      | _ => cases stepped
  | _ => cases stepped

/-- Behind an empty `send` the sender holds what it held, and is not asking for the lock. -/
theorem afterNothing_scopes (frame : List UInt8) (sent : Nat) (purpose : Purpose) :
    (afterNothing frame sent purpose).holdsSendLock = true ∧
      (afterNothing frame sent purpose).holdsShutdownLock =
        (Phase.send frame sent purpose).holdsShutdownLock := by
  unfold afterNothing
  cases purpose <;> split <;> exact ⟨rfl, rfl⟩

theorem afterNothing_cases (frame : List UInt8) (sent : Nat) (purpose : Purpose) :
    nbdRequestSize < frame.length ∧
        afterNothing frame sent purpose = .send frame nbdRequestSize purpose ∨
      afterNothing frame sent purpose = .unlockSend false purpose := by
  unfold afterNothing
  split
  · rename_i header
    exact Or.inl ⟨header.2, rfl⟩
  · exact Or.inr rfl

theorem purposeAfter_holds (failed : Bool) (purpose : Purpose) :
    (match purpose with
      | .request => if failed then Phase.lockShutdown true else .idle
      | .disconnect => .stopSocket).holdsShutdownLock =
      (Phase.unlockSend failed purpose).holdsShutdownLock := by
  cases purpose <;> cases failed <;> rfl

theorem afterShutdown_unlocked (thread : ThreadId) :
    (afterShutdown thread).holdsSendLock = false ∧
      (afterShutdown thread).holdsShutdownLock = false := by
  cases thread <;> exact ⟨rfl, rfl⟩

end

/-- Both locks name the thread inside their scope. -/
structure LocksHeld (state : DaemonState) : Prop where
  send : Guards state.sendLock fun thread => (state.threads thread).holdsSendLock
  shutdown : Guards state.shutdownLock fun thread => (state.threads thread).holdsShutdownLock

theorem locksHeld_initial : LocksHeld .initial where
  send thread := by
    constructor
    · intro holds
      cases thread <;> cases holds
    · intro named
      cases named
  shutdown thread := by
    constructor
    · intro holds
      cases thread <;> cases holds
    · intro named
      cases named

section

variable {state after base : DaemonState} {thread : ThreadId} {phase : Phase} {choice : Choice}

theorem setPhase_others (holds : Phase → Bool) (threads : base.threads = state.threads)
    (other : ThreadId) (different : other ≠ thread) :
    holds ((base.setPhase thread phase).threads other) = holds (state.threads other) := by
  rw [setPhase_of_ne base thread phase different, threads]

theorem LocksHeld.sendStep (inv : LocksHeld state)
    (stepped : SendStep state thread (state.threads thread) choice after) : LocksHeld after := by
  generalize here : state.threads thread = phase at stepped
  cases stepped with
  | acquire frame purpose free =>
      constructor
      · refine (free ▸ inv.send).acquire thread ?_ (setPhase_others _ rfl)
        rw [setPhase_self]
        split <;> rfl
      · refine inv.shutdown.keep thread ?_ (setPhase_others _ rfl)
        rw [setPhase_self, here]
        cases purpose <;> split <;> rfl
  | accept frame sent purpose count =>
      constructor
      · refine inv.send.keep thread ?_ (setPhase_others _ rfl)
        rw [setPhase_self, here]
        split <;> rfl
      · refine inv.shutdown.keep thread ?_ (setPhase_others _ rfl)
        rw [setPhase_self, here]
        cases purpose <;> split <;> rfl
  | fail frame sent purpose =>
      constructor
      · refine inv.send.keep thread ?_ (setPhase_others _ rfl)
        rw [setPhase_self, here]
        rfl
      · refine inv.shutdown.keep thread ?_ (setPhase_others _ rfl)
        rw [setPhase_self, here]
        cases purpose <;> rfl
  | skip frame sent purpose =>
      obtain ⟨sends, shuts⟩ := afterNothing_scopes frame sent purpose
      constructor
      · refine inv.send.keep thread ?_ (setPhase_others _ rfl)
        rw [setPhase_self, here]
        exact sends
      · refine inv.shutdown.keep thread ?_ (setPhase_others _ rfl)
        rw [setPhase_self, here]
        exact shuts
  | release failed purpose =>
      constructor
      · refine inv.send.release thread (by rw [here]; rfl) ?_ (setPhase_others _ rfl)
        rw [setPhase_self]
        cases purpose <;> cases failed <;> rfl
      · refine inv.shutdown.keep thread ?_ (setPhase_others _ rfl)
        rw [setPhase_self, here]
        exact purposeAfter_holds failed purpose

theorem LocksHeld.shutdownStep (inv : LocksHeld state)
    (stepped : ShutdownStep state thread (state.threads thread) choice after) :
    LocksHeld after := by
  generalize here : state.threads thread = phase at stepped
  cases stepped with
  | again hardRemove free =>
      constructor
      · exact inv.send.keep thread (by rw [setPhase_self, here]; rfl) (setPhase_others _ rfl)
      · exact (free ▸ inv.shutdown).acquire thread (by rw [setPhase_self]; rfl)
          (setPhase_others _ rfl)
  | begin hardRemove free =>
      constructor
      · refine inv.send.keep thread ?_ (setPhase_others _ rfl)
        rw [setPhase_self, here]
        split <;> rfl
      · refine (free ▸ inv.shutdown).acquire thread ?_ (setPhase_others _ rfl)
        rw [setPhase_self]
        split <;> rfl
  | remove hardRemove outcome =>
      constructor
      · refine inv.send.keep thread ?_ (setPhase_others _ rfl)
        rw [setPhase_self, here]
        cases outcome <;> rfl
      · refine inv.shutdown.keep thread ?_ (setPhase_others _ rfl)
        rw [setPhase_self, here]
        cases outcome <;> rfl
  | terminate =>
      constructor
      · refine inv.send.keep thread ?_ (setPhase_others _ rfl)
        rw [setPhase_self, here]
        split_ifs <;> rfl
      · refine inv.shutdown.keep thread ?_ (setPhase_others _ rfl)
        rw [setPhase_self, here]
        split_ifs <;> rfl
  | stopSocket | closeSocket =>
      constructor
      · exact inv.send.keep thread (by rw [setPhase_self, here]; rfl) (setPhase_others _ rfl)
      · exact inv.shutdown.keep thread (by rw [setPhase_self, here]; rfl) (setPhase_others _ rfl)
  | release =>
      obtain ⟨sending, shutting⟩ := afterShutdown_unlocked thread
      constructor
      · refine inv.send.keep thread ?_ (setPhase_others _ rfl)
        rw [setPhase_self, here, sending]
        rfl
      · refine inv.shutdown.release thread (by rw [here]; rfl) ?_ (setPhase_others _ rfl)
        rw [setPhase_self, shutting]

theorem holds_outside (unsent : (state.threads thread).sendScope = false)
    (unshut : (state.threads thread).shutdownScope = false) :
    (state.threads thread).holdsSendLock = false ∧
      (state.threads thread).holdsShutdownLock = false := by
  constructor
  · refine Bool.eq_false_iff.mpr fun holds => ?_
    rw [Phase.sendScope_of_holds _ holds] at unsent
    cases unsent
  · refine Bool.eq_false_iff.mpr fun holds => ?_
    rcases Phase.scope_of_holdsShutdownLock _ holds with inside | inside
    · rw [inside] at unsent
      cases unsent
    · rw [inside] at unshut
      cases unshut

theorem LocksHeld.serves {blockSize : UInt32} (inv : LocksHeld state)
    (serves : Serves blockSize state after thread phase)
    (unsent : (state.threads thread).sendScope = false)
    (unshut : (state.threads thread).shutdownScope = false) : LocksHeld after := by
  obtain ⟨noSend, noShutdown⟩ := holds_outside unsent unshut
  have sendLock : after.sendLock = state.sendLock := serves.field Control.sendLock fun _ _ => rfl
  have shutdownLock : after.shutdownLock = state.shutdownLock :=
    serves.field Control.shutdownLock fun _ _ => rfl
  constructor
  · rw [sendLock]
    refine inv.send.keep thread ?_ fun other different => by
      rw [serves.threads_of_ne different]
    rw [serves.threads_self, serves.sending, noSend]
  · rw [shutdownLock]
    refine inv.shutdown.keep thread ?_ fun other different => by
      rw [serves.threads_of_ne different]
    rw [serves.threads_self, serves.shutting, noShutdown]

theorem LocksHeld.step (inv : LocksHeld state) {blockSize : UInt32} {action : DaemonAction}
    (stepped : daemonNext blockSize state action = some after) : LocksHeld after := by
  cases action with
  | thread thread choice =>
      rcases threadStep_cases blockSize state after thread choice stepped with
        ⟨_, sent⟩ | ⟨_, shut⟩ | ⟨unsent, unshut, phase, serves⟩
      · exact inv.sendStep (sendStep_of sent)
      · exact inv.shutdownStep (shutdownStep_of shut)
      · exact inv.serves serves unsent unshut
  | responseCompleted index =>
      obtain ⟨response, _, rfl⟩ := Option.map_eq_some_iff.mp stepped
      exact ⟨inv.send, inv.shutdown⟩
  | serverSends bytes | connectionReset =>
      obtain ⟨_, ⟨⟩⟩ := Option.ite_none_right_eq_some.mp stepped
      exact ⟨inv.send, inv.shutdown⟩
  | diskCreated | serverStopsReading | serverStopsAnswering =>
      cases stepped
      exact ⟨inv.send, inv.shutdown⟩

end

end Wnbd.Nbd
