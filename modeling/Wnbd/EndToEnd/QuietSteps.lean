import Wnbd.EndToEnd.Pipeline

/-!
# A daemon nobody disturbs

While no call fails and nobody shuts down, dispatchers wait for the lock, send and let go of
it, and the worker goes around its loop.
-/

set_option autoImplicit false

namespace Wnbd.EndToEnd

open Wnbd.Scsi Wnbd.Dispatch Wnbd.Nbd DaemonState

def servesPhase : Phase → Bool
  | .idle | .lockSend _ .request | .send _ _ .request | .unlockSend false .request
  | .createEvent | .testTerminated | .resetEvent | .readHeader _ | .readPayload _ _ _
  | .respond _ | .awaitResponse => true
  | .checkStatus status => decide (status = 0 ∨ status = errorIoPending)
  | _ => false

structure Calm (daemon : DaemonState) : Prop where
  serving : ∀ thread, servesPhase (daemon.threads thread) = true
  senders : ∀ thread, (daemon.threads thread).sendScope = true → ∃ index, thread = .dispatcher index
  connected : daemon.socket = .connected
  running : daemon.terminated = false
  undisturbed : daemon.terminateInProgress = false
  locks : LocksHeld daemon
  buffer : BufferInv daemon

theorem calm_initial : Calm .initial where
  serving thread := by cases thread <;> rfl
  senders thread sends := by cases thread <;> cases sends
  connected := rfl
  running := rfl
  undisturbed := rfl
  locks := locksHeld_initial
  buffer := bufferInv_initial

def quietChoice : Choice → Bool
  | .proceed | .accepted _ | .received _ | .removed _ => true
  | _ => false

/-- What a step of a calm daemon does, with the progress it makes. -/
inductive QuietStep (daemon : DaemonState) : ThreadId → DaemonState → Prop
  | acquire (index : Nat) (frame : List UInt8)
      (here : daemon.threads (.dispatcher index) = .lockSend frame .request)
      (free : daemon.sendLock = none) :
      QuietStep daemon (.dispatcher index) ({ daemon with
        sendLock := some (.dispatcher index)
        issued := daemon.issued ++ [frame] }.setPhase (.dispatcher index) (.send frame 0 .request))
  | accept (index : Nat) (frame : List UInt8) (sent count : Nat)
      (here : daemon.threads (.dispatcher index) = .send frame sent .request)
      (positive : 0 < count) (fits : sent + count ≤ frame.length) :
      QuietStep daemon (.dispatcher index)
        ({ daemon with accepted := daemon.accepted ++ (frame.drop sent).take count }.setPhase
          (.dispatcher index)
          (if sent + count = frame.length then .unlockSend false .request
            else .send frame (sent + count) .request))
  | release (index : Nat)
      (here : daemon.threads (.dispatcher index) = .unlockSend false .request) :
      QuietStep daemon (.dispatcher index)
        ({ daemon with sendLock := none }.setPhase (.dispatcher index) .idle)
  | header (bytes piece : List UInt8) (count : Nat) (base : DaemonState)
      (here : daemon.threads .worker = .readHeader bytes)
      (arrived : received daemon (nbdReplySize - bytes.length) count = some (piece, base)) :
      QuietStep daemon .worker (base.setPhase .worker (.readHeader (bytes ++ piece)))
  | demultiplex (bytes : List UInt8) (here : daemon.threads .worker = .readHeader bytes)
      (full : bytes.length = nbdReplySize) :
      QuietStep daemon .worker (demultiplex daemon .worker bytes)
  | payload (request : PendingRequestInfo) (command : SendRspCommand) (bytes piece : List UInt8)
      (count : Nat) (base : DaemonState)
      (here : daemon.threads .worker = .readPayload request command bytes)
      (arrived : received daemon (request.length.toNat - bytes.length) count =
        some (piece, base)) :
      QuietStep daemon .worker ((base.fillBuffer bytes.length piece).setPhase .worker
        (if bytes.length + count = request.length.toNat then
          .respond ⟨request.requestType, command, bytes ++ piece⟩
        else .readPayload request command (bytes ++ piece)))
  | create (here : daemon.threads .worker = .createEvent) :
      QuietStep daemon .worker
        ({ daemon with overlappedEvent := true }.setPhase .worker .testTerminated)
  | test (here : daemon.threads .worker = .testTerminated) :
      QuietStep daemon .worker (daemon.setPhase .worker .resetEvent)
  | reset (here : daemon.threads .worker = .resetEvent) :
      QuietStep daemon .worker
        ({ daemon with overlappedEvent := false }.setPhase .worker (.readHeader []))
  | checkDone (here : daemon.threads .worker = .checkStatus 0) :
      QuietStep daemon .worker (daemon.setPhase .worker .testTerminated)
  | checkPending (here : daemon.threads .worker = .checkStatus errorIoPending) :
      QuietStep daemon .worker (daemon.setPhase .worker .awaitResponse)
  | wake (here : daemon.threads .worker = .awaitResponse) :
      QuietStep daemon .worker (daemon.setPhase .worker .testTerminated)

section

variable {blockSize : UInt32} {daemon after : DaemonState} {thread : ThreadId} {choice : Choice}

theorem Calm.worker_thread (calm : Calm daemon)
    (inside : (daemon.threads thread).workerScope = true) : thread = .worker :=
  calm.buffer.roles thread inside

theorem quiet_send (calm : Calm daemon) (quiet : quietChoice choice = true)
    (scope : (daemon.threads thread).sendScope = true)
    (stepped : sendLockStep daemon thread (daemon.threads thread) choice = some after) :
    QuietStep daemon thread after := by
  obtain ⟨index, rfl⟩ := calm.senders thread scope
  have serves := calm.serving (.dispatcher index)
  have cases := sendStep_of stepped
  generalize here : daemon.threads (.dispatcher index) = phase at cases serves
  cases cases with
  | acquire frame purpose free =>
      cases purpose with
      | disconnect => cases serves
      | request =>
          rw [if_neg (by rw [calm.connected]; decide)]
          exact .acquire index frame here free
  | accept frame sent purpose count connected reads positive fits =>
      cases purpose with
      | disconnect => cases serves
      | request => exact .accept index frame sent count here positive fits
  | fail | skip => cases quiet
  | release failed purpose =>
      cases purpose with
      | disconnect => cases failed <;> cases serves
      | request =>
          cases failed with
          | true => cases serves
          | false => exact .release index here

theorem quiet_worker (calm : Calm daemon) (quiet : quietChoice choice = true)
    (inside : (daemon.threads thread).workerScope = true)
    (stepped : receiveStep daemon thread (daemon.threads thread) choice = some after ∨
      workerStep daemon thread (daemon.threads thread) choice = some after) :
    QuietStep daemon thread after := by
  obtain rfl := calm.worker_thread inside
  have serves := calm.serving .worker
  generalize here : daemon.threads .worker = phase at stepped serves
  rcases stepped with reads | works
  · cases receiveStep_of reads with
    | header bytes piece count base arrived => exact .header bytes piece count base here arrived
    | demultiplex bytes full => exact .demultiplex bytes here full
    | payload request command bytes piece count base arrived =>
        exact .payload request command bytes piece count base here arrived
    | headerFails | payloadFails => cases quiet
  · cases workerStep_of works with
    | create => exact .create here
    | test =>
        rw [calm.running]
        exact .test here
    | reset => exact .reset here
    | check status =>
        have known : status = 0 ∨ status = errorIoPending := of_decide_eq_true serves
        rw [checkStatusStep, calm.undisturbed]
        rcases known with rfl | rfl
        · exact .checkDone here
        · exact .checkPending here
    | wake => exact .wake here
    | createFails | resetFails | submit | wakeFails => cases quiet

/-- A step of a calm daemon that takes no request and hands over no response. -/
theorem quietStep_of (calm : Calm daemon) (quiet : quietChoice choice = true)
    (stepped : threadStep blockSize daemon thread choice = some after) :
    QuietStep daemon thread after := by
  have serves := calm.serving thread
  generalize here : daemon.threads thread = phase at serves
  cases threadStep_of _ _ _ _ _ _ here stepped with
  | begins begun => cases choice <;> first | exact absurd quiet Bool.false_ne_true | cases begun
  | sends _ scope sends =>
      subst here
      exact quiet_send calm quiet scope sends
  | shuts _ scope => cases phase <;> first | cases serves; done | cases scope
  | receives _ scope reads =>
      subst here
      exact quiet_worker calm quiet (Phase.workerScope_of_receiving _ scope)
        (Or.inl reads)
  | works _ scope works =>
      subst here
      exact quiet_worker calm quiet (Phase.workerScope_of_working _ scope)
        (Or.inr works)
  | leaves _ scope => cases phase <;> first | cases serves; done | cases scope

theorem Calm.step (calm : Calm daemon)
    (stepped : threadStep blockSize daemon thread choice = some after)
    (others : ∀ other, other ≠ thread → after.threads other = daemon.threads other)
    (serves : servesPhase (after.threads thread) = true)
    (sends : (after.threads thread).sendScope = true → ∃ index, thread = .dispatcher index)
    (socket : after.socket = daemon.socket) (terminated : after.terminated = daemon.terminated)
    (terminating : after.terminateInProgress = daemon.terminateInProgress) : Calm after where
  serving found := by
    by_cases own : found = thread
    · rw [own]
      exact serves
    · rw [others found own]
      exact calm.serving found
  senders found scope := by
    by_cases own : found = thread
    · rw [own] at scope ⊢
      exact sends scope
    · rw [others found own] at scope
      exact calm.senders found scope
  connected := socket.trans calm.connected
  running := terminated.trans calm.running
  undisturbed := terminating.trans calm.undisturbed
  locks := LocksHeld.step calm.locks (show daemonNext blockSize daemon (.thread thread choice) =
    some after from stepped)
  buffer := calm.buffer.step (.thread thread choice) (fun _ => Or.inl calm.undisturbed) stepped

end

end Wnbd.EndToEnd
