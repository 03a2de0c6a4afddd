import Mathlib.Algebra.Order.Group.Multiset
import Wnbd.Nbd.ThreadSteps

/-!
# What the daemon may send

A frame reaches `SendExact` from a request handler or from `DisconnectNbd`.  If every
request a dispatcher starts has an allowed frame, nothing else is ever issued, whatever
the connection, the driver and the callers of `Shutdown` do.
-/

set_option autoImplicit false

namespace Wnbd.Nbd

open DaemonState

/-- Issued frames, and frames that wait for `SendLock`. -/
structure IssuesOnly (allowed : List UInt8 → Prop) (state : DaemonState) : Prop where
  issued : ∀ frame ∈ state.issued, frame = nbdDisconnectFrame ∨ allowed frame
  waiting : ∀ thread frame purpose, state.threads thread = .lockSend frame purpose →
    frame = nbdDisconnectFrame ∨ allowed frame

theorem issuesOnly_initial (allowed : List UInt8 → Prop) : IssuesOnly allowed .initial where
  issued _ member := by cases member
  waiting thread _ _ here := by cases thread <;> cases here

/-! ## Where a thread begins to wait -/

def Phase.waitsToSend : Phase → Bool
  | .lockSend _ _ => true
  | _ => false

section

variable {blockSize : UInt32} {state after : DaemonState} {thread : ThreadId} {choice : Choice}

theorem beginStep_waits (stepped : beginStep blockSize state thread choice = some after)
    (frame : List UInt8) (purpose : Purpose)
    (waits : after.threads thread = .lockSend frame purpose) :
    ∃ call, choice = .request call ∧ frame = (call.sent blockSize).frame := by
  cases choice with
  | request call =>
      cases thread with
      | dispatcher index =>
          simp only [beginStep] at stepped
          split_ifs at stepped
          cases stepped
          rw [setPhase_self] at waits
          cases waits
          exact ⟨call, rfl, rfl⟩
      | caller index | worker | destructor => cases stepped
  | shutdown hardRemove =>
      cases thread with
      | caller index =>
          cases stepped
          rw [setPhase_self] at waits
          cases waits
      | dispatcher index | worker | destructor => cases stepped
  | destroy =>
      simp only [beginStep] at stepped
      split_ifs at stepped
      cases stepped
      rw [setPhase_self] at waits
      cases waits
  | _ =>
      cases stepped

theorem demultiplex_waits (header : List UInt8) :
    ((demultiplex state thread header).threads thread).waitsToSend = false := by
  unfold demultiplex
  split
  · rw [setPhase_self]
    rfl
  · dsimp only
    split
    · rw [setPhase_self]
      split_ifs <;> rfl
    · rw [setPhase_self]
      rfl

theorem receiveStep_waits {phase : Phase}
    (stepped : receiveStep state thread phase choice = some after) :
    (after.threads thread).waitsToSend = false := by
  cases receiveStep_of stepped with
  | demultiplex bytes => exact demultiplex_waits _
  | header | headerFails | payloadFails =>
      rw [setPhase_self]
      rfl
  | payload =>
      rw [setPhase_self]
      split_ifs <;> rfl

theorem workerStep_waits {phase : Phase}
    (stepped : workerStep state thread phase choice = some after) :
    (after.threads thread).waitsToSend = false := by
  cases workerStep_of stepped with
  | create | createFails | reset | resetFails | wake | wakeFails =>
      rw [setPhase_self]
      rfl
  | test =>
      rw [setPhase_self]
      split_ifs <;> rfl
  | submit response outcome _ submitted =>
      cases outcome with
      | completed | pending =>
          cases submitted
          rw [setPhase_self]
          rfl
      | failed status =>
          obtain ⟨_, ⟨⟩⟩ := Option.ite_none_right_eq_some.mp submitted
          rw [setPhase_self]
          rfl
  | check status =>
      rw [setPhase_self]
      unfold checkStatusStep
      dsimp only
      split_ifs <;> rfl

theorem destructorStep_waits {phase : Phase}
    (stepped : destructorStep state thread phase choice = some after) :
    (after.threads thread).waitsToSend = false := by
  cases phase with
  | waitDispatchers =>
      cases choice with
      | proceed =>
          cases stepped
          rw [setPhase_self]
          rfl
      | _ => cases stepped
  | joinWorker =>
      cases choice with
      | proceed =>
          obtain ⟨_, ⟨⟩⟩ := Option.ite_none_right_eq_some.mp stepped
          rw [setPhase_self]
          rfl
      | _ => cases stepped
  | _ => cases stepped

/-- Outside the two scopes only a request handler goes to `SendLock`. -/
theorem threadStep_waits (unsent : (state.threads thread).sendScope = false)
    (serving : (state.threads thread).shutdownScope = false)
    (stepped : threadStep blockSize state thread choice = some after) (frame : List UInt8)
    (purpose : Purpose) (waits : after.threads thread = .lockSend frame purpose) :
    ∃ call, choice = .request call ∧ frame = (call.sent blockSize).frame := by
  have elsewhere : (after.threads thread).waitsToSend ≠ false := by
    simp [waits, Phase.waitsToSend]
  generalize here : state.threads thread = phase at unsent serving
  cases threadStep_of _ _ _ _ _ _ here stepped with
  | begins begun => exact beginStep_waits begun frame purpose waits
  | sends _ inScope =>
      rw [unsent] at inScope
      cases inScope
  | shuts _ inScope =>
      rw [serving] at inScope
      cases inScope
  | receives _ _ stepped => exact absurd (receiveStep_waits stepped) elsewhere
  | works _ _ stepped => exact absurd (workerStep_waits stepped) elsewhere
  | leaves _ _ stepped => exact absurd (destructorStep_waits stepped) elsewhere

end

/-! ## Steps -/

section

variable {blockSize : UInt32} {allowed : List UInt8 → Prop} {state after : DaemonState}
  {thread : ThreadId} {choice : Choice}

theorem IssuesOnly.moves (only : IssuesOnly allowed state) (base : DaemonState) (phase : Phase)
    (threads : base.threads = state.threads)
    (issued : ∀ frame ∈ base.issued, frame = nbdDisconnectFrame ∨ allowed frame)
    (next : ∀ frame purpose, phase = .lockSend frame purpose →
      frame = nbdDisconnectFrame ∨ allowed frame) :
    IssuesOnly allowed (base.setPhase thread phase) where
  issued := issued
  waiting found frame purpose here := by
    by_cases own : found = thread
    · rw [own, setPhase_self] at here
      exact next frame purpose here
    · rw [setPhase_of_ne base thread phase own, threads] at here
      exact only.waiting found frame purpose here

theorem IssuesOnly.sendStep (only : IssuesOnly allowed state)
    (stepped : SendStep state thread (state.threads thread) choice after) :
    IssuesOnly allowed after := by
  generalize here : state.threads thread = phase at stepped
  cases stepped with
  | acquire frame purpose free =>
      refine only.moves _ _ rfl ?_ ?_
      · intro issued member
        rcases List.mem_append.mp member with before | now
        · exact only.issued issued before
        · rw [List.mem_singleton.mp now]
          exact only.waiting thread frame purpose here
      · intro other purpose same
        split_ifs at same
  | accept frame sent purpose count connected reads positive fits =>
      refine only.moves _ _ rfl only.issued ?_
      intro other purpose same
      split_ifs at same
  | fail frame sent purpose unblocked =>
      refine only.moves _ _ rfl only.issued ?_
      intro other purpose same
      cases same
  | skip frame sent purpose unblocked =>
      refine only.moves _ _ rfl only.issued ?_
      intro other again same
      rcases afterNothing_cases frame sent purpose with ⟨_, next⟩ | next
      · rw [next] at same
        cases same
      · rw [next] at same
        cases same
  | release failed purpose =>
      refine only.moves _ _ rfl only.issued ?_
      intro other again same
      cases purpose with
      | request => cases failed <;> cases same
      | disconnect => cases same

theorem IssuesOnly.shutdownStep (only : IssuesOnly allowed state)
    (stepped : ShutdownStep state thread (state.threads thread) choice after) :
    IssuesOnly allowed after := by
  generalize state.threads thread = phase at stepped
  cases stepped with
  | again hardRemove free done =>
      refine only.moves _ _ rfl only.issued ?_
      intro frame purpose same
      cases same
  | begin hardRemove free running =>
      refine only.moves _ _ rfl only.issued ?_
      intro frame purpose same
      split_ifs at same
  | remove hardRemove outcome =>
      refine only.moves _ _ rfl only.issued ?_
      intro frame purpose same
      cases outcome <;> cases same
  | terminate =>
      refine only.moves _ _ rfl only.issued ?_
      intro frame purpose same
      split_ifs at same
      cases same
      exact Or.inl rfl
  | stopSocket | closeSocket =>
      refine only.moves _ _ rfl only.issued ?_
      intro frame purpose same
      cases same
  | release =>
      refine only.moves _ _ rfl only.issued ?_
      intro frame purpose same
      cases thread <;> cases same

/-- A thread's step keeps to the allowed frames if the request it starts is allowed. -/
theorem IssuesOnly.threadStep (only : IssuesOnly allowed state)
    (called : ∀ call, choice = .request call → allowed (call.sent blockSize).frame)
    (stepped : threadStep blockSize state thread choice = some after) :
    IssuesOnly allowed after := by
  rcases threadStep_cases blockSize state after thread choice stepped with
    ⟨_, sends⟩ | ⟨_, shuts⟩ | ⟨unsent, serving, phase, serves⟩
  · exact only.sendStep (sendStep_of sends)
  · exact only.shutdownStep (shutdownStep_of shuts)
  · have waits := threadStep_waits unsent serving stepped
    have issued := serves.field Control.issued fun _ _ => rfl
    refine ⟨?_, ?_⟩
    · change ∀ frame ∈ after.control.issued, _
      rw [issued]
      exact only.issued
    · intro found frame purpose here
      by_cases own : found = thread
      · obtain ⟨call, started, rfl⟩ := waits frame purpose (own ▸ here)
        exact Or.inr (called call started)
      · exact only.waiting found frame purpose (serves.threads_of_ne own ▸ here)

theorem IssuesOnly.congr (only : IssuesOnly allowed state) (issued : after.issued = state.issued)
    (threads : after.threads = state.threads) : IssuesOnly allowed after where
  issued := issued ▸ only.issued
  waiting := threads ▸ only.waiting

end

/-! ## Frames of requests -/

/-- Frames that are not the one of `DisconnectNbd`. -/
def requestFrames (frames : List (List UInt8)) : Multiset (List UInt8) :=
  ↑(frames.filter fun frame => decide (frame ≠ nbdDisconnectFrame))

theorem requestFrames_append (frames more : List (List UInt8)) :
    requestFrames (frames ++ more) = requestFrames frames + requestFrames more := by
  rw [requestFrames, List.filter_append, ← Multiset.coe_add]
  rfl

theorem requestFrames_disconnect : requestFrames [nbdDisconnectFrame] = 0 := by
  simp [requestFrames]

/-- The frame a thread waits for `SendLock` with. -/
def Phase.waiting : Phase → Multiset (List UInt8)
  | .lockSend frame _ => requestFrames [frame]
  | _ => 0

theorem Phase.waiting_eq_zero {phase : Phase} (elsewhere : phase.waitsToSend = false) :
    phase.waiting = 0 := by
  cases phase <;> first | rfl | cases elsewhere

theorem Phase.eq_lockSend {phase : Phase} (waits : phase.waitsToSend = true) :
    ∃ frame purpose, phase = .lockSend frame purpose := by
  cases phase with
  | lockSend frame purpose => exact ⟨frame, purpose, rfl⟩
  | _ => cases waits

/-- The frame of the request a step starts. -/
def Choice.starting (blockSize : UInt32) : Choice → Multiset (List UInt8)
  | .request call => requestFrames [(call.sent blockSize).frame]
  | _ => 0

section

variable {blockSize : UInt32} {state after : DaemonState} {thread : ThreadId} {choice : Choice}

theorem sendStep_frames (stepped : SendStep state thread (state.threads thread) choice after) :
    (∀ other, other ≠ thread → after.threads other = state.threads other) ∧
      requestFrames after.issued + (after.threads thread).waiting ≤
        requestFrames state.issued + (state.threads thread).waiting := by
  generalize state.threads thread = phase at stepped
  cases stepped with
  | acquire frame purpose free =>
      refine ⟨fun other different => setPhase_of_ne _ _ _ different, ?_⟩
      rw [setPhase_self]
      change requestFrames (state.issued ++ [frame]) + _ ≤ _
      rw [requestFrames_append]
      split_ifs <;> exact le_of_eq (add_zero _)
  | accept frame sent purpose count connected reads positive fits =>
      refine ⟨fun other different => setPhase_of_ne _ _ _ different, ?_⟩
      rw [setPhase_self]
      split_ifs <;> exact le_refl _
  | fail frame sent purpose unblocked =>
      refine ⟨fun other different => setPhase_of_ne _ _ _ different, ?_⟩
      rw [setPhase_self]
      exact le_refl _
  | skip frame sent purpose unblocked =>
      refine ⟨fun other different => setPhase_of_ne _ _ _ different, ?_⟩
      rw [setPhase_self]
      rcases afterNothing_cases frame sent purpose with ⟨_, next⟩ | next
      · rw [next]
        exact le_refl _
      · rw [next]
        exact le_refl _
  | release failed purpose =>
      refine ⟨fun other different => setPhase_of_ne _ _ _ different, ?_⟩
      rw [setPhase_self]
      cases purpose <;> cases failed <;> exact le_refl _

theorem shutdownStep_frames
    (stepped : ShutdownStep state thread (state.threads thread) choice after) :
    (∀ other, other ≠ thread → after.threads other = state.threads other) ∧
      requestFrames after.issued + (after.threads thread).waiting ≤
        requestFrames state.issued + (state.threads thread).waiting := by
  generalize state.threads thread = phase at stepped
  cases stepped with
  | again | stopSocket | closeSocket =>
      refine ⟨fun other different => setPhase_of_ne _ _ _ different, ?_⟩
      rw [setPhase_self]
      exact le_refl _
  | begin hardRemove free running =>
      refine ⟨fun other different => setPhase_of_ne _ _ _ different, ?_⟩
      rw [setPhase_self]
      split_ifs <;> exact le_refl _
  | remove hardRemove outcome =>
      refine ⟨fun other different => setPhase_of_ne _ _ _ different, ?_⟩
      rw [setPhase_self]
      cases outcome <;> exact le_refl _
  | terminate =>
      refine ⟨fun other different => setPhase_of_ne _ _ _ different, ?_⟩
      rw [setPhase_self]
      split_ifs
      · exact le_refl _
      · rw [Phase.waiting, requestFrames_disconnect]
        exact le_refl _
      · exact le_refl _
  | release =>
      refine ⟨fun other different => setPhase_of_ne _ _ _ different, ?_⟩
      rw [setPhase_self]
      cases thread <;> exact le_refl _

/-- A step issues the frame its thread waited with, or leaves it waiting. -/
theorem threadStep_frames (stepped : threadStep blockSize state thread choice = some after) :
    (∀ other, other ≠ thread → after.threads other = state.threads other) ∧
      requestFrames after.issued + (after.threads thread).waiting ≤
        requestFrames state.issued + (state.threads thread).waiting +
          choice.starting blockSize := by
  rcases threadStep_cases blockSize state after thread choice stepped with
    ⟨_, sends⟩ | ⟨_, shuts⟩ | ⟨unsent, serving, phase, serves⟩
  · obtain ⟨others, frames⟩ := sendStep_frames (sendStep_of sends)
    exact ⟨others, frames.trans le_self_add⟩
  · obtain ⟨others, frames⟩ := shutdownStep_frames (shutdownStep_of shuts)
    exact ⟨others, frames.trans le_self_add⟩
  · have waits := threadStep_waits unsent serving stepped
    have issued : after.issued = state.issued := serves.field Control.issued fun _ _ => rfl
    refine ⟨fun other different => serves.threads_of_ne different, ?_⟩
    rw [issued]
    cases waiting : (after.threads thread).waitsToSend with
    | false =>
        rw [Phase.waiting_eq_zero waiting, add_zero, add_assoc]
        exact le_self_add
    | true =>
        obtain ⟨frame, purpose, here⟩ := Phase.eq_lockSend waiting
        obtain ⟨call, rfl, rfl⟩ := waits frame purpose here
        rw [here, add_right_comm]
        exact le_self_add

end

end Wnbd.Nbd
