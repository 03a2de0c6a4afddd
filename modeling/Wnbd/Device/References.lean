import Wnbd.Device.StepCases

/-!
# Device references

Every call into the driver holds a device reference from its lookup to its
release, and a thread without one leaves the queues alone.
-/

set_option autoImplicit false

namespace Wnbd.Device

open Wnbd.Scsi Wnbd.Dispatch DeviceState DeviceQueues

def ThreadPc.monitorOnly : ThreadPc → Bool
  | .monitorWait | .monitorMark | .monitorSignal | .monitorRundown | .monitorRundownWait
  | .monitorDrainPool | .monitorFreeElement _ | .monitorFree | .monitorDone => true
  | _ => false

/-- A call at this point has a reference on the device. -/
def ThreadPc.holdsReference : ThreadPc → Bool
  | .idle | .startReport _ => false
  | pc => !pc.monitorOnly

/-- What a step of a call does to the rundown count, and that a thread without a
reference leaves the queues alone. -/
structure UserStep (state after : DeviceState) (user : Nat) (next : ThreadPc) : Prop where
  threads : after.threads = Function.update state.threads (.user user) next
  freed : after.freed = state.freed
  own : next.monitorOnly = false
  reference :
    ((state.threads (.user user)).holdsReference = next.holdsReference ∧
        after.rundown = state.rundown) ∨
      ((state.threads (.user user)).holdsReference = false ∧ next.holdsReference = true ∧
        state.rundown.acquire = some after.rundown) ∨
      ((state.threads (.user user)).holdsReference = true ∧ next.holdsReference = false ∧
        after.rundown = state.rundown.release)
  outside : (state.threads (.user user)).holdsReference = false → after.queues = state.queues

section UserSteps

variable {props : WnbdProperties} {state after : DeviceState} {user : Nat} {pc : ThreadPc}
variable {choice : Choice}

theorem UserStep.working {before : ThreadPc} (here : state.threads (.user user) = before)
    (next : ThreadPc) (busy : before.holdsReference = true)
    (busyAfter : next.holdsReference = true) (own : next.monitorOnly = false)
    (threads : after.threads = Function.update state.threads (.user user) next)
    (freed : after.freed = state.freed) (rundown : after.rundown = state.rundown) :
    ∃ next, UserStep state after user next :=
  ⟨next, threads, freed, own, Or.inl ⟨by rw [here, busy, busyAfter], rundown⟩, fun idle => by
    rw [here, busy] at idle
    cases idle⟩

theorem beginStep_user (here : state.threads (.user user) = .idle)
    (taken : beginStep props state (.user user) choice = some after) :
    ∃ next, UserStep state after user next := by
  have idle : (state.threads (.user user)).holdsReference = false := by rw [here]; rfl
  cases choice with
  | startIo contents =>
      cases acquired : state.rundown.acquire with
      | none =>
          simp only [beginStep, acquired] at taken
          cases taken
          exact ⟨_, rfl, rfl, rfl, Or.inl ⟨idle, rfl⟩, fun _ => rfl⟩
      | some rundown =>
          simp only [beginStep, acquired] at taken
          cases taken
          exact ⟨_, rfl, rfl, rfl, Or.inr (Or.inl ⟨idle, rfl, acquired⟩), fun _ => rfl⟩
  | fetch | respond =>
      obtain ⟨rundown, acquired, rfl⟩ := Option.map_eq_some_iff.mp taken
      split <;> exact ⟨_, rfl, rfl, rfl, Or.inr (Or.inl ⟨idle, rfl, acquired⟩), fun _ => rfl⟩
  | reset | remove =>
      obtain ⟨rundown, acquired, rfl⟩ := Option.map_eq_some_iff.mp taken
      exact ⟨_, rfl, rfl, rfl, Or.inr (Or.inl ⟨idle, rfl, acquired⟩), fun _ => rfl⟩
  | _ => cases taken

theorem startHandleStep_user (srb : SrbId)
    (here : state.threads (.user user) = .startHandle srb) :
    ∃ next, UserStep state (startHandleStep props state (.user user) srb) user next := by
  unfold startHandleStep
  split
  · exact UserStep.working here (.startRefused srb) rfl rfl rfl rfl rfl rfl
  · dsimp only
    split
    · exact UserStep.working here (.startRefused srb) rfl rfl rfl rfl rfl rfl
    · exact UserStep.working here (.startAlloc srb _) rfl rfl rfl rfl rfl rfl

theorem startAllocStep_user (srb : SrbId) (range : ElementRange)
    (here : state.threads (.user user) = .startAlloc srb range)
    (taken : startAllocStep state (.user user) srb range choice = some after) :
    ∃ next, UserStep state after user next := by
  cases startAllocStep_cases taken with
  | pooled element | direct element =>
      exact UserStep.working here (.startFill srb range element) rfl rfl rfl rfl rfl rfl
  | fails => exact UserStep.working here (.startRefused srb) rfl rfl rfl rfl rfl rfl

theorem startIoStep_user (here : state.threads (.user user) = pc)
    (taken : startIoStep props state (.user user) pc choice = some after) :
    ∃ next, UserStep state after user next := by
  cases startIoStep_cases taken with
  | noDevice srb => exact UserStep.working here (.startRefused srb) rfl rfl rfl rfl rfl rfl
  | check srb => exact UserStep.working here (.startHandle srb) rfl rfl rfl rfl rfl rfl
  | handle srb => exact startHandleStep_user srb here
  | alloc srb range _ _ allocated => exact startAllocStep_user srb range here allocated
  | fill srb range element =>
      exact UserStep.working here (.startInsert element) rfl rfl rfl rfl rfl rfl
  | insert => exact UserStep.working here .startSignal rfl rfl rfl rfl rfl rfl
  | signal => exact UserStep.working here .release rfl rfl rfl rfl rfl rfl
  | refused srb =>
      have busy : (state.threads (.user user)).holdsReference = true := by rw [here]; rfl
      exact ⟨.startReport srb, rfl, rfl, rfl, Or.inr (Or.inr ⟨busy, rfl, rfl⟩), fun _ => rfl⟩
  | report srb =>
      have idle : (state.threads (.user user)).holdsReference = false := by rw [here]; rfl
      exact ⟨.idle, rfl, rfl, rfl, Or.inl ⟨idle, rfl⟩, fun _ => rfl⟩

theorem fetchStep_user (here : state.threads (.user user) = pc)
    (taken : fetchStep props state (.user user) pc choice = some after) :
    ∃ next, UserStep state after user next := by
  cases fetchStep_cases taken with
  | test bufferSize =>
      split
      · exact UserStep.working here .release rfl rfl rfl rfl rfl rfl
      · exact UserStep.working here (.fetchWait bufferSize) rfl rfl rfl rfl rfl rfl
  | woken bufferSize =>
      exact UserStep.working here (.fetchPop bufferSize) rfl rfl rfl rfl rfl rfl
  | interrupted => exact UserStep.working here .fetchAlerted rfl rfl rfl rfl rfl rfl
  | removed | alerted | drop | submit =>
      exact UserStep.working here .release rfl rfl rfl rfl rfl rfl
  | popNone bufferSize =>
      exact UserStep.working here (.fetchCheck bufferSize none) rfl rfl rfl rfl rfl rfl
  | pop bufferSize element =>
      exact UserStep.working here (.fetchCheck bufferSize (some element)) rfl rfl rfl rfl rfl rfl
  | retry bufferSize =>
      exact UserStep.working here (.fetchTest bufferSize) rfl rfl rfl rfl rfl rfl
  | keep bufferSize element =>
      exact UserStep.working here (.fetchPrepare bufferSize element) rfl rfl rfl rfl rfl rfl
  | prepare bufferSize element =>
      unfold fetchPrepared
      dsimp only
      split
      · exact UserStep.working here (.fetchSubmit element) rfl rfl rfl rfl rfl rfl
      · exact UserStep.working here (.complete element .release) rfl rfl rfl rfl rfl rfl
      all_goals
        exact UserStep.working here (.complete element (.fetchTest bufferSize)) rfl rfl rfl rfl rfl
          rfl

theorem responseStep_user (here : state.threads (.user user) = pc)
    (taken : responseStep state (.user user) pc choice = some after) :
    ∃ next, UserStep state after user next := by
  cases responseStep_cases taken with
  | unknown => exact UserStep.working here .release rfl rfl rfl rfl rfl rfl
  | take command element =>
      exact UserStep.working here (.responseApply command element) rfl rfl rfl rfl rfl rfl
  | apply command element =>
      split
      · exact UserStep.working here (.free element .release) rfl rfl rfl rfl rfl rfl
      · exact UserStep.working here (.complete element .release) rfl rfl rfl rfl rfl rfl

theorem drainNext_user (user : Nat) (checkStaleConn : Bool) (list : DrainedList) :
    (drainNext (.user user) checkStaleConn list).holdsReference = true ∧
      (drainNext (.user user) checkStaleConn list).monitorOnly = false := by
  cases list <;> exact ⟨rfl, rfl⟩

theorem drainEmptied_user (list : DrainedList) (checkStaleConn staleConnDetected : Bool)
    (here : state.threads (.user user) = .drain list checkStaleConn staleConnDetected) :
    ∃ next, UserStep state (state.setPc (.user user)
      (drainEmptied (.user user) list checkStaleConn staleConnDetected)) user next := by
  obtain ⟨busy, own⟩ := drainNext_user user checkStaleConn list
  cases staleConnDetected with
  | true =>
      exact UserStep.working here (.disconnectMark list checkStaleConn) rfl rfl rfl rfl rfl rfl
  | false => exact UserStep.working here _ rfl busy own rfl rfl rfl

theorem drainStep_user (here : state.threads (.user user) = pc)
    (taken : drainStep state (.user user) pc choice = some after) :
    ∃ next, UserStep state after user next := by
  cases drainStep_cases taken with
  | pendingNone checkStaleConn staleConnDetected =>
      exact drainEmptied_user .pending checkStaleConn staleConnDetected here
  | submittedNone checkStaleConn staleConnDetected =>
      exact drainEmptied_user .submitted checkStaleConn staleConnDetected here
  | pending checkStaleConn staleConnDetected element
  | submitted checkStaleConn staleConnDetected element =>
      exact UserStep.working here (.abort _ checkStaleConn staleConnDetected element) rfl rfl rfl rfl
        rfl rfl
  | abort list checkStaleConn staleConnDetected element =>
      exact UserStep.working here (.complete element _) rfl rfl rfl rfl rfl rfl
  | mark list checkStaleConn =>
      exact UserStep.working here (.disconnectSignal list checkStaleConn) rfl rfl rfl rfl rfl rfl
  | signal list checkStaleConn =>
      obtain ⟨busy, own⟩ := drainNext_user user checkStaleConn list
      exact UserStep.working here _ rfl busy own rfl rfl rfl

theorem Resume.pc_user (resume : Resume) :
    resume.pc.holdsReference = true ∧ resume.pc.monitorOnly = false := by
  cases resume <;> exact ⟨rfl, rfl⟩

theorem completionStep_user (here : state.threads (.user user) = pc)
    (taken : completionStep state (.user user) pc choice = some after) :
    ∃ next, UserStep state after user next := by
  cases completionStep_cases taken with
  | complete element resume =>
      split <;> exact UserStep.working here (.free element resume) rfl rfl rfl rfl rfl rfl
  | free element resume =>
      obtain ⟨busy, own⟩ := resume.pc_user
      unfold wnbdFreeSrbElement
      split <;> exact UserStep.working here resume.pc rfl busy own rfl rfl rfl
  | remove => exact UserStep.working here .release rfl rfl rfl rfl rfl rfl
  | release =>
      have busy : (state.threads (.user user)).holdsReference = true := by rw [here]; rfl
      exact ⟨.idle, rfl, rfl, rfl, Or.inr (Or.inr ⟨busy, rfl, rfl⟩), fun _ => rfl⟩

theorem deviceNext_user (own : (state.threads (.user user)).monitorOnly = false)
    (taken : deviceNext props state (.user user, choice) = some after) :
    ∃ next, UserStep state after user next := by
  cases deviceNext_cases taken with
  | begins here taken => exact beginStep_user here taken
  | startIo taken => exact startIoStep_user rfl taken
  | fetch taken => exact fetchStep_user rfl taken
  | response taken => exact responseStep_user rfl taken
  | drain taken => exact drainStep_user rfl taken
  | completion taken => exact completionStep_user rfl taken
  | monitor taken =>
      generalize here : state.threads (.user user) = pc at own taken
      cases monitorStep_cases taken <;> cases own

end UserSteps

end Wnbd.Device
