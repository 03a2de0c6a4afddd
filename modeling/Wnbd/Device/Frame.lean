import Wnbd.Device.OwnershipSteps

/-!
# What a step leaves alone

`touchedSrbs` lists the SRBs whose contents a step reads or writes, and
`droppedElements` the element a fetch call forgets.  No other SRB changes, and
no other element is lost.
-/

set_option autoImplicit false

namespace Wnbd.Device

open Wnbd.Scsi Wnbd.Dispatch DeviceState DeviceQueues

/-- The SRB an element points to. -/
def elementSrb (state : DeviceState) (element : ElementId) : List SrbId :=
  ((state.queues.heap element).bind (·.srb)).toList

/-- The SRBs whose contents a step reads or writes.  `CompleteRequest` only looks
at the SRB when its exchange finds the element not completed. -/
def touchedSrbs (state : DeviceState) (action : ThreadId × Choice) : List SrbId :=
  match state.threads action.1 with
  | .idle =>
      match action.2 with
      | .startIo _ => [state.ledger.issued]
      | _ => []
  | .startCheck srb | .startHandle srb | .startAlloc srb _ | .startRefused srb
  | .startReport srb => [srb]
  | .fetchPrepare _ element | .responseApply _ element | .abort _ _ _ element =>
      elementSrb state element
  | .complete element _ => carried (state.queues.heap element)
  | _ => []

/-- A fetch call that sees the removal flag behind the pop leaves the popped
element behind. -/
def droppedElements (state : DeviceState) (action : ThreadId × Choice) : List ElementId :=
  match state.threads action.1 with
  | .fetchCheck _ taken => if state.hardRemoveDevice then taken.toList else []
  | _ => []

structure StepFrame (state after : DeviceState) (action : ThreadId × Choice) : Prop where
  srbs : ∀ srb, srb ∉ touchedSrbs state action → after.ledger.srbs srb = state.ledger.srbs srb
  lost : after.queues.lost = state.queues.lost ++ droppedElements state action

section Frame

variable {props : WnbdProperties} {state after : DeviceState} {thread : ThreadId} {pc : ThreadPc}
variable {choice : Choice}

theorem StepFrame.same (none : droppedElements state (thread, choice) = [])
    (srbs : after.ledger.srbs = state.ledger.srbs)
    (lost : after.queues.lost = state.queues.lost ) :
    StepFrame state after (thread, choice) where
  srbs srb _ := congrFun srbs srb
  lost := by rw [none, lost, List.append_nil]

theorem StepFrame.write (srb : SrbId) (value : Srb)
    (touched : srb ∈ touchedSrbs state (thread, choice))
    (none : droppedElements state (thread, choice) = [])
    (srbs : after.ledger.srbs = Function.update state.ledger.srbs srb value )
    (lost : after.queues.lost = state.queues.lost ) :
    StepFrame state after (thread, choice) where
  srbs other untouched := by
    have different : other ≠ srb := fun equal => untouched (equal ▸ touched)
    rw [srbs, Function.update_of_ne different]
  lost := by rw [none, lost, List.append_nil]

theorem beginStep_frame (here : state.threads thread = .idle)
    (taken : beginStep props state thread choice = some after) :
    StepFrame state after (thread, choice) := by
  have none : ∀ choice, droppedElements state (thread, choice) = [] := by
    simp [droppedElements, here]
  cases choice with
  | startIo contents =>
      have touched : state.ledger.issued ∈ touchedSrbs state (thread, .startIo contents) := by
        simp [touchedSrbs, here]
      dsimp only [beginStep] at taken
      split at taken <;> cases taken <;> exact .write _ _ touched (none _) rfl rfl
  | fetch | respond | reset | remove =>
      obtain ⟨rundown, -, rfl⟩ := Option.map_eq_some_iff.mp taken
      exact .same (none _) rfl rfl
  | _ => cases taken

theorem startHandleStep_frame (srb : SrbId) (here : state.threads thread = .startHandle srb) :
    StepFrame state (startHandleStep props state thread srb) (thread, choice) := by
  have none : droppedElements state (thread, choice) = [] := by simp [droppedElements, here]
  have touched : srb ∈ touchedSrbs state (thread, choice) := by simp [touchedSrbs, here]
  unfold startHandleStep
  split
  · exact .write srb _ touched none rfl rfl
  · dsimp only
    split <;> exact .write srb _ touched none rfl rfl

theorem startAllocStep_frame (srb : SrbId) (range : ElementRange)
    (here : state.threads thread = .startAlloc srb range)
    (taken : startAllocStep state thread srb range choice = some after) :
    StepFrame state after (thread, choice) := by
  have none : ∀ choice, droppedElements state (thread, choice) = [] := by
    simp [droppedElements, here]
  cases startAllocStep_cases taken with
  | pooled | direct => exact .same (none _) rfl rfl
  | fails => exact .write srb _ (by simp [touchedSrbs, here]) (none _) rfl rfl

theorem startIoStep_frame (here : state.threads thread = pc)
    (taken : startIoStep props state thread pc choice = some after) :
    StepFrame state after (thread, choice) := by
  cases startIoStep_cases taken with
  | handle srb => exact startHandleStep_frame srb here
  | alloc srb range _ _ allocated => exact startAllocStep_frame srb range here allocated
  | noDevice srb =>
      exact .write srb _ (by simp [touchedSrbs, here]) (by simp [droppedElements, here]) rfl rfl
  | check | fill | insert | signal | refused | report =>
      exact .same (by simp [droppedElements, here]) rfl rfl

theorem fetchStep_frame (here : state.threads thread = pc)
    (taken : fetchStep props state thread pc choice = some after) :
    StepFrame state after (thread, choice) := by
  cases fetchStep_cases taken with
  | drop bufferSize popped removing =>
      exact ⟨fun _ _ => rfl, by simp [droppedElements, here, removing, setPc]⟩
  | retry | keep =>
      rename_i serving
      exact .same (by simp [droppedElements, here, serving]) rfl rfl
  | prepare bufferSize element elsewhere faults value srb stored points =>
      exact .write srb _ (by simp [touchedSrbs, here, elementSrb, stored, points])
        (by simp [droppedElements, here]) rfl rfl
  | _ => exact .same (by simp [droppedElements, here]) rfl rfl

theorem responseStep_frame (here : state.threads thread = pc)
    (taken : responseStep state thread pc choice = some after) :
    StepFrame state after (thread, choice) := by
  cases responseStep_cases taken with
  | unknown | take => exact .same (by simp [droppedElements, here]) rfl rfl
  | apply command element faults value srb stored points =>
      exact .write srb _ (by simp [touchedSrbs, here, elementSrb, stored, points])
        (by simp [droppedElements, here]) rfl rfl

theorem drainStep_frame (here : state.threads thread = pc)
    (taken : drainStep state thread pc choice = some after) :
    StepFrame state after (thread, choice) := by
  cases drainStep_cases taken with
  | abort list checkStaleConn staleConnDetected element detected value srb stored points =>
      exact .write srb _ (by simp [touchedSrbs, here, elementSrb, stored, points])
        (by simp [droppedElements, here]) rfl rfl
  | _ => exact .same (by simp [droppedElements, here]) rfl rfl

theorem completionStep_frame (here : state.threads thread = pc)
    (taken : completionStep state thread pc choice = some after) :
    StepFrame state after (thread, choice) := by
  cases completionStep_cases taken with
  | complete element resume =>
      split <;> exact .same (by simp [droppedElements, here]) rfl rfl
  | free element resume =>
      unfold wnbdFreeSrbElement
      split <;> exact .same (by simp [droppedElements, here]) rfl rfl
  | remove | release => exact .same (by simp [droppedElements, here]) rfl rfl

theorem monitorStep_frame (here : state.threads thread = pc)
    (taken : monitorStep state thread pc choice = some after) :
    StepFrame state after (thread, choice) := by
  cases monitorStep_cases taken <;> exact .same (by simp [droppedElements, here]) rfl rfl

theorem deviceNext_frame {action : ThreadId × Choice}
    (taken : deviceNext props state action = some after) : StepFrame state after action := by
  obtain ⟨thread, choice⟩ := action
  cases deviceNext_cases taken with
  | begins here taken => exact beginStep_frame here taken
  | startIo taken => exact startIoStep_frame rfl taken
  | fetch taken => exact fetchStep_frame rfl taken
  | response taken => exact responseStep_frame rfl taken
  | drain taken => exact drainStep_frame rfl taken
  | completion taken => exact completionStep_frame rfl taken
  | monitor taken => exact monitorStep_frame rfl taken

end Frame

end Wnbd.Device
