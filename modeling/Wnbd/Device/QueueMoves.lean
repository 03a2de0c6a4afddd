import Wnbd.Device.OwnershipSteps

/-!
# How a step moves the requests of a device

Every step of a thread is one of the moves of `QueueMove`: it says what happens
to the two queues and the semaphore, and between which steps the thread goes.
The counters kept next to the queues are read off from these moves.
-/

set_option autoImplicit false

namespace Wnbd.Device

open Wnbd.Scsi Wnbd.Dispatch DeviceState DeviceQueues

/-- What a thread has in its hands, as the gauges and the semaphore count it. -/
structure Load where
  /-- Requests received and not submitted. -/
  unsubmitted : Int
  /-- Requests taken off the submitted list. -/
  submitted : Int
  /-- Requests not completed. -/
  outstanding : Int
  /-- The thread has consumed a count of the semaphore and not popped yet. -/
  popping : Bool
  /-- The thread has inserted an element and not released the semaphore yet. -/
  signaling : Bool
deriving DecidableEq

def Load.none : Load := ⟨0, 0, 0, false, false⟩

def ThreadPc.load : ThreadPc → Load
  | .startHandle _ => { Load.none with outstanding := 1 }
  | .startAlloc _ _ | .startFill _ _ _ | .startInsert _ | .fetchCheck _ (some _)
  | .fetchPrepare _ _ | .fetchSubmit _ | .abort .pending _ _ _ =>
      { Load.none with unsubmitted := 1, outstanding := 1 }
  | .responseApply _ _ | .abort .submitted _ _ _ =>
      { Load.none with submitted := 1, outstanding := 1 }
  | .complete _ _ => { Load.none with outstanding := 1 }
  | .startSignal => { Load.none with signaling := true }
  | .fetchPop _ => { Load.none with popping := true }
  | _ => Load.none

/-- The lists, the semaphore and the accepted SRBs. -/
structure SameQueues (before after : DeviceState) : Prop where
  pending : after.queues.pendingReqList = before.queues.pendingReqList
  submitted : after.queues.submittedReqList = before.queues.submittedReqList
  lost : after.queues.lost = before.queues.lost
  deviceEvent : after.deviceEvent = before.deviceEvent
  accepted : after.ledger.accepted = before.ledger.accepted

/-- The lists after a step that changes one of them or the semaphore. -/
structure QueuesAre (after : DeviceState) (pending submitted lost : List ElementId)
    (deviceEvent : Nat) (accepted : List SrbId) : Prop where
  pending : after.queues.pendingReqList = pending
  submitted : after.queues.submittedReqList = submitted
  lost : after.queues.lost = lost
  deviceEvent : after.deviceEvent = deviceEvent
  accepted : after.ledger.accepted = accepted

/-- The moves of a thread, from its step to its next one. -/
inductive QueueMove (before after : DeviceState) : ThreadPc → ThreadPc → Prop
  /-- No request and no count changes hands. -/
  | quiet {old new : ThreadPc} (queues : SameQueues before after) (load : new.load = old.load) :
      QueueMove before after old new
  | handle (srb : SrbId) (queues : SameQueues before after) :
      QueueMove before after (.startCheck srb) (.startHandle srb)
  | refuse (srb : SrbId) (queues : SameQueues before after) :
      QueueMove before after (.startHandle srb) (.startRefused srb)
  | receive (srb : SrbId) (range : ElementRange) (queues : SameQueues before after) :
      QueueMove before after (.startHandle srb) (.startAlloc srb range)
  | exhausted (srb : SrbId) (range : ElementRange) (queues : SameQueues before after) :
      QueueMove before after (.startAlloc srb range) (.startRefused srb)
  | insert (element : ElementId) (srb : SrbId)
      (carries : (before.queues.heap element).bind (·.srb) = some srb)
      (queues : QueuesAre after (before.queues.pendingReqList ++ [element])
        before.queues.submittedReqList before.queues.lost before.deviceEvent
        (before.ledger.accepted ++ [srb])) :
      QueueMove before after (.startInsert element) .startSignal
  | signal (queues : QueuesAre after before.queues.pendingReqList before.queues.submittedReqList
        before.queues.lost (before.deviceEvent + 1) before.ledger.accepted) :
      QueueMove before after .startSignal .release
  | awake (bufferSize : UInt32) (signaled : 0 < before.deviceEvent)
      (queues : QueuesAre after before.queues.pendingReqList before.queues.submittedReqList
        before.queues.lost (before.deviceEvent - 1) before.ledger.accepted) :
      QueueMove before after (.fetchWait bufferSize) (.fetchPop bufferSize)
  | popNone (bufferSize : UInt32) (empty : before.queues.pendingReqList = [])
      (queues : SameQueues before after) :
      QueueMove before after (.fetchPop bufferSize) (.fetchCheck bufferSize none)
  | pop (bufferSize : UInt32) (element : ElementId) (rest : List ElementId)
      (head : before.queues.pendingReqList = element :: rest)
      (queues : QueuesAre after rest before.queues.submittedReqList before.queues.lost
        before.deviceEvent before.ledger.accepted) :
      QueueMove before after (.fetchPop bufferSize) (.fetchCheck bufferSize (some element))
  | drop (bufferSize : UInt32) (element : ElementId) (removing : before.hardRemoveDevice = true)
      (queues : QueuesAre after before.queues.pendingReqList before.queues.submittedReqList
        (before.queues.lost ++ [element]) before.deviceEvent before.ledger.accepted) :
      QueueMove before after (.fetchCheck bufferSize (some element)) .release
  | reject (bufferSize : UInt32) (element : ElementId) (resume : Resume)
      (queues : SameQueues before after) :
      QueueMove before after (.fetchPrepare bufferSize element) (.complete element resume)
  | submit (element : ElementId)
      (queues : QueuesAre after before.queues.pendingReqList
        (before.queues.submittedReqList ++ [element]) before.queues.lost before.deviceEvent
        before.ledger.accepted) :
      QueueMove before after (.fetchSubmit element) .release
  | take (command : SendRspCommand) (element : ElementId)
      (member : element ∈ before.queues.submittedReqList)
      (queues : QueuesAre after before.queues.pendingReqList
        (before.queues.submittedReqList.erase element) before.queues.lost before.deviceEvent
        before.ledger.accepted) :
      QueueMove before after (.responseTake command) (.responseApply command element)
  | apply (command : SendRspCommand) (element : ElementId) (queues : SameQueues before after) :
      QueueMove before after (.responseApply command element) (.complete element .release)
  | drainPending (checkStaleConn staleConnDetected : Bool) (element : ElementId)
      (rest : List ElementId) (head : before.queues.pendingReqList = element :: rest)
      (queues : QueuesAre after rest before.queues.submittedReqList before.queues.lost
        before.deviceEvent before.ledger.accepted) :
      QueueMove before after (.drain .pending checkStaleConn staleConnDetected)
        (.abort .pending checkStaleConn staleConnDetected element)
  | drainSubmitted (checkStaleConn staleConnDetected : Bool) (element : ElementId)
      (member : element ∈ before.queues.submittedReqList)
      (queues : QueuesAre after before.queues.pendingReqList
        (before.queues.submittedReqList.erase element) before.queues.lost before.deviceEvent
        before.ledger.accepted) :
      QueueMove before after (.drain .submitted checkStaleConn staleConnDetected)
        (.abort .submitted checkStaleConn staleConnDetected element)
  | abort (list : DrainedList) (checkStaleConn staleConnDetected : Bool) (element : ElementId)
      (resume : Resume) (queues : SameQueues before after) :
      QueueMove before after (.abort list checkStaleConn staleConnDetected element)
        (.complete element resume)
  | complete (element : ElementId) (resume : Resume) (queues : SameQueues before after) :
      QueueMove before after (.complete element resume) (.free element resume)

/-- The SRB a StartIo thread still has to queue or to report itself. -/
def ThreadPc.newSrb (heap : ElementId → Option SrbQueueElement) : ThreadPc → Option SrbId
  | .startInsert element => (heap element).bind (·.srb)
  | pc => pc.startingSrb

/-- The thread of the step moves on and the others stay where they are.  Of the
elements in use the step writes at most the one in the thread's hands. -/
structure MovesTo (before after : DeviceState) (thread : ThreadId) (next : ThreadPc) : Prop where
  threads : after.threads = Function.update before.threads thread next
  move : QueueMove before after (before.threads thread) next
  heap : ∀ element, (before.threads thread).hand ≠ some element →
    before.queues.heap element ≠ none → after.queues.heap element = before.queues.heap element
  newSrb : ∀ srb, next.newSrb after.queues.heap = some srb →
    (before.threads thread).newSrb before.queues.heap = some srb ∨ srb = before.ledger.issued

def MovesOn (before after : DeviceState) (thread : ThreadId) : Prop :=
  ∃ next, MovesTo before after thread next

section Moves

variable {props : WnbdProperties} {state after : DeviceState} {thread : ThreadId} {pc : ThreadPc}
variable {choice : Choice}

theorem MovesOn.writes (next : ThreadPc) (here : state.threads thread = pc)
    (threads : after.threads = Function.update state.threads thread next)
    (move : QueueMove state after pc next)
    (heap : ∀ element, pc.hand ≠ some element → state.queues.heap element ≠ none →
      after.queues.heap element = state.queues.heap element)
    (newSrb : ∀ srb, next.newSrb after.queues.heap = some srb →
      pc.newSrb state.queues.heap = some srb ∨ srb = state.ledger.issued) :
    MovesOn state after thread := by
  subst here
  exact ⟨next, threads, move, heap, newSrb⟩

theorem MovesOn.of (next : ThreadPc) (here : state.threads thread = pc)
    (threads : after.threads = Function.update state.threads thread next)
    (move : QueueMove state after pc next) (heap : after.queues.heap = state.queues.heap)
    (newSrb : next.newSrb state.queues.heap = none ∨
      next.newSrb state.queues.heap = pc.newSrb state.queues.heap) :
    MovesOn state after thread := by
  refine .writes next here threads move (fun element _ _ => by rw [heap]) ?_
  intro srb started
  rw [heap] at started
  rcases newSrb with none | same
  · rw [none] at started
    cases started
  · exact Or.inl (same ▸ started)

theorem MovesOn.quiet (next : ThreadPc) (here : state.threads thread = pc)
    (threads : after.threads = Function.update state.threads thread next)
    (load : next.load = pc.load) (queues : SameQueues state after)
    (heap : after.queues.heap = state.queues.heap)
    (newSrb : next.newSrb state.queues.heap = none ∨
      next.newSrb state.queues.heap = pc.newSrb state.queues.heap) :
    MovesOn state after thread :=
  .of next here threads (.quiet queues load) heap newSrb

theorem MovesOn.writesHand (next : ThreadPc) (here : state.threads thread = pc)
    (threads : after.threads = Function.update state.threads thread next)
    (move : QueueMove state after pc next) (element : ElementId) (value : Option SrbQueueElement)
    (full : pc.hand = some element)
    (heap : after.queues.heap = Function.update state.queues.heap element value)
    (newSrb : next.newSrb after.queues.heap = none ∨
      next.newSrb after.queues.heap = pc.newSrb state.queues.heap) :
    MovesOn state after thread := by
  refine .writes next here threads move ?_ ?_
  · intro other different _
    rw [heap]
    refine Function.update_of_ne ?_ _ _
    rintro rfl
    exact different full
  · intro srb started
    rcases newSrb with none | same
    · rw [none] at started
      cases started
    · exact Or.inl (same ▸ started)

theorem beginStep_moves (here : state.threads thread = .idle)
    (taken : beginStep props state thread choice = some after) : MovesOn state after thread := by
  cases choice with
  | startIo contents =>
      have issued : ∀ srb, some state.ledger.issued = some srb →
          ThreadPc.idle.newSrb state.queues.heap = some srb ∨ srb = state.ledger.issued := by
        rintro _ ⟨⟩
        exact Or.inr rfl
      dsimp only [beginStep] at taken
      split at taken <;> cases taken <;>
        exact .writes _ here rfl (.quiet ⟨rfl, rfl, rfl, rfl, rfl⟩ rfl) (fun _ _ _ => rfl) issued
  | fetch requestorPid bufferSize =>
      obtain ⟨rundown, -, rfl⟩ := Option.map_eq_some_iff.mp taken
      split <;> exact .quiet _ here rfl rfl ⟨rfl, rfl, rfl, rfl, rfl⟩ rfl (Or.inl rfl)
  | respond requestorPid command =>
      obtain ⟨rundown, -, rfl⟩ := Option.map_eq_some_iff.mp taken
      split <;> exact .quiet _ here rfl rfl ⟨rfl, rfl, rfl, rfl, rfl⟩ rfl (Or.inl rfl)
  | reset | remove =>
      obtain ⟨rundown, -, rfl⟩ := Option.map_eq_some_iff.mp taken
      exact .quiet _ here rfl rfl ⟨rfl, rfl, rfl, rfl, rfl⟩ rfl (Or.inl rfl)
  | _ => cases taken

theorem startHandleStep_moves (srb : SrbId) (here : state.threads thread = .startHandle srb) :
    MovesOn state (startHandleStep props state thread srb) thread := by
  unfold startHandleStep
  split
  · exact .of _ here rfl (.refuse srb ⟨rfl, rfl, rfl, rfl, rfl⟩) rfl (Or.inr rfl)
  · dsimp only
    split
    · exact .of _ here rfl (.refuse srb ⟨rfl, rfl, rfl, rfl, rfl⟩) rfl (Or.inr rfl)
    · exact .of _ here rfl (.receive srb _ ⟨rfl, rfl, rfl, rfl, rfl⟩) rfl (Or.inr rfl)

theorem startAllocStep_moves (srb : SrbId) (range : ElementRange)
    (here : state.threads thread = .startAlloc srb range)
    (taken : startAllocStep state thread srb range choice = some after) :
    MovesOn state after thread := by
  cases startAllocStep_cases taken with
  | pooled => exact .quiet _ here rfl rfl ⟨rfl, rfl, rfl, rfl, rfl⟩ rfl (Or.inr rfl)
  | direct element empty unused =>
      refine .writes _ here rfl (.quiet ⟨rfl, rfl, rfl, rfl, rfl⟩ rfl) ?_
        fun _ started => Or.inl started
      intro other _ used
      refine Function.update_of_ne ?_ _ _
      rintro rfl
      exact used unused
  | fails => exact .of _ here rfl (.exhausted srb range ⟨rfl, rfl, rfl, rfl, rfl⟩) rfl (Or.inr rfl)

theorem startIoStep_moves (here : state.threads thread = pc)
    (taken : startIoStep props state thread pc choice = some after) :
    MovesOn state after thread := by
  cases startIoStep_cases taken with
  | noDevice => exact .quiet _ here rfl rfl ⟨rfl, rfl, rfl, rfl, rfl⟩ rfl (Or.inr rfl)
  | check srb => exact .of _ here rfl (.handle srb ⟨rfl, rfl, rfl, rfl, rfl⟩) rfl (Or.inr rfl)
  | handle srb => exact startHandleStep_moves srb here
  | alloc srb range _ _ allocated => exact startAllocStep_moves srb range here allocated
  | fill srb range element value =>
      refine .writesHand _ here rfl (.quiet ⟨rfl, rfl, rfl, rfl, rfl⟩ rfl) element _ rfl rfl
        (Or.inr ?_)
      simp only [ThreadPc.newSrb, setPc, setElement, Function.update_self, Option.bind_some]
      rfl
  | insert element value srb stored points =>
      exact .of _ here rfl
        (.insert element srb (by rw [stored]; exact points) ⟨rfl, rfl, rfl, rfl, rfl⟩) rfl
        (Or.inl rfl)
  | signal => exact .of _ here rfl (.signal ⟨rfl, rfl, rfl, rfl, rfl⟩) rfl (Or.inl rfl)
  | refused => exact .quiet _ here rfl rfl ⟨rfl, rfl, rfl, rfl, rfl⟩ rfl (Or.inr rfl)
  | report => exact .quiet _ here rfl rfl ⟨rfl, rfl, rfl, rfl, rfl⟩ rfl (Or.inl rfl)

theorem fetchPrepareStep_moves (bufferSize : UInt32) (element : ElementId) (tag : UInt64)
    (value : SrbQueueElement) (srb : SrbId) (faults : FetchFaults)
    (here : state.threads thread = .fetchPrepare bufferSize element) :
    MovesOn state (fetchPrepared props state thread bufferSize element tag value srb faults)
      thread := by
  unfold fetchPrepared
  dsimp only
  split
  · exact .writesHand _ here rfl (.quiet ⟨rfl, rfl, rfl, rfl, rfl⟩ rfl) element _ rfl rfl
      (Or.inl rfl)
  all_goals
    exact .writesHand _ here rfl (.reject bufferSize element _ ⟨rfl, rfl, rfl, rfl, rfl⟩) element _
      rfl rfl (Or.inl rfl)

theorem fetchStep_moves (here : state.threads thread = pc)
    (taken : fetchStep props state thread pc choice = some after) :
    MovesOn state after thread := by
  cases fetchStep_cases taken with
  | test =>
      split <;> exact .quiet _ here rfl rfl ⟨rfl, rfl, rfl, rfl, rfl⟩ rfl (Or.inl rfl)
  | woken bufferSize signaled =>
      exact .of _ here rfl (.awake bufferSize signaled ⟨rfl, rfl, rfl, rfl, rfl⟩) rfl (Or.inl rfl)
  | removed | interrupted | alerted | retry | keep =>
      exact .quiet _ here rfl rfl ⟨rfl, rfl, rfl, rfl, rfl⟩ rfl (Or.inl rfl)
  | popNone bufferSize empty =>
      exact .of _ here rfl (.popNone bufferSize empty ⟨rfl, rfl, rfl, rfl, rfl⟩) rfl (Or.inl rfl)
  | pop bufferSize element rest head =>
      exact .of _ here rfl (.pop bufferSize element rest head ⟨rfl, rfl, rfl, rfl, rfl⟩) rfl
        (Or.inl rfl)
  | drop bufferSize popped removing =>
      cases popped with
      | none =>
          exact .quiet _ here rfl rfl ⟨rfl, rfl, List.append_nil _, rfl, rfl⟩ rfl (Or.inl rfl)
      | some element =>
          exact .of _ here rfl (.drop bufferSize element removing ⟨rfl, rfl, rfl, rfl, rfl⟩) rfl
            (Or.inl rfl)
  | prepare bufferSize element elsewhere faults value srb =>
      exact fetchPrepareStep_moves bufferSize element _ value srb faults here
  | submit element =>
      exact .of _ here rfl (.submit element ⟨rfl, rfl, rfl, rfl, rfl⟩) rfl (Or.inl rfl)

/-- A submitted element was not aborted, so a response completes it. -/
theorem responseStep_moves (inv : DeviceInv state) (here : state.threads thread = pc)
    (taken : responseStep state thread pc choice = some after) : MovesOn state after thread := by
  cases responseStep_cases taken with
  | unknown => exact .quiet _ here rfl rfl ⟨rfl, rfl, rfl, rfl, rfl⟩ rfl (Or.inl rfl)
  | take command element found =>
      exact .of _ here rfl (.take command element
        (findSubmittedByTag_mem state inv _ element found) ⟨rfl, rfl, rfl, rfl, rfl⟩) rfl
        (Or.inl rfl)
  | apply command element faults value srb stored =>
      have full : (state.threads thread).hand = some element := by rw [here]; rfl
      obtain ⟨found, same, queued⟩ := inv.elements.held thread element full
      rw [here] at queued
      cases stored.symm.trans same
      rw [queued.1]
      exact .of _ here rfl (.apply command element ⟨rfl, rfl, rfl, rfl, rfl⟩) rfl (Or.inl rfl)

theorem drainNext_load (thread : ThreadId) (checkStaleConn : Bool) (list : DrainedList) :
    (drainNext thread checkStaleConn list).load = Load.none ∧
      ∀ heap, (drainNext thread checkStaleConn list).newSrb heap = none := by
  cases list with
  | pending => exact ⟨rfl, fun _ => rfl⟩
  | submitted => cases thread <;> exact ⟨rfl, fun _ => rfl⟩

theorem drainEmptied_moves (list : DrainedList) (checkStaleConn staleConnDetected : Bool)
    (here : state.threads thread = .drain list checkStaleConn staleConnDetected) :
    MovesOn state (state.setPc thread (drainEmptied thread list checkStaleConn staleConnDetected))
      thread := by
  obtain ⟨load, none⟩ := drainNext_load thread checkStaleConn list
  cases staleConnDetected with
  | true => exact .quiet _ here rfl rfl ⟨rfl, rfl, rfl, rfl, rfl⟩ rfl (Or.inl rfl)
  | false => exact .quiet _ here rfl load ⟨rfl, rfl, rfl, rfl, rfl⟩ rfl (Or.inl (none _))

theorem drainStep_moves (here : state.threads thread = pc)
    (taken : drainStep state thread pc choice = some after) : MovesOn state after thread := by
  cases drainStep_cases taken with
  | pendingNone checkStaleConn staleConnDetected =>
      exact drainEmptied_moves .pending checkStaleConn staleConnDetected here
  | submittedNone checkStaleConn staleConnDetected =>
      exact drainEmptied_moves .submitted checkStaleConn staleConnDetected here
  | pending checkStaleConn staleConnDetected element rest head =>
      exact .of _ here rfl
        (.drainPending checkStaleConn staleConnDetected element rest head ⟨rfl, rfl, rfl, rfl, rfl⟩)
        rfl (Or.inl rfl)
  | submitted checkStaleConn staleConnDetected element rest head =>
      exact .of _ here rfl
        (.drainSubmitted checkStaleConn staleConnDetected element
          (by rw [head]; exact List.mem_cons_self) ⟨rfl, rfl, rfl, rfl, rfl⟩) rfl (Or.inl rfl)
  | abort list checkStaleConn staleConnDetected element =>
      exact .writesHand _ here rfl
        (.abort list checkStaleConn staleConnDetected element _ ⟨rfl, rfl, rfl, rfl, rfl⟩) element _
        rfl rfl (Or.inl rfl)
  | mark => exact .quiet _ here rfl rfl ⟨rfl, rfl, rfl, rfl, rfl⟩ rfl (Or.inl rfl)
  | signal list checkStaleConn =>
      obtain ⟨load, none⟩ := drainNext_load thread checkStaleConn list
      exact .quiet _ here rfl load ⟨rfl, rfl, rfl, rfl, rfl⟩ rfl (Or.inl (none _))

theorem Resume.pc_load (resume : Resume) : resume.pc.load = Load.none ∧
    ∀ heap, resume.pc.newSrb heap = none := by
  cases resume <;> exact ⟨rfl, fun _ => rfl⟩

theorem completionStep_moves (here : state.threads thread = pc)
    (taken : completionStep state thread pc choice = some after) :
    MovesOn state after thread := by
  cases completionStep_cases taken with
  | complete element resume =>
      split
      · exact .of _ here rfl (.complete element resume ⟨rfl, rfl, rfl, rfl, rfl⟩) rfl (Or.inl rfl)
      · exact .writesHand _ here rfl (.complete element resume ⟨rfl, rfl, rfl, rfl, rfl⟩) element _
          rfl rfl (Or.inl rfl)
  | free element resume =>
      obtain ⟨load, none⟩ := resume.pc_load
      unfold wnbdFreeSrbElement
      split
      · exact .quiet _ here rfl load ⟨rfl, rfl, rfl, rfl, rfl⟩ rfl (Or.inl (none _))
      · exact .writesHand _ here rfl (.quiet ⟨rfl, rfl, rfl, rfl, rfl⟩ load) element _ rfl rfl
          (Or.inl (none _))
  | remove | release => exact .quiet _ here rfl rfl ⟨rfl, rfl, rfl, rfl, rfl⟩ rfl (Or.inl rfl)

theorem monitorStep_moves (here : state.threads thread = pc)
    (taken : monitorStep state thread pc choice = some after) : MovesOn state after thread := by
  cases monitorStep_cases taken with
  | freeElement element =>
      exact .writesHand _ here rfl (.quiet ⟨rfl, rfl, rfl, rfl, rfl⟩ rfl) _ _ rfl rfl (Or.inl rfl)
  | _ => exact .quiet _ here rfl rfl ⟨rfl, rfl, rfl, rfl, rfl⟩ rfl (Or.inl rfl)

theorem deviceNext_moves (inv : DeviceInv state)
    (taken : deviceNext props state (thread, choice) = some after) :
    MovesOn state after thread := by
  cases deviceNext_cases taken with
  | begins here taken => exact beginStep_moves here taken
  | startIo taken => exact startIoStep_moves rfl taken
  | fetch taken => exact fetchStep_moves rfl taken
  | response taken => exact responseStep_moves inv rfl taken
  | drain taken => exact drainStep_moves rfl taken
  | completion taken => exact completionStep_moves rfl taken
  | monitor taken => exact monitorStep_moves rfl taken

end Moves

end Wnbd.Device
