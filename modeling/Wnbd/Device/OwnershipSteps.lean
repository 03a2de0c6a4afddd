import Wnbd.Device.Ownership
import Wnbd.Device.StepCases

/-!
# Every step keeps ownership

One lemma for each group of steps, by the cases of the step function; each case
is one of the moves of `ElementInv` and `SrbInv`.
-/

set_option autoImplicit false

namespace Wnbd.Device

open Wnbd.Scsi Wnbd.Dispatch Placement HashIndex DeviceState DeviceQueues

/-! ## Steps that move nothing -/

/-- Only the thread moves, apart from SRB contents, events, flags and the rundown
count. -/
structure OnlyMoves (state after : DeviceState) (thread : ThreadId) (pc : ThreadPc) : Prop where
  threads : after.threads = Function.update state.threads thread pc
  queues : after.queues = state.queues
  reported : after.ledger.reported = state.ledger.reported
  issued : after.ledger.issued = state.ledger.issued
  accepted : after.ledger.accepted = state.ledger.accepted

section Quiet

variable {state after : DeviceState} (inv : DeviceInv state) (thread : ThreadId)
variable {before : ThreadPc} (here : state.threads thread = before) (pc : ThreadPc)
include inv here

theorem DeviceInv.keep
    (holds : ∀ element value, pc.hand = some element → state.queues.heap element = some value →
      before.phase.Holds state.ledger.accepted value → pc.phase.Holds state.ledger.accepted value)
    (hand : pc.hand = before.hand) (starting : pc.startingSrb = before.startingSrb)
    (moves : OnlyMoves state after thread pc) : DeviceInv after where
  elements := by
    rw [moves.queues, moves.threads, moves.accepted]
    exact inv.elements.setPc thread pc (fun _ member => member) (by rw [hand, here])
      (by rw [here]; exact holds)
  srbs := by
    rw [moves.queues, moves.threads]
    exact inv.srbs.keep thread pc (by rw [starting, here]) (fun _ => rfl) moves.reported
      moves.issued fun srb member => Or.inl (moves.accepted ▸ member)

/-- `keep` for a thread with empty hands. -/
theorem DeviceInv.idle (empty : pc.hand = none) (emptyBefore : before.hand = none)
    (starting : pc.startingSrb = before.startingSrb) (moves : OnlyMoves state after thread pc) :
    DeviceInv after :=
  inv.keep thread here pc
    (fun element value full => by
      rw [empty] at full
      cases full)
    (empty.trans emptyBefore.symm) starting moves

end Quiet

/-! ## Calls into the driver -/

theorem beginStep_inv (props : WnbdProperties) (state after : DeviceState) (thread : ThreadId)
    (choice : Choice) (inv : DeviceInv state) (here : state.threads thread = .idle)
    (taken : beginStep props state thread choice = some after) : DeviceInv after := by
  cases choice with
  | startIo contents =>
      have started : ∀ (contents : Srb) (rundown : Rundown) (pc : ThreadPc), pc.hand = none →
          pc.startingSrb = some state.ledger.issued →
          DeviceInv ({ { state.setSrb state.ledger.issued contents with
            ledger.issued := state.ledger.issued + 1 } with rundown }.setPc thread pc) :=
        fun contents rundown pc empty full =>
          { elements := inv.elements.setPc thread pc (fun _ member => member)
              (by rw [empty, here]; rfl)
              (fun element value found => by rw [empty] at found; cases found)
            srbs := inv.srbs.begin thread pc (by rw [here]; rfl) full _ }
      dsimp only [beginStep] at taken
      split at taken <;> cases taken
      · exact started _ state.rundown _ rfl rfl
      · exact started _ _ _ rfl rfl
  | fetch requestorPid bufferSize =>
      obtain ⟨rundown, -, rfl⟩ := Option.map_eq_some_iff.mp taken
      split
      · exact inv.idle thread here .release rfl rfl rfl ⟨rfl, rfl, rfl, rfl, rfl⟩
      · exact inv.idle thread here (.fetchTest bufferSize) rfl rfl rfl ⟨rfl, rfl, rfl, rfl, rfl⟩
  | respond requestorPid command =>
      obtain ⟨rundown, -, rfl⟩ := Option.map_eq_some_iff.mp taken
      split
      · exact inv.idle thread here .release rfl rfl rfl ⟨rfl, rfl, rfl, rfl, rfl⟩
      · exact inv.idle thread here (.responseTake command) rfl rfl rfl ⟨rfl, rfl, rfl, rfl, rfl⟩
  | reset =>
      obtain ⟨rundown, -, rfl⟩ := Option.map_eq_some_iff.mp taken
      exact inv.idle thread here (.drain .pending true false) rfl rfl rfl ⟨rfl, rfl, rfl, rfl, rfl⟩
  | remove =>
      obtain ⟨rundown, -, rfl⟩ := Option.map_eq_some_iff.mp taken
      exact inv.idle thread here .removeSignal rfl rfl rfl ⟨rfl, rfl, rfl, rfl, rfl⟩
  | _ => cases taken

/-! ## StartIo -/

theorem startHandleStep_inv (props : WnbdProperties) (state : DeviceState) (thread : ThreadId)
    (srb : SrbId) (inv : DeviceInv state) (here : state.threads thread = .startHandle srb) :
    DeviceInv (startHandleStep props state thread srb) := by
  unfold startHandleStep
  split
  · exact inv.idle thread here (.startRefused srb) rfl rfl rfl ⟨rfl, rfl, rfl, rfl, rfl⟩
  · dsimp only
    split
    · exact inv.idle thread here (.startRefused srb) rfl rfl rfl ⟨rfl, rfl, rfl, rfl, rfl⟩
    · exact inv.idle thread here (.startAlloc srb _) rfl rfl rfl ⟨rfl, rfl, rfl, rfl, rfl⟩

theorem startAllocStep_inv (state after : DeviceState) (thread : ThreadId) (srb : SrbId)
    (range : ElementRange) (choice : Choice) (inv : DeviceInv state)
    (here : state.threads thread = .startAlloc srb range)
    (taken : startAllocStep state thread srb range choice = some after) : DeviceInv after := by
  cases startAllocStep_cases taken with
  | pooled element rest pool =>
      exact
        { elements := inv.elements.pick thread (.startFill srb range element) element .pool
            (by rw [here]; rfl) rfl (takes_pool_head state.queues state.threads element rest pool)
            rfl (fun value spare => spare) inv.elements.indexed
          srbs := inv.srbs.keep thread _ (by rw [here]; rfl) (fun _ => rfl) rfl rfl
            fun _ member => Or.inl member }
  | direct element empty unused =>
      exact
        { elements := inv.elements.allocate thread (.startFill srb range element) element
            (.zeroed false) unused (by rw [here]; rfl) rfl rfl
          srbs := inv.srbs.keep thread _ (by rw [here]; rfl)
            (carried_update _ element _ (by rw [unused]; rfl)) rfl rfl
            fun _ member => Or.inl member }
  | fails empty =>
      exact inv.idle thread here (.startRefused srb) rfl rfl rfl ⟨rfl, rfl, rfl, rfl, rfl⟩

theorem startIoStep_inv (props : WnbdProperties) (state after : DeviceState) (thread : ThreadId)
    (pc : ThreadPc) (choice : Choice) (inv : DeviceInv state) (here : state.threads thread = pc)
    (taken : startIoStep props state thread pc choice = some after) : DeviceInv after := by
  cases startIoStep_cases taken with
  | noDevice srb =>
      exact inv.idle thread here (.startRefused srb) rfl rfl rfl ⟨rfl, rfl, rfl, rfl, rfl⟩
  | check srb =>
      exact inv.idle thread here (.startHandle srb) rfl rfl rfl ⟨rfl, rfl, rfl, rfl, rfl⟩
  | handle srb => exact startHandleStep_inv props state thread srb inv here
  | alloc srb range _ _ allocated =>
      exact startAllocStep_inv state after thread srb range choice inv here allocated
  | fill srb range element value stored =>
      obtain ⟨found, same, spare⟩ := inv.elements.held thread element (by rw [here]; rfl)
      rw [here] at spare
      cases stored.symm.trans same
      exact
        { elements := inv.elements.write thread (.startInsert element) element _ (by rw [here]; rfl)
            rfl ⟨rfl, rfl, srb, rfl⟩
          srbs := inv.srbs.fill thread (.startInsert element) srb element _ (by rw [here]; rfl) rfl
            (by rw [stored]; exact spare) rfl }
  | insert element value srb stored carriesSrb =>
      have full : (state.threads thread).hand = some element := by rw [here]; rfl
      obtain ⟨found, same, filled⟩ := inv.elements.held thread element full
      rw [here] at filled
      cases stored.symm.trans same
      refine
        { elements := inv.elements.drop thread .startSignal element .pending
            (List.subset_append_left _ _) full rfl
            (puts_pending_tail state.queues _ element) rfl (fun other found _ => ?_)
            inv.elements.indexed
          srbs := inv.srbs.keep thread .startSignal (by rw [here]; rfl) (fun _ => rfl) rfl rfl
            fun other member => ?_ }
      · cases stored.symm.trans found
        exact ⟨filled.1, filled.2.1, srb, List.mem_append_right _ List.mem_cons_self, carriesSrb⟩
      · rcases List.mem_append.mp member with old | new
        · exact Or.inl old
        · rw [List.mem_singleton] at new
          subst new
          exact Or.inr ⟨element, by simp [carried, stored, filled.2.1, carriesSrb]⟩
  | signal => exact inv.idle thread here .release rfl rfl rfl ⟨rfl, rfl, rfl, rfl, rfl⟩
  | refused srb =>
      exact inv.idle thread here (.startReport srb) rfl rfl rfl ⟨rfl, rfl, rfl, rfl, rfl⟩
  | report srb =>
      exact
        { elements := inv.elements.setPc thread .idle (fun _ member => member) (by rw [here]; rfl)
            (fun element value full => by cases full)
          srbs := inv.srbs.reportStarting thread .idle srb (by rw [here]; rfl) rfl }

/-! ## Fetch -/

theorem fetchPrepareStep_inv (props : WnbdProperties) (state : DeviceState) (thread : ThreadId)
    (bufferSize : UInt32) (element : ElementId) (tag : UInt64) (faults : FetchFaults)
    (value : SrbQueueElement) (srb : SrbId) (inv : DeviceInv state)
    (here : state.threads thread = .fetchPrepare bufferSize element)
    (stored : state.queues.heap element = some value) :
    DeviceInv (fetchPrepared props state thread bufferSize element tag value srb faults) := by
  have full : (state.threads thread).hand = some element := by rw [here]; rfl
  obtain ⟨found, same, queued⟩ := inv.elements.held thread element full
  rw [here] at queued
  cases stored.symm.trans same
  have written : ∀ pc : ThreadPc, pc.hand = some element → pc.startingSrb = none →
      pc.phase.Holds state.ledger.accepted { value with tag } →
      ∀ updated : Srb, DeviceInv
        ((({ state with requestHandle := tag }.setElement element
          (some { value with tag })).setSrb srb updated).setPc thread pc) :=
    fun pc hand starting holds updated =>
      { elements := inv.elements.write thread pc element _ full hand holds
        srbs := inv.srbs.keep thread pc (by rw [starting, here]; rfl)
          (carried_update _ element _ (by rw [stored]; rfl)) rfl rfl fun _ member => Or.inl member }
  unfold fetchPrepared
  dsimp only
  split
  · exact written (.fetchSubmit element) rfl rfl queued _
  · exact written (.complete element .release) rfl rfl queued.2 _
  all_goals exact written (.complete element (.fetchTest bufferSize)) rfl rfl queued.2 _

theorem fetchStep_inv (props : WnbdProperties) (state after : DeviceState) (thread : ThreadId)
    (pc : ThreadPc) (choice : Choice) (inv : DeviceInv state) (here : state.threads thread = pc)
    (taken : fetchStep props state thread pc choice = some after) : DeviceInv after := by
  cases fetchStep_cases taken with
  | test bufferSize =>
      split
      · exact inv.idle thread here .release rfl rfl rfl ⟨rfl, rfl, rfl, rfl, rfl⟩
      · exact inv.idle thread here (.fetchWait bufferSize) rfl rfl rfl ⟨rfl, rfl, rfl, rfl, rfl⟩
  | woken bufferSize =>
      exact inv.idle thread here (.fetchPop bufferSize) rfl rfl rfl ⟨rfl, rfl, rfl, rfl, rfl⟩
  | removed | alerted => exact inv.idle thread here .release rfl rfl rfl ⟨rfl, rfl, rfl, rfl, rfl⟩
  | interrupted => exact inv.idle thread here .fetchAlerted rfl rfl rfl ⟨rfl, rfl, rfl, rfl, rfl⟩
  | popNone bufferSize =>
      exact inv.idle thread here (.fetchCheck bufferSize none) rfl rfl rfl ⟨rfl, rfl, rfl, rfl, rfl⟩
  | pop bufferSize element rest head =>
      exact
        { elements := inv.elements.pick thread (.fetchCheck bufferSize (some element)) element
            .pending (by rw [here]; rfl) rfl
            (takes_pending_head state.queues state.threads element rest head) rfl
            (fun _ queued => queued) inv.elements.indexed
          srbs := inv.srbs.keep thread _ (by rw [here]; rfl) (fun _ => rfl) rfl rfl
            fun _ member => Or.inl member }
  | drop bufferSize popped =>
      cases popped with
      | none =>
          have same : state.queues.lost ++ (none : Option ElementId).toList = state.queues.lost :=
            List.append_nil _
          rw [same]
          exact inv.idle thread here .release rfl rfl rfl ⟨rfl, rfl, rfl, rfl, rfl⟩
      | some element =>
          exact
            { elements := inv.elements.drop thread .release element .lost (fun _ member => member)
                (by rw [here]; rfl) rfl (puts_lost_tail state.queues _ element) rfl
                (fun _ _ queued => by rw [here] at queued; exact queued) inv.elements.indexed
              srbs := inv.srbs.keep thread _ (by rw [here]; rfl) (fun _ => rfl) rfl rfl
                fun _ member => Or.inl member }
  | retry bufferSize =>
      exact inv.idle thread here (.fetchTest bufferSize) rfl rfl rfl ⟨rfl, rfl, rfl, rfl, rfl⟩
  | keep bufferSize element =>
      exact inv.keep thread here (.fetchPrepare bufferSize element)
        (fun _ _ _ _ queued => queued) rfl rfl ⟨rfl, rfl, rfl, rfl, rfl⟩
  | prepare bufferSize element elsewhere faults value srb stored =>
      exact fetchPrepareStep_inv props state thread bufferSize element _ faults value srb inv here
        stored
  | submit element =>
      exact
        { elements := inv.elements.drop thread .release element .submitted (fun _ member => member)
            (by rw [here]; rfl) rfl (puts_submitted_tail state.queues _ element) rfl
            (fun _ _ queued => by rw [here] at queued; exact queued)
            (inv.elements.indexed.insert element)
          srbs := inv.srbs.keep thread _ (by rw [here]; rfl) (fun _ => rfl) rfl rfl
            fun _ member => Or.inl member }

/-! ## Response -/

theorem findSubmittedByTag_mem (state : DeviceState) (inv : DeviceInv state) (tag : UInt64)
    (element : ElementId) (found : state.queues.findSubmittedByTag tag = some element) :
    element ∈ state.queues.submittedReqList :=
  ((mem_bucket_iff _ _ _ inv.elements.indexed _ _).mp (List.mem_of_find?_eq_some found)).1

theorem unlinkSubmitted_inv (state : DeviceState) (thread : ThreadId) (before pc : ThreadPc)
    (element : ElementId) (inv : DeviceInv state) (here : state.threads thread = before)
    (member : element ∈ state.queues.submittedReqList) (empty : before.hand = none)
    (full : pc.hand = some element) (phase : pc.phase = .queued)
    (starting : pc.startingSrb = before.startingSrb) :
    DeviceInv ({ state with queues := state.queues.unlinkSubmitted element }.setPc thread pc) where
  elements := inv.elements.pick thread pc element .submitted (by rw [here, empty]) full
    (takes_submitted state.queues state.threads element member) rfl
    (fun _ queued => by rw [phase]; exact queued) (inv.elements.indexed.remove element)
  srbs := inv.srbs.keep thread pc (by rw [here, starting]) (fun _ => rfl) rfl rfl
    fun _ member => Or.inl member

theorem responseStep_inv (state after : DeviceState) (thread : ThreadId) (pc : ThreadPc)
    (choice : Choice) (inv : DeviceInv state) (here : state.threads thread = pc)
    (taken : responseStep state thread pc choice = some after) : DeviceInv after := by
  cases responseStep_cases taken with
  | unknown => exact inv.idle thread here .release rfl rfl rfl ⟨rfl, rfl, rfl, rfl, rfl⟩
  | take command element found =>
      exact unlinkSubmitted_inv state thread _ (.responseApply command element) element inv here
        (findSubmittedByTag_mem state inv _ element found) rfl rfl rfl rfl
  | apply command element faults value srb stored =>
      obtain ⟨found, same, queued⟩ := inv.elements.held thread element (by rw [here]; rfl)
      rw [here] at queued
      cases stored.symm.trans same
      rw [queued.1, if_neg Bool.false_ne_true]
      exact inv.keep thread here (.complete element .release)
        (fun _ _ _ _ queued => queued.2) rfl rfl ⟨rfl, rfl, rfl, rfl, rfl⟩

/-! ## Drains -/

theorem drainNext_pc (thread : ThreadId) (checkStaleConn : Bool) (list : DrainedList) :
    (drainNext thread checkStaleConn list).hand = none ∧
      (drainNext thread checkStaleConn list).startingSrb = none := by
  cases list with
  | pending => exact ⟨rfl, rfl⟩
  | submitted => cases thread <;> exact ⟨rfl, rfl⟩

theorem drainEmptied_inv (state : DeviceState) (thread : ThreadId) (list : DrainedList)
    (checkStaleConn staleConnDetected : Bool) (inv : DeviceInv state)
    (here : state.threads thread = .drain list checkStaleConn staleConnDetected) :
    DeviceInv (state.setPc thread (drainEmptied thread list checkStaleConn staleConnDetected)) := by
  obtain ⟨hand, starting⟩ := drainNext_pc thread checkStaleConn list
  cases staleConnDetected with
  | true =>
      exact inv.idle thread here (.disconnectMark list checkStaleConn) rfl rfl rfl
        ⟨rfl, rfl, rfl, rfl, rfl⟩
  | false => exact inv.idle thread here _ hand rfl starting ⟨rfl, rfl, rfl, rfl, rfl⟩

theorem drainStep_inv (state after : DeviceState) (thread : ThreadId) (pc : ThreadPc)
    (choice : Choice) (inv : DeviceInv state) (here : state.threads thread = pc)
    (taken : drainStep state thread pc choice = some after) : DeviceInv after := by
  cases drainStep_cases taken with
  | pendingNone checkStaleConn staleConnDetected =>
      exact drainEmptied_inv state thread .pending checkStaleConn staleConnDetected inv here
  | submittedNone checkStaleConn staleConnDetected =>
      exact drainEmptied_inv state thread .submitted checkStaleConn staleConnDetected inv here
  | pending checkStaleConn staleConnDetected element rest head =>
      exact
        { elements := inv.elements.pick thread _ element .pending (by rw [here]; rfl) rfl
            (takes_pending_head state.queues state.threads element rest head) rfl
            (fun _ queued => queued) inv.elements.indexed
          srbs := inv.srbs.keep thread _ (by rw [here]; rfl) (fun _ => rfl) rfl rfl
            fun _ member => Or.inl member }
  | submitted checkStaleConn staleConnDetected element rest head =>
      exact unlinkSubmitted_inv state thread _ _ element inv here
        (by rw [head]; exact List.mem_cons_self) rfl rfl rfl rfl
  | abort list checkStaleConn staleConnDetected element detected value srb stored =>
      have full : (state.threads thread).hand = some element := by rw [here]; rfl
      obtain ⟨found, same, queued⟩ := inv.elements.held thread element full
      rw [here] at queued
      cases stored.symm.trans same
      exact
        { elements := inv.elements.write thread (.complete element _) element _ full rfl queued.2
          srbs := inv.srbs.keep thread _ (by rw [here]; rfl)
            (carried_update _ element _ (by simp [setSrb, stored, carried])) rfl rfl
            fun _ member => Or.inl member }
  | mark list checkStaleConn =>
      exact inv.idle thread here (.disconnectSignal list checkStaleConn) rfl rfl rfl
        ⟨rfl, rfl, rfl, rfl, rfl⟩
  | signal list checkStaleConn =>
      obtain ⟨hand, starting⟩ := drainNext_pc thread checkStaleConn list
      exact inv.idle thread here _ hand rfl starting ⟨rfl, rfl, rfl, rfl, rfl⟩

/-! ## Completion, release and the monitor thread -/

theorem Resume.pc_hand (resume : Resume) :
    resume.pc.hand = none ∧ resume.pc.startingSrb = none := by
  cases resume <;> exact ⟨rfl, rfl⟩

theorem completionStep_inv (state after : DeviceState) (thread : ThreadId) (pc : ThreadPc)
    (choice : Choice) (inv : DeviceInv state) (here : state.threads thread = pc)
    (taken : completionStep state thread pc choice = some after) : DeviceInv after := by
  cases completionStep_cases taken with
  | complete element resume value srb stored carriesSrb =>
      have full : (state.threads thread).hand = some element := by rw [here]; rfl
      obtain ⟨found, same, pending⟩ := inv.elements.held thread element full
      rw [here] at pending
      cases stored.symm.trans same
      rw [pending.1, if_neg Bool.false_ne_true]
      exact
        { elements := inv.elements.write thread (.free element resume) element _ full rfl rfl
          srbs := inv.srbs.reportCarried thread (.free element resume) srb element _
            (by rw [here]; rfl) (by simp [stored, carried, pending.1, carriesSrb]) rfl }
  | free element resume value stored =>
      have full : (state.threads thread).hand = some element := by rw [here]; rfl
      obtain ⟨found, same, spare⟩ := inv.elements.held thread element full
      rw [here] at spare
      cases stored.symm.trans same
      obtain ⟨hand, starting⟩ := resume.pc_hand
      unfold wnbdFreeSrbElement
      split
      · exact
          { elements := inv.elements.drop thread resume.pc element .pool (fun _ member => member)
              full hand (puts_pool_head state.queues _ element) rfl
              (fun _ _ spare => by rw [here] at spare; exact spare) inv.elements.indexed
            srbs := inv.srbs.keep thread _ (by rw [here, starting]; rfl) (fun _ => rfl) rfl rfl
              fun _ member => Or.inl member }
      · exact
          { elements := inv.elements.destroy thread resume.pc element full hand
            srbs := inv.srbs.keep thread _ (by rw [here, starting]; rfl)
              (carried_update _ element none (by rw [stored]; exact spare.symm)) rfl rfl
              fun _ member => Or.inl member }
  | remove => exact inv.idle thread here .release rfl rfl rfl ⟨rfl, rfl, rfl, rfl, rfl⟩
  | release => exact inv.idle thread here .idle rfl rfl rfl ⟨rfl, rfl, rfl, rfl, rfl⟩

theorem monitorStep_inv (state after : DeviceState) (thread : ThreadId) (pc : ThreadPc)
    (choice : Choice) (inv : DeviceInv state) (here : state.threads thread = pc)
    (taken : monitorStep state thread pc choice = some after) : DeviceInv after := by
  cases monitorStep_cases taken with
  | wait => exact inv.idle thread here .monitorMark rfl rfl rfl ⟨rfl, rfl, rfl, rfl, rfl⟩
  | mark => exact inv.idle thread here .monitorSignal rfl rfl rfl ⟨rfl, rfl, rfl, rfl, rfl⟩
  | signal => exact inv.idle thread here .monitorRundown rfl rfl rfl ⟨rfl, rfl, rfl, rfl, rfl⟩
  | rundown => exact inv.idle thread here .monitorRundownWait rfl rfl rfl ⟨rfl, rfl, rfl, rfl, rfl⟩
  | released =>
      exact inv.idle thread here (.drain .pending false false) rfl rfl rfl ⟨rfl, rfl, rfl, rfl, rfl⟩
  | poolEmpty => exact inv.idle thread here .monitorFree rfl rfl rfl ⟨rfl, rfl, rfl, rfl, rfl⟩
  | poolHead element rest pool =>
      exact
        { elements := inv.elements.pick thread (.monitorFreeElement element) element .pool
            (by rw [here]; rfl) rfl (takes_pool_head state.queues state.threads element rest pool)
            rfl (fun _ spare => spare) inv.elements.indexed
          srbs := inv.srbs.keep thread _ (by rw [here]; rfl) (fun _ => rfl) rfl rfl
            fun _ member => Or.inl member }
  | freeElement element =>
      have full : (state.threads thread).hand = some element := by rw [here]; rfl
      obtain ⟨value, stored, spare⟩ := inv.elements.held thread element full
      rw [here] at spare
      exact
        { elements := inv.elements.destroy thread .monitorDrainPool element full rfl
          srbs := inv.srbs.keep thread _ (by rw [here]; rfl)
            (carried_update _ element none (by rw [stored]; exact spare.symm)) rfl rfl
            fun _ member => Or.inl member }
  | free => exact inv.idle thread here .monitorDone rfl rfl rfl ⟨rfl, rfl, rfl, rfl, rfl⟩

/-! ## Every run -/

theorem deviceNext_inv (props : WnbdProperties) (state after : DeviceState)
    (action : ThreadId × Choice) (inv : DeviceInv state)
    (taken : deviceNext props state action = some after) : DeviceInv after := by
  obtain ⟨thread, choice⟩ := action
  cases deviceNext_cases taken with
  | begins here taken => exact beginStep_inv props state after thread choice inv here taken
  | startIo taken => exact startIoStep_inv props state after thread _ choice inv rfl taken
  | fetch taken => exact fetchStep_inv props state after thread _ choice inv rfl taken
  | response taken => exact responseStep_inv state after thread _ choice inv rfl taken
  | drain taken => exact drainStep_inv state after thread _ choice inv rfl taken
  | completion taken => exact completionStep_inv state after thread _ choice inv rfl taken
  | monitor taken => exact monitorStep_inv state after thread _ choice inv rfl taken

theorem mem_initial (poolSize : Nat) (place : Place) (element : ElementId)
    (member : element ∈ contents (DeviceState.initial poolSize).queues
      (DeviceState.initial poolSize).threads place) : place = .pool ∧ element < poolSize := by
  cases place with
  | pool => exact ⟨rfl, List.mem_range.mp (List.mem_reverse.mp member)⟩
  | pending | submitted | lost => cases member
  | hand thread => cases thread <;> cases member

theorem not_mem_srb_initial (poolSize : Nat) (place : SrbPlace) (srb : SrbId) :
    srb ∉ srbContents (DeviceState.initial poolSize).queues.heap []
      (DeviceState.initial poolSize).threads
      place := by
  intro member
  cases place with
  | starting thread => cases thread <;> cases member
  | reported => cases member
  | element element =>
      simp only [srbContents, DeviceState.initial] at member
      split at member <;> cases member

theorem deviceInv_initial (poolSize : Nat) : DeviceInv (DeviceState.initial poolSize) where
  elements :=
    { exclusive :=
        { nodup := fun place => by
            cases place with
            | pool => exact List.nodup_reverse.mpr List.nodup_range
            | pending | submitted | lost => exact List.nodup_nil
            | hand thread => cases thread <;> exact List.nodup_nil
          unique := fun place other element first second =>
            (mem_initial poolSize place element first).1.trans
              (mem_initial poolSize other element second).1.symm }
      phased := fun place element member => by
        obtain ⟨rfl, inPool⟩ := mem_initial poolSize place element member
        exact ⟨.zeroed true, by simp [DeviceState.initial, inPool], rfl⟩
      placed := fun element stored => by
        have inPool : element < poolSize := by
          by_contra outside
          exact stored (by simp [DeviceState.initial, outside])
        exact ⟨.pool, List.mem_reverse.mpr (List.mem_range.mpr inPool)⟩
      indexed := indexes_nil _ }
  srbs :=
    { exclusive :=
        { nodup := fun place =>
            (List.eq_nil_iff_forall_not_mem.mpr (not_mem_srb_initial poolSize place)) ▸
              List.nodup_nil
          unique := fun place _ srb member =>
            absurd member (not_mem_srb_initial poolSize place srb) }
      issued := fun place srb member => absurd member (not_mem_srb_initial poolSize place srb)
      accounted := fun srb member => by cases member }

theorem deviceInv_of_run (props : WnbdProperties) (poolSize : Nat)
    (actions : List (ThreadId × Choice)) (state : DeviceState)
    (ran : StepSystem.run (deviceNext props) (DeviceState.initial poolSize) actions = some state) :
    DeviceInv state :=
  StepSystem.invariant_of_run DeviceInv (deviceNext_inv props) actions _ state
    (deviceInv_initial poolSize) ran

end Wnbd.Device
