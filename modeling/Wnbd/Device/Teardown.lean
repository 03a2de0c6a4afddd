import Wnbd.Device.Completion
import Wnbd.Device.References
import Wnbd.Foundation.Counting

/-!
# Teardown of a device

The monitor thread waits for every device reference, drains both queues and
frees the device.  By then each accepted SRB was reported or sits in an element a
fetch call left behind.
-/

set_option autoImplicit false

namespace Wnbd.Device

open Wnbd.Scsi Wnbd.Dispatch Placement DeviceState DeviceQueues StepSystem

/-! ## The stages of the monitor thread -/

/-- Before the wait for references, during it, draining the pending queue,
draining the submitted list, and after both drains. -/
def monitorStage : ThreadPc → Option Nat
  | .monitorWait | .monitorMark | .monitorSignal | .monitorRundown => some 0
  | .monitorRundownWait => some 1
  | .drain .pending false false | .abort .pending false false _
  | .complete _ (.drain .pending false false) | .free _ (.drain .pending false false) => some 2
  | .drain .submitted false false | .abort .submitted false false _
  | .complete _ (.drain .submitted false false) | .free _ (.drain .submitted false false) => some 3
  | .monitorDrainPool | .monitorFreeElement _ | .monitorFree | .monitorDone => some 4
  | _ => none

structure Staged (state : DeviceState) (stage : Nat) : Prop where
  pc : monitorStage (state.threads .monitor) = some stage
  refusing : state.rundown.waiting = true ↔ 1 ≤ stage
  quiet : 2 ≤ stage → ∀ user, (state.threads (.user user)).holdsReference = false
  pendingEmpty : 3 ≤ stage → state.queues.pendingReqList = []
  submittedEmpty : 4 ≤ stage → state.queues.submittedReqList = []
  freed : state.freed = true → state.threads .monitor = .monitorDone

structure TeardownInv (state : DeviceState) : Prop where
  users : ∀ user, (state.threads (.user user)).monitorOnly = false
  counts : Counts (fun user => (state.threads (.user user)).holdsReference = true)
    state.rundown.references
  staged : ∃ stage, Staged state stage

theorem teardownInv_initial (poolSize : Nat) : TeardownInv (DeviceState.initial poolSize) where
  users _ := rfl
  counts := Counts.zero fun _ holds => by cases holds
  staged := ⟨0,
    { pc := rfl
      refusing := iff_of_false Bool.false_ne_true (by decide)
      quiet := fun late => by cases late
      pendingEmpty := fun _ => rfl
      submittedEmpty := fun _ => rfl
      freed := fun freed => by cases freed }⟩

/-! ## Steps of the calls -/

theorem UserStep.threads_of_ne {state after : DeviceState} {user : Nat} {next : ThreadPc}
    (step : UserStep state after user next) (thread : ThreadId) (other : thread ≠ .user user) :
    after.threads thread = state.threads thread := by
  rw [step.threads, Function.update_of_ne other]

theorem UserStep.waiting {state after : DeviceState} {user : Nat} {next : ThreadPc}
    (step : UserStep state after user next) : after.rundown.waiting = state.rundown.waiting := by
  rcases step.reference with ⟨-, same⟩ | ⟨-, -, acquired⟩ | ⟨-, -, released⟩
  · rw [same]
  · obtain ⟨-, taken⟩ := Rundown.acquire_eq_some _ _ acquired
    rw [taken]
  · rw [released]
    rfl

theorem UserStep.counts {state after : DeviceState} {user : Nat} {next : ThreadPc}
    (step : UserStep state after user next)
    (counts : Counts (fun user => (state.threads (.user user)).holdsReference = true)
      state.rundown.references) :
    Counts (fun user => (after.threads (.user user)).holdsReference = true)
      after.rundown.references := by
  have own : after.threads (.user user) = next := by rw [step.threads, Function.update_self]
  have others : ∀ other, other ≠ user →
      ((after.threads (.user other)).holdsReference = true ↔
        (state.threads (.user other)).holdsReference = true) := fun other different => by
    rw [step.threads_of_ne (.user other) fun same => different (ThreadId.user.inj same)]
  rcases step.reference with ⟨same, rundown⟩ | ⟨idle, busy, acquired⟩ | ⟨busy, idle, released⟩
  · rw [rundown]
    refine counts.congr fun other => ?_
    by_cases equal : other = user
    · rw [equal, own, same]
    · exact others other equal
  · obtain ⟨-, taken⟩ := Rundown.acquire_eq_some _ _ acquired
    rw [taken]
    exact counts.gain user (by rw [idle]; exact Bool.false_ne_true) (by rw [own, busy]) others
  · rw [released]
    exact counts.lose user busy (by rw [own, idle]; exact Bool.false_ne_true) others

theorem UserStep.staged {state after : DeviceState} {user : Nat} {next : ThreadPc} {stage : Nat}
    (step : UserStep state after user next) (staged : Staged state stage) : Staged after stage := by
  have monitor : after.threads .monitor = state.threads .monitor :=
    step.threads_of_ne .monitor (fun same => by cases same)
  have queues : 2 ≤ stage → after.queues = state.queues := fun late =>
    step.outside (staged.quiet late user)
  refine ⟨by rw [monitor, staged.pc], by rw [step.waiting, staged.refusing], fun late other => ?_,
    fun late => ?_, fun late => ?_, fun freed => ?_⟩
  · by_cases equal : other = user
    · subst equal
      rw [step.threads, Function.update_self]
      have idle := staged.quiet late other
      rcases step.reference with ⟨same, -⟩ | ⟨-, -, acquired⟩ | ⟨busy, -, -⟩
      · rw [← same, idle]
      · -- Nobody gets a new reference while the monitor thread waits.
        obtain ⟨open_, -⟩ := Rundown.acquire_eq_some _ _ acquired
        rw [staged.refusing.mpr (by omega)] at open_
        cases open_
      · rw [idle] at busy
        cases busy
    · rw [step.threads_of_ne (.user other) fun same => equal (ThreadId.user.inj same)]
      exact staged.quiet late other
  · rw [queues (by omega)]
    exact staged.pendingEmpty late
  · rw [queues (by omega)]
    exact staged.submittedEmpty late
  · rw [monitor]
    exact staged.freed (by rw [← step.freed, freed])

theorem userStep_teardown (props : WnbdProperties) (state after : DeviceState) (user : Nat)
    (choice : Choice) (inv : TeardownInv state)
    (taken : deviceNext props state (.user user, choice) = some after) : TeardownInv after := by
  obtain ⟨next, step⟩ := deviceNext_user (inv.users user) taken
  obtain ⟨stage, staged⟩ := inv.staged
  refine ⟨fun other => ?_, step.counts inv.counts, stage, step.staged staged⟩
  by_cases equal : other = user
  · subst equal
    rw [step.threads, Function.update_self]
    exact step.own
  · rw [step.threads_of_ne (.user other) fun same => equal (ThreadId.user.inj same)]
    exact inv.users other

/-! ## Steps of the monitor thread -/

/-- What a step of the monitor thread does to the other threads and the count. -/
structure MonitorStep (state after : DeviceState) (next : ThreadPc) (stage : Nat) : Prop where
  threads : after.threads = Function.update state.threads .monitor next
  references : after.rundown.references = state.rundown.references
  staged : Staged after stage

section MonitorSteps

variable {props : WnbdProperties} {state after : DeviceState} {stage : Nat} {pc : ThreadPc}
variable {choice : Choice}

theorem quiet_setMonitor (threads : after.threads = Function.update state.threads .monitor pc)
    (quiet : ∀ user, (state.threads (.user user)).holdsReference = false) (user : Nat) :
    (after.threads (.user user)).holdsReference = false := by
  have other : ThreadId.user user ≠ .monitor := fun same => by cases same
  rw [threads, Function.update_of_ne other]
  exact quiet user

theorem Staged.stay {before : ThreadPc} (staged : Staged state stage)
    (here : state.threads .monitor = before) (next : ThreadPc)
    (sameStage : monitorStage next = monitorStage before) (notDone : before ≠ .monitorDone)
    (threads : after.threads = Function.update state.threads .monitor next)
    (rundown : after.rundown = state.rundown)
    (pending : after.queues.pendingReqList = state.queues.pendingReqList)
    (submitted : after.queues.submittedReqList = state.queues.submittedReqList)
    (freed : after.freed = state.freed) :
    ∃ next stage, MonitorStep state after next stage := by
  refine ⟨next, stage, threads, by rw [rundown], ?_, by rw [rundown, staged.refusing],
    fun late => quiet_setMonitor threads (staged.quiet late),
    fun late => by rw [pending, staged.pendingEmpty late],
    fun late => by rw [submitted, staged.submittedEmpty late], fun done => ?_⟩
  · rw [threads, Function.update_self, sameStage, ← here, staged.pc]
  · rw [freed] at done
    exact absurd (here.symm.trans (staged.freed done)) notDone

/-- Nothing was freed while the monitor thread is still running. -/
theorem Staged.notFreed {before : ThreadPc} (staged : Staged state stage)
    (here : state.threads .monitor = before) (notDone : before ≠ .monitorDone) :
    ¬ state.freed = true := fun done => notDone (here.symm.trans (staged.freed done))

theorem monitorStep_staged (inv : TeardownInv state) (staged : Staged state stage)
    (here : state.threads .monitor = pc)
    (taken : monitorStep state .monitor pc choice = some after) :
    ∃ next stage, MonitorStep state after next stage := by
  have at_ := staged.pc
  rw [here] at at_
  cases monitorStep_cases taken with
  | wait =>
      exact staged.stay here .monitorMark rfl (fun same => by cases same) rfl rfl rfl rfl rfl
  | mark =>
      exact staged.stay here .monitorSignal rfl (fun same => by cases same) rfl rfl rfl rfl rfl
  | signal =>
      exact staged.stay here .monitorRundown rfl (fun same => by cases same) rfl rfl rfl rfl rfl
  | rundown =>
      cases at_
      exact ⟨.monitorRundownWait, 1, rfl, rfl,
        { pc := by simp [DeviceState.setPc, monitorStage]
          refusing := iff_of_true rfl (Nat.le_refl 1)
          quiet := fun late => by omega
          pendingEmpty := fun late => by omega
          submittedEmpty := fun late => by omega
          freed := fun done => absurd done (staged.notFreed here (by simp)) }⟩
  | released released =>
      cases at_
      have quiet : ∀ user, (state.threads (.user user)).holdsReference = false := fun user => by
        have counts := inv.counts
        rw [released] at counts
        exact Bool.eq_false_iff.mpr (counts.none_of_zero user)
      exact ⟨.drain .pending false false, 2, rfl, rfl,
        { pc := by simp [DeviceState.setPc, monitorStage]
          refusing := iff_of_true (staged.refusing.mpr (Nat.le_refl 1)) (by omega)
          quiet := fun _ => quiet_setMonitor rfl quiet
          pendingEmpty := fun late => by omega
          submittedEmpty := fun late => by omega
          freed := fun done => absurd done (staged.notFreed here (by simp)) }⟩
  | poolEmpty =>
      exact staged.stay here .monitorFree rfl (fun same => by cases same) rfl rfl rfl rfl rfl
  | poolHead element =>
      exact staged.stay here (.monitorFreeElement element) rfl (fun same => by cases same) rfl rfl
        rfl rfl rfl
  | freeElement =>
      exact staged.stay here .monitorDrainPool rfl (fun same => by cases same) rfl rfl rfl rfl rfl
  | free =>
      cases at_
      exact ⟨.monitorDone, 4, rfl, rfl,
        { pc := by simp [DeviceState.setPc, monitorStage]
          refusing := staged.refusing
          quiet := fun late => quiet_setMonitor rfl (staged.quiet late)
          pendingEmpty := staged.pendingEmpty
          submittedEmpty := staged.submittedEmpty
          freed := fun _ => by simp [DeviceState.setPc] }⟩

/-- The monitor thread drains without looking for a stale connection. -/
theorem monitorStage_pending {checkStaleConn staleConnDetected : Bool}
    (at_ : monitorStage (.drain .pending checkStaleConn staleConnDetected) = some stage) :
    checkStaleConn = false ∧ staleConnDetected = false ∧ stage = 2 := by
  cases checkStaleConn <;> cases staleConnDetected <;> cases at_
  exact ⟨rfl, rfl, rfl⟩

theorem monitorStage_submitted {checkStaleConn staleConnDetected : Bool}
    (at_ : monitorStage (.drain .submitted checkStaleConn staleConnDetected) = some stage) :
    checkStaleConn = false ∧ staleConnDetected = false ∧ stage = 3 := by
  cases checkStaleConn <;> cases staleConnDetected <;> cases at_
  exact ⟨rfl, rfl, rfl⟩

theorem drainStep_staged (staged : Staged state stage) (here : state.threads .monitor = pc)
    (taken : drainStep state .monitor pc choice = some after) :
    ∃ next stage, MonitorStep state after next stage := by
  have at_ := staged.pc
  rw [here] at at_
  cases drainStep_cases taken with
  | pendingNone checkStaleConn staleConnDetected empty =>
      have notFreed := staged.notFreed here (by simp)
      obtain ⟨rfl, rfl, rfl⟩ := monitorStage_pending at_
      exact ⟨.drain .submitted false false, 3, rfl, rfl,
        { pc := by simp [DeviceState.setPc, monitorStage, drainEmptied, drainNext]
          refusing := iff_of_true (staged.refusing.mpr (by omega)) (by omega)
          quiet := fun _ => quiet_setMonitor rfl (staged.quiet (Nat.le_refl 2))
          pendingEmpty := fun _ => empty
          submittedEmpty := fun late => by omega
          freed := fun done => absurd done notFreed }⟩
  | pending checkStaleConn staleConnDetected element =>
      have notFreed := staged.notFreed here (by simp)
      obtain ⟨rfl, rfl, rfl⟩ := monitorStage_pending at_
      exact ⟨.abort .pending false false element, 2, rfl, rfl,
        { pc := by simp [DeviceState.setPc, monitorStage]
          refusing := staged.refusing
          quiet := fun _ => quiet_setMonitor rfl (staged.quiet (Nat.le_refl 2))
          pendingEmpty := fun late => by omega
          submittedEmpty := fun late => by omega
          freed := fun done => absurd done notFreed }⟩
  | submittedNone checkStaleConn staleConnDetected empty =>
      have notFreed := staged.notFreed here (by simp)
      obtain ⟨rfl, rfl, rfl⟩ := monitorStage_submitted at_
      exact ⟨.monitorDrainPool, 4, rfl, rfl,
        { pc := by simp [DeviceState.setPc, monitorStage, drainEmptied, drainNext]
          refusing := iff_of_true (staged.refusing.mpr (by omega)) (by omega)
          quiet := fun _ => quiet_setMonitor rfl (staged.quiet (by omega))
          pendingEmpty := fun _ => staged.pendingEmpty (Nat.le_refl 3)
          submittedEmpty := fun _ => empty
          freed := fun done => absurd done notFreed }⟩
  | submitted checkStaleConn staleConnDetected element =>
      have notFreed := staged.notFreed here (by simp)
      obtain ⟨rfl, rfl, rfl⟩ := monitorStage_submitted at_
      exact ⟨.abort .submitted false false element, 3, rfl, rfl,
        { pc := by simp [DeviceState.setPc, monitorStage]
          refusing := staged.refusing
          quiet := fun _ => quiet_setMonitor rfl (staged.quiet (by omega))
          pendingEmpty := staged.pendingEmpty
          submittedEmpty := fun late => by omega
          freed := fun done => absurd done notFreed }⟩
  | abort list checkStaleConn staleConnDetected element =>
      cases checkStaleConn <;> cases staleConnDetected <;> cases list <;> cases at_
      · exact staged.stay here (.complete element (.drain .pending false false)) rfl
          (fun same => by cases same) rfl rfl rfl rfl rfl
      · exact staged.stay here (.complete element (.drain .submitted false false)) rfl
          (fun same => by cases same) rfl rfl rfl rfl rfl
  | mark => cases at_
  | signal => cases at_

/-- Completing and freeing an element belong to the drain they return to. -/
theorem monitorStage_resume (element : ElementId) (resume : Resume) :
    monitorStage (.free element resume) = monitorStage (.complete element resume) ∧
      ∀ stage, monitorStage (.free element resume) = some stage →
        monitorStage resume.pc = monitorStage (.free element resume) := by
  cases resume with
  | drain list checkStaleConn staleConnDetected =>
      cases list <;> cases checkStaleConn <;> cases staleConnDetected <;>
        exact ⟨rfl, fun _ _ => rfl⟩
  | fetchTest bufferSize => exact ⟨rfl, fun stage at_ => by cases at_⟩
  | release => exact ⟨rfl, fun stage at_ => by cases at_⟩

theorem completionStep_staged (staged : Staged state stage) (here : state.threads .monitor = pc)
    (taken : completionStep state .monitor pc choice = some after) :
    ∃ next stage, MonitorStep state after next stage := by
  have at_ := staged.pc
  rw [here] at at_
  cases completionStep_cases taken with
  | complete element resume =>
      have sameStage := (monitorStage_resume element resume).1
      split <;>
        exact staged.stay here (.free element resume) sameStage (fun same => by cases same) rfl rfl
          rfl rfl rfl
  | free element resume =>
      have sameStage := (monitorStage_resume element resume).2 stage at_
      unfold wnbdFreeSrbElement
      split <;>
        exact staged.stay here resume.pc sameStage (fun same => by cases same) rfl rfl rfl rfl rfl
  | remove => cases at_
  | release => cases at_

theorem deviceNext_monitor (inv : TeardownInv state) (staged : Staged state stage)
    (taken : deviceNext props state (.monitor, choice) = some after) :
    ∃ next stage, MonitorStep state after next stage := by
  have at_ := staged.pc
  cases deviceNext_cases taken with
  | begins here =>
      rw [here] at at_
      cases at_
  | startIo taken =>
      generalize state.threads .monitor = pc at at_ taken
      cases startIoStep_cases taken <;> cases at_
  | fetch taken =>
      generalize state.threads .monitor = pc at at_ taken
      cases fetchStep_cases taken <;> cases at_
  | response taken =>
      generalize state.threads .monitor = pc at at_ taken
      cases responseStep_cases taken <;> cases at_
  | drain taken => exact drainStep_staged staged rfl taken
  | completion taken => exact completionStep_staged staged rfl taken
  | monitor taken => exact monitorStep_staged inv staged rfl taken

theorem monitorStep_teardown (inv : TeardownInv state)
    (taken : deviceNext props state (.monitor, choice) = some after) : TeardownInv after := by
  obtain ⟨stage, staged⟩ := inv.staged
  obtain ⟨next, stage, step⟩ := deviceNext_monitor inv staged taken
  have users : ∀ user, after.threads (.user user) = state.threads (.user user) := fun user => by
    have other : ThreadId.user user ≠ .monitor := fun same => by cases same
    rw [step.threads, Function.update_of_ne other]
  refine ⟨fun user => by rw [users, inv.users], ?_, stage, step.staged⟩
  rw [step.references]
  exact inv.counts.congr fun user => by rw [users]

end MonitorSteps

theorem deviceNext_teardown (props : WnbdProperties) (state after : DeviceState)
    (action : ThreadId × Choice) (inv : TeardownInv state)
    (taken : deviceNext props state action = some after) : TeardownInv after := by
  obtain ⟨thread, choice⟩ := action
  cases thread with
  | user user => exact userStep_teardown props state after user choice inv taken
  | monitor => exact monitorStep_teardown inv taken

/-! ## When the device is freed -/

/-- With nobody left inside, an SRB that is still carried sits in a lost element. -/
theorem carried_lost (state : DeviceState) (inv : DeviceInv state) (teardown : TeardownInv state)
    (freed : state.freed = true) (srb : SrbId) (element : ElementId)
    (carries : srb ∈ carried (state.queues.heap element)) : element ∈ state.queues.lost := by
  obtain ⟨stage, staged⟩ := teardown.staged
  have done := staged.freed freed
  have late : stage = 4 := by
    have at_ := staged.pc
    rw [done] at at_
    exact (Option.some.inj at_).symm
  subst late
  have stored : state.queues.heap element ≠ none := fun none => by
    rw [none] at carries
    cases carries
  obtain ⟨place, member⟩ := inv.elements.placed element stored
  obtain ⟨value, found, holds⟩ := inv.elements.phased place element member
  cases place with
  | lost => exact member
  | pool =>
      rw [found, holds] at carries
      cases carries
  | pending =>
      rw [contents, staged.pendingEmpty (by omega)] at member
      cases member
  | submitted =>
      rw [contents, staged.submittedEmpty (by omega)] at member
      cases member
  | hand thread =>
      cases thread with
      | monitor =>
          rw [contents, done] at member
          cases member
      | user user =>
          have idle := staged.quiet (by omega) user
          have own := teardown.users user
          simp only [contents] at member
          cases pc : state.threads (.user user) <;>
            simp_all [ThreadPc.hand, ThreadPc.holdsReference, ThreadPc.monitorOnly]

theorem lost_srb (state : DeviceState) (inv : DeviceInv state) (element : ElementId)
    (member : element ∈ state.queues.lost) :
    ∃ srb ∈ state.ledger.accepted, srb ∉ state.ledger.reported := by
  obtain ⟨value, stored, aborted, completed, srb, accepted, points⟩ :=
    inv.elements.phased .lost element member
  refine ⟨srb, accepted, carried_not_reported state inv element srb ?_⟩
  simp [carried, stored, completed, points]

/-- A fetch call does not see the removal flag while it holds a popped element. -/
def FetchKeepsElement (state : DeviceState) (action : ThreadId × Choice) : Prop :=
  match state.threads action.1 with
  | .fetchCheck _ (some _) => state.hardRemoveDevice = false
  | _ => True

instance (state : DeviceState) (action : ThreadId × Choice) :
    Decidable (FetchKeepsElement state action) := by
  unfold FetchKeepsElement
  split <;> infer_instance

theorem droppedElements_eq_nil_iff (state : DeviceState) (action : ThreadId × Choice) :
    droppedElements state action = [] ↔ FetchKeepsElement state action := by
  unfold droppedElements FetchKeepsElement
  cases pc : state.threads action.1 with
  | fetchCheck bufferSize taken =>
      cases taken <;> cases raised : state.hardRemoveDevice <;> simp
  | _ => simp

theorem lost_of_run (props : WnbdProperties) (actions : List (ThreadId × Choice))
    (start last : DeviceState) (ran : run (deviceNext props) start actions = some last) :
    last.queues.lost = [] ↔
      start.queues.lost = [] ∧ AllAllowed (deviceNext props) FetchKeepsElement start actions := by
  induction actions generalizing start with
  | nil =>
      cases ran
      simp [AllAllowed]
  | cons action rest hypothesis =>
      obtain ⟨after, taken, ranRest⟩ := Option.bind_eq_some_iff.mp ran
      rw [hypothesis after ranRest, (deviceNext_frame taken).lost, List.append_eq_nil_iff,
        droppedElements_eq_nil_iff, AllAllowed, taken, and_assoc]

/-- When the device is freed, all SRBs the driver accepted have been reported,
exactly if no fetch call dropped an element on the way. -/
theorem no_srb_lost_iff (props : WnbdProperties) (poolSize : Nat)
    (actions : List (ThreadId × Choice)) (state : DeviceState)
    (ran : run (deviceNext props) (DeviceState.initial poolSize) actions = some state)
    (freed : state.freed = true) :
    (∀ srb ∈ state.ledger.accepted, srb ∈ state.ledger.reported) ↔
      AllAllowed (deviceNext props) FetchKeepsElement (DeviceState.initial poolSize) actions := by
  have inv := deviceInv_of_run props poolSize actions state ran
  have teardown : TeardownInv state :=
    invariant_of_run TeardownInv (deviceNext_teardown props) actions _ state
      (teardownInv_initial poolSize) ran
  have none : (DeviceState.initial poolSize).queues.lost = [] := rfl
  rw [← and_iff_right (b := AllAllowed _ _ _ actions) none, ← lost_of_run props actions _ state ran]
  constructor
  · intro reported
    refine List.eq_nil_iff_forall_not_mem.mpr fun element member => ?_
    obtain ⟨srb, accepted, missing⟩ := lost_srb state inv element member
    exact missing (reported srb accepted)
  · intro none srb accepted
    rcases inv.srbs.accounted srb accepted with done | ⟨element, carries⟩
    · exact done
    · have member := carried_lost state inv teardown freed srb element carries
      rw [none] at member
      cases member

/-! ## A clean teardown, and one that loses a write -/

/-- The monitor thread up to the wait for references. -/
def monitorUntilWait : List (ThreadId × Choice) := List.replicate 4 (.monitor, .proceed)

/-- The write is queued, the fetch call pops it, and the removal starts before
the fetch looks at the flag; the fetch returns and the device is freed. -/
def fetchDuringRemoval : List (ThreadId × Choice) :=
  queueWrite (.user 0) ++ fetchUntilPop (.user 1) ++ monitorUntilWait ++
    List.replicate 2 (.user 1, .proceed) ++ List.replicate 5 (.monitor, .proceed)

/-- The monitor thread aborts the write itself. -/
def removalOfPending : List (ThreadId × Choice) :=
  queueWrite (.user 0) ++ monitorUntilWait ++ List.replicate 2 (.monitor, .proceed) ++
    [(.monitor, .staleConnection false)] ++ List.replicate 8 (.monitor, .proceed)

theorem no_srb_lost_removal :
    ∃ state, run (deviceNext diskProps) (DeviceState.initial 1) removalOfPending = some state ∧
      state.freed = true ∧ ∀ srb ∈ state.ledger.accepted, srb ∈ state.ledger.reported := by
  have enabled : (run (deviceNext diskProps) (DeviceState.initial 1) removalOfPending).map
      (·.freed) = some true := by
    decide +kernel
  obtain ⟨state, ran, freed⟩ := Option.map_eq_some_iff.mp enabled
  exact ⟨state, ran, freed, (no_srb_lost_iff diskProps 1 removalOfPending state ran freed).mpr
    (by decide +kernel)⟩

/-- A fetch that has popped an element when the removal flag is set drops it. -/
theorem fetch_loses_srb :
    ¬ ∀ (props : WnbdProperties) (poolSize : Nat) (actions : List (ThreadId × Choice))
      (state : DeviceState),
      run (deviceNext props) (DeviceState.initial poolSize) actions = some state →
      state.freed = true → ∀ srb ∈ state.ledger.accepted, srb ∈ state.ledger.reported := by
  intro always
  have enabled : (run (deviceNext diskProps) (DeviceState.initial 1) fetchDuringRemoval).map
      (fun state => (state.freed, state.ledger.accepted, state.ledger.reported)) =
        some (true, [0], []) := by
    decide +kernel
  obtain ⟨state, ran, fields⟩ := Option.map_eq_some_iff.mp enabled
  obtain ⟨freed, accepted, reported⟩ :
      state.freed = true ∧ state.ledger.accepted = [0] ∧ state.ledger.reported = [] := by
    simpa using fields
  have missing := always diskProps 1 fetchDuringRemoval state ran freed 0
    (by rw [accepted]; exact List.mem_cons_self)
  rw [reported] at missing
  cases missing

end Wnbd.Device
