import Wnbd.Device.QueueMoves
import Wnbd.Device.Teardown
import Wnbd.Foundation.Tally

/-!
# The I/O gauges

`UnsubmittedIORequests`, `PendingSubmittedIORequests` and `OutstandingIOCount`
next to the queues they describe.  Between two requests each gauge is the length
of its queues plus what was aborted or dropped: `io_gauges_accurate_iff`.
-/

set_option autoImplicit false

namespace Wnbd.Device

open Wnbd.Scsi Wnbd.Dispatch DeviceState DeviceQueues StepSystem

/-- The counters of `WNBD_DRV_STATS` that follow requests. -/
structure WnbdDrvStats where
  unsubmittedIORequests : Int
  pendingSubmittedIORequests : Int
  abortedSubmittedIORequests : Nat
  abortedUnsubmittedIORequests : Nat
  outstandingIOCount : Int
deriving DecidableEq, Repr

structure GaugedState where
  device : DeviceState
  stats : WnbdDrvStats

def GaugedState.initial (poolSize : Nat) : GaugedState :=
  { device := DeviceState.initial poolSize
    stats := ⟨0, 0, 0, 0, 0⟩ }

def alreadyAborted (state : DeviceState) (element : ElementId) : Bool :=
  (state.queues.heap element).any (·.aborted)

def alreadyCompleted (state : DeviceState) (element : ElementId) : Bool :=
  (state.queues.heap element).any (·.completed)

/-- The interlocked updates of a thread that moves from one step to the next.
They commute, so a thread makes them together with the step next to them. -/
def statsAfter (state : DeviceState) (stats : WnbdDrvStats) :
    ThreadPc → ThreadPc → WnbdDrvStats
  -- WnbdExecuteScsiFunction
  | .startCheck _, .startHandle _ =>
      { stats with outstandingIOCount := stats.outstandingIOCount + 1 }
  | .startHandle _, .startRefused _ =>
      { stats with outstandingIOCount := stats.outstandingIOCount - 1 }
  -- WnbdPendElement
  | .startHandle _, .startAlloc _ _ =>
      { stats with unsubmittedIORequests := stats.unsubmittedIORequests + 1 }
  | .startAlloc _ _, .startRefused _ =>
      { stats with
        unsubmittedIORequests := stats.unsubmittedIORequests - 1
        outstandingIOCount := stats.outstandingIOCount - 1 }
  -- WnbdDispatchRequest
  | .fetchPrepare _ _, .complete _ _ =>
      { stats with unsubmittedIORequests := stats.unsubmittedIORequests - 1 }
  | .fetchSubmit _, .release =>
      { stats with
        pendingSubmittedIORequests := stats.pendingSubmittedIORequests + 1
        unsubmittedIORequests := stats.unsubmittedIORequests - 1 }
  -- WnbdHandleResponse
  | .responseApply _ _, .complete _ _ | .responseApply _ _, .free _ _ =>
      { stats with pendingSubmittedIORequests := stats.pendingSubmittedIORequests - 1 }
  -- DrainDeviceQueue
  | .abort .submitted _ _ element, .complete _ _ =>
      if alreadyAborted state element then stats
      else { stats with abortedSubmittedIORequests := stats.abortedSubmittedIORequests + 1 }
  | .abort .pending _ _ element, .complete _ _ =>
      if alreadyAborted state element then stats
      else { stats with abortedUnsubmittedIORequests := stats.abortedUnsubmittedIORequests + 1 }
  -- CompleteRequest
  | .complete element _, .free _ _ =>
      if alreadyCompleted state element then stats
      else { stats with outstandingIOCount := stats.outstandingIOCount - 1 }
  | _, _ => stats

def gaugedNext (props : WnbdProperties) (state : GaugedState) (action : ThreadId × Choice) :
    Option GaugedState :=
  (deviceNext props state.device action).map fun device =>
    { device
      stats := statsAfter state.device state.stats (state.device.threads action.1)
        (device.threads action.1) }

/-! ## The properties -/

def ThreadPc.resting : ThreadPc → Bool
  | .idle | .fetchWait _ | .monitorWait | .monitorDone => true
  | _ => false

def AtRest (state : GaugedState) : Prop := ∀ thread, (state.device.threads thread).resting = true

/-- The gauges say what the queues hold. -/
structure GaugesAccurate (state : GaugedState) : Prop where
  unsubmitted : state.stats.unsubmittedIORequests = state.device.queues.pendingReqList.length
  submitted : state.stats.pendingSubmittedIORequests = state.device.queues.submittedReqList.length
  outstanding : state.stats.outstandingIOCount =
    state.device.queues.pendingReqList.length + state.device.queues.submittedReqList.length

/-- No drain aborts a request, and no fetch call drops the one it popped. -/
def KeepsRequests (state : GaugedState) (action : ThreadId × Choice) : Prop :=
  FetchKeepsElement state.device action ∧
    match state.device.threads action.1 with
    | .abort _ _ _ _ => False
    | _ => True

instance (state : GaugedState) (action : ThreadId × Choice) :
    Decidable (KeepsRequests state action) := by
  unfold KeepsRequests
  cases state.device.threads action.1 <;> infer_instance

def discarded (state : GaugedState) : Nat :=
  state.device.queues.lost.length + state.stats.abortedUnsubmittedIORequests +
    state.stats.abortedSubmittedIORequests

/-! ## The balance -/

/-- Each gauge is what the lists and the threads hold, plus what was discarded. -/
structure GaugeInv (state : GaugedState) : Prop where
  device : DeviceInv state.device
  unsubmitted : Tally (fun thread => (state.device.threads thread).load.unsubmitted)
    (state.stats.unsubmittedIORequests - state.device.queues.pendingReqList.length -
      state.device.queues.lost.length - state.stats.abortedUnsubmittedIORequests)
  submitted : Tally (fun thread => (state.device.threads thread).load.submitted)
    (state.stats.pendingSubmittedIORequests - state.device.queues.submittedReqList.length -
      state.stats.abortedSubmittedIORequests)
  outstanding : Tally (fun thread => (state.device.threads thread).load.outstanding)
    (state.stats.outstandingIOCount - state.device.queues.pendingReqList.length -
      state.device.queues.submittedReqList.length - state.device.queues.lost.length)

theorem gaugeInv_initial (poolSize : Nat) : GaugeInv (.initial poolSize) where
  device := deviceInv_initial poolSize
  unsubmitted := Tally.zero fun thread => by cases thread <;> rfl
  submitted := Tally.zero fun thread => by cases thread <;> rfl
  outstanding := Tally.zero fun thread => by cases thread <;> rfl

theorem statsAfter_quiet (state : DeviceState) (stats : WnbdDrvStats) (old new : ThreadPc)
    (load : new.load = old.load) : statsAfter state stats old new = stats := by
  unfold statsAfter
  split <;> first
    | rfl
    | simp only [ThreadPc.load, Load.none, Load.mk.injEq] at load
      omega

/-- What the counters and the lists change by, against what the thread carries. -/
structure Balanced (before after : GaugedState) (old new : Load) : Prop where
  unsubmitted : after.stats.unsubmittedIORequests - after.device.queues.pendingReqList.length -
      after.device.queues.lost.length - after.stats.abortedUnsubmittedIORequests =
    before.stats.unsubmittedIORequests - before.device.queues.pendingReqList.length -
      before.device.queues.lost.length - before.stats.abortedUnsubmittedIORequests -
        old.unsubmitted + new.unsubmitted
  submitted : after.stats.pendingSubmittedIORequests -
      after.device.queues.submittedReqList.length - after.stats.abortedSubmittedIORequests =
    before.stats.pendingSubmittedIORequests - before.device.queues.submittedReqList.length -
      before.stats.abortedSubmittedIORequests - old.submitted + new.submitted
  outstanding : after.stats.outstandingIOCount - after.device.queues.pendingReqList.length -
      after.device.queues.submittedReqList.length - after.device.queues.lost.length =
    before.stats.outstandingIOCount - before.device.queues.pendingReqList.length -
      before.device.queues.submittedReqList.length - before.device.queues.lost.length -
        old.outstanding + new.outstanding

theorem aborted_fresh {state : DeviceState} (inv : DeviceInv state) (thread : ThreadId)
    (list : DrainedList) (checkStaleConn staleConnDetected : Bool) (element : ElementId)
    (here : state.threads thread = .abort list checkStaleConn staleConnDetected element) :
    alreadyAborted state element = false := by
  obtain ⟨value, stored, queued⟩ := inv.elements.held thread element (by rw [here]; rfl)
  rw [here] at queued
  rw [alreadyAborted, stored, Option.any_some, queued.1]

theorem balanced_of_move {state : GaugedState} {old new : ThreadPc} (after : GaugedState)
    (thread : ThreadId) (inv : DeviceInv state.device) (here : state.device.threads thread = old)
    (stats : after.stats = statsAfter state.device state.stats old new)
    (move : QueueMove state.device after.device old new) :
    Balanced state after old.load new.load := by
  cases move with
  | quiet queues load =>
      rw [statsAfter_quiet _ _ _ _ load] at stats
      constructor <;> rw [stats, load] <;>
        simp only [queues.pending, queues.submitted, queues.lost] <;> omega
  | handle _ queues | refuse _ queues | receive _ _ queues | exhausted _ _ queues
  | reject _ _ _ queues | apply _ _ queues | signal queues | awake _ _ queues
  | popNone _ _ queues =>
      constructor <;>
        simp only [stats, statsAfter, queues.pending, queues.submitted, queues.lost,
          ThreadPc.load, Load.none] <;> omega
  | insert _ _ _ queues | drop _ _ _ queues | submit _ queues =>
      constructor <;>
        simp only [stats, statsAfter, queues.pending, queues.submitted, queues.lost,
          ThreadPc.load, Load.none, List.length_append, List.length_singleton] <;> omega
  | pop _ _ _ head queues | drainPending _ _ _ _ head queues =>
      constructor <;>
        simp only [stats, statsAfter, queues.pending, queues.submitted, queues.lost, head,
          ThreadPc.load, Load.none, List.length_cons] <;> omega
  | take _ _ member queues | drainSubmitted _ _ _ member queues =>
      have shorter := List.length_erase_of_mem member
      have positive := List.length_pos_of_mem member
      constructor <;>
        simp only [stats, statsAfter, queues.pending, queues.submitted, queues.lost, shorter,
          ThreadPc.load, Load.none] <;> omega
  | abort list checkStaleConn staleConnDetected element resume queues =>
      have fresh := aborted_fresh inv thread list checkStaleConn staleConnDetected element here
      cases list <;> constructor <;>
        simp only [stats, statsAfter, fresh, queues.pending, queues.submitted, queues.lost,
          ThreadPc.load, Load.none, Bool.false_eq_true, if_false] <;> omega
  | complete element resume queues =>
      have fresh : alreadyCompleted state.device element = false := by
        obtain ⟨value, stored, pending⟩ :=
          inv.elements.held thread element (by rw [here]; rfl)
        rw [here] at pending
        rw [alreadyCompleted, stored, Option.any_some, pending.1]
      constructor <;>
        simp only [stats, statsAfter, fresh, queues.pending, queues.submitted, queues.lost,
          ThreadPc.load, Load.none, Bool.false_eq_true, if_false] <;> omega

theorem gaugedNext_inv (props : WnbdProperties) (state after : GaugedState)
    (action : ThreadId × Choice) (inv : GaugeInv state)
    (taken : gaugedNext props state action = some after) : GaugeInv after := by
  obtain ⟨device, moved, rfl⟩ := Option.map_eq_some_iff.mp taken
  obtain ⟨thread, choice⟩ := action
  have base := deviceNext_inv props state.device device (thread, choice) inv.device moved
  obtain ⟨next, threads, move, _, _⟩ := deviceNext_moves inv.device moved
  have here : device.threads thread = next := by rw [threads, Function.update_self]
  have balanced := balanced_of_move
    ⟨device, statsAfter state.device state.stats (state.device.threads thread)
      (device.threads thread)⟩ thread inv.device rfl (by rw [here]) move
  refine ⟨base, ?_, ?_, ?_⟩
  · rw [balanced.unsubmitted]
    simp only [threads]
    exact Tally.update (fun pc : ThreadPc => pc.load.unsubmitted) _ inv.unsubmitted thread next
  · rw [balanced.submitted]
    simp only [threads]
    exact Tally.update (fun pc : ThreadPc => pc.load.submitted) _ inv.submitted thread next
  · rw [balanced.outstanding]
    simp only [threads]
    exact Tally.update (fun pc : ThreadPc => pc.load.outstanding) _ inv.outstanding thread next

/-! ## What was discarded on the way -/

theorem abort_completes {props : WnbdProperties} {state after : DeviceState} {thread : ThreadId}
    {choice : Choice} {list : DrainedList} {checkStaleConn staleConnDetected : Bool}
    {element : ElementId}
    (here : state.threads thread = .abort list checkStaleConn staleConnDetected element)
    (taken : deviceNext props state (thread, choice) = some after) :
    ∃ resume, after.threads thread = .complete element resume := by
  simp only [deviceNext, here] at taken
  cases drainStep_cases taken with
  | abort => exact ⟨_, Function.update_self ..⟩

theorem statsAfter_aborted (state : DeviceState) (stats : WnbdDrvStats) (old new : ThreadPc)
    (notAbort : ∀ list checkStaleConn staleConnDetected element,
      old ≠ .abort list checkStaleConn staleConnDetected element) :
    (statsAfter state stats old new).abortedUnsubmittedIORequests =
        stats.abortedUnsubmittedIORequests ∧
      (statsAfter state stats old new).abortedSubmittedIORequests =
        stats.abortedSubmittedIORequests := by
  unfold statsAfter
  split <;> first
    | exact absurd rfl (notAbort _ _ _ _)
    | exact ⟨rfl, rfl⟩
    | split <;> exact ⟨rfl, rfl⟩

theorem discarded_step {props : WnbdProperties} {state after : GaugedState}
    {action : ThreadId × Choice} (inv : GaugeInv state)
    (taken : gaugedNext props state action = some after) :
    discarded after = 0 ↔ discarded state = 0 ∧ KeepsRequests state action := by
  obtain ⟨device, moved, rfl⟩ := Option.map_eq_some_iff.mp taken
  obtain ⟨thread, choice⟩ := action
  have lost := (deviceNext_frame moved).lost
  have drops := droppedElements_eq_nil_iff state.device (thread, choice)
  unfold discarded KeepsRequests
  rw [← drops, lost, List.length_append]
  dsimp only
  by_cases aborts : ∃ list checkStaleConn staleConnDetected element,
      state.device.threads thread = .abort list checkStaleConn staleConnDetected element
  · obtain ⟨list, checkStaleConn, staleConnDetected, element, here⟩ := aborts
    obtain ⟨resume, next⟩ := abort_completes here moved
    have fresh := aborted_fresh inv.device thread list checkStaleConn staleConnDetected element
      here
    refine iff_of_false ?_ ?_
    · rw [here, next]
      cases list with
      | pending =>
          simp only [statsAfter, fresh, Bool.false_eq_true, if_false]
          omega
      | submitted =>
          simp only [statsAfter, fresh, Bool.false_eq_true, if_false]
          omega
    · rintro ⟨_, _, kept⟩
      simp only [here] at kept
  · have notAbort : ∀ list checkStaleConn staleConnDetected element,
        state.device.threads thread ≠ .abort list checkStaleConn staleConnDetected element := by
      intro list checkStaleConn staleConnDetected element here
      exact aborts ⟨list, checkStaleConn, staleConnDetected, element, here⟩
    obtain ⟨unsubmitted, submitted⟩ := statsAfter_aborted state.device state.stats
      (state.device.threads thread) (device.threads thread) notAbort
    have counted : (match state.device.threads thread with
        | .abort _ _ _ _ => False
        | _ => True) ↔ True := by
      cases pc : state.device.threads thread <;>
        first | exact Iff.rfl | exact absurd pc (notAbort _ _ _ _)
    rw [unsubmitted, submitted, counted, and_true, ← List.length_eq_zero_iff]
    omega

/-! ## Every run -/

theorem load_of_resting (pc : ThreadPc) (resting : pc.resting = true) : pc.load = Load.none := by
  cases pc <;> first | rfl | cases resting

/-- At rest the gauges are off by what was discarded. -/
theorem gaugesAccurate_iff (state : GaugedState) (inv : GaugeInv state) (rest : AtRest state) :
    GaugesAccurate state ↔ discarded state = 0 := by
  have carriesNone : ∀ thread, (state.device.threads thread).load = Load.none := by
    intro thread
    exact load_of_resting _ (rest thread)
  have unsubmitted := inv.unsubmitted.eq_zero fun thread => by rw [carriesNone thread]; rfl
  have submitted := inv.submitted.eq_zero fun thread => by rw [carriesNone thread]; rfl
  have outstanding := inv.outstanding.eq_zero fun thread => by rw [carriesNone thread]; rfl
  unfold discarded
  constructor
  · intro accurate
    have first := accurate.unsubmitted
    have second := accurate.submitted
    have third := accurate.outstanding
    omega
  · intro none
    exact ⟨by omega, by omega, by omega⟩

/-- At rest the gauges are accurate exactly when no request of the run was
aborted by a drain or dropped by a fetch call. -/
theorem io_gauges_accurate_iff (props : WnbdProperties) (poolSize : Nat)
    (actions : List (ThreadId × Choice)) (state : GaugedState)
    (ran : run (gaugedNext props) (GaugedState.initial poolSize) actions = some state)
    (rest : AtRest state) :
    GaugesAccurate state ↔
      AllAllowed (gaugedNext props) KeepsRequests (GaugedState.initial poolSize) actions := by
  have inv : GaugeInv state :=
    invariant_of_run GaugeInv (gaugedNext_inv props) actions _ state (gaugeInv_initial poolSize)
      ran
  have none : discarded (GaugedState.initial poolSize) = 0 := rfl
  have kept := clean_iff_allAllowed GaugeInv (fun state => discarded state = 0)
    (gaugedNext_inv props) (fun _ _ _ inv taken => discarded_step inv taken) actions _ state
    (gaugeInv_initial poolSize) ran
  rw [gaugesAccurate_iff state inv rest, kept]
  exact and_iff_right none

/-! ## An answered write, and one that a reset aborts -/

def resetOfPending : List (ThreadId × Choice) :=
  queueWrite (.user 0) ++ [(.user 1, .reset), (.user 1, .proceed),
    (.user 1, .staleConnection false)] ++ List.replicate 5 (.user 1, .proceed)

theorem io_gauges_accurate_one_write :
    ∃ state, run (gaugedNext diskProps) (GaugedState.initial 1) oneWrite = some state ∧
      AtRest state ∧ GaugesAccurate state := by
  have enabled : (run (gaugedNext diskProps) (GaugedState.initial 1) oneWrite).isSome = true := by
    decide +kernel
  obtain ⟨state, ran⟩ := Option.isSome_iff_exists.mp enabled
  have rest : AtRest state
    | .monitor => field_of_run (fun last => (last.device.threads .monitor).resting) _ state _ _ ran
        (by decide +kernel)
    | .user 0 => field_of_run (fun last => (last.device.threads (.user 0)).resting) _ state _ _ ran
        (by decide +kernel)
    | .user 1 => field_of_run (fun last => (last.device.threads (.user 1)).resting) _ state _ _ ran
        (by decide +kernel)
    | .user 2 => field_of_run (fun last => (last.device.threads (.user 2)).resting) _ state _ _ ran
        (by decide +kernel)
    | .user (index + 3) =>
        field_of_run (fun last => (last.device.threads (.user (index + 3))).resting) _ state _ _ ran
          rfl
  exact ⟨state, ran, rest,
    (io_gauges_accurate_iff diskProps 1 oneWrite state ran rest).mpr (by decide +kernel)⟩

/-- The pending queue is empty again, and one request stays counted as unsubmitted. -/
theorem aborted_request_stays_counted :
    ¬ ∀ (props : WnbdProperties) (poolSize : Nat) (actions : List (ThreadId × Choice))
      (state : GaugedState),
      run (gaugedNext props) (GaugedState.initial poolSize) actions = some state →
      AtRest state → GaugesAccurate state := by
  intro always
  have enabled : (run (gaugedNext diskProps) (GaugedState.initial 1) resetOfPending).isSome =
      true := by
    decide +kernel
  obtain ⟨state, ran⟩ := Option.isSome_iff_exists.mp enabled
  have rest : AtRest state
    | .monitor => field_of_run (fun last => (last.device.threads .monitor).resting) _ state _ _ ran
        (by decide +kernel)
    | .user 0 => field_of_run (fun last => (last.device.threads (.user 0)).resting) _ state _ _ ran
        (by decide +kernel)
    | .user 1 => field_of_run (fun last => (last.device.threads (.user 1)).resting) _ state _ _ ran
        (by decide +kernel)
    | .user (index + 2) =>
        field_of_run (fun last => (last.device.threads (.user (index + 2))).resting) _ state _ _ ran
          rfl
  have queued : state.device.queues.pendingReqList = [] :=
    field_of_run (·.device.queues.pendingReqList) _ state _ _ ran (by decide +kernel)
  have counted : state.stats.unsubmittedIORequests = 1 :=
    field_of_run (·.stats.unsubmittedIORequests) _ state _ _ ran (by decide +kernel)
  have accurate := (always diskProps 1 resetOfPending state ran rest).unsubmitted
  rw [queued, counted] at accurate
  cases accurate

end Wnbd.Device
