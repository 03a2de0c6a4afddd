import Wnbd.Device.Completion
import Wnbd.Device.QueueMoves
import Wnbd.Foundation.Counting

/-!
# No lost wakeup

The semaphore `DeviceEvent` and the pending queue are updated in separate steps.
A drain empties the queue without the semaphore, and a fetch call may consume a
count and find the queue empty, so the count is only a bound: a queued element
has a count, a fetch call that consumed one, or an enqueuer that still owes one.
-/

set_option autoImplicit false

namespace Wnbd.Device

open Wnbd.Scsi Wnbd.Dispatch DeviceState DeviceQueues StepSystem

def ThreadPc.Popping (pc : ThreadPc) : Prop := pc.load.popping = true

def ThreadPc.Signaling (pc : ThreadPc) : Prop := pc.load.signaling = true

instance : DecidablePred ThreadPc.Popping := fun pc =>
  inferInstanceAs (Decidable (pc.load.popping = true))

instance : DecidablePred ThreadPc.Signaling := fun pc =>
  inferInstanceAs (Decidable (pc.load.signaling = true))

/-- The bound on the pending queue, and who it counts. -/
def WakeupInv (state : DeviceState) : Prop :=
  ∃ popping signaling, Counts (fun thread => (state.threads thread).Popping) popping ∧
    Counts (fun thread => (state.threads thread).Signaling) signaling ∧
    state.queues.pendingReqList.length ≤ state.deviceEvent + popping + signaling

theorem wakeupInv_initial (poolSize : Nat) : WakeupInv (DeviceState.initial poolSize) := by
  refine ⟨0, 0, Counts.zero ?_, Counts.zero ?_, Nat.zero_le _⟩
  · intro thread
    cases thread <;> exact Bool.false_ne_true
  · intro thread
    cases thread <;> exact Bool.false_ne_true

/-- A move adds no element without a count or a thread that owes one.  A fetch
call that consumed a count for nothing finds the queue empty. -/
theorem queueMove_bound {state after : DeviceState} {old new : ThreadPc}
    (move : QueueMove state after old new) :
    after.queues.pendingReqList = [] ∨
    after.queues.pendingReqList.length + state.deviceEvent + (if old.Popping then 1 else 0) +
        (if old.Signaling then 1 else 0) ≤
      state.queues.pendingReqList.length + after.deviceEvent + (if new.Popping then 1 else 0) +
        (if new.Signaling then 1 else 0) := by
  cases move with
  | quiet queues load =>
      have popping : new.Popping ↔ old.Popping := by rw [ThreadPc.Popping, load, ThreadPc.Popping]
      have signaling : new.Signaling ↔ old.Signaling := by
        rw [ThreadPc.Signaling, load, ThreadPc.Signaling]
      refine Or.inr ?_
      rw [queues.pending, queues.deviceEvent]
      simp only [popping, signaling, le_refl]
  | popNone bufferSize empty queues =>
      refine Or.inl ?_
      rw [queues.pending, empty]
  | handle _ queues | refuse _ queues | receive _ _ queues | exhausted _ _ queues
  | reject _ _ _ queues | apply _ _ queues | submit _ queues | drop _ _ _ queues
  | take _ _ _ queues | drainSubmitted _ _ _ _ queues | complete _ _ queues | signal queues =>
      refine Or.inr ?_
      simp [queues.pending, queues.deviceEvent, ThreadPc.Popping, ThreadPc.Signaling,
        ThreadPc.load, Load.none]
  | abort list _ _ _ _ queues =>
      refine Or.inr ?_
      cases list <;>
        simp [queues.pending, queues.deviceEvent, ThreadPc.Popping, ThreadPc.Signaling,
          ThreadPc.load, Load.none]
  | insert element srb _ queues =>
      refine Or.inr ?_
      simp [queues.pending, queues.deviceEvent, ThreadPc.Popping, ThreadPc.Signaling,
        ThreadPc.load, Load.none]
      omega
  | awake bufferSize signaled queues =>
      refine Or.inr ?_
      simp [queues.pending, queues.deviceEvent, ThreadPc.Popping, ThreadPc.Signaling,
        ThreadPc.load, Load.none]
      omega
  | pop _ element rest head queues | drainPending _ _ element rest head queues =>
      refine Or.inr ?_
      simp [queues.pending, queues.deviceEvent, head, ThreadPc.Popping, ThreadPc.Signaling,
        ThreadPc.load, Load.none]

theorem deviceNext_wakeup (props : WnbdProperties) (state after : DeviceState)
    (action : ThreadId × Choice) (inv : DeviceInv state) (wakeup : WakeupInv state)
    (taken : deviceNext props state action = some after) : WakeupInv after := by
  obtain ⟨thread, choice⟩ := action
  obtain ⟨popping, signaling, popped, signaled, bound⟩ := wakeup
  obtain ⟨next, threads, move, _, _⟩ := deviceNext_moves inv taken
  obtain ⟨poppingAfter, poppedAfter, poppers⟩ :=
    Counts.update ThreadPc.Popping _ popped thread next
  obtain ⟨signalingAfter, signaledAfter, signalers⟩ :=
    Counts.update ThreadPc.Signaling _ signaled thread next
  refine ⟨poppingAfter, signalingAfter, ?_, ?_, ?_⟩
  · rw [threads]
    exact poppedAfter
  · rw [threads]
    exact signaledAfter
  · rcases queueMove_bound move with empty | moved
    · rw [empty]
      exact Nat.zero_le _
    · omega

/-- Nobody is between the semaphore and the queue. -/
def NoneBetween (state : DeviceState) : Prop :=
  ∀ thread, ¬ (state.threads thread).Popping ∧ ¬ (state.threads thread).Signaling

/-- No enqueued element waits for a wakeup that never comes. -/
structure NoLostWakeup (props : WnbdProperties) (state : DeviceState) : Prop where
  bound : WakeupInv state
  signaled : NoneBetween state → state.queues.pendingReqList ≠ [] → 0 < state.deviceEvent
  runs : NoneBetween state → state.queues.pendingReqList ≠ [] → ∀ thread bufferSize,
    state.threads thread = .fetchWait bufferSize →
      ∃ after, deviceNext props state (thread, .wait .deviceEvent) = some after ∧
        after.threads thread = .fetchPop bufferSize

/-- In every reachable state the semaphore and the threads between it and the queue cover what is
pending, so that nothing waits for a wakeup that never comes. -/
theorem no_lost_wakeup (props : WnbdProperties) (poolSize : Nat)
    (actions : List (ThreadId × Choice)) (state : DeviceState)
    (ran : run (deviceNext props) (DeviceState.initial poolSize) actions = some state) :
    NoLostWakeup props state := by
  have both : DeviceInv state ∧ WakeupInv state := by
    refine invariant_of_run (fun state => DeviceInv state ∧ WakeupInv state) ?_ actions _ state
      ⟨deviceInv_initial poolSize, wakeupInv_initial poolSize⟩ ran
    intro before after action held taken
    exact ⟨deviceNext_inv props before after action held.1 taken,
      deviceNext_wakeup props before after action held.1 held.2 taken⟩
  have signaled : NoneBetween state → state.queues.pendingReqList ≠ [] →
      0 < state.deviceEvent := by
    intro none queued
    obtain ⟨popping, signaling, popped, owed, bound⟩ := both.2
    have noPopper := popped.eq_zero fun thread => (none thread).1
    have noSignaler := owed.eq_zero fun thread => (none thread).2
    have positive := List.length_pos_of_ne_nil queued
    omega
  refine ⟨both.2, signaled, ?_⟩
  intro none queued thread bufferSize waiting
  have positive := signaled none queued
  refine ⟨{ state with deviceEvent := state.deviceEvent - 1 }.setPc thread
    (.fetchPop bufferSize), ?_, Function.update_self ..⟩
  unfold deviceNext
  simp only [waiting, fetchStep, fetchWaitStep, if_pos positive]

/-- A write is queued while a fetch thread waits: the thread is woken. -/
theorem no_lost_wakeup_one_write :
    ∃ state, run (deviceNext diskProps) (DeviceState.initial 1)
        ([(.user 1, .fetch 4 4096), (.user 1, .proceed)] ++ queueWrite (.user 0)) = some state ∧
      state.threads (.user 1) = .fetchWait 4096 ∧ state.queues.pendingReqList = [0] ∧
      NoLostWakeup diskProps state := by
  have enabled : (run (deviceNext diskProps) (DeviceState.initial 1)
      ([(.user 1, .fetch 4 4096), (.user 1, .proceed)] ++ queueWrite (.user 0))).map
        (fun state => (state.threads (.user 1), state.queues.pendingReqList)) =
          some (.fetchWait 4096, [0]) := by
    decide +kernel
  obtain ⟨state, ran, fields⟩ := Option.map_eq_some_iff.mp enabled
  obtain ⟨waiting, queued⟩ : state.threads (.user 1) = .fetchWait 4096 ∧
      state.queues.pendingReqList = [0] := by
    simpa using fields
  exact ⟨state, ran, waiting, queued, no_lost_wakeup diskProps 1 _ state ran⟩

end Wnbd.Device
