import Wnbd.Device.Frame
import Wnbd.Dispatch.BufferBounds

/-!
# Completion at most once

Elements have one owner, queued elements are neither aborted nor completed, no
SRB is reported twice, and no step touches the contents of a reported SRB.
-/

set_option autoImplicit false

namespace Wnbd.Device

open Wnbd.Scsi Wnbd.Dispatch Placement HashIndex DeviceState DeviceQueues

/-! ## Nothing reported is touched -/

theorem starting_not_reported (state : DeviceState) (inv : DeviceInv state) (thread : ThreadId)
    (srb : SrbId) (full : (state.threads thread).startingSrb = some srb) :
    srb ∉ state.ledger.reported := by
  intro reported
  have starting : srb ∈ srbContents state.queues.heap state.ledger.reported state.threads
      (.starting thread) := by simp [srbContents, full]
  cases inv.srbs.exclusive.unique (.starting thread) .reported srb starting reported

theorem carried_not_reported (state : DeviceState) (inv : DeviceInv state) (element : ElementId)
    (srb : SrbId) (carries : srb ∈ carried (state.queues.heap element)) :
    srb ∉ state.ledger.reported := fun reported => by
  cases inv.srbs.exclusive.unique (.element element) .reported srb carries reported

theorem elementSrb_not_reported (state : DeviceState) (inv : DeviceInv state) (thread : ThreadId)
    (element : ElementId) (full : (state.threads thread).hand = some element)
    (phase : (state.threads thread).phase = .queued) (srb : SrbId)
    (member : srb ∈ elementSrb state element) : srb ∉ state.ledger.reported := by
  obtain ⟨value, stored, holds⟩ := inv.elements.held thread element full
  rw [phase] at holds
  obtain ⟨-, notCompleted, -⟩ := holds
  refine carried_not_reported state inv element srb ?_
  simpa [elementSrb, carried, stored, notCompleted] using member

theorem touched_not_reported (state : DeviceState) (inv : DeviceInv state)
    (action : ThreadId × Choice) (srb : SrbId) (touched : srb ∈ touchedSrbs state action) :
    srb ∉ state.ledger.reported := by
  obtain ⟨thread, choice⟩ := action
  cases here : state.threads thread with
  | idle =>
      cases choice with
      | startIo contents =>
          simp only [touchedSrbs, here, List.mem_singleton] at touched
          subst touched
          intro reported
          exact absurd (inv.srbs.issued .reported _ reported) (Nat.lt_irrefl _)
      | _ =>
          simp only [touchedSrbs, here] at touched
          cases touched
  | startCheck | startHandle | startAlloc | startRefused | startReport =>
      simp only [touchedSrbs, here, List.mem_singleton] at touched
      exact starting_not_reported state inv thread srb (by rw [here, touched]; rfl)
  | fetchPrepare | responseApply | abort =>
      simp only [touchedSrbs, here] at touched
      exact elementSrb_not_reported state inv thread _ (by rw [here]; rfl) (by rw [here]; rfl) srb
        touched
  | complete =>
      simp only [touchedSrbs, here] at touched
      exact carried_not_reported state inv _ srb touched
  | _ =>
      simp only [touchedSrbs, here] at touched
      cases touched

/-! ## Main result -/

structure ExclusiveOwnership (state : DeviceState) : Prop where
  /-- An element is in one place at most, a thread's hands included. -/
  exclusive : Exclusive (contents state.queues state.threads)
  /-- The chain of a tag's bucket holds the submitted elements with such tags, once each. -/
  hashed : ∀ bucket element, element ∈ state.queues.submittedReqHashBuckets bucket ↔
    element ∈ state.queues.submittedReqList ∧ bucketOf state.queues.heap element = bucket
  hashedOnce : ∀ bucket, (state.queues.submittedReqHashBuckets bucket).Nodup
  clean : ∀ element,
    element ∈ state.queues.pendingReqList ∨ element ∈ state.queues.submittedReqList →
    ∃ value, state.queues.heap element = some value ∧ value.aborted = false ∧
      value.completed = false
  reportedOnce : state.ledger.reported.Nodup

theorem exclusiveOwnership_of_inv (state : DeviceState) (inv : DeviceInv state) :
    ExclusiveOwnership state where
  exclusive := inv.elements.exclusive
  hashed bucket element := mem_bucket_iff _ _ _ inv.elements.indexed bucket element
  hashedOnce bucket := (inv.elements.indexed bucket).nodup_iff.mpr
    ((inv.elements.exclusive.nodup .submitted).filter _)
  clean element listed := by
    obtain ⟨place, phase, member⟩ : ∃ place : Place, place.phase state.threads = .queued ∧
        element ∈ contents state.queues state.threads place := by
      rcases listed with pending | submitted
      · exact ⟨.pending, rfl, pending⟩
      · exact ⟨.submitted, rfl, submitted⟩
    obtain ⟨value, stored, holds⟩ := inv.elements.phased place element member
    rw [phase] at holds
    exact ⟨value, stored, holds.1, holds.2.1⟩
  reportedOnce := inv.srbs.exclusive.nodup .reported

/-- In every reachable state ownership is exclusive and no SRB was reported
twice; no step touches a reported SRB or changes one it does not touch. -/
theorem exclusive_ownership (props : WnbdProperties) (poolSize : Nat)
    (actions : List (ThreadId × Choice)) (state : DeviceState)
    (ran : StepSystem.run (deviceNext props) (DeviceState.initial poolSize) actions = some state) :
    ExclusiveOwnership state ∧
      ∀ action after, deviceNext props state action = some after →
        (∀ srb ∈ touchedSrbs state action, srb ∉ state.ledger.reported) ∧
          ∀ srb, srb ∉ touchedSrbs state action →
            after.ledger.srbs srb = state.ledger.srbs srb := by
  have inv := deviceInv_of_run props poolSize actions state ran
  exact ⟨exclusiveOwnership_of_inv state inv, fun action after taken =>
    ⟨touched_not_reported state inv action, (deviceNext_frame taken).srbs⟩⟩

/-! ## One write, answered -/

/-- StartIo queues a one-block write. -/
def queueWrite (thread : ThreadId) : List (ThreadId × Choice) :=
  (thread, .startIo (write10Srb 1 512)) :: List.replicate 7 (thread, .proceed)

/-- A fetch call up to the pop. -/
def fetchUntilPop (thread : ThreadId) : List (ThreadId × Choice) :=
  [(thread, .fetch 4 4096), (thread, .proceed), (thread, .wait .deviceEvent), (thread, .proceed)]

def fetchRest (thread : ThreadId) : List (ThreadId × Choice) :=
  [(thread, .proceed), (thread, .fetchFaults 0 ⟨0, 0⟩), (thread, .proceed), (thread, .proceed)]

def answer (thread : ThreadId) (tag : UInt64) : List (ThreadId × Choice) :=
  [(thread, .respond 4 ⟨tag, ⟨0, 0, 0, 0, 0, false⟩, false, 0⟩), (thread, .proceed),
    (thread, .responseFaults ⟨0, 0⟩), (thread, .proceed), (thread, .proceed), (thread, .proceed)]

def oneWrite : List (ThreadId × Choice) :=
  queueWrite (.user 0) ++ fetchUntilPop (.user 1) ++ fetchRest (.user 1) ++ answer (.user 2) 1

theorem exclusive_ownership_one_write :
    ∃ state, StepSystem.run (deviceNext diskProps) (DeviceState.initial 1) oneWrite = some state ∧
      state.ledger.reported = [0] ∧ ExclusiveOwnership state := by
  have enabled : ((StepSystem.run (deviceNext diskProps) (DeviceState.initial 1) oneWrite).map
      (·.ledger.reported)) = some [0] := by
    decide +kernel
  obtain ⟨state, ran, reported⟩ := Option.map_eq_some_iff.mp enabled
  exact ⟨state, ran, reported, (exclusive_ownership diskProps 1 oneWrite state ran).1⟩

end Wnbd.Device
