import Wnbd.Device.Completion
import Wnbd.Device.QueueMoves

/-!
# Resets that complete SRBs behind the queues

`WnbdResetDeviceFunction` and `WnbdHwResetBus` let Storport complete every outstanding
SRB.  The queues keep the elements, so an SRB that is queued or in a thread's hands is
used again.  `reset_safe` holds for resets that find nothing outstanding but SRBs which a
fetch call left behind.
-/

set_option autoImplicit false

namespace Wnbd.Device

open Wnbd.Scsi Wnbd.Dispatch Placement DeviceState

def srbStatusTimeout : UInt8 := 0x09
def srbStatusBusReset : UInt8 := 0x0E

/-- The device, and the SRBs that a reset completed. -/
structure ResetState where
  device : DeviceState
  completedByReset : List SrbId

def ResetState.initial (poolSize : Nat) : ResetState := ⟨.initial poolSize, []⟩

/-- Storport handed the SRB out and has not seen it completed. -/
def Outstanding (state : ResetState) (srb : SrbId) : Prop :=
  srb < state.device.ledger.issued ∧ srb ∉ state.device.ledger.reported ∧
    srb ∉ state.completedByReset

instance (state : ResetState) (srb : SrbId) : Decidable (Outstanding state srb) :=
  inferInstanceAs (Decidable (_ ∧ _))

def outstandingSrbs (state : ResetState) : List SrbId :=
  (List.range state.device.ledger.issued).filter fun srb => Outstanding state srb

/-- `StorPortCompleteRequest`: every outstanding SRB gets the status and is completed. -/
def storPortCompleteRequest (state : ResetState) (srbStatus : UInt8) : ResetState :=
  { device :=
      { state.device with
        ledger.srbs := fun srb =>
          if Outstanding state srb then (state.device.ledger.srbs srb).setSrbStatus srbStatus
          else state.device.ledger.srbs srb }
    completedByReset := state.completedByReset ++ outstandingSrbs state }

inductive ResetAction
  | device (action : ThreadId × Choice)
  | wnbdResetDeviceFunction
  | wnbdHwResetBus

def resetNext (props : WnbdProperties) (state : ResetState) : ResetAction → Option ResetState
  | .device action =>
      (deviceNext props state.device action).map fun device => { state with device }
  | .wnbdResetDeviceFunction => some (storPortCompleteRequest state srbStatusTimeout)
  | .wnbdHwResetBus => some (storPortCompleteRequest state srbStatusBusReset)

/-- No SRB that a reset completed is reported as well, or read or written by a step. -/
structure ResetSafe (props : WnbdProperties) (state : ResetState) : Prop where
  once : ∀ srb ∈ state.completedByReset, srb ∉ state.device.ledger.reported
  untouched : ∀ action after, deviceNext props state.device action = some after →
    ∀ srb ∈ state.completedByReset, srb ∉ touchedSrbs state.device action

/-- The SRB is in an element that a fetch call left behind. -/
def LeftBehind (state : DeviceState) (srb : SrbId) : Prop :=
  ∃ element ∈ state.queues.lost, srb ∈ carried (state.queues.heap element)

instance (state : DeviceState) (srb : SrbId) : Decidable (LeftBehind state srb) :=
  inferInstanceAs (Decidable (∃ element ∈ state.queues.lost, _))

/-- A reset finds nothing outstanding that the driver will use again. -/
def ResetsIdle (state : ResetState) : ResetAction → Prop
  | .device _ => True
  | .wnbdResetDeviceFunction | .wnbdHwResetBus =>
      ∀ srb ∈ outstandingSrbs state, LeftBehind state.device srb

instance (state : ResetState) (action : ResetAction) : Decidable (ResetsIdle state action) := by
  cases action with
  | device _ => exact inferInstanceAs (Decidable True)
  | wnbdResetDeviceFunction | wnbdHwResetBus =>
      exact inferInstanceAs (Decidable (∀ srb ∈ outstandingSrbs state, _))

/-! ## SRBs that were left behind -/

section LeftBehind

variable {props : WnbdProperties} {state after : DeviceState} {action : ThreadId × Choice}

theorem LeftBehind.not_reported {srb : SrbId} (behind : LeftBehind state srb)
    (inv : DeviceInv state) : srb ∉ state.ledger.reported := by
  obtain ⟨element, _, carries⟩ := behind
  exact carried_not_reported state inv element srb carries

/-- An SRB in the hands of a thread is not one that was left behind. -/
theorem LeftBehind.not_held {srb : SrbId} (behind : LeftBehind state srb) (inv : DeviceInv state)
    (thread : ThreadId) (element : ElementId) (full : (state.threads thread).hand = some element)
    (carries : srb ∈ carried (state.queues.heap element)) : False := by
  obtain ⟨other, lost, carried⟩ := behind
  have same := inv.srbs.exclusive.unique (.element other) (.element element) srb carried carries
  rw [SrbPlace.element.injEq] at same
  have held : other ∈ contents state.queues state.threads (.hand thread) := by
    simp [contents, full, same]
  cases inv.elements.exclusive.unique .lost (.hand thread) other lost held

theorem LeftBehind.not_starting {srb : SrbId} (behind : LeftBehind state srb)
    (inv : DeviceInv state) (thread : ThreadId)
    (full : (state.threads thread).startingSrb = some srb) : False := by
  obtain ⟨other, _, carried⟩ := behind
  have starting : srb ∈ srbContents state.queues.heap state.ledger.reported state.threads
      (.starting thread) := by simp [srbContents, full]
  cases inv.srbs.exclusive.unique (.element other) (.starting thread) srb carried starting

/-- The element in a thread's hands still carries its SRB. -/
theorem elementSrb_carried (inv : DeviceInv state) (thread : ThreadId) (element : ElementId)
    (full : (state.threads thread).hand = some element)
    (phase : (state.threads thread).phase = .queued) (srb : SrbId)
    (member : srb ∈ elementSrb state element) : srb ∈ carried (state.queues.heap element) := by
  obtain ⟨value, stored, holds⟩ := inv.elements.held thread element full
  rw [phase] at holds
  obtain ⟨-, notCompleted, -⟩ := holds
  simpa [elementSrb, carried, stored, notCompleted] using member

theorem LeftBehind.not_touched {srb : SrbId} (behind : LeftBehind state srb)
    (inv : DeviceInv state) : srb ∉ touchedSrbs state action := by
  intro touched
  obtain ⟨thread, choice⟩ := action
  cases here : state.threads thread with
  | idle =>
      cases choice with
      | startIo contents =>
          simp only [touchedSrbs, here, List.mem_singleton] at touched
          subst touched
          obtain ⟨element, _, carries⟩ := behind
          exact absurd (inv.srbs.issued (.element element) _ carries) (Nat.lt_irrefl _)
      | _ =>
          simp only [touchedSrbs, here] at touched
          cases touched
  | startCheck | startHandle | startAlloc | startRefused | startReport =>
      simp only [touchedSrbs, here, List.mem_singleton] at touched
      exact behind.not_starting inv thread (by rw [here, touched]; rfl)
  | fetchPrepare | responseApply | abort =>
      simp only [touchedSrbs, here] at touched
      exact behind.not_held inv thread _ (by rw [here]; rfl)
        (elementSrb_carried inv thread _ (by rw [here]; rfl) (by rw [here]; rfl) srb touched)
  | complete element resume =>
      simp only [touchedSrbs, here] at touched
      exact behind.not_held inv thread element (by rw [here]; rfl) touched
  | _ =>
      simp only [touchedSrbs, here] at touched
      cases touched

theorem LeftBehind.step {srb : SrbId} (behind : LeftBehind state srb) (inv : DeviceInv state)
    (taken : deviceNext props state action = some after) : LeftBehind after srb := by
  obtain ⟨thread, choice⟩ := action
  obtain ⟨element, lost, carries⟩ := behind
  obtain ⟨next, moves⟩ := deviceNext_moves inv taken
  have free : (state.threads thread).hand ≠ some element := by
    intro full
    exact LeftBehind.not_held ⟨element, lost, carries⟩ inv thread element full carries
  have stored : state.queues.heap element ≠ none := by
    intro none
    rw [none] at carries
    cases carries
  refine ⟨element, ?_, ?_⟩
  · rw [(deviceNext_frame taken).lost]
    exact List.mem_append_left _ lost
  · rw [moves.heap element free stored]
    exact carries

end LeftBehind

/-! ## Runs -/

structure ResetInv (state : ResetState) : Prop where
  device : DeviceInv state.device
  behind : ∀ srb ∈ state.completedByReset, LeftBehind state.device srb

theorem resetInv_initial (poolSize : Nat) : ResetInv (.initial poolSize) where
  device := deviceInv_initial poolSize
  behind _ member := absurd member List.not_mem_nil

theorem ResetInv.completeRequest {state : ResetState} (inv : ResetInv state) (srbStatus : UInt8)
    (idle : ∀ srb ∈ outstandingSrbs state, LeftBehind state.device srb) :
    ResetInv (storPortCompleteRequest state srbStatus) where
  device := ⟨inv.device.elements, ⟨inv.device.srbs.exclusive, inv.device.srbs.issued,
    inv.device.srbs.accounted⟩⟩
  behind := by
    intro srb member
    rcases List.mem_append.mp member with before | now
    · exact inv.behind srb before
    · exact idle srb now

theorem ResetInv.next {props : WnbdProperties} {state after : ResetState} {action : ResetAction}
    (inv : ResetInv state) (idle : ResetsIdle state action)
    (taken : resetNext props state action = some after) : ResetInv after := by
  cases action with
  | device step =>
      obtain ⟨device, stepped, rfl⟩ := Option.map_eq_some_iff.mp taken
      exact ⟨deviceNext_inv props state.device device step inv.device stepped,
        fun srb member => (inv.behind srb member).step inv.device stepped⟩
  | wnbdResetDeviceFunction =>
      cases taken
      exact inv.completeRequest srbStatusTimeout idle
  | wnbdHwResetBus =>
      cases taken
      exact inv.completeRequest srbStatusBusReset idle

theorem ResetInv.safe {state : ResetState} (inv : ResetInv state) (props : WnbdProperties) :
    ResetSafe props state where
  once srb member := (inv.behind srb member).not_reported inv.device
  untouched _ _ _ srb member := (inv.behind srb member).not_touched inv.device

/-- Resets are safe when all that is outstanding then was left behind before. -/
theorem reset_safe (props : WnbdProperties) (poolSize : Nat) (state : ResetState)
    (path : StepSystem.Path (resetNext props) ResetsIdle (.initial poolSize) state) :
    ResetSafe props state := by
  have inv := path.invariant ResetInv (resetInv_initial poolSize)
    fun _ _ _ idle inv taken => inv.next idle taken
  exact inv.safe props

/-! ## A reset with a write in the queue -/

def ofDevice (actions : List (ThreadId × Choice)) : List ResetAction := actions.map .device

/-- A fetch call pops the write, the monitor marks the device, and the call forgets it. -/
def resetAfterRemoval : List ResetAction :=
  ofDevice (queueWrite (.user 0) ++ fetchUntilPop (.user 1) ++
    [(.monitor, .proceed), (.monitor, .proceed), (.user 1, .proceed)]) ++
    [.wnbdResetDeviceFunction]

theorem reset_safe_of_removal :
    ∃ state, StepSystem.Path (resetNext diskProps) ResetsIdle (.initial 1) state ∧
      state.completedByReset = [0] ∧ ResetSafe diskProps state := by
  have enabled : (StepSystem.run (resetNext diskProps) (.initial 1) resetAfterRemoval).map
      (·.completedByReset) = some [0] := by
    decide +kernel
  have idle : StepSystem.AllAllowed (resetNext diskProps) ResetsIdle (.initial 1)
      resetAfterRemoval := by
    decide +kernel
  obtain ⟨state, ran, completed⟩ := Option.map_eq_some_iff.mp enabled
  have path := StepSystem.path_of_run _ _ _ idle ran
  exact ⟨state, path, completed, reset_safe diskProps 1 state path⟩

/-- The write is queued when the reset completes it; then it is fetched and answered. -/
def resetThenAnswer : List ResetAction :=
  ofDevice (queueWrite (.user 0)) ++ [.wnbdResetDeviceFunction] ++
    ofDevice (fetchUntilPop (.user 1) ++ fetchRest (.user 1) ++ answer (.user 2) 1)

/-- `StorPortCompleteRequest` completes the SRB, and the reply to it once more. -/
theorem reset_completes_twice :
    ∃ state, StepSystem.run (resetNext diskProps) (.initial 1) resetThenAnswer = some state ∧
      state.completedByReset = [0] ∧ state.device.ledger.reported = [0] := by
  have enabled : (StepSystem.run (resetNext diskProps) (.initial 1) resetThenAnswer).map
      (fun state => (state.completedByReset, state.device.ledger.reported)) =
        some ([0], [0]) := by
    decide +kernel
  obtain ⟨state, ran, both⟩ := Option.map_eq_some_iff.mp enabled
  rw [Prod.mk.injEq] at both
  exact ⟨state, ran, both.1, both.2⟩

end Wnbd.Device
