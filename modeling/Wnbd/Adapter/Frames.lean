import Wnbd.Adapter.Create
import Wnbd.Adapter.StepCases

/-!
# What the steps outside of cleanup leave alone

The rundown protection of the extension is only run down by
`WnbdCleanupAllDevices`: the other steps take and release references.  Of the
monitor's steps only the wait touches `GlobalDeviceRemovalEvent`.
-/

set_option autoImplicit false

namespace Wnbd.Adapter

open Wnbd.Scsi AdapterState LifecycleState

section Rundown

variable {state after : LifecycleState}

def Refusing (state : LifecycleState) : Prop :=
  state.adapter.rundownProtection.waiting = true

/-- What a step outside of cleanup does to the rundown of the extension. -/
structure KeepsRundown (before after : LifecycleState) : Prop where
  waiting : after.adapter.rundownProtection.waiting =
    before.adapter.rundownProtection.waiting
  cleanup : after.cleanup = before.cleanup

theorem KeepsRundown.refusing {before after : LifecycleState} (keeps : KeepsRundown before after) :
    Refusing after ↔ Refusing before := by
  unfold Refusing
  rw [keeps.waiting]

theorem acquireRundown_waiting (adapter : AdapterState) :
    adapter.acquireRundown.2.rundownProtection.waiting = adapter.rundownProtection.waiting := by
  unfold acquireRundown
  cases acquired : adapter.rundownProtection.acquire with
  | none => rfl
  | some protection =>
      obtain ⟨-, rfl⟩ := Rundown.acquire_eq_some _ _ acquired
      rfl

theorem createBegin_refusing (call : DeviceId) (props : WnbdProperties) (refusing : Refusing state)
    (taken : createBegin state call props = some after) :
    ∃ kept, after = state.setCreator call (.failed statusShutdownInProgress kept) := by
  unfold createBegin at taken
  rw [acquireRundown_refused state.adapter refusing] at taken
  dsimp only at taken
  split_ifs at taken with idle off refused
  · cases taken
    exact ⟨false, rfl⟩
  · cases taken
    exact ⟨false, rfl⟩
  · exact absurd rfl refused

theorem createBegin_keepsRundown (call : DeviceId) (props : WnbdProperties)
    (taken : createBegin state call props = some after) : KeepsRundown state after where
  waiting := by
    unfold createBegin at taken
    dsimp only at taken
    split_ifs at taken <;> cases taken <;> exact acquireRundown_waiting state.adapter
  cleanup := by
    unfold createBegin at taken
    dsimp only at taken
    split_ifs at taken <;> cases taken <;> rfl

theorem creatorStep_keepsRundown (call : DeviceId) (fails : Bool)
    (taken : creatorStep state call fails = some after) : KeepsRundown state after := by
  cases creatorStep_cases taken <;> exact ⟨rfl, rfl⟩

theorem monitorStep_keepsRundown (device : DeviceId)
    (taken : monitorStep state device = some after) : KeepsRundown state after := by
  cases monitorStep_cases taken <;> exact ⟨rfl, rfl⟩

theorem lookupStep_keepsRundown (user : Nat) (key : LookupKey)
    (taken : lookupStep state user key = some after) : KeepsRundown state after := by
  unfold lookupStep at taken
  split_ifs at taken
  split at taken
  · cases taken
    exact ⟨rfl, rfl⟩
  · split at taken <;> cases taken <;> exact ⟨rfl, rfl⟩

theorem userStep_keepsRundown (user : Nat) (op : UserOp)
    (taken : userStep state user op = some after) : KeepsRundown state after := by
  unfold userStep at taken
  split at taken
  · cases taken
  · split_ifs at taken
    cases taken
    exact ⟨rfl, rfl⟩
  · cases op with
    | signalRemoval =>
        cases taken
        unfold signalDevice wakeMonitor
        dsimp only
        split_ifs <;> exact ⟨rfl, rfl⟩
    | access | markRemoval | release | releaseAndWait =>
        cases taken
        exact ⟨rfl, rfl⟩

theorem lifecycleNext_keepsRundown (action : LifecycleAction)
    (notCleanup : ∀ chosen, action ≠ .cleanup chosen)
    (taken : lifecycleNext state action = some after) : KeepsRundown state after := by
  cases action with
  | create call props => exact createBegin_keepsRundown call props taken
  | creator call fails => exact creatorStep_keepsRundown call fails taken
  | monitor device => exact monitorStep_keepsRundown device taken
  | lookup user key => exact lookupStep_keepsRundown user key taken
  | user user op => exact userStep_keepsRundown user op taken
  | cleanup chosen => exact absurd rfl (notCleanup chosen)

end Rundown

/-! ## The removal event -/

section Event

variable {state after : LifecycleState}

theorem creatorStep_event (call : DeviceId) (fails : Bool)
    (taken : creatorStep state call fails = some after) :
    after.adapter.globalDeviceRemovalEvent = state.adapter.globalDeviceRemovalEvent := by
  cases creatorStep_cases taken <;> rfl

theorem monitorStep_event (device : DeviceId) (past : state.monitors device ≠ .start)
    (taken : monitorStep state device = some after) :
    after.adapter.globalDeviceRemovalEvent = state.adapter.globalDeviceRemovalEvent := by
  cases monitorStep_cases taken with
  | wakes here | ownEvent here | sleeps here => exact absurd here past
  | _ => rfl

end Event

end Wnbd.Adapter
