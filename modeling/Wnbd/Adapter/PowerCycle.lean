import Wnbd.Adapter.Frames
import Wnbd.Adapter.Lifetime
import Wnbd.Foundation.StepSystem

/-!
# Power transitions of the adapter

`ScsiStopAdapter` runs `WnbdCleanupAllDevices`, which runs the adapter's rundown
protection down and sets `GlobalDeviceRemovalEvent`.  `ScsiRestartAdapter` is
reported as supported, but nothing is initialised again:
`power_cycle_transparent_iff`.  The event too may outlive the stop, and then takes
the first disk mapped afterwards down: `stale_event_tears_down`.
-/

set_option autoImplicit false

namespace Wnbd.Adapter

open Wnbd.Scsi AdapterState LifecycleState StepSystem

inductive ScsiAdapterControlType
  | scsiQuerySupportedControlTypes
  | scsiStopAdapter
  | scsiRestartAdapter
  | scsiSetBootConfig
  | scsiSetRunningConfig
  | other (controlType : Nat)
deriving DecidableEq, Repr

/-- Where the adapter is between `ScsiStopAdapter` and `ScsiRestartAdapter`. -/
inductive PowerPhase
  | running
  | stopping
  | stopped
  | restarted
deriving DecidableEq, Repr

structure PowerState where
  system : LifecycleState
  phase : PowerPhase

def PowerState.running (system : LifecycleState) : PowerState := { system, phase := .running }

/-- `WnbdHwAdapterControl`.  Stopping the adapter enters `WnbdCleanupAllDevices`,
whose steps follow.  Of the other control types, which write at most a list of the
caller, only the phase of a restart is kept here. -/
def wnbdHwAdapterControl (state : PowerState) : ScsiAdapterControlType → Option PowerState
  | .scsiStopAdapter =>
      if state.system.cleanup = .idle ∧ state.phase ≠ .stopping then
        some { state with phase := .stopping }
      else none
  | .scsiRestartAdapter =>
      if state.phase = .stopped then some { state with phase := .restarted } else none
  | _ => some state

def PowerState.setNewMappingsAllowed (state : PowerState) (value : Bool) : PowerState :=
  let adapter := { state.system.adapter with newMappingsAllowed := value }
  { state with system := state.system.setAdapter adapter }

inductive PowerAction
  /-- A step of another thread: of a create call, a monitor, a lookup or its user. -/
  | thread (action : LifecycleAction)
  | adapterControl (controlType : ScsiAdapterControlType)
  | cleanup (chosen : Option DeviceId)
  | setNewMappingsAllowed (value : Bool)
deriving DecidableEq

def powerNext (state : PowerState) : PowerAction → Option PowerState
  | .thread (.cleanup _) => none
  | .thread action => (lifecycleNext state.system action).map fun system => { state with system }
  | .adapterControl controlType => wnbdHwAdapterControl state controlType
  | .cleanup chosen =>
      if state.phase = .stopping then
        (cleanupStep state.system chosen).map fun system =>
          { system, phase := if system.cleanup = .idle then .stopped else .stopping }
      else none
  | .setNewMappingsAllowed value => some (state.setNewMappingsAllowed value)

/-! ## What a power cycle should leave behind -/

/-- An adapter after `WnbdHwFindAdapter` with the options of `adapter`. -/
def freshAdapter (adapter : AdapterState) : AdapterState :=
  { AdapterState.initial with newMappingsAllowed := adapter.newMappingsAllowed }

/-- A removal of this device, or a cleanup. -/
def AsksRemoval (call : DeviceId) (state : PowerState) : PowerAction → Prop
  | .adapterControl controlType => controlType = .scsiStopAdapter
  | .thread (.user user .signalRemoval) => state.system.users user = .holding call
  | _ => False

/-- The device of a create call is torn down only when that is asked for. -/
def KeptUntilAsked (state : PowerState) (call : DeviceId) : Prop :=
  ∀ actions after, run powerNext state actions = some after →
    AllAllowed powerNext (fun state action => ¬ AsksRemoval call state action) state actions →
    (after.system.monitors call).tearsDown = false

/-- No create call with this device has begun. -/
structure NewCall (state : LifecycleState) (call : DeviceId) : Prop where
  creator : state.creators call = .idle
  monitor : state.monitors call = .absent
  queued : call ∉ state.adapter.globalDeviceRemovalEvent.waiters

structure TransparentToCreates (state : PowerState) : Prop where
  accepted : ∀ device props faults,
    (wnbdCreateConnection state.system.adapter device props faults).status =
      (wnbdCreateConnection (freshAdapter state.system.adapter) device props faults).status
  kept : ∀ call props begun, NewCall state.system call →
    createBegin state.system call props = some begun →
      KeptUntilAsked { state with system := begun } call

/-! ## Steps of other calls and monitors -/

section Steps

variable {state after : LifecycleState}

/-- What a step of another call or monitor leaves as it was. -/
structure Elsewhere (call : DeviceId) (before after : LifecycleState) : Prop where
  creator : after.creators call = before.creators call
  monitor : after.monitors call = before.monitors call
  queued : call ∈ after.adapter.globalDeviceRemovalEvent.waiters →
    call ∈ before.adapter.globalDeviceRemovalEvent.waiters

theorem Elsewhere.creatorMoves {call other : DeviceId} (different : call ≠ other)
    (adapter : AdapterState) (next : CreatorPc)
    (event : adapter.globalDeviceRemovalEvent = state.adapter.globalDeviceRemovalEvent) :
    Elsewhere call state ((state.setAdapter adapter).setCreator other next) where
  creator := Function.update_of_ne different _ _
  monitor := rfl
  queued queued := by
    rw [← event]
    exact queued

theorem Elsewhere.monitorMoves {call other : DeviceId} (different : call ≠ other)
    (adapter : AdapterState) (next : MonitorPc)
    (queued : call ∈ adapter.globalDeviceRemovalEvent.waiters →
      call ∈ state.adapter.globalDeviceRemovalEvent.waiters) :
    Elsewhere call state ((state.setAdapter adapter).setMonitor other next) where
  creator := rfl
  monitor := Function.update_of_ne different _ _
  queued := queued

theorem creatorStep_elsewhere {call other : DeviceId} (different : call ≠ other) (fails : Bool)
    (taken : creatorStep state other fails = some after) : Elsewhere call state after := by
  cases creatorStep_cases taken with
  | starts bit here =>
      exact ⟨Function.update_of_ne different _ _, Function.update_of_ne different _ _, id⟩
  | _ => exact .creatorMoves different _ _ rfl

theorem monitorStep_elsewhere {call other : DeviceId} (different : call ≠ other)
    (taken : monitorStep state other = some after) : Elsewhere call state after := by
  cases monitorStep_cases taken with
  | sleeps =>
      refine .monitorMoves different _ _ fun queued => ?_
      rcases List.mem_append.mp queued with before | last
      · exact before
      · exact absurd (List.mem_singleton.mp last) different
  | _ => exact .monitorMoves different _ _ id

theorem wakeMonitor_elsewhere {call : DeviceId} (awake : state.monitors call ≠ .waiting)
    (other : DeviceId) : Elsewhere call state (wakeMonitor state other) := by
  unfold wakeMonitor
  split_ifs with waiting
  · have different : call ≠ other := by
      rintro rfl
      exact awake waiting
    refine .monitorMoves different _ _ fun queued => ?_
    exact List.mem_of_mem_erase queued
  · exact ⟨rfl, rfl, id⟩

theorem lookupStep_elsewhere (call : DeviceId) (user : Nat) (key : LookupKey)
    (taken : lookupStep state user key = some after) : Elsewhere call state after := by
  unfold lookupStep at taken
  split_ifs at taken
  split at taken
  · cases taken
    exact ⟨rfl, rfl, id⟩
  · split at taken <;> cases taken <;> exact ⟨rfl, rfl, id⟩

theorem userStep_elsewhere {call : DeviceId} (awake : state.monitors call ≠ .waiting)
    (user : Nat) (op : UserOp) (taken : userStep state user op = some after) :
    Elsewhere call state after := by
  unfold userStep at taken
  split at taken
  · cases taken
  · split_ifs at taken
    cases taken
    exact ⟨rfl, rfl, id⟩
  · rename_i device pc
    cases op with
    | signalRemoval =>
        cases taken
        have woken := wakeMonitor_elsewhere awake device
        exact ⟨woken.creator, woken.monitor, woken.queued⟩
    | access | markRemoval | release | releaseAndWait =>
        cases taken
        exact ⟨rfl, rfl, id⟩

theorem cleanupStep_elsewhere {call : DeviceId}
    (unqueued : call ∉ state.adapter.globalDeviceRemovalEvent.waiters) (chosen : Option DeviceId)
    (taken : cleanupStep state chosen = some after) : Elsewhere call state after := by
  unfold cleanupStep at taken
  dsimp only at taken
  split at taken
  · obtain ⟨event, released, rfl⟩ := Option.map_eq_some_iff.mp taken
    rcases SyncEvent.set_cases _ _ _ released with ⟨device, rfl, member, rfl⟩ | ⟨rfl, -, rfl⟩
    · have different : call ≠ device := by
        rintro rfl
        exact unqueued member
      exact ⟨rfl, Function.update_of_ne different _ _, List.mem_of_mem_erase⟩
    · exact ⟨rfl, rfl, id⟩
  · cases taken
    exact ⟨rfl, rfl, id⟩
  · split_ifs at taken
    cases taken
    exact ⟨rfl, rfl, id⟩

/-! ## Cleanup -/

theorem cleanupStep_refusing (chosen : Option DeviceId) (refusing : Refusing state)
    (taken : cleanupStep state chosen = some after) : Refusing after := by
  unfold cleanupStep at taken
  dsimp only at taken
  split at taken
  · obtain ⟨event, -, rfl⟩ := Option.map_eq_some_iff.mp taken
    cases chosen <;> exact refusing
  · cases taken
    rfl
  · split_ifs at taken
    cases taken
    exact refusing

/-- The cleanup waits, and then returns, with the extension run down. -/
theorem cleanupStep_runDown (chosen : Option DeviceId)
    (waits : state.cleanup = .waiting → Refusing state)
    (taken : cleanupStep state chosen = some after) : after.cleanup ≠ .startWait → Refusing after := by
  unfold cleanupStep at taken
  dsimp only at taken
  split at taken
  · obtain ⟨event, -, rfl⟩ := Option.map_eq_some_iff.mp taken
    cases chosen <;> exact fun past => absurd rfl past
  · cases taken
    exact fun _ => rfl
  · rename_i waiting
    split_ifs at taken
    cases taken
    exact fun _ => waits waiting

/-- A create call that failed early, or one that has not begun, leaves no device. -/
structure LeavesNoDevice (call : DeviceId) (state : LifecycleState) : Prop where
  refusing : Refusing state
  creator : state.creators call = .idle ∨ ∃ status kept, state.creators call = .failed status kept
  monitor : state.monitors call = .absent
  queued : call ∉ state.adapter.globalDeviceRemovalEvent.waiters

theorem LeavesNoDevice.step {call : DeviceId} (inv : LeavesNoDevice call state)
    (action : LifecycleAction) (taken : lifecycleNext state action = some after) :
    LeavesNoDevice call after := by
  have awake : state.monitors call ≠ .waiting := by
    rw [inv.monitor]
    simp
  have refusing : Refusing after := by
    cases action with
    | cleanup chosen => exact cleanupStep_refusing chosen inv.refusing taken
    | _ => exact (lifecycleNext_keepsRundown _ (by simp) taken).refusing.mpr inv.refusing
  have elsewhere (unchanged : Elsewhere call state after) : LeavesNoDevice call after :=
    ⟨refusing, by rw [unchanged.creator]; exact inv.creator, unchanged.monitor.trans inv.monitor,
      fun queued => inv.queued (unchanged.queued queued)⟩
  cases action with
  | create other props =>
      obtain ⟨kept, rfl⟩ := createBegin_refusing other props inv.refusing taken
      by_cases same : call = other
      · subst same
        exact ⟨refusing, Or.inr ⟨_, kept, Function.update_self _ _ _⟩, inv.monitor, inv.queued⟩
      · exact elsewhere (.creatorMoves same state.adapter _ rfl)
  | creator other fails =>
      by_cases same : call = other
      · subst same
        rcases inv.creator with idle | ⟨status, kept, failed⟩
        · simp [lifecycleNext, creatorStep, idle] at taken
        · simp [lifecycleNext, creatorStep, failed] at taken
      · exact elsewhere (creatorStep_elsewhere same fails taken)
  | monitor device =>
      by_cases same : call = device
      · subst same
        simp [lifecycleNext, monitorStep, inv.monitor] at taken
      · exact elsewhere (monitorStep_elsewhere same taken)
  | lookup user key => exact elsewhere (lookupStep_elsewhere call user key taken)
  | user user op => exact elsewhere (userStep_elsewhere awake user op taken)
  | cleanup chosen => exact elsewhere (cleanupStep_elsewhere inv.queued chosen taken)

end Steps

/-! ## After the cycle -/

/-- From the start of the wait in `WnbdCleanupAllDevices` on. -/
def PowerState.RunDown (state : PowerState) : Prop :=
  match state.phase with
  | .running => True
  | .stopping => state.system.cleanup = .waiting → Refusing state.system
  | .stopped | .restarted => Refusing state.system

/-- The steps of the machine, up to the bookkeeping of the phase. -/
theorem powerNext_cases (state after : PowerState) (action : PowerAction)
    (taken : powerNext state action = some after) :
    (∃ step, (∀ chosen, step ≠ .cleanup chosen) ∧ action = .thread step ∧
        lifecycleNext state.system step = some after.system ∧ after.phase = state.phase) ∨
      (∃ chosen, action = .cleanup chosen ∧ state.phase = .stopping ∧
        cleanupStep state.system chosen = some after.system ∧
        after.phase = if after.system.cleanup = .idle then .stopped else .stopping) ∨
      (∃ controlType, action = .adapterControl controlType ∧
        wnbdHwAdapterControl state controlType = some after) ∨
      ∃ value, action = .setNewMappingsAllowed value ∧ after = state.setNewMappingsAllowed value := by
  cases action with
  | thread step =>
      cases step with
      | cleanup chosen => cases taken
      | _ =>
          obtain ⟨system, moved, rfl⟩ := Option.map_eq_some_iff.mp taken
          exact Or.inl ⟨_, by simp, rfl, moved, rfl⟩
  | adapterControl controlType => exact Or.inr (Or.inr (Or.inl ⟨controlType, rfl, taken⟩))
  | cleanup chosen =>
      obtain ⟨stopping, moved⟩ := Option.ite_none_right_eq_some.mp taken
      obtain ⟨system, cleaned, rfl⟩ := Option.map_eq_some_iff.mp moved
      exact Or.inr (Or.inl ⟨chosen, rfl, stopping, cleaned, rfl⟩)
  | setNewMappingsAllowed value =>
      exact Or.inr (Or.inr (Or.inr ⟨value, rfl, (Option.some.inj taken).symm⟩))

theorem PowerState.RunDown.step {state after : PowerState} (inv : state.RunDown)
    (action : PowerAction) (taken : powerNext state action = some after) : after.RunDown := by
  rcases powerNext_cases state after action taken with ⟨step, notCleanup, -, moved, phase⟩ |
    ⟨chosen, -, stopping, moved, phase⟩ | ⟨controlType, -, controlled⟩ | ⟨value, -, rfl⟩
  · have keeps := lifecycleNext_keepsRundown step notCleanup moved
    unfold PowerState.RunDown at inv ⊢
    rw [phase]
    cases now : state.phase with
    | running => trivial
    | stopping =>
        rw [now] at inv
        intro waiting
        exact keeps.refusing.mpr (inv (keeps.cleanup ▸ waiting))
    | stopped | restarted =>
        rw [now] at inv
        exact keeps.refusing.mpr inv
  · unfold PowerState.RunDown at inv ⊢
    rw [stopping] at inv
    have runDown := cleanupStep_runDown chosen inv moved
    rw [phase]
    split_ifs with idle
    · exact runDown (by rw [idle]; simp)
    · exact fun waiting => runDown (by rw [waiting]; simp)
  · unfold wnbdHwAdapterControl at controlled
    unfold PowerState.RunDown at inv ⊢
    split at controlled
    · obtain ⟨⟨idle, -⟩, ⟨⟩⟩ := Option.ite_none_right_eq_some.mp controlled
      intro waiting
      rw [idle] at waiting
      cases waiting
    · obtain ⟨stopped, ⟨⟩⟩ := Option.ite_none_right_eq_some.mp controlled
      rw [stopped] at inv
      exact inv
    · cases controlled
      exact inv
  · exact inv

theorem restarted_refusing (start : LifecycleState) (actions : List PowerAction)
    (state : PowerState) (ran : run powerNext (.running start) actions = some state)
    (restarted : state.phase = .restarted) : Refusing state.system := by
  have initially : (PowerState.running start).RunDown := trivial
  have runDown : state.RunDown := invariant_of_run PowerState.RunDown
    (fun _ _ action inv taken => inv.step action taken) actions _ _ initially ran
  unfold PowerState.RunDown at runDown
  rw [restarted] at runDown
  exact runDown

theorem LeavesNoDevice.powerStep {state after : PowerState} {call : DeviceId}
    (inv : LeavesNoDevice call state.system) (action : PowerAction)
    (taken : powerNext state action = some after) : LeavesNoDevice call after.system := by
  rcases powerNext_cases state after action taken with ⟨step, -, -, moved, -⟩ |
    ⟨chosen, -, -, moved, -⟩ | ⟨controlType, -, controlled⟩ | ⟨value, -, rfl⟩
  · exact inv.step step moved
  · exact inv.step (.cleanup chosen) moved
  · unfold wnbdHwAdapterControl at controlled
    split at controlled
    · obtain ⟨-, ⟨⟩⟩ := Option.ite_none_right_eq_some.mp controlled
      exact inv
    · obtain ⟨-, ⟨⟩⟩ := Option.ite_none_right_eq_some.mp controlled
      exact inv
    · cases controlled
      exact inv
  · exact ⟨inv.refusing, inv.creator, inv.monitor, inv.queued⟩

/-- A refused create call has no device that could be torn down. -/
theorem refused_keptUntilAsked (state : PowerState) (call : DeviceId) (props : WnbdProperties)
    (begun : LifecycleState) (refusing : Refusing state.system) (new : NewCall state.system call)
    (taken : createBegin state.system call props = some begun) :
    KeptUntilAsked { state with system := begun } call := by
  intro actions after ran _
  obtain ⟨kept, rfl⟩ := createBegin_refusing call props refusing taken
  have initially : LeavesNoDevice call
      (state.system.setCreator call (.failed statusShutdownInProgress kept)) :=
    ⟨refusing, Or.inr ⟨_, kept, Function.update_self _ _ _⟩, new.monitor, new.queued⟩
  have noDevice : LeavesNoDevice call after.system :=
    invariant_of_run (fun state : PowerState => LeavesNoDevice call state.system)
      (fun _ _ action inv moved => inv.powerStep action moved) actions _ _ initially ran
  rw [noDevice.monitor]
  rfl

theorem create_refused (adapter : AdapterState) (device : DeviceId) (props : WnbdProperties)
    (faults : CreateFaults)
    (refuses : adapter.rundownProtection.waiting = true ∨ adapter.newMappingsAllowed = false) :
    (wnbdCreateConnection adapter device props faults).status = statusShutdownInProgress := by
  unfold wnbdCreateConnection
  cases waiting : adapter.rundownProtection.waiting with
  | true =>
      rw [acquireRundown_refused adapter waiting]
      dsimp only
      split_ifs <;> first | rfl | contradiction
  | false =>
      rw [waiting] at refuses
      rw [acquireRundown_taken adapter waiting]
      have off : adapter.newMappingsAllowed = false := refuses.resolve_left (by simp)
      simp [off]

theorem createExit_status (adapter : AdapterState) (rpAcquired : Bool) (device : Option DeviceId)
    (scsiBitNumber : Option Nat) (status : NtStatus) :
    (createExit adapter rpAcquired device scsiBitNumber status).status = status := by
  unfold createExit
  cases device with
  | none => rfl
  | some device =>
      dsimp only
      split_ifs <;> rfl

theorem createAtAddress_status (adapter : AdapterState) (rpAcquired : Bool) (device : DeviceId)
    (props : WnbdProperties) (faults : CreateFaults) :
    (createAtAddress adapter rpAcquired device props faults).status ≠ statusShutdownInProgress := by
  unfold createAtAddress
  split
  · rw [createExit_status]
    decide
  · dsimp only
    split_ifs
    · rw [createExit_status]
      decide
    · rw [createExit_status]
      decide
    · exact (by decide : statusSuccess ≠ statusShutdownInProgress)

/-- A fresh adapter that allows mappings never says that it is shutting down. -/
theorem fresh_create_status (adapter : AdapterState) (allowed : adapter.newMappingsAllowed = true)
    (device : DeviceId) (props : WnbdProperties) (faults : CreateFaults) :
    (wnbdCreateConnection (freshAdapter adapter) device props faults).status ≠
      statusShutdownInProgress := by
  unfold wnbdCreateConnection
  rw [acquireRundown_taken (freshAdapter adapter) rfl]
  have fresh : (freshAdapter adapter).newMappingsAllowed = true := allowed
  simp only [fresh, Bool.not_true, Bool.false_eq_true, if_false]
  split_ifs
  · rw [createExit_status]
    decide
  · rw [createExit_status]
    decide
  · rw [createExit_status]
    decide
  · exact createAtAddress_status _ _ _ _ _

def noFaults : CreateFaults :=
  { deviceAllocation := false, inquiryAllocation := false, threadCreation := false }

theorem not_transparent {state : PowerState} (refusing : Refusing state.system)
    (allowed : state.system.adapter.newMappingsAllowed = true) : ¬ TransparentToCreates state := by
  intro transparent
  have same := transparent.accepted 0 (sectorProps 512) noFaults
  rw [create_refused _ _ _ _ (Or.inl refusing)] at same
  exact fresh_create_status _ allowed _ _ _ same.symm

/-- After a power cycle creates behave as on a fresh adapter only while new mappings
are off, when both refuse them. -/
theorem power_cycle_transparent_iff (start : LifecycleState) (actions : List PowerAction)
    (state : PowerState) (ran : run powerNext (.running start) actions = some state)
    (restarted : state.phase = .restarted) :
    TransparentToCreates state ↔ state.system.adapter.newMappingsAllowed = false := by
  have refusing := restarted_refusing start actions state ran restarted
  constructor
  · intro transparent
    by_contra on
    exact not_transparent refusing (eq_true_of_ne_false on) transparent
  · intro off
    refine ⟨fun device props faults => ?_, fun call props begun new taken => ?_⟩
    · rw [create_refused _ _ _ _ (Or.inl refusing),
        create_refused (freshAdapter _) _ _ _ (Or.inr off)]
    · exact refused_keptUntilAsked state call props begun refusing new taken

/-- A disk is created, torn down by the stop, and the adapter is restarted. -/
def onePowerCycle : List PowerAction :=
  (createUntilConnect 0).map .thread ++
    [.thread (.creator 0 false), .thread (.monitor 0)] ++
    [.adapterControl .scsiStopAdapter, .cleanup (some 0), .cleanup none] ++
    List.replicate 13 (.thread (.monitor 0)) ++
    [.cleanup none, .adapterControl .scsiRestartAdapter]

theorem power_cycle_transparent_one_disk :
    ∃ state, run powerNext (.running .initial) onePowerCycle = some state ∧
      (TransparentToCreates state ↔ state.system.adapter.newMappingsAllowed = false) := by
  cases ran : run powerNext (.running .initial) onePowerCycle with
  | none =>
      have enabled : (run powerNext (.running .initial) onePowerCycle).isSome = true := by
        decide +kernel
      rw [ran] at enabled
      cases enabled
  | some state =>
      have restarted : state.phase = .restarted :=
        field_of_run (fun s => s.phase) _ _ onePowerCycle _ ran (by decide +kernel)
      exact ⟨state, rfl, power_cycle_transparent_iff _ onePowerCycle state ran restarted⟩

/-- A stop and a restart, with no device registered. -/
def emptyPowerCycle : List PowerAction :=
  .adapterControl .scsiStopAdapter :: List.replicate 3 (.cleanup none) ++
    [.adapterControl .scsiRestartAdapter]

/-- A stop and a restart with no disk: the adapter then refuses every disk. -/
theorem create_refused_after_restart :
    ∃ state, run powerNext (.running .initial) emptyPowerCycle = some state ∧
      state.phase = .restarted ∧ ¬ TransparentToCreates state := by
  cases ran : run powerNext (.running .initial) emptyPowerCycle with
  | none =>
      have enabled : (run powerNext (.running .initial) emptyPowerCycle).isSome = true := by
        decide +kernel
      rw [ran] at enabled
      cases enabled
  | some state =>
      have restarted : state.phase = .restarted :=
        field_of_run (fun s => s.phase) _ _ emptyPowerCycle _ ran (by decide +kernel)
      have allowed : state.system.adapter.newMappingsAllowed = true :=
        field_of_run (fun s => s.system.adapter.newMappingsAllowed) _ _ emptyPowerCycle _ ran
          (by decide +kernel)
      have refusing := restarted_refusing _ emptyPowerCycle state ran restarted
      exact ⟨state, rfl, restarted, not_transparent refusing allowed⟩

/-! ## The removal event stays signaled -/

/-- No monitor starts to wait. -/
def NoMonitorStarts (state : PowerState) : PowerAction → Prop
  | .thread (.monitor device) => state.system.monitors device ≠ .start
  | _ => True

/-- The event nobody waits on is signaled by the cleanup, and stays so. -/
structure EventLeft (state : PowerState) : Prop where
  unwaited : state.system.adapter.globalDeviceRemovalEvent.waiters = []
  signaled : state.phase ≠ .running → (state.phase = .stopping → state.system.cleanup ≠ .idle) →
    state.system.adapter.globalDeviceRemovalEvent.signaled = true

section Event

variable {state after : LifecycleState}

theorem leave_unwaited (event : SyncEvent DeviceId) (unwaited : event.waiters = [])
    (device : DeviceId) : event.leave device = event := by
  unfold SyncEvent.leave
  rw [unwaited]
  exact congrArg (SyncEvent.mk event.signaled) unwaited.symm

theorem userStep_event (user : Nat) (op : UserOp)
    (unwaited : state.adapter.globalDeviceRemovalEvent.waiters = [])
    (taken : userStep state user op = some after) :
    after.adapter.globalDeviceRemovalEvent = state.adapter.globalDeviceRemovalEvent := by
  unfold userStep at taken
  split at taken
  · cases taken
  · split_ifs at taken
    cases taken
    rfl
  · cases op with
    | signalRemoval =>
        cases taken
        unfold signalDevice wakeMonitor
        dsimp only
        split_ifs
        · exact leave_unwaited _ unwaited _
        · rfl
    | access | markRemoval | release | releaseAndWait =>
        cases taken
        rfl

theorem lifecycleNext_event (action : LifecycleAction)
    (notCleanup : ∀ chosen, action ≠ .cleanup chosen)
    (past : ∀ device, action = .monitor device → state.monitors device ≠ .start)
    (unwaited : state.adapter.globalDeviceRemovalEvent.waiters = [])
    (taken : lifecycleNext state action = some after) :
    after.adapter.globalDeviceRemovalEvent = state.adapter.globalDeviceRemovalEvent := by
  cases action with
  | create call props =>
      simp only [lifecycleNext, createBegin] at taken
      split_ifs at taken <;> cases taken <;> exact (acquireRundown_same state.adapter).event
  | creator call fails => exact creatorStep_event call fails taken
  | monitor device => exact monitorStep_event device (past device rfl) taken
  | lookup user key =>
      simp only [lifecycleNext, lookupStep] at taken
      split_ifs at taken
      split at taken
      · cases taken
        rfl
      · split at taken <;> cases taken <;> rfl
  | user user op => exact userStep_event user op unwaited taken
  | cleanup chosen => exact absurd rfl (notCleanup chosen)

/-- Without a waiting monitor the cleanup leaves the event signaled. -/
theorem cleanupStep_event (chosen : Option DeviceId)
    (unwaited : state.adapter.globalDeviceRemovalEvent.waiters = [])
    (taken : cleanupStep state chosen = some after) :
    after.adapter.globalDeviceRemovalEvent.waiters = [] ∧
      (state.cleanup = .idle ∨ state.adapter.globalDeviceRemovalEvent.signaled = true →
        after.adapter.globalDeviceRemovalEvent.signaled = true) := by
  unfold cleanupStep at taken
  dsimp only at taken
  split at taken
  · obtain ⟨event, released, rfl⟩ := Option.map_eq_some_iff.mp taken
    rcases SyncEvent.set_cases _ _ _ released with ⟨device, -, member, -⟩ | ⟨rfl, -, rfl⟩
    · rw [unwaited] at member
      cases member
    · exact ⟨unwaited, fun _ => rfl⟩
  · rename_i waits
    cases taken
    exact ⟨unwaited, fun signaled => signaled.resolve_left (by rw [waits]; simp)⟩
  · rename_i waits
    split_ifs at taken
    cases taken
    exact ⟨unwaited, fun signaled => signaled.resolve_left (by rw [waits]; simp)⟩

end Event

theorem EventLeft.step {state after : PowerState} (inv : EventLeft state) (action : PowerAction)
    (quiet : NoMonitorStarts state action) (taken : powerNext state action = some after) :
    EventLeft after := by
  rcases powerNext_cases state after action taken with ⟨step, notCleanup, rfl, moved, phase⟩ |
    ⟨chosen, -, stopping, moved, phase⟩ | ⟨controlType, -, controlled⟩ | ⟨value, -, rfl⟩
  · have past : ∀ device, step = .monitor device → state.system.monitors device ≠ .start := by
      rintro device rfl
      exact quiet
    have event := lifecycleNext_event step notCleanup past inv.unwaited moved
    have keeps := lifecycleNext_keepsRundown step notCleanup moved
    refine ⟨by rw [event]; exact inv.unwaited, ?_⟩
    rw [event, phase, keeps.cleanup]
    exact inv.signaled
  · obtain ⟨unwaited, signaled⟩ := cleanupStep_event chosen inv.unwaited moved
    refine ⟨unwaited, fun _ _ => signaled ?_⟩
    by_cases idle : state.system.cleanup = .idle
    · exact Or.inl idle
    · refine Or.inr (inv.signaled ?_ fun _ => idle)
      rw [stopping]
      simp
  · unfold wnbdHwAdapterControl at controlled
    split at controlled
    · obtain ⟨⟨idle, -⟩, ⟨⟩⟩ := Option.ite_none_right_eq_some.mp controlled
      exact ⟨inv.unwaited, fun _ begun => absurd idle (begun rfl)⟩
    · obtain ⟨stopped, ⟨⟩⟩ := Option.ite_none_right_eq_some.mp controlled
      refine ⟨inv.unwaited, fun _ _ => inv.signaled ?_ fun stopping => ?_⟩
      · rw [stopped]
        simp
      · rw [stopped] at stopping
        cases stopping
    · cases controlled
      exact inv
  · exact ⟨inv.unwaited, inv.signaled⟩

/-- If no monitor waits while the adapter is stopped, the event survives the cycle,
and the first monitor to wait tears its device down. -/
theorem stale_event_tears_down (start : LifecycleState) (actions : List PowerAction)
    (state : PowerState) (ran : run powerNext (.running start) actions = some state)
    (restarted : state.phase = .restarted)
    (unwaited : start.adapter.globalDeviceRemovalEvent.waiters = [])
    (quiet : AllAllowed powerNext NoMonitorStarts (.running start) actions) (device : DeviceId)
    (starts : state.system.monitors device = .start) (after : LifecycleState)
    (taken : monitorStep state.system device = some after) :
    (after.monitors device).tearsDown = true := by
  have left : EventLeft state :=
    (path_of_run _ _ actions quiet ran).invariant EventLeft
      ⟨unwaited, fun moved => absurd rfl moved⟩
      fun _ action _ quiet inv taken => inv.step action quiet taken
  have signaled : state.system.adapter.globalDeviceRemovalEvent.signaled = true := by
    refine left.signaled ?_ ?_ <;> rw [restarted] <;> simp
  unfold monitorStep at taken
  simp only [starts, monitorWait, SyncEvent.wait, signaled, if_true] at taken
  cases taken
  simp [setMonitor, MonitorPc.tearsDown]

end Wnbd.Adapter
