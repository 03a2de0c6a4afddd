import Wnbd.Adapter.StepCases
import Wnbd.Adapter.LifecycleInvariant

/-!
# The invariant survives every orderly step
-/

set_option autoImplicit false

namespace Wnbd.Adapter

open Wnbd.Scsi AdapterState LifecycleState StepSystem

/-- The order the invariant needs: a monitor takes its device out of the chains
only after the create call has put it in, and frees it only after that call has
returned.  A failing `ObReferenceObjectByHandle` is ruled out as well, since the
exit block then frees a device with a running monitor. -/
def MonitorAfterCreator (state : LifecycleState) : LifecycleAction → Prop
  | .monitor device =>
      (state.monitors device = .unlink → (state.creators device).linked = true) ∧
        (state.monitors device = .free → state.creators device = .done)
  | .creator call fails =>
      match state.creators call with
      | .referenceThread _ => fails = false
      | _ => True
  | _ => True

/-- The call is at `ObReferenceObjectByHandle`. -/
def CreatorPc.referencesThread : CreatorPc → Bool
  | .referenceThread _ => true
  | _ => false

theorem monitorAfterCreator_creator (state : LifecycleState) (call : DeviceId) (fails : Bool) :
    ((state.creators call).referencesThread = true → fails = false) ↔
      MonitorAfterCreator state (.creator call fails) := by
  simp only [MonitorAfterCreator]
  cases state.creators call <;> simp [CreatorPc.referencesThread]

instance (state : LifecycleState) (action : LifecycleAction) :
    Decidable (MonitorAfterCreator state action) :=
  match action with
  | .creator call fails => decidable_of_iff _ (monitorAfterCreator_creator state call fails)
  | .monitor _ | .create _ _ | .lookup _ _ | .user _ _ | .cleanup _ => by
      unfold MonitorAfterCreator
      infer_instance

section Frames

variable {state : LifecycleState}

theorem onlyDevice_setCreator (adapter : AdapterState) (call : DeviceId) (pc : CreatorPc)
    (devices : ∀ other, other ≠ call → adapter.devices other = state.adapter.devices other)
    (listed : ∀ other, other ≠ call →
      (other ∈ adapter.deviceList ↔ other ∈ state.adapter.deviceList))
    (event : adapter.globalDeviceRemovalEvent = state.adapter.globalDeviceRemovalEvent) :
    OnlyDevice state ((state.setAdapter adapter).setCreator call pc) call where
  creators := fun _ other => Function.update_of_ne other _ _
  monitors := fun _ _ => rfl
  devices := devices
  listed := listed
  queued := fun other _ => by
    change other ∈ adapter.globalDeviceRemovalEvent.waiters ↔ _
    rw [event]
  users := fun _ _ _ => Iff.rfl

theorem onlyDevice_setMonitor (adapter : AdapterState) (device : DeviceId) (pc : MonitorPc)
    (devices : ∀ other, other ≠ device → adapter.devices other = state.adapter.devices other)
    (listed : ∀ other, other ≠ device →
      (other ∈ adapter.deviceList ↔ other ∈ state.adapter.deviceList))
    (queued : ∀ other, other ≠ device → (other ∈ adapter.globalDeviceRemovalEvent.waiters ↔
      other ∈ state.adapter.globalDeviceRemovalEvent.waiters)) :
    OnlyDevice state ((state.setAdapter adapter).setMonitor device pc) device where
  creators := fun _ _ => rfl
  monitors := fun _ other => Function.update_of_ne other _ _
  devices := devices
  listed := listed
  queued := queued
  users := fun _ _ _ => Iff.rfl

theorem LifecycleInv.creatorLocal (inv : LifecycleInv state) (adapter : AdapterState)
    (call : DeviceId) (pc : CreatorPc)
    (devices : ∀ other, other ≠ call → adapter.devices other = state.adapter.devices other)
    (list : adapter.deviceList = state.adapter.deviceList)
    (buckets : adapter.connIdHashBuckets = state.adapter.connIdHashBuckets)
    (event : adapter.globalDeviceRemovalEvent = state.adapter.globalDeviceRemovalEvent)
    (sameId : (state.creators call).linked = true →
      adapter.connectionIdOf call = state.adapter.connectionIdOf call)
    (here : DeviceInv pc (state.monitors call) (adapter.devices call)
      (call ∈ state.adapter.deviceList)
      (call ∈ state.adapter.globalDeviceRemovalEvent.waiters)
      (fun user => state.users user = .holding call)) :
    LifecycleInv ((state.setAdapter adapter).setCreator call pc) := by
  refine inv.local call
    (onlyDevice_setCreator adapter call pc devices (fun _ _ => by rw [list]) event)
    list buckets event (fun member => sameId ((inv.device call).listed_iff.mp member).1) ?_
  unfold DeviceInvAt
  simp only [setCreator, setAdapter, Function.update_self, list, event]
  exact here

theorem LifecycleInv.monitorLocal (inv : LifecycleInv state) (adapter : AdapterState)
    (device : DeviceId) (pc : MonitorPc)
    (devices : ∀ other, other ≠ device → adapter.devices other = state.adapter.devices other)
    (list : adapter.deviceList = state.adapter.deviceList)
    (buckets : adapter.connIdHashBuckets = state.adapter.connIdHashBuckets)
    (event : adapter.globalDeviceRemovalEvent = state.adapter.globalDeviceRemovalEvent)
    (sameId : (state.monitors device).unlinked = false →
      adapter.connectionIdOf device = state.adapter.connectionIdOf device)
    (here : DeviceInv (state.creators device) pc (adapter.devices device)
      (device ∈ state.adapter.deviceList)
      (device ∈ state.adapter.globalDeviceRemovalEvent.waiters)
      (fun user => state.users user = .holding device)) :
    LifecycleInv ((state.setAdapter adapter).setMonitor device pc) := by
  refine inv.local device
    (onlyDevice_setMonitor adapter device pc devices (fun _ _ => by rw [list])
      (fun _ _ => by rw [event]))
    list buckets event (fun member => sameId ((inv.device device).listed_iff.mp member).2) ?_
  unfold DeviceInvAt
  simp only [setMonitor, setAdapter, Function.update_self, list, event]
  exact here

end Frames

/-! ## Updates of one device object -/

theorem updateDevice_some (adapter : AdapterState) (device : DeviceId) (value : WnbdDiskDevice)
    (change : WnbdDiskDevice → WnbdDiskDevice) (found : adapter.devices device = some value) :
    (adapter.updateDevice device change).devices device = some (change value) := by
  simp [updateDevice, setDevice, found]

@[simp] theorem updateDevice_self (adapter : AdapterState) (device : DeviceId)
    (change : WnbdDiskDevice → WnbdDiskDevice) :
    (adapter.updateDevice device change).devices device = (adapter.devices device).map change := by
  simp [updateDevice, setDevice]

theorem updateDevice_of_ne (adapter : AdapterState) (device other : DeviceId)
    (change : WnbdDiskDevice → WnbdDiskDevice) (different : other ≠ device) :
    (adapter.updateDevice device change).devices other = adapter.devices other :=
  Function.update_of_ne different _ _

theorem setDevice_of_ne (adapter : AdapterState) (device other : DeviceId)
    (value : Option WnbdDiskDevice) (different : other ≠ device) :
    (adapter.setDevice device value).devices other = adapter.devices other :=
  Function.update_of_ne different _ _

theorem connectionIdOf_updateDevice (adapter : AdapterState) (device : DeviceId)
    (change : WnbdDiskDevice → WnbdDiskDevice)
    (same : ∀ value, (change value).connectionId = value.connectionId) :
    (adapter.updateDevice device change).connectionIdOf device = adapter.connectionIdOf device := by
  unfold connectionIdOf
  rw [updateDevice_self]
  cases adapter.devices device with
  | none => rfl
  | some value => exact same value

/-! ## Create calls -/

/-- The parts of the adapter the invariant reads are the same. -/
structure SameDevices (before after : AdapterState) : Prop where
  devices : after.devices = before.devices
  list : after.deviceList = before.deviceList
  buckets : after.connIdHashBuckets = before.connIdHashBuckets
  event : after.globalDeviceRemovalEvent = before.globalDeviceRemovalEvent

theorem SameDevices.refl (adapter : AdapterState) : SameDevices adapter adapter :=
  ⟨rfl, rfl, rfl, rfl⟩

theorem acquireRundown_same (adapter : AdapterState) :
    SameDevices adapter adapter.acquireRundown.2 := by
  unfold acquireRundown
  split <;> exact ⟨rfl, rfl, rfl, rfl⟩

theorem LifecycleInv.creatorMoves {state : LifecycleState} (inv : LifecycleInv state)
    (call : DeviceId) (next : CreatorPc) (adapter : AdapterState)
    (same : SameDevices state.adapter adapter)
    (phase : next.phase = (state.creators call).phase) (notDone : state.creators call ≠ .done) :
    LifecycleInv ((state.setAdapter adapter).setCreator call next) := by
  refine inv.creatorLocal adapter call next (fun _ _ => by rw [same.devices]) same.list same.buckets
    same.event (fun _ => by simp only [connectionIdOf, same.devices]) ?_
  rw [same.devices]
  exact (inv.device call).moveCreator next phase notDone

/-- A step that moves a create call on within its phase and writes fields of its
device that the invariant does not read. -/
theorem LifecycleInv.creatorWrites {state : LifecycleState} (inv : LifecycleInv state)
    (call : DeviceId) (next : CreatorPc) (change : WnbdDiskDevice → WnbdDiskDevice)
    (phase : next.phase = (state.creators call).phase) (notDone : state.creators call ≠ .done)
    (thread : ∀ device, (change device).deviceMonitorThread = device.deviceMonitorThread)
    (rundown : ∀ device, (change device).rundownProtection = device.rundownProtection)
    (event : ∀ device, (change device).deviceRemovalEvent = device.deviceRemovalEvent)
    (sameId : (state.creators call).linked = true →
      ∀ device, (change device).connectionId = device.connectionId) :
    LifecycleInv ((state.setAdapter (state.adapter.updateDevice call change)).setCreator call
      next) := by
  refine inv.creatorLocal _ call next (fun other => updateDevice_of_ne _ call other _) rfl rfl rfl
    (fun linked => connectionIdOf_updateDevice _ _ _ (sameId linked)) ?_
  rw [updateDevice_self]
  exact ((inv.device call).moveCreator next phase notDone).mapValue change thread rundown
    fun device _ => event device

theorem createBegin_inv (state after : LifecycleState) (call : DeviceId) (props : WnbdProperties)
    (inv : LifecycleInv state) (taken : createBegin state call props = some after) :
    LifecycleInv after := by
  unfold createBegin at taken
  split at taken
  case isFalse => cases taken
  case isTrue pc =>
      have same := acquireRundown_same state.adapter
      have notDone : state.creators call ≠ .done := by simp [pc]
      dsimp only at taken
      split_ifs at taken <;> cases taken <;>
        exact inv.creatorMoves call _ _ same (by rw [pc]; rfl) notDone

theorem creatorStep_inv (state after : LifecycleState) (call : DeviceId) (fails : Bool)
    (inv : LifecycleInv state) (orderly : MonitorAfterCreator state (.creator call fails))
    (taken : creatorStep state call fails = some after) : LifecycleInv after := by
  have old := inv.device call
  -- Each step below keeps the phase, except where it starts, links or frees the device.
  cases creatorStep_cases taken with
  | moves pc next here move =>
      cases move with
      | noReference bit failed =>
          simp only [MonitorAfterCreator, here, failed] at orderly
          cases orderly
      | _ => exact inv.creatorMoves call _ _ (.refl _) (by rw [here]; rfl) (by simp [here])
  | writes pc next change here write =>
      cases write with
      | thread bit =>
          rw [here] at old
          refine inv.creatorLocal _ call _ (fun other => updateDevice_of_ne _ call other _) rfl rfl
            rfl (fun linked => by rw [here] at linked; cases linked) ?_
          rw [updateDevice_self]
          exact old.storeThread
      | inquiry | connected =>
          exact inv.creatorWrites call _ _ (by rw [here]; rfl) (by simp [here]) (fun _ => rfl)
            (fun _ => rfl) (fun _ => rfl) (fun _ _ => rfl)
  | allocates props here =>
      rw [here] at old
      refine inv.creatorLocal _ call _ (fun other => setDevice_of_ne _ call other _) rfl rfl rfl
        (fun linked => by rw [here] at linked; cases linked) ?_
      simp only [setDevice, Function.update_self]
      exact old.allocate props rfl rfl
  | noAddress here | claims bit here | counts here | clears bit status here
  | releases status here =>
      exact inv.creatorMoves call _ _ ⟨rfl, rfl, rfl, rfl⟩ (by rw [here]; rfl) (by simp [here])
  | accepts bit here | refuses bit here =>
      refine inv.creatorLocal _ call _ (fun other => updateDevice_of_ne _ call other _) rfl rfl
        rfl (fun isLinked => by rw [here] at isLinked; cases isLinked) ?_
      rw [assignAddress, updateDevice_self]
      exact (old.moveCreator _ (by rw [here]; rfl) (by simp [here])).mapValue _
        (fun _ => rfl) (fun _ => rfl) (fun _ _ => rfl)
  | starts bit here =>
      rw [here] at old
      refine inv.local call ?_ rfl rfl rfl (fun _ => rfl) ?_
      · exact ⟨fun _ other => Function.update_of_ne other _ _,
          fun _ other => Function.update_of_ne other _ _, fun _ _ => rfl, fun _ _ => Iff.rfl,
          fun _ _ => Iff.rfl, fun _ _ _ => Iff.rfl⟩
      · unfold DeviceInvAt
        simp only [setCreator, setMonitor, Function.update_self]
        exact old.startMonitor bit rfl rfl rfl rfl
  | links here =>
      rw [here] at old
      have outside : call ∉ state.adapter.deviceList := fun member => by
        cases (old.listed_iff.mp member).1
      refine ⟨(onlyDevice_setCreator (state.adapter.linkDevice call) call .count (fun _ _ => rfl)
        (fun other different => ?_) rfl).deviceInv inv.device ?_, ?_, ?_, inv.event⟩
      · simp [linkDevice, different]
      · unfold DeviceInvAt
        have member : (call ∈ (state.adapter.linkDevice call).deviceList) = True := by
          simp [linkDevice]
        simp only [setCreator, setAdapter, Function.update_self, member]
        exact old.link
      · exact inv.nodup.append (List.nodup_singleton call)
          (List.disjoint_singleton.mpr outside)
      · exact inv.index.insert call
  | leaves bit status here stored =>
      rw [here] at old
      rw [old.exitUnstored] at stored
      cases stored
  | frees bit status here =>
      rw [here] at old
      refine inv.creatorLocal _ call _ (fun other => setDevice_of_ne _ call other _) rfl rfl rfl
        (fun linked => by rw [here] at linked; cases linked) ?_
      simp only [setDevice, Function.update_self]
      exact old.exitFree

/-! ## Monitor threads -/

theorem LifecycleInv.monitorMoves {state : LifecycleState} (inv : LifecycleInv state)
    (device : DeviceId) (next : MonitorPc) (adapter : AdapterState)
    (same : SameDevices state.adapter adapter)
    (phase : next.phase = (state.monitors device).phase) :
    LifecycleInv ((state.setAdapter adapter).setMonitor device next) := by
  refine inv.monitorLocal adapter device next (fun _ _ => by rw [same.devices]) same.list
    same.buckets same.event (fun _ => by simp only [connectionIdOf, same.devices]) ?_
  rw [same.devices]
  exact (inv.device device).moveMonitor next phase

theorem LifecycleInv.monitorWrites {state : LifecycleState} (inv : LifecycleInv state)
    (device : DeviceId) (next : MonitorPc) (change : WnbdDiskDevice → WnbdDiskDevice)
    (phase : next.phase = (state.monitors device).phase) (awake : state.monitors device ≠ .waiting)
    (thread : ∀ value, (change value).deviceMonitorThread = value.deviceMonitorThread)
    (rundown : ∀ value, (change value).rundownProtection = value.rundownProtection)
    (sameId : ∀ value, (change value).connectionId = value.connectionId) :
    LifecycleInv ((state.setAdapter (state.adapter.updateDevice device change)).setMonitor device
      next) := by
  refine inv.monitorLocal _ device next (fun other => updateDevice_of_ne _ device other _) rfl rfl
    rfl (fun _ => connectionIdOf_updateDevice _ _ _ sameId) ?_
  rw [updateDevice_self]
  exact ((inv.device device).mapValue change thread rundown
    fun _ waiting => absurd waiting awake).moveMonitor next phase

theorem LifecycleInv.monitorEvent {state : LifecycleState} (inv : LifecycleInv state)
    (device : DeviceId) (next : MonitorPc) (event : SyncEvent DeviceId)
    (wellFormed : event.WellFormed)
    (others : ∀ other, other ≠ device →
      (other ∈ event.waiters ↔ other ∈ state.adapter.globalDeviceRemovalEvent.waiters))
    (here : DeviceInv (state.creators device) next (state.adapter.devices device)
      (device ∈ state.adapter.deviceList) (device ∈ event.waiters)
      (fun user => state.users user = .holding device)) :
    LifecycleInv ((state.setAdapter
      { state.adapter with globalDeviceRemovalEvent := event }).setMonitor device next) := by
  have only : OnlyDevice state ((state.setAdapter
      { state.adapter with globalDeviceRemovalEvent := event }).setMonitor device next) device :=
    onlyDevice_setMonitor { state.adapter with globalDeviceRemovalEvent := event } device next
      (fun _ _ => rfl) (fun _ _ => Iff.rfl) others
  refine ⟨only.deviceInv inv.device ?_, inv.nodup, inv.index, wellFormed⟩
  unfold DeviceInvAt
  simp only [setMonitor, setAdapter, Function.update_self]
  exact here

/-- Neither event was set: the monitor queues on the shared one. -/
theorem LifecycleInv.monitorSleeps {state : LifecycleState} (inv : LifecycleInv state)
    (device : DeviceId) (pc : state.monitors device = .start)
    (unset : state.adapter.globalDeviceRemovalEvent.signaled = false)
    (notOwn : (state.adapter.devices device).any (·.deviceRemovalEvent) = false) :
    LifecycleInv ((state.setAdapter { state.adapter with
      globalDeviceRemovalEvent :=
        { state.adapter.globalDeviceRemovalEvent with
          waiters := state.adapter.globalDeviceRemovalEvent.waiters ++ [device] } }).setMonitor
            device .waiting) := by
  have old := inv.device device
  rw [pc] at old
  have notQueued : device ∉ state.adapter.globalDeviceRemovalEvent.waiters := fun queued => by
    cases old.queued_iff.mp queued
  have wellFormed := inv.event.queue device unset notQueued
  refine inv.monitorEvent device .waiting _ wellFormed (fun other different => ?_) ?_
  · simp [different]
  · have queued : (device ∈ state.adapter.globalDeviceRemovalEvent.waiters ++ [device]) =
        True := by simp
    rw [queued]
    exact old.sleep notOwn

theorem LifecycleInv.monitorUnlinks {state : LifecycleState} (inv : LifecycleInv state)
    (device : DeviceId) (pc : state.monitors device = .unlink)
    (linked : (state.creators device).linked = true) :
    LifecycleInv ((state.setAdapter (state.adapter.unlinkDevice device)).setMonitor device
      .notify) := by
  have old := inv.device device
  rw [pc] at old
  have erased : ∀ other, other ∈ state.adapter.deviceList.erase device ↔
      other ≠ device ∧ other ∈ state.adapter.deviceList := fun other => inv.nodup.mem_erase_iff
  refine ⟨(onlyDevice_setMonitor (state.adapter.unlinkDevice device) device .notify
    (fun _ _ => rfl) (fun other different => ?_) fun _ _ => Iff.rfl).deviceInv inv.device ?_,
    inv.nodup.erase device, inv.index.remove device, inv.event⟩
  · exact (erased other).trans (and_iff_right different)
  · have gone : (device ∈ (state.adapter.unlinkDevice device).deviceList) = False :=
      eq_false fun member => ((erased device).mp member).1 rfl
    unfold DeviceInvAt
    simp only [setMonitor, setAdapter, Function.update_self, gone]
    exact old.unlink linked

theorem monitorStep_inv (state after : LifecycleState) (device : DeviceId)
    (inv : LifecycleInv state) (orderly : MonitorAfterCreator state (.monitor device))
    (taken : monitorStep state device = some after) : LifecycleInv after := by
  have old := inv.device device
  -- As for create calls, most steps keep the phase.
  cases monitorStep_cases taken with
  | wakes here =>
      rw [here] at old
      exact inv.monitorEvent device .mark _ inv.event.consume (fun _ _ => Iff.rfl)
        (old.moveMonitor .mark rfl)
  | sleeps here unset notOwn => exact inv.monitorSleeps device here unset notOwn
  | ownEvent here => exact inv.monitorMoves device _ _ (.refl _) (by rw [here]; rfl)
  | moves pc next here move =>
      exact inv.monitorMoves device _ _ (.refl _) (by rw [here]; cases move <;> rfl)
  | writes pc next change here write =>
      cases write with
      | startRundown =>
          rw [here] at old
          refine inv.monitorLocal _ device _ (fun other => updateDevice_of_ne _ device other _) rfl
            rfl rfl (fun _ => connectionIdOf_updateDevice _ _ _ fun _ => rfl) ?_
          rw [updateDevice_self]
          exact old.startRundown
      | mark | signal | freeInquiry =>
          exact inv.monitorWrites device _ _ (by rw [here]; rfl) (by simp [here]) (fun _ => rfl)
            (fun _ => rfl) (fun _ => rfl)
  | runDown here released =>
      rw [here] at old
      exact inv.monitorLocal state.adapter device .drain (fun _ _ => rfl) rfl rfl rfl
        (fun _ => rfl) (old.finishRundown released)
  | unlinks here => exact inv.monitorUnlinks device here (orderly.1 here)
  | counts here | releases here =>
      exact inv.monitorMoves device _ _ ⟨rfl, rfl, rfl, rfl⟩ (by rw [here]; rfl)
  | frees here =>
      have finished := orderly.2 here
      rw [here, finished] at old
      refine inv.monitorLocal _ device _ (fun other => setDevice_of_ne _ device other _) rfl rfl rfl
        (fun notUnlinked => by rw [here] at notUnlinked; cases notUnlinked) ?_
      simp only [setDevice, Function.update_self, finished]
      exact old.free

/-! ## Threads that use a device -/

theorem LifecycleInv.writes {state : LifecycleState} (inv : LifecycleInv state)
    (device : DeviceId) (change : WnbdDiskDevice → WnbdDiskDevice)
    (thread : ∀ value, (change value).deviceMonitorThread = value.deviceMonitorThread)
    (rundown : ∀ value, (change value).rundownProtection = value.rundownProtection)
    (event : ∀ value, state.monitors device = .waiting →
      (change value).deviceRemovalEvent = value.deviceRemovalEvent)
    (sameId : ∀ value, (change value).connectionId = value.connectionId) :
    LifecycleInv (state.setAdapter (state.adapter.updateDevice device change)) := by
  refine inv.local device
    ⟨fun _ _ => rfl, fun _ _ => rfl, fun other => updateDevice_of_ne _ device other _,
      fun _ _ => Iff.rfl, fun _ _ => Iff.rfl, fun _ _ _ => Iff.rfl⟩ rfl rfl rfl
    (fun _ => connectionIdOf_updateDevice _ _ _ sameId) ?_
  unfold DeviceInvAt
  simp only [setAdapter, updateDevice_self]
  exact (inv.device device).mapValue change thread rundown event

theorem wakeMonitor_inv (state : LifecycleState) (device : DeviceId) (inv : LifecycleInv state) :
    LifecycleInv (wakeMonitor state device) := by
  unfold wakeMonitor
  split
  case isFalse => exact inv
  case isTrue waiting =>
      have old := inv.device device
      rw [waiting] at old
      have gone : (device ∈ (state.adapter.globalDeviceRemovalEvent.leave device).waiters) =
          False := eq_false fun member => ((inv.event.mem_leave device device).mp member).1 rfl
      refine inv.monitorEvent device .mark _ (inv.event.leave device)
        (fun other different => (inv.event.mem_leave device other).trans
          (and_iff_right different)) ?_
      rw [gone]
      exact old.wake

theorem wakeMonitor_awake (state : LifecycleState) (device : DeviceId) :
    (wakeMonitor state device).monitors device ≠ .waiting := by
  unfold wakeMonitor
  split
  · simp [setMonitor]
  · assumption

theorem signalDevice_inv (state : LifecycleState) (device : DeviceId) (inv : LifecycleInv state) :
    LifecycleInv (signalDevice state device) :=
  (wakeMonitor_inv state device inv).writes device ({ · with deviceRemovalEvent := true })
    (fun _ => rfl) (fun _ => rfl)
    (fun _ waiting => absurd waiting (wakeMonitor_awake state device)) (fun _ => rfl)

theorem setUser_others (state : LifecycleState) (adapter : AdapterState) (user : Nat)
    (device : DeviceId) (next : UserPc)
    (devices : ∀ other, other ≠ device → adapter.devices other = state.adapter.devices other)
    (list : adapter.deviceList = state.adapter.deviceList)
    (event : adapter.globalDeviceRemovalEvent = state.adapter.globalDeviceRemovalEvent)
    (before : ∀ other, other ≠ device → state.users user ≠ .holding other)
    (now : ∀ other, other ≠ device → next ≠ .holding other) :
    OnlyDevice state ((state.setAdapter adapter).setUser user next) device where
  creators := fun _ _ => rfl
  monitors := fun _ _ => rfl
  devices := devices
  listed := fun other _ => by
    change other ∈ adapter.deviceList ↔ _
    rw [list]
  queued := fun other _ => by
    change other ∈ adapter.globalDeviceRemovalEvent.waiters ↔ _
    rw [event]
  users := fun other different thread => by
    by_cases same : thread = user
    · subst same
      simp only [setUser, Function.update_self]
      exact iff_of_false (now other different) (before other different)
    · simp only [setUser, Function.update_of_ne same]
      rfl

/-- The device a lookup finds is in the chain it walked, hence in the device list. -/
theorem lookupChain_listed {adapter : AdapterState} (key : LookupKey)
    (index : HashIndex.Indexes (connIdHash adapter) adapter.deviceList adapter.connIdHashBuckets)
    (device : DeviceId) (member : device ∈ lookupChain adapter key) :
    device ∈ adapter.deviceList := by
  cases key with
  | addr pathId targetId lun => exact member
  | instanceName name => exact member
  | connId connectionId =>
      exact ((HashIndex.mem_bucket_iff _ _ _ index _ device).mp member).1

theorem lookupStep_inv (state after : LifecycleState) (user : Nat) (key : LookupKey)
    (inv : LifecycleInv state) (taken : lookupStep state user key = some after) :
    LifecycleInv after := by
  unfold lookupStep at taken
  split at taken
  case isFalse => cases taken
  case isTrue idle =>
      split at taken
      · cases taken
        exact inv
      rename_i device found
      have listed := lookupChain_listed key inv.index device (List.mem_of_find?_eq_some found)
      split at taken
      · cases taken
        exact inv
      rename_i acquired acquiredExact
      cases taken
      obtain ⟨value, valueExact, acquires⟩ := Option.bind_eq_some_iff.mp acquiredExact
      have old := inv.device device
      rw [valueExact] at old
      refine inv.local device (setUser_others state _ user device (.holding device)
          (fun other => updateDevice_of_ne _ device other _) rfl rfl
          (fun _ _ held => by rw [idle] at held; cases held)
          (fun other different held => different (UserPc.holding.inj held).symm)) rfl rfl rfl
        (fun _ => connectionIdOf_updateDevice _ _ _ fun _ => rfl) ?_
      unfold DeviceInvAt
      simp only [setUser, setAdapter]
      rw [updateDevice_some _ device value _ valueExact]
      refine old.acquire listed acquires user (fun held => by rw [idle] at held; cases held)
        (Function.update_self ..) fun other different => ?_
      rw [Function.update_of_ne different]

theorem release_inv (state : LifecycleState) (user : Nat) (device : DeviceId) (next : UserPc)
    (inv : LifecycleInv state) (holding : state.users user = .holding device)
    (gives : ∀ other, next ≠ .holding other) :
    LifecycleInv ((state.setAdapter (state.adapter.updateDevice device fun value =>
      { value with rundownProtection := value.rundownProtection.release })).setUser user next) := by
  have old := inv.device device
  refine inv.local device (setUser_others state _ user device next
      (fun other => updateDevice_of_ne _ device other _) rfl rfl
      (fun other different held => by
        rw [holding] at held
        exact different (UserPc.holding.inj held).symm)
      (fun other _ => gives other)) rfl rfl rfl
    (fun _ => connectionIdOf_updateDevice _ _ _ fun _ => rfl) ?_
  obtain ⟨value, found⟩ := Option.isSome_iff_exists.mp (old.held_allocated user holding)
  rw [found] at old
  unfold DeviceInvAt
  simp only [setUser, setAdapter]
  rw [updateDevice_some _ device value _ found]
  refine old.releaseReference user holding ?_ fun other different => ?_
  · rw [Function.update_self]
    exact gives device
  · rw [Function.update_of_ne different]

theorem userStep_inv (state after : LifecycleState) (user : Nat) (op : UserOp)
    (inv : LifecycleInv state) (taken : userStep state user op = some after) :
    LifecycleInv after := by
  unfold userStep at taken
  cases pc : state.users user with
  | idle => simp only [pc] at taken; cases taken
  | waitingThread device =>
      simp only [pc] at taken
      split_ifs at taken
      cases taken
      refine inv.local device (setUser_others state state.adapter user device .idle
        (fun _ _ => rfl) rfl rfl (fun _ _ held => by rw [pc] at held; cases held)
        (fun _ _ held => by cases held)) rfl rfl rfl (fun _ => rfl) ?_
      have holders : (fun thread => Function.update state.users user .idle thread =
          .holding device) = fun thread => state.users thread = .holding device := by
        funext thread
        by_cases same : thread = user
        · subst same
          simp [pc]
        · rw [Function.update_of_ne same]
      unfold DeviceInvAt
      simp only [setUser]
      rw [holders]
      exact inv.device device
  | holding device =>
      simp only [pc] at taken
      cases op with
      | access =>
          cases taken
          exact inv
      | markRemoval =>
          cases taken
          exact inv.writes device _ (fun _ => rfl) (fun _ => rfl) (fun _ _ => rfl) fun _ => rfl
      | signalRemoval =>
          cases taken
          exact signalDevice_inv state device inv
      | release =>
          cases taken
          exact release_inv state user device .idle inv pc fun _ held => by cases held
      | releaseAndWait =>
          cases taken
          exact release_inv state user device _ inv pc fun _ held => by cases held

/-! ## Adapter cleanup and the whole system -/

theorem cleanupStep_inv (state after : LifecycleState) (chosen : Option DeviceId)
    (inv : LifecycleInv state) (taken : cleanupStep state chosen = some after) :
    LifecycleInv after := by
  unfold cleanupStep at taken
  cases pc : state.cleanup with
  | startWait =>
      simp only [pc] at taken
      cases taken
      exact ⟨inv.device, inv.nodup, inv.index, inv.event⟩
  | waiting =>
      simp only [pc] at taken
      split_ifs at taken
      cases taken
      exact ⟨inv.device, inv.nodup, inv.index, inv.event⟩
  | idle =>
      simp only [pc] at taken
      obtain ⟨event, set, rfl⟩ := Option.map_eq_some_iff.mp taken
      rcases SyncEvent.set_cases _ _ _ set with
        ⟨device, rfl, queued, rfl⟩ | ⟨rfl, empty, rfl⟩
      · have waiting := (inv.device device).queued_iff.mp queued
        have woken := wakeMonitor_inv state device inv
        rw [wakeMonitor, if_pos waiting] at woken
        exact ⟨woken.device, woken.nodup, woken.index, woken.event⟩
      · exact ⟨inv.device, inv.nodup, inv.index, inv.event.nodup, fun _ => empty⟩

theorem lifecycleNext_inv (state after : LifecycleState) (action : LifecycleAction)
    (inv : LifecycleInv state) (orderly : MonitorAfterCreator state action)
    (taken : lifecycleNext state action = some after) : LifecycleInv after := by
  cases action with
  | create call props => exact createBegin_inv state after call props inv taken
  | creator call fails => exact creatorStep_inv state after call fails inv orderly taken
  | monitor device => exact monitorStep_inv state after device inv orderly taken
  | lookup user key => exact lookupStep_inv state after user key inv taken
  | user user op => exact userStep_inv state after user op inv taken
  | cleanup chosen => exact cleanupStep_inv state after chosen inv taken

end Wnbd.Adapter
