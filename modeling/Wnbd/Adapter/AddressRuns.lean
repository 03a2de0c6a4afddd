import Wnbd.Adapter.AddressSteps

/-!
# The address map under monitors, lookups and cleanup

The remaining steps of the system, and the invariant along a whole run.  With the
repository's limits the steps are those of the other modules
(`lifecycleNextAt_wnbdLimits`).
-/

set_option autoImplicit false

namespace Wnbd.Adapter

open Wnbd.Scsi AdapterState LifecycleState StepSystem

theorem CreatorPc.inFlight_of_beforeLink (pc : CreatorPc) (before : pc.beforeLink = true)
    (begun : pc ≠ .idle) : pc.inFlight = true := by
  cases pc <;> first | rfl | exact absurd rfl begun | cases before

/-- Past the link a call holds the address of its device, or has no device. -/
theorem CreatorPc.linked_or_deviceless (pc : CreatorPc) (after : pc.beforeLink = false) :
    pc.linked = true ∨ (pc.holdsAddress = false ∧ pc.deviceless = true) := by
  cases pc <;> first | exact Or.inl rfl | exact Or.inr ⟨rfl, rfl⟩ | cases after

section Monitor

variable {limits : DiskLimits} {state : AddressState} {device : DeviceId}

/-- A create call that has started the monitor and is not under way is past its link. -/
theorem SlotInvAt.released_of_quiet (inv : SlotInvAt limits state device)
    (present : state.system.monitors device ≠ .absent)
    (quiet : (state.system.creators device).inFlight = false) :
    (state.system.creators device).beforeLink = false := by
  cases before : (state.system.creators device).beforeLink with
  | false => rfl
  | true =>
      have started := inv.begun present
      have flies := CreatorPc.inFlight_of_beforeLink _ before fun idle => by
        rw [idle] at started
        cases started
      rw [quiet] at flies
      cases flies

def AddressState.moveMonitor (state : AddressState) (adapter : AdapterState) (device : DeviceId)
    (next : MonitorPc) : AddressState :=
  { state with system := (state.system.setAdapter adapter).setMonitor device next }

/-- A step of a monitor on the structures no other device uses. -/
structure MonitorLocal (state : AddressState) (adapter : AdapterState) (device : DeviceId) :
    Prop where
  devices : ∀ other, other ≠ device →
    adapter.devices other = state.system.adapter.devices other
  queued : ∀ other, other ≠ device → (other ∈ adapter.globalDeviceRemovalEvent.waiters ↔
    other ∈ state.system.adapter.globalDeviceRemovalEvent.waiters)
  list : adapter.deviceList = state.system.adapter.deviceList
  buckets : adapter.connIdHashBuckets = state.system.adapter.connIdHashBuckets
  bits : adapter.scsiBitMap = state.system.adapter.scsiBitMap
  counter : adapter.connectionId = state.system.adapter.connectionId
  waiting : adapter.rundownProtection.waiting =
    state.system.adapter.rundownProtection.waiting
  signaled : adapter.globalDeviceRemovalEvent.signaled = true →
    state.system.adapter.globalDeviceRemovalEvent.signaled = true
  event : adapter.globalDeviceRemovalEvent.WellFormed

theorem AddressInv.monitorLocal (inv : AddressInv limits state) (adapter : AdapterState)
    (next : MonitorPc) (step : MonitorLocal state adapter device)
    (unlinked : next.unlinked = (state.system.monitors device).unlinked)
    (kept : ∀ value, adapter.devices device = some value →
      ∃ old, state.system.adapter.devices device = some old ∧
        value.connectionId = old.connectionId)
    (here : SlotInv limits (state.system.creators device) next (adapter.devices device)
      (state.claimed device) (device ∈ state.system.adapter.deviceList)
      (device ∈ adapter.globalDeviceRemovalEvent.waiters)
      (fun user => state.system.users user = .holding device)) :
    AddressInv limits (state.moveMonitor adapter device next) := by
  have pc : (state.moveMonitor adapter device next).system.monitors device = next :=
    Function.update_self ..
  refine inv.local device
    (onlyDevice_setMonitor adapter device next step.devices (fun _ _ => by rw [step.list])
      step.queued) (fun _ _ => rfl) step.list step.buckets step.bits ?_ step.counter ?_
    (inv.apart.keep ⟨step.waiting, rfl⟩ step.signaled fun _ flies => flies) step.event ?_
  · simp only [AddressState.heldBit, pc, unlinked]
    rfl
  · intro value stored addressed
    obtain ⟨old, found, same⟩ := kept value stored
    exact ⟨old, found, addressed, same⟩
  · unfold SlotInvAt
    rw [pc]
    simp only [AddressState.moveMonitor, setMonitor, setAdapter, step.list]
    exact here

theorem AddressInv.monitorMoves (inv : AddressInv limits state) (next : MonitorPc)
    (present : state.system.monitors device ≠ .absent)
    (past : state.system.monitors device ≠ .waiting)
    (unlinked : next.unlinked = (state.system.monitors device).unlinked)
    (released : next.tearsDown = true → (state.system.creators device).beforeLink = false) :
    AddressInv limits (state.moveMonitor state.system.adapter device next) := by
  refine inv.monitorLocal state.system.adapter next
    ⟨fun _ _ => rfl, fun _ _ => Iff.rfl, rfl, rfl, rfl, rfl, rfl, id, inv.event⟩ unlinked
    (fun value stored => ⟨value, stored, rfl⟩) ?_
  exact (inv.slot device).advanceMonitor next present
    (fun queued => absurd ((inv.slot device).queued queued) past) unlinked released

theorem AddressInv.monitorCounts (inv : AddressInv limits state) (next : MonitorPc)
    (deviceCount : Int) (rundownProtection : Rundown)
    (waiting : rundownProtection.waiting = state.system.adapter.rundownProtection.waiting)
    (tears : (state.system.monitors device).tearsDown = true)
    (unlinked : next.unlinked = (state.system.monitors device).unlinked) :
    AddressInv limits (state.moveMonitor
      { state.system.adapter with deviceCount, rundownProtection } device next) := by
  have present : state.system.monitors device ≠ .absent := fun absent => by
    rw [absent] at tears
    cases tears
  refine inv.monitorLocal _ next
    ⟨fun _ _ => rfl, fun _ _ => Iff.rfl, rfl, rfl, rfl, rfl, waiting, id, inv.event⟩ unlinked
    (fun value stored => ⟨value, stored, rfl⟩) ?_
  refine (inv.slot device).advanceMonitor next present (fun queued => ?_) unlinked
    fun _ => (inv.slot device).released tears
  have waits := (inv.slot device).queued queued
  rw [waits] at tears
  cases tears

theorem AddressInv.monitorWrites (inv : AddressInv limits state) (next : MonitorPc)
    (change : WnbdDiskDevice → WnbdDiskDevice)
    (tears : (state.system.monitors device).tearsDown = true)
    (unlinked : next.unlinked = (state.system.monitors device).unlinked)
    (sameId : ∀ value, (change value).connectionId = value.connectionId)
    (address : ∀ value, addressOf (change value) = addressOf value)
    (thread : ∀ value, (change value).deviceMonitorThread = value.deviceMonitorThread) :
    AddressInv limits (state.moveMonitor (state.system.adapter.updateDevice device change) device
      next) := by
  have old := inv.slot device
  have released := old.released tears
  have present : state.system.monitors device ≠ .absent := fun absent => by
    rw [absent] at tears
    cases tears
  refine inv.monitorLocal _ next
    ⟨fun other => updateDevice_of_ne _ device other _, fun _ _ => Iff.rfl, rfl, rfl, rfl, rfl,
      rfl, id, inv.event⟩ unlinked (fun value stored => ?_) ?_
  · rw [updateDevice_self] at stored
    obtain ⟨old, found, rfl⟩ := Option.map_eq_some_iff.mp stored
    exact ⟨old, found, sameId old⟩
  · rw [updateDevice_self]
    have written := old.write change address
      (fun before => by rw [released] at before; cases before) fun _ => thread
    refine written.advanceMonitor next present (fun queued => ?_) unlinked fun _ => released
    have waits := old.queued queued
    rw [waits] at tears
    cases tears

/-- The bit the monitor clears is the one the create call claimed. -/
theorem SlotInvAt.cleared (inv : SlotInvAt limits state device)
    (listed : device ∈ state.system.adapter.deviceList) :
    ∃ bit, state.heldBit device = some bit ∧
      (unlinkDeviceAt limits state.system.adapter device).scsiBitMap =
        BitMap.clearBit state.system.adapter.scsiBitMap bit := by
  obtain ⟨value, bit, stored, -, held, inRange, address⟩ := inv.listed listed
  refine ⟨bit, held, ?_⟩
  unfold unlinkDeviceAt
  rw [stored]
  dsimp only
  rw [address, limits.bitNumber_address bit inRange]

theorem AddressInv.unlink (inv : AddressInv limits state)
    (pc : state.system.monitors device = .unlink) :
    AddressInv limits
      (state.moveMonitor (unlinkDeviceAt limits state.system.adapter device) device .notify) := by
  have old := inv.slot device
  unfold SlotInvAt at old
  rw [pc] at old
  have erased : ∀ other, other ∈ state.system.adapter.deviceList.erase device ↔
      other ≠ device ∧ other ∈ state.system.adapter.deviceList := fun other =>
    inv.nodup.mem_erase_iff
  have only : OnlyDevice state.system
      (state.moveMonitor (unlinkDeviceAt limits state.system.adapter device) device
        .notify).system device :=
    onlyDevice_setMonitor _ device .notify (fun _ _ => rfl)
      (fun other different => (erased other).trans (and_iff_right different)) fun _ _ => Iff.rfl
  have gone : (device ∈ (unlinkDeviceAt limits state.system.adapter device).deviceList) = False :=
    eq_false fun member => ((erased device).mp member).1 rfl
  have here : SlotInvAt limits
      (state.moveMonitor (unlinkDeviceAt limits state.system.adapter device) device .notify)
      device := by
    unfold SlotInvAt
    simp only [AddressState.moveMonitor, setMonitor, setAdapter, Function.update_self, gone]
    exact old.unlink
  have given : (state.moveMonitor (unlinkDeviceAt limits state.system.adapter device) device
      .notify).heldBit device = none := by
    simp [AddressState.heldBit, AddressState.moveMonitor, setMonitor, MonitorPc.unlinked]
  have size : (unlinkDeviceAt limits state.system.adapter device).scsiBitMap.length =
      limits.numberOfDisks := by
    rw [← inv.size]
    unfold unlinkDeviceAt
    cases state.system.adapter.devices device with
    | none => rfl
    | some value => exact BitMap.clearBit_length _ _
  refine
    { slot := SlotInvAt.others inv.slot only (fun _ _ => rfl) here
      nodup := inv.nodup.erase device
      index := inv.index.remove device
      size := size
      bits := ?_
      ids := inv.ids.keep rfl fun _ value stored addressed => ⟨value, stored, addressed, rfl⟩
      apart := inv.apart.keep ⟨rfl, rfl⟩ id fun _ flies => flies
      event := inv.event }
  rw [heldBit_eq_update only fun _ _ => rfl, given]
  change BitMap.Owned (unlinkDeviceAt limits state.system.adapter device).scsiBitMap _
  rcases CreatorPc.linked_or_deviceless _ (old.released rfl) with linked | ⟨free, deviceless⟩
  · obtain ⟨bit, held, cleared⟩ :=
      SlotInvAt.cleared (inv.slot device) (old.listed_iff.mpr ⟨linked, rfl⟩)
    rw [cleared]
    exact inv.bits.release bit device held
  · have kept : (unlinkDeviceAt limits state.system.adapter device).scsiBitMap =
        state.system.adapter.scsiBitMap := by
      unfold unlinkDeviceAt
      rw [old.discarded deviceless]
    have unheld : state.heldBit device = none := by
      rw [AddressState.heldBit, free]
      rfl
    rw [kept, ← unheld, Function.update_eq_self]
    exact inv.bits

theorem AddressInv.free (inv : AddressInv limits state)
    (pc : state.system.monitors device = .free) :
    AddressInv limits
      (state.moveMonitor (state.system.adapter.setDevice device none) device .release) := by
  have old := inv.slot device
  unfold SlotInvAt at old
  rw [pc] at old
  refine inv.monitorLocal _ .release
    ⟨fun other => setDevice_of_ne _ device other _, fun _ _ => Iff.rfl, rfl, rfl, rfl, rfl, rfl, id,
      inv.event⟩ (by rw [pc]; rfl) (fun value stored => ?_) ?_
  · simp only [setDevice, Function.update_self] at stored
    cases stored
  · simp only [setDevice, Function.update_self]
    exact old.free

theorem AddressInv.monitorWakes (inv : AddressInv limits state)
    (pc : state.system.monitors device = .start)
    (signaled : state.system.adapter.globalDeviceRemovalEvent.signaled = true) :
    AddressInv limits (state.moveMonitor
      { state.system.adapter with globalDeviceRemovalEvent :=
          { state.system.adapter.globalDeviceRemovalEvent with signaled := false } } device
      .mark) := by
  have old := inv.slot device
  have present : state.system.monitors device ≠ .absent := by simp [pc]
  have released := SlotInvAt.released_of_quiet old present
    (inv.apart.quiet (inv.apart.signaled signaled) device)
  unfold SlotInvAt at old
  rw [pc] at old
  have notQueued : device ∉ state.system.adapter.globalDeviceRemovalEvent.waiters := fun queued => by
    have waits := old.queued queued
    cases waits
  refine inv.monitorLocal _ .mark
    ⟨fun _ _ => rfl, fun _ _ => Iff.rfl, rfl, rfl, rfl, rfl, rfl, fun set => (by cases set),
      inv.event.consume⟩ (by rw [pc]; rfl) (fun value stored => ⟨value, stored, rfl⟩) ?_
  exact old.advanceMonitor .mark (by simp) (fun queued => absurd queued notQueued) rfl
    fun _ => released

theorem AddressInv.monitorSleeps (inv : AddressInv limits state)
    (pc : state.system.monitors device = .start)
    (unset : state.system.adapter.globalDeviceRemovalEvent.signaled = false) :
    AddressInv limits (state.moveMonitor
      { state.system.adapter with globalDeviceRemovalEvent :=
          { state.system.adapter.globalDeviceRemovalEvent with
            waiters := state.system.adapter.globalDeviceRemovalEvent.waiters ++ [device] } }
      device .waiting) := by
  have old := inv.slot device
  unfold SlotInvAt at old
  rw [pc] at old
  have notQueued : device ∉ state.system.adapter.globalDeviceRemovalEvent.waiters := fun queued => by
    have waits := old.queued queued
    cases waits
  refine inv.monitorLocal _ .waiting
    ⟨fun _ _ => rfl, fun other different => ?_, rfl, rfl, rfl, rfl, rfl, id,
      inv.event.queue device unset notQueued⟩ (by rw [pc]; rfl)
    (fun value stored => ⟨value, stored, rfl⟩) ?_
  · simp [different]
  · exact old.advanceMonitor .waiting (by simp) (fun _ => rfl) rfl fun tears => by cases tears

/-- The own event is not set before the link. -/
theorem AddressInv.monitorOwnEvent (inv : AddressInv limits state)
    (pc : state.system.monitors device = .start)
    (own : (state.system.adapter.devices device).any (·.deviceRemovalEvent) = true) :
    AddressInv limits (state.moveMonitor state.system.adapter device .mark) := by
  have old := inv.slot device
  refine inv.monitorMoves .mark (by simp [pc]) (by simp [pc]) (by rw [pc]; rfl) fun _ => ?_
  obtain ⟨value, stored, isSet⟩ := (Option.any_eq_true _ _).mp own
  cases before : (state.system.creators device).beforeLink with
  | false => rfl
  | true =>
      rw [old.unsignaled before value stored] at isSet
      cases isSet

theorem monitorStepAt_cases {system after : LifecycleState}
    (taken : monitorStepAt limits system device = some after) :
    (system.monitors device = .unlink ∧
      after = (system.setAdapter (unlinkDeviceAt limits system.adapter device)).setMonitor device
        .notify) ∨
    system.monitors device ≠ .unlink ∧ monitorStep system device = some after := by
  unfold monitorStepAt at taken
  cases here : system.monitors device with
  | unlink =>
      simp only [here] at taken
      cases taken
      exact Or.inl ⟨rfl, rfl⟩
  | _ =>
      simp only [here] at taken
      exact Or.inr ⟨by simp, taken⟩

theorem monitorStepAt_inv (inv : AddressInv limits state) (system : LifecycleState)
    (taken : monitorStepAt limits state.system device = some system) :
    AddressInv limits { state with system } := by
  have old := inv.slot device
  rcases monitorStepAt_cases taken with ⟨here, rfl⟩ | ⟨elsewhere, stepped⟩
  · exact inv.unlink here
  cases monitorStep_cases stepped with
  | unlinks here => exact absurd here elsewhere
  | wakes here signaled => exact inv.monitorWakes here signaled
  | ownEvent here _ own => exact inv.monitorOwnEvent here own
  | sleeps here unset => exact inv.monitorSleeps here unset
  | moves pc next here move =>
      cases move <;>
        exact inv.monitorMoves _ (by simp [here]) (by simp [here]) (by rw [here]; rfl)
          fun _ => old.released (by rw [here]; rfl)
  | writes pc next change here write =>
      cases write <;>
        exact inv.monitorWrites _ _ (by rw [here]; rfl) (by rw [here]; rfl) (fun _ => rfl)
          (fun _ => rfl) fun _ => rfl
  | runDown here =>
      exact inv.monitorMoves .drain (by simp [here]) (by simp [here]) (by rw [here]; rfl)
        fun _ => old.released (by rw [here]; rfl)
  | counts here | releases here =>
      exact inv.monitorCounts _ _ _ rfl (by rw [here]; rfl) (by rw [here]; rfl)
  | frees here => exact inv.free here

end Monitor

/-! ## Threads that use a device -/

section Users

variable {limits : DiskLimits} {state : AddressState} {device : DeviceId}

theorem SlotInv.holders {creator : CreatorPc} {monitor : MonitorPc}
    {value : Option WnbdDiskDevice} {claimed : Option Nat} {listed queued : Prop}
    {holds : Nat → Prop} (inv : SlotInv limits creator monitor value claimed listed queued holds)
    (nextHolds : Nat → Prop) (after : creator.beforeLink = true → ∀ user, ¬ nextHolds user) :
    SlotInv limits creator monitor value claimed listed queued nextHolds :=
  { inv with unheld := after }

theorem AddressInv.userWrites (inv : AddressInv limits state) (user : Nat) (next : UserPc)
    (change : WnbdDiskDevice → WnbdDiskDevice)
    (linked : (state.system.creators device).beforeLink = false)
    (held : ∀ other, other ≠ device → state.system.users user ≠ .holding other)
    (holds : ∀ other, other ≠ device → next ≠ .holding other)
    (sameId : ∀ value, (change value).connectionId = value.connectionId)
    (address : ∀ value, addressOf (change value) = addressOf value)
    (thread : ∀ value, (change value).deviceMonitorThread = value.deviceMonitorThread) :
    AddressInv limits
      ⟨(state.system.setAdapter (state.system.adapter.updateDevice device change)).setUser user
        next, state.claimed⟩ := by
  refine inv.local device (setUser_others state.system _ user device next
      (fun other => updateDevice_of_ne _ device other _) rfl rfl held holds) (fun _ _ => rfl) rfl rfl
    rfl rfl rfl (fun value stored addressed => ?_)
    (inv.apart.keep ⟨rfl, rfl⟩ id fun _ flies => flies) inv.event ?_
  · change (state.system.adapter.updateDevice device change).devices device = some value at stored
    rw [updateDevice_self] at stored
    obtain ⟨old, found, rfl⟩ := Option.map_eq_some_iff.mp stored
    exact ⟨old, found, addressed, sameId old⟩
  · unfold SlotInvAt
    simp only [setUser, setAdapter, updateDevice_self]
    refine SlotInv.holders ((inv.slot device).write change address ?_ fun _ => thread) _ ?_
    · intro before
      rw [linked] at before
      cases before
    · intro before
      rw [linked] at before
      cases before

theorem lookupStep_addressInv (inv : AddressInv limits state) (user : Nat) (key : LookupKey)
    (system : LifecycleState) (taken : lookupStep state.system user key = some system) :
    AddressInv limits { state with system } := by
  unfold lookupStep at taken
  split_ifs at taken with idle
  split at taken
  · cases taken
    exact inv
  rename_i device found
  have listed := lookupChain_listed key inv.index device (List.mem_of_find?_eq_some found)
  have linked := (CreatorPc.addressed_of_linked _ ((inv.slot device).listed_iff.mp listed).1).2.2
  split at taken
  · cases taken
    exact inv
  cases taken
  refine inv.userWrites user (.holding device) _ linked
    (fun other _ held => ?_) (fun other different held => ?_) (fun _ => rfl) (fun _ => rfl)
    fun _ => rfl
  · rw [idle] at held
    cases held
  · exact different (UserPc.holding.inj held).symm

theorem AddressInv.held_linked (inv : AddressInv limits state) (user : Nat)
    (holding : state.system.users user = .holding device) :
    (state.system.creators device).beforeLink = false := by
  cases before : (state.system.creators device).beforeLink with
  | false => rfl
  | true => exact absurd holding ((inv.slot device).unheld before user)

theorem AddressInv.wake (inv : AddressInv limits state)
    (linked : (state.system.creators device).beforeLink = false) :
    AddressInv limits { state with system := wakeMonitor state.system device } := by
  have old := inv.slot device
  unfold wakeMonitor
  split_ifs with pc
  · unfold SlotInvAt at old
    rw [pc] at old
    have left := inv.event.mem_leave device
    refine inv.monitorLocal { state.system.adapter with globalDeviceRemovalEvent :=
        state.system.adapter.globalDeviceRemovalEvent.leave device } .mark
      ⟨fun _ _ => rfl, fun other different => (left other).trans (and_iff_right different), rfl,
        rfl, rfl, rfl, rfl, id, inv.event.leave device⟩ (by rw [pc]; rfl)
      (fun value stored => ⟨value, stored, rfl⟩) ?_
    exact old.advanceMonitor .mark (by simp) (fun queued => absurd rfl ((left device).mp queued).1)
      rfl fun _ => linked
  · exact inv

theorem setUser_eq_self (system : LifecycleState) (user : Nat) (pc : UserPc)
    (same : system.users user = pc) : system.setUser user pc = system := by
  rw [setUser, ← same, Function.update_eq_self]

theorem AddressInv.holderWrites (inv : AddressInv limits state) (user : Nat)
    (holding : state.system.users user = .holding device) (next : UserPc)
    (change : WnbdDiskDevice → WnbdDiskDevice)
    (holds : ∀ other, other ≠ device → next ≠ .holding other)
    (sameId : ∀ value, (change value).connectionId = value.connectionId)
    (address : ∀ value, addressOf (change value) = addressOf value)
    (thread : ∀ value, (change value).deviceMonitorThread = value.deviceMonitorThread) :
    AddressInv limits
      ⟨(state.system.setAdapter (state.system.adapter.updateDevice device change)).setUser user
        next, state.claimed⟩ := by
  refine inv.userWrites user next change (inv.held_linked user holding) ?_ holds sameId address
    thread
  intro other different held
  rw [holding] at held
  exact different (UserPc.holding.inj held).symm

theorem AddressInv.holderKeeps (inv : AddressInv limits state) (user : Nat)
    (holding : state.system.users user = .holding device)
    (change : WnbdDiskDevice → WnbdDiskDevice)
    (sameId : ∀ value, (change value).connectionId = value.connectionId)
    (address : ∀ value, addressOf (change value) = addressOf value)
    (thread : ∀ value, (change value).deviceMonitorThread = value.deviceMonitorThread) :
    AddressInv limits
      ⟨state.system.setAdapter (state.system.adapter.updateDevice device change),
        state.claimed⟩ := by
  have written := inv.holderWrites user holding (.holding device) change
    (fun other different held => different (UserPc.holding.inj held).symm) sameId address thread
  have kept := setUser_eq_self
    (state.system.setAdapter (state.system.adapter.updateDevice device change)) user _ holding
  rw [kept] at written
  exact written

theorem AddressInv.signalRemoval (inv : AddressInv limits state) (user : Nat)
    (holding : state.system.users user = .holding device) :
    AddressInv limits { state with system := signalDevice state.system device } := by
  have woken := inv.wake (inv.held_linked user holding)
  have holder : (wakeMonitor state.system device).users user = .holding device := by
    unfold wakeMonitor
    split_ifs <;> exact holding
  exact woken.holderKeeps user holder ({ · with deviceRemovalEvent := true }) (fun _ => rfl)
    (fun _ => rfl) fun _ => rfl

theorem userStep_addressInv (inv : AddressInv limits state) (user : Nat) (op : UserOp)
    (system : LifecycleState) (taken : userStep state.system user op = some system) :
    AddressInv limits { state with system } := by
  unfold userStep at taken
  cases pc : state.system.users user with
  | idle =>
      simp only [pc] at taken
      cases taken
  | waitingThread device =>
      simp only [pc] at taken
      split_ifs at taken
      cases taken
      refine inv.local device (setUser_others state.system state.system.adapter user device .idle
          (fun _ _ => rfl) rfl rfl (fun _ _ held => ?_) fun _ _ held => by cases held)
        (fun _ _ => rfl) rfl rfl rfl rfl rfl
        (fun value stored addressed => ⟨value, stored, addressed, rfl⟩)
        (inv.apart.keep ⟨rfl, rfl⟩ id fun _ flies => flies) inv.event ?_
      · rw [pc] at held
        cases held
      · refine (inv.slot device).holders _ fun before other held => ?_
        by_cases same : other = user
        · simp only [setUser, same, Function.update_self] at held
          cases held
        · simp only [setUser, Function.update_of_ne same] at held
          exact (inv.slot device).unheld before other held
  | holding device =>
      simp only [pc] at taken
      cases op with
      | access =>
          cases taken
          exact inv
      | markRemoval =>
          cases taken
          exact inv.holderKeeps user pc ({ · with hardRemoveDevice := true }) (fun _ => rfl)
            (fun _ => rfl) fun _ => rfl
      | signalRemoval =>
          cases taken
          exact inv.signalRemoval user pc
      | release =>
          cases taken
          exact inv.holderWrites user pc .idle _ (fun _ _ held => by cases held) (fun _ => rfl)
            (fun _ => rfl) fun _ => rfl
      | releaseAndWait =>
          cases taken
          exact inv.holderWrites user pc (.waitingThread device) _
            (fun _ _ held => by cases held) (fun _ => rfl) (fun _ => rfl) fun _ => rfl

end Users

/-! ## Adapter cleanup and the whole system -/

section Runs

variable {limits : DiskLimits} {state after : AddressState}

theorem cleanupStep_addressInv (inv : AddressInv limits state) (chosen : Option DeviceId)
    (orderly : CleanupApart state.system (.cleanup chosen)) (system : LifecycleState)
    (taken : cleanupStep state.system chosen = some system) :
    AddressInv limits { state with system } := by
  unfold cleanupStep at taken
  dsimp only at taken
  cases pc : state.system.cleanup with
  | startWait =>
      simp only [pc] at taken
      cases taken
      have quiet := inv.apart.quiet (Or.inl (by rw [pc]; simp))
      exact ⟨inv.slot, inv.nodup, inv.index, inv.size, inv.bits,
        ⟨inv.ids.bounded, inv.ids.distinct⟩,
        ⟨fun _ => Or.inr rfl, fun _ => rfl, fun _ => quiet⟩, inv.event⟩
  | waiting =>
      simp only [pc] at taken
      split_ifs at taken
      cases taken
      have refusing := inv.apart.waiting pc
      have quiet := inv.apart.quiet (Or.inr refusing)
      exact ⟨inv.slot, inv.nodup, inv.index, inv.size, inv.bits,
        ⟨inv.ids.bounded, inv.ids.distinct⟩,
        ⟨fun _ => Or.inr refusing, fun waiting => (by cases waiting), fun _ => quiet⟩, inv.event⟩
  | idle =>
      simp only [pc] at taken
      have quiet := orderly pc
      obtain ⟨event, set, rfl⟩ := Option.map_eq_some_iff.mp taken
      rcases SyncEvent.set_cases _ _ _ set with
        ⟨device, rfl, queued, rfl⟩ | ⟨rfl, empty, rfl⟩
      · have waiting := (inv.slot device).queued queued
        have released := SlotInvAt.released_of_quiet (inv.slot device) (by rw [waiting]; simp)
          (quiet device)
        have woken := inv.wake released
        rw [wakeMonitor, if_pos waiting] at woken
        exact ⟨woken.slot, woken.nodup, woken.index, woken.size, woken.bits,
          ⟨woken.ids.bounded, woken.ids.distinct⟩,
          ⟨fun _ => Or.inl fun idle => (by cases idle), fun waiting => (by cases waiting),
            fun _ => quiet⟩,
          woken.event⟩
      · exact ⟨fun device => { inv.slot device with }, inv.nodup, inv.index, inv.size, inv.bits,
          ⟨inv.ids.bounded, inv.ids.distinct⟩,
          ⟨fun _ => Or.inl fun idle => (by cases idle), fun waiting => (by cases waiting),
            fun _ => quiet⟩,
          ⟨inv.event.nodup, fun _ => empty⟩⟩

theorem addressNext_inv (inv : AddressInv limits state) (action : LifecycleAction)
    (orderly : AddressOrderly state action) (taken : addressNext limits state action = some after) :
    AddressInv limits after := by
  obtain ⟨system, stepped, rfl⟩ := Option.map_eq_some_iff.mp taken
  cases action with
  | create call props => exact inv.begin props orderly.apart system stepped
  | creator call fails => exact creatorStepAt_inv inv fails orderly system stepped
  | monitor device => exact monitorStepAt_inv inv system stepped
  | lookup user key => exact lookupStep_addressInv inv user key system stepped
  | user user op => exact userStep_addressInv inv user op system stepped
  | cleanup chosen => exact cleanupStep_addressInv inv chosen orderly.apart system stepped

end Runs

/-! ## The repository's limits -/

section Limits

variable {state : AddressState}

theorem assignAddressAt_wnbdLimits (adapter : AdapterState) (device : DeviceId)
    (scsiBitNumber : Nat) (inRange : scsiBitNumber < wnbdLimits.numberOfDisks) :
    assignAddressAt wnbdLimits adapter device scsiBitNumber =
      adapter.assignAddress device scsiBitNumber := by
  unfold assignAddressAt
  rw [DiskLimits.address_eq wnbdLimits scsiBitNumber inRange]
  rfl

theorem unlinkDeviceAt_wnbdLimits (inv : AddressInv wnbdLimits state) (device : DeviceId)
    (pc : state.system.monitors device = .unlink) :
    unlinkDeviceAt wnbdLimits state.system.adapter device =
      state.system.adapter.unlinkDevice device := by
  have old := inv.slot device
  unfold unlinkDeviceAt unlinkDevice
  rcases CreatorPc.linked_or_deviceless _ (old.released (by rw [pc]; rfl)) with
    linked | ⟨-, deviceless⟩
  · obtain ⟨value, bit, stored, -, -, inRange, address⟩ :=
      old.listed (old.listed_iff.mpr ⟨linked, by rw [pc]; rfl⟩)
    have same : addressBit value = bit := by
      rw [DiskLimits.address_eq wnbdLimits bit inRange] at address
      injection address with bus others
      injection others with target lun
      exact addressBit_assigned value bit bus target lun
    rw [stored]
    dsimp only
    rw [address, wnbdLimits.bitNumber_address bit inRange, same]
  · rw [old.discarded deviceless]

/-- At the repository's limits this is the life cycle of the other modules. -/
theorem lifecycleNextAt_wnbdLimits (inv : AddressInv wnbdLimits state) (action : LifecycleAction) :
    lifecycleNextAt wnbdLimits state.system action = lifecycleNext state.system action := by
  cases action with
  | create | lookup | user | cleanup => rfl
  | creator call fails =>
      unfold lifecycleNextAt lifecycleNext creatorStepAt
      dsimp only
      cases pc : state.system.creators call with
      | assignAddress bit =>
          have old := inv.slot call
          unfold SlotInvAt at old
          rw [pc] at old
          obtain ⟨given, -, inRange, own⟩ := old.address rfl
          have same : bit = given := own bit rfl
          unfold creatorStep
          dsimp only
          rw [pc, assignAddressAt_wnbdLimits _ call bit (same ▸ inRange)]
      | _ => rfl
  | monitor device =>
      unfold lifecycleNextAt lifecycleNext monitorStepAt
      dsimp only
      cases pc : state.system.monitors device with
      | unlink =>
          unfold monitorStep
          dsimp only
          rw [pc, unlinkDeviceAt_wnbdLimits inv device pc]
      | _ => rfl

end Limits

end Wnbd.Adapter
