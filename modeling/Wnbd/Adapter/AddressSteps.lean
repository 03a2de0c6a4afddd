import Wnbd.Adapter.AddressInvariant

/-!
# The address map along a run

The invariant of `AddressInvariant` for all devices at once, with the bit map,
the buckets and the connection ids, kept by every step of a run in which
cleanup does not overlap a create call and the id counter does not wrap.
-/

set_option autoImplicit false

namespace Wnbd.Adapter

open Wnbd.Scsi AdapterState LifecycleState StepSystem

/-! ## The condition on a run -/

/-- No create call begins during a cleanup, and no cleanup during a create call. -/
def CleanupApart (state : LifecycleState) : LifecycleAction → Prop
  | .create _ _ => state.cleanup = .idle
  | .cleanup _ => state.cleanup = .idle → ∀ call, (state.creators call).inFlight = false
  | _ => True

/-- The call is at `InterlockedIncrement64` on the connection id. -/
def CreatorPc.assigns : CreatorPc → Bool
  | .assignAddress _ => true
  | _ => false

def CounterGoesOn (state : LifecycleState) : LifecycleAction → Prop
  | .creator call _ => (state.creators call).assigns = true →
      state.adapter.connectionId.toNat + 1 < 2 ^ 64
  | _ => True

structure AddressOrderly (state : AddressState) (action : LifecycleAction) : Prop where
  apart : CleanupApart state.system action
  counter : CounterGoesOn state.system action

/-! ## The invariant -/

/-- The bit a device, or the create call of one, has in the bit map. -/
def AddressState.heldBit (state : AddressState) (device : DeviceId) : Option Nat :=
  if (state.system.creators device).holdsAddress && !(state.system.monitors device).unlinked then
    state.claimed device
  else none

structure ConnectionIds (state : LifecycleState) : Prop where
  bounded : ∀ device value, state.adapter.devices device = some value →
    (state.creators device).addressed = true →
      value.connectionId.toNat ≤ state.adapter.connectionId.toNat
  distinct : ∀ device other value otherValue, state.adapter.devices device = some value →
    state.adapter.devices other = some otherValue →
    (state.creators device).addressed = true → (state.creators other).addressed = true →
      value.connectionId = otherValue.connectionId → device = other

/-- While a create call is under way no cleanup has begun. -/
structure Apart (state : LifecycleState) : Prop where
  signaled : state.adapter.globalDeviceRemovalEvent.signaled = true →
    state.cleanup ≠ .idle ∨ Refusing state
  waiting : state.cleanup = .waiting → Refusing state
  quiet : state.cleanup ≠ .idle ∨ Refusing state → ∀ call, (state.creators call).inFlight = false

abbrev SlotInvAt (limits : DiskLimits) (state : AddressState) (device : DeviceId) : Prop :=
  SlotInv limits (state.system.creators device) (state.system.monitors device)
    (state.system.adapter.devices device) (state.claimed device)
    (device ∈ state.system.adapter.deviceList)
    (device ∈ state.system.adapter.globalDeviceRemovalEvent.waiters)
    (fun user => state.system.users user = .holding device)

structure AddressInv (limits : DiskLimits) (state : AddressState) : Prop where
  slot : ∀ device, SlotInvAt limits state device
  nodup : state.system.adapter.deviceList.Nodup
  index : HashIndex.Indexes (connIdHash state.system.adapter) state.system.adapter.deviceList
    state.system.adapter.connIdHashBuckets
  size : state.system.adapter.scsiBitMap.length = limits.numberOfDisks
  bits : BitMap.Owned state.system.adapter.scsiBitMap state.heldBit
  ids : ConnectionIds state.system
  apart : Apart state.system
  event : state.system.adapter.globalDeviceRemovalEvent.WellFormed

theorem addressInv_initial (limits : DiskLimits) :
    AddressInv limits (AddressState.initial limits) where
  slot device :=
    { listed_iff := by simp [AddressState.initial, AdapterState.initial, LifecycleState.initial,
        setAdapter, CreatorPc.linked]
      begun := fun present => absurd rfl present
      queued := fun queued => by cases queued
      waits := fun _ => rfl
      unheld := fun _ _ held => by cases held
      unsignaled := fun _ _ stored => by cases stored
      unreferenced := fun _ _ stored => by cases stored
      address := fun held => by cases held
      decoded := fun _ _ _ stored => by cases stored
      stored := fun owns => by cases owns
      discarded := fun _ => rfl }
  nodup := List.nodup_nil
  index := HashIndex.indexes_nil _
  size := List.length_replicate ..
  bits := BitMap.Owned.unused limits.numberOfDisks
  ids := ⟨fun _ _ stored => (by cases stored), fun _ _ _ _ stored => by cases stored⟩
  apart := ⟨fun signaled => (by cases signaled), fun waiting => (by cases waiting),
    fun _ _ => rfl⟩
  event := ⟨List.nodup_nil, fun _ => rfl⟩

section Local

variable {limits : DiskLimits} {before after : AddressState}

theorem Apart.keep {before after : LifecycleState} (apart : Apart before)
    (keeps : KeepsRundown before after)
    (signaled : after.adapter.globalDeviceRemovalEvent.signaled = true →
      before.adapter.globalDeviceRemovalEvent.signaled = true)
    (inFlight : ∀ call, (after.creators call).inFlight = true →
      (before.creators call).inFlight = true) : Apart after where
  signaled set := by
    rw [keeps.cleanup, keeps.refusing]
    exact apart.signaled (signaled set)
  waiting waiting := by
    rw [keeps.refusing]
    exact apart.waiting (keeps.cleanup ▸ waiting)
  quiet begun call := by
    rw [keeps.cleanup, keeps.refusing] at begun
    cases flies : (after.creators call).inFlight with
    | false => rfl
    | true =>
        have flew := inFlight call flies
        rw [apart.quiet begun call] at flew
        cases flew

theorem SlotInvAt.others {device : DeviceId}
    (inv : ∀ other, SlotInvAt limits before other)
    (only : OnlyDevice before.system after.system device)
    (claimed : ∀ other, other ≠ device → after.claimed other = before.claimed other)
    (here : SlotInvAt limits after device) (other : DeviceId) : SlotInvAt limits after other := by
  by_cases same : other = device
  · rw [same]
    exact here
  · have holders : (fun user => after.system.users user = .holding other) =
        fun user => before.system.users user = .holding other :=
      funext fun user => propext (only.users other same user)
    unfold SlotInvAt
    rw [only.creators other same, only.monitors other same, only.devices other same,
      propext (only.listed other same), propext (only.queued other same), holders,
      claimed other same]
    exact inv other

theorem heldBit_eq_update {device : DeviceId}
    (only : OnlyDevice before.system after.system device)
    (claimed : ∀ other, other ≠ device → after.claimed other = before.claimed other) :
    after.heldBit = Function.update before.heldBit device (after.heldBit device) := by
  funext other
  by_cases same : other = device
  · rw [same, Function.update_self]
  · rw [Function.update_of_ne same]
    simp only [AddressState.heldBit, only.creators other same, only.monitors other same,
      claimed other same]

theorem ConnectionIds.keep {before after : LifecycleState} (ids : ConnectionIds before)
    (counter : after.adapter.connectionId = before.adapter.connectionId)
    (kept : ∀ device value, after.adapter.devices device = some value →
      (after.creators device).addressed = true → ∃ old, before.adapter.devices device = some old ∧
        (before.creators device).addressed = true ∧ value.connectionId = old.connectionId) :
    ConnectionIds after where
  bounded device value stored addressed := by
    obtain ⟨old, found, was, same⟩ := kept device value stored addressed
    rw [same, counter]
    exact ids.bounded device old found was
  distinct device other value otherValue stored otherStored addressed otherAddressed equal := by
    obtain ⟨old, found, was, same⟩ := kept device value stored addressed
    obtain ⟨otherOld, otherFound, otherWas, otherSame⟩ :=
      kept other otherValue otherStored otherAddressed
    exact ids.distinct device other old otherOld found otherFound was otherWas
      (same.symm.trans (equal.trans otherSame))

/-- A new id is greater than all that were given out. -/
theorem ConnectionIds.giveOut {before after : LifecycleState} {call : DeviceId}
    (ids : ConnectionIds before) (only : OnlyDevice before after call)
    (counter : after.adapter.connectionId = before.adapter.connectionId + 1)
    (goesOn : before.adapter.connectionId.toNat + 1 < 2 ^ 64)
    (newId : ∀ value, after.adapter.devices call = some value →
      value.connectionId = after.adapter.connectionId) : ConnectionIds after := by
  have next : after.adapter.connectionId.toNat = before.adapter.connectionId.toNat + 1 := by
    rw [counter, UInt64.toNat_add]
    exact Nat.mod_eq_of_lt goesOn
  have older : ∀ other value, other ≠ call → after.adapter.devices other = some value →
      (after.creators other).addressed = true →
      before.adapter.devices other = some value ∧ (before.creators other).addressed = true ∧
        value.connectionId.toNat ≤ before.adapter.connectionId.toNat := by
    intro other value different stored addressed
    rw [only.devices other different] at stored
    rw [only.creators other different] at addressed
    exact ⟨stored, addressed, ids.bounded other value stored addressed⟩
  have apart : ∀ other value newValue, other ≠ call →
      after.adapter.devices other = some value → (after.creators other).addressed = true →
      after.adapter.devices call = some newValue → value.connectionId ≠ newValue.connectionId := by
    intro other value newValue different stored addressed given equal
    have bound := (older other value different stored addressed).2.2
    rw [equal, newId newValue given] at bound
    omega
  refine ⟨fun other value stored addressed => ?_,
    fun first second value otherValue stored otherStored addressed otherAddressed equal => ?_⟩
  · by_cases same : other = call
    · subst same
      rw [newId value stored]
    · have bound := (older other value same stored addressed).2.2
      omega
  · by_cases firstIs : first = call <;> by_cases secondIs : second = call
    · rw [firstIs, secondIs]
    · subst firstIs
      exact absurd equal.symm
        (apart second otherValue value secondIs otherStored otherAddressed stored)
    · subst secondIs
      exact absurd equal (apart first value otherValue firstIs stored addressed otherStored)
    · obtain ⟨firstStored, firstWas, -⟩ := older first value firstIs stored addressed
      obtain ⟨secondStored, secondWas, -⟩ :=
        older second otherValue secondIs otherStored otherAddressed
      exact ids.distinct first second value otherValue firstStored secondStored firstWas secondWas
        equal

theorem SlotInvAt.listed {device : DeviceId} (inv : SlotInvAt limits before device)
    (listed : device ∈ before.system.adapter.deviceList) :
    ∃ value bit, before.system.adapter.devices device = some value ∧
      (before.system.creators device).addressed = true ∧ before.heldBit device = some bit ∧
      bit < limits.numberOfDisks ∧ addressOf value = limits.address bit := by
  obtain ⟨linked, notUnlinked⟩ := inv.listed_iff.mp listed
  obtain ⟨addressed, holds, -⟩ := CreatorPc.addressed_of_linked _ linked
  obtain ⟨bit, claimed, inRange, -⟩ := inv.address holds
  obtain ⟨value, stored⟩ := Option.isSome_iff_exists.mp
    (inv.stored (CreatorPc.ownsDevice_of_linked _ linked) notUnlinked)
  refine ⟨value, bit, stored, addressed, ?_, inRange, inv.decoded addressed value bit stored claimed⟩
  rw [AddressState.heldBit, holds, notUnlinked]
  exact claimed

/-- A step that concerns one device and leaves the shared structures alone. -/
theorem AddressInv.local (inv : AddressInv limits before) (device : DeviceId)
    (only : OnlyDevice before.system after.system device)
    (claimed : ∀ other, other ≠ device → after.claimed other = before.claimed other)
    (list : after.system.adapter.deviceList = before.system.adapter.deviceList)
    (buckets : after.system.adapter.connIdHashBuckets = before.system.adapter.connIdHashBuckets)
    (bits : after.system.adapter.scsiBitMap = before.system.adapter.scsiBitMap)
    (held : after.heldBit device = before.heldBit device)
    (counter : after.system.adapter.connectionId = before.system.adapter.connectionId)
    (kept : ∀ value, after.system.adapter.devices device = some value →
      (after.system.creators device).addressed = true →
        ∃ old, before.system.adapter.devices device = some old ∧
          (before.system.creators device).addressed = true ∧
            value.connectionId = old.connectionId)
    (apart : Apart after.system)
    (event : after.system.adapter.globalDeviceRemovalEvent.WellFormed)
    (here : SlotInvAt limits after device) : AddressInv limits after := by
  have slot := SlotInvAt.others inv.slot only claimed here
  have allKept : ∀ other value, after.system.adapter.devices other = some value →
      (after.system.creators other).addressed = true →
        ∃ old, before.system.adapter.devices other = some old ∧
          (before.system.creators other).addressed = true ∧
            value.connectionId = old.connectionId := by
    intro other value stored addressed
    by_cases same : other = device
    · subst same
      exact kept value stored addressed
    · rw [only.devices other same] at stored
      rw [only.creators other same] at addressed
      exact ⟨value, stored, addressed, rfl⟩
  have allHeld : after.heldBit = before.heldBit := by
    rw [heldBit_eq_update only claimed, held, Function.update_eq_self]
  refine
    { slot := slot
      nodup := by rw [list]; exact inv.nodup
      index := ?_
      size := by rw [bits]; exact inv.size
      bits := by rw [bits, allHeld]; exact inv.bits
      ids := inv.ids.keep counter allKept
      apart := apart
      event := event }
  rw [list, buckets]
  refine inv.index.congr fun other member => ?_
  obtain ⟨value, bit, stored, addressed, -⟩ := (slot other).listed (by rw [list]; exact member)
  obtain ⟨old, found, -, same⟩ := allKept other value stored addressed
  unfold connIdHash
  rw [connectionIdOf_eq stored, connectionIdOf_eq found, same]

end Local

/-! ## Create calls -/

section Creator

attribute [local simp] CreatorPc.linked CreatorPc.ownsDevice

variable {limits : DiskLimits} {state after : AddressState} {call : DeviceId}

def AddressState.moveCreator (state : AddressState) (adapter : AdapterState) (call : DeviceId)
    (next : CreatorPc) : AddressState :=
  { state with system := (state.system.setAdapter adapter).setCreator call next }

/-- A step of a create call on the structures no other device uses. -/
structure CreatorLocal (state : AddressState) (adapter : AdapterState) (call : DeviceId) :
    Prop where
  running : (state.system.creators call).inFlight = true
  devices : ∀ other, other ≠ call →
    adapter.devices other = state.system.adapter.devices other
  list : adapter.deviceList = state.system.adapter.deviceList
  buckets : adapter.connIdHashBuckets = state.system.adapter.connIdHashBuckets
  event : adapter.globalDeviceRemovalEvent = state.system.adapter.globalDeviceRemovalEvent
  bits : adapter.scsiBitMap = state.system.adapter.scsiBitMap
  counter : adapter.connectionId = state.system.adapter.connectionId
  waiting : adapter.rundownProtection.waiting =
    state.system.adapter.rundownProtection.waiting

theorem Apart.moveCreator (apart : Apart state.system) (adapter : AdapterState) (call : DeviceId)
    (next : CreatorPc) (running : (state.system.creators call).inFlight = true)
    (event : adapter.globalDeviceRemovalEvent = state.system.adapter.globalDeviceRemovalEvent)
    (waiting : adapter.rundownProtection.waiting =
      state.system.adapter.rundownProtection.waiting) :
    Apart (state.moveCreator adapter call next).system := by
  refine apart.keep ⟨waiting, rfl⟩ (fun set => ?_) fun other flies => ?_
  · rw [← event]
    exact set
  · by_cases same : other = call
    · rw [same]
      exact running
    · simp only [AddressState.moveCreator, setCreator, Function.update_of_ne same] at flies
      exact flies

theorem AddressInv.creatorLocal (inv : AddressInv limits state) (adapter : AdapterState)
    (next : CreatorPc) (step : CreatorLocal state adapter call)
    (held : next.holdsAddress = (state.system.creators call).holdsAddress)
    (kept : ∀ value, adapter.devices call = some value → next.addressed = true →
      ∃ old, state.system.adapter.devices call = some old ∧
        (state.system.creators call).addressed = true ∧ value.connectionId = old.connectionId)
    (here : SlotInv limits next (state.system.monitors call) (adapter.devices call)
      (state.claimed call) (call ∈ state.system.adapter.deviceList)
      (call ∈ state.system.adapter.globalDeviceRemovalEvent.waiters)
      (fun user => state.system.users user = .holding call)) :
    AddressInv limits (state.moveCreator adapter call next) := by
  have pc : (state.moveCreator adapter call next).system.creators call = next :=
    Function.update_self ..
  refine inv.local call
    (onlyDevice_setCreator adapter call next step.devices (fun _ _ => by rw [step.list])
      step.event) (fun _ _ => rfl) step.list step.buckets step.bits ?_ step.counter ?_
    (inv.apart.moveCreator adapter call next step.running step.event step.waiting)
    (step.event ▸ inv.event) ?_
  · simp only [AddressState.heldBit, pc, held]
    rfl
  · rw [pc]
    exact kept
  · unfold SlotInvAt
    rw [pc]
    simp only [AddressState.moveCreator, setCreator, setAdapter, step.list, step.event]
    exact here

theorem AddressInv.creatorAdvances (inv : AddressInv limits state) (adapter : AdapterState)
    (next : CreatorPc) (step : CreatorLocal state adapter call)
    (device : adapter.devices call = state.system.adapter.devices call)
    (advances : (state.system.creators call).Advances next)
    (held : next.holdsAddress = (state.system.creators call).holdsAddress)
    (deviceless : next.deviceless = true → state.system.adapter.devices call = none) :
    AddressInv limits (state.moveCreator adapter call next) := by
  refine inv.creatorLocal adapter next step held (fun value stored addressed => ?_) ?_
  · rw [device] at stored
    exact ⟨value, stored, advances.addressed addressed, rfl⟩
  · rw [device]
    exact (inv.slot call).advance next advances deviceless

theorem AddressInv.creatorWrites (inv : AddressInv limits state) (next : CreatorPc)
    (change : WnbdDiskDevice → WnbdDiskDevice)
    (running : (state.system.creators call).inFlight = true)
    (advances : (state.system.creators call).Advances next)
    (held : next.holdsAddress = (state.system.creators call).holdsAddress)
    (deviceless : next.deviceless = false)
    (sameId : ∀ device, (change device).connectionId = device.connectionId)
    (address : ∀ device, addressOf (change device) = addressOf device)
    (event : ∀ device, (change device).deviceRemovalEvent = device.deviceRemovalEvent)
    (thread : next.unreferenced = true → ∀ device,
      (change device).deviceMonitorThread = device.deviceMonitorThread) :
    AddressInv limits (state.moveCreator (state.system.adapter.updateDevice call change) call
      next) := by
  have step : CreatorLocal state (state.system.adapter.updateDevice call change) call :=
    ⟨running, fun other => updateDevice_of_ne _ call other _, rfl, rfl, rfl, rfl, rfl, rfl⟩
  refine inv.creatorLocal _ next step held (fun value stored addressed => ?_) ?_
  · rw [updateDevice_self] at stored
    obtain ⟨old, found, rfl⟩ := Option.map_eq_some_iff.mp stored
    exact ⟨old, found, advances.addressed addressed, sameId old⟩
  · rw [updateDevice_self]
    refine ((inv.slot call).advance next advances ?_).write change address (fun _ => event) thread
    intro absent
    rw [deviceless] at absent
    cases absent

def AddressState.claimBit (state : AddressState) (call : DeviceId) (bit : Nat) : AddressState :=
  { system := (state.system.setAdapter (state.system.adapter.claimBit bit)).setCreator call
      (.assignAddress bit)
    claimed := Function.update state.claimed call (some bit) }

theorem AddressInv.claim (inv : AddressInv limits state)
    (pc : state.system.creators call = .claimAddress) (bit : Nat)
    (found : BitMap.findClear state.system.adapter.scsiBitMap = some bit) :
    AddressInv limits (state.claimBit call bit) := by
  have old := inv.slot call
  unfold SlotInvAt at old
  rw [pc] at old
  have inRange : bit < limits.numberOfDisks := inv.size ▸ BitMap.findClear_lt _ bit found
  have only : OnlyDevice state.system (state.claimBit call bit).system call :=
    onlyDevice_setCreator _ call _ (fun _ _ => rfl) (fun _ _ => Iff.rfl) rfl
  have claimed : ∀ other, other ≠ call →
      (state.claimBit call bit).claimed other = state.claimed other :=
    fun other different => Function.update_of_ne different _ _
  have here : SlotInvAt limits (state.claimBit call bit) call := by
    unfold SlotInvAt
    simp only [AddressState.claimBit, setCreator, Function.update_self]
    exact old.claim bit inRange
  have free : state.heldBit call = none := by
    rw [AddressState.heldBit, pc]
    rfl
  refine
    { slot := SlotInvAt.others inv.slot only claimed here
      nodup := inv.nodup
      index := inv.index
      size := (BitMap.setBit_length _ bit).trans inv.size
      bits := ?_
      ids := ?_
      apart := inv.apart.moveCreator _ call _ (by rw [pc]; rfl) rfl rfl
      event := inv.event }
  · rw [heldBit_eq_update only claimed]
    have held : (state.claimBit call bit).heldBit call = some bit := by
      simp only [AddressState.heldBit, AddressState.claimBit, setCreator, Function.update_self]
      change (if (true && !(state.system.monitors call).unlinked) = true then some bit else none) =
        some bit
      rw [old.notUnlinked rfl]
      rfl
    rw [held]
    exact inv.bits.claim bit found call free
  · refine inv.ids.keep rfl fun device value stored addressed => ?_
    have different : device ≠ call := by
      rintro rfl
      simp [AddressState.claimBit, setCreator] at addressed
    simp only [AddressState.claimBit, setCreator, Function.update_of_ne different] at addressed
    exact ⟨value, stored, addressed, rfl⟩

theorem AddressInv.claimNone (inv : AddressInv limits state)
    (pc : state.system.creators call = .claimAddress) (status : NtStatus) :
    AddressInv limits
      { system := state.system.setCreator call (.exitDevice none status)
        claimed := Function.update state.claimed call none } := by
  have old := inv.slot call
  unfold SlotInvAt at old
  rw [pc] at old
  refine inv.local call
    (onlyDevice_setCreator state.system.adapter call _ (fun _ _ => rfl) (fun _ _ => Iff.rfl) rfl)
    (fun other different => Function.update_of_ne different _ _) rfl rfl rfl ?_ rfl ?_
    (inv.apart.moveCreator state.system.adapter call _ (by rw [pc]; rfl) rfl rfl) inv.event ?_
  · simp only [AddressState.heldBit, setCreator, Function.update_self, pc]
    rfl
  · intro value _ addressed
    simp [setCreator] at addressed
  · unfold SlotInvAt
    simp only [setCreator, Function.update_self]
    exact old.claimNone status

theorem AddressInv.clear (inv : AddressInv limits state) (bit : Nat) (status : NtStatus)
    (pc : state.system.creators call = .exitClear (some bit) status) :
    AddressInv limits
      (state.moveCreator (state.system.adapter.clearBit bit) call (.exitRelease status)) := by
  have old := inv.slot call
  unfold SlotInvAt at old
  rw [pc] at old
  have only : OnlyDevice state.system
      (state.moveCreator (state.system.adapter.clearBit bit) call (.exitRelease status)).system
      call := onlyDevice_setCreator _ call _ (fun _ _ => rfl) (fun _ _ => Iff.rfl) rfl
  have here : SlotInvAt limits
      (state.moveCreator (state.system.adapter.clearBit bit) call (.exitRelease status)) call := by
    unfold SlotInvAt
    simp only [AddressState.moveCreator, setCreator, Function.update_self]
    exact old.advance _ (by constructor <;> simp)
      fun _ => old.discarded rfl
  have held : state.heldBit call = some bit := by
    obtain ⟨given, claimed, -, own⟩ := old.address rfl
    have same : bit = given := own bit rfl
    rw [AddressState.heldBit, pc, old.notUnlinked rfl, claimed, ← same]
    rfl
  refine
    { slot := SlotInvAt.others inv.slot only (fun _ _ => rfl) here
      nodup := inv.nodup
      index := inv.index
      size := (BitMap.clearBit_length _ bit).trans inv.size
      bits := ?_
      ids := ?_
      apart := inv.apart.moveCreator _ call _ (by rw [pc]; rfl) rfl rfl
      event := inv.event }
  · rw [heldBit_eq_update only fun _ _ => rfl]
    have given : (state.moveCreator (state.system.adapter.clearBit bit) call
        (.exitRelease status)).heldBit call = none := by
      simp [AddressState.heldBit, AddressState.moveCreator, setCreator]
    rw [given]
    exact inv.bits.release bit call held
  · refine inv.ids.keep rfl fun device value stored addressed => ?_
    have different : device ≠ call := by
      rintro rfl
      simp [AddressState.moveCreator, setCreator] at addressed
    simp only [AddressState.moveCreator, setCreator, Function.update_of_ne different] at addressed
    exact ⟨value, stored, addressed, rfl⟩

theorem AddressInv.assign (inv : AddressInv limits state) (bit : Nat) (next : CreatorPc)
    (pc : state.system.creators call = .assignAddress bit)
    (goesOn : state.system.adapter.connectionId.toNat + 1 < 2 ^ 64)
    (follows : next = .startThread bit ∨ ∃ status, next = .exitDevice (some bit) status) :
    AddressInv limits
      (state.moveCreator (assignAddressAt limits state.system.adapter call bit) call next) := by
  have old := inv.slot call
  unfold SlotInvAt at old
  rw [pc] at old
  have only : OnlyDevice state.system
      (state.moveCreator (assignAddressAt limits state.system.adapter call bit) call next).system
      call := onlyDevice_setCreator _ call _ (fun other => updateDevice_of_ne _ call other _)
        (fun _ _ => Iff.rfl) rfl
  have device : (assignAddressAt limits state.system.adapter call bit).devices call =
      (state.system.adapter.devices call).map fun value =>
        { value with
          bus := (limits.address bit).1
          target := (limits.address bit).2.1
          lun := (limits.address bit).2.2
          connectionId := state.system.adapter.connectionId + 1 } := updateDevice_self _ _ _
  have here : SlotInvAt limits (state.moveCreator
      (assignAddressAt limits state.system.adapter call bit) call next) call := by
    unfold SlotInvAt
    simp only [AddressState.moveCreator, setCreator, Function.update_self, setAdapter, device]
    exact old.assign next _ follows (fun _ => rfl) (fun _ => rfl) fun _ => rfl
  have unlisted : call ∉ state.system.adapter.deviceList := fun listed => by
    cases (old.listed_iff.mp listed).1
  have holds : next.holdsAddress = true := by
    rcases follows with rfl | ⟨status, rfl⟩ <;> rfl
  refine
    { slot := SlotInvAt.others inv.slot only (fun _ _ => rfl) here
      nodup := inv.nodup
      index := ?_
      size := inv.size
      bits := ?_
      ids := ?_
      apart := inv.apart.moveCreator _ call _ (by rw [pc]; rfl) rfl rfl
      event := inv.event }
  · refine inv.index.congr fun other member => ?_
    have different : other ≠ call := by
      rintro rfl
      exact unlisted member
    unfold connIdHash connectionIdOf
    rw [only.devices other different]
  · have same : (state.moveCreator (assignAddressAt limits state.system.adapter call bit) call
        next).heldBit call = state.heldBit call := by
      simp only [AddressState.heldBit, AddressState.moveCreator, setCreator, Function.update_self,
        holds, pc]
      rfl
    rw [heldBit_eq_update only fun _ _ => rfl, same, Function.update_eq_self]
    exact inv.bits
  · refine inv.ids.giveOut only rfl goesOn fun value stored => ?_
    have stored := device.symm.trans stored
    obtain ⟨_, _, rfl⟩ := Option.map_eq_some_iff.mp stored
    rfl

theorem AddressInv.link (inv : AddressInv limits state)
    (pc : state.system.creators call = .link) :
    AddressInv limits (state.moveCreator (state.system.adapter.linkDevice call) call .count) := by
  have old := inv.slot call
  unfold SlotInvAt at old
  rw [pc] at old
  have unlisted : call ∉ state.system.adapter.deviceList := fun listed => by
    cases (old.listed_iff.mp listed).1
  have only : OnlyDevice state.system
      (state.moveCreator (state.system.adapter.linkDevice call) call .count).system call := by
    refine onlyDevice_setCreator _ call _ (fun _ _ => rfl) (fun other different => ?_) rfl
    change other ∈ state.system.adapter.deviceList ++ [call] ↔ _
    rw [List.mem_append, List.mem_singleton]
    exact or_iff_left different
  have here : SlotInvAt limits
      (state.moveCreator (state.system.adapter.linkDevice call) call .count) call := by
    unfold SlotInvAt
    simp only [AddressState.moveCreator, setCreator, Function.update_self]
    have listed : call ∈ state.system.adapter.deviceList ++ [call] := by simp
    change SlotInv limits .count _ _ _ (call ∈ state.system.adapter.deviceList ++ [call]) _ _
    rw [eq_true listed]
    exact old.link
  refine
    { slot := SlotInvAt.others inv.slot only (fun _ _ => rfl) here
      nodup := ?_
      index := ?_
      size := inv.size
      bits := ?_
      ids := ?_
      apart := inv.apart.moveCreator _ call _ (by rw [pc]; rfl) rfl rfl
      event := inv.event }
  · exact inv.nodup.append (List.nodup_singleton call) (List.disjoint_singleton.mpr unlisted)
  · exact inv.index.insert call
  · have same : (state.moveCreator (state.system.adapter.linkDevice call) call .count).heldBit
        call = state.heldBit call := by
      simp only [AddressState.heldBit, AddressState.moveCreator, setCreator, Function.update_self,
        pc]
      rfl
    rw [heldBit_eq_update only fun _ _ => rfl, same, Function.update_eq_self]
    exact inv.bits
  · refine inv.ids.keep rfl fun device value stored addressed => ?_
    by_cases same : device = call
    · subst same
      exact ⟨value, stored, by rw [pc]; rfl, rfl⟩
    · simp only [AddressState.moveCreator, setCreator, Function.update_of_ne same] at addressed
      exact ⟨value, stored, addressed, rfl⟩

theorem AddressInv.startThread (inv : AddressInv limits state) (bit : Nat)
    (pc : state.system.creators call = .startThread bit) :
    AddressInv limits { state with system :=
      (state.system.setMonitor call .start).setCreator call (.referenceThread bit) } := by
  have old := inv.slot call
  unfold SlotInvAt at old
  rw [pc] at old
  refine inv.local call
    { creators := fun other different => Function.update_of_ne different _ _
      monitors := fun other different => Function.update_of_ne different _ _
      devices := fun _ _ => rfl
      listed := fun _ _ => Iff.rfl
      queued := fun _ _ => Iff.rfl
      users := fun _ _ _ => Iff.rfl } (fun _ _ => rfl) rfl rfl rfl ?_ rfl ?_ ?_ inv.event ?_
  · simp only [AddressState.heldBit, setCreator, setMonitor, Function.update_self, pc,
      old.notUnlinked rfl]
    rfl
  · intro value stored _
    exact ⟨value, stored, by rw [pc]; rfl, rfl⟩
  · refine inv.apart.keep ⟨rfl, rfl⟩ id fun other flies => ?_
    by_cases same : other = call
    · rw [same, pc]
      rfl
    · simp only [setCreator, setMonitor, Function.update_of_ne same] at flies
      exact flies
  · unfold SlotInvAt
    simp only [setCreator, setMonitor, Function.update_self]
    exact old.startThread

theorem acquireRundown_bits (adapter : AdapterState) :
    adapter.acquireRundown.2.scsiBitMap = adapter.scsiBitMap ∧
      adapter.acquireRundown.2.connectionId = adapter.connectionId := by
  unfold acquireRundown
  split <;> exact ⟨rfl, rfl⟩

theorem Apart.begin {before after : LifecycleState} (apart : Apart before)
    (idle : before.cleanup = .idle) (call : DeviceId) (props : WnbdProperties)
    (taken : createBegin before call props = some after) : Apart after := by
  have keeps := createBegin_keepsRundown call props taken
  have event : after.adapter.globalDeviceRemovalEvent =
      before.adapter.globalDeviceRemovalEvent := by
    unfold createBegin at taken
    dsimp only at taken
    split_ifs at taken <;> cases taken <;> exact (acquireRundown_same before.adapter).event
  refine ⟨fun set => ?_, fun waiting => ?_, fun begun other => ?_⟩
  · rw [keeps.cleanup, keeps.refusing]
    rw [event] at set
    exact apart.signaled set
  · rw [keeps.refusing]
    exact apart.waiting (keeps.cleanup ▸ waiting)
  · rw [keeps.cleanup, keeps.refusing] at begun
    have refusing : Refusing before := begun.resolve_left fun notIdle => notIdle idle
    obtain ⟨kept, rfl⟩ := createBegin_refusing call props refusing taken
    by_cases same : other = call
    · simp [setCreator, same, CreatorPc.inFlight]
    · simp only [setCreator, Function.update_of_ne same]
      exact apart.quiet begun other

theorem AddressInv.begin (inv : AddressInv limits state) (props : WnbdProperties)
    (idle : state.system.cleanup = .idle) (system : LifecycleState)
    (taken : createBegin state.system call props = some system) :
    AddressInv limits { state with system } := by
  have apart := inv.apart.begin idle call props taken
  have old := inv.slot call
  unfold SlotInvAt at old
  have same := acquireRundown_same state.system.adapter
  have bits := acquireRundown_bits state.system.adapter
  obtain ⟨pc, begun⟩ := Option.ite_none_right_eq_some.mp taken
  rw [pc] at old
  have moved : ∀ next, system =
      (state.system.setAdapter state.system.adapter.acquireRundown.2).setCreator call next →
      CreatorPc.idle.Advances next → next.holdsAddress = false →
      AddressInv limits { state with system } := by
    rintro next rfl advances held
    refine inv.local call
      (onlyDevice_setCreator _ call next (fun _ _ => by rw [same.devices])
        (fun _ _ => by rw [same.list]) same.event) (fun _ _ => rfl) same.list same.buckets
        bits.1 ?_ bits.2 ?_ apart (same.event ▸ inv.event) ?_
    · simp only [AddressState.heldBit, setCreator, Function.update_self, held, pc]
      rfl
    · intro value stored addressed
      simp only [setCreator, Function.update_self] at addressed
      cases advances.addressed addressed
    · unfold SlotInvAt
      simp only [setCreator, setAdapter, Function.update_self, same.devices, same.list, same.event]
      exact old.advance next advances fun _ => old.discarded rfl
  dsimp only at begun
  split_ifs at begun
  · exact moved _ (Option.some.inj begun).symm
      (by constructor <;> simp) rfl
  · exact moved _ (Option.some.inj begun).symm
      (by constructor <;> simp) rfl
  · exact moved _ (Option.some.inj begun).symm
      (by constructor <;> simp) rfl

theorem claimedAfter_of_not_claims (fails : Bool)
    (claims : (state.system.creators call).claims = false) :
    claimedAfter state (.creator call fails) = state.claimed := by
  rw [claimedAfter, claims]
  rfl

theorem CreatorLocal.unchanged (running : (state.system.creators call).inFlight = true) :
    CreatorLocal state state.system.adapter call :=
  ⟨running, fun _ _ => rfl, rfl, rfl, rfl, rfl, rfl, rfl⟩

theorem AddressInv.creatorMove (inv : AddressInv limits state) {fails : Bool} {pc next : CreatorPc}
    (here : state.system.creators call = pc) (move : CreatorMove state.system fails pc next) :
    AddressInv limits (state.moveCreator state.system.adapter call next) := by
  have old := inv.slot call
  unfold SlotInvAt at old
  rw [here] at old
  refine inv.creatorAdvances state.system.adapter _
    (.unchanged (by rw [here]; cases move <;> rfl)) rfl
    (by rw [here]; cases move <;> constructor <;> simp) (by rw [here]; cases move <;> rfl) ?_
  intro deviceless
  cases move with
  | nameTaken | nameFree | noDevice | noBit => exact old.discarded rfl
  | _ => cases deviceless

theorem AddressInv.creatorWrite (inv : AddressInv limits state) {pc next : CreatorPc}
    {change : WnbdDiskDevice → WnbdDiskDevice} (here : state.system.creators call = pc)
    (write : CreatorWrite pc next change) :
    AddressInv limits
      (state.moveCreator (state.system.adapter.updateDevice call change) call next) := by
  cases write with
  | inquiry =>
      exact inv.creatorWrites .claimAddress ({ · with inquiryData := true })
        (by rw [here]; rfl) (by rw [here]; constructor <;> simp) (by rw [here]; rfl) rfl
        (fun _ => rfl) (fun _ => rfl) (fun _ => rfl) fun _ _ => rfl
  | thread bit =>
      exact inv.creatorWrites .populatePool ({ · with deviceMonitorThread := true })
        (by rw [here]; rfl) (by rw [here]; constructor <;> simp) (by rw [here]; rfl) rfl
        (fun _ => rfl) (fun _ => rfl) (fun _ => rfl) fun unset => by cases unset
  | connected =>
      exact inv.creatorWrites .done ({ · with connected := true })
        (by rw [here]; rfl) (by rw [here]; constructor <;> simp) (by rw [here]; rfl) rfl
        (fun _ => rfl) (fun _ => rfl) (fun _ => rfl) fun unset => by cases unset

theorem creatorStepAt_cases {limits : DiskLimits} {state after : LifecycleState}
    {call : DeviceId} {fails : Bool} (taken : creatorStepAt limits state call fails = some after) :
    (∃ bit next, state.creators call = .assignAddress bit ∧
      (next = .startThread bit ∨ ∃ status, next = .exitDevice (some bit) status) ∧
      after = (state.setAdapter (assignAddressAt limits state.adapter call bit)).setCreator call
        next) ∨
    (∀ bit, state.creators call ≠ .assignAddress bit) ∧ creatorStep state call fails = some after
    := by
  unfold creatorStepAt at taken
  dsimp only at taken
  cases here : state.creators call with
  | assignAddress bit =>
      simp only [here] at taken
      split_ifs at taken <;> cases taken
      · exact Or.inl ⟨bit, _, rfl, Or.inl rfl, rfl⟩
      · exact Or.inl ⟨bit, _, rfl, Or.inr ⟨_, rfl⟩, rfl⟩
  | _ =>
      simp only [here] at taken
      exact Or.inr ⟨nofun, taken⟩

theorem creatorStepAt_inv (inv : AddressInv limits state) (fails : Bool)
    (orderly : AddressOrderly state (.creator call fails)) (system : LifecycleState)
    (taken : creatorStepAt limits state.system call fails = some system) :
    AddressInv limits { system, claimed := claimedAfter state (.creator call fails) } := by
  have old := inv.slot call
  unfold SlotInvAt at old
  rcases creatorStepAt_cases taken with
    ⟨bit, next, here, moved, rfl⟩ | ⟨elsewhere, stepped⟩
  · rw [claimedAfter_of_not_claims fails (by rw [here]; rfl)]
    exact inv.assign bit next here (orderly.counter (by rw [here]; rfl)) moved
  cases creatorStep_cases stepped with
  | accepts bit here | refuses bit here => exact absurd here (elsewhere bit)
  | noAddress here full =>
      have claimed : claimedAfter state (.creator call fails) =
          Function.update state.claimed call none := by
        rw [claimedAfter, here, full]
        rfl
      rw [claimed]
      exact inv.claimNone here _
  | claims bit here found =>
      have claimed : claimedAfter state (.creator call fails) =
          Function.update state.claimed call (some bit) := by
        rw [claimedAfter, here, found]
        rfl
      rw [claimed]
      exact inv.claim here bit found
  | moves pc next here move =>
      rw [claimedAfter_of_not_claims fails (by rw [here]; cases move <;> rfl)]
      exact inv.creatorMove here move
  | writes pc next change here write =>
      rw [claimedAfter_of_not_claims fails (by rw [here]; cases write <;> rfl)]
      exact inv.creatorWrite here write
  | allocates props here =>
      rw [here] at old
      rw [claimedAfter_of_not_claims fails (by rw [here]; rfl)]
      refine inv.creatorLocal _ .allocateInquiry
        ⟨by rw [here]; rfl, fun other => setDevice_of_ne _ call other _, rfl, rfl, rfl, rfl, rfl,
          rfl⟩ (by rw [here]; rfl) (fun _ _ addressed => by cases addressed) ?_
      simp only [setDevice, Function.update_self]
      exact old.allocate
  | starts bit here =>
      rw [claimedAfter_of_not_claims fails (by rw [here]; rfl)]
      exact inv.startThread bit here
  | links here =>
      rw [claimedAfter_of_not_claims fails (by rw [here]; rfl)]
      exact inv.link here
  | counts here =>
      rw [claimedAfter_of_not_claims fails (by rw [here]; rfl)]
      exact inv.creatorAdvances _ _
        ⟨by rw [here]; rfl, fun _ _ => rfl, rfl, rfl, rfl, rfl, rfl, rfl⟩ rfl
        (by rw [here]; constructor <;> simp) (by rw [here]; rfl) fun absent => by cases absent
  | leaves bit status here stored =>
      rw [here] at old
      cases found : state.system.adapter.devices call with
      | none => simp [found] at stored
      | some device => simp [found, old.unreferenced rfl device found] at stored
  | frees bit status here =>
      rw [here] at old
      rw [claimedAfter_of_not_claims fails (by rw [here]; rfl)]
      refine inv.creatorLocal _ (.exitClear bit status)
        ⟨by rw [here]; rfl, fun other => setDevice_of_ne _ call other _, rfl, rfl, rfl, rfl, rfl,
          rfl⟩ (by rw [here]; cases bit <;> rfl) (fun _ _ addressed => by cases addressed) ?_
      simp only [setDevice, Function.update_self]
      exact old.discard
  | clears bit status here =>
      rw [claimedAfter_of_not_claims fails (by rw [here]; rfl)]
      exact inv.clear bit status here
  | releases status here =>
      rw [here] at old
      rw [claimedAfter_of_not_claims fails (by rw [here]; rfl)]
      exact inv.creatorAdvances _ _
        ⟨by rw [here]; rfl, fun _ _ => rfl, rfl, rfl, rfl, rfl, rfl, rfl⟩ rfl
        (by rw [here]; constructor <;> simp) (by rw [here]; rfl) fun _ => old.discarded rfl

end Creator

end Wnbd.Adapter
