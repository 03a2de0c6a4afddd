import Wnbd.Adapter.AddressRuns
import Wnbd.Adapter.Lifetime

/-!
# The address map agrees with the device list

What a run leaves in the bit map, in the addresses and ids of the registered
devices and in the connection id buckets, for any limits of the address space.
-/

set_option autoImplicit false

namespace Wnbd.Adapter

open Wnbd.Scsi AdapterState LifecycleState StepSystem

def findDevice (adapter : AdapterState) (key : LookupKey) : Option DeviceId :=
  (lookupChain adapter key).find? fun device => (adapter.devices device).any key.matches

def searchDeviceList (adapter : AdapterState) (key : LookupKey) : Option DeviceId :=
  adapter.deviceList.find? fun device => (adapter.devices device).any key.matches

/-- A create call in progress that has a bit of the map. -/
def CreatorPc.addressPending (pc : CreatorPc) : Bool := pc.beforeLink && pc.holdsAddress

/-- `decoded` and `cleared` are about one bit: the one the create call decoded
into the address, and the one the monitor computes from it. -/
structure AddressMapAgrees (limits : DiskLimits) (state : AddressState) : Prop where
  allocated : ∀ device ∈ state.system.adapter.deviceList,
    (state.system.adapter.devices device).isSome = true
  addresses : ∀ device ∈ state.system.adapter.deviceList,
    ∀ other ∈ state.system.adapter.deviceList, ∀ value otherValue,
      state.system.adapter.devices device = some value →
      state.system.adapter.devices other = some otherValue →
        addressOf value = addressOf otherValue → device = other
  connectionIds : ∀ device ∈ state.system.adapter.deviceList,
    ∀ other ∈ state.system.adapter.deviceList, ∀ value otherValue,
      state.system.adapter.devices device = some value →
      state.system.adapter.devices other = some otherValue →
        value.connectionId = otherValue.connectionId → device = other
  bits : ∀ bit, state.system.adapter.scsiBitMap[bit]? = some true ↔
    (∃ device ∈ state.system.adapter.deviceList, ∃ value,
      state.system.adapter.devices device = some value ∧
        limits.bitNumber (addressOf value) = bit) ∨
    ∃ call, (state.system.creators call).addressPending = true ∧ state.claimed call = some bit
  decoded : ∀ device value, (state.system.creators device).addressed = true →
    state.system.adapter.devices device = some value →
      ∃ bit, state.claimed device = some bit ∧ bit < limits.numberOfDisks ∧
        addressOf value = limits.address bit
  cleared : ∀ device value, state.system.monitors device = .unlink →
    state.system.adapter.devices device = some value →
      ∃ bit, state.claimed device = some bit ∧
        state.system.adapter.scsiBitMap[bit]? = some true ∧
        (unlinkDeviceAt limits state.system.adapter device).scsiBitMap =
          BitMap.clearBit state.system.adapter.scsiBitMap bit
  lookup : ∀ connectionId, findDevice state.system.adapter (.connId connectionId) =
    searchDeviceList state.system.adapter (.connId connectionId)

section Agreement

variable {limits : DiskLimits} {state : AddressState}

theorem AddressInv.connectionIds (inv : AddressInv limits state) (device other : DeviceId)
    (member : device ∈ state.system.adapter.deviceList)
    (otherMember : other ∈ state.system.adapter.deviceList) (value otherValue : WnbdDiskDevice)
    (stored : state.system.adapter.devices device = some value)
    (otherStored : state.system.adapter.devices other = some otherValue)
    (same : value.connectionId = otherValue.connectionId) : device = other := by
  obtain ⟨_, _, _, addressed, -⟩ := (inv.slot device).listed member
  obtain ⟨_, _, _, otherAddressed, -⟩ := (inv.slot other).listed otherMember
  exact inv.ids.distinct device other value otherValue stored otherStored addressed otherAddressed
    same

theorem AddressInv.addresses (inv : AddressInv limits state) (device other : DeviceId)
    (member : device ∈ state.system.adapter.deviceList)
    (otherMember : other ∈ state.system.adapter.deviceList) (value otherValue : WnbdDiskDevice)
    (stored : state.system.adapter.devices device = some value)
    (otherStored : state.system.adapter.devices other = some otherValue)
    (same : addressOf value = addressOf otherValue) : device = other := by
  obtain ⟨found, bit, foundExact, -, held, inRange, address⟩ := (inv.slot device).listed member
  obtain ⟨otherFound, otherBit, otherExact, -, otherHeld, otherInRange, otherAddress⟩ :=
    (inv.slot other).listed otherMember
  rw [stored] at foundExact
  rw [otherStored] at otherExact
  cases foundExact
  cases otherExact
  -- Equal addresses have equal bits, and a bit has one holder.
  have sameBit : bit = otherBit := by
    rw [← limits.bitNumber_address bit inRange, ← address, same, otherAddress,
      limits.bitNumber_address otherBit otherInRange]
  exact inv.bits.exclusive device other bit held (sameBit ▸ otherHeld)

theorem AddressInv.bits_iff (inv : AddressInv limits state) (bit : Nat) :
    state.system.adapter.scsiBitMap[bit]? = some true ↔
      (∃ device ∈ state.system.adapter.deviceList, ∃ value,
        state.system.adapter.devices device = some value ∧
          limits.bitNumber (addressOf value) = bit) ∨
      ∃ call, (state.system.creators call).addressPending = true ∧
        state.claimed call = some bit := by
  rw [inv.bits.set_iff bit]
  constructor
  · rintro ⟨holder, held⟩
    have old := inv.slot holder
    unfold AddressState.heldBit at held
    split_ifs at held with both
    rw [Bool.and_eq_true, Bool.not_eq_true'] at both
    cases before : (state.system.creators holder).beforeLink with
    | true =>
        refine Or.inr ⟨holder, ?_, held⟩
        rw [CreatorPc.addressPending, before, both.1]
        rfl
    | false =>
        rcases CreatorPc.linked_or_deviceless _ before with linked | ⟨free, -⟩
        · have member := old.listed_iff.mpr ⟨linked, both.2⟩
          obtain ⟨value, number, stored, -, holds, inRange, address⟩ := old.listed member
          rw [AddressState.heldBit, both.1, both.2] at holds
          have same : number = bit := Option.some.inj (holds.symm.trans held)
          refine Or.inl ⟨holder, member, value, stored, ?_⟩
          rw [address, limits.bitNumber_address number inRange, same]
        · rw [both.1] at free
          cases free
  · rintro (⟨device, member, value, stored, decodes⟩ | ⟨call, pending, claimed⟩)
    · obtain ⟨found, number, foundExact, -, holds, inRange, address⟩ :=
        (inv.slot device).listed member
      rw [stored] at foundExact
      cases foundExact
      rw [address, limits.bitNumber_address number inRange] at decodes
      exact ⟨device, decodes ▸ holds⟩
    · rw [CreatorPc.addressPending, Bool.and_eq_true] at pending
      refine ⟨call, ?_⟩
      rw [AddressState.heldBit, pending.2, (inv.slot call).notUnlinked pending.1]
      exact claimed

theorem AddressInv.cleared (inv : AddressInv limits state) (device : DeviceId)
    (value : WnbdDiskDevice) (pc : state.system.monitors device = .unlink)
    (stored : state.system.adapter.devices device = some value) :
    ∃ bit, state.claimed device = some bit ∧
      state.system.adapter.scsiBitMap[bit]? = some true ∧
      (unlinkDeviceAt limits state.system.adapter device).scsiBitMap =
        BitMap.clearBit state.system.adapter.scsiBitMap bit := by
  have old := inv.slot device
  have linked : (state.system.creators device).linked = true := by
    rcases CreatorPc.linked_or_deviceless _ (old.released (by rw [pc]; rfl)) with
      linked | ⟨-, deviceless⟩
    · exact linked
    · rw [old.discarded deviceless] at stored
      cases stored
  have listed := old.listed_iff.mpr ⟨linked, by rw [pc]; rfl⟩
  obtain ⟨bit, held, cleared⟩ := SlotInvAt.cleared old listed
  have set := (inv.bits.set_iff bit).mpr ⟨device, held⟩
  rw [AddressState.heldBit, (CreatorPc.addressed_of_linked _ linked).2.1, pc] at held
  exact ⟨bit, held, set, cleared⟩

theorem AddressInv.findDevice_eq (inv : AddressInv limits state) (connectionId : UInt64) :
    findDevice state.system.adapter (.connId connectionId) =
      searchDeviceList state.system.adapter (.connId connectionId) := by
  have matching : ∀ device, (state.system.adapter.devices device).any
      (LookupKey.connId connectionId).matches = true → ∃ value,
        state.system.adapter.devices device = some value ∧ value.connectionId = connectionId := by
    intro device wanted
    obtain ⟨value, stored, isWanted⟩ := (Option.any_eq_true _ _).mp wanted
    exact ⟨value, stored, of_decide_eq_true isWanted⟩
  refine inv.index.find?_eq _ _ (fun device _ wanted => ?_)
    fun device member other otherMember wanted otherWanted => ?_
  · obtain ⟨value, stored, rfl⟩ := matching device wanted
    rw [connIdHash, connectionIdOf_eq stored]
  · obtain ⟨value, stored, rfl⟩ := matching device wanted
    obtain ⟨otherValue, otherStored, same⟩ := matching other otherWanted
    exact inv.connectionIds device other member otherMember value otherValue stored otherStored
      same.symm

theorem AddressInv.agrees (inv : AddressInv limits state) : AddressMapAgrees limits state where
  allocated := fun device member => by
    obtain ⟨value, _, stored, -⟩ := (inv.slot device).listed member
    rw [stored]
    rfl
  addresses := fun device member other otherMember =>
    inv.addresses device other member otherMember
  connectionIds := fun device member other otherMember =>
    inv.connectionIds device other member otherMember
  bits := inv.bits_iff
  decoded := fun device value addressed stored => by
    obtain ⟨bit, claimed, inRange, -⟩ :=
      (inv.slot device).address (CreatorPc.holdsAddress_of_addressed _ addressed)
    exact ⟨bit, claimed, inRange, (inv.slot device).decoded addressed value bit stored claimed⟩
  cleared := inv.cleared
  lookup := inv.findDevice_eq

/-- `AddressOrderly` of the driver's steps; the others are not the driver's. -/
def OrderlyDriver (state : AddressState) : AddressAction → Prop
  | .driver action => AddressOrderly state action
  | .foreign _ _ => True

/-- No bit of the map lies behind an array of whole `ULONG`s. -/
theorem addressInv_of_memoryPath (whole : 32 ∣ limits.numberOfDisks)
    (path : Path (addressMemoryNext limits) OrderlyDriver (AddressState.initial limits) state) :
    AddressInv limits state := by
  refine path.invariant (AddressInv limits) (addressInv_initial limits) ?_
  intro before action after orderly inv taken
  cases action with
  | driver action => exact addressNext_inv inv action orderly taken
  | foreign bit value =>
      obtain ⟨outside, _⟩ := Option.ite_none_right_eq_some.mp taken
      have behind := lt_of_le_of_lt outside.1 outside.2
      exact absurd whole ((limits.assignedScsiBits_lt_iff).mp behind)

end Agreement

theorem foreign_bit_disagrees (limits : DiskLimits)
    (ragged : limits.assignedScsiBits < limits.numberOfDisks) :
    ∃ state, Path (addressMemoryNext limits) OrderlyDriver (AddressState.initial limits) state ∧
      ¬ AddressMapAgrees limits state := by
  have enabled : addressMemoryNext limits (AddressState.initial limits)
      (.foreign limits.assignedScsiBits true) = some _ :=
    if_pos ⟨Nat.le_refl _, ragged⟩
  refine ⟨_, .step (.foreign limits.assignedScsiBits true) .refl trivial enabled, ?_⟩
  intro agrees
  have set : ((List.replicate limits.numberOfDisks false).set limits.assignedScsiBits true)[
      limits.assignedScsiBits]? = some true := by
    rw [List.getElem?_set_self (by rw [List.length_replicate]; exact ragged)]
  rcases (agrees.bits limits.assignedScsiBits).mp set with ⟨device, member, _⟩ | ⟨call, pending, _⟩
  · cases member
  · cases pending

/-- Along every run the bit map, the addresses, the ids and the buckets agree with the
device list, if and only if the array behind the map holds a bit for every disk. -/
theorem address_map_agrees_iff (limits : DiskLimits) :
    (∀ state, Path (addressMemoryNext limits) OrderlyDriver (AddressState.initial limits) state →
      AddressMapAgrees limits state) ↔ 32 ∣ limits.numberOfDisks := by
  constructor
  · intro agrees
    by_contra ragged
    obtain ⟨state, path, disagrees⟩ :=
      foreign_bit_disagrees limits (limits.assignedScsiBits_lt_iff.mpr ragged)
    exact disagrees (agrees state path)
  · intro whole state path
    exact (addressInv_of_memoryPath whole path).agrees

/-- One bus of 100 targets with a lun each: 96 bits of the map are in the array. -/
def hundredTargets : DiskLimits :=
  { wnbdLimits with targetsPerBus := 100, targets_pos := by decide, targets_fit := by decide }

/-- With 100 targets the array holds 96 bits, and other code may set the 97th. -/
theorem foreign_bit_of_hundred :
    ¬ ∀ (limits : DiskLimits) (state : AddressState),
      Path (addressMemoryNext limits) OrderlyDriver (AddressState.initial limits) state →
        AddressMapAgrees limits state := by
  intro agrees
  obtain ⟨state, path, disagrees⟩ := foreign_bit_disagrees hundredTargets (by decide)
  exact disagrees (agrees hundredTargets state path)

/-! ## Two disks, a failed create call and a reused address -/

/-- What can be computed of `AddressOrderly`, when no cleanup begins. -/
def orderlyWithoutCleanup (state : AddressState) : LifecycleAction → Bool
  | .create _ _ => state.system.cleanup = .idle
  | .creator call _ => !(state.system.creators call).assigns ||
      state.system.adapter.connectionId.toNat + 1 < 2 ^ 64
  | .cleanup _ => false
  | _ => true

theorem addressOrderly_of_withoutCleanup (state : AddressState) (action : LifecycleAction)
    (checked : orderlyWithoutCleanup state action = true) : AddressOrderly state action := by
  cases action with
  | create =>
      have idle : state.system.cleanup = .idle := of_decide_eq_true checked
      exact ⟨idle, trivial⟩
  | creator call fails =>
      refine ⟨trivial, fun assigns => ?_⟩
      rw [orderlyWithoutCleanup, assigns, Bool.not_true, Bool.false_or] at checked
      exact of_decide_eq_true checked
  | cleanup => cases checked
  | monitor | lookup | user => exact ⟨trivial, trivial⟩

def createSteps (call : DeviceId) (name : UInt8) (steps : Nat) : List LifecycleAction :=
  .create call { sectorProps 512 with instanceName := [name] } ::
    List.replicate steps (.creator call false)

/-- Disk 2 fails when its thread is created, and disk 3 gets the address of disk 0. -/
def reusedAddress : List LifecycleAction :=
  createSteps 0 1 12 ++ [.monitor 0] ++ createSteps 1 2 12 ++ createSteps 2 3 5 ++
    [.creator 2 true] ++ removeByAddr ++ List.replicate 12 (.monitor 0) ++
    List.replicate 3 (.creator 2 false) ++ createSteps 3 1 12

/-- What can be computed of `OrderlyDriver`, when no cleanup begins. -/
def orderlyDriverWithoutCleanup (state : AddressState) : AddressAction → Bool
  | .driver action => orderlyWithoutCleanup state action
  | .foreign _ _ => true

theorem orderlyDriver_of_withoutCleanup (state : AddressState) (action : AddressAction)
    (checked : orderlyDriverWithoutCleanup state action = true) : OrderlyDriver state action := by
  cases action with
  | driver action => exact addressOrderly_of_withoutCleanup state action checked
  | foreign => trivial

theorem address_map_agrees_reused :
    ∃ state, run (addressMemoryNext wnbdLimits) (AddressState.initial wnbdLimits)
      (reusedAddress.map .driver) = some state ∧ state.system.adapter.deviceList = [1, 3] ∧
        AddressMapAgrees wnbdLimits state := by
  have enabled : (run (addressMemoryNext wnbdLimits) (AddressState.initial wnbdLimits)
      (reusedAddress.map .driver)).isSome = true := by
    decide +kernel
  have permitted : AllAllowed (addressMemoryNext wnbdLimits)
      (fun state action => orderlyDriverWithoutCleanup state action = true)
      (AddressState.initial wnbdLimits) (reusedAddress.map .driver) := by
    decide +kernel
  obtain ⟨state, ran⟩ := Option.isSome_iff_exists.mp enabled
  have listed : state.system.adapter.deviceList = [1, 3] :=
    field_of_run (fun state : AddressState => state.system.adapter.deviceList) _ _
      (reusedAddress.map AddressAction.driver) _ ran (by decide +kernel)
  exact ⟨state, ran, listed, (address_map_agrees_iff wnbdLimits).mpr (by decide) state
    (path_of_run _ _ (reusedAddress.map .driver)
      (permitted.mono orderlyDriver_of_withoutCleanup _ (reusedAddress.map .driver)) ran)⟩

end Wnbd.Adapter
