import Wnbd.Routing.Calls
import Wnbd.Adapter.LifecycleInvariant

/-!
# The registered devices

The hash index over connection ids has exactly the listed devices, and no id is given
out twice while the counter does not wrap.  So a lookup by connection id finds the one
device with the id, unless it is being run down.
-/

set_option autoImplicit false

namespace Wnbd.Routing

open Wnbd.Scsi Wnbd.Dispatch Wnbd.Device Wnbd.Adapter AdapterState HashIndex

structure RegistryInv (adapter : AdapterState) (allocated : DeviceId) : Prop where
  nodup : adapter.deviceList.Nodup
  index : Indexes (connIdHash adapter) adapter.deviceList adapter.connIdHashBuckets
  stored : ∀ device ∈ adapter.deviceList, device < allocated ∧ ∃ value,
    adapter.devices device = some value ∧
      value.connectionId.toNat ≤ adapter.connectionId.toNat
  idsOnce : ∀ device ∈ adapter.deviceList, ∀ other ∈ adapter.deviceList,
    adapter.connectionIdOf device = adapter.connectionIdOf other → device = other

theorem registryInv_initial : RegistryInv AdapterState.initial 0 where
  nodup := List.nodup_nil
  index := indexes_nil _
  stored _ member := absurd member List.not_mem_nil
  idsOnce _ member := absurd member List.not_mem_nil

/-! ## Lookups -/

section Lookups

variable {adapter : AdapterState} {allocated : DeviceId}

theorem acquire_isSome (rundown : Rundown) :
    (∃ acquired, rundown.acquire = some acquired) ↔ rundown.waiting = false := by
  rw [Rundown.acquire]
  cases rundown.waiting <;> simp

theorem findDevice_sound (inv : RegistryInv adapter allocated) (key : LookupKey)
    (device : DeviceId) (value : WnbdDiskDevice)
    (found : findDevice adapter key = some (device, value)) :
    device ∈ adapter.deviceList ∧ adapter.devices device = some value ∧
      value.rundownProtection.waiting = false := by
  obtain ⟨chained, first, acquires⟩ := Option.bind_eq_some_iff.mp found
  obtain ⟨stored, present, referenced⟩ := Option.bind_eq_some_iff.mp acquires
  obtain ⟨acquired, taken, same⟩ := Option.map_eq_some_iff.mp referenced
  rw [Prod.mk.injEq] at same
  obtain ⟨rfl, rfl⟩ := same
  refine ⟨?_, present, (acquire_isSome _).mp ⟨acquired, taken⟩⟩
  have member := List.mem_of_find?_eq_some first
  cases key with
  | addr pathId targetId lun => exact member
  | connId connectionId => exact ((mem_bucket_iff _ _ _ inv.index _ _).mp member).1
  | instanceName name => exact member

/-- The bucket and the whole list hold the same device with an id. -/
theorem findDevice_connId_iff (inv : RegistryInv adapter allocated) (connectionId : UInt64)
    (device : DeviceId) (value : WnbdDiskDevice) :
    findDevice adapter (.connId connectionId) = some (device, value) ↔
      device ∈ adapter.deviceList ∧ adapter.devices device = some value ∧
        value.connectionId = connectionId ∧ value.rundownProtection.waiting = false := by
  have wanted : ∀ listed ∈ adapter.deviceList,
      ((adapter.devices listed).any (LookupKey.connId connectionId).matches = true ↔
        adapter.connectionIdOf listed = connectionId) := by
    intro listed member
    obtain ⟨_, stored, present, _⟩ := inv.stored listed member
    rw [present, connectionIdOf_eq present, Option.any_some]
    exact decide_eq_true_iff
  have walked : (lookupChain adapter (.connId connectionId)).find? (fun listed =>
      (adapter.devices listed).any (LookupKey.connId connectionId).matches) =
      adapter.deviceList.find? fun listed =>
        (adapter.devices listed).any (LookupKey.connId connectionId).matches := by
    refine inv.index.find?_eq _ _ ?_ ?_
    · intro listed member isWanted
      rw [connIdHash, (wanted listed member).mp isWanted]
    · intro listed member other otherMember isWanted otherWanted
      exact inv.idsOnce listed member other otherMember
        (((wanted listed member).mp isWanted).trans
          ((wanted other otherMember).mp otherWanted).symm)
  constructor
  · intro found
    obtain ⟨member, present, running⟩ := findDevice_sound inv _ device value found
    obtain ⟨chained, first, acquires⟩ := Option.bind_eq_some_iff.mp found
    obtain ⟨stored, chainedPresent, referenced⟩ := Option.bind_eq_some_iff.mp acquires
    obtain ⟨acquired, taken, same⟩ := Option.map_eq_some_iff.mp referenced
    rw [Prod.mk.injEq] at same
    obtain ⟨rfl, rfl⟩ := same
    have isWanted := List.find?_some first
    have matched := (wanted chained member).mp isWanted
    rw [connectionIdOf_eq present] at matched
    exact ⟨member, present, matched, running⟩
  · rintro ⟨member, present, matched, running⟩
    have isWanted := (wanted device member).mpr ((connectionIdOf_eq present).trans matched)
    have first : adapter.deviceList.find? (fun listed =>
        (adapter.devices listed).any (LookupKey.connId connectionId).matches) = some device := by
      cases search : adapter.deviceList.find? (fun listed =>
          (adapter.devices listed).any (LookupKey.connId connectionId).matches) with
      | none => exact absurd isWanted (List.find?_eq_none.mp search device member)
      | some other =>
          have otherMember := List.mem_of_find?_eq_some search
          have otherWanted := List.find?_some search
          rw [inv.idsOnce other otherMember device member
            (((wanted other otherMember).mp otherWanted).trans
              ((wanted device member).mp isWanted).symm)]
    obtain ⟨acquired, taken⟩ := (acquire_isSome value.rundownProtection).mpr running
    rw [findDevice, walked, first, Option.bind_some, present, Option.bind_some, taken,
      Option.map_some]

end Lookups

/-! ## Changes of the registry -/

/-- The fields of listed devices that calls after the create may change. -/
structure SameDevices (before after : AdapterState) : Prop where
  deviceList : after.deviceList = before.deviceList
  connIdHashBuckets : after.connIdHashBuckets = before.connIdHashBuckets
  connectionId : before.connectionId.toNat ≤ after.connectionId.toNat
  devices : ∀ device ∈ before.deviceList, ∀ value, before.devices device = some value →
    ∃ changed, after.devices device = some changed ∧
      changed.connectionId = value.connectionId ∧ changed.properties = value.properties

theorem SameDevices.connectionIdOf {before after : AdapterState} (same : SameDevices before after)
    {allocated : DeviceId} (inv : RegistryInv before allocated) (device : DeviceId)
    (member : device ∈ before.deviceList) :
    after.connectionIdOf device = before.connectionIdOf device := by
  obtain ⟨_, value, stored, _⟩ := inv.stored device member
  obtain ⟨changed, changedStored, id, _⟩ := same.devices device member value stored
  rw [connectionIdOf_eq stored, connectionIdOf_eq changedStored, id]

theorem SameDevices.registryInv {before after : AdapterState} (same : SameDevices before after)
    {allocated later : DeviceId} (inv : RegistryInv before allocated) (more : allocated ≤ later) :
    RegistryInv after later where
  nodup := same.deviceList ▸ inv.nodup
  index := by
    rw [same.deviceList, same.connIdHashBuckets]
    refine inv.index.congr fun device member => ?_
    rw [connIdHash, connIdHash, same.connectionIdOf inv device member]
  stored := by
    rw [same.deviceList]
    intro device member
    obtain ⟨bound, value, stored, below⟩ := inv.stored device member
    obtain ⟨changed, changedStored, id, _⟩ := same.devices device member value stored
    refine ⟨lt_of_lt_of_le bound more, changed, changedStored, ?_⟩
    rw [id]
    exact below.trans same.connectionId
  idsOnce := by
    rw [same.deviceList]
    intro device member other otherMember ids
    rw [same.connectionIdOf inv device member, same.connectionIdOf inv other otherMember] at ids
    exact inv.idsOnce device member other otherMember ids

/-- A new device at the end of the list, with the next id. -/
structure Linked (before after : AdapterState) (device : DeviceId) (value : WnbdDiskDevice) :
    Prop where
  deviceList : after.deviceList = before.deviceList ++ [device]
  connIdHashBuckets : after.connIdHashBuckets =
    insertHead before.connIdHashBuckets (wnbdConnIdBucket value.connectionId) device
  stored : after.devices device = some value
  valueId : value.connectionId = before.connectionId + 1
  connectionId : after.connectionId = before.connectionId + 1
  devices : ∀ other, other ≠ device → after.devices other = before.devices other

theorem Linked.connectionIdOf {before after : AdapterState} {device : DeviceId}
    {value : WnbdDiskDevice} (linked : Linked before after device value) (other : DeviceId)
    (different : other ≠ device) : after.connectionIdOf other = before.connectionIdOf other := by
  simp only [AdapterState.connectionIdOf, linked.devices other different]

theorem Linked.registryInv {before after : AdapterState} {device : DeviceId}
    {value : WnbdDiskDevice} (linked : Linked before after device value)
    (inv : RegistryInv before device) (noWrap : before.connectionId.toNat + 1 < 2 ^ 64) :
    RegistryInv after (device + 1) := by
  have unlisted : device ∉ before.deviceList := fun member =>
    absurd (inv.stored device member).1 (Nat.lt_irrefl _)
  have differs : ∀ other ∈ before.deviceList, other ≠ device := fun other member same =>
    unlisted (same ▸ member)
  have next : (before.connectionId + 1).toNat = before.connectionId.toNat + 1 := by
    rw [UInt64.toNat_add]
    exact Nat.mod_eq_of_lt noWrap
  have own : after.connectionIdOf device = value.connectionId := connectionIdOf_eq linked.stored
  -- Every earlier id is below the new one.
  have newId : ∀ other ∈ before.deviceList, after.connectionIdOf other ≠ value.connectionId := by
    intro other member same
    obtain ⟨_, stored, present, below⟩ := inv.stored other member
    rw [linked.connectionIdOf other (differs other member), connectionIdOf_eq present,
      linked.valueId] at same
    rw [same, next] at below
    omega
  refine ⟨?_, ?_, ?_, ?_⟩
  · rw [linked.deviceList]
    exact List.Nodup.append inv.nodup (List.nodup_singleton _)
      (List.disjoint_singleton.mpr unlisted)
  · rw [linked.deviceList, linked.connIdHashBuckets, ← own]
    have before : Indexes (connIdHash after) before.deviceList before.connIdHashBuckets :=
      inv.index.congr fun other member => by
        rw [connIdHash, connIdHash, linked.connectionIdOf other (differs other member)]
    exact before.insert device
  · rw [linked.deviceList, linked.connectionId, next]
    intro other member
    rcases List.mem_append.mp member with old | new
    · obtain ⟨bound, stored, present, below⟩ := inv.stored other old
      refine ⟨Nat.lt_succ_of_lt bound, stored, ?_, Nat.le_succ_of_le below⟩
      rw [linked.devices other (differs other old)]
      exact present
    · rw [List.mem_singleton.mp new]
      refine ⟨Nat.lt_succ_self _, value, linked.stored, ?_⟩
      rw [linked.valueId, next]
  · rw [linked.deviceList]
    intro first firstMember second secondMember ids
    rcases List.mem_append.mp firstMember with oldFirst | newFirst
    · rcases List.mem_append.mp secondMember with oldSecond | newSecond
      · rw [linked.connectionIdOf first (differs first oldFirst),
          linked.connectionIdOf second (differs second oldSecond)] at ids
        exact inv.idsOnce first oldFirst second oldSecond ids
      · rw [List.mem_singleton.mp newSecond, own] at ids
        exact absurd ids (newId first oldFirst)
    · rcases List.mem_append.mp secondMember with oldSecond | newSecond
      · rw [List.mem_singleton.mp newFirst, own] at ids
        exact absurd ids.symm (newId second oldSecond)
      · rw [List.mem_singleton.mp newFirst, List.mem_singleton.mp newSecond]

/-! ## The calls that change it -/

/-- Nothing but this device and the counter changes. -/
structure Aside (before after : AdapterState) (device : DeviceId) : Prop where
  deviceList : after.deviceList = before.deviceList
  connIdHashBuckets : after.connIdHashBuckets = before.connIdHashBuckets
  connectionId : before.connectionId.toNat ≤ after.connectionId.toNat
  devices : ∀ other, other ≠ device → after.devices other = before.devices other

section Create

variable {before state : AdapterState} {device : DeviceId}

theorem Aside.same (aside : Aside before state device) (unlisted : device ∉ before.deviceList) :
    SameDevices before state where
  deviceList := aside.deviceList
  connIdHashBuckets := aside.connIdHashBuckets
  connectionId := aside.connectionId
  devices := by
    intro other member value stored
    have different : other ≠ device := fun equal => unlisted (equal ▸ member)
    exact ⟨value, (aside.devices other different).trans stored, rfl, rfl⟩

theorem Aside.setDevice (aside : Aside before state device) (value : Option WnbdDiskDevice) :
    Aside before (state.setDevice device value) device where
  deviceList := aside.deviceList
  connIdHashBuckets := aside.connIdHashBuckets
  connectionId := aside.connectionId
  devices other different :=
    (Function.update_of_ne different _ _).trans (aside.devices other different)

theorem Aside.createExit (aside : Aside before state device) (rpAcquired : Bool)
    (scsiBitNumber : Option Nat) (status : NtStatus) :
    Aside before (createExit state rpAcquired (some device) scsiBitNumber status).state device := by
  have freed := aside.setDevice none
  have moved : ∀ changed : AdapterState, changed.deviceList = state.deviceList →
      changed.connIdHashBuckets = state.connIdHashBuckets →
      changed.connectionId = state.connectionId →
      changed.devices = (state.setDevice device none).devices → Aside before changed device := by
    intro changed list buckets id devices
    exact ⟨list.trans freed.deviceList, buckets.trans freed.connIdHashBuckets,
      id ▸ freed.connectionId, fun other different =>
        (congrFun devices other).trans (freed.devices other different)⟩
  rw [Adapter.createExit]
  split
  case isTrue => exact aside
  case isFalse =>
    cases scsiBitNumber with
    | none =>
        dsimp only
        split <;> exact moved _ rfl rfl rfl rfl
    | some bit =>
        dsimp only
        split <;> exact moved _ rfl rfl rfl rfl

theorem createAtAddress_registry (aside : Aside before state device) (rpAcquired : Bool)
    (props : WnbdProperties) (faults : CreateFaults) (value : WnbdDiskDevice)
    (stored : state.devices device = some value)
    (running : value.rundownProtection.waiting = false)
    (counter : state.connectionId = before.connectionId)
    (noWrap : before.connectionId.toNat + 1 < 2 ^ 64) :
    Aside before (createAtAddress state rpAcquired device props faults).state device ∨
      ∃ value, Linked before (createAtAddress state rpAcquired device props faults).state device
        value ∧ value.rundownProtection.waiting = false := by
  have next : (before.connectionId + 1).toNat = before.connectionId.toNat + 1 := by
    rw [UInt64.toNat_add]
    exact Nat.mod_eq_of_lt noWrap
  unfold createAtAddress
  cases BitMap.findClear state.scsiBitMap with
  | none => exact Or.inl (aside.createExit _ _ _)
  | some bit =>
    have assigned : Aside before ((state.claimBit bit).assignAddress device bit) device := by
      refine ⟨aside.deviceList, aside.connIdHashBuckets, ?_, fun other different =>
        (Function.update_of_ne different _ _).trans (aside.devices other different)⟩
      change before.connectionId.toNat ≤ (state.connectionId + 1).toNat
      rw [counter, next]
      exact Nat.le_succ _
    dsimp only
    split
    case isTrue => exact Or.inl (assigned.createExit _ _ _)
    case isFalse =>
      split
      case isTrue => exact Or.inl (assigned.createExit _ _ _)
      case isFalse =>
        refine Or.inr ⟨{ value with
            bus := scsiBus bit, target := scsiTarget bit, lun := scsiLun bit
            connectionId := state.connectionId + 1, deviceMonitorThread := true,
            connected := true }, ⟨?_, ?_, ?_, ?_, ?_, ?_⟩, running⟩
        · exact congrArg (· ++ [device]) aside.deviceList
        · change insertHead state.connIdHashBuckets _ device = _
          rw [aside.connIdHashBuckets]
          congr 2
          simp [connectionIdOf, updateDevice, AdapterState.setDevice, assignAddress, claimBit,
            stored]
        · simp [updateDevice, AdapterState.setDevice, assignAddress, claimBit, linkDevice, stored]
        · exact congrArg (· + 1) counter
        · exact congrArg (· + 1) counter
        · intro other different
          simp only [updateDevice, AdapterState.setDevice, linkDevice, assignAddress, claimBit,
            Function.update_of_ne different]
          exact aside.devices other different

end Create

/-- A create call leaves the listed devices alone, and links the new one or none. -/
theorem wnbdCreateConnection_registry (before : AdapterState) (device : DeviceId)
    (props : WnbdProperties) (faults : CreateFaults)
    (noWrap : before.connectionId.toNat + 1 < 2 ^ 64) :
    Aside before (wnbdCreateConnection before device props faults).state device ∨
      ∃ value, Linked before (wnbdCreateConnection before device props faults).state device value ∧
        value.rundownProtection.waiting = false := by
  have acquired : Aside before before.acquireRundown.2 device ∧
      before.acquireRundown.2.connectionId = before.connectionId := by
    rw [acquireRundown]
    split
    · exact ⟨⟨rfl, rfl, le_refl _, fun _ _ => rfl⟩, rfl⟩
    · exact ⟨⟨rfl, rfl, le_refl _, fun _ _ => rfl⟩, rfl⟩
  unfold wnbdCreateConnection
  dsimp only
  split_ifs
  · exact Or.inl acquired.1
  · exact Or.inl acquired.1
  · exact Or.inl acquired.1
  · exact Or.inl acquired.1
  · exact Or.inl ((acquired.1.setDevice _).createExit _ _ _)
  · refine createAtAddress_registry ((acquired.1.setDevice _).setDevice _) _ props faults
      { WnbdDiskDevice.zeroed props with inquiryData := true } ?_ rfl acquired.2 noWrap
    simp [AdapterState.setDevice]

/-- The monitor's section under the list lock, and what it frees behind it. -/
theorem unlinkDevice_registryInv {adapter after : AdapterState} {allocated : DeviceId}
    (inv : RegistryInv adapter allocated) (device : DeviceId)
    (deviceList : after.deviceList = adapter.deviceList.erase device)
    (buckets : after.connIdHashBuckets = remove adapter.connIdHashBuckets
      (connIdHash adapter device) device)
    (connectionId : after.connectionId = adapter.connectionId)
    (devices : ∀ other, other ≠ device → after.devices other = adapter.devices other) :
    RegistryInv after allocated := by
  have kept : ∀ other ∈ adapter.deviceList.erase device,
      other ≠ device ∧ other ∈ adapter.deviceList := fun other member =>
    (inv.nodup.mem_erase_iff).mp member
  have ids : ∀ other, other ≠ device → after.connectionIdOf other = adapter.connectionIdOf other :=
    fun other different => by simp only [connectionIdOf, devices other different]
  refine ⟨?_, ?_, ?_, ?_⟩
  · rw [deviceList]
    exact inv.nodup.erase device
  · rw [deviceList, buckets]
    refine (inv.index.remove device).congr fun other member => ?_
    rw [connIdHash, connIdHash, ids other (kept other member).1]
  · rw [deviceList, connectionId]
    intro other member
    rw [devices other (kept other member).1]
    exact inv.stored other (kept other member).2
  · rw [deviceList]
    intro first firstMember second secondMember same
    rw [ids first (kept first firstMember).1, ids second (kept second secondMember).1] at same
    exact inv.idsOnce first (kept first firstMember).2 second (kept second secondMember).2 same

end Wnbd.Routing
