import Wnbd.Routing.Queues

/-!
# What is awaited on each connection

A request is awaited from its submission on a connection to the response or drain that
removes it.  The awaited requests of a connection are exactly the elements on the
submitted list of the one device that has the id, after any calls.
-/

set_option autoImplicit false

namespace Wnbd.Routing

open Wnbd.Scsi Wnbd.Dispatch Wnbd.Device Wnbd.Adapter AdapterState HashIndex DeviceQueues
  RoutingState

def RoutingEvent.connectionId : RoutingEvent → UInt64
  | .submitted connectionId _ _ | .removed connectionId _ => connectionId

def RoutingEvent.tag : RoutingEvent → UInt64
  | .submitted _ tag _ | .removed _ tag => tag

/-- Handed to userspace on the connection, and not taken back since. -/
def Awaiting (history : List RoutingEvent) (connectionId tag : UInt64) (srb : SrbId) : Prop :=
  .submitted connectionId tag srb ∈ history ∧ .removed connectionId tag ∉ history

instance (history : List RoutingEvent) (connectionId tag : UInt64) (srb : SrbId) :
    Decidable (Awaiting history connectionId tag srb) := by
  unfold Awaiting
  infer_instance

structure RoutingInv (state : RoutingState) : Prop where
  registry : RegistryInv state.adapter state.allocated
  queues : ∀ device, QueueInv (state.queues device) state.requestHandle state.ledger
  fresh : ∀ device, state.allocated ≤ device → ∀ tag srb,
    ¬ Submitted (state.queues device) tag srb
  kernel : ∀ device ∈ state.adapter.deviceList, ∀ value,
    state.adapter.devices device = some value → value.properties.flags.useKernelNbd = true →
      ∀ tag srb, ¬ Submitted (state.queues device) tag srb
  awaiting : ∀ connectionId tag srb, Awaiting state.history connectionId tag srb ↔
    ∃ device ∈ state.adapter.deviceList, state.adapter.connectionIdOf device = connectionId ∧
      Submitted (state.queues device) tag srb
  past : ∀ event ∈ state.history,
    event.connectionId.toNat ≤ state.adapter.connectionId.toNat ∧
      event.tag.toNat ≤ state.requestHandle.toNat

theorem routingInv_initial : RoutingInv .initial where
  registry := registryInv_initial
  queues _ := queueInv_empty _ _
  fresh _ _ _ _ submitted := by
    obtain ⟨_, member, _⟩ := submitted
    exact absurd member List.not_mem_nil
  kernel _ member := absurd member List.not_mem_nil
  awaiting _ _ _ := by
    refine iff_of_false (fun awaited => absurd awaited.1 List.not_mem_nil) ?_
    rintro ⟨_, member, _⟩
    exact absurd member List.not_mem_nil
  past _ member := absurd member List.not_mem_nil

/-! ## Histories -/

section History

variable (history : List RoutingEvent) (connectionId tag : UInt64) (srb : SrbId)

theorem awaiting_submitted (found foundTag : UInt64) (foundSrb : SrbId)
    (new : .removed connectionId tag ∉ history) :
    Awaiting (history ++ [.submitted connectionId tag srb]) found foundTag foundSrb ↔
      Awaiting history found foundTag foundSrb ∨
        found = connectionId ∧ foundTag = tag ∧ foundSrb = srb := by
  simp only [Awaiting, List.mem_append, List.mem_singleton, RoutingEvent.submitted.injEq,
    reduceCtorEq, or_false]
  constructor
  · rintro ⟨old | same, kept⟩
    · exact Or.inl ⟨old, kept⟩
    · exact Or.inr same
  · rintro (⟨old, kept⟩ | ⟨rfl, rfl, rfl⟩)
    · exact ⟨Or.inl old, kept⟩
    · exact ⟨Or.inr ⟨rfl, rfl, rfl⟩, new⟩

theorem awaiting_removed (found foundTag : UInt64) :
    Awaiting (history ++ [.removed connectionId tag]) found foundTag srb ↔
      Awaiting history found foundTag srb ∧ ¬ (found = connectionId ∧ foundTag = tag) := by
  simp only [Awaiting, List.mem_append, List.mem_singleton, RoutingEvent.removed.injEq,
    reduceCtorEq, or_false, not_or, and_assoc]

end History

/-! ## Moves of the whole state -/

section Moves

variable {state : RoutingState}

theorem RoutingInv.awaits (inv : RoutingInv state) (device : DeviceId)
    (member : device ∈ state.adapter.deviceList) (tag : UInt64) (srb : SrbId) :
    Awaiting state.history (state.adapter.connectionIdOf device) tag srb ↔
      Submitted (state.queues device) tag srb := by
  rw [inv.awaiting]
  constructor
  · rintro ⟨other, otherMember, ids, submitted⟩
    rwa [inv.registry.idsOnce other otherMember device member ids] at submitted
  · exact fun submitted => ⟨device, member, rfl, submitted⟩

theorem RoutingInv.grow (inv : RoutingInv state) (ledger : SrbLedger)
    (grows : LedgerGrows state.ledger ledger) : RoutingInv { state with ledger } where
  registry := inv.registry
  queues device := (inv.queues device).grow grows
  fresh := inv.fresh
  kernel := inv.kernel
  awaiting := inv.awaiting
  past := inv.past

theorem RoutingInv.sameDevices (inv : RoutingInv state) (adapter : AdapterState)
    (same : SameDevices state.adapter adapter) (allocated : DeviceId)
    (more : state.allocated ≤ allocated) :
    RoutingInv { state with adapter, allocated } where
  registry := same.registryInv inv.registry more
  queues := inv.queues
  fresh device unused := inv.fresh device (more.trans unused)
  kernel := by
    dsimp only
    rw [same.deviceList]
    intro device member changed changedStored kernel
    obtain ⟨_, value, stored, _⟩ := inv.registry.stored device member
    obtain ⟨found, foundStored, _, properties⟩ := same.devices device member value stored
    rw [Option.some.inj (changedStored.symm.trans foundStored), properties] at kernel
    exact inv.kernel device member value stored kernel
  awaiting := by
    dsimp only
    intro connectionId tag srb
    rw [inv.awaiting, same.deviceList]
    refine exists_congr fun device => and_congr_right fun member => ?_
    rw [same.connectionIdOf inv.registry device member]
  past event member :=
    ⟨(inv.past event member).1.trans same.connectionId, (inv.past event member).2⟩

theorem RoutingInv.linked (inv : RoutingInv state) (adapter : AdapterState)
    (value : WnbdDiskDevice) (linked : Linked state.adapter adapter state.allocated value)
    (noWrap : state.adapter.connectionId.toNat + 1 < 2 ^ 64) :
    RoutingInv { state with adapter, allocated := state.allocated + 1 } := by
  have differs : ∀ device ∈ state.adapter.deviceList, device ≠ state.allocated :=
    fun device member same => absurd (inv.registry.stored device member).1
      (same ▸ Nat.lt_irrefl _)
  have next : (state.adapter.connectionId + 1).toNat = state.adapter.connectionId.toNat + 1 := by
    rw [UInt64.toNat_add]
    exact Nat.mod_eq_of_lt noWrap
  have unused : ∀ tag srb, ¬ Submitted (state.queues state.allocated) tag srb :=
    inv.fresh state.allocated (Nat.le_refl _)
  refine ⟨linked.registryInv inv.registry noWrap, inv.queues, ?_, ?_, ?_, ?_⟩
  · exact fun device later => inv.fresh device (Nat.le_of_succ_le later)
  · dsimp only
    rw [linked.deviceList]
    intro device member found stored kernel
    rcases List.mem_append.mp member with old | new
    · rw [linked.devices device (differs device old)] at stored
      exact inv.kernel device old found stored kernel
    · rw [List.mem_singleton.mp new]
      exact unused
  · intro connectionId tag srb
    dsimp only
    rw [inv.awaiting, linked.deviceList]
    constructor
    · rintro ⟨device, member, ids, submitted⟩
      refine ⟨device, List.mem_append_left _ member, ?_, submitted⟩
      rw [linked.connectionIdOf device (differs device member)]
      exact ids
    · rintro ⟨device, member, ids, submitted⟩
      rcases List.mem_append.mp member with old | new
      · refine ⟨device, old, ?_, submitted⟩
        rw [linked.connectionIdOf device (differs device old)] at ids
        exact ids
      · rw [List.mem_singleton.mp new] at submitted
        exact absurd submitted (unused tag srb)
  · intro event member
    obtain ⟨below, tags⟩ := inv.past event member
    dsimp only
    rw [linked.connectionId, next]
    exact ⟨Nat.le_succ_of_le below, tags⟩

theorem RoutingInv.unlinked (inv : RoutingInv state) (adapter : AdapterState) (device : DeviceId)
    (deviceList : adapter.deviceList = state.adapter.deviceList.erase device)
    (buckets : adapter.connIdHashBuckets = remove state.adapter.connIdHashBuckets
      (connIdHash state.adapter device) device)
    (connectionId : adapter.connectionId = state.adapter.connectionId)
    (devices : ∀ other, other ≠ device → adapter.devices other = state.adapter.devices other)
    (empty : (state.queues device).submittedReqList = []) :
    RoutingInv { state with adapter } := by
  have kept : ∀ other ∈ state.adapter.deviceList.erase device,
      other ≠ device ∧ other ∈ state.adapter.deviceList := fun other member =>
    inv.registry.nodup.mem_erase_iff.mp member
  have ids : ∀ other, other ≠ device →
      adapter.connectionIdOf other = state.adapter.connectionIdOf other :=
    fun other different => by simp only [connectionIdOf, devices other different]
  refine ⟨unlinkDevice_registryInv inv.registry device deviceList buckets connectionId devices,
    inv.queues, inv.fresh, ?_, ?_, ?_⟩
  · dsimp only
    rw [deviceList]
    intro other member value stored kernel
    rw [devices other (kept other member).1] at stored
    exact inv.kernel other (kept other member).2 value stored kernel
  · intro found tag srb
    dsimp only
    rw [inv.awaiting, deviceList]
    constructor
    · rintro ⟨other, member, same, submitted⟩
      have different : other ≠ device := by
        rintro rfl
        obtain ⟨_, listed, _⟩ := submitted
        rw [empty] at listed
        cases listed
      refine ⟨other, inv.registry.nodup.mem_erase_iff.mpr ⟨different, member⟩, ?_, submitted⟩
      rw [ids other different]
      exact same
    · rintro ⟨other, member, same, submitted⟩
      rw [ids other (kept other member).1] at same
      exact ⟨other, (kept other member).2, same, submitted⟩
  · intro event member
    dsimp only
    rw [connectionId]
    exact inv.past event member

/-- What a call on one device must say about it. -/
structure DeviceMove (state after : RoutingState) (device : DeviceId) : Prop where
  adapter : after.adapter = state.adapter
  allocated : after.allocated = state.allocated
  ledger : LedgerGrows state.ledger after.ledger
  queues : ∀ other, other ≠ device → after.queues other = state.queues other
  handle : state.requestHandle.toNat ≤ after.requestHandle.toNat
  own : QueueInv (after.queues device) after.requestHandle after.ledger
  awaits : ∀ tag srb, Awaiting after.history (state.adapter.connectionIdOf device) tag srb ↔
    Submitted (after.queues device) tag srb
  elsewhere : ∀ connectionId, connectionId ≠ state.adapter.connectionIdOf device → ∀ tag srb,
    Awaiting after.history connectionId tag srb ↔ Awaiting state.history connectionId tag srb
  past : ∀ event ∈ after.history, event ∈ state.history ∨
    event.connectionId = state.adapter.connectionIdOf device ∧
      event.tag.toNat ≤ after.requestHandle.toNat

theorem RoutingInv.atDevice {after : RoutingState} {device : DeviceId} (inv : RoutingInv state)
    (member : device ∈ state.adapter.deviceList) (move : DeviceMove state after device)
    (kernel : ∀ value, state.adapter.devices device = some value →
      value.properties.flags.useKernelNbd = true → ∀ tag srb,
        Submitted (after.queues device) tag srb → Submitted (state.queues device) tag srb) :
    RoutingInv after := by
  have bound := (inv.registry.stored device member).1
  refine ⟨?_, ?_, ?_, ?_, ?_, ?_⟩
  · rw [move.adapter, move.allocated]
    exact inv.registry
  · intro other
    by_cases own : other = device
    · rw [own]
      exact move.own
    · rw [move.queues other own]
      exact ((inv.queues other).grow move.ledger).raise move.handle
  · rw [move.allocated]
    intro other unused
    have different : other ≠ device := by
      rintro rfl
      exact absurd bound (Nat.not_lt.mpr unused)
    rw [move.queues other different]
    exact inv.fresh other unused
  · rw [move.adapter]
    intro other listed value stored isKernel tag srb submitted
    by_cases own : other = device
    · subst own
      exact inv.kernel other listed value stored isKernel tag srb
        (kernel value stored isKernel tag srb submitted)
    · rw [move.queues other own] at submitted
      exact inv.kernel other listed value stored isKernel tag srb submitted
  · rw [move.adapter]
    intro connectionId tag srb
    by_cases own : connectionId = state.adapter.connectionIdOf device
    · rw [own, move.awaits]
      constructor
      · exact fun submitted => ⟨device, member, rfl, submitted⟩
      · rintro ⟨other, listed, ids, submitted⟩
        rwa [inv.registry.idsOnce other listed device member ids] at submitted
    · rw [move.elsewhere connectionId own, inv.awaiting]
      refine exists_congr fun other => and_congr_right fun _ => and_congr_right fun ids => ?_
      have different : other ≠ device := by
        rintro rfl
        exact own ids.symm
      rw [move.queues other different]
  · rw [move.adapter]
    intro event logged
    rcases move.past event logged with old | ⟨sameId, tag⟩
    · obtain ⟨below, tags⟩ := inv.past event old
      exact ⟨below, tags.trans move.handle⟩
    · obtain ⟨_, value, stored, below⟩ := inv.registry.stored device member
      refine ⟨?_, tag⟩
      rw [sameId, connectionIdOf_eq stored]
      exact below

end Moves

end Wnbd.Routing
