import Wnbd.Adapter.Lifetime
import Wnbd.Control.Geometry
import Wnbd.Control.UniqueNames

/-!
# The list of active connections

`WnbdEnumerateActiveConnections` reads the first entry of `DeviceList` before it
takes `DeviceListLock`.  `list_snapshot_iff` says that every call returns a
consistent snapshot exactly in the runs in which the entry it starts from is
still linked when it has the lock, and no device it meets was freed.
-/

set_option autoImplicit false

namespace Wnbd.Control

open Wnbd.Scsi Wnbd.Adapter Wnbd.Adapter.AdapterState StepSystem

/-! ## The call -/

structure PnpInfo where
  diskNumber : Int
  pnpDeviceId : List UInt16
deriving DecidableEq

/-- A `WNBD_CONNECTION_INFO` as the list fills it; the connection id stays zero. -/
structure ConnectionEntry where
  properties : WnbdProperties
  busNumber : Nat
  targetId : Nat
  lun : Nat
  connectionId : UInt64
  diskNumber : Int
  pnpDeviceId : List UInt16
deriving DecidableEq

structure FreedMemory where
  entry : ConnectionEntry
  flink : Option DeviceId

structure Registered where
  deviceList : List DeviceId
  devices : DeviceId → Option WnbdDiskDevice
  pnp : DeviceId → PnpInfo

/-- The fields from `room` on have no counterpart in the driver: the entries the
buffer has room for, the devices at the read of the first entry and under the lock,
and the entries the loop dereferenced. -/
structure ListResult where
  status : NtStatus
  information : Nat
  count : Nat
  connections : List ConnectionEntry
  room : Nat
  atRead : Registered
  atLock : Registered
  met : List DeviceId

inductive ListCall
  | idle
  | readHead (outputBufferLength : UInt32)
  | acquireLock (outputBufferLength : UInt32) (currentEntry : Option DeviceId)
      (atRead : Registered)

structure ListState where
  control : ControlState
  pnp : DeviceId → PnpInfo
  calls : Nat → ListCall
  results : List ListResult

def ListState.initial : ListState :=
  { control := .initial
    pnp := fun _ => { diskNumber := -1, pnpDeviceId := [] }
    calls := fun _ => .idle
    results := [] }

namespace ListState

def deviceList (state : ListState) : List DeviceId := state.control.lifecycle.adapter.deviceList

def registered (state : ListState) : Registered :=
  { deviceList := state.deviceList
    devices := state.control.lifecycle.adapter.devices
    pnp := state.pnp }

def setCall (state : ListState) (thread : Nat) (call : ListCall) : ListState :=
  { state with calls := Function.update state.calls thread call }

def flink (state : ListState) (freed : DeviceId → FreedMemory) : DeviceId → Option DeviceId :=
  LinkedList.flink state.deviceList fun device =>
    match state.control.lifecycle.adapter.devices device with
    | some _ => state.control.keptLinks device
    | none => (freed device).flink

def readEntry (state : ListState) (freed : DeviceId → FreedMemory) (device : DeviceId) :
    ConnectionEntry :=
  match state.control.lifecycle.adapter.devices device with
  | some value =>
      { properties := value.properties
        busNumber := value.bus % 2 ^ 16
        targetId := value.target % 2 ^ 16
        lun := value.lun % 2 ^ 16
        connectionId := 0
        diskNumber := (state.pnp device).diskNumber
        pnpDeviceId := (state.pnp device).pnpDeviceId }
  | none => (freed device).entry

end ListState

def enumerateLocked (state : ListState) (freed : DeviceId → FreedMemory)
    (outputBufferLength : UInt32) (currentEntry : Option DeviceId) (atRead : Registered) :
    ListResult :=
  let remaining := Ioctl.listRemaining outputBufferLength
  let walked := LinkedList.walk (state.flink freed) currentEntry remaining
  { status := if walked.2 = none then statusSuccess else statusBufferOverflow
    information := walked.1.length * Ioctl.wnbdConnectionInfo.size + Ioctl.connectionListHeader
    count := walked.1.length
    connections := walked.1.map (state.readEntry freed)
    room := remaining
    atRead
    atLock := state.registered
    met := walked.1 }

inductive ListAction
  | control (action : ControlAction)
  | pnpStart (device : DeviceId) (info : PnpInfo)
  /-- The write of `WnbdSetDiskSize`, under a reference to the device. -/
  | setBlockCount (device : DeviceId) (blockCount : UInt64)
  /-- `IOCTL_WNBD_LIST`, up to the check of the buffer. -/
  | list (thread : Nat) (outputBufferLength : UInt32)
  | readHead (thread : Nat)
  | enumerate (thread : Nat) (freed : DeviceId → FreedMemory)

def listNext (state : ListState) : ListAction → Option ListState
  | .control action => (controlNext state.control action).map fun control => { state with control }
  | .pnpStart device info => some { state with pnp := Function.update state.pnp device info }
  | .setBlockCount device blockCount =>
      let adapter := state.control.lifecycle.adapter.updateDevice device
        (Control.setBlockCount blockCount)
      some { state with
        control := state.control.setLifecycle (state.control.lifecycle.setAdapter adapter) }
  | .list thread outputBufferLength =>
      match state.calls thread with
      | .idle =>
          -- A short buffer is answered with the size it needs.
          if outputBufferLength.toNat < requiredBuffSize state.control.lifecycle.adapter then
            some state
          else some (state.setCall thread (.readHead outputBufferLength))
      | _ => none
  | .readHead thread =>
      match state.calls thread with
      | .readHead outputBufferLength =>
          some (state.setCall thread
            (.acquireLock outputBufferLength state.deviceList.head? state.registered))
      | _ => none
  | .enumerate thread freed =>
      match state.calls thread with
      | .acquireLock outputBufferLength currentEntry atRead =>
          let result := enumerateLocked state freed outputBufferLength currentEntry atRead
          some ({ state with results := state.results ++ [result] }.setCall thread .idle)
      | _ => none

/-! ## What a call should return -/

/-- The record shows the device as it was at that instant.  `ConnectionId` is left zero. -/
structure Registered.Shows (registered : Registered) (device : DeviceId)
    (record : ConnectionEntry) : Prop where
  properties : ∃ value, registered.devices device = some value ∧
    record.properties = value.properties ∧ record.busNumber = value.bus % 2 ^ 16 ∧
      record.targetId = value.target % 2 ^ 16 ∧ record.lun = value.lun % 2 ^ 16
  connectionId : record.connectionId = 0
  diskNumber : record.diskNumber = (registered.pnp device).diskNumber
  pnpDeviceId : record.pnpDeviceId = (registered.pnp device).pnpDeviceId

/-- The output shows the devices registered at one instant, each once, or as many of
them as fit. -/
structure SnapshotOf (result : ListResult) (registered : Registered) : Prop where
  nodup : registered.deviceList.Nodup
  count : result.count = result.connections.length
  whole : registered.deviceList.length ≤ result.room →
    List.Forall₂ registered.Shows registered.deviceList result.connections
  full : result.room < registered.deviceList.length → result.count = result.room ∧
    List.Forall₂ registered.Shows (registered.deviceList.take result.room) result.connections

/-- What the loop dereferences is linked, and allocated. -/
structure ConsistentSnapshot (result : ListResult) : Prop where
  linked : ∀ entry ∈ result.met, entry ∈ result.atLock.deviceList ∧
    (result.atLock.devices entry).isSome = true
  terminates : result.met.length ≤ result.room
  snapshot : ∃ registered, (registered = result.atRead ∨ registered = result.atLock) ∧
    SnapshotOf result registered

/-- The call has nothing to read, or what it reads is linked and was not freed. -/
def ReadsLinked (state : ListState) (outputBufferLength : UInt32) (head : DeviceId) : Prop :=
  Ioctl.listRemaining outputBufferLength = 0 ∨
    head ∈ state.deviceList ∧
      ∀ device ∈ state.deviceList.take (Ioctl.listRemaining outputBufferLength),
        (state.control.lifecycle.adapter.devices device).isSome = true

instance (state : ListState) (outputBufferLength : UInt32) (head : DeviceId) :
    Decidable (ReadsLinked state outputBufferLength head) := by
  unfold ReadsLinked
  infer_instance

/-- When the lock is taken the entry read before is still linked, and no linked device
was freed, unless the list was empty then or the buffer has no room for a record. -/
def HeadStillLinked (state : ListState) : ListAction → Prop
  | .enumerate thread _ =>
      match state.calls thread with
      | .acquireLock outputBufferLength (some head) _ => ReadsLinked state outputBufferLength head
      | _ => True
  | _ => True

instance (state : ListState) (action : ListAction) : Decidable (HeadStillLinked state action) := by
  unfold HeadStillLinked
  split
  · split <;> infer_instance
  · infer_instance

/-! ## The device list -/

/-- What a step does to the device list. -/
inductive ListChange (before after : LifecycleState) : Prop
  | same (list : after.adapter.deviceList = before.adapter.deviceList)
  | inserted (call : DeviceId) (unlinked : (before.creators call).linked = false)
      (linked : (after.creators call).linked = true)
      (list : after.adapter.deviceList = before.adapter.deviceList ++ [call])
  | removed (device : DeviceId)
      (list : after.adapter.deviceList = before.adapter.deviceList.erase device)

/-- A create call that has linked its device does not take that back. -/
structure ListStep (before after : LifecycleState) : Prop where
  change : ListChange before after
  linked : ∀ device, (before.creators device).linked = true →
    (after.creators device).linked = true

theorem DevicesKept.listStep {before after : LifecycleState} {list : List DeviceId}
    {actor : Option Nat} (kept : DevicesKept before after list actor)
    (shrinks : list = before.adapter.deviceList ∨
      ∃ device, list = before.adapter.deviceList.erase device) : ListStep before after where
  change := by
    rcases shrinks with same | ⟨device, removed⟩
    · exact .same (kept.list.trans same)
    · exact .removed device (kept.list.trans removed)
  linked device linked := by
    rw [kept.creators]
    exact linked

theorem lifecycleNext_listStep {state after : LifecycleState} (action : LifecycleAction)
    (taken : lifecycleNext state action = some after) : ListStep state after := by
  rcases lifecycleNext_kept action taken with
    ⟨call, fails, rfl, effect⟩ | ⟨call, props, rfl, begun⟩ | kept
  · refine ⟨?_, effect.linked⟩
    rcases effect.list with same | ⟨linking, counted, appended⟩
    · exact .same same
    · exact .inserted call (by rw [linking]; rfl) (by rw [counted]; rfl) appended
  · obtain ⟨-, -, -, list, -, -, -⟩ := createBegin_effect props begun
    exact ⟨.same list, createBegin_linked props begun⟩
  · refine kept.listStep ?_
    unfold listAfter
    cases action with
    | monitor device =>
        by_cases unlinks : state.monitors device = .unlink
        · exact Or.inr ⟨device, if_pos unlinks⟩
        · exact Or.inl (if_neg unlinks)
    | create | creator | lookup | user | cleanup => exact Or.inl rfl

theorem controlNext_listStep {state after : ControlState} (action : ControlAction)
    (stepped : controlNext state action = some after) : ListStep state.lifecycle after.lifecycle := by
  cases action with
  | lifecycle action =>
      obtain ⟨_, moved⟩ := Option.ite_none_right_eq_some.mp stepped
      obtain ⟨lifecycle, taken, rfl⟩ := Option.map_eq_some_iff.mp moved
      exact lifecycleNext_listStep action taken
  | request thread choice =>
      exact (requestStep_effect thread choice stepped).kept.listStep (Or.inl rfl)
  | lockCreate call props =>
      rw [(lockCreate_same call props stepped).lifecycle]
      exact ⟨.same rfl, fun _ => id⟩
  | unlockCreate call =>
      rw [(unlockCreate_same call stepped).lifecycle]
      exact ⟨.same rfl, fun _ => id⟩
  | writeOption value =>
      cases stepped
      exact ⟨.same rfl, fun _ => id⟩
  | disallow thread purpose choice =>
      obtain ⟨_, moved⟩ := Option.ite_none_right_eq_some.mp stepped
      cases choice with
      | proceed | fails =>
          cases moved
          exact ⟨.same rfl, fun _ => id⟩
      | unwritten names => cases moved

section Step

variable {before after : LifecycleState}

theorem ListStep.keepsNodup (step : ListStep before after)
    (nodup : before.adapter.deviceList.Nodup)
    (listed : ∀ device ∈ before.adapter.deviceList, (before.creators device).linked = true) :
    after.adapter.deviceList.Nodup := by
  cases step.change with
  | same list =>
      rw [list]
      exact nodup
  | inserted call unlinked linked list =>
      have fresh : call ∉ before.adapter.deviceList := by
        intro member
        rw [listed call member] at unlinked
        cases unlinked
      rw [list]
      exact nodup.append (List.nodup_singleton call) (List.disjoint_singleton.mpr fresh)
  | removed device list =>
      rw [list]
      exact nodup.erase device

theorem ListStep.keepsLinked (step : ListStep before after)
    (listed : ∀ device ∈ before.adapter.deviceList, (before.creators device).linked = true)
    (device : DeviceId) (member : device ∈ after.adapter.deviceList) :
    (after.creators device).linked = true := by
  cases step.change with
  | same list =>
      rw [list] at member
      exact step.linked device (listed device member)
  | inserted call unlinked linked list =>
      rw [list] at member
      rcases List.mem_append.mp member with old | last
      · exact step.linked device (listed device old)
      · rw [List.mem_singleton.mp last]
        exact linked
  | removed other list =>
      rw [list] at member
      exact step.linked device (listed device (List.mem_of_mem_erase member))

/-- Entries are appended behind the first one, and no entry comes back. -/
theorem ListStep.keepsFirst (step : ListStep before after)
    (nodup : before.adapter.deviceList.Nodup) (head : DeviceId)
    (linked : (before.creators head).linked = true)
    (first : head ∈ before.adapter.deviceList → before.adapter.deviceList.head? = some head)
    (member : head ∈ after.adapter.deviceList) : after.adapter.deviceList.head? = some head := by
  cases step.change with
  | same list =>
      rw [list] at member ⊢
      exact first member
  | inserted call unlinked _ list =>
      rw [list] at member ⊢
      rcases List.mem_append.mp member with old | last
      · rw [List.head?_append, first old]
        rfl
      · rw [List.mem_singleton.mp last, unlinked] at linked
        cases linked
  | removed device list =>
      rw [list] at member ⊢
      obtain ⟨different, old⟩ := nodup.mem_erase_iff.mp member
      obtain ⟨rest, split⟩ := List.head?_eq_some_iff.mp (first old)
      rw [split, List.erase_cons_tail (by simpa using different)]
      rfl

end Step

/-! ## The invariant -/

/-- While the entry read before the lock is linked, it is the first one. -/
structure HeadRead (state : ListState) (currentEntry : Option DeviceId) (atRead : Registered) :
    Prop where
  read : currentEntry = atRead.deviceList.head?
  nodup : atRead.deviceList.Nodup
  linked : ∀ head, currentEntry = some head →
    (state.control.lifecycle.creators head).linked = true
  first : ∀ head, currentEntry = some head → head ∈ state.deviceList →
    state.deviceList.head? = some head

structure ListInv (state : ListState) : Prop where
  nodup : state.deviceList.Nodup
  linked : ∀ device ∈ state.deviceList, (state.control.lifecycle.creators device).linked = true
  reads : ∀ thread length currentEntry atRead,
    state.calls thread = .acquireLock length currentEntry atRead →
      HeadRead state currentEntry atRead

theorem listInv_initial : ListInv .initial where
  nodup := List.nodup_nil
  linked _ member := by cases member
  reads _ _ _ _ acquires := by cases acquires

section Invariant

variable {state after : ListState}

theorem ListInv.setCall (inv : ListInv state) (thread : Nat) (call : ListCall)
    (reads : ∀ length currentEntry atRead, call = .acquireLock length currentEntry atRead →
      HeadRead state currentEntry atRead) : ListInv (state.setCall thread call) where
  nodup := inv.nodup
  linked := inv.linked
  reads other length currentEntry atRead acquires := by
    have head : HeadRead state currentEntry atRead := by
      by_cases same : other = thread
      · subst same
        simp only [ListState.setCall, Function.update_self] at acquires
        exact reads length currentEntry atRead acquires
      · simp only [ListState.setCall, Function.update_of_ne same] at acquires
        exact inv.reads other length currentEntry atRead acquires
    exact ⟨head.read, head.nodup, head.linked, head.first⟩

theorem HeadRead.now (inv : ListInv state) :
    HeadRead state state.deviceList.head? state.registered where
  read := rfl
  nodup := inv.nodup
  linked head first := inv.linked head (List.mem_of_head? first)
  first _ first _ := first

theorem ListInv.step (inv : ListInv state) (action : ListAction)
    (taken : listNext state action = some after) : ListInv after := by
  cases action with
  | control action =>
      obtain ⟨control, stepped, rfl⟩ := Option.map_eq_some_iff.mp taken
      have step := controlNext_listStep action stepped
      refine ⟨step.keepsNodup inv.nodup inv.linked, step.keepsLinked inv.linked, ?_⟩
      intro thread length currentEntry atRead acquires
      have head := inv.reads thread length currentEntry atRead acquires
      refine ⟨head.read, head.nodup, fun entry found => ?_, fun entry found member => ?_⟩
      · exact step.linked entry (head.linked entry found)
      · exact step.keepsFirst inv.nodup entry (head.linked entry found) (head.first entry found)
          member
  | pnpStart | setBlockCount =>
      cases taken
      refine ⟨inv.nodup, inv.linked, fun thread length currentEntry atRead acquires => ?_⟩
      have head := inv.reads thread length currentEntry atRead acquires
      exact ⟨head.read, head.nodup, head.linked, head.first⟩
  | list thread outputBufferLength =>
      unfold listNext at taken
      dsimp only at taken
      split at taken
      · split_ifs at taken <;> cases taken
        · exact inv
        · exact inv.setCall thread _ fun _ _ _ acquires => by cases acquires
      · cases taken
  | readHead thread =>
      unfold listNext at taken
      dsimp only at taken
      split at taken
      · cases taken
        refine inv.setCall thread _ fun length currentEntry atRead acquires => ?_
        cases acquires
        exact HeadRead.now inv
      · cases taken
  | enumerate thread freed =>
      unfold listNext at taken
      dsimp only at taken
      split at taken
      · rename_i length currentEntry atRead acquires
        cases taken
        have logged : ListInv { state with results := state.results ++
            [enumerateLocked state freed length currentEntry atRead] } := by
          refine ⟨inv.nodup, inv.linked, fun other length currentEntry atRead acquires => ?_⟩
          have head := inv.reads other length currentEntry atRead acquires
          exact ⟨head.read, head.nodup, head.linked, head.first⟩
        exact logged.setCall thread _ fun _ _ _ acquires => by cases acquires
      · cases taken

/-! ## When a call is consistent -/

theorem readEntry_shows (freed : DeviceId → FreedMemory) (device : DeviceId)
    (allocated : (state.control.lifecycle.adapter.devices device).isSome = true) :
    state.registered.Shows device (state.readEntry freed device) := by
  obtain ⟨value, stored⟩ := Option.isSome_iff_exists.mp allocated
  unfold ListState.readEntry
  rw [stored]
  exact ⟨⟨value, stored, rfl, rfl, rfl, rfl⟩, rfl, rfl, rfl⟩

theorem readEntries_show (freed : DeviceId → FreedMemory) (devices : List DeviceId)
    (allocated : ∀ device ∈ devices,
      (state.control.lifecycle.adapter.devices device).isSome = true) :
    List.Forall₂ state.registered.Shows devices (devices.map (state.readEntry freed)) := by
  rw [List.forall₂_map_right_iff, List.forall₂_same]
  intro device member
  exact readEntry_shows freed device (allocated device member)

/-- A call that finds the entry it starts from at the front of the list meets what is
registered under the lock. -/
theorem enumerateLocked_met (freed : DeviceId → FreedMemory) (length : UInt32)
    (atRead : Registered) (nodup : state.deviceList.Nodup) :
    (enumerateLocked state freed length state.deviceList.head? atRead).met =
      state.deviceList.take (Ioctl.listRemaining length) := by
  change (LinkedList.walk (state.flink freed) state.deviceList.head?
    (Ioctl.listRemaining length)).1 = _
  unfold ListState.flink
  rw [LinkedList.walk_head nodup]

theorem enumerateLocked_head (freed : DeviceId → FreedMemory) (length : UInt32)
    (atRead : Registered) (nodup : state.deviceList.Nodup)
    (allocated : ∀ device ∈ state.deviceList.take (Ioctl.listRemaining length),
      (state.control.lifecycle.adapter.devices device).isSome = true) :
    SnapshotOf (enumerateLocked state freed length state.deviceList.head? atRead)
      state.registered := by
  have met := enumerateLocked_met freed length atRead nodup
  have shown := readEntries_show freed _ allocated
  have connections : (enumerateLocked state freed length state.deviceList.head?
      atRead).connections = (state.deviceList.take (Ioctl.listRemaining length)).map
        (state.readEntry freed) := by
    rw [← met]
    rfl
  have count : (enumerateLocked state freed length state.deviceList.head? atRead).count =
      (state.deviceList.take (Ioctl.listRemaining length)).length := by
    rw [← met]
    rfl
  refine ⟨nodup, ?_, fun fits => ?_, fun short => ?_⟩
  · rw [count, connections, List.length_map]
  · have all : state.deviceList.take (Ioctl.listRemaining length) = state.deviceList :=
      List.take_of_length_le fits
    rw [connections, all]
    rw [all] at shown
    exact shown
  · have fewer : Ioctl.listRemaining length < state.deviceList.length := short
    rw [count, connections, List.length_take, Nat.min_eq_left fewer.le]
    exact ⟨rfl, shown⟩

theorem enumerateLocked_met_le (state : ListState) (freed : DeviceId → FreedMemory)
    (length : UInt32) (currentEntry : Option DeviceId) (atRead : Registered) :
    (enumerateLocked state freed length currentEntry atRead).met.length ≤
      Ioctl.listRemaining length :=
  LinkedList.walk_length_le _ _ _

/-- A call that reads nothing: the list was empty, or nothing fits. -/
theorem consistent_of_unread (freed : DeviceId → FreedMemory) (length : UInt32)
    (currentEntry : Option DeviceId) (atRead : Registered) (nodup : atRead.deviceList.Nodup)
    (met : (enumerateLocked state freed length currentEntry atRead).met = [])
    (nothing : atRead.deviceList = [] ∨ Ioctl.listRemaining length = 0) :
    ConsistentSnapshot (enumerateLocked state freed length currentEntry atRead) := by
  have connections : (enumerateLocked state freed length currentEntry atRead).connections = [] := by
    change ((enumerateLocked state freed length currentEntry atRead).met).map _ = []
    rw [met, List.map_nil]
  have count : (enumerateLocked state freed length currentEntry atRead).count = 0 := by
    change ((enumerateLocked state freed length currentEntry atRead).met).length = 0
    rw [met, List.length_nil]
  refine ⟨?_, enumerateLocked_met_le .., atRead, Or.inl rfl, nodup, ?_, fun fits => ?_,
    fun short => ?_⟩
  · rw [met]
    exact fun _ member => absurd member List.not_mem_nil
  · rw [count, connections, List.length_nil]
  · have empty : atRead.deviceList = [] := by
      rcases nothing with empty | room
      · exact empty
      · exact List.eq_nil_of_length_eq_zero (Nat.le_zero.mp (fits.trans (Nat.le_of_eq room)))
    rw [connections, empty]
    exact List.Forall₂.nil
  · rcases nothing with empty | room
    · rw [empty] at short
      exact absurd short (Nat.not_lt_zero _)
    · change Ioctl.listRemaining length < _ at short
      change _ = Ioctl.listRemaining length ∧
        List.Forall₂ _ (atRead.deviceList.take (Ioctl.listRemaining length)) _
      rw [count, connections, room, List.take_zero]
      exact ⟨rfl, List.Forall₂.nil⟩

theorem consistentSnapshot_iff (freed : DeviceId → FreedMemory) (length : UInt32)
    (currentEntry : Option DeviceId) (atRead : Registered) (nodup : state.deviceList.Nodup)
    (head : HeadRead state currentEntry atRead) :
    ConsistentSnapshot (enumerateLocked state freed length currentEntry atRead) ↔
      ∀ entry, currentEntry = some entry → ReadsLinked state length entry := by
  constructor
  · rintro consistent entry rfl
    by_cases room : Ioctl.listRemaining length = 0
    · exact Or.inl room
    obtain ⟨remaining, positive⟩ := Nat.exists_eq_succ_of_ne_zero room
    have first : entry ∈ (enumerateLocked state freed length (some entry) atRead).met := by
      unfold enumerateLocked
      dsimp only
      rw [positive]
      exact List.mem_cons_self
    have member : entry ∈ state.deviceList := (consistent.linked entry first).1
    refine Or.inr ⟨member, fun device listed => ?_⟩
    have met := enumerateLocked_met freed length atRead nodup
    rw [head.first entry rfl member] at met
    exact (consistent.linked device (met ▸ listed)).2
  · intro linked
    cases entry : currentEntry with
    | none =>
        rw [entry] at head
        have empty : atRead.deviceList = [] := List.head?_eq_none_iff.mp head.read.symm
        have met : (enumerateLocked state freed length none atRead).met = [] := by
          unfold enumerateLocked
          cases Ioctl.listRemaining length <;> rfl
        exact consistent_of_unread freed length none atRead head.nodup met (Or.inl empty)
    | some first =>
        rw [entry] at head linked
        rcases linked first rfl with room | ⟨member, allocated⟩
        · have terminates := enumerateLocked_met_le state freed length (some first) atRead
          rw [room] at terminates
          exact consistent_of_unread freed length (some first) atRead head.nodup
            (List.eq_nil_of_length_eq_zero (Nat.le_zero.mp terminates)) (Or.inr room)
        · -- The entry is linked, so it is the first one and the walk meets the list.
          rw [← head.first first rfl member]
          have met := enumerateLocked_met freed length atRead nodup
          refine ⟨fun other listed => ?_, enumerateLocked_met_le .., state.registered, Or.inr rfl,
            enumerateLocked_head freed length atRead nodup allocated⟩
          rw [met] at listed
          exact ⟨List.mem_of_mem_take listed, allocated other listed⟩

def ListState.Consistent (state : ListState) : Prop :=
  ∀ result ∈ state.results, ConsistentSnapshot result

theorem consistent_append (before : ListState) (result : ListResult)
    (logged : after.results = before.results ++ [result]) :
    after.Consistent ↔ before.Consistent ∧ ConsistentSnapshot result := by
  unfold ListState.Consistent
  rw [logged, List.forall_mem_append, List.forall_mem_singleton]

theorem consistent_of_same (same : after.results = state.results) (action : ListAction)
    (allowed : HeadStillLinked state action) :
    after.Consistent ↔ state.Consistent ∧ HeadStillLinked state action := by
  unfold ListState.Consistent
  rw [same, and_iff_left allowed]

theorem listNext_consistent (inv : ListInv state) (action : ListAction)
    (taken : listNext state action = some after) :
    after.Consistent ↔ state.Consistent ∧ HeadStillLinked state action := by
  cases action with
  | control action =>
      obtain ⟨control, _, rfl⟩ := Option.map_eq_some_iff.mp taken
      exact consistent_of_same rfl (.control action) trivial
  | pnpStart device info =>
      cases taken
      exact consistent_of_same rfl (.pnpStart device info) trivial
  | setBlockCount device blockCount =>
      cases taken
      exact consistent_of_same rfl (.setBlockCount device blockCount) trivial
  | list thread outputBufferLength =>
      unfold listNext at taken
      dsimp only at taken
      split at taken
      · have allowed : HeadStillLinked state (.list thread outputBufferLength) := trivial
        split_ifs at taken
        · cases taken
          exact consistent_of_same rfl _ allowed
        · cases taken
          exact consistent_of_same rfl _ allowed
      · cases taken
  | readHead thread =>
      unfold listNext at taken
      dsimp only at taken
      split at taken <;> cases taken
      exact consistent_of_same rfl (.readHead thread) trivial
  | enumerate thread freed =>
      unfold listNext at taken
      dsimp only at taken
      split at taken
      · rename_i length currentEntry atRead acquires
        cases taken
        have head := inv.reads thread length currentEntry atRead acquires
        rw [consistent_append state _ rfl,
          consistentSnapshot_iff freed length currentEntry atRead inv.nodup head]
        refine and_congr_right fun _ => ?_
        unfold HeadStillLinked
        dsimp only
        rw [acquires]
        cases currentEntry with
        | none => exact iff_of_true (fun _ found => by cases found) trivial
        | some entry => exact ⟨fun linked => linked entry rfl, fun linked _ found => by
            cases found
            exact linked⟩
      · cases taken

end Invariant

/-- Every list call of a run returns a consistent snapshot exactly when each of them
finds the entry it read before the lock still linked, and the devices allocated. -/
theorem list_snapshot_iff (actions : List ListAction) (last : ListState)
    (ran : run listNext .initial actions = some last) :
    (∀ result ∈ last.results, ConsistentSnapshot result) ↔
      AllAllowed listNext HeadStillLinked .initial actions := by
  have initially : ListState.initial.Consistent := fun _ member => by cases member
  have clean := clean_iff_allAllowed ListInv ListState.Consistent
    (fun _ _ action inv taken => inv.step action taken)
    (fun _ _ action inv taken => listNext_consistent inv action taken)
    actions _ _ listInv_initial ran
  exact clean.trans (and_iff_right initially)

/-! ## A disk that is listed, and one that leaves the list between the two reads -/

def beginList : List ListAction := [.list 0 5000, .readHead 0]

def noFreedMemory (_ : DeviceId) : FreedMemory :=
  { entry :=
      { properties := sectorProps 512
        busNumber := 0
        targetId := 0
        lun := 0
        connectionId := 0
        diskNumber := 0
        pnpDeviceId := [] }
    flink := none }

def oneConnection : List ListAction :=
  (createUntilLink 0 [118] ++ finishCreate 0).map .control ++
    [.control (.lifecycle (.monitor 0))]

def unlinkFirst : List ListAction :=
  removeByAddr.map (fun step => .control (.lifecycle step)) ++
    List.replicate 6 (.control (.lifecycle (.monitor 0)))

theorem list_snapshot_one_disk :
    ∃ last, run listNext .initial (oneConnection ++ beginList ++ [.enumerate 0 noFreedMemory]) =
        some last ∧ last.results.map (·.met) = [[0]] ∧
      ∀ result ∈ last.results, ConsistentSnapshot result := by
  have enabled : (run listNext .initial
      (oneConnection ++ beginList ++ [.enumerate 0 noFreedMemory])).isSome = true := by
    decide +kernel
  obtain ⟨last, ran⟩ := Option.isSome_iff_exists.mp enabled
  refine ⟨last, ran, ?_, ?_⟩
  · exact field_of_run (fun state : ListState => state.results.map (·.met)) _ _ _ [[0]] ran
      (by decide +kernel)
  · exact (list_snapshot_iff _ last ran).mpr (by decide +kernel)

/-- The entry that was first is unlinked while the call waits for the lock. -/
theorem list_meets_unlinked :
    ∃ last, run listNext .initial
        (oneConnection ++ beginList ++ unlinkFirst ++ [.enumerate 0 noFreedMemory]) = some last ∧
      ¬ ∀ result ∈ last.results, ConsistentSnapshot result := by
  have enabled : (run listNext .initial
      (oneConnection ++ beginList ++ unlinkFirst ++ [.enumerate 0 noFreedMemory])).isSome =
        true := by
    decide +kernel
  obtain ⟨last, ran⟩ := Option.isSome_iff_exists.mp enabled
  refine ⟨last, ran, fun consistent => ?_⟩
  have listed : last.results.map (fun result => (result.met, result.atLock.deviceList)) =
      [([0], [])] :=
    field_of_run (fun state : ListState =>
      state.results.map fun result => (result.met, result.atLock.deviceList)) _ _ _ [([0], [])] ran
        (by decide +kernel)
  obtain ⟨result, single, fields⟩ := List.map_eq_singleton_iff.mp listed
  have snapshot := consistent result (by rw [single]; exact List.mem_singleton_self result)
  have unlinked := snapshot.linked 0
  rw [(Prod.mk.inj fields).1, (Prod.mk.inj fields).2] at unlinked
  exact absurd (unlinked List.mem_cons_self).1 List.not_mem_nil

end Wnbd.Control
