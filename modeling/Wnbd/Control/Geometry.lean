import Wnbd.Control.Steps
import Wnbd.Scsi.Capacity

/-!
# Disk geometry

`WnbdCreateConnection` and `WnbdSetDiskSize` write the geometry of a disk.  The
first one checks it and the second one does not.  `geometry_stays_valid` follows
a run whose stored sizes would pass the check of the first.
-/

set_option autoImplicit false

namespace Wnbd.Control

open Wnbd.Scsi Wnbd.Adapter Wnbd.Adapter.AdapterState Wnbd.Adapter.LifecycleState StepSystem
open TracedBuffer

/-- The next step of a thread in `WnbdSetDiskSize`. -/
inductive ResizePc
  | idle
  | write (blockCount : UInt64)
  | release
deriving DecidableEq, Repr

structure GeometryState where
  lifecycle : LifecycleState
  resizes : Nat → ResizePc

def GeometryState.initial : GeometryState :=
  { lifecycle := LifecycleState.initial
    resizes := fun _ => .idle }

namespace GeometryState

def setResize (state : GeometryState) (thread : Nat) (pc : ResizePc) : GeometryState :=
  { state with resizes := Function.update state.resizes thread pc }

def setLifecycle (state : GeometryState) (lifecycle : LifecycleState) : GeometryState :=
  { state with lifecycle }

end GeometryState

open GeometryState

def setBlockCount (blockCount : UInt64) (device : WnbdDiskDevice) : WnbdDiskDevice :=
  { device with properties := { device.properties with blockCount } }

/-- `WnbdSetDiskSize` up to the reference that `WnbdFindDeviceByConnId` takes. -/
def setDiskSizeStep (state : GeometryState) (thread : Nat) (connectionId blockCount : UInt64) :
    Option GeometryState :=
  if state.resizes thread = .idle then
    (lookupStep state.lifecycle thread (.connId connectionId)).map fun lifecycle =>
      match lifecycle.users thread with
      | .holding _ => (state.setLifecycle lifecycle).setResize thread (.write blockCount)
      | .idle | .waitingThread _ => state.setLifecycle lifecycle
  else none

/-- The write of the block count, and `WnbdReleaseDevice`. -/
def resizeStep (state : GeometryState) (thread : Nat) : Option GeometryState :=
  match state.resizes thread with
  | .idle => none
  | .write blockCount =>
      match state.lifecycle.users thread with
      | .holding device =>
          some ((state.setLifecycle (state.lifecycle.setAdapter
            (state.lifecycle.adapter.updateDevice device (setBlockCount blockCount)))).setResize
              thread .release)
      | .idle | .waitingThread _ => none
  | .release =>
      (userStep state.lifecycle thread .release).map fun lifecycle =>
        (state.setLifecycle lifecycle).setResize thread .idle

inductive GeometryAction
  | lifecycle (action : LifecycleAction)
  | setDiskSize (thread : Nat) (connectionId blockCount : UInt64)
  | resize (thread : Nat)
deriving DecidableEq

/-- A thread inside `WnbdSetDiskSize` runs nothing else. -/
def freeToRun (state : GeometryState) (action : LifecycleAction) : Bool :=
  match actorOf action with
  | some thread => state.resizes thread = .idle
  | none => true

def geometryNext (state : GeometryState) : GeometryAction → Option GeometryState
  | .lifecycle action =>
      if freeToRun state action then
        (lifecycleNext state.lifecycle action).map state.setLifecycle
      else none
  | .setDiskSize thread connectionId blockCount =>
      setDiskSizeStep state thread connectionId blockCount
  | .resize thread => resizeStep state thread

/-! ## Valid geometry -/

structure ValidGeometry (props : WnbdProperties) : Prop where
  blockSize : props.blockSize = 512
  nonempty : 1 ≤ props.blockCount.toNat
  bounded : props.blockCount.toNat ≤ (2 ^ 64 - 1) / 512

theorem validGeometry_iff (props : WnbdProperties) :
    ValidGeometry props ↔ geometryAccepted props = true := by
  rw [geometryAccepted_iff]
  constructor
  · rintro ⟨blockSize, nonempty, bounded⟩
    exact ⟨blockSize, nonempty, by omega⟩
  · rintro ⟨blockSize, nonempty, bounded⟩
    exact ⟨blockSize, nonempty, by omega⟩

/-- A block count `WnbdCreateConnection` would take with 512 byte blocks. -/
def ValidBlockCount (blockCount : UInt64) : Prop :=
  1 ≤ blockCount.toNat ∧ blockCount.toNat ≤ (2 ^ 64 - 1) / 512

instance (blockCount : UInt64) : Decidable (ValidBlockCount blockCount) := by
  unfold ValidBlockCount
  infer_instance

/-- The size a step stores is one that a create would take. -/
def StoresValidSize (state : GeometryState) : GeometryAction → Prop
  | .resize thread => ∀ blockCount, state.resizes thread = .write blockCount →
      ValidBlockCount blockCount
  | .lifecycle _ | .setDiskSize _ _ _ => True

instance decidableStored (pc : ResizePc) :
    Decidable (∀ blockCount, pc = .write blockCount → ValidBlockCount blockCount) := by
  cases pc with
  | write blockCount =>
      refine decidable_of_iff (ValidBlockCount blockCount) ⟨?_, fun all => all blockCount rfl⟩
      intro valid _ same
      cases same
      exact valid
  | idle => exact isTrue fun _ same => by cases same
  | release => exact isTrue fun _ same => by cases same

instance (state : GeometryState) (action : GeometryAction) :
    Decidable (StoresValidSize state action) := by
  cases action with
  | resize thread => exact decidableStored (state.resizes thread)
  | lifecycle _ => exact isTrue trivial
  | setDiskSize _ _ _ => exact isTrue trivial

/-- What the I/O path relies on. -/
structure OffsetsExact (props : WnbdProperties) : Prop where
  ranges : ∀ srb cdb format startingLbn dataLength fua, srb.cdb = some cdb →
    rangeFormat (cdb.asByte 0) = some format →
    wnbdPendOperation props srb = .pend startingLbn dataLength fua →
      startingLbn.toNat = logicalBlockAddress cdb format * props.blockSize.toNat
  unmaps : ∀ srb cdb buffer startingLbn dataLength fua, srb.cdb = some cdb →
    cdb.asByte 0 = scsiopUnmap → srb.dataBuffer = some buffer →
    wnbdPendOperation props srb = .pend startingLbn dataLength fua →
      startingLbn.toNat = descriptorAddress buffer * props.blockSize.toNat

/-- READ CAPACITY has a last block to report. -/
structure HasLastBlock (props : WnbdProperties) : Prop where
  ten : ∀ srb cdb, cdb.asByte 0 = scsiopReadCapacity → srb.dataBuffer.isSome →
    readCapacityDataSize ≤ srb.dataTransferLength →
      (wnbdHandleReadCapacity props srb cdb).srbStatus = srbStatusSuccess ∧
        reportedLba 4 (wnbdHandleReadCapacity props srb cdb) =
          some (min (props.blockCount.toNat - 1) (2 ^ 32 - 1))
  sixteen : ∀ srb cdb, cdb.asByte 0 = scsiopReadCapacity16 →
    cdb.serviceAction = serviceActionReadCapacity16 → srb.dataBuffer.isSome →
    readCapacityDataExSize ≤ srb.dataTransferLength →
      (wnbdHandleReadCapacity props srb cdb).srbStatus = srbStatusSuccess ∧
        reportedLba 8 (wnbdHandleReadCapacity props srb cdb) =
          some (props.blockCount.toNat - 1)

/-- An address on the disk times the block size fits 64 bits. -/
theorem scaled_exact {props : WnbdProperties} (valid : ValidGeometry props) (address : UInt64)
    (count : UInt32)
    (inside : address.toNat + count.toNat ≤ props.blockCount.toNat) :
    (address * props.blockSize.toUInt64).toNat = address.toNat * props.blockSize.toNat := by
  have bounded := valid.bounded
  have size : props.blockSize.toUInt64.toNat = 512 := by
    rw [valid.blockSize]
    rfl
  have sizeExact : props.blockSize.toNat = 512 := by
    rw [valid.blockSize]
    rfl
  rw [UInt64.toNat_mul, size, sizeExact, Nat.mod_eq_of_lt]
  omega

theorem offsetsExact_of_valid {props : WnbdProperties} (valid : ValidGeometry props) :
    OffsetsExact props where
  ranges := by
    intro srb cdb format startingLbn dataLength fua found ranged pended
    rw [wnbdPendOperation_range props srb cdb format found ranged] at pended
    unfold wnbdPendRange at pended
    dsimp only at pended
    split_ifs at pended with short outside
    cases pended
    rw [← srbCdbGetRange_offset cdb format ranged]
    exact scaled_exact valid _ _ ((range_test_iff _ _ _).mp outside)
  unmaps := by
    intro srb cdb buffer startingLbn dataLength fua found opcode buffered pended
    have notRange : ¬ cdb.asByte 0 ∈ rangeOps := by
      rw [opcode]
      decide
    simp only [wnbdPendOperation, found] at pended
    rw [if_neg notRange, if_pos opcode, wnbdPendUnmap, buffered] at pended
    simp only [wnbdPendUnmapList] at pended
    split_ifs at pended with short anchored empty several outside
    cases pended
    rw [← unmapStartingLba_toNat]
    exact scaled_exact valid _ _ ((range_test_iff _ _ _).mp outside)

theorem hasLastBlock_of_valid {props : WnbdProperties} (valid : ValidGeometry props) :
    HasLastBlock props where
  ten := by
    intro srb cdb opcode hasBuffer room
    exact wnbdHandleReadCapacity_ten props srb cdb valid.nonempty opcode hasBuffer room
  sixteen := by
    intro srb cdb opcode service hasBuffer room
    exact wnbdHandleReadCapacity_sixteen props srb cdb valid.nonempty opcode service hasBuffer room

/-! ## The invariant -/

/-- The create call is past its geometry check and has not failed. -/
def geometryChecked : CreatorPc → Bool
  | .startThread _ | .referenceThread _ | .populatePool | .copyInfo | .link | .count | .notify
  | .connect | .done => true
  | _ => false

theorem geometryChecked_of_linked (pc : CreatorPc) (linked : pc.linked = true) :
    geometryChecked pc = true := by
  cases pc <;> first | rfl | cases linked

structure GeometryInv (state : GeometryState) : Prop where
  listed : ∀ device ∈ state.lifecycle.adapter.deviceList,
    (state.lifecycle.creators device).linked = true
  checked : ∀ device props, geometryChecked (state.lifecycle.creators device) = true →
    propertiesOf state.lifecycle.adapter device = some props → geometryAccepted props = true

theorem geometryInv_initial : GeometryInv .initial where
  listed := fun _ member => absurd member List.not_mem_nil
  checked := fun _ _ passed => by cases passed

/-- A create call passes its check in one step, with the properties it checks. -/
theorem creatorStep_checked {state after : LifecycleState} {call : DeviceId} (fails : Bool)
    (taken : creatorStep state call fails = some after)
    (passed : geometryChecked (after.creators call) = true) :
    geometryChecked (state.creators call) = true ∨
      (∃ scsiBitNumber, state.creators call = .assignAddress scsiBitNumber) ∧
        ∀ props, propertiesOf state.adapter call = some props → geometryAccepted props = true := by
  cases creatorStep_cases taken with
  | accepts bit here accepted =>
      refine Or.inr ⟨⟨bit, here⟩, ?_⟩
      intro props stored
      obtain ⟨value, found, rfl⟩ := Option.map_eq_some_iff.mp stored
      rw [found] at accepted
      exact accepted
  | moves pc next here move =>
      simp only [setCreator, Function.update_self] at passed
      cases move with
      | populatePool | copyInfo | notify =>
          rw [here]
          exact Or.inl rfl
      | _ => cases passed
  | writes pc next change here write =>
      simp only [setCreator, Function.update_self] at passed
      cases write with
      | thread bit | connected =>
          rw [here]
          exact Or.inl rfl
      | inquiry => cases passed
  | starts _ here | links here | counts here =>
      rw [here]
      exact Or.inl rfl
  | allocates _ here | noAddress here | claims _ here | refuses _ here | leaves _ _ here
  | frees _ _ here | clears _ _ here | releases _ here =>
      simp only [setCreator, Function.update_self] at passed
      cases passed

section Steps

variable {state : GeometryState}

theorem GeometryInv.creator (inv : GeometryInv state) (call : DeviceId) (fails : Bool)
    (after : LifecycleState) (taken : creatorStep state.lifecycle call fails = some after) :
    GeometryInv (state.setLifecycle after) := by
  have effect := creatorStep_effect fails taken
  refine ⟨effect.listed inv.listed, fun device props passed stored => ?_⟩
  change geometryChecked (after.creators device) = true at passed
  change propertiesOf after.adapter device = some props at stored
  rcases effect.properties device props stored with old | ⟨rfl, requested, allocating⟩
  · by_cases own : device = call
    · subst own
      rcases creatorStep_checked fails taken passed with already | ⟨-, accepted⟩
      · exact inv.checked device props already old
      · exact accepted props old
    · rw [effect.others device own] at passed
      exact inv.checked device props passed old
  · -- A device that is just allocated has not been checked.
    rcases creatorStep_checked fails taken passed with already | ⟨⟨bit, checking⟩, -⟩
    · rw [allocating] at already
      cases already
    · rw [allocating] at checking
      cases checking

theorem createBegin_unchecked {state after : LifecycleState} {call : DeviceId}
    (props : WnbdProperties) (begun : createBegin state call props = some after) :
    geometryChecked (after.creators call) = false := by
  obtain ⟨_, body⟩ := Option.ite_none_right_eq_some.mp begun
  dsimp only at body
  split_ifs at body <;> cases body <;> simp [setCreator, geometryChecked]

theorem GeometryInv.create (inv : GeometryInv state) (call : DeviceId) (props : WnbdProperties)
    (after : LifecycleState) (begun : createBegin state.lifecycle call props = some after) :
    GeometryInv (state.setLifecycle after) := by
  obtain ⟨others, -, -, list, devices, -, -⟩ := createBegin_effect props begun
  refine ⟨fun device member => ?_, fun device stored passed found => ?_⟩
  · change device ∈ after.adapter.deviceList at member
    rw [list] at member
    exact createBegin_linked props begun device (inv.listed device member)
  · change geometryChecked (after.creators device) = true at passed
    by_cases own : device = call
    · rw [own, createBegin_unchecked props begun] at passed
      cases passed
    · rw [others device own] at passed
      change propertiesOf after.adapter device = some stored at found
      unfold propertiesOf at found
      rw [devices] at found
      exact inv.checked device stored passed found

/-- A step of the life cycle stores no size and inserts checked devices only. -/
theorem GeometryInv.lifecycle (inv : GeometryInv state) (action : LifecycleAction)
    (after : LifecycleState) (taken : lifecycleNext state.lifecycle action = some after) :
    GeometryInv (state.setLifecycle after) := by
  rcases lifecycleNext_kept action taken with
    ⟨call, fails, rfl, -⟩ | ⟨call, props, rfl, begun⟩ | kept
  · exact inv.creator call fails after taken
  · exact inv.create call props after begun
  refine ⟨fun device member => ?_, fun device props passed stored => ?_⟩
  · change device ∈ after.adapter.deviceList at member
    change (after.creators device).linked = true
    rw [kept.creators]
    rw [kept.list] at member
    exact inv.listed device ((listAfter_sublist _ _).subset member)
  · change geometryChecked (after.creators device) = true at passed
    rw [kept.creators] at passed
    exact inv.checked device props passed (kept.properties device props stored)

theorem GeometryInv.setResize (inv : GeometryInv state) (thread : Nat) (pc : ResizePc) :
    GeometryInv (state.setResize thread pc) := ⟨inv.listed, inv.checked⟩

/-- A size that passes the check keeps the rest of the geometry. -/
theorem geometryAccepted_resized (props : WnbdProperties) (blockCount : UInt64)
    (accepted : geometryAccepted props = true) (valid : ValidBlockCount blockCount) :
    geometryAccepted { props with blockCount } = true := by
  rw [← validGeometry_iff] at accepted ⊢
  exact ⟨accepted.blockSize, valid.1, valid.2⟩

theorem GeometryInv.write (inv : GeometryInv state) (device : DeviceId) (blockCount : UInt64)
    (valid : ValidBlockCount blockCount) :
    GeometryInv (state.setLifecycle (state.lifecycle.setAdapter
      (state.lifecycle.adapter.updateDevice device (setBlockCount blockCount)))) where
  listed := inv.listed
  checked := by
    intro found props passed stored
    change propertiesOf (state.lifecycle.adapter.updateDevice device _) found = some props at stored
    unfold propertiesOf at stored
    by_cases own : found = device
    · subst own
      rw [updateDevice_self, Option.map_map] at stored
      obtain ⟨value, allocated, rfl⟩ := Option.map_eq_some_iff.mp stored
      refine geometryAccepted_resized value.properties blockCount ?_ valid
      refine inv.checked found value.properties passed ?_
      rw [propertiesOf, allocated, Option.map_some]
    · rw [updateDevice_of_ne _ device found _ own] at stored
      exact inv.checked found props passed stored

theorem GeometryInv.step (inv : GeometryInv state) (action : GeometryAction)
    (after : GeometryState) (stores : StoresValidSize state action)
    (taken : geometryNext state action = some after) : GeometryInv after := by
  cases action with
  | lifecycle action =>
      obtain ⟨_, stepped⟩ := Option.ite_none_right_eq_some.mp taken
      obtain ⟨lifecycle, moved, rfl⟩ := Option.map_eq_some_iff.mp stepped
      exact inv.lifecycle action lifecycle moved
  | setDiskSize thread connectionId blockCount =>
      obtain ⟨_, looked⟩ := Option.ite_none_right_eq_some.mp taken
      obtain ⟨lifecycle, moved, rfl⟩ := Option.map_eq_some_iff.mp looked
      have kept := inv.lifecycle (.lookup thread (.connId connectionId)) lifecycle moved
      split
      · exact kept.setResize thread (.write blockCount)
      · exact kept
      · exact kept
  | resize thread =>
      change resizeStep state thread = some after at taken
      unfold resizeStep at taken
      cases pc : state.resizes thread with
      | idle => simp only [pc] at taken; cases taken
      | write blockCount =>
          simp only [pc] at taken
          cases held : state.lifecycle.users thread with
          | idle => simp only [held] at taken; cases taken
          | waitingThread device => simp only [held] at taken; cases taken
          | holding device =>
              simp only [held] at taken
              cases taken
              exact (inv.write device blockCount (stores blockCount pc)).setResize thread .release
      | release =>
          simp only [pc] at taken
          obtain ⟨lifecycle, moved, rfl⟩ := Option.map_eq_some_iff.mp taken
          exact (inv.lifecycle (.user thread .release) lifecycle moved).setResize thread .idle

end Steps

/-! ## Runs -/

/-- Every registered disk can be addressed and has a last block. -/
def GeometryValid (adapter : AdapterState) : Prop :=
  ∀ device ∈ adapter.deviceList, ∀ props, propertiesOf adapter device = some props →
    ValidGeometry props ∧ OffsetsExact props ∧ HasLastBlock props

/-- As long as every size that is set is a valid one, the geometry of each registered disk is. -/
theorem geometry_stays_valid (state : GeometryState)
    (path : Path geometryNext StoresValidSize GeometryState.initial state) :
    GeometryValid state.lifecycle.adapter := by
  have inv : GeometryInv state := path.invariant GeometryInv geometryInv_initial
    fun before action after stores held taken => held.step action after stores taken
  intro device member props stored
  have linked := inv.listed device member
  have accepted := inv.checked device props (geometryChecked_of_linked _ linked) stored
  have valid := (validGeometry_iff props).mpr accepted
  exact ⟨valid, offsetsExact_of_valid valid, hasLastBlock_of_valid valid⟩

/-- A disk is mapped and the size of the connection set. -/
def mapAndResize (blockCount : UInt64) : List GeometryAction :=
  ((.create 0
      { instanceName := [118, 109]
        flags := ⟨false, true, true, true, false, false⟩
        blockCount := 2048
        blockSize := 512
        pid := 4 } :: List.replicate 13 (.creator 0 false)).map GeometryAction.lifecycle) ++
    [.setDiskSize 0 2 blockCount, .resize 0, .resize 0]

theorem geometry_stays_valid_resized :
    ∃ state, run geometryNext GeometryState.initial (mapAndResize 4096) = some state ∧
      state.lifecycle.adapter.deviceList = [0] ∧ GeometryValid state.lifecycle.adapter := by
  have enabled : (run geometryNext GeometryState.initial (mapAndResize 4096)).isSome = true := by
    decide +kernel
  have stores : AllAllowed geometryNext StoresValidSize GeometryState.initial
      (mapAndResize 4096) := by
    decide +kernel
  obtain ⟨state, ran⟩ := Option.isSome_iff_exists.mp enabled
  have mapped : state.lifecycle.adapter.deviceList = [0] :=
    field_of_run (·.lifecycle.adapter.deviceList) _ state _ _ ran (by decide +kernel)
  exact ⟨state, ran, mapped, geometry_stays_valid state (path_of_run _ _ _ stores ran)⟩

/-- A registered disk is resized to no blocks. -/
theorem resized_to_nothing :
    ¬ ∀ actions state, run geometryNext GeometryState.initial actions = some state →
      ∀ device ∈ state.lifecycle.adapter.deviceList, ∀ props,
        propertiesOf state.lifecycle.adapter device = some props → ValidGeometry props := by
  intro always
  have enabled : (run geometryNext GeometryState.initial (mapAndResize 0)).isSome = true := by
    decide +kernel
  obtain ⟨state, ran⟩ := Option.isSome_iff_exists.mp enabled
  have mapped : state.lifecycle.adapter.deviceList = [0] :=
    field_of_run (·.lifecycle.adapter.deviceList) _ state _ _ ran (by decide +kernel)
  have empty : (propertiesOf state.lifecycle.adapter 0).map (·.blockCount) = some 0 :=
    field_of_run (fun last => (propertiesOf last.lifecycle.adapter 0).map (·.blockCount)) _ state
      _ _ ran (by decide +kernel)
  obtain ⟨props, stored, noBlocks⟩ := Option.map_eq_some_iff.mp empty
  have valid := always _ state ran 0 (by rw [mapped]; exact List.mem_singleton_self 0) props stored
  have nonempty := valid.nonempty
  rw [noBlocks] at nonempty
  exact absurd nonempty (by decide)

end Wnbd.Control
