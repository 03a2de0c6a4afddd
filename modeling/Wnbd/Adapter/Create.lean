import Wnbd.Adapter.State

/-!
# WnbdCreateConnection

The whole call run without interference, with the failures of the pool and of
`PsCreateSystemThread` as inputs.  `failed_create_unchanged_iff` says which
failing calls leave the adapter as it was.
-/

set_option autoImplicit false

namespace Wnbd.Adapter

open Wnbd.Scsi AdapterState

structure CreateFaults where
  deviceAllocation : Bool
  inquiryAllocation : Bool
  threadCreation : Bool
deriving DecidableEq, Repr

structure WnbdConnectionInfo where
  properties : WnbdProperties
  busNumber : Nat
  targetId : Nat
  lun : Nat
  connectionId : UInt64
deriving DecidableEq

structure CreateResult where
  status : NtStatus
  state : AdapterState
  connectionInfo : Option WnbdConnectionInfo

/-- The block at the `Exit` label.  Its outer condition tests `Device`, so a
failure before the device exists skips the whole block. -/
def createExit (state : AdapterState) (rpAcquired : Bool) (device : Option DeviceId)
    (scsiBitNumber : Option Nat) (status : NtStatus) : CreateResult :=
  match device with
  | none => ⟨status, state, none⟩
  | some device =>
      if (state.devices device).any (·.deviceMonitorThread) then ⟨status, state, none⟩
      else
        let freed := state.setDevice device none
        let cleared := match scsiBitNumber with
          | some scsiBitNumber => freed.clearBit scsiBitNumber
          | none => freed
        if status ≠ 0 ∧ rpAcquired then ⟨status, cleared.releaseRundown, none⟩
        else ⟨status, cleared, none⟩

def createAtAddress (state : AdapterState) (rpAcquired : Bool) (device : DeviceId)
    (props : WnbdProperties) (faults : CreateFaults) : CreateResult :=
  match BitMap.findClear state.scsiBitMap with
  | none => createExit state rpAcquired (some device) none statusTooManyAddresses
  | some scsiBitNumber =>
      let claimed := (state.claimBit scsiBitNumber).assignAddress device scsiBitNumber
      if geometryAccepted props = false then
        createExit claimed rpAcquired (some device) (some scsiBitNumber) statusInvalidParameter
      else if faults.threadCreation then
        createExit claimed rpAcquired (some device) (some scsiBitNumber)
          statusInsufficientResources
      else
        let started := claimed.updateDevice device ({ · with deviceMonitorThread := true })
        let linked := { started.linkDevice device with deviceCount := started.deviceCount + 1 }
        { status := statusSuccess
          state := linked.updateDevice device ({ · with connected := true })
          connectionInfo := some
            { properties := props
              busNumber := scsiBus scsiBitNumber
              targetId := scsiTarget scsiBitNumber
              lun := scsiLun scsiBitNumber
              connectionId := claimed.connectionId } }

/-- `device` is the address `MallocZero` returns. -/
def wnbdCreateConnection (state : AdapterState) (device : DeviceId) (props : WnbdProperties)
    (faults : CreateFaults) : CreateResult :=
  let rpAcquired := state.acquireRundown.1
  let acquired := state.acquireRundown.2
  if !acquired.newMappingsAllowed then ⟨statusShutdownInProgress, acquired, none⟩
  else if !rpAcquired then ⟨statusShutdownInProgress, acquired, none⟩
  else if (acquired.findDeviceByInstanceName props.instanceName).isSome then
    createExit acquired rpAcquired none none statusObjectNameCollision
  else if faults.deviceAllocation then
    createExit acquired rpAcquired none none statusInsufficientResources
  else
    let allocated := acquired.setDevice device (some (WnbdDiskDevice.zeroed props))
    if faults.inquiryAllocation then
      createExit allocated rpAcquired (some device) none statusInsufficientResources
    else
      createAtAddress (allocated.updateDevice device ({ · with inquiryData := true })) rpAcquired
        device props faults

/-- What a failed create must leave as it was. -/
structure SameRegistry (before after : AdapterState) : Prop where
  references : after.rundownProtection.references = before.rundownProtection.references
  scsiBitMap : after.scsiBitMap = before.scsiBitMap
  deviceList : after.deviceList = before.deviceList
  connIdHashBuckets : after.connIdHashBuckets = before.connIdHashBuckets
  deviceCount : after.deviceCount = before.deviceCount

/-- The failing calls that take a rundown reference and never reach the release:
`NewMappingsAllowed` is off, the name is taken, or the device cannot be allocated. -/
def LeaksReference (state : AdapterState) (props : WnbdProperties) (faults : CreateFaults) : Prop :=
  state.rundownProtection.waiting = false ∧
    (state.newMappingsAllowed = false ∨
      (state.findDeviceByInstanceName props.instanceName).isSome ∨
      faults.deviceAllocation = true)

/-! ## The exits of the function -/

theorem acquireRundown_refused (state : AdapterState)
    (waiting : state.rundownProtection.waiting = true) : state.acquireRundown = (false, state) := by
  simp [acquireRundown, Rundown.acquire, waiting]

theorem acquireRundown_taken (state : AdapterState)
    (running : state.rundownProtection.waiting = false) :
    state.acquireRundown = (true, { state with rundownProtection :=
      { state.rundownProtection with references := state.rundownProtection.references + 1 } }) := by
  simp [acquireRundown, Rundown.acquire, running]

theorem SameRegistry.refl (state : AdapterState) : SameRegistry state state :=
  ⟨rfl, rfl, rfl, rfl, rfl⟩

/-- `state` is `before` with one more reference and nothing else registered. -/
def HoldsReference (before state : AdapterState) : Prop :=
  SameRegistry { before with rundownProtection :=
    { before.rundownProtection with references := before.rundownProtection.references + 1 } } state

/-- The exit block of a device without a monitor undoes the address and the reference. -/
theorem createExit_restores (before state : AdapterState) (device : DeviceId)
    (value : WnbdDiskDevice) (scsiBitNumber : Option Nat) (status : NtStatus)
    (found : state.devices device = some value) (unmonitored : value.deviceMonitorThread = false)
    (failed : status ≠ 0)
    (held : HoldsReference before
      { state with scsiBitMap := match scsiBitNumber with
          | some scsiBitNumber => BitMap.clearBit state.scsiBitMap scsiBitNumber
          | none => state.scsiBitMap }) :
    SameRegistry before (createExit state true (some device) scsiBitNumber status).state := by
  have references : state.rundownProtection.references - 1 =
      before.rundownProtection.references := by
    rw [held.references]
    exact Nat.add_sub_cancel _ 1
  cases scsiBitNumber with
  | none =>
      simp only [createExit, found, Option.any_some, unmonitored, Bool.false_eq_true, if_false,
        ne_eq, failed, not_false_eq_true, and_self, if_true]
      exact ⟨references, held.scsiBitMap, held.deviceList, held.connIdHashBuckets,
        held.deviceCount⟩
  | some scsiBitNumber =>
      simp only [createExit, found, Option.any_some, unmonitored, Bool.false_eq_true, if_false,
        ne_eq, failed, not_false_eq_true, and_self, if_true]
      exact ⟨references, held.scsiBitMap, held.deviceList, held.connIdHashBuckets,
        held.deviceCount⟩

/-- From the claim of an address on, a failing create gives everything back. -/
theorem createAtAddress_restores (before state : AdapterState) (device : DeviceId)
    (value : WnbdDiskDevice) (props : WnbdProperties) (faults : CreateFaults)
    (found : state.devices device = some value) (unmonitored : value.deviceMonitorThread = false)
    (held : HoldsReference before state)
    (failed : (createAtAddress state true device props faults).status ≠ statusSuccess) :
    SameRegistry before (createAtAddress state true device props faults).state := by
  unfold createAtAddress at failed ⊢
  cases claim : BitMap.findClear state.scsiBitMap with
  | none =>
      exact createExit_restores before state device value none _ found unmonitored (by decide) held
  | some scsiBitNumber =>
      simp only [claim] at failed ⊢
      have foundClaimed : ((state.claimBit scsiBitNumber).assignAddress device
          scsiBitNumber).devices device = some
            { value with
              bus := scsiBus scsiBitNumber
              target := scsiTarget scsiBitNumber
              lun := scsiLun scsiBitNumber
              connectionId := state.connectionId + 1 } := by
        simp [assignAddress, updateDevice, setDevice, claimBit, found]
      have cleared : BitMap.clearBit (BitMap.setBit state.scsiBitMap scsiBitNumber) scsiBitNumber =
          state.scsiBitMap :=
        BitMap.clearBit_setBit _ _ (BitMap.findClear_spec _ _ claim)
      have heldClaimed : HoldsReference before
          { (state.claimBit scsiBitNumber).assignAddress device scsiBitNumber with
            scsiBitMap := BitMap.clearBit ((state.claimBit scsiBitNumber).assignAddress device
              scsiBitNumber).scsiBitMap scsiBitNumber } :=
        ⟨held.references, cleared.trans held.scsiBitMap, held.deviceList, held.connIdHashBuckets,
          held.deviceCount⟩
      split_ifs at failed ⊢ with geometry thread
      · exact createExit_restores before _ device _ (some scsiBitNumber) _ foundClaimed unmonitored
          (by decide) heldClaimed
      · exact createExit_restores before _ device _ (some scsiBitNumber) _ foundClaimed unmonitored
          (by decide) heldClaimed
      · exact absurd rfl failed

theorem references_leaked (before after : AdapterState)
    (leaked : after.rundownProtection.references = before.rundownProtection.references + 1) :
    ¬ SameRegistry before after := by
  intro same
  have unchanged := same.references
  omega

/-- A failed create changes nothing exactly when it does not leave through one of
the exits that keep the rundown reference. -/
theorem failed_create_unchanged_iff (state : AdapterState) (device : DeviceId)
    (props : WnbdProperties) (faults : CreateFaults)
    (failed : (wnbdCreateConnection state device props faults).status ≠ statusSuccess) :
    SameRegistry state (wnbdCreateConnection state device props faults).state ↔
      ¬ LeaksReference state props faults := by
  cases waiting : state.rundownProtection.waiting with
  | true =>
      have noLeak : ¬ LeaksReference state props faults := by
        rintro ⟨notWaiting, _⟩
        exact absurd (notWaiting.symm.trans waiting) (by decide)
      refine iff_of_true ?_ noLeak
      unfold wnbdCreateConnection
      rw [acquireRundown_refused state waiting]
      dsimp only
      split_ifs
      · exact SameRegistry.refl state
      · exact SameRegistry.refl state
      all_goals contradiction
  | false =>
      have taken := acquireRundown_taken state waiting
      unfold wnbdCreateConnection at failed ⊢
      rw [taken] at failed ⊢
      dsimp only at failed ⊢
      have sameNames : findDeviceByInstanceName { state with rundownProtection :=
          { state.rundownProtection with references := state.rundownProtection.references + 1 } }
          props.instanceName = state.findDeviceByInstanceName props.instanceName := rfl
      rw [sameNames] at failed ⊢
      split_ifs at failed ⊢ with mappings acquired collision allocation inquiry
      · -- New mappings are off: the early return keeps the reference.
        refine iff_of_false (references_leaked _ _ rfl) (not_not.mpr ⟨waiting, Or.inl ?_⟩)
        simpa using mappings
      · exact absurd acquired (by decide)
      · exact iff_of_false (references_leaked _ _ rfl)
          (not_not.mpr ⟨waiting, Or.inr (Or.inl collision)⟩)
      · exact iff_of_false (references_leaked _ _ rfl)
          (not_not.mpr ⟨waiting, Or.inr (Or.inr allocation)⟩)
      all_goals
        have noLeak : ¬ LeaksReference state props faults := by
          rintro ⟨_, off | taken | exhausted⟩
          · exact mappings (by simp [off])
          · exact collision taken
          · exact allocation exhausted
        refine iff_of_true ?_ noLeak
      · exact createExit_restores state _ device (WnbdDiskDevice.zeroed props) none _
          (by simp [setDevice]) rfl (by decide) ⟨rfl, rfl, rfl, rfl, rfl⟩
      · exact createAtAddress_restores state _ device
          { WnbdDiskDevice.zeroed props with inquiryData := true } props faults
          (by simp [setDevice, updateDevice]) rfl ⟨rfl, rfl, rfl, rfl, rfl⟩ failed

/-! ## A sector size that is refused, and a create while mappings are off -/

def sectorProps (blockSize : UInt32) : WnbdProperties :=
  { instanceName := [118, 109]
    flags := ⟨false, true, true, true, false, false⟩
    blockCount := 2048
    blockSize
    pid := 4 }

theorem failed_create_bad_sector :
    SameRegistry AdapterState.initial
      (wnbdCreateConnection AdapterState.initial 0 (sectorProps 4096)
        ⟨false, false, false⟩).state :=
  (failed_create_unchanged_iff AdapterState.initial 0 (sectorProps 4096) ⟨false, false, false⟩
    (by decide)).mpr (by rintro ⟨_, off | taken | exhausted⟩ <;> contradiction)

/-- With new mappings off every create fails, and the reference it took is never
released: a cleanup would wait forever. -/
theorem disallowed_create_leaks :
    (wnbdCreateConnection { AdapterState.initial with newMappingsAllowed := false } 0
        (sectorProps 512) ⟨false, false, false⟩).status = statusShutdownInProgress ∧
      ¬ SameRegistry { AdapterState.initial with newMappingsAllowed := false }
        (wnbdCreateConnection { AdapterState.initial with newMappingsAllowed := false } 0
          (sectorProps 512) ⟨false, false, false⟩).state ∧
      ¬ (wnbdCreateConnection { AdapterState.initial with newMappingsAllowed := false } 0
          (sectorProps 512) ⟨false, false, false⟩).state.rundownProtection.startWait.released := by
  refine ⟨by decide, references_leaked _ _ (by decide), by decide⟩

end Wnbd.Adapter
