import Wnbd.Adapter.Frames
import Wnbd.Adapter.LifecycleSteps

/-!
# SCSI addresses for any limits

The life cycle with the limits of the address space as parameters and the
addresses in the 16 bit fields they are kept in.  `lifecycleNextAt_wnbdLimits`
says that the repository's limits give the life cycle of the other modules.

The map has a bit for every disk, the array behind it only whole `ULONG`s: the bits
behind the array are memory of something else, which may write there at any time.
-/

set_option autoImplicit false

namespace Wnbd.Adapter

open Wnbd.Scsi AdapterState LifecycleState StepSystem

/-! ## Addresses -/

/-- `WNBD_MAX_LUNS_PER_TARGET`, `WNBD_MAX_TARGETS_PER_BUS` and
`WNBD_MAX_BUSES_PER_ADAPTER`, with addresses that fit a `USHORT` each. -/
structure DiskLimits where
  lunsPerTarget : Nat
  targetsPerBus : Nat
  busesPerAdapter : Nat
  luns_pos : 0 < lunsPerTarget
  targets_pos : 0 < targetsPerBus
  luns_fit : lunsPerTarget ≤ 2 ^ 16
  targets_fit : targetsPerBus ≤ 2 ^ 16
  buses_fit : busesPerAdapter ≤ 2 ^ 16

def wnbdLimits : DiskLimits :=
  { lunsPerTarget := wnbdMaxLunsPerTarget
    targetsPerBus := wnbdMaxTargetsPerBus
    busesPerAdapter := wnbdMaxBusesPerAdapter
    luns_pos := by decide
    targets_pos := by decide
    luns_fit := by decide
    targets_fit := by decide
    buses_fit := by decide }

namespace DiskLimits

/-- `WNBD_MAX_NUMBER_OF_DISKS`, as the `ULONG` size of the bit map. -/
def numberOfDisks (limits : DiskLimits) : Nat :=
  limits.lunsPerTarget * limits.targetsPerBus * limits.busesPerAdapter % 2 ^ 32

/-- The bits of `AssignedScsiIds`, an array of
`WNBD_MAX_NUMBER_OF_DISKS / 8 / sizeof(ULONG)` elements. -/
def assignedScsiBits (limits : DiskLimits) : Nat := 32 * (limits.numberOfDisks / 8 / 4)

def address (limits : DiskLimits) (scsiBitNumber : Nat) : Nat × Nat × Nat :=
  (scsiBitNumber / limits.lunsPerTarget / limits.targetsPerBus % 2 ^ 16,
    scsiBitNumber / limits.lunsPerTarget % limits.targetsPerBus % 2 ^ 16,
    scsiBitNumber % limits.lunsPerTarget % 2 ^ 16)

/-- The bit of `(Bus, Target, Lun)`, a `ULONG`, as the monitor thread computes it. -/
def bitNumber (limits : DiskLimits) : Nat × Nat × Nat → Nat
  | (bus, target, lun) =>
      (lun + target * limits.lunsPerTarget +
        bus * limits.lunsPerTarget * limits.targetsPerBus) % 2 ^ 32

variable (limits : DiskLimits)

theorem assignedScsiBits_lt_iff :
    limits.assignedScsiBits < limits.numberOfDisks ↔ ¬ 32 ∣ limits.numberOfDisks := by
  unfold assignedScsiBits
  omega

theorem bus_lt (scsiBitNumber : Nat) (inRange : scsiBitNumber < limits.numberOfDisks) :
    scsiBitNumber / limits.lunsPerTarget / limits.targetsPerBus < limits.busesPerAdapter := by
  rw [Nat.div_div_eq_div_mul]
  apply Nat.div_lt_of_lt_mul
  exact Nat.lt_of_lt_of_le inRange (Nat.mod_le _ _)

theorem address_eq (scsiBitNumber : Nat) (inRange : scsiBitNumber < limits.numberOfDisks) :
    limits.address scsiBitNumber =
      (scsiBitNumber / limits.lunsPerTarget / limits.targetsPerBus,
        scsiBitNumber / limits.lunsPerTarget % limits.targetsPerBus,
        scsiBitNumber % limits.lunsPerTarget) := by
  have bus := Nat.lt_of_lt_of_le (limits.bus_lt scsiBitNumber inRange) limits.buses_fit
  have target := Nat.lt_of_lt_of_le
    (Nat.mod_lt (scsiBitNumber / limits.lunsPerTarget) limits.targets_pos) limits.targets_fit
  have lun := Nat.lt_of_lt_of_le (Nat.mod_lt scsiBitNumber limits.luns_pos) limits.luns_fit
  rw [address, Nat.mod_eq_of_lt bus, Nat.mod_eq_of_lt target, Nat.mod_eq_of_lt lun]

theorem bitNumber_address (scsiBitNumber : Nat)
    (inRange : scsiBitNumber < limits.numberOfDisks) :
    limits.bitNumber (limits.address scsiBitNumber) = scsiBitNumber := by
  rw [address_eq limits scsiBitNumber inRange, bitNumber]
  -- The digits of the bit number in the radices of the limits.
  have exact : scsiBitNumber % limits.lunsPerTarget +
      scsiBitNumber / limits.lunsPerTarget % limits.targetsPerBus * limits.lunsPerTarget +
      scsiBitNumber / limits.lunsPerTarget / limits.targetsPerBus * limits.lunsPerTarget *
        limits.targetsPerBus = scsiBitNumber := by
    have targets := Nat.mod_add_div (scsiBitNumber / limits.lunsPerTarget) limits.targetsPerBus
    have luns := Nat.mod_add_div scsiBitNumber limits.lunsPerTarget
    calc
      _ = scsiBitNumber % limits.lunsPerTarget + limits.lunsPerTarget *
          (scsiBitNumber / limits.lunsPerTarget % limits.targetsPerBus + limits.targetsPerBus *
            (scsiBitNumber / limits.lunsPerTarget / limits.targetsPerBus)) := by ring
      _ = scsiBitNumber := by rw [targets, luns]
  rw [exact]
  exact Nat.mod_eq_of_lt (Nat.lt_trans inRange (Nat.mod_lt _ (by decide)))

end DiskLimits

def addressOf (value : WnbdDiskDevice) : Nat × Nat × Nat := (value.bus, value.target, value.lun)

/-! ## The steps that compute with an address -/

/-- `AdapterState.assignAddress` for any limits. -/
def assignAddressAt (limits : DiskLimits) (adapter : AdapterState) (device : DeviceId)
    (scsiBitNumber : Nat) : AdapterState :=
  let (bus, target, lun) := limits.address scsiBitNumber
  { adapter with connectionId := adapter.connectionId + 1 }.updateDevice device fun value =>
    { value with bus, target, lun, connectionId := adapter.connectionId + 1 }

/-- `AdapterState.unlinkDevice` for any limits. -/
def unlinkDeviceAt (limits : DiskLimits) (adapter : AdapterState) (device : DeviceId) :
    AdapterState :=
  { adapter with
    deviceList := adapter.deviceList.erase device
    connIdHashBuckets := HashIndex.remove adapter.connIdHashBuckets
      (wnbdConnIdBucket (adapter.connectionIdOf device)) device
    scsiBitMap := match adapter.devices device with
      | some value => BitMap.clearBit adapter.scsiBitMap (limits.bitNumber (addressOf value))
      | none => adapter.scsiBitMap }

def creatorStepAt (limits : DiskLimits) (state : LifecycleState) (call : DeviceId)
    (fails : Bool) : Option LifecycleState :=
  match state.creators call with
  | .assignAddress scsiBitNumber =>
      let assigned := state.setAdapter (assignAddressAt limits state.adapter call scsiBitNumber)
      if (state.adapter.devices call).any (fun value => geometryAccepted value.properties) then
        some (assigned.setCreator call (.startThread scsiBitNumber))
      else
        some (assigned.setCreator call (.exitDevice (some scsiBitNumber) statusInvalidParameter))
  | _ => creatorStep state call fails

def monitorStepAt (limits : DiskLimits) (state : LifecycleState) (device : DeviceId) :
    Option LifecycleState :=
  match state.monitors device with
  | .unlink =>
      some ((state.setAdapter (unlinkDeviceAt limits state.adapter device)).setMonitor device
        .notify)
  | _ => monitorStep state device

def lifecycleNextAt (limits : DiskLimits) (state : LifecycleState) :
    LifecycleAction → Option LifecycleState
  | .creator call fails => creatorStepAt limits state call fails
  | .monitor device => monitorStepAt limits state device
  | action => lifecycleNext state action

/-- `claimed` has no counterpart in the driver: the bit `RtlFindClearBitsAndSet`
returned to a create call. -/
structure AddressState where
  system : LifecycleState
  claimed : DeviceId → Option Nat

def AddressState.initial (limits : DiskLimits) : AddressState :=
  let adapter := { AdapterState.initial with
    scsiBitMap := List.replicate limits.numberOfDisks false }
  { system := LifecycleState.initial.setAdapter adapter
    claimed := fun _ => none }

def CreatorPc.claims : CreatorPc → Bool
  | .claimAddress => true
  | _ => false

def claimedAfter (state : AddressState) : LifecycleAction → DeviceId → Option Nat
  | .creator call _ =>
      if (state.system.creators call).claims then
        Function.update state.claimed call (BitMap.findClear state.system.adapter.scsiBitMap)
      else state.claimed
  | _ => state.claimed

def addressNext (limits : DiskLimits) (state : AddressState) (action : LifecycleAction) :
    Option AddressState :=
  (lifecycleNextAt limits state.system action).map fun system =>
    { system, claimed := claimedAfter state action }

inductive AddressAction
  | driver (action : LifecycleAction)
  /-- Other code writes to its own memory, where the map has bits behind its array. -/
  | foreign (bit : Nat) (value : Bool)

def addressMemoryNext (limits : DiskLimits) (state : AddressState) :
    AddressAction → Option AddressState
  | .driver action => addressNext limits state action
  | .foreign bit value =>
      if limits.assignedScsiBits ≤ bit ∧ bit < limits.numberOfDisks then
        let written := { state.system.adapter with
          scsiBitMap := state.system.adapter.scsiBitMap.set bit value }
        some { state with system := state.system.setAdapter written }
      else none

end Wnbd.Adapter
