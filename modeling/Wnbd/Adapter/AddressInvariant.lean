import Wnbd.Adapter.AddressMap
import Wnbd.Adapter.Cleanup

/-!
# The invariant of the address map

What one device contributes to the device list, the buckets and the bit map at
each point of its create call and of its monitor thread.  It does without the
order `LifecycleInv` asks for: a create call may be overtaken by the monitor
once it has linked its device, and its handle reference may fail.
-/

set_option autoImplicit false

namespace Wnbd.Adapter

open Wnbd.Scsi AdapterState LifecycleState StepSystem

/-! ## What the program counters say -/

/-- The call has not linked its device, and has not returned. -/
@[simp] def CreatorPc.beforeLink : CreatorPc → Bool
  | .count | .notify | .connect | .done | .failed _ _ => false
  | _ => true

/-- The call has claimed a bit and not cleared it. -/
@[simp] def CreatorPc.holdsAddress : CreatorPc → Bool
  | .assignAddress _ | .startThread _ | .referenceThread _ | .populatePool | .copyInfo | .link
  | .count | .notify | .connect | .done | .exitDevice (some _) _ | .exitClear (some _) _ => true
  | _ => false

@[simp] def CreatorPc.scsiBitNumber : CreatorPc → Option Nat
  | .assignAddress bit | .startThread bit | .referenceThread bit => some bit
  | .exitDevice bit _ | .exitClear bit _ => bit
  | _ => none

/-- The address and the connection id are in the device. -/
@[simp] def CreatorPc.addressed : CreatorPc → Bool
  | .startThread _ | .referenceThread _ | .populatePool | .copyInfo | .link | .count | .notify
  | .connect | .done | .exitDevice (some _) _ => true
  | _ => false

/-- `DeviceMonitorThread` is still null. -/
@[simp] def CreatorPc.unreferenced : CreatorPc → Bool
  | .allocateInquiry | .claimAddress | .assignAddress _ | .startThread _ | .referenceThread _
  | .exitDevice _ _ => true
  | _ => false

/-- The device is not allocated yet, or was freed by the exit block. -/
@[simp] def CreatorPc.deviceless : CreatorPc → Bool
  | .idle | .findName _ | .allocate _ | .exitClear _ _ | .exitRelease _ | .failed _ _ => true
  | _ => false

/-- The call is past `PsCreateSystemThread`, or in its exit block. -/
@[simp] def CreatorPc.pastStart : CreatorPc → Bool
  | .idle | .findName _ | .allocate _ | .allocateInquiry | .claimAddress | .assignAddress _
  | .startThread _ => false
  | _ => true

/-- A step of the create call that takes nothing new. -/
structure CreatorPc.Advances (creator next : CreatorPc) : Prop where
  pastStart : creator.pastStart = true → next.pastStart = true
  linked : next.linked = creator.linked
  beforeLink : next.beforeLink = true → creator.beforeLink = true
  holds : next.holdsAddress = true → creator.holdsAddress = true
  bit : ∀ own, next.scsiBitNumber = some own → creator.scsiBitNumber = some own
  addressed : next.addressed = true → creator.addressed = true
  owns : next.ownsDevice = true → creator.ownsDevice = true
  unreferenced : next.unreferenced = true → creator.unreferenced = true

theorem CreatorPc.addressed_of_linked (pc : CreatorPc) (linked : pc.linked = true) :
    pc.addressed = true ∧ pc.holdsAddress = true ∧ pc.beforeLink = false := by
  cases pc <;> first | exact ⟨rfl, rfl, rfl⟩ | cases linked

theorem CreatorPc.holdsAddress_of_addressed (pc : CreatorPc) (addressed : pc.addressed = true) :
    pc.holdsAddress = true := by
  cases pc with
  | exitDevice bit status => cases bit <;> first | rfl | cases addressed
  | _ => first | rfl | cases addressed

theorem MonitorPc.tearsDown_of_unlinked (pc : MonitorPc) (unlinked : pc.unlinked = true) :
    pc.tearsDown = true := by
  cases pc <;> first | rfl | cases unlinked

/-! ## One device -/

/-- `claimed` is the bit its create call was given; the other arguments are those
of `DeviceInv`. -/
structure SlotInv (limits : DiskLimits) (creator : CreatorPc) (monitor : MonitorPc)
    (value : Option WnbdDiskDevice) (claimed : Option Nat) (listed queued : Prop)
    (holds : Nat → Prop) : Prop where
  listed_iff : listed ↔ creator.linked = true ∧ monitor.unlinked = false
  begun : monitor ≠ .absent → creator.pastStart = true
  queued : queued → monitor = .waiting
  waits : creator.beforeLink = true → monitor.tearsDown = false
  unheld : creator.beforeLink = true → ∀ user, ¬ holds user
  unsignaled : creator.beforeLink = true → ∀ device, value = some device →
    device.deviceRemovalEvent = false
  unreferenced : creator.unreferenced = true → ∀ device, value = some device →
    device.deviceMonitorThread = false
  address : creator.holdsAddress = true → ∃ bit, claimed = some bit ∧ bit < limits.numberOfDisks ∧
    ∀ own, creator.scsiBitNumber = some own → own = bit
  decoded : creator.addressed = true → ∀ device bit, value = some device → claimed = some bit →
    addressOf device = limits.address bit
  stored : creator.ownsDevice = true → monitor.unlinked = false → value.isSome = true
  discarded : creator.deviceless = true → value = none

section Slot

variable {limits : DiskLimits} {creator : CreatorPc} {monitor : MonitorPc}
  {value : Option WnbdDiskDevice} {claimed : Option Nat} {listed queued : Prop}
  {holds : Nat → Prop}

theorem SlotInv.advance (inv : SlotInv limits creator monitor value claimed listed queued holds)
    (next : CreatorPc) (advances : creator.Advances next)
    (deviceless : next.deviceless = true → value = none) :
    SlotInv limits next monitor value claimed listed queued holds where
  listed_iff := by rw [advances.linked]; exact inv.listed_iff
  begun present := advances.pastStart (inv.begun present)
  queued := inv.queued
  waits before := inv.waits (advances.beforeLink before)
  unheld before := inv.unheld (advances.beforeLink before)
  unsignaled before := inv.unsignaled (advances.beforeLink before)
  unreferenced unset := inv.unreferenced (advances.unreferenced unset)
  address held := by
    obtain ⟨bit, claimed, inRange, same⟩ := inv.address (advances.holds held)
    exact ⟨bit, claimed, inRange, fun own found => same own (advances.bit own found)⟩
  decoded addressed := inv.decoded (advances.addressed addressed)
  stored owns := inv.stored (advances.owns owns)
  discarded := deviceless

theorem SlotInv.write (inv : SlotInv limits creator monitor value claimed listed queued holds)
    (change : WnbdDiskDevice → WnbdDiskDevice)
    (address : ∀ device, addressOf (change device) = addressOf device)
    (event : creator.beforeLink = true → ∀ device,
      (change device).deviceRemovalEvent = device.deviceRemovalEvent)
    (thread : creator.unreferenced = true → ∀ device,
      (change device).deviceMonitorThread = device.deviceMonitorThread) :
    SlotInv limits creator monitor (value.map change) claimed listed queued holds where
  listed_iff := inv.listed_iff
  begun := inv.begun
  queued := inv.queued
  waits := inv.waits
  unheld := inv.unheld
  unsignaled before changed stored := by
    obtain ⟨device, found, rfl⟩ := Option.map_eq_some_iff.mp stored
    rw [event before device]
    exact inv.unsignaled before device found
  unreferenced unset changed stored := by
    obtain ⟨device, found, rfl⟩ := Option.map_eq_some_iff.mp stored
    rw [thread unset device]
    exact inv.unreferenced unset device found
  address := inv.address
  decoded addressed changed bit stored given := by
    obtain ⟨device, found, rfl⟩ := Option.map_eq_some_iff.mp stored
    rw [address device]
    exact inv.decoded addressed device bit found given
  stored owns notUnlinked := by
    rw [Option.isSome_map]
    exact inv.stored owns notUnlinked
  discarded absent := by rw [inv.discarded absent, Option.map_none]

theorem SlotInv.advanceMonitor
    (inv : SlotInv limits creator monitor value claimed listed queued holds) (next : MonitorPc)
    {nextQueued : Prop} (present : monitor ≠ .absent) (queues : nextQueued → next = .waiting)
    (unlinked : next.unlinked = monitor.unlinked)
    (released : next.tearsDown = true → creator.beforeLink = false) :
    SlotInv limits creator next value claimed listed nextQueued holds where
  listed_iff := by rw [unlinked]; exact inv.listed_iff
  begun _ := inv.begun present
  queued := queues
  waits before := by
    cases tears : next.tearsDown with
    | false => rfl
    | true =>
        rw [released tears] at before
        cases before
  unheld := inv.unheld
  unsignaled := inv.unsignaled
  unreferenced := inv.unreferenced
  address := inv.address
  decoded := inv.decoded
  stored owns notUnlinked := inv.stored owns (unlinked ▸ notUnlinked)
  discarded := inv.discarded

/-- A monitor past its wait keeps the device from being one of a create under way. -/
theorem SlotInv.released (inv : SlotInv limits creator monitor value claimed listed queued holds)
    (tears : monitor.tearsDown = true) : creator.beforeLink = false := by
  cases before : creator.beforeLink with
  | false => rfl
  | true =>
      rw [inv.waits before] at tears
      cases tears

theorem SlotInv.notUnlinked (inv : SlotInv limits creator monitor value claimed listed queued holds)
    (before : creator.beforeLink = true) : monitor.unlinked = false := by
  cases unlinked : monitor.unlinked with
  | false => rfl
  | true =>
      have tears := monitor.tearsDown_of_unlinked unlinked
      rw [inv.waits before] at tears
      cases tears

theorem SlotInv.allocate {props : WnbdProperties}
    (inv : SlotInv limits (.allocate props) monitor value claimed listed queued holds) :
    SlotInv limits .allocateInquiry monitor (some (WnbdDiskDevice.zeroed props)) claimed listed
      queued holds where
  listed_iff := inv.listed_iff
  begun := inv.begun
  queued := inv.queued
  waits _ := inv.waits rfl
  unheld _ := inv.unheld rfl
  unsignaled _ _ stored := by cases stored; rfl
  unreferenced _ _ stored := by cases stored; rfl
  address held := by cases held
  decoded addressed := by cases addressed
  stored _ _ := rfl
  discarded absent := by cases absent

theorem SlotInv.claim (inv : SlotInv limits .claimAddress monitor value claimed listed queued holds)
    (bit : Nat) (inRange : bit < limits.numberOfDisks) :
    SlotInv limits (.assignAddress bit) monitor value (some bit) listed queued holds where
  listed_iff := inv.listed_iff
  begun := inv.begun
  queued := inv.queued
  waits _ := inv.waits rfl
  unheld _ := inv.unheld rfl
  unsignaled _ := inv.unsignaled rfl
  unreferenced _ := inv.unreferenced rfl
  address _ := ⟨bit, rfl, inRange, fun own found => (Option.some.inj found).symm⟩
  decoded addressed := by cases addressed
  stored _ := inv.stored rfl
  discarded absent := by cases absent

theorem SlotInv.claimNone
    (inv : SlotInv limits .claimAddress monitor value claimed listed queued holds)
    (status : NtStatus) :
    SlotInv limits (.exitDevice none status) monitor value none listed queued holds where
  listed_iff := inv.listed_iff
  begun _ := rfl
  queued := inv.queued
  waits _ := inv.waits rfl
  unheld _ := inv.unheld rfl
  unsignaled _ := inv.unsignaled rfl
  unreferenced _ := inv.unreferenced rfl
  address held := by cases held
  decoded addressed := by cases addressed
  stored _ := inv.stored rfl
  discarded absent := by cases absent

theorem SlotInv.assign {bit : Nat}
    (inv : SlotInv limits (.assignAddress bit) monitor value claimed listed queued holds)
    (next : CreatorPc) (change : WnbdDiskDevice → WnbdDiskDevice)
    (after : next = .startThread bit ∨ ∃ status, next = .exitDevice (some bit) status)
    (address : ∀ device, addressOf (change device) = limits.address bit)
    (event : ∀ device, (change device).deviceRemovalEvent = device.deviceRemovalEvent)
    (thread : ∀ device, (change device).deviceMonitorThread = device.deviceMonitorThread) :
    SlotInv limits next monitor (value.map change) claimed listed queued holds := by
  have unsignaled : ∀ device, value.map change = some device →
      device.deviceRemovalEvent = false := by
    intro changed stored
    obtain ⟨device, found, rfl⟩ := Option.map_eq_some_iff.mp stored
    rw [event device]
    exact inv.unsignaled rfl device found
  have unreferenced : ∀ device, value.map change = some device →
      device.deviceMonitorThread = false := by
    intro changed stored
    obtain ⟨device, found, rfl⟩ := Option.map_eq_some_iff.mp stored
    rw [thread device]
    exact inv.unreferenced rfl device found
  obtain ⟨given, claimed, inRange, own⟩ := inv.address rfl
  have same : bit = given := own bit rfl
  have decoded : ∀ device number, value.map change = some device → some given = some number →
      addressOf device = limits.address number := by
    intro changed number stored found
    obtain ⟨device, _, rfl⟩ := Option.map_eq_some_iff.mp stored
    rw [← Option.some.inj found, ← same]
    exact address device
  have stored : monitor.unlinked = false → (value.map change).isSome = true := by
    rw [Option.isSome_map]
    exact inv.stored rfl
  subst claimed
  subst same
  rcases after with rfl | ⟨status, rfl⟩
  · exact ⟨inv.listed_iff, inv.begun, inv.queued, inv.waits, inv.unheld,
      fun _ => unsignaled, fun _ => unreferenced, inv.address, fun _ => decoded,
      fun _ => stored, fun absent => by cases absent⟩
  · exact ⟨inv.listed_iff, fun _ => rfl, inv.queued, inv.waits, inv.unheld,
      fun _ => unsignaled, fun _ => unreferenced, inv.address, fun _ => decoded,
      fun _ => stored, fun absent => by cases absent⟩

theorem SlotInv.startThread {bit : Nat}
    (inv : SlotInv limits (.startThread bit) monitor value claimed listed queued holds) :
    SlotInv limits (.referenceThread bit) .start value claimed listed queued holds where
  listed_iff := by
    refine inv.listed_iff.trans (iff_of_false ?_ ?_)
    · exact fun linked => by cases linked.1
    · exact fun linked => by cases linked.1
  begun _ := rfl
  queued queued := by
    have begun := inv.begun (by rw [inv.queued queued]; simp)
    cases begun
  waits _ := rfl
  unheld _ := inv.unheld rfl
  unsignaled _ := inv.unsignaled rfl
  unreferenced _ := inv.unreferenced rfl
  address _ := inv.address rfl
  decoded _ := inv.decoded rfl
  stored _ _ := inv.stored rfl (inv.notUnlinked rfl)
  discarded absent := by cases absent

theorem SlotInv.link (inv : SlotInv limits .link monitor value claimed listed queued holds) :
    SlotInv limits .count monitor value claimed True queued holds where
  listed_iff := iff_of_true trivial ⟨rfl, inv.notUnlinked rfl⟩
  begun _ := rfl
  queued := inv.queued
  waits before := by cases before
  unheld before := by cases before
  unsignaled before := by cases before
  unreferenced unset := by cases unset
  address _ := inv.address rfl
  decoded _ := inv.decoded rfl
  stored _ := inv.stored rfl
  discarded absent := by cases absent

theorem SlotInv.discard {bit : Option Nat} {status : NtStatus}
    (inv : SlotInv limits (.exitDevice bit status) monitor value claimed listed queued holds) :
    SlotInv limits (.exitClear bit status) monitor none claimed listed queued holds where
  listed_iff := inv.listed_iff
  begun _ := rfl
  queued := inv.queued
  waits _ := inv.waits rfl
  unheld _ := inv.unheld rfl
  unsignaled _ _ stored := by cases stored
  unreferenced unset := by cases unset
  address held := by
    cases bit with
    | none => cases held
    | some bit => exact inv.address rfl
  decoded addressed := by cases addressed
  stored owns := by cases owns
  discarded _ := rfl

theorem SlotInv.unlink (inv : SlotInv limits creator .unlink value claimed listed queued holds) :
    SlotInv limits creator .notify value claimed False queued holds where
  listed_iff := iff_of_false id fun linked => by cases linked.2
  begun _ := inv.begun (by simp)
  queued queued := by
    have waiting := inv.queued queued
    cases waiting
  waits before := by
    have waits := inv.waits before
    cases waits
  unheld := inv.unheld
  unsignaled := inv.unsignaled
  unreferenced := inv.unreferenced
  address := inv.address
  decoded := inv.decoded
  stored _ linked := by cases linked
  discarded := inv.discarded

theorem SlotInv.free (inv : SlotInv limits creator .free value claimed listed queued holds) :
    SlotInv limits creator .release none claimed listed queued holds where
  listed_iff := inv.listed_iff
  begun _ := inv.begun (by simp)
  queued queued := by
    have waiting := inv.queued queued
    cases waiting
  waits before := by
    have waits := inv.waits before
    cases waits
  unheld := inv.unheld
  unsignaled _ _ stored := by cases stored
  unreferenced _ _ stored := by cases stored
  address := inv.address
  decoded _ _ _ stored := by cases stored
  stored _ linked := by cases linked
  discarded _ := rfl

end Slot

end Wnbd.Adapter
