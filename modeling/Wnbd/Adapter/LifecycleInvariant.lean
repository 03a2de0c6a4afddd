import Wnbd.Adapter.Lifecycle
import Wnbd.Foundation.Counting

/-!
# Invariant of the device life cycle

`DeviceInv` relates, for one device, the create call, the monitor thread, the
memory, the chains and the threads that hold a reference.  It survives every
step in which a monitor thread does not overtake the create call of its device
(`MonitorAfterCreator`).
-/

set_option autoImplicit false

namespace Wnbd.Adapter

open Wnbd.Scsi AdapterState LifecycleState StepSystem

/-! ## What the program counters say -/

/-- The create call has allocated the device and its exit block has not freed it. -/
def CreatorPc.ownsDevice : CreatorPc → Bool
  | .allocateInquiry | .claimAddress | .assignAddress _ | .startThread _ | .referenceThread _
  | .populatePool | .copyInfo | .link | .count | .notify | .connect | .done
  | .exitDevice _ _ => true
  | _ => false

/-- The monitor thread has been created. -/
def CreatorPc.started : CreatorPc → Bool
  | .referenceThread _ | .populatePool | .copyInfo | .link | .count | .notify | .connect
  | .done => true
  | _ => false

/-- `DeviceMonitorThread` has been stored in the device. -/
def CreatorPc.referenced : CreatorPc → Bool
  | .populatePool | .copyInfo | .link | .count | .notify | .connect | .done => true
  | _ => false

/-- The device has been put into the device list and its bucket. -/
def CreatorPc.linked : CreatorPc → Bool
  | .count | .notify | .connect | .done => true
  | _ => false

structure CreatorPhase where
  started : Bool
  ownsDevice : Bool
  linked : Bool
  referenced : Bool

/-- All the invariant reads from a create call. -/
def CreatorPc.phase (pc : CreatorPc) : CreatorPhase :=
  ⟨pc.started, pc.ownsDevice, pc.linked, pc.referenced⟩

/-- New references to the device are refused. -/
def MonitorPc.refusing : MonitorPc → Bool
  | .rundown | .drain | .unlink | .notify | .count | .freeInquiry | .drainPool
  | .dereferenceThread | .free | .release | .finished => true
  | _ => false

/-- The wait for the device's references is over. -/
def MonitorPc.drained : MonitorPc → Bool
  | .drain | .unlink | .notify | .count | .freeInquiry | .drainPool | .dereferenceThread
  | .free | .release | .finished => true
  | _ => false

/-- The monitor is past its wait. -/
def MonitorPc.tearsDown : MonitorPc → Bool
  | .absent | .start | .waiting => false
  | _ => true

def MonitorPc.unlinked : MonitorPc → Bool
  | .notify | .count | .freeInquiry | .drainPool | .dereferenceThread | .free | .release
  | .finished => true
  | _ => false

def MonitorPc.freed : MonitorPc → Bool
  | .release | .finished => true
  | _ => false

structure MonitorPhase where
  absent : Bool
  waiting : Bool
  refusing : Bool
  drained : Bool
  unlinked : Bool
  freed : Bool

/-- All the invariant reads from a monitor thread. -/
def MonitorPc.phase (pc : MonitorPc) : MonitorPhase :=
  ⟨pc = .absent, pc = .waiting, pc.refusing, pc.drained, pc.unlinked, pc.freed⟩

theorem CreatorPc.ownsDevice_of_started (pc : CreatorPc) (started : pc.started = true) :
    pc.ownsDevice = true := by
  cases pc <;> first | rfl | cases started

theorem CreatorPc.ownsDevice_of_linked (pc : CreatorPc) (linked : pc.linked = true) :
    pc.ownsDevice = true := by
  cases pc <;> first | rfl | cases linked

theorem MonitorPc.unlinked_of_freed (pc : MonitorPc) (freed : pc.freed = true) :
    pc.unlinked = true := by
  cases pc <;> first | rfl | cases freed

theorem MonitorPc.drained_of_freed (pc : MonitorPc) (freed : pc.freed = true) :
    pc.drained = true := by
  cases pc <;> first | rfl | cases freed

theorem MonitorPc.refusing_of_drained (pc : MonitorPc) (drained : pc.drained = true) :
    pc.refusing = true := by
  cases pc <;> first | rfl | cases drained

/-! ## The invariant -/

/-- What holds of one device: `listed` when it is in the device list, `queued`
when its monitor is queued on the shared event, `holds` for the threads that
hold a reference. -/
structure DeviceInv (creator : CreatorPc) (monitor : MonitorPc) (value : Option WnbdDiskDevice)
    (listed queued : Prop) (holds : Nat → Prop) : Prop where
  started : monitor ≠ .absent ↔ creator.started = true
  allocated : value.isSome = true ↔ creator.ownsDevice = true ∧ monitor.freed = false
  listed_iff : listed ↔ creator.linked = true ∧ monitor.unlinked = false
  unlinkedAfter : monitor.unlinked = true → creator.linked = true
  freedAfter : monitor.freed = true → creator = .done
  threadStored : ∀ device, value = some device → device.deviceMonitorThread = true →
    creator.referenced = true
  counted : ∀ device, value = some device → Counts holds device.rundownProtection.references
  refusing : ∀ device, value = some device → monitor.refusing = true →
    device.rundownProtection.waiting = true
  unused : monitor.drained = true → ∀ user, ¬ holds user
  heldLinked : ∀ user, holds user → creator.linked = true
  queued_iff : queued ↔ monitor = .waiting
  unsignaled : ∀ device, value = some device → monitor = .waiting →
    device.deviceRemovalEvent = false

def connIdHash (adapter : AdapterState) (device : DeviceId) : Nat :=
  wnbdConnIdBucket (adapter.connectionIdOf device)

structure LifecycleInv (state : LifecycleState) : Prop where
  device : ∀ device, DeviceInv (state.creators device) (state.monitors device)
    (state.adapter.devices device) (device ∈ state.adapter.deviceList)
    (device ∈ state.adapter.globalDeviceRemovalEvent.waiters)
    (fun user => state.users user = .holding device)
  nodup : state.adapter.deviceList.Nodup
  index : HashIndex.Indexes (connIdHash state.adapter) state.adapter.deviceList
    state.adapter.connIdHashBuckets
  event : state.adapter.globalDeviceRemovalEvent.WellFormed

theorem lifecycleInv_initial : LifecycleInv LifecycleState.initial := by
  refine ⟨fun device => ?_, List.nodup_nil, HashIndex.indexes_nil _, List.nodup_nil,
    fun _ => rfl⟩
  have nobody : ∀ user : Nat, ¬ UserPc.idle = .holding device := fun _ held => by cases held
  constructor <;>
    simp [LifecycleState.initial, AdapterState.initial, CreatorPc.started, CreatorPc.ownsDevice,
      CreatorPc.linked, MonitorPc.freed, MonitorPc.unlinked, MonitorPc.drained,
      MonitorPc.refusing, SyncEvent.initial]

/-! ## Transitions of one device -/

section Device

variable {creator : CreatorPc} {monitor : MonitorPc} {value : Option WnbdDiskDevice}
  {listed queued : Prop} {holds : Nat → Prop}

theorem DeviceInv.moveCreator (inv : DeviceInv creator monitor value listed queued holds)
    (moved : CreatorPc) (same : moved.phase = creator.phase) (notDone : creator ≠ .done) :
    DeviceInv moved monitor value listed queued holds := by
  have started : moved.started = creator.started := congrArg CreatorPhase.started same
  have owns : moved.ownsDevice = creator.ownsDevice := congrArg CreatorPhase.ownsDevice same
  have linked : moved.linked = creator.linked := congrArg CreatorPhase.linked same
  have referenced : moved.referenced = creator.referenced :=
    congrArg CreatorPhase.referenced same
  exact
    { started := by rw [started]; exact inv.started
      allocated := by rw [owns]; exact inv.allocated
      listed_iff := by rw [linked]; exact inv.listed_iff
      unlinkedAfter := by rw [linked]; exact inv.unlinkedAfter
      freedAfter := fun freed => absurd (inv.freedAfter freed) notDone
      threadStored := by rw [referenced]; exact inv.threadStored
      counted := inv.counted
      refusing := inv.refusing
      unused := inv.unused
      heldLinked := by rw [linked]; exact inv.heldLinked
      queued_iff := inv.queued_iff
      unsignaled := inv.unsignaled }

/-- A monitor step between program counters the invariant does not tell apart. -/
theorem DeviceInv.moveMonitor (inv : DeviceInv creator monitor value listed queued holds)
    (moved : MonitorPc) (same : moved.phase = monitor.phase) :
    DeviceInv creator moved value listed queued holds := by
  have absent : moved = .absent ↔ monitor = .absent :=
    decide_eq_decide.mp (congrArg MonitorPhase.absent same)
  have waiting : moved = .waiting ↔ monitor = .waiting :=
    decide_eq_decide.mp (congrArg MonitorPhase.waiting same)
  have refusing : moved.refusing = monitor.refusing := congrArg MonitorPhase.refusing same
  have drained : moved.drained = monitor.drained := congrArg MonitorPhase.drained same
  have unlinked : moved.unlinked = monitor.unlinked := congrArg MonitorPhase.unlinked same
  have freed : moved.freed = monitor.freed := congrArg MonitorPhase.freed same
  exact
    { started := (not_congr absent).trans inv.started
      allocated := by rw [freed]; exact inv.allocated
      listed_iff := by rw [unlinked]; exact inv.listed_iff
      unlinkedAfter := by rw [unlinked]; exact inv.unlinkedAfter
      freedAfter := by rw [freed]; exact inv.freedAfter
      threadStored := inv.threadStored
      counted := inv.counted
      refusing := by rw [refusing]; exact inv.refusing
      unused := by rw [drained]; exact inv.unused
      heldLinked := inv.heldLinked
      queued_iff := inv.queued_iff.trans waiting.symm
      unsignaled := fun device found isWaiting =>
        inv.unsignaled device found (waiting.mp isWaiting) }

theorem DeviceInv.mapValue (inv : DeviceInv creator monitor value listed queued holds)
    (change : WnbdDiskDevice → WnbdDiskDevice)
    (thread : ∀ device, (change device).deviceMonitorThread = device.deviceMonitorThread)
    (rundown : ∀ device, (change device).rundownProtection = device.rundownProtection)
    (event : ∀ device, monitor = .waiting →
      (change device).deviceRemovalEvent = device.deviceRemovalEvent) :
    DeviceInv creator monitor (value.map change) listed queued holds where
  started := inv.started
  allocated := by rw [Option.isSome_map]; exact inv.allocated
  listed_iff := inv.listed_iff
  unlinkedAfter := inv.unlinkedAfter
  freedAfter := inv.freedAfter
  threadStored := by
    intro device found stored
    obtain ⟨old, oldFound, rfl⟩ := Option.map_eq_some_iff.mp found
    exact inv.threadStored old oldFound ((thread old).symm.trans stored)
  counted := by
    intro device found
    obtain ⟨old, oldFound, rfl⟩ := Option.map_eq_some_iff.mp found
    rw [rundown]
    exact inv.counted old oldFound
  refusing := by
    intro device found refusing
    obtain ⟨old, oldFound, rfl⟩ := Option.map_eq_some_iff.mp found
    rw [rundown]
    exact inv.refusing old oldFound refusing
  unused := inv.unused
  heldLinked := inv.heldLinked
  queued_iff := inv.queued_iff
  unsignaled := by
    intro device found waiting
    obtain ⟨old, oldFound, rfl⟩ := Option.map_eq_some_iff.mp found
    rw [event old waiting]
    exact inv.unsignaled old oldFound waiting

theorem DeviceInv.monitorAbsent (inv : DeviceInv creator monitor value listed queued holds)
    (notStarted : creator.started = false) : monitor = .absent := by
  by_contra present
  rw [inv.started.mp present] at notStarted
  cases notStarted

theorem DeviceInv.noHolder (inv : DeviceInv creator monitor value listed queued holds)
    (notLinked : creator.linked = false) (user : Nat) : ¬ holds user := by
  intro held
  rw [inv.heldLinked user held] at notLinked
  cases notLinked

theorem DeviceInv.allocate (inv : DeviceInv creator monitor value listed queued holds)
    (props : WnbdProperties) (notStarted : creator.started = false)
    (notLinked : creator.linked = false) :
    DeviceInv .allocateInquiry monitor (some (WnbdDiskDevice.zeroed props)) listed queued
      holds := by
  have absent : monitor = .absent := inv.monitorAbsent notStarted
  have nobody := inv.noHolder notLinked
  subst absent
  refine ⟨by simp [CreatorPc.started], by simp [CreatorPc.ownsDevice, MonitorPc.freed], ?_,
    by simp [MonitorPc.unlinked], by simp [MonitorPc.freed], ?_, ?_, by simp [MonitorPc.refusing],
    by simp [MonitorPc.drained], fun user held => absurd held (nobody user), inv.queued_iff, ?_⟩
  · rw [inv.listed_iff, notLinked]
    rfl
  · rintro device ⟨⟩ stored
    cases stored
  · rintro device ⟨⟩
    exact Counts.zero nobody
  · intro device _ waiting
    cases waiting

theorem DeviceInv.startMonitor (inv : DeviceInv creator monitor value listed queued holds)
    (scsiBitNumber : Nat) (notStarted : creator.started = false)
    (owns : creator.ownsDevice = true) (notLinked : creator.linked = false)
    (notReferenced : creator.referenced = false) :
    DeviceInv (.referenceThread scsiBitNumber) .start value listed queued holds := by
  have absent : monitor = .absent := inv.monitorAbsent notStarted
  subst absent
  refine ⟨by simp [CreatorPc.started], ?_, ?_, by simp [MonitorPc.unlinked],
    by simp [MonitorPc.freed], ?_, inv.counted, by simp [MonitorPc.refusing],
    by simp [MonitorPc.drained], fun user held => absurd held (inv.noHolder notLinked user), ?_,
    by simp⟩
  · rw [inv.allocated, owns]
    rfl
  · rw [inv.listed_iff, notLinked]
    rfl
  · intro device found stored
    exact absurd (notReferenced.symm.trans (inv.threadStored device found stored)) (by decide)
  · exact inv.queued_iff.trans (iff_of_false (by decide) (by decide))

theorem DeviceInv.storeThread {scsiBitNumber : Nat}
    (inv : DeviceInv (.referenceThread scsiBitNumber) monitor value listed queued holds) :
    DeviceInv .populatePool monitor (value.map ({ · with deviceMonitorThread := true })) listed
      queued holds where
  started := inv.started
  allocated := by rw [Option.isSome_map]; exact inv.allocated
  listed_iff := inv.listed_iff
  unlinkedAfter := inv.unlinkedAfter
  freedAfter := fun freed => by cases inv.freedAfter freed
  threadStored := fun _ _ _ => rfl
  counted := by
    intro device found
    obtain ⟨old, oldFound, rfl⟩ := Option.map_eq_some_iff.mp found
    exact inv.counted old oldFound
  refusing := by
    intro device found refusing
    obtain ⟨old, oldFound, rfl⟩ := Option.map_eq_some_iff.mp found
    exact inv.refusing old oldFound refusing
  unused := inv.unused
  heldLinked := inv.heldLinked
  queued_iff := inv.queued_iff
  unsignaled := by
    intro device found waiting
    obtain ⟨old, oldFound, rfl⟩ := Option.map_eq_some_iff.mp found
    exact inv.unsignaled old oldFound waiting

/-- The device is put into both chains.  Its monitor has not passed its own
section under the list lock, since that waits for this step. -/
theorem DeviceInv.link (inv : DeviceInv .link monitor value listed queued holds) :
    DeviceInv .count monitor value True queued holds := by
  have notUnlinked : monitor.unlinked = false := by
    by_contra unlinked
    rw [Bool.not_eq_false] at unlinked
    cases inv.unlinkedAfter unlinked
  refine ⟨inv.started, inv.allocated, iff_of_true trivial ⟨rfl, notUnlinked⟩, fun _ => rfl,
    fun freed => by (cases inv.freedAfter freed), fun _ _ _ => rfl, inv.counted, inv.refusing,
    inv.unused, fun _ _ => rfl, inv.queued_iff, inv.unsignaled⟩

/-- `DeviceMonitorThread` is not set at the exit block. -/
theorem DeviceInv.exitUnstored {scsiBitNumber : Option Nat} {status : NtStatus}
    (inv : DeviceInv (.exitDevice scsiBitNumber status) monitor value listed queued holds) :
    value.any (·.deviceMonitorThread) = false := by
  cases found : value with
  | none => rfl
  | some device =>
      cases stored : device.deviceMonitorThread with
      | false => exact stored
      | true => cases inv.threadStored device found stored

theorem DeviceInv.exitFree {scsiBitNumber : Option Nat} {status : NtStatus}
    (inv : DeviceInv (.exitDevice scsiBitNumber status) monitor value listed queued holds) :
    DeviceInv (.exitClear scsiBitNumber status) monitor none listed queued holds := by
  have absent : monitor = .absent := inv.monitorAbsent rfl
  subst absent
  refine ⟨by simp [CreatorPc.started], by simp [CreatorPc.ownsDevice], inv.listed_iff,
    inv.unlinkedAfter, by simp [MonitorPc.freed], by simp, by simp, by simp, inv.unused,
    inv.heldLinked, inv.queued_iff, by simp⟩

theorem DeviceInv.startRundown
    (inv : DeviceInv creator .startRundown value listed queued holds) :
    DeviceInv creator .rundown (value.map fun device =>
      { device with rundownProtection := device.rundownProtection.startWait }) listed queued
      holds where
  started := (iff_of_true (by decide) (by decide)).trans inv.started
  allocated := by rw [Option.isSome_map]; exact inv.allocated
  listed_iff := inv.listed_iff
  unlinkedAfter := inv.unlinkedAfter
  freedAfter := inv.freedAfter
  threadStored := by
    intro device found stored
    obtain ⟨old, oldFound, rfl⟩ := Option.map_eq_some_iff.mp found
    exact inv.threadStored old oldFound stored
  counted := by
    intro device found
    obtain ⟨old, oldFound, rfl⟩ := Option.map_eq_some_iff.mp found
    exact inv.counted old oldFound
  refusing := by
    intro device found _
    obtain ⟨old, _, rfl⟩ := Option.map_eq_some_iff.mp found
    rfl
  unused := fun drained => by cases drained
  heldLinked := inv.heldLinked
  queued_iff := inv.queued_iff.trans (iff_of_false (by decide) (by decide))
  unsignaled := fun _ _ waiting => by cases waiting

/-- The wait is over when no reference is left. -/
theorem DeviceInv.finishRundown (inv : DeviceInv creator .rundown value listed queued holds)
    (released : value.all (fun device => decide device.rundownProtection.released) = true) :
    DeviceInv creator .drain value listed queued holds where
  started := (iff_of_true (by decide) (by decide)).trans inv.started
  allocated := inv.allocated
  listed_iff := inv.listed_iff
  unlinkedAfter := inv.unlinkedAfter
  freedAfter := inv.freedAfter
  threadStored := inv.threadStored
  counted := inv.counted
  refusing := fun device found _ => inv.refusing device found rfl
  unused := by
    intro _ user held
    have owns := creator.ownsDevice_of_linked (inv.heldLinked user held)
    obtain ⟨device, found⟩ := Option.isSome_iff_exists.mp (inv.allocated.mpr ⟨owns, rfl⟩)
    rw [found, Option.all_some, decide_eq_true_iff] at released
    have counted := inv.counted device found
    rw [released] at counted
    exact counted.none_of_zero user held
  heldLinked := inv.heldLinked
  queued_iff := inv.queued_iff.trans (iff_of_false (by decide) (by decide))
  unsignaled := fun _ _ waiting => by cases waiting

theorem DeviceInv.unlink (inv : DeviceInv creator .unlink value listed queued holds)
    (linked : creator.linked = true) : DeviceInv creator .notify value False queued holds where
  started := (iff_of_true (by decide) (by decide)).trans inv.started
  allocated := inv.allocated
  listed_iff := iff_of_false not_false fun both => by cases both.2
  unlinkedAfter := fun _ => linked
  freedAfter := fun freed => by cases freed
  threadStored := inv.threadStored
  counted := inv.counted
  refusing := fun device found _ => inv.refusing device found rfl
  unused := fun _ => inv.unused rfl
  heldLinked := inv.heldLinked
  queued_iff := inv.queued_iff.trans (iff_of_false (by decide) (by decide))
  unsignaled := fun _ _ waiting => by cases waiting

theorem DeviceInv.free (inv : DeviceInv .done .free value listed queued holds) :
    DeviceInv .done .release none listed queued holds where
  started := (iff_of_true (by decide) (by decide)).trans inv.started
  allocated := iff_of_false (by decide) fun both => by cases both.2
  listed_iff := inv.listed_iff
  unlinkedAfter := fun _ => rfl
  freedAfter := fun _ => rfl
  threadStored := fun _ found => by cases found
  counted := fun _ found => by cases found
  refusing := fun _ found => by cases found
  unused := fun _ => inv.unused rfl
  heldLinked := inv.heldLinked
  queued_iff := inv.queued_iff.trans (iff_of_false (by decide) (by decide))
  unsignaled := fun _ found => by cases found

theorem DeviceInv.sleep (inv : DeviceInv creator .start value listed queued holds)
    (unset : value.any (·.deviceRemovalEvent) = false) :
    DeviceInv creator .waiting value listed True holds where
  started := (iff_of_true (by decide) (by decide)).trans inv.started
  allocated := inv.allocated
  listed_iff := inv.listed_iff
  unlinkedAfter := inv.unlinkedAfter
  freedAfter := inv.freedAfter
  threadStored := inv.threadStored
  counted := inv.counted
  refusing := fun device found _ => inv.refusing device found (by assumption)
  unused := inv.unused
  heldLinked := inv.heldLinked
  queued_iff := iff_of_true trivial rfl
  unsignaled := by
    intro device found _
    rw [found] at unset
    exact unset

theorem DeviceInv.wake (inv : DeviceInv creator .waiting value listed queued holds) :
    DeviceInv creator .mark value listed False holds where
  started := (iff_of_true (by decide) (by decide)).trans inv.started
  allocated := inv.allocated
  listed_iff := inv.listed_iff
  unlinkedAfter := inv.unlinkedAfter
  freedAfter := inv.freedAfter
  threadStored := inv.threadStored
  counted := inv.counted
  refusing := fun device found refusing => by cases refusing
  unused := inv.unused
  heldLinked := inv.heldLinked
  queued_iff := iff_of_false not_false (by decide)
  unsignaled := fun _ _ waiting => by cases waiting

theorem DeviceInv.listed_allocated (inv : DeviceInv creator monitor value listed queued holds)
    (member : listed) : value.isSome = true := by
  obtain ⟨linked, notUnlinked⟩ := inv.listed_iff.mp member
  refine inv.allocated.mpr ⟨creator.ownsDevice_of_linked linked, ?_⟩
  by_contra freed
  rw [Bool.not_eq_false] at freed
  rw [monitor.unlinked_of_freed freed] at notUnlinked
  cases notUnlinked

theorem DeviceInv.held_allocated (inv : DeviceInv creator monitor value listed queued holds)
    (user : Nat) (held : holds user) : value.isSome = true := by
  refine inv.allocated.mpr ⟨creator.ownsDevice_of_linked (inv.heldLinked user held), ?_⟩
  by_contra freed
  rw [Bool.not_eq_false] at freed
  exact inv.unused (monitor.drained_of_freed freed) user held

theorem DeviceInv.creating_allocated (inv : DeviceInv creator monitor value listed queued holds)
    (owns : creator.ownsDevice = true) (notDone : creator ≠ .done) : value.isSome = true := by
  refine inv.allocated.mpr ⟨owns, ?_⟩
  by_contra freed
  rw [Bool.not_eq_false] at freed
  exact notDone (inv.freedAfter freed)

/-- A monitor that has not freed its device finds it allocated. -/
theorem DeviceInv.monitored_allocated (inv : DeviceInv creator monitor value listed queued holds)
    (present : monitor ≠ .absent) (notFreed : monitor.freed = false) : value.isSome = true :=
  inv.allocated.mpr ⟨creator.ownsDevice_of_started (inv.started.mp present), notFreed⟩

theorem DeviceInv.acquire {device : WnbdDiskDevice} {acquired : Rundown} {holdsAfter : Nat → Prop}
    (inv : DeviceInv creator monitor (some device) listed queued holds) (member : listed)
    (taken : device.rundownProtection.acquire = some acquired) (user : Nat)
    (notYet : ¬ holds user) (now : holdsAfter user)
    (others : ∀ other, other ≠ user → (holdsAfter other ↔ holds other)) :
    DeviceInv creator monitor (some { device with rundownProtection := acquired }) listed queued
      holdsAfter := by
  obtain ⟨notWaiting, acquiredExact⟩ := Rundown.acquire_eq_some _ _ taken
  have linked : creator.linked = true := (inv.listed_iff.mp member).1
  have running : monitor.refusing = false := by
    by_contra refusing
    rw [Bool.not_eq_false] at refusing
    rw [inv.refusing device rfl refusing] at notWaiting
    cases notWaiting
  refine ⟨inv.started, inv.allocated, inv.listed_iff, inv.unlinkedAfter, inv.freedAfter, ?_, ?_,
    ?_, ?_, fun _ _ => linked, inv.queued_iff, ?_⟩
  · rintro _ ⟨⟩ stored
    exact inv.threadStored device rfl stored
  · rintro _ ⟨⟩
    rw [acquiredExact]
    exact (inv.counted device rfl).gain user notYet now others
  · intro _ _ refusing
    exact absurd (running.symm.trans refusing) (by decide)
  · intro drained
    exact absurd (running.symm.trans (MonitorPc.refusing_of_drained monitor drained)) (by decide)
  · rintro _ ⟨⟩ waiting
    exact inv.unsignaled device rfl waiting

theorem DeviceInv.releaseReference {device : WnbdDiskDevice} {holdsAfter : Nat → Prop}
    (inv : DeviceInv creator monitor (some device) listed queued holds) (user : Nat)
    (held : holds user) (given : ¬ holdsAfter user)
    (others : ∀ other, other ≠ user → (holdsAfter other ↔ holds other)) :
    DeviceInv creator monitor
      (some { device with rundownProtection := device.rundownProtection.release }) listed queued
      holdsAfter := by
  have fewer : ∀ other, holdsAfter other → holds other := by
    intro other after
    by_cases same : other = user
    · exact absurd (same ▸ after) given
    · exact (others other same).mp after
  refine ⟨inv.started, inv.allocated, inv.listed_iff, inv.unlinkedAfter, inv.freedAfter, ?_, ?_,
    ?_, fun drained other after => inv.unused drained other (fewer other after),
    fun other after => inv.heldLinked other (fewer other after), inv.queued_iff, ?_⟩
  · rintro _ ⟨⟩ stored
    exact inv.threadStored device rfl stored
  · rintro _ ⟨⟩
    exact (inv.counted device rfl).lose user held given others
  · rintro _ ⟨⟩ refusing
    exact inv.refusing device rfl refusing
  · rintro _ ⟨⟩ waiting
    exact inv.unsignaled device rfl waiting

end Device

/-! ## Steps that concern one device -/

abbrev DeviceInvAt (state : LifecycleState) (device : DeviceId) : Prop :=
  DeviceInv (state.creators device) (state.monitors device) (state.adapter.devices device)
    (device ∈ state.adapter.deviceList)
    (device ∈ state.adapter.globalDeviceRemovalEvent.waiters)
    (fun user => state.users user = .holding device)

/-- Every other device looks the same before and after. -/
structure OnlyDevice (before after : LifecycleState) (device : DeviceId) : Prop where
  creators : ∀ other, other ≠ device → after.creators other = before.creators other
  monitors : ∀ other, other ≠ device → after.monitors other = before.monitors other
  devices : ∀ other, other ≠ device → after.adapter.devices other = before.adapter.devices other
  listed : ∀ other, other ≠ device →
    (other ∈ after.adapter.deviceList ↔ other ∈ before.adapter.deviceList)
  queued : ∀ other, other ≠ device →
    (other ∈ after.adapter.globalDeviceRemovalEvent.waiters ↔
      other ∈ before.adapter.globalDeviceRemovalEvent.waiters)
  users : ∀ other, other ≠ device → ∀ user,
    (after.users user = .holding other ↔ before.users user = .holding other)

theorem OnlyDevice.deviceInv {before after : LifecycleState} {device : DeviceId}
    (only : OnlyDevice before after device) (inv : ∀ other, DeviceInvAt before other)
    (here : DeviceInvAt after device) (other : DeviceId) : DeviceInvAt after other := by
  by_cases same : other = device
  · rw [same]
    exact here
  · have holders : (fun user => after.users user = .holding other) =
        fun user => before.users user = .holding other :=
      funext fun user => propext (only.users other same user)
    unfold DeviceInvAt
    rw [only.creators other same, only.monitors other same, only.devices other same,
      propext (only.listed other same), propext (only.queued other same), holders]
    exact inv other

theorem LifecycleInv.local {before after : LifecycleState} (inv : LifecycleInv before)
    (device : DeviceId) (only : OnlyDevice before after device)
    (list : after.adapter.deviceList = before.adapter.deviceList)
    (buckets : after.adapter.connIdHashBuckets = before.adapter.connIdHashBuckets)
    (event : after.adapter.globalDeviceRemovalEvent = before.adapter.globalDeviceRemovalEvent)
    (sameId : device ∈ before.adapter.deviceList →
      after.adapter.connectionIdOf device = before.adapter.connectionIdOf device)
    (here : DeviceInvAt after device) : LifecycleInv after := by
  refine ⟨only.deviceInv inv.device here, list ▸ inv.nodup, ?_, event ▸ inv.event⟩
  rw [list, buckets]
  refine inv.index.congr fun other member => ?_
  unfold connIdHash
  by_cases same : other = device
  · rw [same, sameId (same ▸ member)]
  · unfold connectionIdOf
    rw [only.devices other same]

end Wnbd.Adapter
