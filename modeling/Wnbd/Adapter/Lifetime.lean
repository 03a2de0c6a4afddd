import Wnbd.Adapter.LifecycleSteps
import Wnbd.Adapter.Create

/-!
# No use of a freed device

`device_lifetime` holds along every run in which no monitor thread overtakes
the create call of its device.  `freedBeforeConnect` is a run in which one does:
the create call publishes the device, goes on using it without a reference, and
the device is freed before its last write.
-/

set_option autoImplicit false

namespace Wnbd.Adapter

open Wnbd.Scsi AdapterState LifecycleState StepSystem

def Allocated (adapter : AdapterState) (device : DeviceId) : Prop :=
  (adapter.devices device).isSome = true

instance (adapter : AdapterState) (device : DeviceId) : Decidable (Allocated adapter device) := by
  unfold Allocated
  infer_instance

/-- Only allocated devices are linked into the device list and the hash buckets. -/
structure LinkedAlive (adapter : AdapterState) : Prop where
  list : ∀ device ∈ adapter.deviceList, Allocated adapter device
  buckets : ∀ bucket, ∀ device ∈ adapter.connIdHashBuckets bucket, Allocated adapter device

/-- A step touches allocated devices only, and the monitor's unlink finds its
device in both chains. -/
structure StepSafe (state : LifecycleState) (action : LifecycleAction) : Prop where
  touched : ∀ device ∈ touched state action, Allocated state.adapter device
  unlinks : ∀ device, action = .monitor device → state.monitors device = .unlink →
    device ∈ state.adapter.deviceList ∧
      device ∈ state.adapter.connIdHashBuckets (connIdHash state.adapter device)

theorem chainNeighbours_allocated (state : LifecycleState) (inv : LifecycleInv state)
    (device : DeviceId) (allocated : Allocated state.adapter device) :
    ∀ other ∈ chainNeighbours state.adapter device, Allocated state.adapter other := by
  intro other member
  rw [chainNeighbours, List.cons_append, List.mem_cons, List.mem_append] at member
  rcases member with rfl | listed | bucket
  · exact allocated
  · exact (inv.device other).listed_allocated listed
  · exact (inv.device other).listed_allocated
      ((HashIndex.mem_bucket_iff _ _ _ inv.index _ other).mp bucket).1

theorem creator_touched (state : LifecycleState) (inv : LifecycleInv state) (call : DeviceId)
    (fails : Bool) : ∀ device ∈ touched state (.creator call fails),
      Allocated state.adapter device := by
  intro device member
  have old := inv.device call
  unfold touched at member
  cases pc : state.creators call <;> simp only [pc] at member old
  case idle | allocate | count | done | exitClear | exitRelease | failed =>
    exact absurd member List.not_mem_nil
  case findName => exact (inv.device device).listed_allocated member
  case link =>
    exact chainNeighbours_allocated state inv call (old.creating_allocated rfl (by simp)) device
      member
  all_goals
    rw [List.mem_singleton.mp member]
    exact old.creating_allocated rfl (by simp)

theorem monitor_touched (state : LifecycleState) (inv : LifecycleInv state) (device : DeviceId) :
    ∀ other ∈ touched state (.monitor device), Allocated state.adapter other := by
  intro other member
  have old := inv.device device
  unfold touched at member
  cases pc : state.monitors device <;> simp only [pc] at member old
  case absent | waiting | count | release | finished => exact absurd member List.not_mem_nil
  case unlink =>
    exact chainNeighbours_allocated state inv device
      (old.monitored_allocated (by simp) rfl) other member
  all_goals
    rw [List.mem_singleton.mp member]
    exact old.monitored_allocated (by simp) rfl

theorem cleanup_touched (state after : LifecycleState) (chosen : Option DeviceId)
    (inv : LifecycleInv state) (taken : cleanupStep state chosen = some after) :
    ∀ device ∈ touched state (.cleanup chosen), Allocated state.adapter device := by
  intro device member
  unfold touched at member
  dsimp only at member
  split_ifs at member with idle
  · rw [Option.mem_toList] at member
    unfold cleanupStep at taken
    simp only [idle] at taken
    obtain ⟨event, set, _⟩ := Option.map_eq_some_iff.mp taken
    rcases SyncEvent.set_cases _ _ _ set with ⟨waiter, rfl, queued, _⟩ | ⟨rfl, _, _⟩
    · obtain rfl : waiter = device := Option.some.inj member
      have waiting := (inv.device waiter).queued_iff.mp queued
      exact (inv.device waiter).monitored_allocated (by rw [waiting]; simp) (by rw [waiting]; rfl)
    · cases member
  · exact absurd member List.not_mem_nil

theorem stepSafe_of_inv (state after : LifecycleState) (action : LifecycleAction)
    (inv : LifecycleInv state) (orderly : MonitorAfterCreator state action)
    (taken : lifecycleNext state action = some after) : StepSafe state action := by
  refine ⟨?_, ?_⟩
  · cases action with
    | create call props => exact fun _ member => absurd member List.not_mem_nil
    | creator call fails => exact creator_touched state inv call fails
    | monitor device => exact monitor_touched state inv device
    | lookup user key =>
        intro device member
        exact (inv.device device).listed_allocated (lookupChain_listed key inv.index device member)
    | user user op =>
        intro device member
        unfold touched at member
        cases pc : state.users user with
        | holding held =>
            simp only [pc] at member
            rw [List.mem_singleton.mp member]
            exact (inv.device held).held_allocated user pc
        | idle =>
            simp only [pc] at member
            exact absurd member List.not_mem_nil
        | waitingThread waited =>
            simp only [pc] at member
            exact absurd member List.not_mem_nil
    | cleanup chosen => exact cleanup_touched state after chosen inv taken
  · rintro device rfl pc
    have listed : device ∈ state.adapter.deviceList :=
      (inv.device device).listed_iff.mpr ⟨orderly.1 pc, by rw [pc]; rfl⟩
    exact ⟨listed, (HashIndex.mem_bucket_iff _ _ _ inv.index _ device).mpr ⟨listed, rfl⟩⟩

theorem linkedAlive_of_inv (state : LifecycleState) (inv : LifecycleInv state) :
    LinkedAlive state.adapter where
  list := fun device member => (inv.device device).listed_allocated member
  buckets := fun bucket device member => (inv.device device).listed_allocated
    ((HashIndex.mem_bucket_iff _ _ _ inv.index bucket device).mp member).1

/-- Along every run in which monitors do not overtake the create calls of their
devices, no step uses a freed device, every unlink finds its device linked, and
no freed device is linked. -/
theorem device_lifetime (state : LifecycleState)
    (ran : Path lifecycleNext MonitorAfterCreator LifecycleState.initial state) :
    LinkedAlive state.adapter ∧
      ∀ action after, MonitorAfterCreator state action →
        lifecycleNext state action = some after → StepSafe state action := by
  have inv : LifecycleInv state := ran.invariant LifecycleInv lifecycleInv_initial
    fun before action after orderly held taken =>
      lifecycleNext_inv before after action held orderly taken
  exact ⟨linkedAlive_of_inv state inv,
    fun action after orderly taken => stepSafe_of_inv state after action inv orderly taken⟩

/-! ## A complete life, and a create call that is overtaken -/

def createUntilConnect (call : DeviceId) : List LifecycleAction :=
  .create call (sectorProps 512) :: List.replicate 12 (.creator call false)

def removeByAddr : List LifecycleAction :=
  [.lookup 0 (.addr 0 0 0), .user 0 .markRemoval, .user 0 .signalRemoval, .user 0 .release]

def oneDiskLife : List LifecycleAction :=
  createUntilConnect 0 ++ [.creator 0 false, .monitor 0] ++ removeByAddr ++
    List.replicate 13 (.monitor 0)

theorem device_lifetime_one_disk :
    ∃ state, run lifecycleNext LifecycleState.initial oneDiskLife = some state ∧
      LinkedAlive state.adapter ∧
      ∀ action after, MonitorAfterCreator state action →
        lifecycleNext state action = some after → StepSafe state action := by
  have enabled : (run lifecycleNext LifecycleState.initial oneDiskLife).isSome = true := by
    decide +kernel
  have permitted : AllAllowed lifecycleNext MonitorAfterCreator LifecycleState.initial
      oneDiskLife := by
    decide +kernel
  exact ⟨_, (Option.some_get enabled).symm, device_lifetime _
    (path_of_run _ _ oneDiskLife permitted (Option.some_get enabled).symm)⟩

/-- The monitor frees the device while the create call has not written `Connected`. -/
def freedBeforeConnect : List LifecycleAction :=
  createUntilConnect 0 ++ [.monitor 0] ++ removeByAddr ++ List.replicate 12 (.monitor 0)

theorem freedBeforeConnect_reached :
    (run lifecycleNext LifecycleState.initial freedBeforeConnect).any (fun state =>
      decide (¬ Allocated state.adapter 0 ∧ 0 ∈ touched state (.creator 0 false)) &&
        (lifecycleNext state (.creator 0 false)).isSome) = true := by
  decide +kernel

/-- Not every run is safe: the last step of this create call writes a freed device. -/
theorem creator_uses_freed_device :
    ¬ ∀ actions state action after,
      run lifecycleNext LifecycleState.initial actions = some state →
      lifecycleNext state action = some after → StepSafe state action := by
  intro safe
  obtain ⟨state, ran, reached⟩ := (Option.any_eq_true _ _).mp freedBeforeConnect_reached
  rw [Bool.and_eq_true, decide_eq_true_iff] at reached
  obtain ⟨⟨freed, uses⟩, enabled⟩ := reached
  obtain ⟨after, taken⟩ := Option.isSome_iff_exists.mp enabled
  exact freed ((safe _ state (.creator 0 false) after ran taken).touched 0 uses)

end Wnbd.Adapter
