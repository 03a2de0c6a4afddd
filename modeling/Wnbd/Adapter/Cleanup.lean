import Wnbd.Adapter.Lifetime

/-!
# Adapter cleanup

`GlobalDeviceRemovalEvent` is a synchronization event: one `KeSetEvent` releases
one monitor thread.  `cleanup_tears_down` shows that cleanup reaches every
device along the runs in which the monitors it does not release are released by
their own events; `cleanup_strands_a_device` is a run with two disks in which
one of them is left behind.
-/

set_option autoImplicit false

namespace Wnbd.Adapter

open Wnbd.Scsi AdapterState LifecycleState StepSystem

/-! ## Adapter references -/

/-- The create call took the adapter reference and has not released it. -/
def CreatorPc.tookReference : CreatorPc → Bool
  | .idle => false
  | .failed _ kept => kept
  | _ => true

def CreatorPc.inFlight : CreatorPc → Bool
  | .idle | .done | .failed _ _ => false
  | _ => true

/-- A create call holds an adapter reference until it fails, or until the
monitor thread of its device releases it. -/
def HoldsAdapter (state : LifecycleState) (call : DeviceId) : Prop :=
  (state.creators call).tookReference = true ∧ state.monitors call ≠ .finished

/-- The step does not return an error with the adapter reference still held. -/
def ReleasesReference (state : LifecycleState) : LifecycleAction → Prop
  | .create _ _ => state.adapter.newMappingsAllowed = true ∨
      state.adapter.rundownProtection.waiting = true
  | .creator call fails =>
      match state.creators call with
      | .findName props => state.adapter.findDeviceByInstanceName props.instanceName = none
      | .allocate _ => fails = false
      | _ => True
  | _ => True

/-! ## The shared event -/

def MonitorPc.awaiting : MonitorPc → Bool
  | .start | .waiting => true
  | _ => false

def OwnEventSet (state : LifecycleState) (device : DeviceId) : Prop :=
  (state.adapter.devices device).any (·.deviceRemovalEvent) = true

/-- Every registered device other than `released` is past its wait or has its
own removal event set. -/
def OthersSignaled (state : LifecycleState) (released : DeviceId) : Prop :=
  ∀ other ∈ state.adapter.deviceList, other ≠ released →
    (state.monitors other).awaiting = true → OwnEventSet state other

/-- If the step releases a monitor through the shared event, that monitor was
the last one in need of it. -/
def SharedEventSuffices (state : LifecycleState) : LifecycleAction → Prop
  | .cleanup (some device) => state.cleanup = .idle → OthersSignaled state device
  | .monitor device => state.monitors device = .start →
      state.adapter.globalDeviceRemovalEvent.signaled = true → OthersSignaled state device
  | _ => True

/-- No create call takes a step while cleanup is running. -/
def NoCreateDuringCleanup (state : LifecycleState) : LifecycleAction → Prop
  | .create _ _ | .creator _ _ => state.cleanup = .idle
  | _ => True

structure CleanupOrderly (state : LifecycleState) (action : LifecycleAction) : Prop where
  creators : MonitorAfterCreator state action
  references : ReleasesReference state action
  event : SharedEventSuffices state action
  quiet : NoCreateDuringCleanup state action

instance (state : LifecycleState) (action : LifecycleAction) :
    Decidable (ReleasesReference state action) := by
  cases action with
  | creator call fails =>
      unfold ReleasesReference
      dsimp only
      cases state.creators call <;> infer_instance
  | _ =>
      unfold ReleasesReference
      infer_instance

instance (state : LifecycleState) (released : DeviceId) :
    Decidable (OthersSignaled state released) := by
  unfold OthersSignaled OwnEventSet
  infer_instance

instance (state : LifecycleState) (action : LifecycleAction) :
    Decidable (SharedEventSuffices state action) := by
  cases action with
  | cleanup chosen =>
      unfold SharedEventSuffices
      cases chosen <;> infer_instance
  | _ =>
      unfold SharedEventSuffices
      infer_instance

instance (state : LifecycleState) (action : LifecycleAction) :
    Decidable (NoCreateDuringCleanup state action) := by
  cases action <;> unfold NoCreateDuringCleanup <;> infer_instance

instance (state : LifecycleState) (action : LifecycleAction) :
    Decidable (CleanupOrderly state action) :=
  decidable_of_iff (MonitorAfterCreator state action ∧ ReleasesReference state action ∧
      SharedEventSuffices state action ∧ NoCreateDuringCleanup state action)
    ⟨fun ⟨creators, references, event, quiet⟩ => ⟨creators, references, event, quiet⟩,
      fun orderly => ⟨orderly.creators, orderly.references, orderly.event, orderly.quiet⟩⟩

/-! ## The invariant -/

/-- Cleanup will still reach every registered device. -/
def ReachesAll (state : LifecycleState) : Prop :=
  state.adapter.globalDeviceRemovalEvent.signaled = true ∨
    ∀ device ∈ state.adapter.deviceList, (state.monitors device).awaiting = true →
      OwnEventSet state device

structure CleanupInv (state : LifecycleState) : Prop where
  base : LifecycleInv state
  references : Counts (HoldsAdapter state) state.adapter.rundownProtection.references
  noneKept : ∀ call status, state.creators call ≠ .failed status true
  reaches : state.cleanup ≠ .idle → ReachesAll state

theorem cleanupInv_initial : CleanupInv LifecycleState.initial where
  base := lifecycleInv_initial
  references := Counts.zero fun _ holds => by cases holds.1
  noneKept := fun _ _ failed => by cases failed
  reaches := fun notIdle => absurd rfl notIdle

/-- `ReachesAll` survives what lets no device off the hook. -/
theorem ReachesAll.mono {before after : LifecycleState} (reaches : ReachesAll before)
    (event : after.adapter.globalDeviceRemovalEvent.signaled =
      before.adapter.globalDeviceRemovalEvent.signaled)
    (device : ∀ device ∈ after.adapter.deviceList, device ∈ before.adapter.deviceList ∧
      ((after.monitors device).awaiting = true → (before.monitors device).awaiting = true ∧
        (OwnEventSet before device → OwnEventSet after device))) : ReachesAll after := by
  rcases reaches with signaled | own
  · exact Or.inl (event.trans signaled)
  · refine Or.inr fun other listed awaiting => ?_
    obtain ⟨listedBefore, keeps⟩ := device other listed
    obtain ⟨awaitingBefore, ownKept⟩ := keeps awaiting
    exact ownKept (own other listedBefore awaitingBefore)

theorem references_same {before after : LifecycleState}
    (counted : Counts (HoldsAdapter before) before.adapter.rundownProtection.references)
    (references : after.adapter.rundownProtection.references =
      before.adapter.rundownProtection.references)
    (creators : ∀ call, (after.creators call).tookReference =
      (before.creators call).tookReference)
    (monitors : ∀ call, after.monitors call = .finished ↔ before.monitors call = .finished) :
    Counts (HoldsAdapter after) after.adapter.rundownProtection.references := by
  rw [references]
  exact counted.congr fun call =>
    and_congr (by rw [creators call]) (not_congr (monitors call))

/-! ## Create calls -/

theorem createBegin_cleanup (state after : LifecycleState) (call : DeviceId)
    (props : WnbdProperties) (inv : CleanupInv state)
    (orderly : CleanupOrderly state (.create call props))
    (taken : createBegin state call props = some after) : CleanupInv after := by
  have base := createBegin_inv state after call props inv.base taken
  have idle : state.cleanup = .idle := orderly.quiet
  have references : state.adapter.newMappingsAllowed = true ∨
    state.adapter.rundownProtection.waiting = true := orderly.references
  unfold createBegin at taken
  split at taken
  case isFalse => cases taken
  case isTrue pc =>
      cases waiting : state.adapter.rundownProtection.waiting with
      | true =>
          rw [acquireRundown_refused state.adapter waiting] at taken
          -- No reference was taken, so both early returns keep none.
          have refused : after = (state.setAdapter state.adapter).setCreator call
              (.failed statusShutdownInProgress false) := by
            dsimp only at taken
            split_ifs at taken <;> first | exact (Option.some.inj taken).symm | contradiction
          subst refused
          refine ⟨base, references_same inv.references rfl (fun other => ?_) fun _ => Iff.rfl,
            fun other status => ?_, fun notIdle => absurd idle notIdle⟩
          · by_cases same : other = call
            · subst same
              simp only [setCreator, Function.update_self, pc]
              rfl
            · simp only [setCreator, Function.update_of_ne same]
              rfl
          · by_cases same : other = call
            · subst same
              simp [setCreator]
            · simp only [setCreator, Function.update_of_ne same]
              exact inv.noneKept other status
      | false =>
          have allowed : state.adapter.newMappingsAllowed = true := by
            rcases references with allowed | refused
            · exact allowed
            · rw [waiting] at refused
              cases refused
          rw [acquireRundown_taken state.adapter waiting] at taken
          simp only [allowed, Bool.not_true, Bool.false_eq_true, if_false] at taken
          cases taken
          have absent := (inv.base.device call).monitorAbsent (by rw [pc]; rfl)
          refine ⟨base, inv.references.gain call ?_ ?_ fun other different => ?_,
            fun other status => ?_, fun notIdle => absurd idle notIdle⟩
          · rintro ⟨took, _⟩
            rw [pc] at took
            cases took
          · refine ⟨by simp [setCreator, CreatorPc.tookReference], ?_⟩
            change state.monitors call ≠ .finished
            simp [absent]
          · simp only [HoldsAdapter, setCreator, Function.update_of_ne different]
            rfl
          · by_cases same : other = call
            · subst same
              simp [setCreator]
            · simp only [setCreator, Function.update_of_ne same]
              exact inv.noneKept other status

theorem CleanupInv.creatorMoves {state : LifecycleState} (inv : CleanupInv state)
    (idle : state.cleanup = .idle) (call : DeviceId) (next : CreatorPc) (adapter : AdapterState)
    (base : LifecycleInv ((state.setAdapter adapter).setCreator call next))
    (references : adapter.rundownProtection = state.adapter.rundownProtection)
    (took : next.tookReference = (state.creators call).tookReference)
    (notKept : ∀ status, next ≠ .failed status true) :
    CleanupInv ((state.setAdapter adapter).setCreator call next) := by
  refine ⟨base, references_same inv.references (congrArg Rundown.references references)
    (fun other => ?_) fun _ => Iff.rfl, fun other status => ?_, fun notIdle => absurd idle notIdle⟩
  · by_cases same : other = call
    · subst same
      simp only [setCreator, Function.update_self, took]
    · simp only [setCreator, Function.update_of_ne same]
      rfl
  · by_cases same : other = call
    · subst same
      simp only [setCreator, Function.update_self]
      exact notKept status
    · simp only [setCreator, Function.update_of_ne same]
      exact inv.noneKept other status

theorem creatorStep_cleanup (state after : LifecycleState) (call : DeviceId) (fails : Bool)
    (inv : CleanupInv state) (orderly : CleanupOrderly state (.creator call fails))
    (taken : creatorStep state call fails = some after) : CleanupInv after := by
  have base := creatorStep_inv state after call fails inv.base orderly.creators taken
  have idle : state.cleanup = .idle := orderly.quiet
  have old := inv.base.device call
  have references := orderly.references
  unfold ReleasesReference at references
  cases creatorStep_cases taken with
  | moves pc next here move =>
      simp only [here] at references
      cases move with
      | nameTaken props found =>
          dsimp only at references
          rw [references] at found
          cases found
      | noDevice props failed =>
          dsimp only at references
          rw [references] at failed
          cases failed
      | _ => exact inv.creatorMoves idle call _ _ base rfl (by rw [here]; rfl) (by simp)
  | writes pc next change here write =>
      cases write <;> exact inv.creatorMoves idle call _ _ base rfl (by rw [here]; rfl) (by simp)
  | starts bit here =>
      rw [here] at old
      have absent := old.monitorAbsent rfl
      refine ⟨base, references_same inv.references rfl (fun other => ?_) fun other => ?_,
        fun other status => ?_, fun notIdle => absurd idle notIdle⟩
      · by_cases same : other = call
        · subst same
          simp only [setCreator, Function.update_self, here]
          rfl
        · simp only [setCreator, Function.update_of_ne same]
          rfl
      · by_cases same : other = call
        · subst same
          simp [setCreator, setMonitor, absent]
        · simp only [setCreator, setMonitor, Function.update_of_ne same]
      · by_cases same : other = call
        · subst same
          simp [setCreator]
        · simp only [setCreator, Function.update_of_ne same]
          exact inv.noneKept other status
  | leaves bit status here stored =>
      rw [here] at old
      rw [old.exitUnstored] at stored
      cases stored
  | releases status here =>
      rw [here] at old
      have absent := old.monitorAbsent rfl
      refine ⟨base, inv.references.lose call ⟨by rw [here]; rfl, by simp [absent]⟩ ?_
        fun other different => ?_, fun other kept => ?_, fun notIdle => absurd idle notIdle⟩
      · rintro ⟨took, _⟩
        simp [setCreator, CreatorPc.tookReference] at took
      · simp only [HoldsAdapter, setCreator, Function.update_of_ne different]
        rfl
      · by_cases same : other = call
        · subst same
          simp [setCreator]
        · simp only [setCreator, Function.update_of_ne same]
          exact inv.noneKept other kept
  | allocates props here | noAddress here | claims bit here | accepts bit here
  | refuses bit here | links here | counts here | frees bit status here
  | clears bit status here =>
      exact inv.creatorMoves idle call _ _ base rfl (by rw [here]; rfl) (by simp)

/-! ## Monitor threads -/

theorem ReachesAll.monitorMoves {state : LifecycleState} (reaches : ReachesAll state)
    (device : DeviceId) (next : MonitorPc) (adapter : AdapterState)
    (past : next.awaiting = false)
    (event : adapter.globalDeviceRemovalEvent.signaled =
      state.adapter.globalDeviceRemovalEvent.signaled)
    (list : ∀ other ∈ adapter.deviceList, other ∈ state.adapter.deviceList)
    (devices : ∀ other, other ≠ device → adapter.devices other = state.adapter.devices other) :
    ReachesAll ((state.setAdapter adapter).setMonitor device next) := by
  refine reaches.mono event fun other listed => ⟨list other listed, fun awaiting => ?_⟩
  by_cases same : other = device
  · subst same
    simp only [setMonitor, Function.update_self, past] at awaiting
    cases awaiting
  · simp only [setMonitor, Function.update_of_ne same] at awaiting
    refine ⟨awaiting, fun own => ?_⟩
    unfold OwnEventSet at own ⊢
    rw [← devices other same] at own
    exact own

theorem CleanupInv.monitorStays {state after : LifecycleState} (inv : CleanupInv state)
    (device : DeviceId) (base : LifecycleInv after)
    (references : after.adapter.rundownProtection = state.adapter.rundownProtection)
    (creators : after.creators = state.creators) (cleanup : after.cleanup = state.cleanup)
    (others : ∀ other, other ≠ device → after.monitors other = state.monitors other)
    (unfinished : after.monitors device ≠ .finished ∧ state.monitors device ≠ .finished)
    (reaches : ReachesAll state → ReachesAll after) : CleanupInv after := by
  refine ⟨base, references_same inv.references (congrArg Rundown.references references)
    (fun _ => by rw [creators]) (fun other => ?_), by rw [creators]; exact inv.noneKept, ?_⟩
  · by_cases same : other = device
    · subst same
      exact iff_of_false unfinished.1 unfinished.2
    · rw [others other same]
  · rw [cleanup]
    exact fun notIdle => reaches (inv.reaches notIdle)

theorem CleanupInv.monitorMoves {state : LifecycleState} (inv : CleanupInv state)
    (device : DeviceId) (next : MonitorPc) (adapter : AdapterState)
    (base : LifecycleInv ((state.setAdapter adapter).setMonitor device next))
    (references : adapter.rundownProtection = state.adapter.rundownProtection)
    (unfinished : next ≠ .finished ∧ state.monitors device ≠ .finished)
    (past : next.awaiting = false)
    (event : adapter.globalDeviceRemovalEvent.signaled =
      state.adapter.globalDeviceRemovalEvent.signaled)
    (list : ∀ other ∈ adapter.deviceList, other ∈ state.adapter.deviceList)
    (devices : ∀ other, other ≠ device → adapter.devices other = state.adapter.devices other) :
    CleanupInv ((state.setAdapter adapter).setMonitor device next) :=
  inv.monitorStays device base references rfl rfl
    (fun _ different => Function.update_of_ne different _ _)
    ⟨by simp only [setMonitor, Function.update_self]; exact unfinished.1, unfinished.2⟩
    fun reaches => reaches.monitorMoves device next adapter past event list devices

/-- A monitor released by the shared event leaves nobody behind. -/
theorem CleanupInv.monitorWakes {state : LifecycleState} (inv : CleanupInv state)
    (device : DeviceId) (pc : state.monitors device = .start)
    (base : LifecycleInv ((state.setAdapter { state.adapter with
      globalDeviceRemovalEvent :=
        { state.adapter.globalDeviceRemovalEvent with signaled := false } }).setMonitor device
          .mark))
    (lastOne : OthersSignaled state device) :
    CleanupInv ((state.setAdapter { state.adapter with
      globalDeviceRemovalEvent :=
        { state.adapter.globalDeviceRemovalEvent with signaled := false } }).setMonitor device
          .mark) := by
  refine inv.monitorStays device base rfl rfl rfl
    (fun other different => Function.update_of_ne different _ _)
    ⟨by simp [setMonitor], by simp [pc]⟩ fun _ => Or.inr fun other listed awaiting => ?_
  by_cases same : other = device
  · subst same
    simp [setMonitor, MonitorPc.awaiting] at awaiting
  · simp only [setMonitor, Function.update_of_ne same] at awaiting
    exact lastOne other listed same awaiting

/-- A monitor that goes to sleep was one of those that await an event. -/
theorem CleanupInv.monitorSleeps {state : LifecycleState} (inv : CleanupInv state)
    (device : DeviceId) (pc : state.monitors device = .start)
    (base : LifecycleInv ((state.setAdapter { state.adapter with
      globalDeviceRemovalEvent :=
        { state.adapter.globalDeviceRemovalEvent with
          waiters := state.adapter.globalDeviceRemovalEvent.waiters ++ [device] } }).setMonitor
            device .waiting)) :
    CleanupInv ((state.setAdapter { state.adapter with
      globalDeviceRemovalEvent :=
        { state.adapter.globalDeviceRemovalEvent with
          waiters := state.adapter.globalDeviceRemovalEvent.waiters ++ [device] } }).setMonitor
            device .waiting) := by
  refine inv.monitorStays device base rfl rfl rfl
    (fun other different => Function.update_of_ne different _ _)
    ⟨by simp [setMonitor], by simp [pc]⟩
    fun reaches => reaches.mono rfl fun other listed => ⟨listed, fun awaiting => ?_⟩
  by_cases same : other = device
  · subst same
    exact ⟨by rw [pc]; rfl, id⟩
  · simp only [setMonitor, Function.update_of_ne same] at awaiting
    exact ⟨awaiting, id⟩

theorem monitorStep_cleanup (state after : LifecycleState) (device : DeviceId)
    (inv : CleanupInv state) (orderly : CleanupOrderly state (.monitor device))
    (taken : monitorStep state device = some after) : CleanupInv after := by
  have base := monitorStep_inv state after device inv.base orderly.creators taken
  have elsewhere := fun (change : WnbdDiskDevice → WnbdDiskDevice) (other : DeviceId) =>
    updateDevice_of_ne state.adapter device other change
  cases monitorStep_cases taken with
  | wakes here signaled => exact inv.monitorWakes device here base (orderly.event here signaled)
  | sleeps here => exact inv.monitorSleeps device here base
  | ownEvent here | runDown here | counts here =>
      exact inv.monitorMoves device _ _ base rfl (by simp [here]) rfl rfl (fun _ => id)
        fun _ _ => rfl
  | moves pc next here move =>
      cases move <;>
        exact inv.monitorMoves device _ state.adapter base rfl (by simp [here]) rfl rfl
          (fun _ => id) fun _ _ => rfl
  | writes pc next change here write =>
      cases write <;>
        exact inv.monitorMoves device _ _ base rfl (by simp [here]) rfl rfl (fun _ => id)
          (elsewhere _)
  | unlinks here =>
      exact inv.monitorMoves device _ _ base rfl (by simp [here]) rfl rfl
        (fun _ => List.mem_of_mem_erase) fun _ _ => rfl
  | frees here =>
      exact inv.monitorMoves device _ _ base rfl (by simp [here]) rfl rfl (fun _ => id)
        fun other => setDevice_of_ne state.adapter device other none
  | releases here =>
      have created : state.creators device = .done :=
        (inv.base.device device).freedAfter (by rw [here]; rfl)
      refine ⟨base, inv.references.lose device ⟨by rw [created]; rfl, by simp [here]⟩ ?_
        fun other different => ?_, inv.noneKept, fun notIdle => ?_⟩
      · rintro ⟨_, unfinished⟩
        exact unfinished (Function.update_self ..)
      · simp only [HoldsAdapter, setMonitor, Function.update_of_ne different]
        rfl
      · exact (inv.reaches notIdle).monitorMoves device .finished _ rfl rfl (fun _ => id)
          fun _ _ => rfl

/-! ## Users and cleanup -/

theorem CleanupInv.usesDevices {state after : LifecycleState} (inv : CleanupInv state)
    (base : LifecycleInv after)
    (references : after.adapter.rundownProtection = state.adapter.rundownProtection)
    (creators : after.creators = state.creators) (cleanup : after.cleanup = state.cleanup)
    (list : after.adapter.deviceList = state.adapter.deviceList)
    (event : after.adapter.globalDeviceRemovalEvent.signaled =
      state.adapter.globalDeviceRemovalEvent.signaled)
    (monitors : ∀ device, (after.monitors device = .finished ↔ state.monitors device = .finished) ∧
      ((after.monitors device).awaiting = true → (state.monitors device).awaiting = true))
    (own : ∀ device, OwnEventSet state device → OwnEventSet after device) : CleanupInv after where
  base := base
  references := references_same inv.references (congrArg Rundown.references references)
    (fun _ => by rw [creators]) fun device => (monitors device).1
  noneKept := by rw [creators]; exact inv.noneKept
  reaches := by
    rw [cleanup]
    exact fun notIdle => (inv.reaches notIdle).mono event fun device listed =>
      ⟨list ▸ listed, fun awaiting => ⟨(monitors device).2 awaiting, own device⟩⟩

theorem ownEventSet_updateDevice (state : LifecycleState) (device : DeviceId)
    (change : WnbdDiskDevice → WnbdDiskDevice)
    (keeps : ∀ value, value.deviceRemovalEvent = true → (change value).deviceRemovalEvent = true)
    (other : DeviceId) (own : OwnEventSet state other) :
    OwnEventSet (state.setAdapter (state.adapter.updateDevice device change)) other := by
  unfold OwnEventSet at own ⊢
  by_cases same : other = device
  · subst same
    simp only [setAdapter, updateDevice_self]
    cases found : state.adapter.devices other with
    | none => rw [found] at own; cases own
    | some value =>
        rw [found] at own
        exact keeps value own
  · simp only [setAdapter, updateDevice_of_ne _ _ _ _ same]
    exact own

theorem lookupStep_cleanup (state after : LifecycleState) (user : Nat) (key : LookupKey)
    (inv : CleanupInv state) (taken : lookupStep state user key = some after) :
    CleanupInv after := by
  have base := lookupStep_inv state after user key inv.base taken
  unfold lookupStep at taken
  split at taken
  case isFalse => cases taken
  case isTrue =>
      split at taken
      · cases taken
        exact inv
      split at taken
      · cases taken
        exact inv
      cases taken
      exact inv.usesDevices base rfl rfl rfl rfl rfl (fun _ => ⟨Iff.rfl, id⟩)
        (ownEventSet_updateDevice state _ _ fun _ => id)

theorem signalDevice_cleanup (state : LifecycleState) (device : DeviceId) (inv : CleanupInv state) :
    CleanupInv (signalDevice state device) := by
  have base := signalDevice_inv state device inv.base
  refine inv.usesDevices base ?_ ?_ ?_ ?_ ?_ (fun other => ?_) fun other own => ?_
  case refine_7 =>
    refine ownEventSet_updateDevice (wakeMonitor state device) device _ (fun _ _ => rfl) other ?_
    unfold wakeMonitor
    split <;> exact own
  case refine_6 =>
    change ((wakeMonitor state device).monitors other = .finished ↔ _) ∧
      (((wakeMonitor state device).monitors other).awaiting = true → _)
    unfold wakeMonitor
    split
    · rename_i waiting
      by_cases same : other = device
      · subst same
        simp [setMonitor, waiting, MonitorPc.awaiting]
      · simp [setMonitor, setAdapter, Function.update_of_ne same]
    · exact ⟨Iff.rfl, id⟩
  all_goals
    unfold signalDevice wakeMonitor
    split <;> rfl

theorem userStep_cleanup (state after : LifecycleState) (user : Nat) (op : UserOp)
    (inv : CleanupInv state) (taken : userStep state user op = some after) :
    CleanupInv after := by
  have base := userStep_inv state after user op inv.base taken
  unfold userStep at taken
  cases pc : state.users user with
  | idle => simp only [pc] at taken; cases taken
  | waitingThread device =>
      simp only [pc] at taken
      split_ifs at taken
      cases taken
      exact inv.usesDevices base rfl rfl rfl rfl rfl (fun _ => ⟨Iff.rfl, id⟩) fun _ => id
  | holding device =>
      simp only [pc] at taken
      cases op with
      | access =>
          cases taken
          exact inv
      | signalRemoval =>
          cases taken
          exact signalDevice_cleanup state device inv
      | markRemoval | release | releaseAndWait =>
          cases taken
          exact inv.usesDevices base rfl rfl rfl rfl rfl (fun _ => ⟨Iff.rfl, id⟩)
            (ownEventSet_updateDevice state _ _ fun _ => id)

theorem cleanupStep_cleanup (state after : LifecycleState) (chosen : Option DeviceId)
    (inv : CleanupInv state) (orderly : CleanupOrderly state (.cleanup chosen))
    (taken : cleanupStep state chosen = some after) : CleanupInv after := by
  have base := cleanupStep_inv state after chosen inv.base taken
  unfold cleanupStep at taken
  cases pc : state.cleanup with
  | startWait =>
      simp only [pc] at taken
      cases taken
      exact ⟨base, inv.references, inv.noneKept, fun _ => inv.reaches (by simp [pc])⟩
  | waiting =>
      simp only [pc] at taken
      split_ifs at taken
      cases taken
      exact ⟨base, inv.references, inv.noneKept, fun notIdle => absurd rfl notIdle⟩
  | idle =>
      simp only [pc] at taken
      obtain ⟨event, set, rfl⟩ := Option.map_eq_some_iff.mp taken
      rcases SyncEvent.set_cases _ _ _ set with
        ⟨device, rfl, queued, rfl⟩ | ⟨rfl, empty, rfl⟩
      · have waiting := (inv.base.device device).queued_iff.mp queued
        refine ⟨base, references_same inv.references rfl (fun _ => rfl) (fun other => ?_),
          inv.noneKept, fun _ => Or.inr fun other listed awaiting => ?_⟩
        · by_cases same : other = device
          · subst same
            simp [setMonitor, waiting]
          · simp [setMonitor, setAdapter, Function.update_of_ne same]
        · by_cases same : other = device
          · subst same
            simp [setMonitor, MonitorPc.awaiting] at awaiting
          · simp only [setMonitor, Function.update_of_ne same] at awaiting
            exact orderly.event pc other listed same awaiting
      · exact ⟨base, inv.references, inv.noneKept, fun _ => Or.inl rfl⟩

theorem lifecycleNext_cleanup (state after : LifecycleState) (action : LifecycleAction)
    (inv : CleanupInv state) (orderly : CleanupOrderly state action)
    (taken : lifecycleNext state action = some after) : CleanupInv after := by
  cases action with
  | create call props => exact createBegin_cleanup state after call props inv orderly taken
  | creator call fails => exact creatorStep_cleanup state after call fails inv orderly taken
  | monitor device => exact monitorStep_cleanup state after device inv orderly taken
  | lookup user key => exact lookupStep_cleanup state after user key inv taken
  | user user op => exact userStep_cleanup state after user op inv taken
  | cleanup chosen => exact cleanupStep_cleanup state after chosen inv orderly taken

/-! ## Cleanup finishes -/

structure Settled (state : LifecycleState) : Prop where
  monitors : ∀ device, monitorStep state device = none
  users : ∀ device user, state.users user ≠ .holding device

/-- No device is registered and the wait in `WnbdCleanupAllDevices` can return. -/
structure TornDown (state : LifecycleState) : Prop where
  list : state.adapter.deviceList = []
  released : state.adapter.rundownProtection.released

/-- A monitor without a next step is absent, asleep, finished, or waits for references. -/
theorem monitorStep_none (state : LifecycleState) (device : DeviceId)
    (stuck : monitorStep state device = none) :
    state.monitors device = .absent ∨ state.monitors device = .waiting ∨
      state.monitors device = .finished ∨
      (state.monitors device = .rundown ∧ (state.adapter.devices device).all
        (fun value => decide value.rundownProtection.released) = false) := by
  unfold monitorStep at stuck
  cases pc : state.monitors device <;> simp only [pc] at stuck <;> simp_all

theorem settled_monitors (state : LifecycleState) (inv : CleanupInv state)
    (signaled : state.cleanup ≠ .idle) (noCreate : ∀ call, (state.creators call).inFlight = false)
    (settled : Settled state) (device : DeviceId) :
    state.monitors device = .absent ∨ state.monitors device = .finished := by
  have here := inv.base.device device
  rcases monitorStep_none state device (settled.monitors device) with
    absent | waiting | finished | ⟨rundown, held⟩
  · exact Or.inl absent
  · -- A sleeping monitor is queued on an unset event and has no event of its own set.
    exfalso
    have started : (state.creators device).started = true :=
      here.started.mp (by simp [waiting])
    have linked : (state.creators device).linked = true := by
      have returned := noCreate device
      cases pc : state.creators device <;>
        simp_all [CreatorPc.started, CreatorPc.inFlight, CreatorPc.linked]
    have listed : device ∈ state.adapter.deviceList :=
      here.listed_iff.mpr ⟨linked, by rw [waiting]; rfl⟩
    rcases inv.reaches signaled with set | own
    · have queued := here.queued_iff.mpr waiting
      rw [inv.base.event.idle set] at queued
      exact absurd queued List.not_mem_nil
    · have ownSet := own device listed (by rw [waiting]; rfl)
      obtain ⟨value, found, set⟩ := (Option.any_eq_true _ _).mp ownSet
      rw [here.unsignaled value found waiting] at set
      cases set
  · exact Or.inr finished
  · exfalso
    obtain ⟨value, found⟩ := Option.isSome_iff_exists.mp
      (here.monitored_allocated (by simp [rundown]) (by rw [rundown]; rfl))
    have free := (here.counted value found).eq_zero fun user => settled.users device user
    rw [found, Option.all_some] at held
    exact absurd free (of_decide_eq_false held)

/-- Cleanup tears every device down along the runs in which the shared event is
enough, no create call is in flight and none kept its reference. -/
theorem cleanup_tears_down (state : LifecycleState)
    (ran : Path lifecycleNext CleanupOrderly LifecycleState.initial state)
    (signaled : state.cleanup ≠ .idle) (noCreate : ∀ call, (state.creators call).inFlight = false)
    (settled : Settled state) : TornDown state := by
  have inv : CleanupInv state := ran.invariant CleanupInv cleanupInv_initial
    fun before action after orderly held taken =>
      lifecycleNext_cleanup before after action held orderly taken
  have gone := settled_monitors state inv signaled noCreate settled
  refine ⟨List.eq_nil_iff_forall_not_mem.mpr fun device listed => ?_,
    inv.references.eq_zero fun call => ?_⟩
  · have here := inv.base.device device
    obtain ⟨linked, notUnlinked⟩ := here.listed_iff.mp listed
    rcases gone device with absent | finished
    · refine here.started.mpr ?_ absent
      cases pc : state.creators device <;> simp_all [CreatorPc.linked, CreatorPc.started]
    · rw [finished] at notUnlinked
      cases notUnlinked
  · rintro ⟨took, unfinished⟩
    rcases gone call with absent | finished
    · have returned := noCreate call
      cases pc : state.creators call with
      | failed status kept =>
          rw [pc] at took
          cases took
          exact inv.noneKept call status pc
      | done => exact (inv.base.device call).started.mpr (by rw [pc]; rfl) absent
      | idle => rw [pc] at took; cases took
      | _ => rw [pc] at returned; cases returned
    · exact unfinished finished

/-! ## Two disks -/

def twoDisks : List LifecycleAction :=
  .create 0 (sectorProps 512) :: List.replicate 13 (.creator 0 false) ++
    .create 1 { sectorProps 512 with instanceName := [119] } ::
      List.replicate 13 (.creator 1 false) ++ [.monitor 0, .monitor 1]

/-- The second disk is being removed by the time cleanup runs. -/
def cleanupAfterRemoval : List LifecycleAction :=
  twoDisks ++ [.lookup 0 (.instanceName [119]), .user 0 .signalRemoval, .user 0 .release,
    .cleanup (some 0), .cleanup none] ++ List.replicate 13 (.monitor 0) ++
    List.replicate 13 (.monitor 1)

/-- Cleanup finds both monitors asleep and releases one. -/
def cleanupOfTwo : List LifecycleAction :=
  twoDisks ++ [.cleanup (some 0), .cleanup none] ++ List.replicate 13 (.monitor 0)

theorem settled_of_counters (state : LifecycleState)
    (monitors : ∀ device, state.monitors device = .absent ∨ state.monitors device = .waiting ∨
      state.monitors device = .finished)
    (users : ∀ user, state.users user = .idle) : Settled state where
  monitors := fun device => by
    unfold monitorStep
    rcases monitors device with pc | pc | pc <;> simp only [pc]
  users := fun device user held => by
    rw [users user] at held
    cases held

theorem cleanup_tears_down_two :
    ∃ state, run lifecycleNext LifecycleState.initial cleanupAfterRemoval = some state ∧
      TornDown state := by
  have enabled : (run lifecycleNext LifecycleState.initial cleanupAfterRemoval).isSome = true := by
    decide +kernel
  have permitted : AllAllowed lifecycleNext CleanupOrderly LifecycleState.initial
      cleanupAfterRemoval := by
    decide +kernel
  obtain ⟨state, ran⟩ := Option.isSome_iff_exists.mp enabled
  have monitors : ∀ device, state.monitors device = .absent ∨ state.monitors device = .waiting ∨
      state.monitors device = .finished
    | 0 => Or.inr (Or.inr (field_of_run (·.monitors 0) _ state _ _ ran (by decide +kernel)))
    | 1 => Or.inr (Or.inr (field_of_run (·.monitors 1) _ state _ _ ran (by decide +kernel)))
    | device + 2 => Or.inl (field_of_run (·.monitors (device + 2)) _ state _ _ ran rfl)
  have users : ∀ user, state.users user = .idle
    | 0 => field_of_run (·.users 0) _ state _ _ ran (by decide +kernel)
    | user + 1 => field_of_run (·.users (user + 1)) _ state _ _ ran rfl
  have noCreate : ∀ call, (state.creators call).inFlight = false
    | 0 => field_of_run (fun state => (state.creators 0).inFlight) _ state _ _ ran
        (by decide +kernel)
    | 1 => field_of_run (fun state => (state.creators 1).inFlight) _ state _ _ ran
        (by decide +kernel)
    | call + 2 => field_of_run (fun state => (state.creators (call + 2)).inFlight) _ state _ _
        ran rfl
  have signaled : state.cleanup = .waiting :=
    field_of_run (·.cleanup) _ state _ _ ran (by decide +kernel)
  exact ⟨state, ran, cleanup_tears_down state (path_of_run _ _ _ permitted ran)
    (by rw [signaled]; decide) noCreate (settled_of_counters state monitors users)⟩

/-- Two disks and one cleanup: the second monitor sleeps on, its device stays
registered and the adapter's reference count stays at one. -/
theorem cleanup_strands_a_device :
    ¬ ∀ actions state, run lifecycleNext LifecycleState.initial actions = some state →
      state.cleanup ≠ .idle → (∀ call, (state.creators call).inFlight = false) →
      Settled state → TornDown state := by
  intro always
  have enabled : (run lifecycleNext LifecycleState.initial cleanupOfTwo).isSome = true := by
    decide +kernel
  obtain ⟨state, ran⟩ := Option.isSome_iff_exists.mp enabled
  have monitors : ∀ device, state.monitors device = .absent ∨ state.monitors device = .waiting ∨
      state.monitors device = .finished
    | 0 => Or.inr (Or.inr (field_of_run (·.monitors 0) _ state _ _ ran (by decide +kernel)))
    | 1 => Or.inr (Or.inl (field_of_run (·.monitors 1) _ state _ _ ran (by decide +kernel)))
    | device + 2 => Or.inl (field_of_run (·.monitors (device + 2)) _ state _ _ ran rfl)
  have users : ∀ user, state.users user = .idle := fun user =>
    field_of_run (·.users user) _ state _ _ ran rfl
  have noCreate : ∀ call, (state.creators call).inFlight = false
    | 0 => field_of_run (fun state => (state.creators 0).inFlight) _ state _ _ ran
        (by decide +kernel)
    | 1 => field_of_run (fun state => (state.creators 1).inFlight) _ state _ _ ran
        (by decide +kernel)
    | call + 2 => field_of_run (fun state => (state.creators (call + 2)).inFlight) _ state _ _
        ran rfl
  have signaled : state.cleanup = .waiting :=
    field_of_run (·.cleanup) _ state _ _ ran (by decide +kernel)
  have stranded : state.adapter.deviceList = [1] :=
    field_of_run (·.adapter.deviceList) _ state _ _ ran (by decide +kernel)
  have torn := always _ state ran (by rw [signaled]; decide) noCreate
    (settled_of_counters state monitors users)
  rw [torn.list] at stranded
  cases stranded

end Wnbd.Adapter
