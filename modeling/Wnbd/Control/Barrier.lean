import Wnbd.Control.UniqueNames

/-!
# Setting NewMappingsAllowed to false

`SET_DRV_OPT` waits for pending create calls by taking the creation lock, but it
takes it shared, as they do, and so never waits.  `new_mappings_barrier` says
what holds in the runs in which no create call is under way when the lock is
taken; `mapping_slips_through` is a run in which one is.
-/

set_option autoImplicit false

namespace Wnbd.Control

open Wnbd.Scsi Wnbd.Adapter Wnbd.Adapter.AdapterState Wnbd.Adapter.LifecycleState ControlState
open StepSystem

/-! ## Conditions on the steps -/

/-- The create call the owner stands for has read the option as true and may
still insert its device. -/
def pendingMapping (state : ControlState) : LockOwner → Bool
  | .create call => beforeInsertion (state.lifecycle.creators call)
  | .request _ => false

def requestedStep (state : ControlState) : ControlAction → RequestPc
  | .request thread _ => state.requests thread
  | _ => .idle

/-- The step takes the creation lock for `IOCTL_WNBD_SET_DRV_OPT`. -/
def RequestPc.takesBarrier : RequestPc → Bool
  | .acquireCreation _ => true
  | _ => false

/-- No create call is between its read of the option and its insertion when
`IOCTL_WNBD_SET_DRV_OPT` takes the creation lock. -/
def MappingsSettled (state : ControlState) (action : ControlAction) : Prop :=
  (requestedStep state action).takesBarrier = true →
    ∀ owner ∈ state.deviceCreationLock.shared, pendingMapping state owner = false

instance (state : ControlState) (action : ControlAction) :
    Decidable (MappingsSettled state action) := by
  unfold MappingsSettled
  infer_instance

def StaysDisallowed : ControlAction → Prop
  | .writeOption value => value = false
  | _ => True

instance (action : ControlAction) : Decidable (StaysDisallowed action) := by
  cases action <;> unfold StaysDisallowed <;> infer_instance

def RequestPc.ListComplete (state : ControlState) : RequestPc → Prop
  | .list bufferSize => requiredBuffSize state.lifecycle.adapter ≤ bufferSize
  | .enumerate bufferSize currentEntry => WalksAllocated state bufferSize currentEntry
  | _ => True

instance (state : ControlState) (pc : RequestPc) : Decidable (pc.ListComplete state) := by
  cases pc <;> unfold RequestPc.ListComplete <;> infer_instance

/-- No monitor overtakes the create call of its device. -/
def DevicesOrderly (state : ControlState) : ControlAction → Prop
  | .lifecycle action => MonitorAfterCreator state.lifecycle action
  | _ => True

instance (state : ControlState) (action : ControlAction) :
    Decidable (DevicesOrderly state action) := by
  cases action <;> unfold DevicesOrderly <;> infer_instance

/-- The barrier waits for pending mappings, no monitor overtakes a create call,
the second list call has room for the devices there are by then, and its walk
only reads allocated devices. -/
structure RemovalOrderly (state : ControlState) (action : ControlAction) : Prop where
  settled : MappingsSettled state action
  complete : (requestedStep state action).ListComplete state
  orderly : DevicesOrderly state action

instance (state : ControlState) (action : ControlAction) :
    Decidable (RemovalOrderly state action) :=
  decidable_of_iff (MappingsSettled state action ∧
      (requestedStep state action).ListComplete state ∧ DevicesOrderly state action)
    ⟨fun ⟨settled, complete, orderly⟩ => ⟨settled, complete, orderly⟩,
      fun ⟨settled, complete, orderly⟩ => ⟨settled, complete, orderly⟩⟩

/-! ## Behind the barrier -/

/-- The IOCTL has taken the creation lock. -/
def RequestPc.pastBarrier : RequestPc → Bool
  | .idle | .acquireCreation _ => false
  | _ => true

/-- What holds from the write of the option on, as long as it is not set again. -/
structure Disallowed (state : ControlState) (thread : Nat) : Prop where
  lock : LockInv state
  begun : state.requests thread ≠ .idle
  disallowed : state.lifecycle.adapter.newMappingsAllowed = false
  settled : (state.requests thread).pastBarrier = true →
    ∀ call, beforeInsertion (state.lifecycle.creators call) = false

section Steps

variable {state after : ControlState} {thread : Nat}

theorem Disallowed.keep (barred : Disallowed state thread) (lock : LockInv after)
    (disallowed : after.lifecycle.adapter.newMappingsAllowed = false)
    (requests : after.requests thread = state.requests thread)
    (inserts : ∀ call, beforeInsertion (after.lifecycle.creators call) = true →
      beforeInsertion (state.lifecycle.creators call) = true) : Disallowed after thread where
  lock := lock
  begun := requests ▸ barred.begun
  disallowed := disallowed
  settled past call := by
    rw [requests] at past
    cases inserting : beforeInsertion (after.lifecycle.creators call) with
    | false => rfl
    | true => exact (inserts call inserting).symm.trans (barred.settled past call)

theorem Disallowed.lifecycle (barred : Disallowed state thread) (action : LifecycleAction)
    (stepped : lifecycleStep state action = some after) : Disallowed after thread := by
  have lock := barred.lock.lifecycle action stepped
  obtain ⟨_, moved⟩ := Option.ite_none_right_eq_some.mp stepped
  obtain ⟨lifecycle, taken, rfl⟩ := Option.map_eq_some_iff.mp moved
  rcases lifecycleNext_kept action taken with
    ⟨call, fails, rfl, effect⟩ | ⟨call, props, rfl, begun⟩ | kept
  · refine barred.keep lock (effect.allowed.trans barred.disallowed) rfl fun other inserting => ?_
    by_cases own : other = call
    · subst own
      exact effect.inserts inserting
    · rw [← effect.others other own]
      exact inserting
  · obtain ⟨others, _, allowed, _, _, _, begins⟩ := createBegin_effect props begun
    refine barred.keep lock (allowed.trans barred.disallowed) rfl fun other inserting => ?_
    by_cases own : other = call
    · subst own
      rcases begins with ⟨_, allows⟩ | ended
      · rw [barred.disallowed] at allows
        cases allows
      · rw [createReturned_of_inserts _ inserting] at ended
        cases ended
    · rw [← others other own]
      exact inserting
  · refine barred.keep lock (kept.allowed.trans barred.disallowed) rfl fun other inserting => ?_
    exact (congrArg beforeInsertion (congrFun kept.creators other)).symm.trans inserting

theorem Disallowed.request (barred : Disallowed state thread) (actor : Nat)
    (choice : RequestChoice) (settled : MappingsSettled state (.request actor choice))
    (stepped : requestStep state actor choice = some after) : Disallowed after thread := by
  have effect := requestStep_effect actor choice stepped
  have lock := barred.lock.step (.request actor choice) stepped
  have allowed := effect.kept.allowed.trans barred.disallowed
  have same : ∀ call, beforeInsertion (after.lifecycle.creators call) =
      beforeInsertion (state.lifecycle.creators call) := fun call =>
    congrArg beforeInsertion (congrFun effect.kept.creators call)
  by_cases own : thread = actor
  · subst own
    refine ⟨lock, effect.begun, allowed, fun _ call => ?_⟩
    rw [same call]
    cases past : (state.requests thread).pastBarrier with
    | true => exact barred.settled past call
    | false =>
        have takes : (state.requests thread).takesBarrier = true := by
          cases pc : state.requests thread <;> rw [pc] at past <;>
            first | (cases past; done) | exact absurd pc barred.begun | rfl
        cases inserting : beforeInsertion (state.lifecycle.creators call) with
        | false => rfl
        | true =>
            exact inserting.symm.trans (settled takes _ (barred.lock.owner call inserting))
  · exact barred.keep lock allowed (effect.requests thread own) fun call inserting =>
      (same call).symm.trans inserting

theorem Disallowed.step (barred : Disallowed state thread) (action : ControlAction)
    (settled : MappingsSettled state action) (stays : StaysDisallowed action)
    (stepped : controlNext state action = some after) : Disallowed after thread := by
  have lock := barred.lock.step action stepped
  cases action with
  | lifecycle action => exact barred.lifecycle action stepped
  | request actor choice => exact barred.request actor choice settled stepped
  | lockCreate call props =>
      have same := lockCreate_same call props stepped
      exact barred.keep lock (same.lifecycle ▸ barred.disallowed) (by rw [same.requests])
        fun other => same.lifecycle ▸ id
  | unlockCreate call =>
      have same := unlockCreate_same call stepped
      exact barred.keep lock (same.lifecycle ▸ barred.disallowed) (by rw [same.requests])
        fun other => same.lifecycle ▸ id
  | writeOption value =>
      cases stepped
      exact barred.keep lock stays rfl fun _ => id
  | disallow actor purpose choice =>
      obtain ⟨⟨idle, _⟩, moved⟩ := Option.ite_none_right_eq_some.mp stepped
      have other : thread ≠ actor := fun own => barred.begun (own ▸ idle)
      cases choice with
      | proceed =>
          cases moved
          exact barred.keep lock rfl (Function.update_of_ne other _ _) fun _ => id
      | fails bytes =>
          cases moved
          exact barred.keep lock barred.disallowed (Function.update_of_ne other _ _) fun _ => id
      | unwritten names => cases moved

/-- Behind the barrier no step inserts a device. -/
theorem Disallowed.registersNone (barred : Disallowed state thread)
    (past : (state.requests thread).pastBarrier = true) (action : ControlAction)
    (stepped : controlNext state action = some after) :
    after.lifecycle.adapter.deviceList.Sublist state.lifecycle.adapter.deviceList := by
  cases action with
  | lifecycle action =>
      obtain ⟨_, moved⟩ := Option.ite_none_right_eq_some.mp stepped
      obtain ⟨lifecycle, taken, rfl⟩ := Option.map_eq_some_iff.mp moved
      rcases lifecycleNext_kept action taken with
        ⟨call, fails, rfl, effect⟩ | ⟨call, props, rfl, begun⟩ | kept
      · rcases effect.list with same | ⟨pc, _⟩
        · exact same ▸ List.Sublist.refl _
        · have idle := barred.settled past call
          rw [pc] at idle
          cases idle
      · obtain ⟨_, _, _, list, _⟩ := createBegin_effect props begun
        exact list ▸ List.Sublist.refl _
      · rw [show lifecycle.adapter.deviceList = _ from kept.list]
        exact listAfter_sublist _ _
  | request actor choice =>
      exact (requestStep_effect actor choice stepped).kept.list ▸ List.Sublist.refl _
  | lockCreate call props =>
      rw [(lockCreate_same call props stepped).lifecycle]
  | unlockCreate call =>
      rw [(unlockCreate_same call stepped).lifecycle]
  | writeOption value =>
      cases stepped
      exact List.Sublist.refl _
  | disallow actor purpose choice =>
      obtain ⟨_, moved⟩ := Option.ite_none_right_eq_some.mp stepped
      cases choice with
      | proceed | fails =>
          cases moved
          exact List.Sublist.refl _
      | unwritten names => cases moved

end Steps

/-! ## The removal loop -/

def registeredNames (adapter : AdapterState) (devices : List DeviceId) : List InstanceName :=
  devices.filterMap (nameOf adapter)

/-- How far `WnbdRemoveAllDisks` is: its walk covers the registered devices, and
the names it has still to remove cover theirs. -/
def RemovalProgress (state : ControlState) (thread : Nat) : Prop :=
  let adapter := state.lifecycle.adapter
  match state.requests thread with
  | .enumerate _ currentEntry =>
      LinkedList.Covers state.flink currentEntry adapter.deviceList
  | .removeNext names => (registeredNames adapter adapter.deviceList).Subperm names
  | .signalRemoval names | .releaseDevice names =>
      ∃ device, state.lifecycle.users thread = .holding device ∧
        (registeredNames adapter (adapter.deviceList.erase device)).Subperm names
  | .waitMonitor names =>
      ∃ device, state.lifecycle.users thread = .waitingThread device ∧
        (registeredNames adapter (adapter.deviceList.erase device)).Subperm names
  | .disksRemoved => adapter.deviceList = []
  | _ => True

structure RemovalInv (state : ControlState) (thread : Nat) : Prop where
  barred : Disallowed state thread
  lifecycle : LifecycleInv state.lifecycle
  progress : RemovalProgress state thread

theorem registeredNames_sublist {before now : AdapterState} {devices kept : List DeviceId}
    (names : ∀ device name, nameOf now device = some name → nameOf before device = some name)
    (sublist : kept.Sublist devices) :
    (registeredNames now kept).Sublist (registeredNames before devices) := by
  induction sublist with
  | slnil => exact List.Sublist.refl _
  | @cons kept devices device sublist hypothesis =>
      refine hypothesis.trans ?_
      exact (List.sublist_cons_self device devices).filterMap (nameOf before)
  | @cons_cons kept devices device sublist hypothesis =>
      unfold registeredNames at hypothesis ⊢
      rw [List.filterMap_cons, List.filterMap_cons]
      cases now : nameOf now device with
      | some name =>
          rw [names device name now]
          exact hypothesis.cons_cons name
      | none =>
          cases nameOf before device with
          | none => exact hypothesis
          | some name => exact hypothesis.cons name

theorem registeredNames_erase (adapter : AdapterState) (devices : List DeviceId)
    (device : DeviceId) (name : InstanceName) (member : device ∈ devices)
    (named : nameOf adapter device = some name) :
    (registeredNames adapter devices).Perm
      (name :: registeredNames adapter (devices.erase device)) := by
  have split := (List.perm_cons_erase member).filterMap (nameOf adapter)
  rw [List.filterMap_cons, named] at split
  exact split

theorem setOption_inv {state : LifecycleState} (inv : LifecycleInv state) (value : Bool) :
    LifecycleInv (state.setAdapter { state.adapter with newMappingsAllowed := value }) :=
  ⟨inv.device, inv.nodup, inv.index, inv.event⟩

theorem RemovalProgress.shrinks {state after : ControlState} {thread : Nat}
    (progress : RemovalProgress state thread)
    (requests : after.requests thread = state.requests thread)
    (users : after.lifecycle.users thread = state.lifecycle.users thread)
    (sublist : after.lifecycle.adapter.deviceList.Sublist state.lifecycle.adapter.deviceList)
    (names : ∀ device name, nameOf after.lifecycle.adapter device = some name →
      nameOf state.lifecycle.adapter device = some name)
    (covers : ∀ currentEntry,
      LinkedList.Covers state.flink currentEntry state.lifecycle.adapter.deviceList →
        LinkedList.Covers after.flink currentEntry after.lifecycle.adapter.deviceList) :
    RemovalProgress after thread := by
  unfold RemovalProgress at progress ⊢
  dsimp only at progress ⊢
  rw [requests, users]
  cases pc : state.requests thread <;> simp only [pc] at progress ⊢
  case enumerate => exact covers _ progress
  case removeNext => exact (registeredNames_sublist names sublist).subperm.trans progress
  case signalRemoval | releaseDevice | waitMonitor =>
    obtain ⟨device, holds, rest⟩ := progress
    exact ⟨device, holds,
      (registeredNames_sublist names (sublist.erase device)).subperm.trans rest⟩
  case disksRemoved =>
    rw [progress] at sublist
    exact List.sublist_nil.mp sublist

section Removal

variable {state after : ControlState} {thread : Nat}

/-- A device leaves the list while the walk may be under way. -/
theorem covers_lifecycle (inv : LifecycleInv state.lifecycle) (action : LifecycleAction)
    (orderly : MonitorAfterCreator state.lifecycle action) (lifecycle : LifecycleState)
    (list : lifecycle.adapter.deviceList = listAfter state.lifecycle action)
    (currentEntry : Option DeviceId)
    (covers : LinkedList.Covers state.flink currentEntry state.lifecycle.adapter.deviceList) :
    LinkedList.Covers
      ({ state with lifecycle, keptLinks := linksAfter state action } : ControlState).flink
      currentEntry lifecycle.adapter.deviceList := by
  unfold ControlState.flink at covers ⊢
  dsimp only
  rw [list]
  unfold listAfter linksAfter
  cases action with
  | monitor device =>
      dsimp only
      by_cases unlinks : state.lifecycle.monitors device = .unlink
      · rw [if_pos unlinks, if_pos unlinks]
        have listed : device ∈ state.lifecycle.adapter.deviceList :=
          (inv.device device).listed_iff.mpr ⟨orderly.1 unlinks, by rw [unlinks]; rfl⟩
        exact covers.erase inv.nodup device listed inv.nodup
      · rw [if_neg unlinks, if_neg unlinks]
        exact covers
  | create call props => exact covers
  | creator call fails => exact covers
  | lookup user key => exact covers
  | user user op => exact covers
  | cleanup chosen => exact covers

theorem RemovalInv.lifecycleStep (inv : RemovalInv state thread) (action : LifecycleAction)
    (orderly : MonitorAfterCreator state.lifecycle action)
    (stepped : lifecycleStep state action = some after) : RemovalInv after thread := by
  have barred := inv.barred.lifecycle action stepped
  obtain ⟨permitted, moved⟩ := Option.ite_none_right_eq_some.mp stepped
  obtain ⟨lifecycle, taken, rfl⟩ := Option.map_eq_some_iff.mp moved
  have kept := lifecycleNext_inv state.lifecycle lifecycle action inv.lifecycle orderly taken
  refine ⟨barred, kept, ?_⟩
  cases past : (state.requests thread).pastBarrier with
  | false =>
      -- Ahead of the barrier there is nothing to show.
      unfold RemovalProgress
      dsimp only
      cases pc : state.requests thread <;> rw [pc] at past <;> trivial
  | true =>
      have settled := inv.barred.settled past
      have unmoved : lifecycle.users thread = state.lifecycle.users thread ∧
          lifecycle.adapter.deviceList = listAfter state.lifecycle action ∧
          ∀ device name, nameOf lifecycle.adapter device = some name →
            nameOf state.lifecycle.adapter device = some name := by
        rcases lifecycleNext_kept action taken with
          ⟨call, fails, rfl, effect⟩ | ⟨call, props, rfl, begun⟩ | kept
        · refine ⟨congrFun effect.users thread, ?_, fun device name named => ?_⟩
          · rcases effect.list with same | ⟨pc, _⟩
            · exact same
            · have idle := settled call
              rw [pc] at idle
              cases idle
          · rcases effect.names device name named with old | ⟨_, props, pc⟩
            · exact old
            · have idle := settled call
              rw [pc] at idle
              cases idle
        · obtain ⟨_, users, _, list, devices, _⟩ := createBegin_effect props begun
          refine ⟨congrFun users thread, list, fun device name named => ?_⟩
          rw [nameOf, devices] at named
          exact named
        · refine ⟨kept.users thread fun actor => ?_, kept.list, kept.names⟩
          cases action <;> simp only [actorOf, Option.some.injEq, reduceCtorEq] at actor <;>
            exact inv.barred.begun (actor ▸ of_decide_eq_true permitted)
      obtain ⟨users, list, names⟩ := unmoved
      refine inv.progress.shrinks rfl users ?_ names
        (covers_lifecycle inv.lifecycle action orderly lifecycle list)
      exact inv.barred.registersNone past (.lifecycle action) stepped

/-- The device a removal holds leaves the list before its monitor thread ends. -/
theorem erase_finished (inv : LifecycleInv state.lifecycle) (device : DeviceId)
    (finished : state.lifecycle.monitors device = .finished) :
    state.lifecycle.adapter.deviceList.erase device = state.lifecycle.adapter.deviceList := by
  refine List.erase_of_not_mem fun member => ?_
  have unlinked := ((inv.device device).listed_iff.mp member).2
  rw [finished] at unlinked
  cases unlinked

theorem listed_none (inv : LifecycleInv state.lifecycle)
    (none : registeredNames state.lifecycle.adapter state.lifecycle.adapter.deviceList = []) :
    state.lifecycle.adapter.deviceList = [] := by
  refine List.eq_nil_iff_forall_not_mem.mpr fun device member => ?_
  have unnamed := List.filterMap_eq_nil_iff.mp none device member
  obtain ⟨value, found⟩ := Option.isSome_iff_exists.mp ((inv.device device).listed_allocated member)
  rw [nameOf, found] at unnamed
  cases unnamed

theorem RemovalProgress.unstarted {pc : RequestPc} (here : state.requests thread = pc)
    (unstarted : match pc with
      | .idle | .acquireCreation _ | .releaseCreation _ | .optionSet | .listSize | .allocate _
      | .list _ | .failed => True
      | _ => False) : RemovalProgress state thread := by
  unfold RemovalProgress
  dsimp only
  rw [here]
  cases pc <;> trivial

theorem listStep_progress (inv : LifecycleInv state.lifecycle)
    (progress : RemovalProgress state thread) (choice : RequestChoice)
    (complete : (state.requests thread).ListComplete state)
    (stepped : listStep state thread choice = some after) : RemovalProgress after thread := by
  unfold RemovalProgress at progress
  dsimp only at progress
  generalize here : state.requests thread = pc at complete progress
  cases listStep_cases here stepped with
  | size | allocate | allocateFails | listFails =>
      exact .unstarted (Function.update_self ..) trivial
  | sizeFails => split_ifs <;> exact .unstarted (Function.update_self ..) trivial
  | begins bufferSize =>
      unfold RemovalProgress
      simp only [setRequest, Function.update_self]
      exact LinkedList.covers_head inv.nodup
  | tooShort bufferSize names short => exact absurd complete (Nat.not_le_of_lt short)
  | enumerate bufferSize currentEntry =>
      by_cases ended : (enumerateActiveConnections state bufferSize currentEntry).2 = none
      · rw [if_pos ended]
        unfold RemovalProgress
        simp only [setRequest, Function.update_self]
        exact ((progress.met _ ended).filterMap _).subperm
      · rw [if_neg ended]
        exact .unstarted (Function.update_self ..) trivial
  | enumerateFreed bufferSize currentEntry names freed => exact absurd complete freed

/-- The device found has the name, so the other devices have the names left. -/
theorem lookup_progress {name : InstanceName} {names : List InstanceName} {lifecycle : LifecycleState}
    (listed : (registeredNames state.lifecycle.adapter state.lifecycle.adapter.deviceList).Subperm
      (name :: names))
    (looked : lookupStep state.lifecycle thread (.instanceName name) = some lifecycle) :
    RemovalProgress ((state.setLifecycle lifecycle).setRequest thread
      (if lifecycle.users thread = .idle then .failed else .signalRemoval names)) thread := by
  obtain ⟨kept, idle | ⟨device, holding, member, matched⟩⟩ := lookupStep_kept thread _ looked
  · rw [if_pos idle]
    exact .unstarted (Function.update_self ..) trivial
  have started : lifecycle.users thread ≠ .idle := fun idle => by
    rw [holding] at idle
    cases idle
  rw [if_neg started]
  unfold RemovalProgress
  simp only [setRequest, setLifecycle, Function.update_self]
  refine ⟨device, holding, ?_⟩
  obtain ⟨value, found, same⟩ := (Option.any_eq_true _ _).mp matched
  have named : nameOf state.lifecycle.adapter device = some name := by
    rw [nameOf, found, Option.map_some, of_decide_eq_true same]
  have split := registeredNames_erase state.lifecycle.adapter
    state.lifecycle.adapter.deviceList device name member named
  rw [kept.list]
  refine (registeredNames_sublist kept.names (List.Sublist.refl _)).subperm.trans ?_
  exact (List.subperm_cons name).mp (split.symm.subperm.trans listed)

theorem removeStep_progress (inv : LifecycleInv state.lifecycle)
    (progress : RemovalProgress state thread) (choice : RequestChoice)
    (stepped : removeStep state thread choice = some after) : RemovalProgress after thread := by
  unfold RemovalProgress at progress
  dsimp only at progress
  generalize here : state.requests thread = pc at progress
  cases removeStep_cases here stepped with
  | done =>
      unfold RemovalProgress
      simp only [setRequest, Function.update_self]
      exact listed_none inv (List.subperm_nil.mp progress)
  | fails => exact .unstarted (Function.update_self ..) trivial
  | lookup name names lifecycle looked => exact lookup_progress progress looked
  | signal names lifecycle used =>
      obtain ⟨device, holding, rest⟩ := progress
      have kept := userStep_kept thread _ used
      rw [userStep_signalRemoval thread device holding] at used
      cases used
      unfold RemovalProgress
      simp only [setRequest, setLifecycle, Function.update_self]
      refine ⟨device, ?_, ?_⟩
      · exact ((signalDevice_kept device none).users thread fun same => by cases same).trans holding
      · rw [kept.list]
        exact (registeredNames_sublist kept.names (List.Sublist.refl _)).subperm.trans rest
  | release names lifecycle used =>
      obtain ⟨device, holding, rest⟩ := progress
      have kept := userStep_kept thread _ used
      have waiting := userStep_releaseAndWait thread device holding used
      unfold RemovalProgress
      simp only [setRequest, setLifecycle, Function.update_self]
      refine ⟨device, waiting, ?_⟩
      rw [kept.list]
      exact (registeredNames_sublist kept.names (List.Sublist.refl _)).subperm.trans rest
  | waited names lifecycle used =>
      obtain ⟨device, waiting, rest⟩ := progress
      have kept := userStep_kept thread _ used
      have finished := userStep_waitingThread thread _ device waiting used
      unfold RemovalProgress
      simp only [setRequest, setLifecycle, Function.update_self]
      rw [erase_finished inv device finished] at rest
      rw [kept.list]
      exact (registeredNames_sublist kept.names (List.Sublist.refl _)).subperm.trans rest

theorem requestStep_lifecycle (inv : LifecycleInv state.lifecycle) (actor : Nat)
    (choice : RequestChoice) (stepped : requestStep state actor choice = some after) :
    LifecycleInv after.lifecycle := by
  cases requestStep_cases stepped with
  | acquire purpose lock here acquired left =>
      rw [left]
      exact inv
  | release purpose left =>
      rw [left]
      exact inv
  | lists stepped =>
      generalize here : state.requests actor = pc
      cases listStep_cases here stepped <;> exact inv
  | removes stepped =>
      generalize here : state.requests actor = pc
      cases removeStep_cases here stepped with
      | done | fails => exact inv
      | lookup name names lifecycle looked => exact lookupStep_inv _ _ _ _ inv looked
      | signal _ lifecycle used | release _ lifecycle used | waited _ lifecycle used =>
          exact userStep_inv _ _ _ _ inv used

theorem requestStep_progress (inv : LifecycleInv state.lifecycle)
    (progress : RemovalProgress state thread) (choice : RequestChoice)
    (complete : (state.requests thread).ListComplete state)
    (stepped : requestStep state thread choice = some after) : RemovalProgress after thread := by
  cases requestStep_cases stepped with
  | acquire purpose lock here acquired left =>
      rw [left]
      exact .unstarted (Function.update_self ..) trivial
  | release purpose left =>
      rw [left]
      cases purpose <;> exact .unstarted (Function.update_self ..) trivial
  | lists stepped => exact listStep_progress inv progress _ complete stepped
  | removes stepped => exact removeStep_progress inv progress _ stepped

theorem RemovalInv.step (inv : RemovalInv state thread) (action : ControlAction)
    (permitted : RemovalOrderly state action) (stays : StaysDisallowed action)
    (stepped : controlNext state action = some after) : RemovalInv after thread := by
  have barred := inv.barred.step action permitted.settled stays stepped
  cases action with
  | lifecycle action => exact inv.lifecycleStep action permitted.orderly stepped
  | request actor choice =>
      refine ⟨barred, requestStep_lifecycle inv.lifecycle actor choice stepped, ?_⟩
      by_cases own : thread = actor
      · subst own
        exact requestStep_progress inv.lifecycle inv.progress choice permitted.complete stepped
      · have effect := requestStep_effect actor choice stepped
        refine inv.progress.shrinks (effect.requests thread own)
          (effect.kept.users thread fun same => own (Option.some.inj same).symm)
          (effect.kept.list ▸ List.Sublist.refl _) effect.kept.names fun currentEntry covers => ?_
        unfold ControlState.flink at covers ⊢
        rw [effect.links, effect.kept.list]
        exact covers
  | lockCreate call props =>
      have same := lockCreate_same call props stepped
      refine ⟨barred, same.lifecycle ▸ inv.lifecycle, ?_⟩
      unfold RemovalProgress ControlState.flink
      rw [same.requests, same.lifecycle, same.links]
      exact inv.progress
  | unlockCreate call =>
      have same := unlockCreate_same call stepped
      refine ⟨barred, same.lifecycle ▸ inv.lifecycle, ?_⟩
      unfold RemovalProgress ControlState.flink
      rw [same.requests, same.lifecycle, same.links]
      exact inv.progress
  | writeOption value =>
      cases stepped
      exact ⟨barred, setOption_inv inv.lifecycle value, inv.progress⟩
  | disallow actor purpose choice =>
      obtain ⟨⟨idle, _⟩, moved⟩ := Option.ite_none_right_eq_some.mp stepped
      have other : thread ≠ actor := fun own => inv.barred.begun (own ▸ idle)
      cases choice with
      | proceed =>
          cases moved
          exact ⟨barred, setOption_inv inv.lifecycle false,
            inv.progress.shrinks (Function.update_of_ne other _ _) rfl (List.Sublist.refl _)
              (fun _ _ => id) fun _ => id⟩
      | fails bytes =>
          cases moved
          exact ⟨barred, inv.lifecycle,
            inv.progress.shrinks (Function.update_of_ne other _ _) rfl (List.Sublist.refl _)
              (fun _ _ => id) fun _ => id⟩
      | unwritten names => cases moved

end Removal

/-! ## What the barrier gives -/

/-- The life cycle invariant along any orderly run of control requests. -/
theorem controlNext_lifecycle {state after : ControlState} (inv : LifecycleInv state.lifecycle)
    (action : ControlAction) (orderly : DevicesOrderly state action)
    (stepped : controlNext state action = some after) : LifecycleInv after.lifecycle := by
  cases action with
  | lifecycle action =>
      obtain ⟨_, moved⟩ := Option.ite_none_right_eq_some.mp stepped
      obtain ⟨lifecycle, taken, rfl⟩ := Option.map_eq_some_iff.mp moved
      exact lifecycleNext_inv state.lifecycle lifecycle action inv orderly taken
  | request actor choice => exact requestStep_lifecycle inv actor choice stepped
  | lockCreate call props =>
      rw [(lockCreate_same call props stepped).lifecycle]
      exact inv
  | unlockCreate call =>
      rw [(unlockCreate_same call stepped).lifecycle]
      exact inv
  | writeOption value =>
      cases stepped
      exact setOption_inv inv value
  | disallow actor purpose choice =>
      obtain ⟨_, moved⟩ := Option.ite_none_right_eq_some.mp stepped
      cases choice with
      | proceed =>
          cases moved
          exact setOption_inv inv false
      | fails bytes =>
          cases moved
          exact inv
      | unwritten names => cases moved

theorem disallowed_written {start written : ControlState} (thread : Nat) (purpose : Purpose)
    (lock : LockInv start)
    (disallows : controlNext start (.disallow thread purpose .proceed) = some written) :
    Disallowed written thread ∧ written.requests thread = .acquireCreation purpose ∧
      (LifecycleInv start.lifecycle → LifecycleInv written.lifecycle) := by
  have kept := lock.step _ disallows
  obtain ⟨_, ⟨⟩⟩ := Option.ite_none_right_eq_some.mp disallows
  have here : ((start.writeOption false).setRequest thread (.acquireCreation purpose)).requests
      thread = .acquireCreation purpose := Function.update_self ..
  refine ⟨⟨kept, by rw [here]; nofun, rfl, fun past => ?_⟩, here, fun inv => setOption_inv inv false⟩
  rw [here] at past
  cases past

/-- The barrier holds in the runs in which no create call is between its read of
the option and its insertion when the IOCTL takes the creation lock: from then
on, until the option is set again, no step registers a device.  If moreover no
monitor overtakes a create call and both list calls fit together, no device is
registered when `WnbdRemoveAllDisks` returns success. -/
theorem new_mappings_barrier (thread : Nat) (purpose : Purpose) :
    (∀ start written state,
        Path controlNext (fun _ _ => True) .initial start →
        controlNext start (.disallow thread purpose .proceed) = some written →
        Path controlNext (fun now action => MappingsSettled now action ∧ StaysDisallowed action)
          written state →
        (state.requests thread).pastBarrier = true →
        ∀ action after, controlNext state action = some after →
          after.lifecycle.adapter.deviceList.Sublist state.lifecycle.adapter.deviceList) ∧
      ∀ start written state,
        Path controlNext DevicesOrderly .initial start →
        controlNext start (.disallow thread purpose .proceed) = some written →
        Path controlNext (fun now action => RemovalOrderly now action ∧ StaysDisallowed action)
          written state →
        state.requests thread = .disksRemoved →
        state.lifecycle.adapter.deviceList = [] := by
  refine ⟨fun start written state ran disallows since past action after stepped => ?_,
    fun start written state ran disallows since removed => ?_⟩
  · have lock : LockInv start := ran.invariant LockInv lockInv_initial
      fun before action after _ held stepped => held.step action stepped
    have barred : Disallowed state thread := since.invariant (Disallowed · thread)
      (disallowed_written thread purpose lock disallows).1
      fun before action after permitted held stepped =>
        held.step action permitted.1 permitted.2 stepped
    exact barred.registersNone past action stepped
  · have lock : LockInv start := ran.invariant LockInv lockInv_initial
      fun before action after _ held stepped => held.step action stepped
    have lifecycle : LifecycleInv start.lifecycle :=
      ran.invariant (fun now => LifecycleInv now.lifecycle) lifecycleInv_initial
        fun before action after permitted held stepped =>
          controlNext_lifecycle held action permitted stepped
    obtain ⟨barred, here, inv⟩ := disallowed_written thread purpose lock disallows
    have removal : RemovalInv state thread := since.invariant (RemovalInv · thread)
      ⟨barred, inv lifecycle, .unstarted here trivial⟩
      fun before action after permitted held stepped =>
        held.step action permitted.1 permitted.2 stepped
    have progress := removal.progress
    unfold RemovalProgress at progress
    dsimp only at progress
    rw [removed] at progress
    exact progress

/-! ## All disks removed, and a create call that slips through -/

def oneDisk : List ControlAction :=
  createUntilLink 0 [118] ++ finishCreate 0 ++ [.lifecycle (.monitor 0)]

/-- What follows the write of the option in `WnbdRemoveAllDisks`: the lock, both
list calls, the lookup, the signal, the release, the monitor thread, the end of
the wait and of the loop. -/
def removeOneDisk : List ControlAction :=
  List.replicate 9 (.request 0 .proceed) ++ List.replicate 13 (.lifecycle (.monitor 0)) ++
    List.replicate 2 (.request 0 .proceed)

def reach (actions : List ControlAction) : ControlState :=
  (run controlNext .initial actions).getD .initial

theorem reach_eq (actions : List ControlAction)
    (enabled : (run controlNext .initial actions).isSome = true) :
    run controlNext .initial actions = some (reach actions) :=
  (Option.getD_of_ne_none (Option.isSome_iff_ne_none.mp enabled) _).symm

theorem new_mappings_barrier_one_disk :
    let written := reach (oneDisk ++ [.disallow 0 .removeAllDisks .proceed])
    ∃ state, run controlNext written removeOneDisk = some state ∧
      (∀ action after, controlNext state action = some after →
        after.lifecycle.adapter.deviceList.Sublist state.lifecycle.adapter.deviceList) ∧
      state.lifecycle.adapter.deviceList = [] := by
  intro written
  have began := reach_eq oneDisk (by decide +kernel)
  have wrote : controlNext (reach oneDisk) (.disallow 0 .removeAllDisks .proceed) =
      some written := rfl
  have orderly : Path controlNext DevicesOrderly .initial (reach oneDisk) :=
    path_of_run _ _ oneDisk (by decide +kernel) began
  have reached := orderly.invariant (fun now => Path controlNext (fun _ _ => True) .initial now)
    .refl fun _ action _ _ path taken => path.step action trivial taken
  have enabled : (run controlNext written removeOneDisk).isSome = true := by decide +kernel
  obtain ⟨state, ran⟩ := Option.isSome_iff_exists.mp enabled
  have removes : AllAllowed controlNext (fun now action =>
      RemovalOrderly now action ∧ StaysDisallowed action) written removeOneDisk := by
    decide +kernel
  have settles : AllAllowed controlNext (fun now action =>
      MappingsSettled now action ∧ StaysDisallowed action) written removeOneDisk := by
    decide +kernel
  have removed : state.requests 0 = .disksRemoved :=
    field_of_run (fun now : ControlState => now.requests 0) written state removeOneDisk
      .disksRemoved ran (by decide +kernel)
  refine ⟨state, ran, ?_, ?_⟩
  · exact (new_mappings_barrier 0 .removeAllDisks).1 _ _ state reached wrote
      (path_of_run _ _ removeOneDisk settles ran) (by rw [removed]; rfl)
  · exact (new_mappings_barrier 0 .removeAllDisks).2 _ _ state orderly wrote
      (path_of_run _ _ removeOneDisk removes ran) removed

/-- Neither half of the barrier holds in every run. -/
theorem mapping_slips_through :
    (¬ ∀ before during state, run controlNext .initial
          (before ++ .disallow 0 .removeAllDisks .proceed :: during) = some state →
        (∀ action ∈ during, StaysDisallowed action) →
        state.requests 0 = .removeNext [] →
        ∀ action after, StaysDisallowed action → controlNext state action = some after →
          ∀ device ∈ after.lifecycle.adapter.deviceList,
            device ∈ state.lifecycle.adapter.deviceList) ∧
      ¬ ∀ before during state, run controlNext .initial
          (before ++ .disallow 0 .removeAllDisks .proceed :: during) = some state →
        (∀ action ∈ during, StaysDisallowed action) →
        state.requests 0 = .disksRemoved → state.lifecycle.adapter.deviceList = [] := by
  refine ⟨fun barrier => ?_, fun removed => ?_⟩
  · have listed : (run controlNext .initial (createUntilLink 0 [118] ++
        .disallow 0 .removeAllDisks .proceed :: List.replicate 6 (.request 0 .proceed))).map
        (fun state => (state.requests 0, state.lifecycle.adapter.deviceList,
          (controlNext state (.lifecycle (.creator 0 false))).map
            fun after => after.lifecycle.adapter.deviceList)) =
        some (.removeNext [], [], some [0]) := by
      decide +kernel
    obtain ⟨state, ran, fields⟩ := Option.map_eq_some_iff.mp listed
    rw [Prod.mk.injEq, Prod.mk.injEq] at fields
    obtain ⟨here, empty, inserts⟩ := fields
    obtain ⟨after, stepped, inserted⟩ := Option.map_eq_some_iff.mp inserts
    have member := barrier _ _ state ran (by decide) here (.lifecycle (.creator 0 false)) after
      trivial stepped 0 (by rw [inserted]; decide)
    rw [empty] at member
    cases member
  · have left : (run controlNext .initial (createUntilLink 0 [118] ++
        .disallow 0 .removeAllDisks .proceed :: (List.replicate 6 (.request 0 .proceed) ++
          [.lifecycle (.creator 0 false), .request 0 .proceed]))).map
        (fun state => (state.requests 0, state.lifecycle.adapter.deviceList)) =
        some (.disksRemoved, [0]) := by
      decide +kernel
    obtain ⟨state, ran, fields⟩ := Option.map_eq_some_iff.mp left
    rw [Prod.mk.injEq] at fields
    have empty := removed _ _ state ran (by decide) fields.1
    rw [fields.2] at empty
    cases empty

end Wnbd.Control
