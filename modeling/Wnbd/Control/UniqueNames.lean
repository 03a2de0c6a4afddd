import Wnbd.Adapter.Lifetime
import Wnbd.Control.Steps

/-!
# Instance names

A create call looks its name up in one section under the list lock and inserts
its device in another, and the creation lock it holds in between is a shared
one.  `instance_names_unique` shows that names stay unique along the runs in
which no two create calls for one name meet between these sections;
`two_disks_of_one_name` is a run in which they do.
-/

set_option autoImplicit false

namespace Wnbd.Control

open Wnbd.Scsi Wnbd.Adapter Wnbd.Adapter.AdapterState Wnbd.Adapter.LifecycleState ControlState
open StepSystem

def UniqueNames (adapter : AdapterState) : Prop :=
  ∀ first ∈ adapter.deviceList, ∀ second ∈ adapter.deviceList, ∀ name,
    nameOf adapter first = some name → nameOf adapter second = some name → first = second

/-! ## Insertions without a rival -/

def insertedDevice (state : ControlState) : ControlAction → Option DeviceId
  | .lifecycle (.creator call _) =>
      if state.lifecycle.creators call = .link then some call else none
  | _ => none

/-- Another create call past its name check for the name of `call`. -/
def rivals (state : ControlState) (call : DeviceId) : LockOwner → Bool
  | .create other => other ≠ call && (checkedName state.lifecycle other).isSome &&
      checkedName state.lifecycle other = checkedName state.lifecycle call
  | .request _ => false

/-- A device is inserted while no other create call for the same name is between
its name check and its own insertion. -/
def InsertsAlone (state : ControlState) (action : ControlAction) : Prop :=
  ∀ call, insertedDevice state action = some call →
    ∀ owner ∈ state.deviceCreationLock.shared, rivals state call owner = false

instance (state : ControlState) (action : ControlAction) :
    Decidable (InsertsAlone state action) :=
  match found : insertedDevice state action with
  | none => isTrue fun call inserts => by rw [found] at inserts; cases inserts
  | some call => decidable_of_iff
      (∀ owner ∈ state.deviceCreationLock.shared, rivals state call owner = false)
      ⟨fun alone other inserts => Option.some.inj (found.symm.trans inserts) ▸ alone,
        fun alone => alone call found⟩

theorem rivals_of_same (state : ControlState) (call other : DeviceId) (name : InstanceName)
    (different : other ≠ call) (named : checkedName state.lifecycle call = some name)
    (same : checkedName state.lifecycle other = some name) :
    rivals state call (.create other) = true := by
  rw [rivals, named, same]
  simp [different]

/-! ## Invariant -/

structure NamesInv (state : ControlState) : Prop where
  lock : LockInv state
  listed : ∀ device ∈ state.lifecycle.adapter.deviceList,
    (state.lifecycle.creators device).linked = true
  fresh : ∀ call name, checkedName state.lifecycle call = some name →
    ∀ device ∈ state.lifecycle.adapter.deviceList,
      nameOf state.lifecycle.adapter device ≠ some name
  unique : UniqueNames state.lifecycle.adapter

theorem namesInv_initial : NamesInv .initial where
  lock := lockInv_initial
  listed _ member := by cases member
  fresh _ _ _ _ member := by cases member
  unique _ member := by cases member

theorem beforeInsertion_of_checked (state : LifecycleState) (call : DeviceId)
    (name : InstanceName) (checked : checkedName state call = some name) :
    beforeInsertion (state.creators call) = true := by
  unfold checkedName at checked
  cases pc : state.creators call <;> simp only [pc] at checked <;>
    first | rfl | cases checked

theorem findDeviceByInstanceName_none (adapter : AdapterState) (name : InstanceName)
    (none : adapter.findDeviceByInstanceName name = none) :
    ∀ device ∈ adapter.deviceList, nameOf adapter device ≠ some name := by
  intro device member named
  obtain ⟨value, found, same⟩ := Option.map_eq_some_iff.mp named
  have unmatched := List.find?_eq_none.mp none device member
  rw [found, Option.any_some, same] at unmatched
  exact unmatched (decide_eq_true rfl)

section Steps

variable {state after : ControlState}

theorem NamesInv.drops (inv : NamesInv state) (lock : LockInv after)
    (list : ∀ device ∈ after.lifecycle.adapter.deviceList,
      device ∈ state.lifecycle.adapter.deviceList)
    (linked : ∀ device, (state.lifecycle.creators device).linked = true →
      (after.lifecycle.creators device).linked = true)
    (names : ∀ device ∈ state.lifecycle.adapter.deviceList, ∀ name,
      nameOf after.lifecycle.adapter device = some name →
        nameOf state.lifecycle.adapter device = some name)
    (checked : ∀ call name, checkedName after.lifecycle call = some name →
      checkedName state.lifecycle call = some name ∨
        ∀ device ∈ state.lifecycle.adapter.deviceList,
          nameOf state.lifecycle.adapter device ≠ some name) : NamesInv after where
  lock := lock
  listed device member := linked device (inv.listed device (list device member))
  fresh call name after device member named := by
    have old := names device (list device member) name named
    rcases checked call name after with before | apart
    · exact inv.fresh call name before device (list device member) old
    · exact apart device (list device member) old
  unique first memberFirst second memberSecond name namedFirst namedSecond :=
    inv.unique first (list first memberFirst) second (list second memberSecond) name
      (names first (list first memberFirst) name namedFirst)
      (names second (list second memberSecond) name namedSecond)

theorem checkedName_others (before now : LifecycleState) (other : DeviceId)
    (creators : now.creators other = before.creators other)
    (names : ∀ name, nameOf now.adapter other = some name → nameOf before.adapter other = some name)
    (name : InstanceName) (checked : checkedName now other = some name) :
    checkedName before other = some name := by
  unfold checkedName at checked ⊢
  rw [creators] at checked
  cases pc : before.creators other <;> simp only [pc] at checked ⊢ <;>
    first | exact checked | exact names name checked

theorem CreatorEffect.checkedNames {before after : LifecycleState} {call : DeviceId}
    (effect : CreatorEffect before after call) (other : DeviceId) (name : InstanceName)
    (now : checkedName after other = some name) :
    checkedName before other = some name ∨
      ∀ device ∈ before.adapter.deviceList, nameOf before.adapter device ≠ some name := by
  by_cases own : other = call
  · subst own
    exact (effect.checked name now).imp_right (findDeviceByInstanceName_none before.adapter name)
  · refine Or.inl (checkedName_others _ _ other (effect.others other own) ?_ name now)
    intro found named
    exact (effect.names other found named).resolve_right fun both => own both.1

/-- The insertion itself stores no name. -/
theorem CreatorEffect.namesAtLink {before after : LifecycleState} {call : DeviceId}
    (effect : CreatorEffect before after call) (pc : before.creators call = .link)
    (device : DeviceId) (name : InstanceName) (named : nameOf after.adapter device = some name) :
    nameOf before.adapter device = some name := by
  rcases effect.names device name named with old | ⟨_, props, allocating⟩
  · exact old
  · rw [pc] at allocating
    cases allocating

theorem NamesInv.namesOfListed (inv : NamesInv state) {call : DeviceId}
    (effect : CreatorEffect state.lifecycle after.lifecycle call) (device : DeviceId)
    (member : device ∈ state.lifecycle.adapter.deviceList) (name : InstanceName)
    (named : nameOf after.lifecycle.adapter device = some name) :
    nameOf state.lifecycle.adapter device = some name := by
  rcases effect.names device name named with old | ⟨rfl, props, allocating⟩
  · exact old
  · have linked := inv.listed device member
    rw [allocating] at linked
    cases linked

/-- A create call inserts its device: no registered device has its name, and no
other call is about to insert one that has. -/
theorem NamesInv.inserts (inv : NamesInv state) (lock : LockInv after) {call : DeviceId}
    {fails : Bool} (permitted : InsertsAlone state (.lifecycle (.creator call fails)))
    (effect : CreatorEffect state.lifecycle after.lifecycle call)
    (pc : state.lifecycle.creators call = .link) (counted : after.lifecycle.creators call = .count)
    (inserted : after.lifecycle.adapter.deviceList =
      state.lifecycle.adapter.deviceList ++ [call]) : NamesInv after := by
  have stored : checkedName state.lifecycle call = nameOf state.lifecycle.adapter call :=
    checkedName_stored _ _ (by rw [pc]; rfl)
  have kept := effect.namesAtLink pc
  have split : ∀ device ∈ after.lifecycle.adapter.deviceList,
      device ∈ state.lifecycle.adapter.deviceList ∨ device = call := by
    intro device member
    rw [inserted, List.mem_append, List.mem_singleton] at member
    exact member
  refine ⟨lock, effect.listed inv.listed, fun other name now device member named => ?_, ?_⟩
  · have old := kept device name named
    rcases split device member with listed | rfl
    · rcases effect.checkedNames other name now with before | apart
      · exact inv.fresh other name before device listed old
      · exact apart device listed old
    · -- The other call would be a rival.
      have different : other ≠ device := by
        rintro rfl
        have inserts := beforeInsertion_of_checked _ _ _ now
        rw [counted] at inserts
        cases inserts
      have before : checkedName state.lifecycle other = some name :=
        checkedName_others _ _ other (effect.others other different)
          (fun found => kept other found) name now
      have owner := inv.lock.owner other (beforeInsertion_of_checked _ _ _ before)
      have alone := permitted device (by rw [insertedDevice, if_pos pc]) _ owner
      rw [rivals_of_same state device other name different (stored.trans old) before] at alone
      cases alone
  · intro first memberFirst second memberSecond name namedFirst namedSecond
    have oldFirst := kept first name namedFirst
    have oldSecond := kept second name namedSecond
    rcases split first memberFirst with listedFirst | rfl
    · rcases split second memberSecond with listedSecond | rfl
      · exact inv.unique first listedFirst second listedSecond name oldFirst oldSecond
      · exact absurd oldFirst
          (inv.fresh second name (stored.trans oldSecond) first listedFirst)
    · rcases split second memberSecond with listedSecond | rfl
      · exact absurd oldSecond
          (inv.fresh first name (stored.trans oldFirst) second listedSecond)
      · rfl

theorem NamesInv.creator (inv : NamesInv state) (lock : LockInv after) (call : DeviceId)
    (fails : Bool) (permitted : InsertsAlone state (.lifecycle (.creator call fails)))
    (effect : CreatorEffect state.lifecycle after.lifecycle call) : NamesInv after := by
  rcases effect.list with same | ⟨pc, counted, inserted⟩
  · exact inv.drops lock (fun device member => same ▸ member) effect.linked
      (inv.namesOfListed effect) effect.checkedNames
  · exact inv.inserts lock permitted effect pc counted inserted

theorem NamesInv.lifecycle (inv : NamesInv state) (action : LifecycleAction)
    (permitted : InsertsAlone state (.lifecycle action))
    (stepped : lifecycleStep state action = some after) : NamesInv after := by
  have lock := inv.lock.lifecycle action stepped
  obtain ⟨_, moved⟩ := Option.ite_none_right_eq_some.mp stepped
  obtain ⟨lifecycle, taken, rfl⟩ := Option.map_eq_some_iff.mp moved
  rcases lifecycleNext_kept action taken with
    ⟨call, fails, rfl, effect⟩ | ⟨call, props, rfl, begun⟩ | kept
  · exact inv.creator lock call fails permitted effect
  · obtain ⟨others, _, _, list, devices, idle, begins⟩ := createBegin_effect props begun
    have names : ∀ device, nameOf lifecycle.adapter device =
        nameOf state.lifecycle.adapter device := fun device => by
      rw [nameOf, devices, nameOf]
    refine inv.drops lock (fun device member => list ▸ member) (createBegin_linked props begun)
      (fun device _ name named => (names device).symm.trans named)
      (fun other name now => Or.inl ?_)
    have different : other ≠ call := by
      rintro rfl
      have none : checkedName lifecycle other = none := by
        refine checkedName_none _ _ ?_ fun found same => ?_
        · rcases begins with ⟨started, _⟩ | ended
          · rw [started]
            rfl
          · cases pc : lifecycle.creators other <;> rw [pc] at ended <;>
              first | rfl | cases ended
        · rcases begins with ⟨started, _⟩ | ended
          · rw [started] at same
            cases same
          · rw [same] at ended
            cases ended
      exact absurd (none.symm.trans now) (by simp)
    exact checkedName_others _ _ other (others other different)
      (fun found named => (names other).symm.trans named) name now
  · exact inv.drops lock (fun device member => (listAfter_sublist _ _).subset (kept.list ▸ member))
      (fun device linked => (congrArg CreatorPc.linked (congrFun kept.creators device)).trans linked)
      (fun device _ name named => kept.names device name named)
      (fun other name now => Or.inl (kept.checked other name now))

theorem NamesInv.step (inv : NamesInv state) (action : ControlAction)
    (permitted : InsertsAlone state action) (stepped : controlNext state action = some after) :
    NamesInv after := by
  have lock := inv.lock.step action stepped
  cases action with
  | lifecycle action => exact inv.lifecycle action permitted stepped
  | lockCreate call props =>
      have same := (lockCreate_same call props stepped).lifecycle
      exact ⟨lock, same ▸ inv.listed, same ▸ inv.fresh, same ▸ inv.unique⟩
  | unlockCreate call =>
      have same := (unlockCreate_same call stepped).lifecycle
      exact ⟨lock, same ▸ inv.listed, same ▸ inv.fresh, same ▸ inv.unique⟩
  | writeOption value =>
      cases stepped
      exact ⟨lock, inv.listed, inv.fresh, inv.unique⟩
  | disallow thread purpose choice =>
      obtain ⟨_, moved⟩ := Option.ite_none_right_eq_some.mp stepped
      cases choice with
      | proceed | fails =>
          cases moved
          exact ⟨lock, inv.listed, inv.fresh, inv.unique⟩
      | unwritten names => cases moved
  | request thread choice =>
      have effect := requestStep_effect thread choice stepped
      exact inv.drops lock (fun device member => effect.kept.list ▸ member)
        (fun device linked => (congrArg CreatorPc.linked
          (congrFun effect.kept.creators device)).trans linked)
        (fun device _ name named => effect.kept.names device name named)
        (fun call name now => Or.inl (effect.kept.checked call name now))

end Steps

/-! ## Names are unique unless two create calls meet -/

theorem UniqueNames.find {adapter : AdapterState} (unique : UniqueNames adapter)
    (device : DeviceId) (name : InstanceName) (member : device ∈ adapter.deviceList)
    (named : nameOf adapter device = some name) :
    adapter.findDeviceByInstanceName name = some device := by
  cases found : adapter.findDeviceByInstanceName name with
  | none => exact absurd named (findDeviceByInstanceName_none adapter name found device member)
  | some other =>
      unfold findDeviceByInstanceName at found
      have matched := List.find?_some found
      obtain ⟨value, allocated, same⟩ := (Option.any_eq_true _ _).mp matched
      have otherNamed : nameOf adapter other = some name := by
        rw [nameOf, allocated, Option.map_some, of_decide_eq_true same]
      rw [unique other (List.mem_of_find?_eq_some found) device member name otherNamed named]

/-- In every run in which no create call inserts its device while another one for
the same name is past its name check, names are unique and address one disk. -/
theorem instance_names_unique (state : ControlState)
    (ran : Path controlNext InsertsAlone .initial state) :
    UniqueNames state.lifecycle.adapter ∧
      ∀ device ∈ state.lifecycle.adapter.deviceList, ∀ name,
        nameOf state.lifecycle.adapter device = some name →
          state.lifecycle.adapter.findDeviceByInstanceName name = some device := by
  have inv : NamesInv state := ran.invariant NamesInv namesInv_initial
    fun before action after permitted held stepped => held.step action permitted stepped
  exact ⟨inv.unique, fun device member name named => inv.unique.find device name member named⟩

/-! ## Two create calls, with different names and with one -/

def createUntilLink (call : DeviceId) (name : InstanceName) : List ControlAction :=
  let props := { sectorProps 512 with instanceName := name }
  .lockCreate call props :: .lifecycle (.create call props) ::
    List.replicate 9 (.lifecycle (.creator call false))

def finishCreate (call : DeviceId) : List ControlAction :=
  List.replicate 4 (.lifecycle (.creator call false)) ++ [.unlockCreate call]

def overlappingCreates : List ControlAction :=
  createUntilLink 0 [118] ++ createUntilLink 1 [119] ++ finishCreate 0 ++ finishCreate 1

theorem instance_names_unique_two_disks :
    ∃ state, run controlNext .initial overlappingCreates = some state ∧
      UniqueNames state.lifecycle.adapter ∧
      ∀ device ∈ state.lifecycle.adapter.deviceList, ∀ name,
        nameOf state.lifecycle.adapter device = some name →
          state.lifecycle.adapter.findDeviceByInstanceName name = some device := by
  have enabled : (run controlNext .initial overlappingCreates).isSome = true := by
    decide +kernel
  have permitted : AllAllowed controlNext InsertsAlone .initial overlappingCreates := by
    decide +kernel
  exact ⟨_, (Option.some_get enabled).symm, instance_names_unique _
    (path_of_run _ _ overlappingCreates permitted (Option.some_get enabled).symm)⟩

/-- Both calls find the name free before either has inserted its device. -/
def creatorsOfOneName : List ControlAction :=
  createUntilLink 0 [118] ++ createUntilLink 1 [118] ++ finishCreate 0 ++ finishCreate 1

/-- Not every run keeps names unique. -/
theorem two_disks_of_one_name :
    ¬ ∀ actions state, run controlNext .initial actions = some state →
      UniqueNames state.lifecycle.adapter := by
  intro unique
  have registered : (run controlNext .initial creatorsOfOneName).map (fun state =>
      (state.lifecycle.adapter.deviceList,
        nameOf state.lifecycle.adapter 0, nameOf state.lifecycle.adapter 1)) =
      some ([0, 1], some [118], some [118]) := by
    decide +kernel
  obtain ⟨state, ran, fields⟩ := Option.map_eq_some_iff.mp registered
  rw [Prod.mk.injEq, Prod.mk.injEq] at fields
  obtain ⟨list, first, second⟩ := fields
  have same := unique creatorsOfOneName state ran 0 (by rw [list]; decide) 1
    (by rw [list]; decide) [118] first second
  cases same

end Wnbd.Control
