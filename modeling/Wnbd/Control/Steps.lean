import Wnbd.Control.Machine

/-!
# What the steps do to names and insertions

One lemma for each kind of step says which devices stay registered, which names
they have and how far the create calls are.
-/

set_option autoImplicit false

namespace Wnbd.Control

open Wnbd.Scsi Wnbd.Adapter Wnbd.Adapter.AdapterState Wnbd.Adapter.LifecycleState ControlState

/-- The create call has read the option as true and may still insert its device. -/
def beforeInsertion : CreatorPc → Bool
  | .findName _ | .allocate _ | .allocateInquiry | .claimAddress | .assignAddress _
  | .startThread _ | .referenceThread _ | .populatePool | .copyInfo | .link => true
  | _ => false

/-- The create call has stored the name in its device, which it has not inserted. -/
def storesName : CreatorPc → Bool
  | .allocateInquiry | .claimAddress | .assignAddress _ | .startThread _ | .referenceThread _
  | .populatePool | .copyInfo | .link => true
  | _ => false

/-- The name of a create call that is past its name check and has not inserted
its device. -/
def checkedName (state : LifecycleState) (call : DeviceId) : Option InstanceName :=
  match state.creators call with
  | .allocate props => some props.instanceName
  | pc => if storesName pc then nameOf state.adapter call else none

theorem checkedName_stored (state : LifecycleState) (call : DeviceId)
    (stores : storesName (state.creators call) = true) :
    checkedName state call = nameOf state.adapter call := by
  unfold checkedName
  cases pc : state.creators call <;> rw [pc] at stores <;> first | rfl | cases stores

theorem checkedName_none (state : LifecycleState) (call : DeviceId)
    (stores : storesName (state.creators call) = false)
    (notAllocating : ∀ props, state.creators call ≠ .allocate props) :
    checkedName state call = none := by
  unfold checkedName
  cases pc : state.creators call <;> rw [pc] at stores <;>
    first | rfl | exact absurd pc (notAllocating _) | cases stores

/-- `Device->Properties` of an allocated device. -/
def propertiesOf (adapter : AdapterState) (device : DeviceId) : Option WnbdProperties :=
  (adapter.devices device).map fun value => value.properties

theorem nameOf_eq (adapter : AdapterState) (device : DeviceId) :
    nameOf adapter device = (propertiesOf adapter device).map (·.instanceName) := by
  rw [nameOf, propertiesOf, Option.map_map]
  rfl

theorem nameOf_of_properties {before now : AdapterState} {device : DeviceId}
    (kept : ∀ props, propertiesOf now device = some props → propertiesOf before device = some props)
    (name : InstanceName) (named : nameOf now device = some name) :
    nameOf before device = some name := by
  rw [nameOf_eq] at named ⊢
  obtain ⟨props, stored, rfl⟩ := Option.map_eq_some_iff.mp named
  rw [kept props stored]
  rfl

theorem propertiesOf_updateDevice (adapter : AdapterState) (device found : DeviceId)
    (change : WnbdDiskDevice → WnbdDiskDevice)
    (same : ∀ value, (change value).properties = value.properties) :
    propertiesOf (adapter.updateDevice device change) found = propertiesOf adapter found := by
  unfold propertiesOf
  by_cases own : found = device
  · subst own
    rw [updateDevice_self, Option.map_map]
    exact congrArg (Option.map · _) (funext fun value => by simp [same])
  · rw [updateDevice_of_ne adapter device found change own]

theorem properties_of_updateDevice (adapter : AdapterState) (device : DeviceId)
    (change : WnbdDiskDevice → WnbdDiskDevice)
    (same : ∀ value, (change value).properties = value.properties) (found : DeviceId)
    (props : WnbdProperties)
    (stored : propertiesOf (adapter.updateDevice device change) found = some props) :
    propertiesOf adapter found = some props := by
  rw [propertiesOf_updateDevice adapter device found change same] at stored
  exact stored

theorem properties_of_setDevice_none (adapter : AdapterState) (device found : DeviceId)
    (props : WnbdProperties)
    (stored : propertiesOf (adapter.setDevice device none) found = some props) :
    propertiesOf adapter found = some props := by
  unfold propertiesOf at stored ⊢
  by_cases own : found = device
  · subst own
    simp only [setDevice, Function.update_self, Option.map_none] at stored
    cases stored
  · rw [setDevice_of_ne adapter device found none own] at stored
    exact stored

/-! ## Create calls -/

structure CreatorEffect (before after : LifecycleState) (call : DeviceId) : Prop where
  others : ∀ other, other ≠ call → after.creators other = before.creators other
  users : after.users = before.users
  allowed : after.adapter.newMappingsAllowed = before.adapter.newMappingsAllowed
  list : after.adapter.deviceList = before.adapter.deviceList ∨
    before.creators call = .link ∧ after.creators call = .count ∧
      after.adapter.deviceList = before.adapter.deviceList ++ [call]
  properties : ∀ device props, propertiesOf after.adapter device = some props →
    propertiesOf before.adapter device = some props ∨
      device = call ∧ ∃ props, before.creators call = .allocate props
  checked : ∀ name, checkedName after call = some name →
    checkedName before call = some name ∨
      before.adapter.findDeviceByInstanceName name = none
  inserts : beforeInsertion (after.creators call) = true →
    beforeInsertion (before.creators call) = true
  staysLinked : (before.creators call).linked = true → (after.creators call).linked = true

/-- A create call stores one new name, that of the device it allocates. -/
theorem CreatorEffect.names {before after : LifecycleState} {call : DeviceId}
    (effect : CreatorEffect before after call) (device : DeviceId) (name : InstanceName)
    (named : nameOf after.adapter device = some name) :
    nameOf before.adapter device = some name ∨
      device = call ∧ ∃ props, before.creators call = .allocate props := by
  rw [nameOf_eq] at named ⊢
  obtain ⟨props, stored, rfl⟩ := Option.map_eq_some_iff.mp named
  rcases effect.properties device props stored with old | allocated
  · rw [old]
    exact Or.inl rfl
  · exact Or.inr allocated

theorem CreatorEffect.linked {before after : LifecycleState} {call : DeviceId}
    (effect : CreatorEffect before after call) (device : DeviceId)
    (was : (before.creators device).linked = true) : (after.creators device).linked = true := by
  by_cases own : device = call
  · subst own
    exact effect.staysLinked was
  · rw [effect.others device own]
    exact was

theorem CreatorEffect.listed {before after : LifecycleState} {call : DeviceId}
    (effect : CreatorEffect before after call)
    (listed : ∀ device ∈ before.adapter.deviceList, (before.creators device).linked = true)
    (device : DeviceId) (member : device ∈ after.adapter.deviceList) :
    (after.creators device).linked = true := by
  rcases effect.list with same | ⟨_, counting, appended⟩
  · rw [same] at member
    exact effect.linked device (listed device member)
  · rw [appended, List.mem_append, List.mem_singleton] at member
    rcases member with old | rfl
    · exact effect.linked device (listed device old)
    · rw [counting]
      rfl

section Creator

variable {state : LifecycleState} {call : DeviceId}

theorem CreatorEffect.moves {after : LifecycleState} (adapter : AdapterState) (next : CreatorPc)
    (moved : after.creators = Function.update state.creators call next)
    (users : after.users = state.users) (adapterIs : after.adapter = adapter)
    (allowed : adapter.newMappingsAllowed = state.adapter.newMappingsAllowed)
    (list : adapter.deviceList = state.adapter.deviceList)
    (properties : ∀ device props, propertiesOf adapter device = some props →
      propertiesOf state.adapter device = some props)
    (notAllocating : ∀ props, next ≠ .allocate props)
    (stores : storesName next = true → storesName (state.creators call) = true)
    (inserts : beforeInsertion next = true → beforeInsertion (state.creators call) = true)
    (linked : next.linked = (state.creators call).linked) :
    CreatorEffect state after call := by
  have here : after.creators call = next := by rw [moved, Function.update_self]
  subst adapterIs
  refine
    { others := fun other different => by rw [moved, Function.update_of_ne different]
      users := users
      allowed := allowed
      list := Or.inl list
      properties := fun device props stored => Or.inl (properties device props stored)
      checked := ?_
      inserts := by rw [here]; exact inserts
      staysLinked := by rw [here, linked]; exact id }
  · intro name checked
    cases stored : storesName next with
    | false =>
        rw [checkedName_none _ _ (by rw [here]; exact stored)
          (fun props => by rw [here]; exact notAllocating props)] at checked
        cases checked
    | true =>
        rw [checkedName_stored _ _ (by rw [here]; exact stored)] at checked
        refine Or.inl ?_
        rw [checkedName_stored _ _ (stores stored)]
        exact nameOf_of_properties (properties call) name checked

theorem CreatorEffect.nameFree (props : WnbdProperties)
    (here : state.creators call = .findName props)
    (absent : state.adapter.findDeviceByInstanceName props.instanceName = none) :
    CreatorEffect state (state.setCreator call (.allocate props)) call where
  others _ different := Function.update_of_ne different _ _
  users := rfl
  allowed := rfl
  list := Or.inl rfl
  properties _ _ stored := Or.inl stored
  checked name checked := by
    simp only [checkedName, setCreator, Function.update_self, Option.some.injEq] at checked
    rw [← checked]
    exact Or.inr absent
  inserts _ := by
    rw [here]
    rfl
  staysLinked linked := by
    rw [here] at linked
    cases linked

theorem CreatorEffect.allocates (props : WnbdProperties)
    (here : state.creators call = .allocate props) :
    CreatorEffect state ((state.setAdapter
      (state.adapter.setDevice call (some (WnbdDiskDevice.zeroed props)))).setCreator call
        .allocateInquiry) call where
  others _ different := Function.update_of_ne different _ _
  users := rfl
  allowed := rfl
  list := Or.inl rfl
  properties device stored kept := by
    by_cases own : device = call
    · exact Or.inr ⟨own, props, here⟩
    · unfold propertiesOf at kept ⊢
      simp only [setCreator, setAdapter] at kept
      rw [setDevice_of_ne _ _ _ _ own] at kept
      exact Or.inl kept
  checked name checked := by
    have named : checkedName state call = some props.instanceName := by
      simp only [checkedName, here]
    simp only [checkedName, setCreator, setAdapter, Function.update_self, storesName, nameOf,
      setDevice, if_true, Option.map_some, WnbdDiskDevice.zeroed] at checked
    rw [named]
    exact Or.inl checked
  inserts _ := by
    rw [here]
    rfl
  staysLinked linked := by
    rw [here] at linked
    cases linked

theorem CreatorEffect.links (here : state.creators call = .link) :
    CreatorEffect state ((state.setAdapter (state.adapter.linkDevice call)).setCreator call .count)
      call where
  others _ different := Function.update_of_ne different _ _
  users := rfl
  allowed := rfl
  list := Or.inr ⟨here, Function.update_self .., rfl⟩
  properties _ _ stored := Or.inl stored
  checked name checked := by
    simp only [checkedName, setCreator, Function.update_self, storesName,
      Bool.false_eq_true, if_false] at checked
    cases checked
  inserts inserts := by
    simp only [setCreator, Function.update_self] at inserts
    cases inserts
  staysLinked linked := by
    rw [here] at linked
    cases linked

theorem createBegin_effect {after : LifecycleState} (props : WnbdProperties)
    (taken : createBegin state call props = some after) :
    (∀ other, other ≠ call → after.creators other = state.creators other) ∧
      after.users = state.users ∧
      after.adapter.newMappingsAllowed = state.adapter.newMappingsAllowed ∧
      after.adapter.deviceList = state.adapter.deviceList ∧
      after.adapter.devices = state.adapter.devices ∧
      state.creators call = .idle ∧
      (after.creators call = .findName props ∧ state.adapter.newMappingsAllowed = true ∨
        createReturned (after.creators call) = true) := by
  obtain ⟨idle, begun⟩ := Option.ite_none_right_eq_some.mp taken
  have same := acquireRundown_same state.adapter
  have allowed : state.adapter.acquireRundown.2.newMappingsAllowed =
      state.adapter.newMappingsAllowed := by
    unfold acquireRundown
    split <;> rfl
  dsimp only at begun
  split_ifs at begun with refused unavailable <;> cases begun
  · exact ⟨fun other different => Function.update_of_ne different _ _, rfl, allowed, same.list,
      same.devices, idle, Or.inr (by simp [setCreator, createReturned])⟩
  · exact ⟨fun other different => Function.update_of_ne different _ _, rfl, allowed, same.list,
      same.devices, idle, Or.inr (by simp [setCreator, createReturned])⟩
  · refine ⟨fun other different => Function.update_of_ne different _ _, rfl, allowed, same.list,
      same.devices, idle, Or.inl ⟨Function.update_self .., ?_⟩⟩
    cases value : state.adapter.newMappingsAllowed with
    | true => rfl
    | false => rw [value] at refused; exact absurd rfl refused

theorem createBegin_linked {after : LifecycleState} (props : WnbdProperties)
    (taken : createBegin state call props = some after) (device : DeviceId)
    (linked : (state.creators device).linked = true) : (after.creators device).linked = true := by
  obtain ⟨others, -, -, -, -, idle, -⟩ := createBegin_effect props taken
  have different : device ≠ call := by
    rintro rfl
    rw [idle] at linked
    cases linked
  rw [others device different]
  exact linked

theorem creatorStep_effect {after : LifecycleState} (fails : Bool)
    (taken : creatorStep state call fails = some after) : CreatorEffect state after call := by
  cases creatorStep_cases taken with
  | moves pc next here move =>
      cases move with
      | nameFree props absent =>
          exact .nameFree props here (Option.not_isSome_iff_eq_none.mp (Bool.eq_false_iff.mp absent))
      | populatePool | copyInfo =>
          exact .moves state.adapter _ rfl rfl rfl rfl rfl (fun _ _ => id) (by simp)
            (fun _ => by rw [here]; rfl) (fun _ => by rw [here]; rfl) (by rw [here]; rfl)
      | _ =>
          exact .moves state.adapter _ rfl rfl rfl rfl rfl (fun _ _ => id) (by simp)
            (by simp [storesName]) (by simp [beforeInsertion]) (by rw [here]; rfl)
  | writes pc next change here write =>
      cases write with
      | inquiry | thread bit =>
          exact .moves _ _ rfl rfl rfl rfl rfl
            (properties_of_updateDevice _ call _ fun _ => rfl) (by simp)
            (fun _ => by rw [here]; rfl) (fun _ => by rw [here]; rfl) (by rw [here]; rfl)
      | connected =>
          exact .moves _ _ rfl rfl rfl rfl rfl
            (properties_of_updateDevice _ call _ fun _ => rfl) (by simp)
            (by simp [storesName]) (by simp [beforeInsertion]) (by rw [here]; rfl)
  | allocates props here => exact .allocates props here
  | claims bit here | starts bit here =>
      exact .moves _ _ rfl rfl rfl rfl rfl (fun _ _ => id) (by simp)
        (fun _ => by rw [here]; rfl) (fun _ => by rw [here]; rfl) (by rw [here]; rfl)
  | accepts bit here =>
      exact .moves _ _ rfl rfl rfl rfl rfl (properties_of_updateDevice _ call _ fun _ => rfl)
        (by simp) (fun _ => by rw [here]; rfl) (fun _ => by rw [here]; rfl) (by rw [here]; rfl)
  | refuses bit here =>
      exact .moves _ _ rfl rfl rfl rfl rfl (properties_of_updateDevice _ call _ fun _ => rfl)
        (by simp) (by simp [storesName]) (by simp [beforeInsertion]) (by rw [here]; rfl)
  | links here => exact .links here
  | frees bit status here =>
      exact .moves _ _ rfl rfl rfl rfl rfl (properties_of_setDevice_none state.adapter call)
        (by simp) (by simp [storesName]) (by simp [beforeInsertion]) (by rw [here]; rfl)
  | noAddress here | counts here | leaves bit status here | clears bit status here
  | releases status here =>
      exact .moves _ _ rfl rfl rfl rfl rfl (fun _ _ => id) (by simp) (by simp [storesName])
        (by simp [beforeInsertion]) (by rw [here]; rfl)

end Creator

/-! ## Monitor threads, threads that use a device, cleanup -/

/-- `list` is the device list the step leaves, `actor` the thread it is a step of. -/
structure DevicesKept (before after : LifecycleState) (list : List DeviceId)
    (actor : Option Nat) : Prop where
  creators : after.creators = before.creators
  allowed : after.adapter.newMappingsAllowed = before.adapter.newMappingsAllowed
  list : after.adapter.deviceList = list
  properties : ∀ device props, propertiesOf after.adapter device = some props →
    propertiesOf before.adapter device = some props
  users : ∀ thread, actor ≠ some thread → after.users thread = before.users thread

section Kept

variable {state after : LifecycleState}

theorem DevicesKept.names {list : List DeviceId} {actor : Option Nat}
    (kept : DevicesKept state after list actor) (device : DeviceId) (name : InstanceName)
    (named : nameOf after.adapter device = some name) :
    nameOf state.adapter device = some name :=
  nameOf_of_properties (kept.properties device) name named

theorem DevicesKept.checked {list : List DeviceId} {actor : Option Nat}
    (kept : DevicesKept state after list actor) (call : DeviceId) (name : InstanceName)
    (checked : checkedName after call = some name) : checkedName state call = some name := by
  unfold checkedName at checked ⊢
  rw [kept.creators] at checked
  cases pc : state.creators call <;> simp only [pc] at checked ⊢ <;>
    first | exact checked | exact kept.names call name checked

theorem wakeMonitor_kept (device : DeviceId) (actor : Option Nat) :
    DevicesKept state (wakeMonitor state device) state.adapter.deviceList actor := by
  unfold wakeMonitor
  split <;> exact ⟨rfl, rfl, rfl, fun _ _ => id, fun _ _ => rfl⟩

theorem signalDevice_kept (device : DeviceId) (actor : Option Nat) :
    DevicesKept state (signalDevice state device) state.adapter.deviceList actor := by
  have woken : DevicesKept state (wakeMonitor state device) state.adapter.deviceList actor :=
    wakeMonitor_kept device actor
  refine ⟨woken.creators, woken.allowed, woken.list, fun found props stored => ?_, woken.users⟩
  exact woken.properties found props (properties_of_updateDevice _ device
    ({ · with deviceRemovalEvent := true }) (fun _ => rfl) found props stored)

/-- A monitor takes its device out of the list in one of its steps. -/
theorem monitorStep_kept (device : DeviceId) (taken : monitorStep state device = some after) :
    DevicesKept state after
      (if state.monitors device = .unlink then state.adapter.deviceList.erase device
        else state.adapter.deviceList) none := by
  cases monitorStep_cases taken with
  | writes pc next change here write =>
      cases write <;>
        · rw [here]
          exact ⟨rfl, rfl, rfl, properties_of_updateDevice _ device _ (fun _ => rfl),
            fun _ _ => rfl⟩
  | moves pc next here move =>
      cases move <;>
        · rw [here]
          exact ⟨rfl, rfl, rfl, fun _ _ => id, fun _ _ => rfl⟩
  | frees here =>
      rw [here]
      exact ⟨rfl, rfl, rfl, properties_of_setDevice_none _ device, fun _ _ => rfl⟩
  | wakes here | ownEvent here | sleeps here | runDown here | unlinks here | counts here
  | releases here =>
      rw [here]
      exact ⟨rfl, rfl, rfl, fun _ _ => id, fun _ _ => rfl⟩

theorem lookupStep_kept (user : Nat) (key : LookupKey)
    (taken : lookupStep state user key = some after) :
    DevicesKept state after state.adapter.deviceList (some user) ∧
      (after.users user = .idle ∨ ∃ device, after.users user = .holding device ∧
        device ∈ lookupChain state.adapter key ∧
          (state.adapter.devices device).any key.matches = true) := by
  obtain ⟨idle, looked⟩ := Option.ite_none_right_eq_some.mp taken
  split at looked
  · cases looked
    exact ⟨⟨rfl, rfl, rfl, fun _ _ => id, fun _ _ => rfl⟩, Or.inl idle⟩
  rename_i device found
  split at looked
  · cases looked
    exact ⟨⟨rfl, rfl, rfl, fun _ _ => id, fun _ _ => rfl⟩, Or.inl idle⟩
  cases looked
  refine ⟨⟨rfl, rfl, rfl, properties_of_updateDevice _ device _ fun _ => rfl,
    fun thread other => Function.update_of_ne (fun same => other (by rw [same])) _ _⟩,
    Or.inr ⟨device, Function.update_self .., List.mem_of_find?_eq_some found, ?_⟩⟩
  have matched := List.find?_some found
  exact matched

theorem userStep_kept (user : Nat) (op : UserOp)
    (taken : userStep state user op = some after) :
    DevicesKept state after state.adapter.deviceList (some user) := by
  have moves : ∀ thread pc, some user ≠ some thread →
      Function.update state.users user pc thread = state.users thread :=
    fun thread pc other => Function.update_of_ne (fun same => other (by rw [same])) _ _
  unfold userStep at taken
  cases pc : state.users user with
  | idle => simp only [pc] at taken; cases taken
  | waitingThread device =>
      simp only [pc] at taken
      split_ifs at taken
      cases taken
      exact ⟨rfl, rfl, rfl, fun _ _ => id, fun thread => moves thread _⟩
  | holding device =>
      simp only [pc] at taken
      cases op with
      | access =>
          cases taken
          exact ⟨rfl, rfl, rfl, fun _ _ => id, fun _ _ => rfl⟩
      | markRemoval =>
          cases taken
          exact ⟨rfl, rfl, rfl, properties_of_updateDevice _ device _ fun _ => rfl, fun _ _ => rfl⟩
      | signalRemoval =>
          cases taken
          exact signalDevice_kept device (some user)
      | release | releaseAndWait =>
          cases taken
          exact ⟨rfl, rfl, rfl, properties_of_updateDevice _ device _ fun _ => rfl,
            fun thread => moves thread _⟩

theorem userStep_signalRemoval (user : Nat) (device : DeviceId)
    (holding : state.users user = .holding device) :
    userStep state user .signalRemoval = some (signalDevice state device) := by
  rw [userStep, holding]

theorem userStep_releaseAndWait (user : Nat) (device : DeviceId)
    (holding : state.users user = .holding device)
    (taken : userStep state user .releaseAndWait = some after) :
    after.users user = .waitingThread device := by
  rw [userStep, holding] at taken
  cases taken
  exact Function.update_self ..

/-- The wait of `WnbdDisconnectSync` ends when the monitor thread has. -/
theorem userStep_waitingThread (user : Nat) (op : UserOp) (device : DeviceId)
    (waiting : state.users user = .waitingThread device)
    (taken : userStep state user op = some after) : state.monitors device = .finished := by
  rw [userStep, waiting] at taken
  exact (Option.ite_none_right_eq_some.mp taken).1

theorem cleanupStep_kept (chosen : Option DeviceId)
    (taken : cleanupStep state chosen = some after) :
    DevicesKept state after state.adapter.deviceList none := by
  unfold cleanupStep at taken
  cases pc : state.cleanup with
  | startWait =>
      simp only [pc] at taken
      cases taken
      exact ⟨rfl, rfl, rfl, fun _ _ => id, fun _ _ => rfl⟩
  | waiting =>
      simp only [pc] at taken
      split_ifs at taken
      cases taken
      exact ⟨rfl, rfl, rfl, fun _ _ => id, fun _ _ => rfl⟩
  | idle =>
      simp only [pc] at taken
      obtain ⟨event, _, rfl⟩ := Option.map_eq_some_iff.mp taken
      cases chosen <;> exact ⟨rfl, rfl, rfl, fun _ _ => id, fun _ _ => rfl⟩

end Kept

/-! ## Any step of the life cycle -/

/-- The device list behind a step that is not of a create call. -/
def listAfter (state : LifecycleState) : LifecycleAction → List DeviceId
  | .monitor device =>
      if state.monitors device = .unlink then state.adapter.deviceList.erase device
      else state.adapter.deviceList
  | _ => state.adapter.deviceList

theorem listAfter_sublist (state : LifecycleState) (action : LifecycleAction) :
    (listAfter state action).Sublist state.adapter.deviceList := by
  cases action with
  | monitor device =>
      dsimp only [listAfter]
      split_ifs
      · exact List.erase_sublist
      · exact List.Sublist.refl _
  | create | creator | lookup | user | cleanup => exact List.Sublist.refl _

/-- The thread a step is a step of. -/
def actorOf : LifecycleAction → Option Nat
  | .lookup user _ | .user user _ => some user
  | .create _ _ | .creator _ _ | .monitor _ | .cleanup _ => none

theorem lifecycleNext_kept {state after : LifecycleState} (action : LifecycleAction)
    (taken : lifecycleNext state action = some after) :
    (∃ call fails, action = .creator call fails ∧ CreatorEffect state after call) ∨
      (∃ call props, action = .create call props ∧ createBegin state call props = some after) ∨
      DevicesKept state after (listAfter state action) (actorOf action) := by
  cases action with
  | create call props => exact Or.inr (Or.inl ⟨call, props, rfl, taken⟩)
  | creator call fails => exact Or.inl ⟨call, fails, rfl, creatorStep_effect fails taken⟩
  | monitor device => exact Or.inr (Or.inr (monitorStep_kept device taken))
  | lookup user key => exact Or.inr (Or.inr (lookupStep_kept user key taken).1)
  | user user op => exact Or.inr (Or.inr (userStep_kept user op taken))
  | cleanup chosen => exact Or.inr (Or.inr (cleanupStep_kept chosen taken))

/-! ## The creation lock -/

theorem createReturned_of_inserts (pc : CreatorPc) (inserts : beforeInsertion pc = true) :
    createReturned pc = false := by
  cases pc <;> first | rfl | cases inserts

theorem creatorStep_running {state after : LifecycleState} (call : DeviceId) (fails : Bool)
    (taken : creatorStep state call fails = some after) :
    state.creators call ≠ .idle ∧ createReturned (state.creators call) = false := by
  cases creatorStep_cases taken with
  | moves pc next here move => cases move <;> rw [here] <;> exact ⟨nofun, rfl⟩
  | writes pc next change here write => cases write <;> rw [here] <;> exact ⟨nofun, rfl⟩
  | allocates _ here | noAddress here | claims _ here | accepts _ here | refuses _ here
  | starts _ here | links here | counts here | leaves _ _ here | frees _ _ here
  | clears _ _ here | releases _ here =>
      rw [here]
      exact ⟨nofun, rfl⟩

/-- A create call runs while its request owns the creation lock.  No one ever
owns it exclusively. -/
structure LockInv (state : ControlState) : Prop where
  unowned : state.deviceCreationLock.exclusive = none
  owned : ∀ call props, state.creates call = .locked props →
    .create call ∈ state.deviceCreationLock.shared
  outside : ∀ call, state.creates call = .idle → state.lifecycle.creators call = .idle
  returned : ∀ call, state.creates call = .returned →
    createReturned (state.lifecycle.creators call) = true

theorem lockInv_initial : LockInv .initial :=
  ⟨rfl, fun _ _ locked => (by cases locked), fun _ _ => rfl, fun _ returned => by cases returned⟩

section Lock

variable {state after : ControlState}

theorem LockInv.owner (inv : LockInv state) (call : DeviceId)
    (inserts : beforeInsertion (state.lifecycle.creators call) = true) :
    .create call ∈ state.deviceCreationLock.shared := by
  cases request : state.creates call with
  | locked props => exact inv.owned call props request
  | idle =>
      rw [inv.outside call request] at inserts
      cases inserts
  | returned =>
      have ended := inv.returned call request
      rw [createReturned_of_inserts _ inserts] at ended
      cases ended

theorem LockInv.lifecycle (inv : LockInv state) (action : LifecycleAction)
    (stepped : lifecycleStep state action = some after) : LockInv after := by
  obtain ⟨permitted, moved⟩ := Option.ite_none_right_eq_some.mp stepped
  obtain ⟨lifecycle, taken, rfl⟩ := Option.map_eq_some_iff.mp moved
  -- Only the call that takes the step can change how far it is.
  have within : ∀ call, (∀ other, other ≠ call →
      lifecycle.creators other = state.lifecycle.creators other) →
      (∃ props, state.creates call = .locked props) →
      LockInv { state with lifecycle, keptLinks := linksAfter state action } := by
    intro call others locked
    obtain ⟨props, locked⟩ := locked
    refine ⟨inv.unowned, inv.owned, fun other idle => ?_, fun other ended => ?_⟩
    · rw [others other fun same => by rw [same, locked] at idle; cases idle]
      exact inv.outside other idle
    · rw [others other fun same => by rw [same, locked] at ended; cases ended]
      exact inv.returned other ended
  rcases lifecycleNext_kept action taken with
    ⟨call, fails, rfl, effect⟩ | ⟨call, props, rfl, begun⟩ | kept
  · refine within call effect.others ?_
    obtain ⟨notIdle, running⟩ := creatorStep_running call fails taken
    cases request : state.creates call with
    | locked props => exact ⟨props, rfl⟩
    | idle => exact absurd (inv.outside call request) notIdle
    | returned =>
        rw [inv.returned call request] at running
        cases running
  · exact within call (createBegin_effect props begun).1 ⟨props, of_decide_eq_true permitted⟩
  · refine ⟨inv.unowned, inv.owned, fun call idle => ?_, fun call ended => ?_⟩
    · exact (congrFun kept.creators call).trans (inv.outside call idle)
    · rw [show lifecycle.creators call = state.lifecycle.creators call from
        congrFun kept.creators call]
      exact inv.returned call ended

theorem LockInv.keep (inv : LockInv state)
    (unowned : after.deviceCreationLock.exclusive = state.deviceCreationLock.exclusive)
    (owners : ∀ call, .create call ∈ state.deviceCreationLock.shared →
      .create call ∈ after.deviceCreationLock.shared)
    (creates : after.creates = state.creates)
    (creators : after.lifecycle.creators = state.lifecycle.creators) : LockInv after := by
  refine ⟨unowned.trans inv.unowned, ?_, ?_, ?_⟩
  · rw [creates]
    exact fun call props locked => owners call (inv.owned call props locked)
  · rw [creates, creators]
    exact inv.outside
  · rw [creates, creators]
    exact inv.returned

theorem LockInv.lockCreate (inv : LockInv state) (call : DeviceId) (props : WnbdProperties)
    (stepped : lockCreate state call props = some after) : LockInv after := by
  obtain ⟨⟨idle, _⟩, locked⟩ := Option.ite_none_right_eq_some.mp stepped
  obtain ⟨lock, taken, rfl⟩ := Option.map_eq_some_iff.mp locked
  rw [Resource.acquireShared_eq_some _ _ _ taken]
  have others : ∀ other request, request ≠ .locked props →
      Function.update state.creates call (.locked props) other = request →
        state.creates other = request := by
    intro other request different found
    by_cases own : other = call
    · rw [own, Function.update_self] at found
      exact absurd found.symm different
    · rw [Function.update_of_ne own] at found
      exact found
  refine ⟨inv.unowned, fun other found request => ?_, fun other request => ?_,
    fun other request => ?_⟩
  · by_cases own : other = call
    · rw [own]
      exact List.mem_cons_self
    · simp only [setCreate, Function.update_of_ne own] at request
      exact List.mem_cons_of_mem _ (inv.owned other found request)
  · exact inv.outside other (others other _ nofun request)
  · exact inv.returned other (others other _ nofun request)

theorem unlockCreate_cases (call : DeviceId) (stepped : unlockCreate state call = some after) :
    createReturned (state.lifecycle.creators call) = true ∧
      after = { state with deviceCreationLock :=
        state.deviceCreationLock.releaseShared (.create call) }.setCreate call .returned := by
  unfold unlockCreate at stepped
  cases request : state.creates call with
  | locked props =>
      simp only [request] at stepped
      obtain ⟨ended, ⟨⟩⟩ := Option.ite_none_right_eq_some.mp stepped
      exact ⟨ended, rfl⟩
  | _ =>
      simp only [request] at stepped
      cases stepped

theorem LockInv.unlockCreate (inv : LockInv state) (call : DeviceId)
    (stepped : unlockCreate state call = some after) : LockInv after := by
  obtain ⟨ended, rfl⟩ := unlockCreate_cases call stepped
  refine ⟨inv.unowned, fun other found request => ?_, fun other request => ?_,
    fun other request => ?_⟩ <;> simp only [setCreate] at request
  · by_cases own : other = call
    · rw [own, Function.update_self] at request
      cases request
    · rw [Function.update_of_ne own] at request
      exact (List.mem_erase_of_ne fun same => own (LockOwner.create.inj same)).mpr
        (inv.owned other found request)
  · by_cases own : other = call
    · rw [own, Function.update_self] at request
      cases request
    · rw [Function.update_of_ne own] at request
      exact inv.outside other request
  · by_cases own : other = call
    · rw [own]
      exact ended
    · rw [Function.update_of_ne own] at request
      exact inv.returned other request

/-- A step that leaves the devices, the kept links and the requests alone. -/
structure SameDisks (before after : ControlState) : Prop where
  lifecycle : after.lifecycle = before.lifecycle
  links : after.keptLinks = before.keptLinks
  requests : after.requests = before.requests

theorem lockCreate_same (call : DeviceId) (props : WnbdProperties)
    (stepped : lockCreate state call props = some after) : SameDisks state after := by
  obtain ⟨_, locked⟩ := Option.ite_none_right_eq_some.mp stepped
  obtain ⟨_, _, rfl⟩ := Option.map_eq_some_iff.mp locked
  exact ⟨rfl, rfl, rfl⟩

theorem unlockCreate_same (call : DeviceId) (stepped : unlockCreate state call = some after) :
    SameDisks state after := by
  obtain ⟨-, rfl⟩ := unlockCreate_cases call stepped
  exact ⟨rfl, rfl, rfl⟩

end Lock

/-! ## What a step of a request can do -/

section Cases

variable (state : ControlState) (thread : Nat)

/-- One case for each branch of `listStep`. -/
inductive ListCase : RequestPc → ControlState → Prop
  | size :
      ListCase .listSize
        (state.setRequest thread (.allocate (requiredBuffSize state.lifecycle.adapter)))
  | sizeFails (bytesReturned : Nat) :
      ListCase .listSize
        (state.setRequest thread (if bytesReturned = 0 then .failed else .allocate bytesReturned))
  | allocate (bufferSize : Nat) :
      ListCase (.allocate bufferSize) (state.setRequest thread (.list bufferSize))
  | allocateFails (bufferSize : Nat) :
      ListCase (.allocate bufferSize) (state.setRequest thread .failed)
  | begins (bufferSize : Nat)
      (fits : requiredBuffSize state.lifecycle.adapter ≤ bufferSize) :
      ListCase (.list bufferSize)
        (state.setRequest thread
          (.enumerate bufferSize state.lifecycle.adapter.deviceList.head?))
  | tooShort (bufferSize : Nat) (names : List InstanceName)
      (short : bufferSize < requiredBuffSize state.lifecycle.adapter) :
      ListCase (.list bufferSize) (state.setRequest thread (.removeNext names))
  | listFails (bufferSize : Nat) :
      ListCase (.list bufferSize) (state.setRequest thread .failed)
  | enumerate (bufferSize : Nat) (currentEntry : Option DeviceId)
      (allocated : WalksAllocated state bufferSize currentEntry) :
      ListCase (.enumerate bufferSize currentEntry)
        (state.setRequest thread
          (if (enumerateActiveConnections state bufferSize currentEntry).2 = none then
            .removeNext ((enumerateActiveConnections state bufferSize currentEntry).1.filterMap
              (nameOf state.lifecycle.adapter))
          else .failed))
  | enumerateFreed (bufferSize : Nat) (currentEntry : Option DeviceId)
      (names : List InstanceName)
      (freed : ¬ WalksAllocated state bufferSize currentEntry) :
      ListCase (.enumerate bufferSize currentEntry) (state.setRequest thread (.removeNext names))

/-- One case for each branch of `removeStep`. -/
inductive RemoveCase : RequestPc → ControlState → Prop
  | done : RemoveCase (.removeNext []) (state.setRequest thread .disksRemoved)
  | fails (name : InstanceName) (names : List InstanceName) :
      RemoveCase (.removeNext (name :: names)) (state.setRequest thread .failed)
  | lookup (name : InstanceName) (names : List InstanceName) (lifecycle : LifecycleState)
      (looked : lookupStep state.lifecycle thread (.instanceName name) = some lifecycle) :
      RemoveCase (.removeNext (name :: names))
        ((state.setLifecycle lifecycle).setRequest thread
          (if lifecycle.users thread = .idle then .failed else .signalRemoval names))
  | signal (names : List InstanceName) (lifecycle : LifecycleState)
      (used : userStep state.lifecycle thread .signalRemoval = some lifecycle) :
      RemoveCase (.signalRemoval names)
        ((state.setLifecycle lifecycle).setRequest thread (.releaseDevice names))
  | release (names : List InstanceName) (lifecycle : LifecycleState)
      (used : userStep state.lifecycle thread .releaseAndWait = some lifecycle) :
      RemoveCase (.releaseDevice names)
        ((state.setLifecycle lifecycle).setRequest thread (.waitMonitor names))
  | waited (names : List InstanceName) (lifecycle : LifecycleState)
      (used : userStep state.lifecycle thread .access = some lifecycle) :
      RemoveCase (.waitMonitor names)
        ((state.setLifecycle lifecycle).setRequest thread (.removeNext names))

/-- What a request that is past the option check can do. -/
inductive RequestCase (choice : RequestChoice) (after : ControlState) : Prop
  | acquire (purpose : Purpose) (lock : Resource LockOwner)
      (here : state.requests thread = .acquireCreation purpose)
      (acquired : state.deviceCreationLock.acquireShared (.request thread) = some lock)
      (left : after = { state with deviceCreationLock := lock }.setRequest thread
        (.releaseCreation purpose))
  | release (purpose : Purpose)
      (left : after = { state with deviceCreationLock :=
        state.deviceCreationLock.releaseShared (.request thread) }.setRequest thread
          (match purpose with
            | .setOption => .optionSet
            | .removeAllDisks => .listSize))
      (here : state.requests thread = .releaseCreation purpose)
  | lists (stepped : listStep state thread choice = some after)
  | removes (stepped : removeStep state thread choice = some after)

end Cases

theorem requiredBuffSize_ne_zero (adapter : AdapterState) : requiredBuffSize adapter ≠ 0 := by
  have entry : Ioctl.wnbdConnectionInfo.size = 2032 := by decide
  have list : Ioctl.wnbdConnectionList.size = 2040 := by decide
  unfold requiredBuffSize
  rw [entry, list]
  omega

section Request

variable {state after : ControlState} {thread : Nat} {choice : RequestChoice}

theorem listStep_cases {pc : RequestPc} (here : state.requests thread = pc)
    (stepped : listStep state thread choice = some after) : ListCase state thread pc after := by
  unfold listStep at stepped
  dsimp only at stepped
  cases pc with
  | listSize =>
      rw [here] at stepped
      cases choice with
      | proceed =>
          simp only [if_neg (requiredBuffSize_ne_zero _)] at stepped
          cases stepped
          exact .size
      | fails bytesReturned =>
          cases stepped
          exact .sizeFails bytesReturned
      | unwritten names => cases stepped
  | allocate bufferSize =>
      rw [here] at stepped
      cases choice with
      | proceed =>
          cases stepped
          exact .allocate bufferSize
      | fails bytesReturned =>
          cases stepped
          exact .allocateFails bufferSize
      | unwritten names => cases stepped
  | list bufferSize =>
      rw [here] at stepped
      cases choice with
      | proceed =>
          obtain ⟨long, ⟨⟩⟩ := Option.ite_none_left_eq_some.mp stepped
          exact .begins bufferSize (Nat.le_of_not_lt long)
      | fails bytesReturned =>
          cases stepped
          exact .listFails bufferSize
      | unwritten names =>
          obtain ⟨short, ⟨⟩⟩ := Option.ite_none_right_eq_some.mp stepped
          exact .tooShort bufferSize names short
  | enumerate bufferSize currentEntry =>
      rw [here] at stepped
      cases choice with
      | proceed =>
          obtain ⟨allocated, ⟨⟩⟩ := Option.ite_none_right_eq_some.mp stepped
          exact .enumerate bufferSize currentEntry allocated
      | fails bytesReturned => cases stepped
      | unwritten names =>
          obtain ⟨freed, ⟨⟩⟩ := Option.ite_none_left_eq_some.mp stepped
          exact .enumerateFreed bufferSize currentEntry names freed
  | _ =>
      rw [here] at stepped
      cases stepped

theorem removeStep_cases {pc : RequestPc} (here : state.requests thread = pc)
    (stepped : removeStep state thread choice = some after) : RemoveCase state thread pc after := by
  unfold removeStep at stepped
  cases pc with
  | removeNext names =>
      rw [here] at stepped
      cases names with
      | nil =>
          cases choice with
          | proceed =>
              cases stepped
              exact .done
          | _ => cases stepped
      | cons name names =>
          cases choice with
          | proceed =>
              by_cases empty : name = []
              · simp only [if_pos empty] at stepped
                cases stepped
                exact .fails name names
              · simp only [if_neg empty] at stepped
                obtain ⟨lifecycle, looked, rfl⟩ := Option.map_eq_some_iff.mp stepped
                exact .lookup name names lifecycle looked
          | fails bytesReturned =>
              cases stepped
              exact .fails name names
          | unwritten unread => cases stepped
  | signalRemoval names =>
      rw [here] at stepped
      cases choice with
      | proceed =>
          obtain ⟨lifecycle, used, rfl⟩ := Option.map_eq_some_iff.mp stepped
          exact .signal names lifecycle used
      | _ => cases stepped
  | releaseDevice names =>
      rw [here] at stepped
      cases choice with
      | proceed =>
          obtain ⟨lifecycle, used, rfl⟩ := Option.map_eq_some_iff.mp stepped
          exact .release names lifecycle used
      | _ => cases stepped
  | waitMonitor names =>
      rw [here] at stepped
      cases choice with
      | proceed =>
          obtain ⟨lifecycle, used, rfl⟩ := Option.map_eq_some_iff.mp stepped
          exact .waited names lifecycle used
      | _ => cases stepped
  | _ =>
      rw [here] at stepped
      cases stepped

theorem requestStep_cases (stepped : requestStep state thread choice = some after) :
    RequestCase state thread choice after := by
  unfold requestStep at stepped
  cases here : state.requests thread with
  | acquireCreation purpose =>
      rw [here] at stepped
      cases choice with
      | proceed =>
          obtain ⟨lock, acquired, rfl⟩ := Option.map_eq_some_iff.mp stepped
          exact .acquire purpose lock here acquired rfl
      | _ => cases stepped
  | releaseCreation purpose =>
      rw [here] at stepped
      cases choice with
      | proceed =>
          cases stepped
          exact .release purpose rfl here
      | _ => cases stepped
  | listSize | allocate | list | enumerate =>
      rw [here] at stepped
      exact .lists stepped
  | removeNext | signalRemoval | releaseDevice | waitMonitor =>
      rw [here] at stepped
      exact .removes stepped
  | _ =>
      rw [here] at stepped
      cases stepped

end Request

/-! ## Requests -/

structure RequestEffect (before after : ControlState) (thread : Nat) : Prop where
  creates : after.creates = before.creates
  links : after.keptLinks = before.keptLinks
  requests : ∀ other, other ≠ thread → after.requests other = before.requests other
  begun : after.requests thread ≠ .idle
  kept : DevicesKept before.lifecycle after.lifecycle before.lifecycle.adapter.deviceList
    (some thread)
  unowned : after.deviceCreationLock.exclusive = before.deviceCreationLock.exclusive
  owners : ∀ call, .create call ∈ before.deviceCreationLock.shared →
    .create call ∈ after.deviceCreationLock.shared

section Request

variable {state after : ControlState}

theorem RequestEffect.moves (state : ControlState) (thread : Nat) (pc : RequestPc)
    (begun : pc ≠ .idle) : RequestEffect state (state.setRequest thread pc) thread where
  creates := rfl
  links := rfl
  requests _ different := Function.update_of_ne different _ _
  begun := by
    simp only [setRequest, Function.update_self]
    exact begun
  kept := ⟨rfl, rfl, rfl, fun _ _ => id, fun _ _ => rfl⟩
  unowned := rfl
  owners _ := id

theorem RequestEffect.uses (thread : Nat) (pc : RequestPc) {lifecycle : LifecycleState}
    (kept : DevicesKept state.lifecycle lifecycle state.lifecycle.adapter.deviceList
      (some thread)) (begun : pc ≠ .idle) :
    RequestEffect state ((state.setLifecycle lifecycle).setRequest thread pc) thread where
  creates := rfl
  links := rfl
  requests _ different := Function.update_of_ne different _ _
  begun := by
    simp only [setRequest, Function.update_self]
    exact begun
  kept := kept
  unowned := rfl
  owners _ := id

theorem listStep_effect (thread : Nat) (choice : RequestChoice)
    (stepped : listStep state thread choice = some after) : RequestEffect state after thread := by
  generalize here : state.requests thread = pc
  cases listStep_cases here stepped with
  | sizeFails | enumerate => exact .moves state thread _ (by split_ifs <;> nofun)
  | _ => exact .moves state thread _ nofun

theorem removeStep_effect (thread : Nat) (choice : RequestChoice)
    (stepped : removeStep state thread choice = some after) :
    RequestEffect state after thread := by
  generalize here : state.requests thread = pc
  cases removeStep_cases here stepped with
  | done | fails => exact .moves state thread _ nofun
  | lookup name names lifecycle looked =>
      exact .uses thread _ (lookupStep_kept thread _ looked).1 (by split_ifs <;> nofun)
  | signal _ lifecycle used | release _ lifecycle used | waited _ lifecycle used =>
      exact .uses thread _ (userStep_kept thread _ used) nofun

theorem requestStep_effect (thread : Nat) (choice : RequestChoice)
    (stepped : requestStep state thread choice = some after) :
    RequestEffect state after thread := by
  cases requestStep_cases stepped with
  | acquire purpose lock here acquired left =>
      rw [Resource.acquireShared_eq_some _ _ _ acquired] at left
      rw [left]
      exact
        { creates := rfl
          links := rfl
          requests := fun _ different => Function.update_of_ne different _ _
          begun := by simp [setRequest]
          kept := ⟨rfl, rfl, rfl, fun _ _ => id, fun _ _ => rfl⟩
          unowned := rfl
          owners := fun call owned => List.mem_cons_of_mem _ owned }
  | release purpose left =>
      rw [left]
      exact
        { creates := rfl
          links := rfl
          requests := fun _ different => Function.update_of_ne different _ _
          begun := by
            simp only [setRequest, Function.update_self]
            cases purpose <;> nofun
          kept := ⟨rfl, rfl, rfl, fun _ _ => id, fun _ _ => rfl⟩
          unowned := rfl
          owners := fun call owned =>
            (List.mem_erase_of_ne fun same => by cases same).mpr owned }
  | lists stepped => exact listStep_effect thread choice stepped
  | removes stepped => exact removeStep_effect thread choice stepped

/-- The lock is held by every running create call all along, and never exclusively. -/
theorem LockInv.step (inv : LockInv state) (action : ControlAction)
    (stepped : controlNext state action = some after) : LockInv after := by
  cases action with
  | lockCreate call props => exact inv.lockCreate call props stepped
  | lifecycle action => exact inv.lifecycle action stepped
  | unlockCreate call => exact inv.unlockCreate call stepped
  | writeOption value =>
      cases stepped
      exact inv.keep rfl (fun _ => id) rfl rfl
  | disallow thread purpose choice =>
      obtain ⟨_, moved⟩ := Option.ite_none_right_eq_some.mp stepped
      cases choice with
      | proceed | fails =>
          cases moved
          exact inv.keep rfl (fun _ => id) rfl rfl
      | unwritten names => cases moved
  | request thread choice =>
      have effect := requestStep_effect thread choice stepped
      exact inv.keep effect.unowned effect.owners effect.creates effect.kept.creators

end Request

end Wnbd.Control
