import Wnbd.Routing.Invariant

/-!
# Every call keeps the invariant

One lemma for each move of the queues, one for each call, and the step of a run.
-/

set_option autoImplicit false

namespace Wnbd.Routing

open Wnbd.Scsi Wnbd.Dispatch Wnbd.Device Wnbd.Adapter AdapterState HashIndex DeviceQueues
  RoutingState

theorem LedgerGrows.write (ledger : SrbLedger) (srb : SrbId) (contents : Srb)
    (reported accepted : List SrbId) (command : contents.cdb = (ledger.srbs srb).cdb) :
    LedgerGrows ledger { ledger with
      srbs := Function.update ledger.srbs srb contents, reported, accepted } where
  issued := Nat.le_refl _
  commands := by
    intro other _
    dsimp only
    by_cases own : other = srb
    · rw [own, Function.update_self, command]
    · rw [Function.update_of_ne own]

theorem LedgerGrows.issue (ledger : SrbLedger) (contents : Srb) (reported accepted : List SrbId) :
    LedgerGrows ledger { ledger with
      srbs := Function.update ledger.srbs ledger.issued contents, issued := ledger.issued + 1,
      reported, accepted } where
  issued := Nat.le_succ _
  commands := by
    intro other old
    exact congrArg Srb.cdb (Function.update_of_ne (Nat.ne_of_lt old) _ _)

section Queues

variable {state after : RoutingState} {device : DeviceId}

/-- What all moves on one device have in common. -/
structure OnDevice (state after : RoutingState) (device : DeviceId) : Prop where
  adapter : after.adapter = state.adapter
  allocated : after.allocated = state.allocated
  ledger : LedgerGrows state.ledger after.ledger
  queues : ∀ other, other ≠ device → after.queues other = state.queues other
  handle : state.requestHandle.toNat ≤ after.requestHandle.toNat

/-- A move that neither submits nor removes a request. -/
theorem RoutingInv.unlogged (inv : RoutingInv state) (member : device ∈ state.adapter.deviceList)
    (on : OnDevice state after device) (history : after.history = state.history)
    (own : QueueInv (after.queues device) after.requestHandle after.ledger)
    (submitted : ∀ tag srb, Submitted (after.queues device) tag srb ↔
      Submitted (state.queues device) tag srb) : RoutingInv after := by
  refine inv.atDevice member ⟨on.adapter, on.allocated, on.ledger, on.queues, on.handle,
    own, ?_, ?_, ?_⟩ fun _ _ _ tag srb => (submitted tag srb).mp
  · intro tag srb
    rw [history, inv.awaits device member, submitted]
  · intro connectionId _ tag srb
    rw [history]
  · intro event logged
    rw [history] at logged
    exact Or.inl logged

theorem RoutingInv.finishPending (inv : RoutingInv state)
    (member : device ∈ state.adapter.deviceList) (on : OnDevice state after device)
    (history : after.history = state.history) (element : ElementId) (rest : List ElementId)
    (head : (state.queues device).pendingReqList = element :: rest)
    (queues : after.queues device = { state.queues device with
      heap := Function.update (state.queues device).heap element none, pendingReqList := rest }) :
    RoutingInv after := by
  obtain ⟨popped, submitted, _⟩ := (inv.queues device).popPending element rest head none
  rw [← queues] at popped submitted
  exact inv.unlogged member on history ((popped.grow on.ledger).raise on.handle) submitted

theorem RoutingInv.finishSubmitted (inv : RoutingInv state)
    (member : device ∈ state.adapter.deviceList) (on : OnDevice state after device)
    (element : ElementId) (listed : element ∈ (state.queues device).submittedReqList)
    (stored : SrbQueueElement) (found : (state.queues device).heap element = some stored)
    (queues : after.queues device = { (state.queues device).unlinkSubmitted element with
      heap := Function.update (state.queues device).heap element none })
    (history : after.history =
      state.history ++ [.removed (state.adapter.connectionIdOf device) stored.tag]) :
    RoutingInv after := by
  obtain ⟨unlinked, submitted⟩ := (inv.queues device).unlink element listed none stored found
  rw [← queues] at unlinked submitted
  obtain ⟨known, srb, held⟩ := (inv.queues device).submitted_holds listed
  obtain rfl : stored = known := Option.some.inj (found.symm.trans held.heap)
  have bound : stored.tag.toNat ≤ state.requestHandle.toNat :=
    (inv.queues device).tags stored.tag srb ⟨element, listed, stored, found, rfl, held.carries⟩
  refine inv.atDevice member ⟨on.adapter, on.allocated, on.ledger, on.queues, on.handle,
    (unlinked.grow on.ledger).raise on.handle, ?_, ?_, ?_⟩ fun _ _ _ tag found isSubmitted =>
      ((submitted tag found).mp isSubmitted).1
  · intro tag found
    rw [history, awaiting_removed, inv.awaits device member, submitted]
    exact and_congr_right fun _ => ⟨fun apart same => apart ⟨rfl, same⟩, fun apart same =>
      apart same.2⟩
  · intro connectionId other tag found
    rw [history, awaiting_removed]
    exact and_iff_left fun same => other same.1
  · intro event logged
    rw [history] at logged
    rcases List.mem_append.mp logged with old | new
    · exact Or.inl old
    · rw [List.mem_singleton.mp new]
      exact Or.inr ⟨rfl, bound.trans on.handle⟩

theorem RoutingInv.submitHead (inv : RoutingInv state)
    (member : device ∈ state.adapter.deviceList) (on : OnDevice state after device)
    (element : ElementId) (rest : List ElementId) (stored : SrbQueueElement) (srb : SrbId)
    (head : (state.queues device).pendingReqList = element :: rest)
    (found : (state.queues device).heap element = some stored) (carries : stored.srb = some srb)
    (noWrap : state.requestHandle.toNat + 1 < 2 ^ 64)
    (userspace : ∀ value, state.adapter.devices device = some value →
      value.properties.flags.useKernelNbd = false)
    (command : (after.ledger.srbs srb).cdb.isSome = true)
    (handle : after.requestHandle = state.requestHandle + 1)
    (queues : after.queues device = DeviceQueues.wnbdSubmittedReqInsert
      { state.queues device with
        heap := Function.update (state.queues device).heap element
          (some { stored with tag := state.requestHandle + 1 })
        pendingReqList := rest } element)
    (history : after.history = state.history ++
      [.submitted (state.adapter.connectionIdOf device) (state.requestHandle + 1) srb]) :
    RoutingInv after := by
  have next : (state.requestHandle + 1).toNat = state.requestHandle.toNat + 1 := by
    rw [UInt64.toNat_add]
    exact Nat.mod_eq_of_lt noWrap
  obtain ⟨popped, poppedSubmitted, unlisted⟩ := (inv.queues device).popPending element rest head
    (some { stored with tag := state.requestHandle + 1 })
  have pending : element ∈ (state.queues device).pendingReqList := by
    rw [head]
    exact List.mem_cons_self
  obtain ⟨known, other, held⟩ := (inv.queues device).pending_holds pending
  obtain rfl : stored = known := Option.some.inj (found.symm.trans held.heap)
  obtain rfl : srb = other := Option.some.inj (carries.symm.trans held.carries)
  have fresh : Holds { state.queues device with
      heap := Function.update (state.queues device).heap element
        (some { stored with tag := state.requestHandle + 1 })
      pendingReqList := rest } after.ledger element
      { stored with tag := state.requestHandle + 1 } srb :=
    ⟨Function.update_self .., held.carries, held.aborted, held.completed,
      lt_of_lt_of_le held.issued on.ledger.issued⟩
  obtain ⟨inserted, submitted⟩ := (popped.grow on.ledger).submit element unlisted _ srb fresh
    (by rw [next]; exact Nat.lt_succ_self _) command
  rw [← queues] at inserted submitted
  rw [← handle] at inserted
  -- No earlier request of the connection has the tag.
  have new : .removed (state.adapter.connectionIdOf device) (state.requestHandle + 1) ∉
      state.history := by
    intro logged
    have bound := (inv.past _ logged).2
    change (state.requestHandle + 1).toNat ≤ _ at bound
    rw [next] at bound
    omega
  refine inv.atDevice member ⟨on.adapter, on.allocated, on.ledger, on.queues, on.handle,
    inserted, ?_, ?_, ?_⟩ fun value known isKernel => ?_
  · intro tag found
    rw [history, awaiting_submitted _ _ _ _ _ _ _ new, inv.awaits device member, submitted,
      poppedSubmitted]
    exact or_congr_right (and_iff_right rfl)
  · intro connectionId other tag found
    rw [history, awaiting_submitted _ _ _ _ _ _ _ new]
    exact or_iff_left fun same => other same.1
  · intro event logged
    rw [history] at logged
    rcases List.mem_append.mp logged with old | isNew
    · exact Or.inl old
    · rw [List.mem_singleton.mp isNew, handle]
      exact Or.inr ⟨rfl, Nat.le_refl _⟩
  · rw [userspace value known] at isKernel
    cases isKernel

theorem RoutingInv.pend (inv : RoutingInv state) (member : device ∈ state.adapter.deviceList)
    (on : OnDevice state after device) (history : after.history = state.history)
    (element : ElementId) (stored : SrbQueueElement) (srb : SrbId)
    (unused : (state.queues device).heap element = none) (carries : stored.srb = some srb)
    (aborted : stored.aborted = false) (completed : stored.completed = false)
    (issued : srb < after.ledger.issued)
    (queues : after.queues device = { state.queues device with
      heap := Function.update (state.queues device).heap element (some stored)
      pendingReqList := (state.queues device).pendingReqList ++ [element] }) :
    RoutingInv after := by
  obtain ⟨pended, submitted⟩ := ((inv.queues device).grow on.ledger).pend element stored srb unused
    carries aborted completed issued
  rw [← queues] at pended submitted
  exact inv.unlogged member on history (pended.raise on.handle) submitted

end Queues

/-! ## The calls -/

section Calls

variable {state after : RoutingState}

theorem finishElement_on (state before : RoutingState) (device : DeviceId) (element : ElementId)
    (silent : Bool) (srb : SrbId) (contents : Srb) (adapter : before.adapter = state.adapter)
    (allocated : before.allocated = state.allocated) (ledger : before.ledger = state.ledger)
    (queues : ∀ other, other ≠ device → before.queues other = state.queues other)
    (handle : state.requestHandle.toNat ≤ before.requestHandle.toNat)
    (command : contents.cdb = (state.ledger.srbs srb).cdb) :
    OnDevice state (finishElement before device element silent srb contents) device := by
  have others : ∀ other, other ≠ device →
      Function.update before.queues device
        { before.queues device with
          heap := Function.update (before.queues device).heap element none } other =
        state.queues other := fun other different =>
    (Function.update_of_ne different _ _).trans (queues other different)
  rw [finishElement]
  split
  case isTrue =>
    refine ⟨adapter, allocated, ?_, others, handle⟩
    change LedgerGrows state.ledger { before.ledger with
      srbs := Function.update before.ledger.srbs srb contents }
    rw [ledger]
    exact LedgerGrows.write state.ledger srb contents _ _ command
  case isFalse =>
    refine ⟨adapter, allocated, ?_, others, handle⟩
    change LedgerGrows state.ledger { before.ledger with
      srbs := Function.update before.ledger.srbs srb contents
      reported := before.ledger.reported ++ [srb] }
    rw [ledger]
    exact LedgerGrows.write state.ledger srb contents _ _ command

theorem finishElement_queues (before : RoutingState) (device : DeviceId) (element : ElementId)
    (silent : Bool) (srb : SrbId) (contents : Srb) :
    (finishElement before device element silent srb contents).queues device =
      { before.queues device with
        heap := Function.update (before.queues device).heap element none } := by
  rw [finishElement]
  dsimp only
  split <;> exact Function.update_self ..

theorem finishElement_history (before : RoutingState) (device : DeviceId) (element : ElementId)
    (silent : Bool) (srb : SrbId) (contents : Srb) :
    (finishElement before device element silent srb contents).history = before.history := by
  rw [finishElement]
  split <;> rfl

theorem finishElement_unlinked (device : DeviceId) (element : ElementId) (silent : Bool)
    (srb : SrbId) (contents : Srb) (event : RoutingEvent) :
    ((finishElement (state.setQueues device ((state.queues device).unlinkSubmitted element)) device
        element silent srb contents).log event).queues device =
      { (state.queues device).unlinkSubmitted element with
        heap := Function.update (state.queues device).heap element none } := by
  have own : (state.setQueues device ((state.queues device).unlinkSubmitted element)).queues
      device = (state.queues device).unlinkSubmitted element := Function.update_self ..
  rw [log, finishElement_queues, own]
  rfl

theorem drainHead_inv (inv : RoutingInv state) (device : DeviceId)
    (member : device ∈ state.adapter.deviceList) (list : DrainedList)
    (taken : drainHead state device (state.adapter.connectionIdOf device) list = some after) :
    RoutingInv after := by
  cases list with
  | pending =>
      rw [drainHead] at taken
      cases head : (state.queues device).pendingReqList with
      | nil => simp [head] at taken
      | cons element rest =>
        simp only [head] at taken
        obtain ⟨stored, found, carried⟩ := Option.bind_eq_some_iff.mp taken
        obtain ⟨srb, carries, rfl⟩ := Option.map_eq_some_iff.mp carried
        have on := finishElement_on state
          (state.setQueues device { state.queues device with pendingReqList := rest }) device
          element stored.completed srb (abortSrb (state.ledger.srbs srb)) rfl rfl rfl
          (fun other different => Function.update_of_ne different _ _) (Nat.le_refl _) rfl
        have own : (state.setQueues device
            { state.queues device with pendingReqList := rest }).queues device =
              { state.queues device with pendingReqList := rest } := Function.update_self ..
        refine inv.finishPending member on (finishElement_history ..) element rest head ?_
        rw [finishElement_queues, own]
  | submitted =>
      rw [drainHead] at taken
      cases head : (state.queues device).submittedReqList with
      | nil => simp [head] at taken
      | cons element rest =>
        simp only [head] at taken
        obtain ⟨stored, found, carried⟩ := Option.bind_eq_some_iff.mp taken
        obtain ⟨srb, carries, rfl⟩ := Option.map_eq_some_iff.mp carried
        have on := finishElement_on state
          (state.setQueues device ((state.queues device).unlinkSubmitted element)) device
          element stored.completed srb (abortSrb (state.ledger.srbs srb)) rfl rfl rfl
          (fun other different => Function.update_of_ne different _ _) (Nat.le_refl _) rfl
        have listed : element ∈ (state.queues device).submittedReqList := by
          rw [head]
          exact List.mem_cons_self
        refine inv.finishSubmitted member
          ⟨on.adapter, on.allocated, on.ledger, on.queues, on.handle⟩ element listed
          stored found (finishElement_unlinked ..) ?_
        exact congrArg (· ++ _) (finishElement_history ..)

/-- Only an element whose SRB has a command is submitted. -/
theorem fetchElement_command (props : WnbdProperties) (bufferSize : UInt32) (tag : UInt64)
    (range : ElementRange) (srb : Srb) (faults : FetchFaults) (payload : FetchPayload)
    (submits : (fetchElement props bufferSize tag range srb faults).verdict = .submit payload) :
    srb.cdb.isSome = true := by
  cases command : srb.cdb with
  | none =>
      have cleared : (srb.setDataTransferLength 0).cdb = none := command
      rw [fetchElement, cleared] at submits
      cases submits
  | some cdb => rfl

theorem fetchHead_inv (inv : RoutingInv state) (device : DeviceId) (value : WnbdDiskDevice)
    (member : device ∈ state.adapter.deviceList)
    (present : state.adapter.devices device = some value)
    (noWrap : state.requestHandle.toNat + 1 < 2 ^ 64)
    (userspace : value.properties.flags.useKernelNbd = false) (bufferSize : UInt32)
    (faults : FetchFaults) (element : ElementId) (rest : List ElementId)
    (head : (state.queues device).pendingReqList = element :: rest)
    (taken : fetchHead state device value bufferSize faults element rest = some after) :
    RoutingInv after := by
  obtain ⟨stored, found, carried⟩ := Option.bind_eq_some_iff.mp taken
  obtain ⟨srb, carries, rfl⟩ := Option.map_eq_some_iff.mp carried
  have next : state.requestHandle.toNat ≤ (state.requestHandle + 1).toNat := by
    rw [UInt64.toNat_add]
    exact (Nat.mod_eq_of_lt noWrap).symm ▸ Nat.le_succ _
  have keeps := (fetchElement_srb value.properties bufferSize (state.requestHandle + 1)
    stored.range (state.ledger.srbs srb) faults).1
  -- The element is off the pending list before the decision about it.
  generalize poppedQueues : ({ state.queues device with
      heap := Function.update (state.queues device).heap element
        (some { stored with tag := state.requestHandle + 1 })
      pendingReqList := rest } : DeviceQueues) = queues
  have own : Function.update state.queues device queues device = queues := Function.update_self ..
  have others : ∀ other, other ≠ device →
      Function.update state.queues device queues other = state.queues other :=
    fun other different => Function.update_of_ne different _ _
  have finished : ∀ contents : Srb, contents.cdb = (state.ledger.srbs srb).cdb →
      RoutingInv (finishElement { state.setQueues device queues with
        requestHandle := state.requestHandle + 1 } device element stored.completed srb contents) := by
    intro contents command
    refine inv.finishPending member (finishElement_on state _ device element _ srb contents rfl rfl rfl
      others next command) (finishElement_history ..) element rest head ?_
    rw [finishElement_queues]
    change { Function.update state.queues device queues device with
      heap := Function.update (Function.update state.queues device queues device).heap element
        none } = _
    rw [own, ← poppedQueues]
    dsimp only
    rw [Function.update_idem]
  dsimp only
  rw [poppedQueues]
  cases verdict : (fetchElement value.properties bufferSize (state.requestHandle + 1) stored.range
      (state.ledger.srbs srb) faults).verdict with
  | submit payload =>
    have command := fetchElement_command _ _ _ _ _ _ _ verdict
    have grows := LedgerGrows.write state.ledger srb _ state.ledger.reported state.ledger.accepted
      keeps
    refine inv.submitHead member ⟨rfl, rfl, grows, ?_, next⟩ element rest stored srb
      head found carries noWrap ?_ ?_ rfl ?_ ?_
    · exact fun other different =>
        (Function.update_of_ne different _ _).trans (others other different)
    · intro known knownPresent
      rw [← Option.some.inj (present.symm.trans knownPresent)]
      exact userspace
    · change (Function.update state.ledger.srbs srb _ srb).cdb.isSome = true
      rw [Function.update_self, keeps]
      exact command
    · refine (Function.update_self ..).trans ?_
      change (Function.update state.queues device queues device).wnbdSubmittedReqInsert element = _
      rw [own, ← poppedQueues]
    · rw [connectionIdOf_eq present]
      rfl
  | invalid | bufferTooSmall | lockFailed | noSrbBuffer => exact finished _ keeps

theorem fetchTurn_inv (inv : RoutingInv state) (connectionId : UInt64)
    (requestorPid bufferSize : UInt32) (faults : FetchFaults)
    (noWrap : state.requestHandle.toNat + 1 < 2 ^ 64)
    (taken : fetchTurn state connectionId requestorPid bufferSize faults = some after) :
    RoutingInv after := by
  rw [fetchTurn] at taken
  cases found : findDevice state.adapter (.connId connectionId) with
  | none =>
    rw [found] at taken
    cases taken
    exact inv
  | some located =>
    obtain ⟨device, value⟩ := located
    simp only [found] at taken
    obtain ⟨member, present, _⟩ := findDevice_sound inv.registry _ device value found
    split_ifs at taken with denied removed
    · cases taken
      exact inv
    · cases taken
      exact inv
    · cases head : (state.queues device).pendingReqList with
      | nil =>
        rw [head] at taken
        cases taken
        exact inv
      | cons element rest =>
        simp only [head] at taken
        refine fetchHead_inv inv device value member present noWrap ?_ bufferSize faults
          element rest head taken
        exact Bool.eq_false_iff.mpr fun isKernel => denied (Or.inr isKernel)

theorem wnbdExecuteScsiFunction_inv (inv : RoutingInv state) (key : LookupKey)
    (element : Option ElementId) (contents : Srb)
    (taken : wnbdExecuteScsiFunction state key element contents = some after) :
    RoutingInv after := by
  have refused : ∀ updated : Srb, RoutingInv
      ((({ state with ledger.issued := state.ledger.issued + 1 } : RoutingState).setSrb
        state.ledger.issued updated).report state.ledger.issued) := fun updated =>
    inv.grow _ (LedgerGrows.issue state.ledger updated _ _)
  rw [wnbdExecuteScsiFunction] at taken
  cases found : findDevice state.adapter key with
  | none =>
    rw [found] at taken
    cases taken
    exact refused _
  | some located =>
    obtain ⟨device, value⟩ := located
    simp only [found] at taken
    obtain ⟨member, _, _⟩ := findDevice_sound inv.registry _ device value found
    split at taken
    case isTrue =>
      cases taken
      exact refused _
    case isFalse =>
      cases pends : wnbdPendOperation value.properties (contents.setSrbStatus srbStatusAborted) with
      | finish status updated =>
        rw [pends] at taken
        cases taken
        exact refused _
      | pend startingLbn dataLength fua =>
        rw [pends] at taken
        cases element with
        | none =>
          cases taken
          exact refused _
        | some element =>
          obtain ⟨unused, same⟩ := Option.ite_none_right_eq_some.mp taken
          cases same
          refine inv.pend member ⟨rfl, rfl, LedgerGrows.issue state.ledger _ _ _, ?_,
            Nat.le_refl _⟩ rfl element
            { srb := some state.ledger.issued
              range := wnbdPendElementRange startingLbn dataLength fua
              tag := 0, aborted := false, completed := false, pooled := false }
            state.ledger.issued unused rfl rfl rfl (Nat.lt_succ_self _) ?_
          · exact fun other different => Function.update_of_ne different _ _
          · exact Function.update_self ..

/-! ## Removals -/

theorem updateDevice_same (adapter : AdapterState) (device : DeviceId)
    (change : WnbdDiskDevice → WnbdDiskDevice)
    (id : ∀ value, (change value).connectionId = value.connectionId)
    (properties : ∀ value, (change value).properties = value.properties) :
    SameDevices adapter (adapter.updateDevice device change) where
  deviceList := rfl
  connIdHashBuckets := rfl
  connectionId := Nat.le_refl _
  devices := by
    intro other _ value stored
    by_cases own : other = device
    · subst own
      refine ⟨change value, ?_, id value, properties value⟩
      rw [AdapterState.updateDevice, AdapterState.setDevice, stored]
      exact Function.update_self ..
    · exact ⟨value, (Function.update_of_ne own _ _).trans stored, rfl, rfl⟩

theorem disconnect_inv (inv : RoutingInv state) (key : LookupKey) (async : Bool) :
    RoutingInv (disconnect state key async) := by
  rw [disconnect]
  cases findDevice state.adapter key with
  | none => exact inv
  | some located =>
    obtain ⟨device, value⟩ := located
    have same := updateDevice_same state.adapter device (fun value =>
      { value with
        hardRemoveDevice := value.hardRemoveDevice || async, deviceRemovalEvent := true })
      (fun _ => rfl) fun _ => rfl
    exact inv.sameDevices _ same _ (Nat.le_refl _)

theorem monitorRundown_inv (inv : RoutingInv state) (device : DeviceId)
    (taken : monitorRundown state device = some after) : RoutingInv after := by
  rw [monitorRundown] at taken
  split_ifs at taken
  cases taken
  have same := updateDevice_same state.adapter device (fun value =>
    { value with
      hardRemoveDevice := true
      deviceRemovalEvent := true
      rundownProtection := value.rundownProtection.startWait }) (fun _ => rfl) fun _ => rfl
  exact inv.sameDevices _ same _ (Nat.le_refl _)

theorem monitorDrain_inv (inv : RoutingInv state) (device : DeviceId) (list : DrainedList)
    (taken : monitorDrain state device list = some after) : RoutingInv after := by
  rw [monitorDrain] at taken
  split_ifs at taken with member
  obtain ⟨value, present, drained⟩ := Option.bind_eq_some_iff.mp taken
  split_ifs at drained
  rw [← connectionIdOf_eq present] at drained
  exact drainHead_inv inv device member list drained

theorem monitorUnlink_inv (inv : RoutingInv state) (device : DeviceId)
    (taken : monitorUnlink state device = some after) : RoutingInv after := by
  rw [monitorUnlink] at taken
  dsimp only at taken
  split_ifs at taken with idle
  obtain ⟨value, present, unlinked⟩ := Option.bind_eq_some_iff.mp taken
  split_ifs at unlinked
  cases unlinked
  refine inv.unlinked _ device ?_ ?_ ?_ ?_ idle.2.2
  · rfl
  · rfl
  · rfl
  · exact fun other different => Function.update_of_ne different _ _

theorem create_inv (inv : RoutingInv state) (props : WnbdProperties) (faults : CreateFaults)
    (noWrap : state.adapter.connectionId.toNat + 1 < 2 ^ 64) :
    RoutingInv { state with
      adapter := (wnbdCreateConnection state.adapter state.allocated props faults).state
      allocated := state.allocated + 1 } := by
  have unlisted : state.allocated ∉ state.adapter.deviceList := fun member =>
    absurd (inv.registry.stored _ member).1 (Nat.lt_irrefl _)
  rcases wnbdCreateConnection_registry state.adapter state.allocated props faults noWrap with
    aside | ⟨value, linked, _⟩
  · exact inv.sameDevices _ (aside.same unlisted) _ (Nat.le_succ _)
  · exact inv.linked _ value linked noWrap

/-! ## Responses -/

theorem applyResponse_command (range : ElementRange) (aborted : Bool) (srb : Srb)
    (command : SendRspCommand) (faults : ResponseFaults) :
    (applyResponse range aborted srb command faults).srb.cdb = srb.cdb := by
  unfold applyResponse
  dsimp only
  split_ifs <;> first | rfl | skip
  all_goals
    rw [reportStatus]
    split <;> simp

end Calls

end Wnbd.Routing
