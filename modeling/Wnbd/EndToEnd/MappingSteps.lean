import Wnbd.EndToEnd.MappingInvariant

/-!
# Punctual steps keep the mapping at work

One lemma for each action of the mapping, from `MappingInv` before the step to
`MappingInv` after it.
-/

set_option autoImplicit false

namespace Wnbd.EndToEnd

open Wnbd.Scsi Wnbd.Dispatch Wnbd.Nbd Placement MappingState

variable {mapping : NbdMapping} {state after : MappingState}

/-! ## Fetch -/

/-- With nothing failing and a request that fits, a fetch either submits the
request or finds it invalid. -/
theorem fetched_faultless (mapping : NbdMapping) (tag : UInt64) (request : QueuedRequest)
    (fits : Fits request) :
    (fetchElement mapping.props dispatcherBufferSize tag request.range request.srb ⟨0, 0⟩).verdict =
        .invalid ∨
      ∃ payload, (fetchElement mapping.props dispatcherBufferSize tag request.range request.srb
        ⟨0, 0⟩).verdict = .submit payload := by
  have persist := mapping.noPersistRes
  unfold fetchElement
  simp only [Srb.setDataTransferLength_cdb]
  cases found : request.srb.cdb with
  | none => exact Or.inl rfl
  | some cdb =>
      dsimp only
      split
      case isFalse => exact Or.inl rfl
      case isTrue valid =>
        refine Or.inr ?_
        dsimp only
        unfold validateScsiRequest at valid
        cases kind : scsiOpToWnbdReqType (cdb.asByte 0) with
        | write =>
            have small : ¬ request.range.dataLength > dispatcherBufferSize :=
              UInt32.not_lt.mpr (fits cdb found (Or.inr kind))
            simp only [fetchVerdict]
            rw [if_neg small]
            split
            · exact ⟨_, rfl⟩
            · exact ⟨_, rfl⟩
        | unmap => exact ⟨_, rfl⟩
        | read | flush => exact ⟨_, rfl⟩
        | persistResIn => simp [kind, persist] at valid
        | persistResOut => simp [kind, persist] at valid
        | unknown | disconnect => simp [kind] at valid

theorem submit_status (payload : FetchPayload) :
    ((FetchVerdict.submit payload).status.getD statusSuccess) = statusSuccess := by
  cases payload <;> rfl

/-- The request of a submitted element has its tag and its SRB a CDB. -/
theorem fetched_submit (props : WnbdProperties) (bufferSize : UInt32) (tag : UInt64)
    (range : ElementRange) (srb : Srb) (faults : FetchFaults) (payload : FetchPayload)
    (submitted : (fetchElement props bufferSize tag range srb faults).verdict = .submit payload) :
    (fetchElement props bufferSize tag range srb faults).request.requestHandle = tag ∧
      (fetchElement props bufferSize tag range srb faults).srb.cdb ≠ none := by
  have cdb := (fetchElement_srb props bufferSize tag range srb faults).1
  unfold fetchElement at submitted cdb ⊢
  simp only [Srb.setDataTransferLength_cdb] at submitted cdb ⊢
  cases found : srb.cdb with
  | none => simp [found] at submitted
  | some value =>
      simp only [found] at submitted cdb ⊢
      split at submitted
      case isFalse => cases submitted
      case isTrue valid =>
        rw [if_pos valid] at cdb ⊢
        exact ⟨rfl, by rw [cdb]; exact fun none => by cases none⟩

theorem nextTag_toNat (state : MappingState) (noWrap : state.requestHandle.toNat + 1 < 2 ^ 64) :
    (state.requestHandle + 1).toNat = state.requestHandle.toNat + 1 := by
  rw [UInt64.toNat_add]
  exact Nat.mod_eq_of_lt noWrap

theorem fetchInvalid_inv (inv : MappingInv mapping state) (index : Nat) (request : QueuedRequest)
    (rest : List QueuedRequest) (srb : Srb)
    (here : state.dispatchers index = .fetching statusSuccess)
    (head : state.pendingReqList = request :: rest)
    (noWrap : state.requestHandle.toNat + 1 < 2 ^ 64) :
    MappingInv mapping
      (({ state with pendingReqList := rest, requestHandle := state.requestHandle + 1 }.complete
        request srb).setDispatcher index (.fetching statusSuccess)) := by
  have next := nextTag_toNat state noWrap
  have later : ∀ handle : UInt64, handle.toNat ≤ state.requestHandle.toNat →
      handle.toNat ≤ (state.requestHandle + 1).toNat := fun handle known => by omega
  have dispatchers : Function.update state.dispatchers index (.fetching statusSuccess) =
      state.dispatchers := by
    rw [← here, Function.update_eq_self]
  simp only [setDispatcher, complete, dispatchers]
  exact
    { inv with
      exclusive := inv.exclusive
      placedKnown := fun place handle member => later _ (inv.placedKnown place handle member)
      submittedKnown := fun found member => later _ (inv.submittedKnown found member)
      entriesKnown := fun handle entry => later _ (inv.entriesKnown handle entry)
      onItsWay := inv.onItsWay
      pendingFits := fun found member => inv.pendingFits found
        (by rw [head]; exact List.mem_cons_of_mem _ member) }

theorem fetchSubmit_inv (inv : MappingInv mapping state) (index : Nat) (request : QueuedRequest)
    (rest : List QueuedRequest) (payload : FetchPayload)
    (here : state.dispatchers index = .fetching statusSuccess)
    (head : state.pendingReqList = request :: rest)
    (noWrap : state.requestHandle.toNat + 1 < 2 ^ 64)
    (submitted : (fetchElement mapping.props dispatcherBufferSize (state.requestHandle + 1)
      request.range request.srb ⟨0, 0⟩).verdict = .submit payload) :
    MappingInv mapping
      ({ { state with pendingReqList := rest, requestHandle := state.requestHandle + 1 } with
        submittedReqList := state.submittedReqList ++
          [{ request with
            tag := state.requestHandle + 1
            srb := (fetchElement mapping.props dispatcherBufferSize (state.requestHandle + 1)
              request.range request.srb ⟨0, 0⟩).srb }] }.setDispatcher index
        (.handling (fetchElement mapping.props dispatcherBufferSize (state.requestHandle + 1)
          request.range request.srb ⟨0, 0⟩).request payload)) := by
  have next := nextTag_toNat state noWrap
  have later : ∀ handle : UInt64, handle.toNat ≤ state.requestHandle.toNat →
      handle.toNat ≤ (state.requestHandle + 1).toNat := fun handle known => by omega
  have fits : Fits request := inv.pendingFits request (by rw [head]; exact List.mem_cons_self)
  obtain ⟨tagged, cdb⟩ := fetched_submit mapping.props dispatcherBufferSize _ _ _ _ payload
    submitted
  have sentFor := fetched_sentFor mapping.props dispatcherBufferSize (state.requestHandle + 1)
    request.range request.srb ⟨0, 0⟩ payload mapping.noPersistRes
    (fun cdb found kind => fits cdb found (Or.inl kind)) submitted
  generalize fetchElement mapping.props dispatcherBufferSize (state.requestHandle + 1)
    request.range request.srb ⟨0, 0⟩ = fetched at *
  have unknown : ∀ handle : UInt64, handle.toNat ≤ state.requestHandle.toNat →
      handle ≠ state.requestHandle + 1 := fun handle known same => by
    rw [same] at known
    omega
  have fresh : ∀ place, state.requestHandle + 1 ∉ handles state place := fun place member =>
    unknown _ (inv.placedKnown place _ member) rfl
  have put := puts_dispatcher
    { { state with pendingReqList := rest, requestHandle := state.requestHandle + 1 } with
      submittedReqList := state.submittedReqList ++
        [{ request with tag := state.requestHandle + 1, srb := fetched.srb }] }
    index (.handling fetched.request payload) (state.requestHandle + 1)
    (by rw [show _ = state.dispatchers index from rfl, here]; rfl) (congrArg some tagged)
  refine
    { exclusive := put.exclusive inv.exclusive fresh
      placedKnown := fun place handle member => ?_
      submittedKnown := fun found member => ?_
      entriesKnown := fun handle entry => later _ (inv.entriesKnown handle entry)
      submittedOnce := ?_
      onItsWay := fun found member => ?_
      handling := fun other found payload pc => ?_
      sending := fun other sent pc => ?_
      wireEntry := inv.wireEntry
      entryFits := inv.entryFits
      pendingFits := fun found member => inv.pendingFits found
        (by rw [head]; exact List.mem_cons_of_mem _ member)
      submittedCdb := fun found member => ?_
      working := inv.working
      buffered := inv.buffered
      dispatching := fun other => ⟨fun pc => ?_, fun status pc => ?_⟩ }
  · rcases (put.mem_iff place handle).mp member with ⟨rfl, -⟩ | old
    · exact Nat.le_refl _
    · exact later _ (inv.placedKnown place handle old)
  · rcases List.mem_append.mp member with old | new
    · exact later _ (inv.submittedKnown found old)
    · rw [List.mem_singleton] at new
      rw [new]
      exact Nat.le_refl _
  · rw [show (List.map (fun found : QueuedRequest => found.tag) _) =
      state.submittedReqList.map (·.tag) ++ [state.requestHandle + 1] from List.map_append]
    refine List.nodup_append.mpr ⟨inv.submittedOnce, List.nodup_singleton _, ?_⟩
    intro old oldMember new newMember same
    obtain ⟨found, member, rfl⟩ := List.mem_map.mp oldMember
    rw [List.mem_singleton.mp newMember] at same
    exact unknown _ (inv.submittedKnown found member) same
  · rcases List.mem_append.mp member with old | new
    · obtain ⟨place, found⟩ := inv.onItsWay found old
      exact ⟨place, (put.mem_iff place _).mpr (Or.inr found)⟩
    · rw [List.mem_singleton] at new
      rw [new]
      exact ⟨_, put.mem_target⟩
  · rcases setDispatcher_cases _ index _ other _ pc with ⟨-, same⟩ | ⟨-, old⟩
    · obtain ⟨rfl, rfl⟩ := DispatcherPc.handling.inj same
      rw [tagged]
      refine ⟨?_, sentFor⟩
      by_contra entry
      exact unknown _ (inv.entriesKnown _ entry) rfl
    · exact inv.handling other found payload old
  · rcases setDispatcher_cases _ index _ other _ pc with ⟨-, same⟩ | ⟨-, old⟩
    · cases same
    · exact inv.sending other sent old
  · rcases List.mem_append.mp member with old | new
    · exact inv.submittedCdb found old
    · rw [List.mem_singleton] at new
      rw [new]
      exact cdb
  · rcases setDispatcher_cases _ index _ other _ pc with ⟨-, same⟩ | ⟨-, old⟩
    · cases same
    · exact (inv.dispatching other).1 old
  · rcases setDispatcher_cases _ index _ other _ pc with ⟨-, same⟩ | ⟨-, old⟩
    · cases same
    · exact (inv.dispatching other).2 status old

theorem fetchHead_inv (inv : MappingInv mapping state) (index : Nat)
    (here : state.dispatchers index = .fetching statusSuccess)
    (noWrap : state.requestHandle.toNat + 1 < 2 ^ 64)
    (taken : fetchHead mapping state index statusSuccess ⟨0, 0⟩ = some after) :
    MappingInv mapping after := by
  unfold fetchHead at taken
  cases head : state.pendingReqList with
  | nil => simp [head] at taken
  | cons request rest =>
    have fits : Fits request := inv.pendingFits request (by rw [head]; exact List.mem_cons_self)
    simp only [head] at taken
    rcases fetched_faultless mapping (state.requestHandle + 1) request fits with
      invalid | ⟨payload, submitted⟩
    · simp only [invalid, FetchVerdict.status, Option.getD_none] at taken
      cases taken
      exact fetchInvalid_inv inv index request rest _ here head noWrap
    · have success : ntSuccess statusSuccess = true := by decide
      simp only [submitted, submit_status, success, if_true] at taken
      cases taken
      exact fetchSubmit_inv inv index request rest payload here head noWrap submitted

/-! ## Dispatch -/

theorem registerRequest_inv (inv : MappingInv mapping state) (index : Nat) (buffer : Nat → UInt8)
    (taken : registerRequest mapping state index buffer = some after) :
    MappingInv mapping after := by
  unfold registerRequest at taken
  cases here : state.dispatchers index with
  | fetching | sending | removing => simp [here] at taken
  | handling request payload =>
    simp only [here] at taken
    obtain ⟨noEntry, handled⟩ := inv.handling index request payload here
    obtain ⟨sent, found, sentFor⟩ := handled buffer
    rw [found, Option.map_some] at taken
    cases taken
    have registered := sentFor.registered
    have own : request.requestHandle ∈ handles state (.dispatcher index) := by
      simp [handles, here, DispatcherPc.handle]
    have emplaced : state.pendingRequests.emplace sent.info =
        Function.update state.pendingRequests request.requestHandle (some sent.info) := by
      rw [PendingRequests.emplace, registered, noEntry]
      rfl
    rw [emplaced]
    have same := handles_setDispatcher
      { state with
        pendingRequests := Function.update state.pendingRequests request.requestHandle
          (some sent.info) } index (.sending sent)
      (by rw [show _ = state.dispatchers index from rfl, here]; exact congrArg some registered)
    have keeps : ∀ handle, state.pendingRequests handle ≠ none →
        Function.update state.pendingRequests request.requestHandle (some sent.info) handle ≠
          none := by
      intro handle entry
      by_cases equal : handle = request.requestHandle
      · rw [equal, Function.update_self]
        exact fun none => by cases none
      · rwa [Function.update_of_ne equal]
    refine
      { exclusive := inv.exclusive.transfer (.kept same)
        placedKnown := fun place handle member => ?_
        submittedKnown := inv.submittedKnown
        entriesKnown := fun handle entry => ?_
        submittedOnce := inv.submittedOnce
        onItsWay := fun found member => ?_
        handling := fun other found payload pc => ?_
        sending := fun other found pc => ?_
        wireEntry := fun header member => keeps _ (inv.wireEntry header member)
        entryFits := fun handle info entry => ?_
        pendingFits := inv.pendingFits
        submittedCdb := inv.submittedCdb
        working := inv.working
        buffered := inv.buffered
        dispatching := fun other => ⟨fun pc => ?_, fun status pc => ?_⟩ }
    · rw [same] at member
      exact inv.placedKnown place handle member
    · by_cases equal : handle = request.requestHandle
      · rw [equal]
        exact inv.placedKnown _ _ own
      · refine inv.entriesKnown handle ?_
        simpa [setDispatcher, Function.update_of_ne equal] using entry
    · obtain ⟨place, placed⟩ := inv.onItsWay found member
      exact ⟨place, by rw [same]; exact placed⟩
    · rcases setDispatcher_cases _ index _ other _ pc with ⟨-, equal⟩ | ⟨different, old⟩
      · cases equal
      · obtain ⟨none, handler⟩ := inv.handling other found payload old
        refine ⟨?_, handler⟩
        have apart : found.requestHandle ≠ request.requestHandle := fun equal => by
          have there : request.requestHandle ∈ handles state (.dispatcher other) := by
            simp [handles, show state.dispatchers other = _ from old, DispatcherPc.handle, equal]
          exact different (HandlePlace.dispatcher.inj
            (inv.exclusive.unique _ _ _ there own))
        simpa [setDispatcher, Function.update_of_ne apart] using none
    · rcases setDispatcher_cases _ index _ other _ pc with ⟨-, equal⟩ | ⟨-, old⟩
      · cases equal
        refine ⟨?_, by rw [registered]; exact sentFor⟩
        rw [registered]
        simp [setDispatcher]
      · obtain ⟨entry, framed⟩ := inv.sending other found old
        exact ⟨keeps _ entry, framed⟩
    · by_cases equal : handle = request.requestHandle
      · subst equal
        have value : some sent.info = some info := by simpa [setDispatcher] using entry
        rw [← Option.some.inj value]
        exact sentFor.fits
      · exact inv.entryFits handle info
          (by simpa [setDispatcher, Function.update_of_ne equal] using entry)
    · rcases setDispatcher_cases _ index _ other _ pc with ⟨-, equal⟩ | ⟨-, old⟩
      · cases equal
      · exact (inv.dispatching other).1 old
    · rcases setDispatcher_cases _ index _ other _ pc with ⟨-, equal⟩ | ⟨-, old⟩
      · cases equal
      · exact (inv.dispatching other).2 status old

theorem sendRequest_inv (inv : MappingInv mapping state) (index : Nat)
    (taken : sendRequest state index = some after) : MappingInv mapping after := by
  unfold sendRequest at taken
  cases here : state.dispatchers index with
  | fetching | handling | removing => simp [here] at taken
  | sending sent =>
    simp only [here] at taken
    obtain ⟨entry, -, ⟨header, decoded, tagged⟩, -⟩ := inv.sending index sent here
    rw [decoded, Option.map_some] at taken
    cases taken
    have away := takes_dispatcher state index (.fetching statusSuccess) sent.info.requestHandle
      (by rw [here]; rfl) rfl
    have put : Puts (handles (state.setDispatcher index (.fetching statusSuccess)))
        (handles ({ state with wire := state.wire ++ [header] }.setDispatcher index
          (.fetching statusSuccess))) sent.info.requestHandle .wire :=
      { here := by
          simp only [handles, setDispatcher, List.map_append, List.map_cons, List.map_nil, tagged]
          exact List.perm_append_singleton _ _
        others := fun place other => by cases place <;> first | rfl | exact absurd rfl other }
    have moved : ∀ place handle, handle ∈ handles state place → ∃ place,
        handle ∈ handles ({ state with wire := state.wire ++ [header] }.setDispatcher index
          (.fetching statusSuccess)) place := by
      intro place handle member
      rcases (away.mem_iff place handle).mp member with ⟨rfl, -⟩ | kept
      · exact ⟨.wire, put.mem_target⟩
      · exact ⟨place, (put.mem_iff place handle).mpr (Or.inr kept)⟩
    refine
      { exclusive := inv.exclusive.transfer (.moved _ _ _ _ away put)
        placedKnown := fun place handle member => ?_
        submittedKnown := inv.submittedKnown
        entriesKnown := inv.entriesKnown
        submittedOnce := inv.submittedOnce
        onItsWay := fun found member => ?_
        handling := fun other found payload pc => ?_
        sending := fun other found pc => ?_
        wireEntry := fun found member => ?_
        entryFits := inv.entryFits
        pendingFits := inv.pendingFits
        submittedCdb := inv.submittedCdb
        working := inv.working
        buffered := inv.buffered
        dispatching := fun other => ⟨fun pc => ?_, fun status pc => ?_⟩ }
    · rcases (put.mem_iff place handle).mp member with ⟨rfl, -⟩ | kept
      · exact inv.placedKnown _ _ away.mem_target
      · exact inv.placedKnown place handle ((away.mem_iff place handle).mpr (Or.inr kept))
    · obtain ⟨place, placed⟩ := inv.onItsWay found member
      exact moved place _ placed
    · rcases setDispatcher_cases _ index _ other _ pc with ⟨-, equal⟩ | ⟨-, old⟩
      · cases equal
      · exact inv.handling other found payload old
    · rcases setDispatcher_cases _ index _ other _ pc with ⟨-, equal⟩ | ⟨-, old⟩
      · cases equal
      · exact inv.sending other found old
    · rcases List.mem_append.mp member with old | new
      · exact inv.wireEntry found old
      · rw [List.mem_singleton.mp new, tagged]
        exact entry
    · rcases setDispatcher_cases _ index _ other _ pc with ⟨-, equal⟩ | ⟨-, old⟩
      · cases equal
      · exact (inv.dispatching other).1 old
    · rcases setDispatcher_cases _ index _ other _ pc with ⟨-, equal⟩ | ⟨-, old⟩
      · cases equal
        rfl
      · exact (inv.dispatching other).2 status old

/-! ## Drains -/

theorem drainPending_inv (inv : MappingInv mapping state)
    (taken : drainPending state = some after) : MappingInv mapping after := by
  unfold drainPending at taken
  cases head : state.pendingReqList with
  | nil => simp [head] at taken
  | cons request rest =>
    simp only [head] at taken
    cases taken
    exact
      { inv with
        exclusive := inv.exclusive
        onItsWay := inv.onItsWay
        pendingFits := fun found member => inv.pendingFits found
          (by rw [head]; exact List.mem_cons_of_mem _ member) }

theorem drainSubmitted_inv (inv : MappingInv mapping state)
    (taken : drainSubmitted state = some after) : MappingInv mapping after := by
  unfold drainSubmitted at taken
  cases head : state.submittedReqList with
  | nil => simp [head] at taken
  | cons request rest =>
    simp only [head] at taken
    cases taken
    have member : ∀ found ∈ rest, found ∈ state.submittedReqList := fun found inRest => by
      rw [head]
      exact List.mem_cons_of_mem _ inRest
    have once := inv.submittedOnce
    rw [head, List.map_cons, List.nodup_cons] at once
    exact
      { inv with
        exclusive := inv.exclusive
        placedKnown := inv.placedKnown
        submittedKnown := fun found inRest => inv.submittedKnown found (member found inRest)
        submittedOnce := once.2
        onItsWay := fun found inRest => inv.onItsWay found (member found inRest)
        submittedCdb := fun found inRest => inv.submittedCdb found (member found inRest) }

/-! ## Replies -/

/-- The header of an answered request leaves the wire and its handle with it. -/
theorem takes_wire (state : MappingState) (header : NbdHeader) (member : header ∈ state.wire) :
    Puts (handles { state with wire := state.wire.erase header }) (handles state) header.handle
      .wire where
  here := (List.perm_cons_erase member).map NbdHeader.handle
  others place other := by cases place <;> first | rfl | exact absurd rfl other

theorem puts_worker (state : MappingState) (command : SendRspCommand)
    (reading : state.worker = .reading) :
    Puts (handles state) (handles { state with worker := .responding command })
      command.requestHandle .worker where
  here := by simp [handles, reading, WorkerPc.handle]
  others place other := by cases place <;> first | rfl | exact absurd rfl other

theorem takes_worker (state : MappingState) (command : SendRspCommand)
    (responding : state.worker = .responding command) :
    Puts (handles { state with worker := .reading }) (handles state) command.requestHandle
      .worker where
  here := by simp [handles, responding, WorkerPc.handle]
  others place other := by cases place <;> first | rfl | exact absurd rfl other

theorem processNbdReply_ok (inv : MappingInv mapping state) (header : NbdHeader) (error : UInt32)
    (member : header ∈ state.wire) :
    ∃ command, processNbdReply state.pendingRequests ⟨error, header.handle⟩ =
        (Function.update state.pendingRequests header.handle none, .ok command) ∧
      command.requestHandle = header.handle ∧
      (command.hasBuffer = false → command.dataBufferSize = 0) := by
  obtain ⟨info, entry⟩ := Option.ne_none_iff_exists'.mp (inv.wireEntry header member)
  obtain ⟨command, responded⟩ := nbdResponse_ok info ⟨error, header.handle⟩
    (inv.entryFits header.handle info entry)
  obtain ⟨handle, buffered⟩ := nbdResponse_buffered info _ command responded
  refine ⟨command, ?_, handle, buffered⟩
  simp only [processNbdReply, entry, responded]

theorem receiveReply_inv (inv : MappingInv mapping state) (header : NbdHeader) (error : UInt32)
    (taken : receiveReply state header error = some after) : MappingInv mapping after := by
  unfold receiveReply at taken
  split at taken
  case isFalse => cases taken
  case isTrue enabled =>
    obtain ⟨reading, member⟩ := enabled
    obtain ⟨command, processed, handle, buffered⟩ := processNbdReply_ok inv header error member
    rw [processed] at taken
    cases taken
    have away := takes_wire state header member
    obtain ⟨-, nowhere⟩ := away.exclusive_of_after inv.exclusive
    have put := puts_worker { state with wire := state.wire.erase header } command reading
    rw [handle] at put
    have elsewhere : ∀ other ∈ state.wire.erase header, other.handle ≠ header.handle :=
      fun other found same => nowhere .wire (List.mem_map.mpr ⟨other, found, same⟩)
    have entry : ∀ found, Function.update state.pendingRequests header.handle none found ≠ none →
        state.pendingRequests found ≠ none := by
      intro found present none
      by_cases equal : found = header.handle
      · rw [equal, Function.update_self] at present
        exact present rfl
      · rw [Function.update_of_ne equal] at present
        exact present none
    have kept : ∀ found, found ≠ header.handle → state.pendingRequests found ≠ none →
        Function.update state.pendingRequests header.handle none found ≠ none := by
      intro found different present
      rwa [Function.update_of_ne different]
    refine
      { exclusive := inv.exclusive.transfer (.moved _ _ _ _ away put)
        placedKnown := fun place found placed => ?_
        submittedKnown := inv.submittedKnown
        entriesKnown := fun found present => inv.entriesKnown found (entry found present)
        submittedOnce := inv.submittedOnce
        onItsWay := fun found listed => ?_
        handling := fun index request payload pc => ?_
        sending := fun index sent pc => ?_
        wireEntry := fun other found => ?_
        entryFits := fun found info present => ?_
        pendingFits := inv.pendingFits
        submittedCdb := inv.submittedCdb
        working := fun stopped => by cases stopped
        buffered := fun responding pc => ?_
        dispatching := inv.dispatching }
    · rcases (put.mem_iff place found).mp placed with ⟨rfl, -⟩ | kept
      · exact inv.placedKnown _ _ away.mem_target
      · exact inv.placedKnown place found ((away.mem_iff place found).mpr (Or.inr kept))
    · obtain ⟨place, placed⟩ := inv.onItsWay found listed
      rcases (away.mem_iff place _).mp placed with ⟨same, -⟩ | kept
      · exact ⟨.worker, same ▸ put.mem_target⟩
      · exact ⟨place, (put.mem_iff place _).mpr (Or.inr kept)⟩
    · obtain ⟨none, handler⟩ := inv.handling index request payload pc
      refine ⟨?_, handler⟩
      by_contra present
      exact entry _ present none
    · obtain ⟨present, framed⟩ := inv.sending index sent pc
      refine ⟨?_, framed⟩
      have apart : sent.info.requestHandle ≠ header.handle := fun same => by
        have there : header.handle ∈ handles state (.dispatcher index) := by
          simp [handles, show state.dispatchers index = .sending sent from pc,
            DispatcherPc.handle, same]
        cases inv.exclusive.unique _ _ _ there away.mem_target
      exact kept _ apart present
    · exact kept _ (elsewhere other found) (inv.wireEntry other (List.mem_of_mem_erase found))
    · by_cases equal : found = header.handle
      · subst equal
        simp at present
      · refine inv.entryFits found info ?_
        simpa only [Function.update_of_ne equal] using present
    · cases pc
      exact buffered

/-! ## Responses -/

theorem eraseP_tag (requests : List QueuedRequest) (tag : UInt64)
    (once : (requests.map (·.tag)).Nodup) (found : QueuedRequest)
    (member : found ∈ requests.eraseP fun request => request.tag == tag) :
    found ∈ requests ∧ found.tag ≠ tag := by
  refine ⟨List.mem_of_mem_eraseP member, ?_⟩
  induction requests with
  | nil => cases member
  | cons request rest hypothesis =>
      rw [List.map_cons, List.nodup_cons] at once
      by_cases same : request.tag = tag
      · rw [List.eraseP_cons_of_pos (by simp [same])] at member
        intro equal
        exact once.1 (List.mem_map.mpr ⟨found, member, equal.trans same.symm⟩)
      · rw [List.eraseP_cons_of_neg (by simp [same])] at member
        rcases List.mem_cons.mp member with rfl | inRest
        · exact same
        · exact hypothesis once.2 inRest

theorem wnbdHandleResponse_submitted (inv : MappingInv mapping state) (command : SendRspCommand)
    (faults : ResponseFaults) (found : QueuedRequest)
    (member : found ∈ (wnbdHandleResponse state command faults).1.submittedReqList) :
    found ∈ state.submittedReqList ∧ found.tag ≠ command.requestHandle := by
  unfold wnbdHandleResponse at member
  cases search : state.findSubmitted command.requestHandle with
  | none =>
    rw [search] at member
    refine ⟨member, fun same => ?_⟩
    have absent := List.find?_eq_none.mp search found member
    exact absent (by simp [same])
  | some request =>
    rw [search] at member
    exact eraseP_tag state.submittedReqList command.requestHandle inv.submittedOnce found member

/-- The response to a submitted request succeeds when nothing fails. -/
theorem wnbdHandleResponse_success (inv : MappingInv mapping state) (command : SendRspCommand)
    (responding : state.worker = .responding command)
    (present : (state.findSubmitted command.requestHandle).isSome = true) :
    (wnbdHandleResponse state command ⟨0, 0⟩).2 = statusSuccess := by
  obtain ⟨request, found⟩ := Option.isSome_iff_exists.mp present
  unfold wnbdHandleResponse
  rw [found]
  exact applyResponse_success request.range request.srb command
    (inv.submittedCdb request (List.mem_of_find?_eq_some found))
    (inv.buffered command responding)

theorem wnbdHandleResponse_frame (state : MappingState) (command : SendRspCommand)
    (faults : ResponseFaults) :
    ∃ submittedReqList completed, (wnbdHandleResponse state command faults).1 =
      { state with submittedReqList, completed } := by
  unfold wnbdHandleResponse
  split
  · exact ⟨_, _, rfl⟩
  · exact ⟨_, _, rfl⟩

theorem sendResponse_inv (inv : MappingInv mapping state) (faults : ResponseFaults)
    (permitted : Punctual mapping state (.respond faults))
    (taken : sendResponse state faults = some after) : MappingInv mapping after := by
  unfold sendResponse at taken
  cases responding : state.worker with
  | reading | stopped => simp [responding] at taken
  | responding command =>
    simp only [responding] at taken
    obtain ⟨rfl, inTime⟩ := permitted
    simp only [InTime, responding] at inTime
    have keeps : ntSuccess (wnbdHandleResponse state command ⟨0, 0⟩).2 = true ∨
        state.terminateInProgress = true := by
      rcases inTime with terminating | present
      · exact Or.inr terminating
      · rw [wnbdHandleResponse_success inv command responding present]
        exact Or.inl (by decide)
    have remaining := wnbdHandleResponse_submitted inv command ⟨0, 0⟩
    have sublist : (wnbdHandleResponse state command ⟨0, 0⟩).1.submittedReqList.Sublist
        state.submittedReqList := by
      unfold wnbdHandleResponse
      split
      · exact List.Sublist.refl _
      · exact List.eraseP_sublist
    obtain ⟨submittedReqList, completed, answered⟩ :=
      wnbdHandleResponse_frame state command ⟨0, 0⟩
    rw [if_pos keeps] at taken
    cases taken
    rw [answered] at remaining sublist ⊢
    have away := takes_worker state command responding
    refine
      { inv with
        exclusive := inv.exclusive.transfer (.destroyed _ _ away)
        placedKnown := fun place handle member => inv.placedKnown place handle
          ((away.mem_iff place handle).mpr (Or.inr member))
        submittedKnown := fun found member => inv.submittedKnown found (remaining found member).1
        submittedOnce := inv.submittedOnce.sublist (sublist.map _)
        onItsWay := fun found member => ?_
        submittedCdb := fun found member => inv.submittedCdb found (remaining found member).1
        working := fun stopped => by cases stopped
        buffered := fun command pc => by cases pc }
    obtain ⟨listed, different⟩ := remaining found member
    obtain ⟨place, placed⟩ := inv.onItsWay found listed
    rcases (away.mem_iff place _).mp placed with ⟨same, -⟩ | kept
    · exact absurd same different
    · exact ⟨place, kept⟩

/-! ## Every action -/

theorem pend_inv (inv : MappingInv mapping state) (srbId : Nat) (srb : Srb)
    (permitted : withinMaximum mapping srb = true)
    (taken : mappingNext mapping state (.pend srbId srb) = some after) :
    MappingInv mapping after := by
  obtain ⟨range, accepted, rfl⟩ := Option.map_eq_some_iff.mp taken
  refine
    { inv with
      exclusive := inv.exclusive
      onItsWay := inv.onItsWay
      pendingFits := fun found member => ?_ }
  rcases List.mem_append.mp member with old | new
  · exact inv.pendingFits found old
  · rw [List.mem_singleton] at new
    subst new
    intro cdb hasCdb kind
    have srbCdb : srb.cdb = some cdb := hasCdb
    rw [withinMaximum, srbCdb, accepted] at permitted
    exact (decide_eq_true_iff.mp permitted) kind

theorem fetchElsewhere_inv (inv : MappingInv mapping state)
    (noWrap : state.requestHandle.toNat + 1 < 2 ^ 64) :
    MappingInv mapping { state with requestHandle := state.requestHandle + 1 } := by
  have next := nextTag_toNat state noWrap
  have later : ∀ handle : UInt64, handle.toNat ≤ state.requestHandle.toNat →
      handle.toNat ≤ (state.requestHandle + 1).toNat := by
    intro handle known
    omega
  exact
    { inv with
      exclusive := inv.exclusive
      placedKnown := fun place handle member => later handle (inv.placedKnown place handle member)
      submittedKnown := fun request member => later _ (inv.submittedKnown request member)
      entriesKnown := fun handle entry => later handle (inv.entriesKnown handle entry)
      onItsWay := inv.onItsWay }

theorem mappingNext_inv (mapping : NbdMapping) (state : MappingState) (action : MappingAction)
    (after : MappingState) (permitted : Punctual mapping state action)
    (inv : MappingInv mapping state) (taken : mappingNext mapping state action = some after) :
    MappingInv mapping after := by
  cases action with
  | pend srbId srb => exact pend_inv inv srbId srb permitted.1 taken
  | fetch index faults =>
      obtain ⟨⟨rfl, noWrap⟩, -⟩ := permitted
      simp only [mappingNext] at taken
      cases here : state.dispatchers index with
      | handling | sending | removing => simp [here] at taken
      | fetching status =>
        simp only [here] at taken
        obtain rfl := (inv.dispatching index).2 status here
        exact fetchHead_inv inv index here noWrap taken
  | fetchElsewhere =>
      cases taken
      exact fetchElsewhere_inv inv permitted.1
  | register index buffer => exact registerRequest_inv inv index buffer taken
  | send index => exact sendRequest_inv inv index taken
  | drainPending => exact drainPending_inv inv taken
  | drainSubmitted => exact drainSubmitted_inv inv taken
  | reply header error => exact receiveReply_inv inv header error taken
  | respond faults => exact sendResponse_inv inv faults permitted taken
  | refuseRemoval =>
      cases taken
      exact { inv with exclusive := inv.exclusive, onItsWay := inv.onItsWay }

end Wnbd.EndToEnd
