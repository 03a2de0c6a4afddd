import Wnbd.EndToEnd.MappingSteps
import Wnbd.Dispatch.BufferBounds

/-!
# Late replies

A reply is late when a drain took its request off the submitted list before the
response reached the driver.  The drain freed the element, so the driver answers
`STATUS_NOT_FOUND`, and the reply worker takes the error for a broken connection
and calls `Shutdown(true)`.  A mapping whose responses are all on time keeps
answering its requests.
-/

set_option autoImplicit false

namespace Wnbd.EndToEnd

open Wnbd.Scsi Wnbd.Dispatch Wnbd.Nbd StepSystem MappingState

/-! ## What a late response does -/

theorem wnbdHandleResponse_late (state : MappingState) (command : SendRspCommand)
    (faults : ResponseFaults) (late : state.findSubmitted command.requestHandle = none) :
    wnbdHandleResponse state command faults = (state, statusNotFound) := by
  unfold wnbdHandleResponse
  rw [late]

/-- A late response changes nothing but the worker, which goes on exactly when
the daemon ignores errors. -/
theorem sendResponse_late (state after : MappingState) (command : SendRspCommand)
    (faults : ResponseFaults) (responding : state.worker = .responding command)
    (late : state.findSubmitted command.requestHandle = none)
    (taken : sendResponse state faults = some after) :
    after = { state with worker := after.worker } ∧
      (after.worker = .reading ↔ state.terminateInProgress = true) := by
  unfold sendResponse at taken
  simp only [responding, wnbdHandleResponse_late state command faults late] at taken
  cases taken
  refine ⟨rfl, ?_⟩
  have refused : ntSuccess statusNotFound = false := by decide
  cases terminating : state.terminateInProgress with
  | true => simp
  | false => simp [refused]

/-! ## What a mapping on time does -/

variable {mapping : NbdMapping} {state : MappingState}

abbrev Runs (mapping : NbdMapping) : MappingState → MappingState → Prop :=
  Path (mappingNext mapping) (Punctual mapping)

theorem mappingInv_of_runs {start last : MappingState} (inv : MappingInv mapping start)
    (runs : Runs mapping start last) : MappingInv mapping last :=
  runs.invariant (MappingInv mapping) inv (mappingNext_inv mapping)

theorem findSubmitted_of_mem (inv : MappingInv mapping state) (request : QueuedRequest)
    (member : request ∈ state.submittedReqList) :
    state.findSubmitted request.tag = some request := by
  have present : (state.findSubmitted request.tag).isSome = true :=
    List.find?_isSome.mpr ⟨request, member, beq_iff_eq.mpr rfl⟩
  obtain ⟨found, here⟩ := Option.isSome_iff_exists.mp present
  unfold findSubmitted at here ⊢
  have same : found.tag = request.tag := by simpa using List.find?_some here
  rw [here, List.inj_on_of_nodup_map inv.submittedOnce (List.mem_of_find?_eq_some here) member same]

/-- The response on time completes its request and leaves the others queued. -/
theorem respond_onTime (inv : MappingInv mapping state) (command : SendRspCommand)
    (responding : state.worker = .responding command) (request : QueuedRequest)
    (member : request ∈ state.submittedReqList) (tagged : request.tag = command.requestHandle) :
    ∃ srb, mappingNext mapping state (.respond ⟨0, 0⟩) = some
      { state with
        submittedReqList := state.submittedReqList.eraseP fun other =>
          other.tag == command.requestHandle
        completed := state.completed ++ [⟨request.srbId, srb⟩]
        worker := .reading } := by
  have found : state.findSubmitted command.requestHandle = some request :=
    tagged ▸ findSubmitted_of_mem inv request member
  have success := wnbdHandleResponse_success inv command responding (by rw [found]; rfl)
  have keeps : ntSuccess (wnbdHandleResponse state command ⟨0, 0⟩).2 = true := by
    rw [success]
    decide
  refine ⟨(applyResponse request.range false request.srb command ⟨0, 0⟩).srb, ?_⟩
  simp only [mappingNext, sendResponse, responding]
  rw [if_pos (Or.inl keeps)]
  simp only [wnbdHandleResponse, found, complete]

def withReply (state : MappingState) (header : NbdHeader) (command : SendRspCommand) :
    MappingState :=
  { state with
    wire := state.wire.erase header
    pendingRequests := Function.update state.pendingRequests header.handle none
    worker := .responding command }

theorem receiveReply_onTime (inv : MappingInv mapping state) (reading : state.worker = .reading)
    (header : NbdHeader) (error : UInt32) (onWire : header ∈ state.wire) :
    ∃ command, command.requestHandle = header.handle ∧
      mappingNext mapping state (.reply header error) = some (withReply state header command) := by
  obtain ⟨command, processed, handle, -⟩ := processNbdReply_ok inv header error onWire
  refine ⟨command, handle, ?_⟩
  simp only [mappingNext, receiveReply]
  rw [if_pos ⟨reading, onWire⟩, processed]
  rfl

/-- Whatever the server answers to a submitted request, the driver completes it
and the worker reads on. -/
theorem deliver (inv : MappingInv mapping state) (reading : state.worker = .reading)
    (header : NbdHeader) (error : UInt32) (onWire : header ∈ state.wire)
    (request : QueuedRequest) (member : request ∈ state.submittedReqList)
    (tagged : request.tag = header.handle) :
    ∃ after srb, run (mappingNext mapping) state [.reply header error, .respond ⟨0, 0⟩] =
        some after ∧ Runs mapping state after ∧
      after.completed = state.completed ++ [⟨request.srbId, srb⟩] ∧ after.worker = .reading := by
  obtain ⟨command, handle, received⟩ := receiveReply_onTime inv reading header error onWire
  have replied := receiveReply_inv inv header error received
  have sameTag : request.tag = command.requestHandle := tagged.trans handle.symm
  obtain ⟨srb, answered⟩ := respond_onTime replied command rfl request member sameTag
  have onTime : ((withReply state header command).findSubmitted command.requestHandle).isSome =
      true := by
    rw [← sameTag, findSubmitted_of_mem replied request member]
    rfl
  have ran : run (mappingNext mapping) state [.reply header error, .respond ⟨0, 0⟩] =
      mappingNext mapping (withReply state header command) (.respond ⟨0, 0⟩) := by
    simp only [run, received, Option.bind_some, Option.bind_fun_some]
  have first : Runs mapping state (withReply state header command) :=
    .step (.reply header error) .refl ⟨trivial, trivial⟩ received
  exact ⟨_, srb, ran.trans answered,
    .step (.respond ⟨0, 0⟩) first ⟨rfl, Or.inr onTime⟩ answered, rfl, rfl⟩

theorem forward (inv : MappingInv mapping state) (index : Nat) (handle : UInt64)
    (held : handle ∈ handles state (.dispatcher index)) :
    ∃ after, Runs mapping state after ∧ (∃ header ∈ after.wire, header.handle = handle) ∧
      after.submittedReqList = state.submittedReqList ∧ after.worker = state.worker := by
  have sends : ∀ (start : MappingState) (sent : SentRequest), MappingInv mapping start →
      start.dispatchers index = .sending sent → sent.info.requestHandle = handle →
      ∃ after, Runs mapping start after ∧ (∃ header ∈ after.wire, header.handle = handle) ∧
        after.submittedReqList = start.submittedReqList ∧ after.worker = start.worker := by
    intro start sent holds sending registered
    obtain ⟨-, -, ⟨header, decoded, tagged⟩, -⟩ := holds.sending index sent sending
    have taken : mappingNext mapping start (.send index) = some
        ({ start with wire := start.wire ++ [header] }.setDispatcher index
          (.fetching statusSuccess)) := by
      simp only [mappingNext, sendRequest, sending, decoded, Option.map_some]
    exact ⟨_, .step (.send index) .refl ⟨trivial, trivial⟩ taken,
      ⟨header, List.mem_append_right _ (List.mem_singleton_self header), tagged.trans registered⟩,
      rfl, rfl⟩
  simp only [handles, Option.mem_toList] at held
  cases pc : state.dispatchers index with
  | fetching | removing =>
      rw [pc] at held
      cases held
  | sending sent =>
      rw [pc] at held
      exact sends state sent inv pc (Option.some.inj held)
  | handling request payload =>
      rw [pc] at held
      obtain ⟨-, handled⟩ := inv.handling index request payload pc
      obtain ⟨sent, found, sentFor⟩ := handled fun _ => 0
      have taken : mappingNext mapping state (.register index fun _ => 0) = some
          ({ state with pendingRequests := state.pendingRequests.emplace sent.info
            }.setDispatcher index (.sending sent)) := by
        simp only [mappingNext, registerRequest, pc, found, Option.map_some]
      have first : Runs mapping state _ :=
        .step (.register index fun _ => 0) .refl ⟨trivial, trivial⟩ taken
      obtain ⟨after, runs, onWire, submitted, worker⟩ := sends _ sent
        (registerRequest_inv inv index _ taken) (Function.update_self ..)
        (sentFor.registered.trans (Option.some.inj held))
      exact ⟨after, first.trans runs, onWire, submitted, worker⟩

theorem settle (inv : MappingInv mapping state) (inTime : InTime state (.respond ⟨0, 0⟩)) :
    ∃ after, Runs mapping state after ∧ after.worker = .reading ∧
      ∀ request ∈ state.submittedReqList, request ∈ after.submittedReqList ∨
        ∃ srb, ⟨request.srbId, srb⟩ ∈ after.completed := by
  cases worker : state.worker with
  | reading => exact ⟨state, .refl, worker, fun request member => Or.inl member⟩
  | stopped => exact absurd worker inv.working
  | responding command =>
      cases found : state.findSubmitted command.requestHandle with
      | none =>
          have terminating : state.terminateInProgress = true := by
            simpa [InTime, worker, found] using inTime
          have taken : mappingNext mapping state (.respond ⟨0, 0⟩) =
              some { state with worker := .reading } := by
            simp only [mappingNext, sendResponse, worker,
              wnbdHandleResponse_late state command _ found, terminating, or_true, if_true]
          exact ⟨_, .step (.respond ⟨0, 0⟩) .refl ⟨rfl, inTime⟩ taken, rfl,
            fun request member => Or.inl member⟩
      | some request =>
          have member : request ∈ state.submittedReqList := List.mem_of_find?_eq_some found
          have tagged : request.tag = command.requestHandle := by
            unfold findSubmitted at found
            simpa using List.find?_some found
          obtain ⟨srb, taken⟩ := respond_onTime inv command worker request member tagged
          refine ⟨_, .step (.respond ⟨0, 0⟩) .refl ⟨rfl, inTime⟩ taken, rfl, ?_⟩
          intro other listed
          by_cases same : other.tag = command.requestHandle
          · have equal : other = request := List.inj_on_of_nodup_map inv.submittedOnce listed
              member (same.trans tagged.symm)
            subst equal
            exact Or.inr ⟨srb, List.mem_append_right _ (List.mem_singleton_self _)⟩
          · exact Or.inl ((List.mem_eraseP_of_neg (by simpa using same)).mpr listed)

/-- Every submitted request can still be answered and reported. -/
theorem answer (inv : MappingInv mapping state) (inTime : InTime state (.respond ⟨0, 0⟩))
    (request : QueuedRequest) (member : request ∈ state.submittedReqList) :
    ∃ after, Runs mapping state after ∧ (∃ srb, ⟨request.srbId, srb⟩ ∈ after.completed) ∧
      after.worker = .reading := by
  obtain ⟨settled, runs, reading, kept⟩ := settle inv inTime
  have settledInv := mappingInv_of_runs inv runs
  rcases kept request member with listed | reported
  case inr => exact ⟨settled, runs, reported, reading⟩
  -- The request is with a dispatcher or on the wire: the worker is idle.
  have onWire : ∃ sent, Runs mapping settled sent ∧
      (∃ header ∈ sent.wire, header.handle = request.tag) ∧
      sent.submittedReqList = settled.submittedReqList ∧ sent.worker = settled.worker := by
    obtain ⟨place, placed⟩ := settledInv.onItsWay request listed
    cases place with
    | dispatcher index => exact forward settledInv index request.tag placed
    | wire => exact ⟨settled, .refl, List.mem_map.mp placed, rfl, rfl⟩
    | worker =>
        rw [handles, reading] at placed
        cases placed
  obtain ⟨sent, sends, ⟨header, there, tagged⟩, submitted, worker⟩ := onWire
  obtain ⟨after, srb, -, delivers, completed, reads⟩ := deliver
    (mappingInv_of_runs settledInv sends) (worker.trans reading) header 0 there request
    (by rw [submitted]; exact listed) tagged.symm
  refine ⟨after, (runs.trans sends).trans delivers, ⟨srb, ?_⟩, reads⟩
  rw [completed]
  exact List.mem_append_right _ (List.mem_singleton_self _)

theorem fetch_takes (inv : MappingInv mapping state) (index : Nat) (request : QueuedRequest)
    (rest : List QueuedRequest) (fetching : state.dispatchers index = .fetching statusSuccess)
    (head : state.pendingReqList = request :: rest) :
    ∃ after, mappingNext mapping state (.fetch index ⟨0, 0⟩) = some after ∧
      after.pendingReqList = rest ∧ after.worker = state.worker ∧
      ((∃ submitted ∈ after.submittedReqList, submitted.srbId = request.srbId) ∨
        ∃ srb, ⟨request.srbId, srb⟩ ∈ after.completed) := by
  have fits : Fits request := inv.pendingFits request (by rw [head]; exact List.mem_cons_self)
  simp only [mappingNext, fetching, fetchHead, head]
  rcases fetched_faultless mapping (state.requestHandle + 1) request fits with
    invalid | ⟨payload, submitted⟩
  · rw [invalid]
    exact ⟨_, rfl, rfl, rfl, Or.inr ⟨_, List.mem_append_right _ (List.mem_singleton_self _)⟩⟩
  · rw [submitted]
    exact ⟨_, rfl, rfl, rfl,
      Or.inl ⟨_, List.mem_append_right _ (List.mem_singleton_self _), rfl⟩⟩

/-! ## The mapping keeps serving -/

/-- The worker and the dispatchers run, pending requests are fetched, and every
submitted request is answered and delivered. -/
structure Serving (mapping : NbdMapping) (state : MappingState) : Prop where
  running : state.worker ≠ .stopped
  dispatching : ∀ index, state.dispatchers index ≠ .removing
  fetches : ∀ index status request rest, state.dispatchers index = .fetching status →
    state.pendingReqList = request :: rest →
    ∃ after, mappingNext mapping state (.fetch index ⟨0, 0⟩) = some after ∧
      after.pendingReqList = rest ∧ after.worker = state.worker ∧
      ((∃ submitted ∈ after.submittedReqList, submitted.srbId = request.srbId) ∨
        ∃ srb, ⟨request.srbId, srb⟩ ∈ after.completed)
  answers : InTime state (.respond ⟨0, 0⟩) → ∀ request ∈ state.submittedReqList,
    ∃ after, Runs mapping state after ∧ (∃ srb, ⟨request.srbId, srb⟩ ∈ after.completed) ∧
      after.worker = .reading
  delivers : state.worker = .reading → ∀ header ∈ state.wire, ∀ error : UInt32,
    ∀ request ∈ state.submittedReqList, request.tag = header.handle →
    ∃ after srb, run (mappingNext mapping) state [.reply header error, .respond ⟨0, 0⟩] =
        some after ∧ after.completed = state.completed ++ [⟨request.srbId, srb⟩] ∧
      after.worker = .reading

theorem serving_of_inv (inv : MappingInv mapping state) : Serving mapping state where
  running := inv.working
  dispatching index := (inv.dispatching index).1
  fetches index status request rest fetching head :=
    fetch_takes inv index request rest
      ((inv.dispatching index).2 status fetching ▸ fetching) head
  answers inTime request member := answer inv inTime request member
  delivers reading header onWire error request member tagged := by
    obtain ⟨after, srb, ran, -, completed, reads⟩ :=
      deliver inv reading header error onWire request member tagged
    exact ⟨after, srb, ran, completed, reads⟩

/-- A mapping whose responses are all on time keeps serving.  A late response
leaves everything but the worker as it was, and the worker goes on exactly when
the response counts as on time, that is when the daemon ignores errors. -/
theorem late_reply_harmless (mapping : NbdMapping) :
    (∀ state, Runs mapping .initial state → Serving mapping state) ∧
      ∀ (before after : MappingState) (command : SendRspCommand) (faults : ResponseFaults),
        before.worker = .responding command →
        before.findSubmitted command.requestHandle = none →
        mappingNext mapping before (.respond faults) = some after →
        after = { before with worker := after.worker } ∧
          (after.worker = .reading ↔ InTime before (.respond faults)) := by
  refine ⟨fun state runs =>
    serving_of_inv (mappingInv_of_runs (mappingInv_initial mapping) runs), ?_⟩
  intro before after command faults responding late taken
  obtain ⟨same, goesOn⟩ := sendResponse_late before after command faults responding late taken
  refine ⟨same, goesOn.trans ?_⟩
  simp [InTime, responding, late]

/-! ## A reply to an aborted write -/

def nbdDisk : NbdMapping :=
  { props := { diskProps with flags := { diskProps.flags with persistResSupported := false } }
    noPersistRes := rfl }

/-- A one block write goes to the server, a LUN reset aborts it, and the server
answers. -/
def answeredLate : List MappingAction :=
  [.pend 0 (write10Srb 1 512), .fetch 0 ⟨0, 0⟩, .register 0 fun _ => 0, .send 0, .drainSubmitted,
    .reply { type := nbdCmdWrite, handle := 1, offset := 0, length := 512 } 0]

/-- With errors ignored the disk serves on behind the late response. -/
theorem late_reply_harmless_refused :
    ∃ state, run (mappingNext nbdDisk) .initial
        (.refuseRemoval :: answeredLate ++ [.respond ⟨0, 0⟩]) = some state ∧
      Serving nbdDisk state := by
  have enabled : (run (mappingNext nbdDisk) .initial
      (.refuseRemoval :: answeredLate ++ [.respond ⟨0, 0⟩])).isSome = true := by
    decide +kernel
  have permitted : AllAllowed (mappingNext nbdDisk) (Punctual nbdDisk) .initial
      (.refuseRemoval :: answeredLate ++ [.respond ⟨0, 0⟩]) := by
    decide +kernel
  have ran := (Option.some_get enabled).symm
  exact ⟨_, ran, (late_reply_harmless nbdDisk).1 _ (path_of_run _ _ _ permitted ran)⟩

theorem answeredLate_stops :
    (run (mappingNext nbdDisk) .initial answeredLate).any (fun before =>
      decide (before.worker = .responding ⟨1, zeroStatus, false, 0⟩) &&
        (before.findSubmitted 1).isNone &&
        decide ((mappingNext nbdDisk before (.respond ⟨0, 0⟩)).map (·.worker) =
          some .stopped)) = true := by
  decide +kernel

/-- The response to an aborted write stops the reply worker. -/
theorem late_reply_stops_worker :
    ¬ ∀ (mapping : NbdMapping) (actions : List MappingAction) (before after : MappingState)
        (command : SendRspCommand),
      AllAllowed (mappingNext mapping) (Undisturbed mapping) .initial actions →
      run (mappingNext mapping) .initial actions = some before →
      before.worker = .responding command →
      before.findSubmitted command.requestHandle = none →
      mappingNext mapping before (.respond ⟨0, 0⟩) = some after → after.worker = .reading := by
  intro harmless
  obtain ⟨before, ran, reached⟩ := (Option.any_eq_true _ _).mp answeredLate_stops
  rw [Bool.and_eq_true, Bool.and_eq_true, decide_eq_true_iff, decide_eq_true_iff] at reached
  obtain ⟨⟨responding, late⟩, stops⟩ := reached
  obtain ⟨after, taken, stopped⟩ := Option.map_eq_some_iff.mp stops
  have reading := harmless nbdDisk answeredLate before after _ (by decide +kernel) ran responding
    (Option.isNone_iff_eq_none.mp late) taken
  rw [stopped] at reading
  cases reading

end Wnbd.EndToEnd
