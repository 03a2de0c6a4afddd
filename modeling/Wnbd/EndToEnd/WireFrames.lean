import Wnbd.Dispatch.Payload
import Wnbd.EndToEnd.Asked
import Wnbd.Foundation.Backing

/-!
# Requests on the wire

`DemuxState` with the dispatchers' buffers: a fetch copies the data behind an SRB into the
buffer of the dispatcher, and its handler sends from there.  Each frame that is issued is
the one of an element that was handed out, with its data, and none is sent twice; whatever
fails, is aborted or resized.
-/

set_option autoImplicit false

namespace Wnbd.EndToEnd

open Wnbd.Scsi Wnbd.Dispatch Wnbd.Nbd DaemonState StepSystem TracedBuffer

structure WireState where
  demux : DemuxState
  fetchBuffers : Nat → Memory
  /-- The elements that were submitted, with their tags and the SRBs as they were queued. -/
  handedOut : List QueuedRequest

def WireState.initial : WireState :=
  { demux := .initial
    fetchBuffers := fun _ _ => 0
    handedOut := [] }

def headFetched (mapping : NbdMapping) (state : WireState) (request : QueuedRequest)
    (faults : FetchFaults) : FetchedElement :=
  fetchElement mapping.props dispatcherBufferSize (state.demux.requestHandle + 1) request.range
    request.srb faults

def fetchedInto (mapping : NbdMapping) (state : WireState) (index : Nat) (faults : FetchFaults) :
    Memory :=
  match state.demux.pendingReqList with
  | [] => state.fetchBuffers index
  | request :: _ =>
      match (headFetched mapping state request faults).verdict with
      | .submit payload => payload.write request.memory (state.fetchBuffers index)
      | _ => state.fetchBuffers index

def submits (mapping : NbdMapping) (state : WireState) (faults : FetchFaults) :
    List QueuedRequest :=
  match state.demux.pendingReqList with
  | [] => []
  | request :: _ =>
      match (headFetched mapping state request faults).verdict with
      | .submit _ => [{ request with tag := state.demux.requestHandle + 1 }]
      | _ => []

/-- A handler sends from the buffer of its dispatcher. -/
def WireState.withBuffer (state : WireState) : DemuxAction → DemuxAction
  | .handle index _ => .handle index (state.fetchBuffers index)
  | action => action

def wireNext (mapping : NbdMapping) (state : WireState) (action : DemuxAction) :
    Option WireState :=
  (demuxNext mapping state.demux (state.withBuffer action)).map fun demux =>
    match action with
    | .fetch index faults =>
        { demux
          fetchBuffers := Function.update state.fetchBuffers index
            (fetchedInto mapping state index faults)
          handedOut := state.handedOut ++ submits mapping state faults }
    | _ => { state with demux }

theorem wireNext_demux {mapping : NbdMapping} {state after : WireState} {action : DemuxAction}
    (taken : wireNext mapping state action = some after) :
    demuxNext mapping state.demux (state.withBuffer action) = some after.demux := by
  obtain ⟨demux, moved, rfl⟩ := Option.map_eq_some_iff.mp taken
  rw [moved]
  cases action <;> rfl

/-! ## The frame of an element -/

section

variable {props : WnbdProperties} {srb : Srb} {range : ElementRange}

/-- The queued range is one of whole blocks. -/
theorem accepted_blocks {blockCount : UInt64} (block : props.blockSize = 512)
    (accepted : acceptedRange { props with blockCount } srb = some range) (cdb : Cdb)
    (found : srb.cdb = some cdb)
    (handled : scsiOpToWnbdReqType (cdb.asByte 0) ≠ .persistResIn ∧
      scsiOpToWnbdReqType (cdb.asByte 0) ≠ .persistResOut) :
    range.startingLbn / props.blockSize.toUInt64 * props.blockSize.toUInt64 = range.startingLbn ∧
      range.dataLength / props.blockSize * props.blockSize = range.dataLength := by
  have wide : (512 : UInt32).toUInt64.toNat = 512 := rfl
  have narrow : (512 : UInt32).toNat = 512 := rfl
  have whole : ∀ (address : UInt64) (count : UInt32),
      address * (512 : UInt32).toUInt64 / (512 : UInt32).toUInt64 * (512 : UInt32).toUInt64 =
        address * (512 : UInt32).toUInt64 ∧ count * 512 / 512 * 512 = count * 512 := by
    intro address count
    constructor
    · rw [← UInt64.toNat_inj, UInt64.toNat_mul, UInt64.toNat_div, UInt64.toNat_mul, wide]
      omega
    · rw [← UInt32.toNat_inj, UInt32.toNat_mul, UInt32.toNat_div, UInt32.toNat_mul, narrow]
      omega
  obtain ⟨actual, actualFound, kind⟩ := acceptedRange_cases _ srb range accepted
  cases found.symm.trans actualFound
  rcases kind with ranged | ⟨buffer, unmap⟩ | reserve
  · rw [ranged.queued, block]
    exact whole _ _
  · rw [unmap.queued, block]
    exact whole _ _
  · have opcode := reserve.opcode
    simp only [List.mem_cons, List.not_mem_nil, or_false] at opcode
    rcases opcode with isIn | isOut
    · rw [isIn] at handled
      exact absurd rfl handled.1
    · rw [isOut] at handled
      exact absurd rfl handled.2

theorem written_data (bufferSize : UInt32) (faults : FetchFaults) (payload : FetchPayload)
    (submitted : fetchVerdict props bufferSize range faults .write = .submit payload)
    (source buffer : Memory) :
    (List.range range.dataLength.toNat).map (payload.write source buffer) =
      (List.range range.dataLength.toNat).map source := by
  refine List.map_congr_left fun position inside => ?_
  rw [List.mem_range] at inside
  simp only [fetchVerdict] at submitted
  split_ifs at submitted with large empty
  · rw [empty] at inside
    exact absurd inside (Nat.not_lt_zero position)
  · cases submitted
    have copied : position < 0 + range.dataLength.toNat := by
      omega
    exact if_pos ⟨Nat.zero_le position, copied⟩

theorem fetched_frame (block : props.blockSize = 512) (request : QueuedRequest)
    (admitted : Admitted props request) (bufferSize : UInt32) (tag : UInt64)
    (faults : FetchFaults) (payload : FetchPayload) (buffer : Memory) (call : HandlerCall)
    (submitted : (fetchElement props bufferSize tag request.range request.srb faults).verdict =
      .submit payload)
    (called : handlerCall props
      (fetchElement props bufferSize tag request.range request.srb faults).request payload
      (payload.write request.memory buffer) = some call) :
    (call.sent props.blockSize).frame = elementFrame props { request with tag } := by
  obtain ⟨blockCount, accepted⟩ := admitted
  unfold elementFrame QueuedRequest.kind
  unfold fetchElement at submitted called
  simp only [Srb.setDataTransferLength_cdb] at submitted called
  cases found : request.srb.cdb with
  | none => simp [found] at submitted
  | some cdb =>
      simp only [found] at submitted called
      split at submitted
      case isFalse => cases submitted
      case isTrue valid =>
        rw [if_pos valid] at called
        dsimp only at submitted called
        have blocks := accepted_blocks block accepted cdb found
        unfold validateScsiRequest at valid
        cases kind : scsiOpToWnbdReqType (cdb.asByte 0) with
        | read =>
            rw [kind] at called blocks
            obtain ⟨start, length⟩ := blocks ⟨by decide, by decide⟩
            cases called
            simp only [HandlerCall.sent, nbdDaemonRead, Option.map_some, kind, start, length]
        | write =>
            rw [kind] at called blocks submitted
            obtain ⟨start, length⟩ := blocks ⟨by decide, by decide⟩
            cases called
            simp only [HandlerCall.sent, nbdDaemonWrite, nbdSendWrite, Option.map_some, kind,
              start, length, written_data bufferSize faults payload submitted,
              QueuedRequest.memory]
        | flush =>
            simp only [kind, Bool.and_eq_true] at valid
            rw [kind] at called
            simp only [fetchCommand, handlerCall, valid.2, if_true] at called
            cases called
            simp only [HandlerCall.sent, nbdDaemonFlush, Option.map_some, kind]
        | unmap =>
            simp only [kind, Bool.and_eq_true] at valid
            rw [kind] at called blocks
            simp only [kind, fetchVerdict] at submitted
            split_ifs at submitted
            cases submitted
            obtain ⟨start, length⟩ := blocks ⟨by decide, by decide⟩
            simp only [fetchCommand, handlerCall, valid.2, if_true] at called
            cases called
            simp only [HandlerCall.sent, nbdDaemonUnmap, Option.map_some, kind, start, length]
        | persistResIn | persistResOut =>
            rw [kind] at called
            cases called
        | unknown | disconnect => simp [kind] at valid

end

/-! ## The driver's queue -/

def QueuedRequest.submitted (request : QueuedRequest) : QueuedRequest :=
  { request with srb := request.srb.setDataTransferLength 0 }

def Served (request : QueuedRequest) : Prop :=
  ∃ kind ∈ [WnbdRequestType.read, .write, .flush, .unmap], request.kind = some kind

theorem fetchElement_submittedSrb (props : WnbdProperties) (bufferSize : UInt32) (tag : UInt64)
    (range : ElementRange) (srb : Srb) (faults : FetchFaults) (payload : FetchPayload)
    (submitted : (fetchElement props bufferSize tag range srb faults).verdict = .submit payload) :
    (fetchElement props bufferSize tag range srb faults).srb = srb.setDataTransferLength 0 := by
  unfold fetchElement at submitted ⊢
  simp only [Srb.setDataTransferLength_cdb] at submitted ⊢
  cases found : srb.cdb with
  | none => simp [found] at submitted
  | some cdb =>
      simp only [found] at submitted ⊢
      split at submitted
      case isFalse => cases submitted
      case isTrue valid =>
        rw [if_pos valid]
        dsimp only at submitted ⊢
        rw [submitted]

theorem fetched_served (mapping : NbdMapping) (bufferSize : UInt32) (tag : UInt64)
    (request : QueuedRequest) (faults : FetchFaults) (payload : FetchPayload)
    (submitted : (fetchElement mapping.props bufferSize tag request.range request.srb
      faults).verdict = .submit payload) : Served request := by
  obtain ⟨cdb, found, valid⟩ := submitted_validated _ _ _ _ _ _ _ submitted
  refine ⟨scsiOpToWnbdReqType (cdb.asByte 0), ?_, by rw [QueuedRequest.kind, found]; rfl⟩
  unfold validateScsiRequest at valid
  cases kind : scsiOpToWnbdReqType (cdb.asByte 0) with
  | read | write | flush | unmap => simp
  | persistResIn | persistResOut => simp [kind, mapping.noPersistRes] at valid
  | unknown | disconnect => simp [kind] at valid

def queueAfter (mapping : NbdMapping) (state : DemuxState) : DemuxAction → List QueuedRequest
  | .pend srbId srb => state.pendingReqList ++
      ((acceptedRange (state.props mapping) (srb.setSrbStatus srbStatusAborted)).map fun range =>
        ⟨srbId, 0, range, srb.setSrbStatus srbStatusAborted⟩).toList
  | .fetch _ _ | .abortPending => state.pendingReqList.tail
  | _ => state.pendingReqList

theorem daemonStep_queue {mapping : NbdMapping} {state after : DemuxState} (thread : ThreadId)
    (choice : Choice) (stepped : daemonStep mapping state thread choice = some after) :
    after.pendingReqList = state.pendingReqList := by
  obtain ⟨_, _, rfl⟩ := Option.map_eq_some_iff.mp stepped
  rfl

theorem demuxNext_queue {mapping : NbdMapping} {state after : DemuxState} (action : DemuxAction)
    (taken : demuxNext mapping state action = some after) :
    after.pendingReqList = queueAfter mapping state action := by
  cases demuxNext_cases taken with
  | pend srbId srb range accepted =>
      rw [queueAfter, accepted]
      rfl
  | fetch index faults status _ _ _ fetches =>
      cases fetchPending_cases fetches with
      | submitted request rest _ _ queue | refused request rest _ _ queue =>
          rw [queueAfter, queue]
          rfl
  | handle index buffer request payload call handled _ _ stepped =>
      have kept := daemonStep_queue _ _ stepped
      exact kept
  | daemon thread choice _ _ stepped => exact daemonStep_queue thread choice stepped
  | respond faults code response _ _ stepped =>
      rw [daemonStep_queue _ _ stepped]
      exact (handleResponse_keeps response.command faults).2.1
  | respondPending _ stepped => exact daemonStep_queue _ _ stepped
  | completePending index faults response _ _ _ =>
      exact (handleResponse_keeps response.command faults).2.1
  | abortPending request rest queue =>
      rw [queueAfter, queue]
      rfl
  | diskCreated | serverReads | serverAnswers | fetchElsewhere | abortSubmitted | setDiskSize => rfl

/-- SRBs as Storport gave them to the driver. -/
def offers (requests : List QueuedRequest) : Multiset (Nat × Srb) :=
  ↑(requests.map fun request => (request.srbId, request.srb))

/-- The SRB a step queues; `StartIo` gave it a status first. -/
def pendedSrbs : DemuxAction → Multiset (Nat × Srb)
  | .pend srbId srb => {(srbId, srb.setSrbStatus srbStatusAborted)}
  | _ => 0

theorem offers_append (requests more : List QueuedRequest) :
    offers (requests ++ more) = offers requests + offers more := by
  rw [offers, List.map_append, ← Multiset.coe_add]
  rfl

theorem offers_tail (requests : List QueuedRequest) : offers requests.tail ≤ offers requests :=
  Multiset.coe_le.mpr ((List.tail_sublist requests).map _).subperm

/-- What a fetch hands out it has taken off the queue. -/
theorem offers_submits (mapping : NbdMapping) (state : WireState) (faults : FetchFaults) :
    offers state.demux.pendingReqList.tail + offers (submits mapping state faults) ≤
      offers state.demux.pendingReqList := by
  unfold submits
  cases queue : state.demux.pendingReqList with
  | nil => exact le_refl _
  | cons request rest =>
      have whole : offers (request :: rest) = offers rest + offers [request] := by
        rw [← offers_append]
        exact Multiset.coe_eq_coe.mpr ((List.perm_append_singleton request rest).symm.map _)
      rw [whole, List.tail_cons]
      dsimp only
      split
      · exact le_refl _
      · gcongr
        exact Multiset.zero_le _

theorem wireNext_offers {mapping : NbdMapping} {state after : WireState} (action : DemuxAction)
    (taken : wireNext mapping state action = some after) :
    offers after.demux.pendingReqList + offers after.handedOut ≤
      offers state.demux.pendingReqList + offers state.handedOut + pendedSrbs action := by
  obtain ⟨demux, moved, rfl⟩ := Option.map_eq_some_iff.mp taken
  have queue := demuxNext_queue _ moved
  cases action with
  | fetch index faults =>
      change demux.pendingReqList = state.demux.pendingReqList.tail at queue
      have handed := offers_submits mapping state faults
      dsimp only [pendedSrbs]
      rw [queue, offers_append, add_zero]
      calc offers state.demux.pendingReqList.tail +
            (offers state.handedOut + offers (submits mapping state faults))
          = offers state.demux.pendingReqList.tail + offers (submits mapping state faults) +
            offers state.handedOut := by abel
        _ ≤ offers state.demux.pendingReqList + offers state.handedOut := by gcongr
  | pend srbId srb =>
      change demux.pendingReqList = state.demux.pendingReqList ++ _ at queue
      dsimp only [pendedSrbs]
      rw [queue, offers_append, add_right_comm]
      gcongr
      cases acceptedRange (state.demux.props mapping) (srb.setSrbStatus srbStatusAborted) with
      | none => exact Multiset.zero_le _
      | some range => exact le_refl _
  | abortPending =>
      change demux.pendingReqList = state.demux.pendingReqList.tail at queue
      have fewer := offers_tail state.demux.pendingReqList
      dsimp only [pendedSrbs]
      rw [queue, add_zero]
      gcongr
  | _ =>
      change demux.pendingReqList = state.demux.pendingReqList at queue
      dsimp only [pendedSrbs]
      rw [queue, add_zero]

/-- Each element that is handed out is an SRB of its own. -/
theorem offers_of_run {mapping : NbdMapping} (actions : List DemuxAction)
    (start last : WireState) (ran : run (wireNext mapping) start actions = some last) :
    offers last.demux.pendingReqList + offers last.handedOut ≤
      offers start.demux.pendingReqList + offers start.handedOut +
        (actions.map pendedSrbs).sum := by
  induction actions generalizing start with
  | nil =>
      cases ran
      exact le_self_add
  | cons action rest hypothesis =>
      obtain ⟨after, taken, ranRest⟩ := Option.bind_eq_some_iff.mp ran
      have first := wireNext_offers action taken
      have later := hypothesis after ranRest
      rw [List.map_cons, List.sum_cons, ← add_assoc]
      calc _ ≤ _ := later
        _ ≤ _ := by gcongr

/-! ## Runs -/

def handlingFrame (mapping : NbdMapping) (state : WireState) (index : Nat) :
    Multiset (List UInt8) :=
  match state.demux.dispatchers index with
  | .handling request payload =>
      match handlerCall mapping.props request payload (state.fetchBuffers index) with
      | some call => requestFrames [(call.sent mapping.props.blockSize).frame]
      | none => 0
  | _ => 0

def heldFrames (mapping : NbdMapping) (state : WireState) (thread : ThreadId) :
    Multiset (List UInt8) :=
  (state.demux.daemon.threads thread).waiting +
    match thread with
    | .dispatcher index => handlingFrame mapping state index
    | _ => 0

def handedFrames (mapping : NbdMapping) (state : WireState) : Multiset (List UInt8) :=
  ↑(state.handedOut.map (elementFrame mapping.props))

structure FramesInv (mapping : NbdMapping) (state : WireState) : Prop where
  queued : ∀ request ∈ state.demux.pendingReqList, Admitted mapping.props request
  handed : ∀ request ∈ state.handedOut, Admitted mapping.props request ∧ Served request
  fetched : state.demux.fetched = state.handedOut.map QueuedRequest.submitted
  backed : Backed (heldFrames mapping state) (requestFrames state.demux.daemon.issued)
    (handedFrames mapping state)

theorem framesInv_initial (mapping : NbdMapping) : FramesInv mapping .initial where
  queued _ member := by cases member
  handed _ member := by cases member
  fetched := rfl
  backed := Backed.nothing fun thread => by cases thread <;> rfl

section

variable {mapping : NbdMapping} {state after : WireState}

theorem heldFrames_congr (thread : ThreadId)
    (waiting : after.demux.daemon.threads thread = state.demux.daemon.threads thread)
    (handling : ∀ index, thread = .dispatcher index →
      handlingFrame mapping after index = handlingFrame mapping state index) :
    heldFrames mapping after thread = heldFrames mapping state thread := by
  unfold heldFrames
  rw [waiting]
  cases thread with
  | dispatcher index => exact congrArg _ (handling index rfl)
  | caller | worker | destructor => rfl

theorem handlingFrame_update (pc : DispatcherPc) (index other : Nat) (different : other ≠ index)
    (dispatchers : after.demux.dispatchers = Function.update state.demux.dispatchers index pc)
    (buffers : after.fetchBuffers other = state.fetchBuffers other) :
    handlingFrame mapping after other = handlingFrame mapping state other := by
  simp only [handlingFrame, dispatchers, buffers, Function.update_of_ne different]

theorem FramesInv.same (inv : FramesInv mapping state) (demux : DemuxState)
    (queued : ∀ request ∈ demux.pendingReqList, Admitted mapping.props request)
    (daemon : requestFrames demux.daemon.issued = requestFrames state.demux.daemon.issued)
    (threads : demux.daemon.threads = state.demux.daemon.threads)
    (dispatchers : demux.dispatchers = state.demux.dispatchers)
    (fetched : demux.fetched = state.demux.fetched) :
    FramesInv mapping { state with demux } where
  queued := queued
  handed := inv.handed
  fetched := fetched.trans inv.fetched
  backed := by
    have held : heldFrames mapping { state with demux } = heldFrames mapping state := by
      funext thread
      simp only [heldFrames, handlingFrame, threads, dispatchers]
    rw [held, daemon]
    exact inv.backed

theorem FramesInv.daemonStep (inv : FramesInv mapping state) (thread : ThreadId)
    (choice : Choice) (demux : DemuxState) (starts : choice.starting mapping.props.blockSize = 0)
    (stepped : daemonStep mapping state.demux thread choice = some demux) :
    FramesInv mapping { state with demux } := by
  obtain ⟨daemon, taken, rfl⟩ := Option.map_eq_some_iff.mp stepped
  obtain ⟨others, frames⟩ := threadStep_frames taken
  rw [starts, add_zero] at frames
  refine ⟨inv.queued, inv.handed, inv.fetched, inv.backed.move thread ?_ _ ?_⟩
  · intro other different
    simp only [heldFrames, handlingFrame, others other different]
  · change requestFrames daemon.issued + ((daemon.threads thread).waiting + _) ≤
      requestFrames state.demux.daemon.issued + ((state.demux.daemon.threads thread).waiting + _)
    rw [← add_assoc, ← add_assoc]
    exact add_le_add_left frames _

theorem FramesInv.handle (inv : FramesInv mapping state) (index : Nat) (demux : DemuxState)
    (stepped : handleRequest mapping state.demux index (state.fetchBuffers index) = some demux) :
    FramesInv mapping { state with demux } := by
  unfold handleRequest at stepped
  cases here : state.demux.dispatchers index with
  | fetching | sending | removing => simp [here] at stepped
  | handling request payload =>
      simp only [here] at stepped
      obtain ⟨call, called, rest⟩ := Option.bind_eq_some_iff.mp stepped
      obtain ⟨handled, taken, rfl⟩ := Option.map_eq_some_iff.mp rest
      obtain ⟨daemon, moved, rfl⟩ := Option.map_eq_some_iff.mp taken
      obtain ⟨others, frames⟩ := threadStep_frames moved
      refine ⟨inv.queued, inv.handed, inv.fetched,
        inv.backed.move (.dispatcher index) ?_ _ ?_⟩
      · intro other different
        refine heldFrames_congr other (others other different) ?_
        rintro found rfl
        exact handlingFrame_update _ index found (fun same => different (by rw [same])) rfl rfl
      · have before : handlingFrame mapping state index =
            (Choice.request call).starting mapping.props.blockSize := by
          simp only [handlingFrame, here, called, Choice.starting]
        have now : handlingFrame mapping
            { state with
              demux := { state.demux with daemon }.setDispatcher index (.fetching statusSuccess) }
            index = 0 := by
          simp only [handlingFrame, DemuxState.setDispatcher, Function.update_self]
        change requestFrames daemon.issued + ((daemon.threads (.dispatcher index)).waiting +
          handlingFrame mapping _ index) ≤ requestFrames state.demux.daemon.issued +
            ((state.demux.daemon.threads (.dispatcher index)).waiting +
              handlingFrame mapping state index)
        rw [now, before, add_zero, ← add_assoc]
        exact frames

theorem FramesInv.takes (inv : FramesInv mapping state) (index : Nat) (demux : DemuxState)
    (pc : DispatcherPc) (buffer : Memory) (added : List QueuedRequest)
    (empty : handlingFrame mapping state index = 0)
    (queued : ∀ request ∈ demux.pendingReqList, Admitted mapping.props request)
    (handed : ∀ request ∈ added, Admitted mapping.props request ∧ Served request)
    (fetched : demux.fetched = state.demux.fetched ++ added.map QueuedRequest.submitted)
    (daemon : demux.daemon = state.demux.daemon)
    (dispatchers : demux.dispatchers = Function.update state.demux.dispatchers index pc)
    (own : handlingFrame mapping ⟨demux, Function.update state.fetchBuffers index buffer,
      state.handedOut ++ added⟩ index ≤ ↑(added.map (elementFrame mapping.props))) :
    FramesInv mapping ⟨demux, Function.update state.fetchBuffers index buffer,
      state.handedOut ++ added⟩ := by
  refine ⟨queued, fun request member => ?_, ?_, ?_⟩
  · rcases List.mem_append.mp member with before | now
    · exact inv.handed request before
    · exact handed request now
  · rw [List.map_append, ← inv.fetched]
    exact fetched
  · rw [handedFrames, List.map_append, ← Multiset.coe_add]
    dsimp only
    rw [daemon]
    refine inv.backed.step (.dispatcher index) ?_ _ _ ?_
    · intro thread different
      refine heldFrames_congr thread (by rw [daemon]) ?_
      rintro found rfl
      have elsewhere : found ≠ index := fun same => different (by rw [same])
      exact handlingFrame_update pc index found elsewhere dispatchers
        (Function.update_of_ne elsewhere _ _)
    · rw [add_assoc]
      refine add_le_add_right ?_ _
      change (demux.daemon.threads (.dispatcher index)).waiting + _ ≤
        (state.demux.daemon.threads (.dispatcher index)).waiting + _ + _
      rw [daemon]
      dsimp only
      rw [empty, add_zero]
      exact add_le_add_right own _

/-- The frame of a dispatcher that goes on with what it fetched is that of the element. -/
theorem handlingFrame_fetched (block : mapping.props.blockSize = 512) (request : QueuedRequest)
    (admitted : Admitted mapping.props request) (index : Nat) (faults : FetchFaults)
    (payload : FetchPayload) (status : NtStatus) (demux : DemuxState) (handedOut : List QueuedRequest)
    (submitted : (headFetched mapping state request faults).verdict = .submit payload)
    (dispatchers : demux.dispatchers index =
      if ntSuccess status then .handling (headFetched mapping state request faults).request payload
      else .removing) :
    handlingFrame mapping ⟨demux, Function.update state.fetchBuffers index
        (payload.write request.memory (state.fetchBuffers index)), handedOut⟩ index ≤
      ↑[elementFrame mapping.props { request with tag := state.demux.requestHandle + 1 }] := by
  unfold handlingFrame
  simp only [dispatchers, Function.update_self]
  by_cases success : ntSuccess status = true
  case neg =>
    simp only [success]
    exact Multiset.zero_le _
  case pos =>
    simp only [success, if_true]
    cases called : handlerCall mapping.props (headFetched mapping state request faults).request
        payload (payload.write request.memory (state.fetchBuffers index)) with
    | none => exact Multiset.zero_le _
    | some call =>
        dsimp only
        rw [fetched_frame block request admitted dispatcherBufferSize _ faults payload _ call
          submitted called]
        exact Multiset.coe_le.mpr (List.filter_sublist).subperm

theorem FramesInv.fetch (inv : FramesInv mapping state)
    (block : mapping.props.blockSize = 512) (index : Nat) (status : NtStatus)
    (faults : FetchFaults) (demux : DemuxState)
    (fetching : state.demux.dispatchers index = .fetching status)
    (taken : fetchPending mapping state.demux index status faults = some demux) :
    FramesInv mapping
      { demux
        fetchBuffers := Function.update state.fetchBuffers index
          (fetchedInto mapping state index faults)
        handedOut := state.handedOut ++ submits mapping state faults } := by
  have empty : handlingFrame mapping state index = 0 := by
    simp only [handlingFrame, fetching]
  have remaining : ∀ request rest, state.demux.pendingReqList = request :: rest →
      Admitted mapping.props request ∧ ∀ other ∈ rest, Admitted mapping.props other := by
    intro request rest queue
    refine ⟨inv.queued request (by rw [queue]; exact List.mem_cons_self), fun other member => ?_⟩
    exact inv.queued other (by rw [queue]; exact List.mem_cons_of_mem _ member)
  cases fetchPending_cases taken with
  | submitted request rest element payload queue makes verdict =>
      subst makes
      obtain ⟨admitted, others⟩ := remaining request rest queue
      have handedOver : submits mapping state faults =
          [{ request with tag := state.demux.requestHandle + 1 }] := by
        simp only [submits, queue, headFetched, verdict]
      have buffer : fetchedInto mapping state index faults =
          payload.write request.memory (state.fetchBuffers index) := by
        simp only [fetchedInto, queue, headFetched, verdict]
      rw [handedOver, buffer]
      refine inv.takes index _ _ _ _ empty others ?_ ?_ rfl rfl ?_
      · intro other member
        rw [List.mem_singleton.mp member]
        exact ⟨admitted, fetched_served mapping dispatcherBufferSize _ request faults payload
          verdict⟩
      · have srb := fetchElement_submittedSrb mapping.props dispatcherBufferSize
          (state.demux.requestHandle + 1) request.range request.srb faults payload verdict
        rw [srb]
        rfl
      · exact handlingFrame_fetched block request admitted index faults payload _ _ _ verdict
          (Function.update_self index _ _)
  | refused request rest element pc queue makes verdict goesOn =>
      subst makes
      obtain ⟨_, others⟩ := remaining request rest queue
      have handedOver : submits mapping state faults = [] := by
        simp only [submits, queue, headFetched]
      rw [handedOver]
      refine inv.takes index _ _ _ _ empty others (fun _ member => by cases member)
        (List.append_nil _).symm rfl rfl ?_
      simp only [handlingFrame, DemuxState.setDispatcher, Function.update_self]
      rcases goesOn with ⟨_, rfl⟩ | ⟨_, rfl⟩
      · exact le_refl _
      · exact le_refl _

theorem handleResponse_fetched (demux : DemuxState) (command : SendRspCommand)
    (faults : ResponseFaults) : (handleResponse demux command faults).2.fetched = demux.fetched := by
  unfold handleResponse
  cases demux.findSubmitted command.requestHandle with
  | none => rfl
  | some request =>
      dsimp only
      split <;> rfl

theorem FramesInv.answered (inv : FramesInv mapping state) (command : SendRspCommand)
    (faults : ResponseFaults) :
    FramesInv mapping { state with
      demux := (handleResponse state.demux command faults).2 } := by
  obtain ⟨_, queued, dispatchers, daemon⟩ := @handleResponse_keeps state.demux command faults
  exact inv.same _ (queued ▸ inv.queued) (by rw [daemon]) (by rw [daemon]) dispatchers
    (handleResponse_fetched state.demux command faults)

/-- Every step keeps the invariant, whatever fails. -/
theorem FramesInv.step (inv : FramesInv mapping state) (block : mapping.props.blockSize = 512)
    (action : DemuxAction) (taken : wireNext mapping state action = some after) :
    FramesInv mapping after := by
  obtain ⟨demux, moved, rfl⟩ := Option.map_eq_some_iff.mp taken
  cases action with
  | diskCreated | fetchElsewhere | setDiskSize =>
      cases moved
      exact inv.same _ inv.queued rfl rfl rfl rfl
  | pend srbId srb =>
      obtain ⟨range, accepted, rfl⟩ := Option.map_eq_some_iff.mp moved
      refine inv.same _ (fun request member => ?_) rfl rfl rfl rfl
      rcases List.mem_append.mp member with before | now
      · exact inv.queued request before
      · rw [List.mem_singleton.mp now]
        exact ⟨_, accepted⟩
  | fetch index faults =>
      cases demuxNext_cases moved with
      | fetch _ _ status _ here _ fetches =>
          exact inv.fetch block index status faults demux here fetches
  | handle index buffer => exact inv.handle index demux moved
  | daemon thread choice =>
      obtain ⟨own, stepped⟩ := Option.ite_none_right_eq_some.mp moved
      refine inv.daemonStep thread choice demux ?_ stepped
      cases choice <;> first | rfl | cases own
  | respond faults code =>
      cases demuxNext_cases moved with
      | respond _ _ response _ _ stepped =>
          exact (inv.answered response.command faults).daemonStep .worker _ demux rfl stepped
  | respondPending => exact inv.daemonStep .worker _ demux rfl moved
  | completePending index faults =>
      cases demuxNext_cases moved with
      | completePending _ _ response _ _ delivered =>
          obtain ⟨again, _, rfl⟩ := Option.map_eq_some_iff.mp delivered
          have answered := inv.answered response.command faults
          exact answered.same _ answered.queued rfl rfl rfl rfl
  | serverReads =>
      cases demuxNext_cases moved with
      | serverReads => exact inv.same _ inv.queued rfl rfl rfl rfl
  | serverAnswers index error payload =>
      cases demuxNext_cases moved with
      | serverAnswers => exact inv.same _ inv.queued rfl rfl rfl rfl
  | abortPending =>
      cases demuxNext_cases moved with
      | abortPending request rest queue =>
          refine inv.same _ (fun other member => ?_) rfl rfl rfl rfl
          exact inv.queued other (by rw [queue]; exact List.mem_cons_of_mem request member)
  | abortSubmitted =>
      cases demuxNext_cases moved with
      | abortSubmitted => exact inv.same _ inv.queued rfl rfl rfl rfl

end

/-- What the frames of a run are: those that are issued, but for disconnect requests, are
frames of elements that were handed out, each element's at most once; the elements are
SRBs of the run, each one's at most once; and an element that can represent its SRB has the
frame that the SRB asks for. -/
structure WireIntegrity (mapping : NbdMapping) (actions : List DemuxAction)
    (state : WireState) : Prop where
  frames : (state.demux.daemon.issued.filter fun frame =>
    decide (frame ≠ nbdDisconnectFrame)).Subperm (state.handedOut.map (elementFrame mapping.props))
  srbs : offers state.handedOut ≤ (actions.map pendedSrbs).sum
  asked : ∀ request ∈ state.handedOut, Representable request.srb →
    Asks mapping.props request (elementFrame mapping.props request)

/-- Every run of a created disk, whatever fails, is aborted or resized. -/
theorem wire_integrity (mapping : NbdMapping) (created : geometryAccepted mapping.props = true)
    (actions : List DemuxAction) (state : WireState)
    (ran : run (wireNext mapping) .initial actions = some state) :
    WireIntegrity mapping actions state := by
  have block := ((geometryAccepted_iff mapping.props).mp created).1
  have inv := invariant_of_run (FramesInv mapping)
    (fun _ _ action inv taken => inv.step block action taken) actions _ _
    (framesInv_initial mapping) ran
  refine ⟨Multiset.coe_le.mp inv.backed.spent_le, ?_, fun request member fits => ?_⟩
  · have given := offers_of_run actions .initial state ran
    have none : offers WireState.initial.demux.pendingReqList +
        offers WireState.initial.handedOut = 0 := rfl
    rw [none, zero_add] at given
    exact le_trans (Multiset.le_add_left _ _) given
  · obtain ⟨admitted, served⟩ := inv.handed request member
    exact elementFrame_asks block admitted served fits

/-- Two writes are fetched, and the first is aborted.  The second is sent first and its
connection breaks; the first is issued behind the disconnect request of the shutdown. -/
def brokenWriteRun : List DemuxAction :=
  [.diskCreated, .pend 0 (write10Srb 1 512), .pend 1 (write10Srb 1 512), .fetch 0 ⟨0, 0⟩,
    .fetchElsewhere, .fetch 1 ⟨0, 0⟩, .abortSubmitted, .handle 1 fun _ => 0,
    .handle 0 fun _ => 0,
    .daemon (.dispatcher 1) .proceed, .daemon (.dispatcher 1) (.accepted 10),
    .daemon (.dispatcher 1) .sendFailed, .daemon (.dispatcher 1) .proceed,
    .daemon (.dispatcher 1) .proceed, .daemon (.dispatcher 1) (.removed .removed),
    .daemon (.dispatcher 1) .proceed, .daemon (.dispatcher 1) .proceed,
    .daemon (.dispatcher 1) (.accepted 28), .daemon (.dispatcher 1) .proceed,
    .daemon (.dispatcher 0) .proceed]

theorem wire_integrity_broken : ∃ state,
    run (wireNext nbdDisk) .initial brokenWriteRun = some state ∧
      state.demux.daemon.issued.map List.length = [540, 28, 540] ∧
      WireIntegrity nbdDisk brokenWriteRun state := by
  have ran : (run (wireNext nbdDisk) .initial brokenWriteRun).map
      (fun state => state.demux.daemon.issued.map List.length) = some [540, 28, 540] := by
    decide +kernel
  obtain ⟨state, reached, lengths⟩ := Option.map_eq_some_iff.mp ran
  exact ⟨state, reached, lengths, wire_integrity nbdDisk (by decide) brokenWriteRun state reached⟩

end Wnbd.EndToEnd
