import Wnbd.EndToEnd.Demux
import Wnbd.EndToEnd.MappingInvariant

/-!
# The way of a request

A handle goes from the fetch to its handler, to the lock of the socket, to the server and
back to the reply worker, and is in one of these places only.  The pipeline is what the
machine holds at each of them; its invariant says what the daemon remembers about a handle
that is under way.
-/

set_option autoImplicit false

namespace Wnbd.EndToEnd

open Wnbd.Scsi Wnbd.Dispatch Wnbd.Nbd Placement

structure Pipeline where
  pendingReqList : List QueuedRequest
  submittedReqList : List QueuedRequest
  fetched : List QueuedRequest
  requestHandle : UInt64
  dispatchers : Nat → DispatcherPc
  /-- The frame that waits for `SendLock`. -/
  waiting : Nat → Option (List UInt8)
  /-- The frames whose header the server has not read. -/
  frames : List (List UInt8)
  outstanding : List NbdHeader
  /-- The replies whose header the worker has not read. -/
  replies : List ServerAnswer
  current : List UInt64
  /-- The handles of all replies so far. -/
  answered : List UInt64
  pendingRequests : PendingRequests

inductive PipelinePlace
  | dispatcher (index : Nat)
  | waiting (index : Nat)
  | transit
  | worker
deriving DecidableEq

def frameHandle (frame : List UInt8) : Option UInt64 := (decodeHeader frame).map (·.handle)

namespace Pipeline

def handles (pipeline : Pipeline) : PipelinePlace → List UInt64
  | .dispatcher index => (pipeline.dispatchers index).handle.toList
  | .waiting index => ((pipeline.waiting index).bind frameHandle).toList
  | .transit => pipeline.frames.filterMap frameHandle ++
      (pipeline.outstanding.map (·.handle) ++ pipeline.replies.map (·.handle))
  | .worker => pipeline.current

end Pipeline

/-- The request type the SRB of a queued request asks for. -/
def QueuedRequest.kind (request : QueuedRequest) : Option WnbdRequestType :=
  request.srb.cdb.map fun cdb => scsiOpToWnbdReqType (cdb.asByte 0)

structure HeaderOf (info : PendingRequestInfo) (header : NbdHeader) : Prop where
  handle : header.handle = info.requestHandle
  reads : isReadHeader header = true ↔ info.requestType = .read
  length : info.requestType = .read → header.length = info.length

def FrameOf (info : PendingRequestInfo) (frame : List UInt8) : Prop :=
  ∃ header, decodeHeader frame = some header ∧ HeaderOf info header ∧
    frame.length = nbdRequestSize + header.payloadLength

theorem FrameOf.handle {info : PendingRequestInfo} {frame : List UInt8}
    (framed : FrameOf info frame) : frameHandle frame = some info.requestHandle := by
  obtain ⟨header, decoded, describes, _⟩ := framed
  rw [frameHandle, decoded, Option.map_some, describes.handle]

/-- The submitted request of an entry. -/
def EntryOf (submittedReqList : List QueuedRequest) (info : PendingRequestInfo) : Prop :=
  ∃ request ∈ submittedReqList, request.tag = info.requestHandle ∧
    request.kind = some info.requestType ∧
      (info.requestType = .read → info.length ≤ preallocatedRBuffSz)

theorem EntryOf.mono {requests others : List QueuedRequest} {info : PendingRequestInfo}
    (entry : EntryOf requests info) (more : ∀ request ∈ requests, request ∈ others) :
    EntryOf others info :=
  entry.imp fun request found => ⟨more request found.1, found.2⟩

/-- A server answers a read with an error or with what the entry asks for. -/
def ReplyOf (info : PendingRequestInfo) (answer : ServerAnswer) : Prop :=
  answer.payload.length =
    if answer.error = 0 ∧ info.requestType = .read then info.length.toNat else 0

structure PipelineInv (mapping : NbdMapping) (pipeline : Pipeline) : Prop where
  exclusive : Exclusive pipeline.handles
  placed : ∀ place handle, handle ∈ pipeline.handles place →
    ∃ request ∈ pipeline.submittedReqList, request.tag = handle
  known : ∀ request ∈ pipeline.fetched, request.tag.toNat ≤ pipeline.requestHandle.toNat
  submittedFetched : ∀ request ∈ pipeline.submittedReqList, request ∈ pipeline.fetched
  fetchedOnce : (pipeline.fetched.map (·.tag)).Nodup
  submittedOnce : (pipeline.submittedReqList.map (·.tag)).Nodup
  submittedKind : ∀ request ∈ pipeline.submittedReqList,
    ∃ kind, request.kind = some kind ∧ kind ≠ .persistResIn
  pendingFits : ∀ request ∈ pipeline.pendingReqList, request.kind = some .read →
    request.range.dataLength ≤ wnbdDefaultMaxTransferLength
  entered : ∀ handle info, pipeline.pendingRequests handle = some info →
    info.requestHandle = handle ∧ EntryOf pipeline.submittedReqList info ∧
      ((∃ index, handle ∈ pipeline.handles (.waiting index)) ∨
        handle ∈ pipeline.handles .transit)
  handling : ∀ index request payload, pipeline.dispatchers index = .handling request payload →
    ∀ buffer, ∃ call, handlerCall mapping.props request payload buffer = some call ∧
      (call.sent mapping.props.blockSize).info.requestHandle = request.requestHandle ∧
      FrameOf (call.sent mapping.props.blockSize).info (call.sent mapping.props.blockSize).frame ∧
      EntryOf pipeline.submittedReqList (call.sent mapping.props.blockSize).info
  waitingEntry : ∀ index frame, pipeline.waiting index = some frame →
    ∃ info, pipeline.pendingRequests info.requestHandle = some info ∧ FrameOf info frame
  frameEntry : ∀ frame ∈ pipeline.frames,
    ∃ info, pipeline.pendingRequests info.requestHandle = some info ∧ FrameOf info frame
  headerEntry : ∀ header ∈ pipeline.outstanding,
    ∃ info, pipeline.pendingRequests header.handle = some info ∧ HeaderOf info header
  replyEntry : ∀ answer ∈ pipeline.replies,
    ∃ info, pipeline.pendingRequests answer.handle = some info ∧ ReplyOf info answer
  answeredKnown : ∀ handle ∈ pipeline.answered, handle.toNat ≤ pipeline.requestHandle.toNat
  answeredOnce : pipeline.answered.Nodup
  /-- An answered request is on its way back, or it is completed. -/
  answeredPast : ∀ handle ∈ pipeline.answered, handle ∈ pipeline.replies.map (·.handle) ∨
    handle ∈ pipeline.current ∨ ∀ request ∈ pipeline.submittedReqList, request.tag ≠ handle

def Pipeline.initial : Pipeline :=
  { pendingReqList := []
    submittedReqList := []
    fetched := []
    requestHandle := 0
    dispatchers := fun _ => .fetching statusSuccess
    waiting := fun _ => none
    frames := []
    outstanding := []
    replies := []
    current := []
    answered := []
    pendingRequests := fun _ => none }

theorem pipelineInv_initial (mapping : NbdMapping) : PipelineInv mapping .initial where
  exclusive := ⟨fun place => by cases place <;> exact List.nodup_nil,
    fun place _ _ member => by cases place <;> cases member⟩
  placed place _ member := by cases place <;> cases member
  known _ member := by cases member
  submittedFetched _ member := by cases member
  fetchedOnce := List.nodup_nil
  submittedOnce := List.nodup_nil
  submittedKind _ member := by cases member
  pendingFits _ member := by cases member
  entered _ _ found := by cases found
  handling _ _ _ here := by cases here
  waitingEntry _ _ here := by cases here
  frameEntry _ member := by cases member
  headerEntry _ member := by cases member
  replyEntry _ member := by cases member
  answeredKnown _ member := by cases member
  answeredOnce := List.nodup_nil
  answeredPast _ member := by cases member

/-! ## Places -/

section Places

variable {before after : Pipeline} {index : Nat} {handle : UInt64}

theorem Pipeline.handles_of_dispatcher
    (dispatchers : ∀ other, other ≠ index → after.dispatchers other = before.dispatchers other)
    (waiting : after.waiting = before.waiting)
    (transit : after.handles .transit = before.handles .transit)
    (current : after.current = before.current) (place : PipelinePlace)
    (different : place ≠ .dispatcher index) : after.handles place = before.handles place := by
  cases place with
  | dispatcher other =>
      simp only [Pipeline.handles, dispatchers other fun same => different (by rw [same])]
  | waiting other => simp only [Pipeline.handles, waiting]
  | transit => exact transit
  | worker => exact current

theorem Pipeline.puts_dispatcher (empty : (before.dispatchers index).handle = none)
    (holds : (after.dispatchers index).handle = some handle)
    (others : ∀ place, place ≠ .dispatcher index → after.handles place = before.handles place) :
    Puts before.handles after.handles handle (.dispatcher index) := by
  refine ⟨?_, others⟩
  simp only [Pipeline.handles, empty, holds, Option.toList_some, Option.toList_none,
    List.Perm.refl]

theorem Pipeline.handles_of_waiting (dispatchers : after.dispatchers = before.dispatchers)
    (waiting : ∀ other, other ≠ index → after.waiting other = before.waiting other)
    (transit : after.handles .transit = before.handles .transit)
    (current : after.current = before.current) (place : PipelinePlace)
    (different : place ≠ .waiting index) : after.handles place = before.handles place := by
  cases place with
  | dispatcher other => simp only [Pipeline.handles, dispatchers]
  | waiting other =>
      simp only [Pipeline.handles, waiting other fun same => different (by rw [same])]
  | transit => exact transit
  | worker => exact current

theorem Pipeline.puts_waiting {frame : List UInt8} (empty : before.waiting index = none)
    (waits : after.waiting index = some frame) (framed : frameHandle frame = some handle)
    (others : ∀ place, place ≠ .waiting index → after.handles place = before.handles place) :
    Puts before.handles after.handles handle (.waiting index) := by
  refine ⟨?_, others⟩
  simp only [Pipeline.handles, empty, waits, Option.bind_some, Option.bind_none, framed,
    Option.toList_some, Option.toList_none, List.Perm.refl]

/-- A dispatcher that had no request goes on, perhaps with a new one. -/
theorem Pipeline.dispatcher_takes (exclusive : Exclusive before.handles)
    (empty : (before.dispatchers index).handle = none)
    (takes : (after.dispatchers index).handle = none ∨
      (after.dispatchers index).handle = some handle)
    (others : ∀ place, place ≠ .dispatcher index → after.handles place = before.handles place)
    (fresh : ∀ place, handle ∉ before.handles place) :
    Exclusive after.handles ∧ ∀ place found, found ∈ after.handles place →
      found ∈ before.handles place ∨ found = handle := by
  rcases takes with none | some
  · have same : ∀ place, after.handles place = before.handles place := by
      intro place
      by_cases here : place = .dispatcher index
      · rw [here]
        simp only [Pipeline.handles, empty, none]
      · exact others place here
    exact ⟨exclusive.transfer (.kept same), fun place found member =>
      Or.inl (same place ▸ member)⟩
  · have put := Pipeline.puts_dispatcher empty some others
    refine ⟨put.exclusive exclusive fresh, fun place found member => ?_⟩
    rcases (put.mem_iff place found).mp member with ⟨same, _⟩ | old
    · exact Or.inr same
    · exact Or.inl old

end Places

section Moves

variable {mapping : NbdMapping} {pipeline : Pipeline}

theorem nodup_tags_append {requests : List QueuedRequest} {request : QueuedRequest}
    (once : (requests.map (·.tag)).Nodup) (new : ∀ found ∈ requests, found.tag ≠ request.tag) :
    ((requests ++ [request]).map (·.tag)).Nodup := by
  rw [List.map_append, List.map_singleton]
  refine once.append (List.nodup_singleton _) (List.disjoint_singleton.mpr fun member => ?_)
  obtain ⟨found, listed, same⟩ := List.mem_map.mp member
  exact new found listed same

/-- A handle that its handler or the worker holds has no entry. -/
theorem PipelineInv.no_entry (inv : PipelineInv mapping pipeline) {place : PipelinePlace}
    {handle : UInt64} (member : handle ∈ pipeline.handles place)
    (notWaiting : ∀ index, place ≠ .waiting index) (notTransit : place ≠ .transit) :
    pipeline.pendingRequests handle = none := by
  cases found : pipeline.pendingRequests handle with
  | none => rfl
  | some info =>
      obtain ⟨_, _, ⟨index, waits⟩ | transit⟩ := inv.entered handle info found
      · exact absurd (inv.exclusive.unique _ _ _ member waits) (notWaiting index)
      · exact absurd (inv.exclusive.unique _ _ _ member transit) notTransit

/-! ## The driver's queues -/

theorem PipelineInv.pend (inv : PipelineInv mapping pipeline) (request : QueuedRequest)
    (fits : request.kind = some .read → request.range.dataLength ≤ wnbdDefaultMaxTransferLength) :
    PipelineInv mapping
      { pipeline with pendingReqList := pipeline.pendingReqList ++ [request] } :=
  { inv with
    exclusive := inv.exclusive
    placed := inv.placed
    entered := inv.entered
    pendingFits := by
      intro found member
      rcases List.mem_append.mp member with old | new
      · exact inv.pendingFits found old
      · rw [List.mem_singleton.mp new]
        exact fits }

theorem PipelineInv.drop (inv : PipelineInv mapping pipeline) (request : QueuedRequest)
    (rest : List QueuedRequest) (head : pipeline.pendingReqList = request :: rest)
    (index : Nat) (pc : DispatcherPc) (before : (pipeline.dispatchers index).handle = none)
    (empty : pc.handle = none) (noWrap : pipeline.requestHandle.toNat + 1 < 2 ^ 64) :
    PipelineInv mapping
      { pipeline with
        pendingReqList := rest
        requestHandle := pipeline.requestHandle + 1
        dispatchers := Function.update pipeline.dispatchers index pc } := by
  have next : (pipeline.requestHandle + 1).toNat = pipeline.requestHandle.toNat + 1 := by
    rw [UInt64.toNat_add]
    exact Nat.mod_eq_of_lt noWrap
  have same : ∀ place, Pipeline.handles
      { pipeline with
        pendingReqList := rest
        requestHandle := pipeline.requestHandle + 1
        dispatchers := Function.update pipeline.dispatchers index pc } place =
      pipeline.handles place := by
    intro place
    by_cases own : place = .dispatcher index
    · rw [own]
      simp only [Pipeline.handles, Function.update_self, empty, before]
    · refine Pipeline.handles_of_dispatcher (fun other different => ?_) ?_ ?_ ?_ place own
      · exact Function.update_of_ne different _ _
      all_goals rfl
  refine
    { inv with
      exclusive := inv.exclusive.transfer (.kept same)
      placed := fun place handle member => inv.placed place handle (same place ▸ member)
      known := fun found member => ?_
      entered := inv.entered
      pendingFits := fun found member => inv.pendingFits found
        (by rw [head]; exact List.mem_cons_of_mem _ member)
      handling := fun found request payload here => ?_
      answeredKnown := fun handle member => ?_ }
  · have old := inv.known found member
    dsimp only
    omega
  · dsimp only at here
    by_cases own : found = index
    · rw [own, Function.update_self] at here
      rw [here] at empty
      cases empty
    · rw [Function.update_of_ne own] at here
      exact inv.handling found request payload here
  · have old := inv.answeredKnown handle member
    dsimp only
    omega

theorem PipelineInv.fetch (inv : PipelineInv mapping pipeline) (rest : List QueuedRequest)
    (shrinks : ∀ found ∈ rest, found ∈ pipeline.pendingReqList)
    (submitted : QueuedRequest) (index : Nat) (pc : DispatcherPc)
    (before : (pipeline.dispatchers index).handle = none)
    (noWrap : pipeline.requestHandle.toNat + 1 < 2 ^ 64)
    (tag : submitted.tag = pipeline.requestHandle + 1)
    (kind : ∃ kind, submitted.kind = some kind ∧ kind ≠ .persistResIn)
    (handles : pc.handle = none ∨ pc.handle = some submitted.tag)
    (handling : ∀ request payload, pc = .handling request payload → ∀ buffer, ∃ call,
      handlerCall mapping.props request payload buffer = some call ∧
      (call.sent mapping.props.blockSize).info.requestHandle = request.requestHandle ∧
      FrameOf (call.sent mapping.props.blockSize).info (call.sent mapping.props.blockSize).frame ∧
      EntryOf [submitted] (call.sent mapping.props.blockSize).info) :
    PipelineInv mapping
      { pipeline with
        pendingReqList := rest
        requestHandle := pipeline.requestHandle + 1
        submittedReqList := pipeline.submittedReqList ++ [submitted]
        fetched := pipeline.fetched ++ [submitted]
        dispatchers := Function.update pipeline.dispatchers index pc } := by
  have next : (pipeline.requestHandle + 1).toNat = pipeline.requestHandle.toNat + 1 := by
    rw [UInt64.toNat_add]
    exact Nat.mod_eq_of_lt noWrap
  -- The new tag is above all that were given out.
  have newTag : ∀ request ∈ pipeline.fetched, request.tag ≠ submitted.tag := by
    intro request member same
    have old := inv.known request member
    rw [same, tag, next] at old
    omega
  have fresh : ∀ place, submitted.tag ∉ pipeline.handles place := by
    intro place member
    obtain ⟨request, found, same⟩ := inv.placed place _ member
    exact newTag request (inv.submittedFetched request found) same
  generalize extended : ({ pipeline with
      pendingReqList := rest
      requestHandle := pipeline.requestHandle + 1
      submittedReqList := pipeline.submittedReqList ++ [submitted]
      fetched := pipeline.fetched ++ [submitted]
      dispatchers := Function.update pipeline.dispatchers index pc } : Pipeline) = after
  obtain ⟨exclusive, placed⟩ : Exclusive after.handles ∧ ∀ place handle,
      handle ∈ after.handles place → handle ∈ pipeline.handles place ∨ handle = submitted.tag := by
    subst extended
    exact Pipeline.dispatcher_takes inv.exclusive before (by simpa only [Function.update_self] using handles)
      (Pipeline.handles_of_dispatcher (fun _ different => Function.update_of_ne different _ _) rfl rfl rfl)
      fresh
  have entries : ∀ info, EntryOf pipeline.submittedReqList info →
      EntryOf (pipeline.submittedReqList ++ [submitted]) info := fun info entry =>
    entry.mono fun request => List.mem_append_left _
  subst extended
  refine
    { inv with
      exclusive := exclusive
      placed := fun place handle member => ?_
      known := fun found member => ?_
      submittedFetched := fun found member => ?_
      fetchedOnce := nodup_tags_append inv.fetchedOnce newTag
      submittedOnce := nodup_tags_append inv.submittedOnce fun request member =>
        newTag request (inv.submittedFetched request member)
      submittedKind := fun found member => ?_
      pendingFits := fun found member => inv.pendingFits found (shrinks found member)
      entered := fun handle info found => ?_
      handling := fun found request payload here => ?_
      answeredKnown := fun handle member => ?_
      answeredPast := fun handle member => ?_ }
  · rcases placed place handle member with old | rfl
    · obtain ⟨request, found, tagged⟩ := inv.placed place handle old
      exact ⟨request, List.mem_append_left _ found, tagged⟩
    · exact ⟨submitted, List.mem_append_right _ (List.mem_singleton.mpr rfl), rfl⟩
  · dsimp only
    rcases List.mem_append.mp member with old | new
    · have bound := inv.known found old
      omega
    · rw [List.mem_singleton.mp new, tag]
  · rcases List.mem_append.mp member with old | new
    · exact List.mem_append_left _ (inv.submittedFetched found old)
    · exact List.mem_append_right _ new
  · rcases List.mem_append.mp member with old | new
    · exact inv.submittedKind found old
    · rw [List.mem_singleton.mp new]
      exact kind
  · obtain ⟨registered, entry, place⟩ := inv.entered handle info found
    exact ⟨registered, entries info entry, place⟩
  · dsimp only at here
    by_cases own : found = index
    · rw [own, Function.update_self] at here
      intro buffer
      obtain ⟨call, handled, registered, framed, entry⟩ := handling request payload here buffer
      exact ⟨call, handled, registered, framed, entry.mono fun request => List.mem_append_right _⟩
    · rw [Function.update_of_ne own] at here
      intro buffer
      obtain ⟨call, handled, registered, framed, entry⟩ :=
        inv.handling found request payload here buffer
      exact ⟨call, handled, registered, framed, entries _ entry⟩
  · have old := inv.answeredKnown handle member
    dsimp only
    omega
  · refine (inv.answeredPast handle member).imp id (Or.imp id fun completed request listed => ?_)
    rcases List.mem_append.mp listed with old | new
    · exact completed request old
    · rintro rfl
      have old := inv.answeredKnown _ member
      rw [List.mem_singleton.mp new, tag, next] at old
      omega

/-! ## The daemon and the server -/

theorem PipelineInv.enter (inv : PipelineInv mapping pipeline) (index : Nat)
    (request : WnbdIoRequest) (payload : FetchPayload) (buffer : Nat → UInt8) (call : HandlerCall)
    (here : pipeline.dispatchers index = .handling request payload)
    (handled : handlerCall mapping.props request payload buffer = some call)
    (free : pipeline.waiting index = none) :
    PipelineInv mapping
      { pipeline with
        dispatchers := Function.update pipeline.dispatchers index (.fetching statusSuccess)
        waiting := Function.update pipeline.waiting index
          (some (call.sent mapping.props.blockSize).frame)
        pendingRequests := pipeline.pendingRequests.emplace
          (call.sent mapping.props.blockSize).info } := by
  obtain ⟨known, same, registered, framed, entry⟩ := inv.handling index request payload here buffer
  obtain rfl : call = known := Option.some.inj (handled.symm.trans same)
  generalize call.sent mapping.props.blockSize = sent at registered framed entry ⊢
  have held : request.requestHandle ∈ pipeline.handles (.dispatcher index) := by
    rw [Pipeline.handles, here]
    exact List.mem_singleton.mpr rfl
  have unused := inv.no_entry held (fun _ => PipelinePlace.noConfusion) PipelinePlace.noConfusion
  have emplaced : pipeline.pendingRequests.emplace sent.info =
      Function.update pipeline.pendingRequests request.requestHandle (some sent.info) := by
    rw [PendingRequests.emplace, registered, unused]
    rfl
  rw [emplaced]
  have keeps : ∀ handle info, pipeline.pendingRequests handle = some info →
      Function.update pipeline.pendingRequests request.requestHandle (some sent.info) handle =
        some info := by
    intro handle info found
    have apart : handle ≠ request.requestHandle := by
      rintro rfl
      rw [unused] at found
      cases found
    rw [Function.update_of_ne apart, found]
  have new : Function.update pipeline.pendingRequests request.requestHandle (some sent.info)
      sent.info.requestHandle = some sent.info := by
    rw [registered, Function.update_self]
  generalize moved : ({ pipeline with
      dispatchers := Function.update pipeline.dispatchers index (.fetching statusSuccess)
      waiting := Function.update pipeline.waiting index (some sent.frame)
      pendingRequests := Function.update pipeline.pendingRequests request.requestHandle
        (some sent.info) } : Pipeline) = after
  have taken : Puts (Pipeline.handles { pipeline with
      dispatchers := Function.update pipeline.dispatchers index (.fetching statusSuccess) })
      pipeline.handles request.requestHandle (.dispatcher index) :=
    Pipeline.puts_dispatcher (congrArg _ (Function.update_self ..)) (congrArg _ here)
      (Pipeline.handles_of_dispatcher (fun _ different => (Function.update_of_ne different _ _).symm) rfl
        rfl rfl)
  have put : Puts (Pipeline.handles { pipeline with
      dispatchers := Function.update pipeline.dispatchers index (.fetching statusSuccess) })
      after.handles request.requestHandle (.waiting index) := by
    subst moved
    exact Pipeline.puts_waiting free (Function.update_self ..) (framed.handle.trans (congrArg _ registered))
      (Pipeline.handles_of_waiting rfl (fun _ different => Function.update_of_ne different _ _) rfl rfl)
  have before := taken.mem_moved put
  have later : ∀ place handle, handle ∈ pipeline.handles place →
      (∀ found, place ≠ .dispatcher found) → handle ∈ after.handles place :=
    fun place handle member notHeld => (taken.mem_kept put place handle member).resolve_left
      fun moved => notHeld index moved.2
  have exclusive := inv.exclusive.transfer (.moved _ _ _ _ taken put)
  have target := put.mem_target
  subst moved
  refine
    { inv with
      exclusive := exclusive
      placed := fun place handle member => ?_
      entered := fun handle info found => ?_
      handling := fun found other otherPayload otherHere => ?_
      waitingEntry := fun found frame waits => ?_
      frameEntry := fun frame member => ?_
      headerEntry := fun header member => ?_
      replyEntry := fun answer member => ?_ }
  · rcases before place handle member with rfl | old
    · exact inv.placed _ _ held
    · exact inv.placed place handle old
  · dsimp only at found
    by_cases own : handle = request.requestHandle
    · subst own
      rw [Function.update_self] at found
      obtain rfl := Option.some.inj found
      exact ⟨registered, entry, Or.inl ⟨index, target⟩⟩
    · rw [Function.update_of_ne own] at found
      obtain ⟨sameHandle, oldEntry, ⟨waitingIndex, waits⟩ | transit⟩ := inv.entered handle info found
      · exact ⟨sameHandle, oldEntry, Or.inl ⟨waitingIndex, later _ handle waits nofun⟩⟩
      · exact ⟨sameHandle, oldEntry, Or.inr (later _ handle transit nofun)⟩
  · dsimp only at otherHere
    by_cases own : found = index
    · rw [own, Function.update_self] at otherHere
      cases otherHere
    · rw [Function.update_of_ne own] at otherHere
      exact inv.handling found other otherPayload otherHere
  · dsimp only at waits ⊢
    by_cases own : found = index
    · rw [own, Function.update_self] at waits
      obtain rfl := Option.some.inj waits
      exact ⟨sent.info, new, framed⟩
    · rw [Function.update_of_ne own] at waits
      obtain ⟨info, entered, oldFramed⟩ := inv.waitingEntry found frame waits
      exact ⟨info, keeps _ info entered, oldFramed⟩
  · obtain ⟨info, entered, oldFramed⟩ := inv.frameEntry frame member
    exact ⟨info, keeps _ info entered, oldFramed⟩
  · obtain ⟨info, entered, describes⟩ := inv.headerEntry header member
    exact ⟨info, keeps _ info entered, describes⟩
  · obtain ⟨info, entered, replies⟩ := inv.replyEntry answer member
    exact ⟨info, keeps _ info entered, replies⟩

theorem PipelineInv.issue (inv : PipelineInv mapping pipeline) (index : Nat) (frame : List UInt8)
    (here : pipeline.waiting index = some frame) :
    PipelineInv mapping
      { pipeline with
        waiting := Function.update pipeline.waiting index none
        frames := pipeline.frames ++ [frame] } := by
  obtain ⟨info, entered, framed⟩ := inv.waitingEntry index frame here
  generalize moved : ({ pipeline with
      waiting := Function.update pipeline.waiting index none
      frames := pipeline.frames ++ [frame] } : Pipeline) = after
  have taken : Puts (Pipeline.handles { pipeline with
      waiting := Function.update pipeline.waiting index none })
      pipeline.handles info.requestHandle (.waiting index) :=
    Pipeline.puts_waiting (Function.update_self ..) here framed.handle
      (Pipeline.handles_of_waiting rfl (fun _ different => (Function.update_of_ne different _ _).symm) rfl
        rfl)
  have put : Puts (Pipeline.handles { pipeline with
      waiting := Function.update pipeline.waiting index none })
      after.handles info.requestHandle .transit := by
    subst moved
    refine ⟨?_, fun place different => ?_⟩
    · simp only [Pipeline.handles, List.filterMap_append, List.filterMap_cons, framed.handle,
        List.filterMap_nil, List.append_assoc, List.singleton_append]
      exact List.perm_middle
    · cases place with
      | transit => exact absurd rfl different
      | dispatcher | waiting | worker => rfl
  have before := taken.mem_moved put
  have later : ∀ place handle, handle ∈ pipeline.handles place →
      handle ∈ after.handles .transit ∨ handle ∈ after.handles place := by
    intro place handle member
    refine (taken.mem_kept put place handle member).imp (fun moved => ?_) id
    rw [moved.1]
    exact put.mem_target
  have held := taken.mem_target
  have exclusive := inv.exclusive.transfer (.moved _ _ _ _ taken put)
  subst moved
  refine
    { inv with
      exclusive := exclusive
      placed := fun place handle member => ?_
      entered := fun handle found entry => ?_
      waitingEntry := fun found other waits => ?_
      frameEntry := fun found member => ?_ }
  · rcases before place handle member with rfl | old
    · exact inv.placed _ _ held
    · exact inv.placed place handle old
  · obtain ⟨registered, submitted, ⟨waitingIndex, waits⟩ | transit⟩ := inv.entered handle found entry
    · rcases later _ handle waits with now | still
      · exact ⟨registered, submitted, Or.inr now⟩
      · exact ⟨registered, submitted, Or.inl ⟨waitingIndex, still⟩⟩
    · rcases later _ handle transit with now | still
      · exact ⟨registered, submitted, Or.inr now⟩
      · exact ⟨registered, submitted, Or.inr still⟩
  · dsimp only at waits
    by_cases own : found = index
    · rw [own, Function.update_self] at waits
      cases waits
    · rw [Function.update_of_ne own] at waits
      exact inv.waitingEntry found other waits
  · rcases List.mem_append.mp member with old | new
    · exact inv.frameEntry found old
    · rw [List.mem_singleton.mp new]
      exact ⟨info, entered, framed⟩

theorem PipelineInv.read (inv : PipelineInv mapping pipeline) (frame : List UInt8)
    (rest : List (List UInt8)) (header : NbdHeader) (oldest : pipeline.frames = frame :: rest)
    (decoded : decodeHeader frame = some header) :
    PipelineInv mapping
      { pipeline with frames := rest, outstanding := pipeline.outstanding ++ [header] } := by
  have member : frame ∈ pipeline.frames := by
    rw [oldest]
    exact List.mem_cons_self
  obtain ⟨info, entered, known, knownDecoded, describes, _⟩ := inv.frameEntry frame member
  obtain rfl : header = known := Option.some.inj (decoded.symm.trans knownDecoded)
  have same : ∀ place, (Pipeline.handles { pipeline with
      frames := rest, outstanding := pipeline.outstanding ++ [header] } place).Perm
      (pipeline.handles place) := by
    intro place
    cases place with
    | transit =>
        simp only [Pipeline.handles, oldest, List.filterMap_cons, frameHandle, decoded,
          Option.map_some, List.map_append, List.map_cons, List.map_nil, List.append_assoc,
          List.cons_append]
        rw [← List.append_assoc, ← List.append_assoc]
        exact List.perm_middle
    | dispatcher | waiting | worker => exact List.Perm.refl _
  refine
    { inv with
      exclusive := inv.exclusive.perm same
      placed := fun place handle found => inv.placed place handle ((same place).mem_iff.mp found)
      entered := fun handle found entry => ?_
      frameEntry := fun found listed => inv.frameEntry found
        (by rw [oldest]; exact List.mem_cons_of_mem _ listed)
      headerEntry := fun found listed => ?_ }
  · obtain ⟨registered, submitted, waits | transit⟩ := inv.entered handle found entry
    · exact ⟨registered, submitted, Or.inl waits⟩
    · exact ⟨registered, submitted, Or.inr ((same .transit).mem_iff.mpr transit)⟩
  · rcases List.mem_append.mp listed with old | new
    · exact inv.headerEntry found old
    · rw [List.mem_singleton.mp new]
      exact ⟨info, by rw [describes.handle]; exact entered, describes⟩

theorem PipelineInv.answer (inv : PipelineInv mapping pipeline) (index : Nat) (header : NbdHeader)
    (error : UInt32) (payload : List UInt8) (found : pipeline.outstanding[index]? = some header)
    (conforms : conforming header error payload) :
    PipelineInv mapping
      { pipeline with
        outstanding := pipeline.outstanding.eraseIdx index
        replies := pipeline.replies ++ [⟨header.handle, error, payload⟩]
        answered := pipeline.answered ++ [header.handle] } := by
  obtain ⟨info, entered, describes⟩ := inv.headerEntry header (List.mem_of_getElem? found)
  obtain ⟨inside, here⟩ := List.getElem?_eq_some_iff.mp found
  have same : ∀ place, (Pipeline.handles { pipeline with
      outstanding := pipeline.outstanding.eraseIdx index
      replies := pipeline.replies ++ [⟨header.handle, error, payload⟩]
      answered := pipeline.answered ++ [header.handle] } place).Perm
      (pipeline.handles place) := by
    intro place
    cases place with
    | transit =>
        simp only [Pipeline.handles, List.map_append, List.map_cons, List.map_nil]
        refine List.Perm.append_left _ ?_
        have taken : (header :: pipeline.outstanding.eraseIdx index).Perm pipeline.outstanding := by
          rw [← here]
          exact List.getElem_cons_eraseIdx_perm inside
        have handles := taken.map (·.handle)
        rw [List.map_cons] at handles
        rw [← List.append_assoc]
        refine (List.perm_append_singleton _ _).trans ?_
        rw [← List.cons_append]
        exact handles.append_right _
    | dispatcher | waiting | worker => exact List.Perm.refl _
  have reads : header.handle ∈ pipeline.outstanding.map (·.handle) :=
    List.mem_map_of_mem (List.mem_of_getElem? found)
  have transit : header.handle ∈ pipeline.handles .transit :=
    List.mem_append_right _ (List.mem_append_left _ reads)
  have unanswered : header.handle ∉ pipeline.answered := by
    intro past
    rcases inv.answeredPast _ past with replied | current | completed
    · have once := (List.nodup_append.mp (inv.exclusive.nodup .transit)).2.1
      exact (List.nodup_append.mp once).2.2 _ reads _ replied rfl
    · exact PipelinePlace.noConfusion (inv.exclusive.unique .transit .worker _ transit current)
    · obtain ⟨request, submitted, tagged⟩ := inv.placed _ _ transit
      exact completed request submitted tagged
  have bound : header.handle.toNat ≤ pipeline.requestHandle.toNat := by
    obtain ⟨request, submitted, tagged⟩ := inv.placed _ _ transit
    rw [← tagged]
    exact inv.known request (inv.submittedFetched request submitted)
  refine
    { inv with
      exclusive := inv.exclusive.perm same
      placed := fun place handle member => inv.placed place handle ((same place).mem_iff.mp member)
      entered := fun handle known entry => ?_
      headerEntry := fun other listed => inv.headerEntry other (List.mem_of_mem_eraseIdx listed)
      replyEntry := fun answer listed => ?_
      answeredKnown := fun handle listed => ?_
      answeredOnce := List.Nodup.append inv.answeredOnce (List.nodup_singleton _)
        (List.disjoint_singleton.mpr unanswered)
      answeredPast := fun handle listed => ?_ }
  · obtain ⟨registered, submitted, waits | transit⟩ := inv.entered handle known entry
    · exact ⟨registered, submitted, Or.inl waits⟩
    · exact ⟨registered, submitted, Or.inr ((same .transit).mem_iff.mpr transit)⟩
  · rcases List.mem_append.mp listed with old | new
    · exact inv.replyEntry answer old
    · rw [List.mem_singleton.mp new]
      refine ⟨info, entered, ?_⟩
      change payload.length = _
      rw [conforms]
      by_cases reads : info.requestType = .read
      · rw [describes.length reads]
        simp only [describes.reads]
      · simp only [describes.reads]
        rw [if_neg fun both => reads both.2, if_neg fun both => reads both.2]
  · rcases List.mem_append.mp listed with old | new
    · exact inv.answeredKnown handle old
    · rw [List.mem_singleton.mp new]
      exact bound
  · dsimp only
    rw [List.map_append]
    rcases List.mem_append.mp listed with old | new
    · exact (inv.answeredPast handle old).imp (List.mem_append_left _) id
    · exact Or.inl (List.mem_append_right _ new)

theorem PipelineInv.take (inv : PipelineInv mapping pipeline) (answer : ServerAnswer)
    (rest : List ServerAnswer) (oldest : pipeline.replies = answer :: rest)
    (idle : pipeline.current = []) :
    PipelineInv mapping
      { pipeline with
        replies := rest
        current := [answer.handle]
        pendingRequests := Function.update pipeline.pendingRequests answer.handle none } := by
  generalize moved : ({ pipeline with
      replies := rest
      current := [answer.handle]
      pendingRequests := Function.update pipeline.pendingRequests answer.handle none } :
    Pipeline) = after
  have taken : Puts (Pipeline.handles { pipeline with replies := rest })
      pipeline.handles answer.handle .transit := by
    refine ⟨?_, fun place different => ?_⟩
    · simp only [Pipeline.handles, oldest, List.map_cons]
      rw [← List.append_assoc, ← List.append_assoc]
      exact List.perm_middle
    · cases place with
      | transit => exact absurd rfl different
      | dispatcher | waiting | worker => rfl
  have put : Puts (Pipeline.handles { pipeline with replies := rest })
      after.handles answer.handle .worker := by
    subst moved
    refine ⟨?_, fun place different => ?_⟩
    · simp only [Pipeline.handles, idle, List.Perm.refl]
    · cases place with
      | worker => exact absurd rfl different
      | dispatcher | waiting | transit => rfl
  have exclusive := inv.exclusive.transfer (.moved _ _ _ _ taken put)
  have before := taken.mem_moved put
  have later : ∀ place handle, handle ∈ pipeline.handles place → handle ≠ answer.handle →
      handle ∈ after.handles place := fun place handle member different =>
    (taken.mem_kept put place handle member).resolve_left fun moved => different moved.1
  -- Whatever is still under way has another handle.
  have target := put.mem_target
  have elsewhere : ∀ place handle, handle ∈ after.handles place → place ≠ .worker →
      handle ≠ answer.handle := by
    intro place handle member different same
    rw [same] at member
    exact different (exclusive.unique _ _ _ member target)
  have keeps : ∀ handle info, handle ≠ answer.handle →
      pipeline.pendingRequests handle = some info →
      Function.update pipeline.pendingRequests answer.handle none handle = some info :=
    fun handle info different found => by rw [Function.update_of_ne different, found]
  have held := taken.mem_target
  have transitOf : ∀ handle, handle ∈ pipeline.frames.filterMap frameHandle ∨
      handle ∈ pipeline.outstanding.map (·.handle) ∨ handle ∈ rest.map (·.handle) →
      handle ≠ answer.handle := by
    intro handle found
    refine elsewhere .transit handle ?_ PipelinePlace.noConfusion
    subst moved
    simp only [Pipeline.handles, List.mem_append]
    exact found
  subst moved
  refine
    { inv with
      exclusive := exclusive
      placed := fun place handle member => ?_
      entered := fun handle info found => ?_
      waitingEntry := fun index frame waits => ?_
      frameEntry := fun frame member => ?_
      headerEntry := fun header member => ?_
      replyEntry := fun other member => ?_
      answeredPast := fun handle past => ?_ }
  · rcases before place handle member with rfl | old
    · exact inv.placed _ _ held
    · exact inv.placed place handle old
  · dsimp only at found
    by_cases own : handle = answer.handle
    · rw [own, Function.update_self] at found
      cases found
    · rw [Function.update_of_ne own] at found
      obtain ⟨registered, submitted, ⟨index, waits⟩ | transit⟩ := inv.entered handle info found
      · exact ⟨registered, submitted, Or.inl ⟨index, later _ handle waits own⟩⟩
      · exact ⟨registered, submitted, Or.inr (later _ handle transit own)⟩
  · obtain ⟨info, entered, framed⟩ := inv.waitingEntry index frame waits
    refine ⟨info, keeps _ info (elsewhere (.waiting index) _ ?_ PipelinePlace.noConfusion) entered,
      framed⟩
    change info.requestHandle ∈ ((pipeline.waiting index).bind frameHandle).toList
    rw [waits, Option.bind_some, framed.handle]
    exact List.mem_singleton.mpr rfl
  · obtain ⟨info, entered, framed⟩ := inv.frameEntry frame member
    exact ⟨info, keeps _ info (transitOf _ (Or.inl
      (List.mem_filterMap.mpr ⟨frame, member, framed.handle⟩))) entered, framed⟩
  · obtain ⟨info, entered, describes⟩ := inv.headerEntry header member
    exact ⟨info, keeps _ info (transitOf _ (Or.inr (Or.inl (List.mem_map_of_mem member)))) entered,
      describes⟩
  · obtain ⟨info, entered, replies⟩ := inv.replyEntry other
      (by rw [oldest]; exact List.mem_cons_of_mem _ member)
    exact ⟨info, keeps _ info (transitOf _ (Or.inr (Or.inr (List.mem_map_of_mem member)))) entered,
      replies⟩
  · rcases inv.answeredPast handle past with replied | current | completed
    · rw [oldest, List.map_cons] at replied
      rcases List.mem_cons.mp replied with rfl | later
      · exact Or.inr (Or.inl (List.mem_singleton.mpr rfl))
      · exact Or.inl later
    · rw [idle] at current
      cases current
    · exact Or.inr (Or.inr completed)

theorem eraseP_tag_mem (requests : List QueuedRequest) (tag : UInt64) (request : QueuedRequest)
    (member : request ∈ requests) (different : request.tag ≠ tag) :
    request ∈ requests.eraseP fun found => found.tag == tag :=
  (List.mem_eraseP_of_neg (by simpa using different)).mpr member

theorem tag_erased (requests : List QueuedRequest) (tag : UInt64)
    (once : (requests.map (·.tag)).Nodup) (request : QueuedRequest)
    (member : request ∈ requests.eraseP fun found => found.tag == tag) : request.tag ≠ tag := by
  induction requests with
  | nil => cases member
  | cons head rest hypothesis =>
      rw [List.map_cons, List.nodup_cons] at once
      rw [List.eraseP_cons] at member
      cases first : head.tag == tag with
      | true =>
          rw [first, cond_true] at member
          rintro rfl
          rw [beq_iff_eq] at first
          exact once.1 (first ▸ List.mem_map_of_mem member)
      | false =>
          rw [first, cond_false] at member
          rcases List.mem_cons.mp member with rfl | later
          · exact beq_eq_false_iff_ne.mp first
          · exact hypothesis once.2 later

theorem PipelineInv.finish (inv : PipelineInv mapping pipeline) (handle : UInt64)
    (busy : pipeline.current = [handle]) :
    PipelineInv mapping
      { pipeline with
        current := []
        submittedReqList := pipeline.submittedReqList.eraseP fun request =>
          request.tag == handle } := by
  generalize removed : ({ pipeline with
      current := []
      submittedReqList := pipeline.submittedReqList.eraseP fun request =>
        request.tag == handle } : Pipeline) = after
  have taken : Puts after.handles pipeline.handles handle .worker := by
    subst removed
    refine ⟨?_, fun place different => ?_⟩
    · simp only [Pipeline.handles, busy, List.Perm.refl]
    · cases place with
      | worker => exact absurd rfl different
      | dispatcher | waiting | transit => rfl
  obtain ⟨exclusive, nowhere⟩ := taken.exclusive_of_after inv.exclusive
  have held := taken.mem_target
  have kept : ∀ place found, found ∈ after.handles place → found ≠ handle ∧
      found ∈ pipeline.handles place := by
    intro place found member
    refine ⟨?_, (taken.mem_iff place found).mpr (Or.inr member)⟩
    rintro rfl
    exact nowhere place member
  have unentered := inv.no_entry held (fun _ => PipelinePlace.noConfusion)
    PipelinePlace.noConfusion
  have shrinks : ∀ request ∈ pipeline.submittedReqList.eraseP (fun request =>
      request.tag == handle), request ∈ pipeline.submittedReqList :=
    fun request member => List.eraseP_subset member
  have entries : ∀ info, info.requestHandle ≠ handle → EntryOf pipeline.submittedReqList info →
      EntryOf (pipeline.submittedReqList.eraseP fun request => request.tag == handle) info := by
    intro info different entry
    obtain ⟨request, member, tagged, rest⟩ := entry
    exact ⟨request, eraseP_tag_mem _ _ _ member (by rw [tagged]; exact different), tagged, rest⟩
  subst removed
  refine
    { inv with
      exclusive := exclusive
      placed := fun place found member => ?_
      submittedFetched := fun request member => inv.submittedFetched request (shrinks request member)
      submittedOnce := ((List.eraseP_sublist).map _).nodup inv.submittedOnce
      submittedKind := fun request member => inv.submittedKind request (shrinks request member)
      entered := fun found info entry => ?_
      handling := fun index request payload here buffer => ?_
      answeredPast := fun found past => ?_ }
  · obtain ⟨different, old⟩ := kept place found member
    obtain ⟨request, submitted, tagged⟩ := inv.placed place found old
    exact ⟨request, eraseP_tag_mem _ _ _ submitted (by rw [tagged]; exact different), tagged⟩
  · obtain ⟨registered, submitted, place⟩ := inv.entered found info entry
    refine ⟨registered, entries info ?_ submitted, place⟩
    rw [registered]
    rintro rfl
    rw [show _ = pipeline.pendingRequests found from rfl, unentered] at entry
    cases entry
  · obtain ⟨call, handled, registered, framed, submitted⟩ :=
      inv.handling index request payload here buffer
    refine ⟨call, handled, registered, framed, entries _ ?_ submitted⟩
    rw [registered]
    rintro rfl
    have own : request.requestHandle ∈ pipeline.handles (.dispatcher index) := by
      rw [Pipeline.handles, show pipeline.dispatchers index = _ from here]
      exact List.mem_singleton.mpr rfl
    cases inv.exclusive.unique _ _ _ own held
  · rcases inv.answeredPast found past with replied | current | completed
    · exact Or.inl replied
    · rw [busy] at current
      rw [List.mem_singleton.mp current]
      exact Or.inr (Or.inr fun request listed =>
        tag_erased pipeline.submittedReqList handle inv.submittedOnce request listed)
    · exact Or.inr (Or.inr fun request listed => completed request (shrinks request listed))

end Moves

end Wnbd.EndToEnd
