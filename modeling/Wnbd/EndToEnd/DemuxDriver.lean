import Wnbd.EndToEnd.DemuxSteps
import Wnbd.EndToEnd.MappingSteps

/-!
# The driver's part

A fetched request has a handler whose frame describes it, and the driver finds the element
of every response and stores what the server sent in the buffer of its SRB.  The handler
is the one of the message model (`wnbdHandleRequest_eq`).
-/

set_option autoImplicit false

namespace Wnbd.EndToEnd

open Wnbd.Scsi Wnbd.Dispatch Wnbd.Nbd BigEndian DaemonState

/-! ## Frames -/

theorem call_frameOf (blockSize : UInt32) (call : HandlerCall) :
    FrameOf (call.sent blockSize).info (call.sent blockSize).frame := by
  have bare : ∀ (offset : UInt64) (length : UInt32) (handle : UInt64) (type : UInt32),
      decodeHeader (nbdRequest offset length handle type) =
        some { type, handle, offset, length } := by
    intro offset length handle type
    have decoded := decodeHeader_encode offset length handle type []
    rwa [List.append_nil] at decoded
  have short : ∀ (offset : UInt64) (length : UInt32) (handle : UInt64) (type : UInt32),
      type &&& 0xFFFF ≠ nbdCmdWrite → (nbdRequest offset length handle type).length =
        nbdRequestSize + NbdHeader.payloadLength { type, handle, offset, length } := by
    intro offset length handle type other
    rw [nbdRequest, nbdEncodeRequest_length, NbdHeader.payloadLength, if_neg other]
    rfl
  have reads : ∀ header : NbdHeader, isReadHeader header = true ↔
      header.type &&& 0xFFFF = nbdCmdRead := fun _ => decide_eq_true_iff
  have types : nbdCmdRead &&& 0xFFFF = nbdCmdRead ∧ nbdCmdFlush &&& 0xFFFF ≠ nbdCmdRead ∧
      nbdCmdTrim &&& 0xFFFF ≠ nbdCmdRead := by
    decide
  have unread : WnbdRequestType.write ≠ .read ∧ WnbdRequestType.flush ≠ .read ∧
      WnbdRequestType.unmap ≠ .read := by
    decide
  cases call with
  | read handle address count =>
      exact ⟨_, bare _ _ handle nbdCmdRead, ⟨rfl, iff_of_true ((reads _).mpr types.1) rfl,
        fun _ => rfl⟩,
        short _ _ handle nbdCmdRead (by decide)⟩
  | write handle buffer address count forceUnitAccess =>
      have write : (nbdCmdWrite ||| if forceUnitAccess then nbdCmdFlagFua else 0) &&& 0xFFFF =
          nbdCmdWrite := by
        cases forceUnitAccess <;> decide
      refine ⟨_, decodeHeader_encode _ _ handle _ _, ⟨rfl, iff_of_false ?_ unread.1,
        fun same => absurd same unread.1⟩, ?_⟩
      · rw [reads, write]
        decide
      · rw [HandlerCall.sent, nbdDaemonWrite, nbdSendWrite, List.length_append,
          nbdEncodeRequest_length, List.length_map, List.length_range, NbdHeader.payloadLength,
          if_pos write]
        rfl
  | flush handle count =>
      exact ⟨_, bare _ _ handle nbdCmdFlush,
        ⟨rfl, iff_of_false (mt (reads _).mp types.2.1) unread.2.1,
          fun same => absurd same unread.2.1⟩,
        short _ _ handle nbdCmdFlush (by decide)⟩
  | unmap handle address count =>
      exact ⟨_, bare _ _ handle nbdCmdTrim,
        ⟨rfl, iff_of_false (mt (reads _).mp types.2.2) unread.2.2,
          fun same => absurd same unread.2.2⟩,
        short _ _ handle nbdCmdTrim (by decide)⟩

/-- The switch in libwnbd calls this handler. -/
theorem wnbdHandleRequest_eq (props : WnbdProperties) (request : WnbdIoRequest)
    (payload : FetchPayload) (buffer : Nat → UInt8) :
    wnbdHandleRequest props request payload buffer =
      (handlerCall props request payload buffer).map (·.sent props.blockSize) := by
  obtain ⟨requestHandle, requestType, cmd⟩ := request
  unfold wnbdHandleRequest handlerCall
  cases requestType <;> cases cmd <;> cases payload <;> dsimp only <;>
    first
    | rfl
    | (split <;> rfl)

/-! ## Fetches -/

/-- The handler of a submitted request. -/
structure HandlerOf (mapping : NbdMapping) (tag : UInt64) (kind : WnbdRequestType)
    (call : HandlerCall) : Prop where
  handle : (call.sent mapping.props.blockSize).info.requestHandle = tag
  type : (call.sent mapping.props.blockSize).info.requestType = kind
  fits : kind = .read → (call.sent mapping.props.blockSize).info.length ≤ preallocatedRBuffSz

theorem fetched_handler (mapping : NbdMapping) (bufferSize : UInt32) (tag : UInt64)
    (range : ElementRange) (srb : Srb) (faults : FetchFaults) (payload : FetchPayload)
    (fits : ∀ cdb, srb.cdb = some cdb → scsiOpToWnbdReqType (cdb.asByte 0) = .read →
      range.dataLength ≤ wnbdDefaultMaxTransferLength)
    (submitted : (fetchElement mapping.props bufferSize tag range srb faults).verdict =
      .submit payload) :
    ∃ cdb, srb.cdb = some cdb ∧ scsiOpToWnbdReqType (cdb.asByte 0) ≠ .persistResIn ∧
      ∀ buffer, ∃ call, handlerCall mapping.props
        (fetchElement mapping.props bufferSize tag range srb faults).request payload buffer =
          some call ∧ HandlerOf mapping tag (scsiOpToWnbdReqType (cdb.asByte 0)) call := by
  have noPersistRes := mapping.noPersistRes
  unfold fetchElement at submitted ⊢
  simp only [Srb.setDataTransferLength_cdb] at submitted ⊢
  cases found : srb.cdb with
  | none => simp [found] at submitted
  | some cdb =>
      refine ⟨cdb, rfl, ?_⟩
      simp only [found] at submitted ⊢
      split at submitted
      case isFalse => cases submitted
      case isTrue valid =>
        rw [if_pos valid]
        dsimp only at submitted ⊢
        unfold validateScsiRequest at valid
        cases kind : scsiOpToWnbdReqType (cdb.asByte 0) with
        | read =>
            refine ⟨by decide, fun buffer => ⟨_, by simp only [fetchCommand, handlerCall]; rfl, rfl,
              rfl, fun _ => ?_⟩⟩
            exact UInt32.le_trans (blocks_mul_le range.dataLength mapping.props.blockSize)
              (fits cdb found kind)
        | write =>
            exact ⟨by decide, fun buffer => ⟨_, by simp only [fetchCommand, handlerCall]; rfl, rfl,
              rfl, fun same => absurd same (by decide)⟩⟩
        | flush =>
            simp only [kind, Bool.and_eq_true] at valid
            exact ⟨by decide, fun buffer => ⟨_, by
              simp only [fetchCommand, handlerCall, valid.2, if_true]
              rfl, rfl, rfl, fun same => absurd same (by decide)⟩⟩
        | unmap =>
            simp only [kind, Bool.and_eq_true] at valid
            simp only [kind, fetchVerdict] at submitted
            split_ifs at submitted
            cases submitted
            exact ⟨by decide, fun buffer => ⟨_, by
              simp only [fetchCommand, handlerCall, valid.2, if_true]
              rfl, rfl, rfl, fun same => absurd same (by decide)⟩⟩
        | persistResIn | persistResOut => simp [kind, noPersistRes] at valid
        | unknown | disconnect => simp [kind] at valid

section

variable {mapping : NbdMapping} {state : DemuxState} {transit : Transit}

theorem WireInv.queues (wire : WireInv state transit) (after : DemuxState)
    (daemon : after.daemon = state.daemon) (position : after.serverPosition = state.serverPosition)
    (answers : after.answers = state.answers)
    (fetched : ∀ request ∈ state.fetched, request ∈ after.fetched) : WireInv after transit := by
  have sameAnswers : ∀ answer ∈ state.answers, answer ∈ after.answers := by
    rw [answers]
    exact fun _ => id
  refine ⟨?_, ?_, ?_, ?_, ?_, ?_, ?_⟩
  · rw [daemon]
    exact wire.sending
  · rw [daemon]
    exact wire.resting
  · rw [daemon, position]
    exact wire.position
  · rw [daemon, position]
    exact wire.output
  · exact wire.input.congr (by rw [daemon]) (by rw [daemon]) sameAnswers fetched
  · rw [answers]
    exact wire.history
  · intro response found
    rw [daemon] at found
    exact (wire.answered response found).mono sameAnswers fetched

theorem DemuxInv.queues (inv : DemuxInv mapping state transit) (after : DemuxState)
    (daemon : after.daemon = state.daemon) (position : after.serverPosition = state.serverPosition)
    (answers : after.answers = state.answers)
    (fetched : ∀ request ∈ state.fetched, request ∈ after.fetched)
    (pipeline : PipelineInv mapping (after.pipeline transit)) : DemuxInv mapping after transit :=
  ⟨daemon ▸ inv.calm, inv.wire.queues after daemon position answers fetched, pipeline⟩

theorem DemuxInv.pend (inv : DemuxInv mapping state transit) (srbId : Nat) (srb : Srb)
    (fits : Smooth mapping state (.pend srbId srb)) (after : DemuxState)
    (taken : demuxNext mapping state (.pend srbId srb) = some after) :
    DemuxInv mapping after transit := by
  obtain ⟨range, accepted, rfl⟩ := Option.map_eq_some_iff.mp taken
  refine inv.queues _ rfl rfl rfl (fun _ => id) (inv.pipeline.pend _ fun reads => ?_)
  obtain ⟨cdb, found, kind⟩ := Option.map_eq_some_iff.mp reads
  have small : fitsReplyBuffer (state.props mapping) srb = true := fits
  unfold fitsReplyBuffer at small
  rw [show srb.cdb = some cdb from found, accepted] at small
  exact of_decide_eq_true small kind

theorem DemuxInv.fetch (inv : DemuxInv mapping state transit) (index : Nat) (status : NtStatus)
    (faults : FetchFaults) (after : DemuxState)
    (here : state.dispatchers index = .fetching status)
    (noWrap : state.requestHandle.toNat + 1 < 2 ^ 64)
    (taken : fetchPending mapping state index status faults = some after) :
    DemuxInv mapping after transit := by
  have before : (state.dispatchers index).handle = none := by
    rw [here]
    rfl
  cases fetchPending_cases taken with
  | submitted request rest element payload head makes submitted =>
      have fits := inv.pipeline.pendingFits request
        (by change request ∈ state.pendingReqList; rw [head]; exact List.mem_cons_self)
      obtain ⟨cdb, found, notPersist, handled⟩ := fetched_handler mapping dispatcherBufferSize
        (state.requestHandle + 1) request.range request.srb faults payload
        (fun cdb found kind => fits (by rw [QueuedRequest.kind, found, Option.map_some, kind]))
        (makes ▸ submitted)
      have registered := (fetched_submit mapping.props dispatcherBufferSize
        (state.requestHandle + 1) request.range request.srb faults payload (makes ▸ submitted)).1
      have sameCdb := (fetchElement_srb mapping.props dispatcherBufferSize
        (state.requestHandle + 1) request.range request.srb faults).1
      rw [makes] at handled registered sameCdb
      have kind : QueuedRequest.kind
          { request with tag := state.requestHandle + 1, srb := element.srb } =
            some (scsiOpToWnbdReqType (cdb.asByte 0)) := by
        rw [QueuedRequest.kind, sameCdb, found]
        rfl
      refine inv.queues _ rfl rfl rfl (fun _ => List.mem_append_left _) (inv.pipeline.fetch rest
        (fun other listed => ?_) _ index _ before noWrap rfl ⟨_, kind, notPersist⟩ ?_ ?_)
      · change other ∈ state.pendingReqList
        rw [head]
        exact List.mem_cons_of_mem _ listed
      · split
        · exact Or.inr (congrArg some registered)
        · exact Or.inl rfl
      · intro found foundPayload same buffer
        split at same
        · cases same
          obtain ⟨call, calls, handler⟩ := handled buffer
          refine ⟨call, calls, handler.handle.trans registered.symm, call_frameOf _ call, _,
            List.mem_singleton.mpr rfl, handler.handle.symm, ?_, ?_⟩
          · rw [kind, handler.type]
          · intro reads
            exact handler.fits (handler.type.symm.trans reads)
        · cases same
  | refused request rest element pc head _ _ goesOn =>
      refine inv.queues _ rfl rfl rfl (fun _ => id)
        (inv.pipeline.drop request rest head index pc before ?_ noWrap)
      rcases goesOn with ⟨_, rfl⟩ | ⟨_, rfl⟩
      · rfl
      · rfl

/-! ## Handlers -/

theorem begin_request {blockSize : UInt32} {daemon after : DaemonState} {index : Nat}
    {call : HandlerCall}
    (stepped : threadStep blockSize daemon (.dispatcher index) (.request call) = some after) :
    daemon.threads (.dispatcher index) = .idle ∧
      after = { daemon with
        pendingRequests := daemon.pendingRequests.emplace (call.sent blockSize).info }.setPhase
        (.dispatcher index) (.lockSend (call.sent blockSize).frame .request) := by
  unfold threadStep at stepped
  generalize here : daemon.threads (.dispatcher index) = phase at stepped
  cases phase with
  | idle =>
      dsimp only [beginStep] at stepped
      obtain ⟨_, same⟩ := Option.ite_none_right_eq_some.mp stepped
      cases same
      exact ⟨rfl, rfl⟩
  | _ => cases stepped

theorem DemuxInv.handle (inv : DemuxInv mapping state transit) (index : Nat)
    (buffer : Nat → UInt8) (after : DemuxState)
    (taken : handleRequest mapping state index buffer = some after) :
    DemuxInv mapping after transit := by
  cases handleRequest_cases taken with
  | handle _ _ request payload call _ here handled stepped =>
    obtain ⟨daemon, begins, rfl⟩ := Option.map_eq_some_iff.mp stepped
    have calm := inv.calm.step begins
    obtain ⟨idle, rfl⟩ := begin_request begins
    have waits : waitingFrame (state.daemon.threads (.dispatcher index)) = none := by
      rw [idle]
      rfl
    have unmoved : ∀ thread frame sent purpose,
        ({ state.daemon with
          pendingRequests := state.daemon.pendingRequests.emplace
            (call.sent mapping.props.blockSize).info }.setPhase (.dispatcher index)
          (.lockSend (call.sent mapping.props.blockSize).frame .request)).threads thread =
            .send frame sent purpose ↔
          state.daemon.threads thread = .send frame sent purpose := by
      intro thread frame sent purpose
      by_cases own : thread = .dispatcher index
      · rw [own, setPhase_self, idle]
        exact iff_of_false nofun nofun
      · rw [setPhase_of_ne _ _ _ own]
    refine ⟨calm (fun other different => setPhase_of_ne _ _ _ different)
      (by rw [setPhase_self]; rfl) (fun _ => ⟨index, rfl⟩) rfl rfl rfl, ?_, ?_⟩
    · exact
        { inv.wire with
          sending := fun thread frame sent purpose sends =>
            inv.wire.sending thread frame sent purpose ((unmoved _ _ _ _).mp sends)
          resting := fun nobody => inv.wire.resting fun thread frame sent purpose sends =>
            nobody thread frame sent purpose ((unmoved _ _ _ _).mpr sends)
          position := inv.wire.position
          output := inv.wire.output
          input := inv.wire.input.congr (worker_setPhase _ _ _) rfl (fun _ => id) fun _ => id
          answered := inv.wire.answered }
    · have entered := inv.pipeline.enter index request payload buffer call here handled waits
      unfold DemuxState.pipeline DemuxState.setDispatcher at *
      dsimp only at entered ⊢
      rw [waiting_setPhase, worker_setPhase]
      exact entered

/-! ## Responses -/

/-- Without persistent reservations only reads carry data to the SRB. -/
theorem carriesData_iff (scsiOp : UInt8) (notPersist : scsiOpToWnbdReqType scsiOp ≠ .persistResIn) :
    (decide (scsiOp ∈ [scsiopRead6, scsiopRead, scsiopRead12, scsiopRead16]) ||
      decide (scsiOp = scsiopPersistentReserveIn)) = true ↔ scsiOpToWnbdReqType scsiOp = .read := by
  by_cases reads : scsiOp ∈ [scsiopRead6, scsiopRead, scsiopRead12, scsiopRead16]
  · have kind : scsiOpToWnbdReqType scsiOp = .read := if_pos reads
    rw [kind, decide_eq_true reads]
    exact iff_of_true rfl rfl
  · have other : scsiOp ≠ scsiopPersistentReserveIn := by
      rintro rfl
      exact notPersist (by decide)
    rw [decide_eq_false reads, decide_eq_false other]
    refine iff_of_false Bool.false_ne_true ?_
    unfold scsiOpToWnbdReqType
    rw [if_neg reads]
    split_ifs <;> exact nofun

theorem applyResponse_writes (range : ElementRange) (srb : Srb) (command : SendRspCommand)
    (kind : WnbdRequestType)
    (typed : (srb.cdb.map fun cdb => scsiOpToWnbdReqType (cdb.asByte 0)) = some kind)
    (notPersist : kind ≠ .persistResIn)
    (buffered : command.hasBuffer = false → command.dataBufferSize = 0) :
    (applyResponse range false srb command ⟨0, 0⟩).writes =
      if command.status.scsiStatus = 0 ∧ kind = .read then fillSrbBuffer range.dataLength command
      else [] := by
  obtain ⟨cdb, found, same⟩ := Option.map_eq_some_iff.mp typed
  have carries : (isReadSrb srb || isPerResInSrb srb) = true ↔ kind = .read := by
    rw [isReadSrb, isPerResInSrb, found, ← same]
    rw [← same] at notPersist
    exact carriesData_iff (cdb.asByte 0) notPersist
  have missing : ¬ (¬ false = true ∧ srb.cdb.isNone = true) := by
    rw [found]
    exact fun both => Bool.false_ne_true both.2
  rw [applyResponse, if_neg missing]
  dsimp only
  rw [if_neg fun mapped => mapped.2.2 rfl]
  by_cases succeeds : command.status.scsiStatus = 0 ∧ kind = .read
  · rw [if_pos succeeds, if_pos ⟨succeeds.1, carries.mpr succeeds.2⟩]
    have valid : ¬ (¬ command.hasBuffer = true ∧ command.dataBufferSize > 0) := by
      rintro ⟨absent, sized⟩
      rw [buffered (Bool.eq_false_iff.mpr absent)] at sized
      exact absurd sized (by decide)
    rw [if_neg valid, if_neg fun locks => locks.2 rfl]
    rfl
  · rw [if_neg succeeds, if_neg fun both => succeeds ⟨both.1, carries.mp both.2⟩]

theorem storeResponse_empty (dataLength : UInt32) (command : SendRspCommand)
    (dataBuffer srbBuffer : Nat → UInt8) (none : fillSrbBuffer dataLength command = []) :
    storeResponse dataLength command dataBuffer srbBuffer = srbBuffer := by
  rw [fillSrbBuffer, List.append_eq_nil_iff] at none
  obtain ⟨noCopy, noZero⟩ := none
  have copy : ¬ (command.hasBuffer = true ∧ command.dataBufferSize > 0) := by
    intro copies
    rw [if_pos copies] at noCopy
    cases noCopy
  have zero : ¬ command.dataBufferSize < dataLength := by
    intro zeroes
    rw [if_pos zeroes] at noZero
    cases noZero
  rw [storeResponse, if_neg copy, if_neg zero]

theorem handleResponse_eq (inv : DemuxInv mapping state transit) (response : SubmittedResponse)
    (answered : Answered state response)
    (current : response.command.requestHandle ∈ (state.pipeline transit).current) :
    ∃ request ∈ state.submittedReqList, ∃ completed,
      request.tag = response.command.requestHandle ∧ request.kind = some response.requestType ∧
      handleResponse state response.command ⟨0, 0⟩ = (statusSuccess,
        { state with
          submittedReqList := state.submittedReqList.eraseP fun found =>
            found.tag == response.command.requestHandle
          completed
          srbBuffers :=
            if response.command.status.scsiStatus = 0 ∧ response.requestType = .read then
              Function.update state.srbBuffers request.srbId
                (storeResponse request.range.dataLength response.command
                  state.daemon.preallocatedRBuff (state.srbBuffers request.srbId))
            else state.srbBuffers }) := by
  obtain ⟨⟨answer, _, responds⟩, known, knownFetched, knownTag, knownKind⟩ := answered
  obtain ⟨request, submitted, tagged⟩ := inv.pipeline.placed .worker _ current
  have sameTags : request.tag = known.tag := tagged.trans knownTag.symm
  obtain rfl : request = known := List.inj_on_of_nodup_map inv.pipeline.fetchedOnce
    (inv.pipeline.submittedFetched request submitted) knownFetched sameTags
  have first : state.findSubmitted response.command.requestHandle = some request := by
    have present : (state.findSubmitted response.command.requestHandle).isSome = true :=
      List.find?_isSome.mpr ⟨request, submitted, beq_iff_eq.mpr tagged⟩
    obtain ⟨found, search⟩ := Option.isSome_iff_exists.mp present
    have isWanted := List.find?_some search
    have foundTag : found.tag = response.command.requestHandle := beq_iff_eq.mp isWanted
    rw [search, List.inj_on_of_nodup_map inv.pipeline.submittedOnce
      (List.mem_of_find?_eq_some search) submitted (foundTag.trans tagged.symm)]
  obtain ⟨kind, typed, notPersist⟩ := inv.pipeline.submittedKind request submitted
  obtain rfl : kind = response.requestType := Option.some.inj (typed.symm.trans knownKind)
  have status := applyResponse_success request.range request.srb response.command
    (by
      obtain ⟨cdb, found, _⟩ := Option.map_eq_some_iff.mp typed
      rw [found]
      exact Option.some_ne_none cdb) responds.unbuffered
  have writes := applyResponse_writes request.range request.srb response.command _ typed notPersist
    responds.unbuffered
  refine ⟨request, submitted, (state.complete request
    (applyResponse request.range false request.srb response.command ⟨0, 0⟩).srb).completed,
    tagged, knownKind, ?_⟩
  rw [handleResponse, first]
  dsimp only
  rw [status, writes]
  refine Prod.ext rfl ?_
  dsimp only
  by_cases succeeds : response.command.status.scsiStatus = 0 ∧ response.requestType = .read
  · rw [if_pos succeeds, if_pos succeeds]
    by_cases empty : fillSrbBuffer request.range.dataLength response.command = []
    · rw [if_pos empty, storeResponse_empty _ _ _ _ empty, Function.update_eq_self]
      rfl
    · rw [if_neg empty]
      rfl
  · rw [if_neg succeeds, if_neg succeeds, if_pos rfl]
    rfl

theorem DemuxInv.finish (inv : DemuxInv mapping state transit) (response : SubmittedResponse)
    (answered : Answered state response)
    (busy : (state.pipeline transit).current = [response.command.requestHandle])
    (daemon : DaemonState) (calm : Calm daemon)
    (others : ∀ thread, thread ≠ .worker → daemon.threads thread = state.daemon.threads thread)
    (accepted : daemon.accepted = state.daemon.accepted)
    (pendingRequests : daemon.pendingRequests = state.daemon.pendingRequests)
    (input : InStep { state with daemon } transit.replies)
    (idle : workerHandle (daemon.threads .worker) = none) (landed : daemon.inFlight = [])
    (delivered : ∀ done ∈ daemon.delivered, done ∈ state.daemon.delivered ∨
      done.response = response)
    (completed : List CompletedSrb) (srbBuffers : Nat → Nat → UInt8) :
    DemuxInv mapping
      { state with
        daemon
        submittedReqList := state.submittedReqList.eraseP fun found =>
          found.tag == response.command.requestHandle
        completed
        srbBuffers } transit := by
  have wire := inv.workerWire daemon transit.replies calm others accepted input inv.wire.history
    (fun found which => by
      rcases which with flying | ⟨done, member, rfl⟩
      · rw [landed] at flying
        cases flying
      · rcases delivered done member with old | new
        · exact inv.wire.answered _ (Or.inr ⟨done, old, rfl⟩)
        · rw [new]
          exact answered)
  refine ⟨calm, wire.queues _ rfl rfl rfl fun _ => id, ?_⟩
  have finished := inv.pipeline.finish response.command.requestHandle busy
  have waiting : (fun index => waitingFrame (daemon.threads (.dispatcher index))) =
      fun index => waitingFrame (state.daemon.threads (.dispatcher index)) := by
    funext index
    rw [others _ ThreadId.noConfusion]
  unfold DemuxState.pipeline at finished ⊢
  dsimp only at finished ⊢
  rw [waiting, idle, landed, pendingRequests]
  exact finished

theorem submitted_worker {blockSize : UInt32} {daemon after : DaemonState}
    {outcome : SubmitOutcome}
    (stepped : threadStep blockSize daemon .worker (.submitted outcome) = some after) :
    ∃ response, daemon.threads .worker = .respond response ∧
      submitStep daemon .worker response outcome = some after := by
  unfold threadStep at stepped
  generalize here : daemon.threads .worker = phase at stepped
  cases phase with
  | respond response => exact ⟨response, rfl, stepped⟩
  | _ => cases stepped

theorem DemuxInv.respond (inv : DemuxInv mapping state transit) (code : UInt32)
    (after : DemuxState) (taken : respond mapping state ⟨0, 0⟩ code = some after) :
    DemuxInv mapping after transit := by
  cases respond_cases taken with
  | respond _ _ response _ here taken =>
    have inStep := inv.wire.input
    unfold InStep at inStep
    rw [here] at inStep
    obtain ⟨answered, incoming⟩ := inStep
    have landed : state.daemon.inFlight = [] := inv.calm.landed (by rw [here]; rfl)
    have busy : (state.pipeline transit).current = [response.command.requestHandle] := by
      change (workerHandle (state.daemon.threads .worker)).toList ++ _ = _
      rw [here, landed]
      rfl
    obtain ⟨request, _, completed, _, _, handled⟩ := handleResponse_eq inv response answered
      (by rw [busy]; exact List.mem_singleton.mpr rfl)
    rw [handled] at taken
    obtain ⟨daemon, stepped, rfl⟩ := Option.map_eq_some_iff.mp taken
    have success : ntSuccess statusSuccess = true := by decide
    rw [if_pos success] at stepped
    have calm := inv.calm.step stepped
    obtain ⟨_, sameHere, submitted⟩ := submitted_worker stepped
    obtain rfl := Phase.respond.inj (here.symm.trans sameHere)
    cases submitted
    refine inv.finish response answered busy _ (calm (fun thread different =>
      setPhase_of_ne _ _ _ different) (by rw [setPhase_self]; rfl) (by rw [setPhase_self]; nofun)
      rfl rfl rfl) (fun thread different => setPhase_of_ne _ _ _ different) rfl rfl ?_
      (by rw [setPhase_self]; rfl) landed ?_ _ _
    · unfold InStep
      dsimp only
      rw [setPhase_self]
      exact incoming
    · intro done member
      rcases List.mem_append.mp member with old | new
      · exact Or.inl old
      · rw [List.mem_singleton.mp new]
        exact Or.inr rfl

theorem DemuxInv.respondPending (inv : DemuxInv mapping state transit) (after : DemuxState)
    (taken : EndToEnd.daemonStep mapping state .worker (.submitted .pending) = some after) :
    DemuxInv mapping after transit := by
  obtain ⟨daemon, stepped, rfl⟩ := Option.map_eq_some_iff.mp taken
  have calm := inv.calm.step stepped
  obtain ⟨response, here, submitted⟩ := submitted_worker stepped
  cases submitted
  have inStep := inv.wire.input
  unfold InStep at inStep
  rw [here] at inStep
  obtain ⟨answered, incoming⟩ := inStep
  have landed : state.daemon.inFlight = [] := inv.calm.landed (by rw [here]; rfl)
  refine inv.worker _ transit.replies (calm (fun thread different => setPhase_of_ne _ _ _ different)
    (by rw [setPhase_self]; rfl) (by rw [setPhase_self]; nofun) rfl rfl rfl)
    (fun thread different => setPhase_of_ne _ _ _ different) rfl ?_ inv.wire.history ?_ ?_
  · unfold InStep
    dsimp only
    rw [setPhase_self]
    exact incoming
  · rintro found (flying | done)
    · rcases List.mem_append.mp flying with old | new
      · exact inv.wire.answered found (Or.inl old)
      · rw [List.mem_singleton.mp new]
        exact answered
    · exact inv.wire.answered found (Or.inr done)
  · have pipeline := inv.pipeline
    unfold DemuxState.pipeline at pipeline ⊢
    dsimp only at pipeline ⊢
    rw [waiting_worker, setPhase_self]
    rw [here, landed] at pipeline
    change PipelineInv mapping (Pipeline.mk _ _ _ _ _ _ _ _ _
      ([] ++ (state.daemon.inFlight ++ [response]).map _) _ _)
    rw [landed]
    exact pipeline

theorem Calm.completed {blockSize : UInt32} {daemon after : DaemonState} (calm : Calm daemon)
    (index : Nat) (stepped : daemonNext blockSize daemon (.responseCompleted index) = some after)
    (threads : after.threads = daemon.threads) (socket : after.socket = daemon.socket)
    (terminated : after.terminated = daemon.terminated)
    (terminating : after.terminateInProgress = daemon.terminateInProgress) : Calm after where
  serving := by
    rw [threads]
    exact calm.serving
  senders := by
    rw [threads]
    exact calm.senders
  connected := socket.trans calm.connected
  running := terminated.trans calm.running
  undisturbed := terminating.trans calm.undisturbed
  locks := calm.locks.step stepped
  buffer := calm.buffer.step (.responseCompleted index) nofun stepped

theorem DemuxInv.completePending (inv : DemuxInv mapping state transit) (index : Nat)
    (after : DemuxState) (taken : completePending mapping state index ⟨0, 0⟩ = some after) :
    DemuxInv mapping after transit := by
  obtain ⟨response, found, completes⟩ := Option.bind_eq_some_iff.mp taken
  have member := List.mem_of_getElem? found
  have answered := inv.wire.answered response (Or.inl member)
  obtain ⟨only, alone, waits⟩ : ∃ only, state.daemon.inFlight = [only] ∧
      (state.daemon.threads .worker).awaits state.daemon.terminated = true := by
    rcases inv.calm.buffer.flying with none | ⟨only, alone, _, _, waits⟩
    · rw [none] at member
      cases member
    · exact ⟨only, alone, waits⟩
  obtain rfl : response = only := by
    rw [alone] at member
    exact List.mem_singleton.mp member
  obtain rfl : index = 0 := by
    have inside := (List.getElem?_eq_some_iff.mp found).1
    rw [alone, List.length_singleton] at inside
    omega
  have resting : workerHandle (state.daemon.threads .worker) = none ∧
      state.daemon.incoming = repliesBytes transit.replies := by
    have inStep := inv.wire.input
    unfold InStep at inStep
    generalize state.daemon.threads .worker = phase at waits inStep
    cases phase <;> first | exact ⟨rfl, inStep⟩ | cases waits
  have busy : (state.pipeline transit).current = [response.command.requestHandle] := by
    change (workerHandle (state.daemon.threads .worker)).toList ++ _ = _
    rw [resting.1, alone]
    rfl
  obtain ⟨request, _, completed, _, _, handled⟩ := handleResponse_eq inv response answered
    (by rw [busy]; exact List.mem_singleton.mpr rfl)
  rw [handled] at completes
  obtain ⟨daemon, stepped, rfl⟩ := Option.map_eq_some_iff.mp completes
  have calm := inv.calm.completed 0 stepped
  obtain ⟨_, sameFound, rfl⟩ := Option.map_eq_some_iff.mp stepped
  obtain rfl := Option.some.inj (found.symm.trans sameFound)
  refine inv.finish response answered busy _ (calm rfl rfl rfl rfl) (fun _ _ => rfl) rfl rfl ?_
    resting.1 ?_ ?_ _ _
  · have inStep := inv.wire.input
    unfold InStep at inStep ⊢
    exact inStep
  · change state.daemon.inFlight.eraseIdx 0 = []
    rw [alone]
    rfl
  · intro done delivered
    rcases List.mem_append.mp delivered with old | new
    · exact Or.inl old
    · rw [List.mem_singleton.mp new]
      exact Or.inr rfl

theorem DemuxInv.diskCreated (inv : DemuxInv mapping state transit) :
    DemuxInv mapping
      { state with daemon := { state.daemon with wnbdDisk := true } } transit where
  calm := ⟨inv.calm.serving, inv.calm.senders, inv.calm.connected, inv.calm.running,
    inv.calm.undisturbed, ⟨inv.calm.locks.send, inv.calm.locks.shutdown⟩,
    ⟨inv.calm.buffer.roles, inv.calm.buffer.delivered, inv.calm.buffer.loaded,
      inv.calm.buffer.flying⟩⟩
  wire :=
    { inv.wire with
      input := inv.wire.input.congr rfl rfl (fun _ => id) fun _ => id
      answered := inv.wire.answered }
  pipeline := inv.pipeline

/-- A fetch of another disk draws a tag: the tags this disk has seen stay below the counter. -/
theorem DemuxInv.fetchElsewhere (inv : DemuxInv mapping state transit)
    (noWrap : state.requestHandle.toNat + 1 < 2 ^ 64) :
    DemuxInv mapping { state with requestHandle := state.requestHandle + 1 } transit := by
  have later : (state.requestHandle + 1).toNat = state.requestHandle.toNat + 1 := by
    rw [UInt64.toNat_add]
    exact Nat.mod_eq_of_lt noWrap
  refine inv.queues { state with requestHandle := state.requestHandle + 1 } rfl rfl rfl
    (fun _ => id) ?_
  exact { inv.pipeline with
    known := fun request member => by
      have below := inv.pipeline.known request member
      change request.tag.toNat ≤ (state.requestHandle + 1).toNat
      rw [later]
      exact Nat.le_succ_of_le below
    answeredKnown := fun handle member => by
      have below := inv.pipeline.answeredKnown handle member
      change handle.toNat ≤ (state.requestHandle + 1).toNat
      rw [later]
      exact Nat.le_succ_of_le below }

theorem demuxNext_inv (inv : DemuxInv mapping state transit) (action : DemuxAction)
    (permitted : Smooth mapping state action) (after : DemuxState)
    (taken : demuxNext mapping state action = some after) :
    ∃ later, DemuxInv mapping after later := by
  cases action with
  | diskCreated =>
      cases taken
      exact ⟨transit, inv.diskCreated⟩
  | pend srbId srb => exact ⟨transit, inv.pend srbId srb permitted after taken⟩
  | fetch index faults =>
      cases demuxNext_cases taken with
      | fetch _ _ status _ here _ fetches =>
          exact ⟨transit, inv.fetch index status faults after here (of_decide_eq_true permitted)
            fetches⟩
  | handle index buffer => exact ⟨transit, inv.handle index buffer after taken⟩
  | daemon thread choice =>
      obtain ⟨own, stepped⟩ := Option.ite_none_right_eq_some.mp taken
      refine inv.daemonStep thread choice ?_ after stepped
      cases choice <;> first | rfl | exact absurd permitted Bool.false_ne_true | cases own
  | respond faults code =>
      obtain rfl : faults = ⟨0, 0⟩ := of_decide_eq_true permitted
      exact ⟨transit, inv.respond code after taken⟩
  | respondPending => exact ⟨transit, inv.respondPending after taken⟩
  | completePending index faults =>
      obtain rfl : faults = ⟨0, 0⟩ := of_decide_eq_true permitted
      exact ⟨transit, inv.completePending index after taken⟩
  | serverReads => exact inv.serverReads after taken
  | serverAnswers index error payload => exact inv.serverAnswers index error payload after taken
  | fetchElsewhere =>
      cases taken
      exact ⟨transit, inv.fetchElsewhere (of_decide_eq_true permitted)⟩
  | abortPending | abortSubmitted => cases permitted
  | setDiskSize blockCount =>
      cases taken
      exact ⟨transit, inv.queues _ rfl rfl rfl (fun _ => id) inv.pipeline⟩

end

end Wnbd.EndToEnd
