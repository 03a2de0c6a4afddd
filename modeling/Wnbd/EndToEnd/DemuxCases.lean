import Wnbd.EndToEnd.Demux

/-!
# The cases of a step

What a fetch does with the request it takes, and what each action needs and changes.
-/

set_option autoImplicit false

namespace Wnbd.EndToEnd

open Wnbd.Scsi Wnbd.Dispatch Wnbd.Nbd DemuxState

section

variable (mapping : NbdMapping) (state : DemuxState)

/-- A fetched request is submitted, or completed without the server. -/
inductive FetchCase (index : Nat) (status : NtStatus) (faults : FetchFaults) : DemuxState → Prop
  | submitted (request : QueuedRequest) (rest : List QueuedRequest) (element : FetchedElement)
      (payload : FetchPayload) (queue : state.pendingReqList = request :: rest)
      (makes : fetchElement mapping.props dispatcherBufferSize (state.requestHandle + 1)
        request.range request.srb faults = element)
      (verdict : element.verdict = .submit payload) :
      FetchCase index status faults ({ state with
        pendingReqList := rest
        requestHandle := state.requestHandle + 1
        submittedReqList := state.submittedReqList ++
          [{ request with tag := state.requestHandle + 1, srb := element.srb }]
        fetched := state.fetched ++
          [{ request with tag := state.requestHandle + 1, srb := element.srb }] }.setDispatcher
        index (if ntSuccess ((FetchVerdict.submit payload).status.getD status) then
          .handling element.request payload else .removing))
  | refused (request : QueuedRequest) (rest : List QueuedRequest) (element : FetchedElement)
      (pc : DispatcherPc) (queue : state.pendingReqList = request :: rest)
      (makes : fetchElement mapping.props dispatcherBufferSize (state.requestHandle + 1)
        request.range request.srb faults = element)
      (verdict : ∀ payload, element.verdict ≠ .submit payload)
      (goesOn : element.verdict = .bufferTooSmall ∧ pc = .removing ∨
        element.verdict ≠ .bufferTooSmall ∧
          pc = .fetching (element.verdict.status.getD status)) :
      FetchCase index status faults
        (({ state with
          pendingReqList := rest
          requestHandle := state.requestHandle + 1 }.complete request element.srb).setDispatcher
          index pc)

/-- What each action needs and changes. -/
inductive DemuxCase : DemuxAction → DemuxState → Prop
  | diskCreated :
      DemuxCase .diskCreated { state with daemon := { state.daemon with wnbdDisk := true } }
  | pend (srbId : Nat) (srb : Srb) (range : ElementRange)
      (accepted : acceptedRange (state.props mapping) (srb.setSrbStatus srbStatusAborted) =
        some range) :
      DemuxCase (.pend srbId srb)
        { state with
          pendingReqList := state.pendingReqList ++
            [⟨srbId, 0, range, srb.setSrbStatus srbStatusAborted⟩] }
  | fetch (index : Nat) (faults : FetchFaults) (status : NtStatus) (after : DemuxState)
      (here : state.dispatchers index = .fetching status)
      (ready : state.daemon.wnbdDisk = true ∧ state.daemon.threads (.dispatcher index) = .idle)
      (fetches : fetchPending mapping state index status faults = some after) :
      DemuxCase (.fetch index faults) after
  | handle (index : Nat) (buffer : Nat → UInt8) (request : WnbdIoRequest) (payload : FetchPayload)
      (call : HandlerCall) (handled : DemuxState)
      (here : state.dispatchers index = .handling request payload)
      (called : handlerCall mapping.props request payload buffer = some call)
      (stepped : daemonStep mapping state (.dispatcher index) (.request call) = some handled) :
      DemuxCase (.handle index buffer) (handled.setDispatcher index (.fetching statusSuccess))
  | daemon (thread : ThreadId) (choice : Choice) (after : DemuxState)
      (own : ownStep choice = true)
      (stepped : daemonStep mapping state thread choice = some after) :
      DemuxCase (.daemon thread choice) after
  | respond (faults : ResponseFaults) (code : UInt32) (response : SubmittedResponse)
      (after : DemuxState) (here : state.daemon.threads .worker = .respond response)
      (stepped : daemonStep mapping (handleResponse state response.command faults).2 .worker
        (.submitted (if ntSuccess (handleResponse state response.command faults).1 then .completed
          else .failed code)) = some after) :
      DemuxCase (.respond faults code) after
  | respondPending (after : DemuxState)
      (stepped : daemonStep mapping state .worker (.submitted .pending) = some after) :
      DemuxCase .respondPending after
  | completePending (index : Nat) (faults : ResponseFaults) (response : SubmittedResponse)
      (daemon : DaemonState) (found : state.daemon.inFlight[index]? = some response)
      (delivered : daemonNext mapping.props.blockSize
        (handleResponse state response.command faults).2.daemon (.responseCompleted index) =
          some daemon) :
      DemuxCase (.completePending index faults)
        { (handleResponse state response.command faults).2 with daemon }
  | serverReads (header : NbdHeader)
      (decoded : decodeHeader (state.daemon.accepted.drop state.serverPosition) = some header) :
      DemuxCase .serverReads
        { state with
          serverPosition := state.serverPosition + nbdRequestSize + header.payloadLength
          outstanding := state.outstanding ++ [header] }
  | serverAnswers (index : Nat) (error : UInt32) (payload : List UInt8) (header : NbdHeader)
      (found : state.outstanding[index]? = some header)
      (conforms : conforming header error payload) :
      DemuxCase (.serverAnswers index error payload)
        { state with
          daemon := { state.daemon with
            incoming := state.daemon.incoming ++
              (⟨header.handle, error, payload⟩ : ServerAnswer).bytes }
          outstanding := state.outstanding.eraseIdx index
          answers := state.answers ++ [⟨header.handle, error, payload⟩] }
  | fetchElsewhere :
      DemuxCase .fetchElsewhere { state with requestHandle := state.requestHandle + 1 }
  | abortPending (request : QueuedRequest) (rest : List QueuedRequest)
      (queue : state.pendingReqList = request :: rest) :
      DemuxCase .abortPending
        ({ state with pendingReqList := rest }.complete request (abortSrb request.srb))
  | abortSubmitted (request : QueuedRequest) (rest : List QueuedRequest)
      (queue : state.submittedReqList = request :: rest) :
      DemuxCase .abortSubmitted
        ({ state with submittedReqList := rest }.complete request (abortSrb request.srb))
  | setDiskSize (blockCount : UInt64) :
      DemuxCase (.setDiskSize blockCount) { state with resized := some blockCount }

end

section

variable {mapping : NbdMapping} {state after : DemuxState}

theorem fetchPending_cases {index : Nat} {status : NtStatus} {faults : FetchFaults}
    (taken : fetchPending mapping state index status faults = some after) :
    FetchCase mapping state index status faults after := by
  unfold fetchPending at taken
  cases queue : state.pendingReqList with
  | nil => simp [queue] at taken
  | cons request rest =>
      simp only [queue] at taken
      cases makes : fetchElement mapping.props dispatcherBufferSize (state.requestHandle + 1)
        request.range request.srb faults with
      | mk requested srb verdict =>
          rw [makes] at taken
          cases verdict with
          | submit payload =>
              cases taken
              exact .submitted request rest _ payload queue makes rfl
          | bufferTooSmall =>
              cases taken
              exact .refused request rest _ _ queue makes nofun (Or.inl ⟨rfl, rfl⟩)
          | invalid | lockFailed _ | noSrbBuffer =>
              cases taken
              exact .refused request rest _ _ queue makes nofun (Or.inr ⟨nofun, rfl⟩)

theorem handleRequest_cases {index : Nat} {buffer : Nat → UInt8}
    (taken : handleRequest mapping state index buffer = some after) :
    DemuxCase mapping state (.handle index buffer) after := by
  unfold handleRequest at taken
  cases here : state.dispatchers index with
  | handling request payload =>
      rw [here] at taken
      obtain ⟨call, called, rest⟩ := Option.bind_eq_some_iff.mp taken
      obtain ⟨handled, stepped, rfl⟩ := Option.map_eq_some_iff.mp rest
      exact .handle index buffer request payload call handled here called stepped
  | _ =>
      rw [here] at taken
      cases taken

theorem respond_cases {faults : ResponseFaults} {code : UInt32}
    (taken : respond mapping state faults code = some after) :
    DemuxCase mapping state (.respond faults code) after := by
  unfold respond at taken
  cases here : state.daemon.threads .worker with
  | respond response =>
      rw [here] at taken
      exact .respond faults code response after here taken
  | _ =>
      rw [here] at taken
      cases taken

theorem completePending_cases {index : Nat} {faults : ResponseFaults}
    (taken : completePending mapping state index faults = some after) :
    DemuxCase mapping state (.completePending index faults) after := by
  obtain ⟨response, found, rest⟩ := Option.bind_eq_some_iff.mp taken
  obtain ⟨daemon, delivered, rfl⟩ := Option.map_eq_some_iff.mp rest
  exact .completePending index faults response daemon found delivered

theorem demuxNext_cases {action : DemuxAction}
    (taken : demuxNext mapping state action = some after) :
    DemuxCase mapping state action after := by
  cases action with
  | diskCreated =>
      cases taken
      exact .diskCreated
  | pend srbId srb =>
      obtain ⟨range, accepted, rfl⟩ := Option.map_eq_some_iff.mp taken
      exact .pend srbId srb range accepted
  | fetch index faults =>
      simp only [demuxNext] at taken
      cases here : state.dispatchers index with
      | fetching status =>
          rw [here] at taken
          obtain ⟨ready, fetches⟩ := Option.ite_none_right_eq_some.mp taken
          exact .fetch index faults status after here ready fetches
      | _ =>
          rw [here] at taken
          cases taken
  | handle index buffer => exact handleRequest_cases taken
  | daemon thread choice =>
      obtain ⟨own, stepped⟩ := Option.ite_none_right_eq_some.mp taken
      exact .daemon thread choice after own stepped
  | respond faults code => exact respond_cases taken
  | respondPending => exact .respondPending after taken
  | completePending index faults => exact completePending_cases taken
  | serverReads =>
      obtain ⟨header, decoded, rfl⟩ := Option.map_eq_some_iff.mp taken
      exact .serverReads header decoded
  | serverAnswers index error payload =>
      obtain ⟨header, found, answers⟩ := Option.bind_eq_some_iff.mp taken
      obtain ⟨conforms, ⟨⟩⟩ := Option.ite_none_right_eq_some.mp answers
      exact .serverAnswers index error payload header found conforms
  | fetchElsewhere =>
      cases taken
      exact .fetchElsewhere
  | abortPending =>
      have drains : abortPending state = some after := taken
      unfold abortPending at drains
      cases queue : state.pendingReqList with
      | nil => simp [queue] at drains
      | cons request rest =>
          simp only [queue] at drains
          cases drains
          exact .abortPending request rest queue
  | abortSubmitted =>
      have drains : abortSubmitted state = some after := taken
      unfold abortSubmitted at drains
      cases queue : state.submittedReqList with
      | nil => simp [queue] at drains
      | cons request rest =>
          simp only [queue] at drains
          cases drains
          exact .abortSubmitted request rest queue
  | setDiskSize blockCount =>
      cases taken
      exact .setDiskSize blockCount

end

end Wnbd.EndToEnd
