import Wnbd.EndToEnd.DemuxCases
import Wnbd.EndToEnd.InStep

/-!
# Steps of the daemon and the server

Each step of an undisturbed daemon moves bytes or moves one handle along the pipeline.
-/

set_option autoImplicit false

namespace Wnbd.EndToEnd

open Wnbd.Scsi Wnbd.Dispatch Wnbd.Nbd BigEndian DaemonState

section

variable {mapping : NbdMapping} {state : DemuxState} {transit : Transit}

/-- Nothing the reply stream depends on has changed. -/
theorem InStep.congr {after : DemuxState} {replies : List ServerAnswer}
    (inStep : InStep state replies)
    (worker : after.daemon.threads .worker = state.daemon.threads .worker)
    (incoming : after.daemon.incoming = state.daemon.incoming)
    (answers : ∀ answer ∈ state.answers, answer ∈ after.answers)
    (fetched : ∀ request ∈ state.fetched, request ∈ after.fetched) : InStep after replies := by
  unfold InStep at inStep ⊢
  rw [worker, incoming]
  cases phase : state.daemon.threads .worker with
  | readPayload request command bytes =>
      rw [phase] at inStep
      obtain ⟨payload, answered, rest⟩ := inStep
      exact ⟨payload, answered.mono answers fetched, rest⟩
  | respond response =>
      rw [phase] at inStep
      exact ⟨inStep.1.mono answers fetched, inStep.2⟩
  | _ =>
      rw [phase] at inStep
      exact inStep

/-! ## Dispatchers -/

theorem waiting_setPhase (base : DaemonState) (index : Nat) (phase : Phase) :
    (fun found => waitingFrame ((base.setPhase (.dispatcher index) phase).threads
      (.dispatcher found))) =
      Function.update (fun found => waitingFrame (base.threads (.dispatcher found))) index
        (waitingFrame phase) := by
  funext found
  by_cases own : found = index
  · subst own
    rw [setPhase_self, Function.update_self]
  · rw [setPhase_of_ne _ _ _ (fun same => own (ThreadId.dispatcher.inj same)),
      Function.update_of_ne own]

theorem waiting_same (base : DaemonState) (index : Nat) (phase : Phase)
    (before : waitingFrame (base.threads (.dispatcher index)) = none)
    (now : waitingFrame phase = none) :
    (fun found => waitingFrame ((base.setPhase (.dispatcher index) phase).threads
      (.dispatcher found))) = fun found => waitingFrame (base.threads (.dispatcher found)) := by
  rw [waiting_setPhase, now, ← before]
  exact Function.update_eq_self index fun found => waitingFrame (base.threads (.dispatcher found))

theorem waiting_worker (base : DaemonState) (phase : Phase) :
    (fun found => waitingFrame ((base.setPhase .worker phase).threads (.dispatcher found))) =
      fun found => waitingFrame (base.threads (.dispatcher found)) := by
  funext found
  rw [setPhase_of_ne _ _ _ ThreadId.noConfusion]

theorem worker_setPhase (base : DaemonState) (index : Nat) (phase : Phase) :
    (base.setPhase (.dispatcher index) phase).threads .worker = base.threads .worker :=
  setPhase_of_ne _ _ _ ThreadId.noConfusion

theorem Calm.only_sender {daemon : DaemonState} (calm : Calm daemon) (thread : ThreadId)
    (holds : (daemon.threads thread).holdsSendLock = true) (found : ThreadId)
    (other : found ≠ thread) (frame : List UInt8) (sent : Nat) (purpose : Purpose) :
    daemon.threads found ≠ .send frame sent purpose := by
  intro here
  exact other (calm.locks.send.unique (by rw [here]; rfl) holds)

theorem Calm.nobody_sends {daemon : DaemonState} (calm : Calm daemon)
    (free : daemon.sendLock = none) (found : ThreadId) (frame : List UInt8) (sent : Nat)
    (purpose : Purpose) : daemon.threads found ≠ .send frame sent purpose := by
  intro here
  have outside := (free ▸ calm.locks.send).free found
  rw [here] at outside
  cases outside

theorem DemuxInv.acquire (inv : DemuxInv mapping state transit) (index : Nat) (frame : List UInt8)
    (after : DaemonState) (calm : Calm after)
    (here : state.daemon.threads (.dispatcher index) = .lockSend frame .request)
    (free : state.daemon.sendLock = none)
    (same : after = { state.daemon with
      sendLock := some (.dispatcher index)
      issued := state.daemon.issued ++ [frame] }.setPhase (.dispatcher index)
        (.send frame 0 .request)) :
    ∃ later, DemuxInv mapping { state with daemon := after } later := by
  subst same
  have unsent := inv.wire.resting (inv.calm.nobody_sends free)
  have arrived := inv.wire.output
  have position := inv.wire.position
  rw [unsent, List.append_nil] at arrived position
  refine ⟨⟨transit.frames ++ [frame], frame, transit.replies⟩, calm, ?_, ?_⟩
  · refine
      { inv.wire with
        sending := fun thread other sent purpose sends => ?_
        resting := fun nobody => ?_
        position := ?_
        output := ?_
        input := inv.wire.input.congr (worker_setPhase _ _ _) rfl (fun _ => id) fun _ => id
        answered := inv.wire.answered }
    · by_cases own : thread = .dispatcher index
      · rw [own, setPhase_self] at sends
        cases sends
        rfl
      · rw [setPhase_of_ne _ _ _ own] at sends
        exact absurd sends (inv.calm.nobody_sends free thread other sent purpose)
    · exact absurd (setPhase_self _ _ _) (nobody (.dispatcher index) frame 0 .request)
    · change state.serverPosition ≤ (state.daemon.accepted ++ frame).length
      rw [List.length_append]
      omega
    · change (state.daemon.accepted ++ frame).drop state.serverPosition = _
      rw [List.drop_append_of_le_length position, arrived, List.flatten_append,
        List.flatten_singleton]
  · have issued := inv.pipeline.issue index frame (by
      change waitingFrame (state.daemon.threads (.dispatcher index)) = some frame
      rw [here]
      rfl)
    unfold DemuxState.pipeline at issued ⊢
    dsimp only at issued ⊢
    rw [waiting_setPhase, worker_setPhase]
    exact issued

theorem DemuxInv.accept (inv : DemuxInv mapping state transit) (index : Nat) (frame : List UInt8)
    (sent count : Nat) (after : DaemonState) (calm : Calm after)
    (here : state.daemon.threads (.dispatcher index) = .send frame sent .request)
    (same : after = { state.daemon with
      accepted := state.daemon.accepted ++ (frame.drop sent).take count }.setPhase
        (.dispatcher index)
        (if sent + count = frame.length then .unlockSend false .request
          else .send frame (sent + count) .request)) :
    ∃ later, DemuxInv mapping { state with daemon := after } later := by
  subst same
  have unsent := inv.wire.sending _ frame sent .request here
  have onlyOne := inv.calm.only_sender (.dispatcher index) (by rw [here]; rfl)
  have total : state.daemon.accepted ++ (frame.drop sent).take count ++ frame.drop (sent + count) =
      state.daemon.accepted ++ transit.unsent := by
    rw [unsent, List.append_assoc, ← List.drop_drop, List.take_append_drop]
  refine ⟨⟨transit.frames, frame.drop (sent + count), transit.replies⟩, calm, ?_, ?_⟩
  · refine
      { inv.wire with
        sending := fun thread other otherSent purpose sends => ?_
        resting := fun nobody => ?_
        position := ?_
        output := ?_
        input := inv.wire.input.congr (worker_setPhase _ _ _) rfl (fun _ => id) fun _ => id
        answered := inv.wire.answered }
    · by_cases own : thread = .dispatcher index
      · rw [own, setPhase_self] at sends
        split at sends
        · cases sends
        · cases sends
          rfl
      · rw [setPhase_of_ne _ _ _ own] at sends
        exact absurd sends (onlyOne thread own other otherSent purpose)
    · by_cases complete : sent + count = frame.length
      · change frame.drop (sent + count) = []
        rw [complete, List.drop_length]
      · refine absurd ?_ (nobody (.dispatcher index) frame (sent + count) .request)
        rw [setPhase_self, if_neg complete]
    · change state.serverPosition ≤ (state.daemon.accepted ++ (frame.drop sent).take count ++
        frame.drop (sent + count)).length
      rw [total]
      exact inv.wire.position
    · change (state.daemon.accepted ++ (frame.drop sent).take count ++
        frame.drop (sent + count)).drop state.serverPosition = _
      rw [total]
      exact inv.wire.output
  · have pipeline := inv.pipeline
    unfold DemuxState.pipeline at pipeline ⊢
    dsimp only at pipeline ⊢
    rw [waiting_same _ _ _ (by change waitingFrame (state.daemon.threads _) = _; rw [here]; rfl)
      (by split <;> rfl), worker_setPhase]
    exact pipeline

theorem DemuxInv.release (inv : DemuxInv mapping state transit) (index : Nat)
    (after : DaemonState) (calm : Calm after)
    (here : state.daemon.threads (.dispatcher index) = .unlockSend false .request)
    (same : after =
      { state.daemon with sendLock := none }.setPhase (.dispatcher index) .idle) :
    ∃ later, DemuxInv mapping { state with daemon := after } later := by
  subst same
  have onlyOne := inv.calm.only_sender (.dispatcher index) (by rw [here]; rfl)
  have nobody : ∀ thread frame sent purpose,
      state.daemon.threads thread ≠ .send frame sent purpose := by
    intro thread frame sent purpose sends
    by_cases own : thread = .dispatcher index
    · rw [own, here] at sends
      cases sends
    · exact onlyOne thread own frame sent purpose sends
  refine ⟨transit, calm, ?_, ?_⟩
  · refine
      { inv.wire with
        sending := fun thread frame sent purpose sends => ?_
        resting := fun _ => inv.wire.resting nobody
        position := inv.wire.position
        output := inv.wire.output
        input := inv.wire.input.congr (worker_setPhase _ _ _) rfl (fun _ => id) fun _ => id
        answered := inv.wire.answered }
    by_cases own : thread = .dispatcher index
    · rw [own, setPhase_self] at sends
      cases sends
    · rw [setPhase_of_ne _ _ _ own] at sends
      exact absurd sends (nobody thread frame sent purpose)
  · have pipeline := inv.pipeline
    unfold DemuxState.pipeline at pipeline ⊢
    dsimp only at pipeline ⊢
    rw [waiting_same _ _ _ (by change waitingFrame (state.daemon.threads _) = _; rw [here]; rfl)
      rfl, worker_setPhase]
    exact pipeline

/-! ## The worker -/

theorem DemuxInv.workerWire (inv : DemuxInv mapping state transit) (after : DaemonState)
    (replies : List ServerAnswer) (calm : Calm after)
    (others : ∀ thread, thread ≠ .worker → after.threads thread = state.daemon.threads thread)
    (accepted : after.accepted = state.daemon.accepted)
    (input : InStep { state with daemon := after } replies)
    (history : ∃ taken, state.answers = taken ++ replies)
    (answered : ∀ response, response ∈ after.inFlight ∨
      (∃ done ∈ after.delivered, done.response = response) → Answered state response) :
    WireInv { state with daemon := after } { transit with replies } := by
  have unmoved : ∀ thread frame sent purpose, after.threads thread = .send frame sent purpose ↔
      state.daemon.threads thread = .send frame sent purpose := by
    intro thread frame sent purpose
    by_cases own : thread = .worker
    · subst own
      have notNow : after.threads .worker ≠ .send frame sent purpose := by
        intro sends
        obtain ⟨index, same⟩ := calm.senders .worker (by rw [sends]; rfl)
        cases same
      have notBefore : state.daemon.threads .worker ≠ .send frame sent purpose := by
        intro sends
        obtain ⟨index, same⟩ := inv.calm.senders .worker (by rw [sends]; rfl)
        cases same
      exact iff_of_false notNow notBefore
    · rw [others thread own]
  refine ⟨fun thread frame sent purpose sends =>
    inv.wire.sending thread frame sent purpose ((unmoved _ _ _ _).mp sends), fun nobody =>
    inv.wire.resting fun thread frame sent purpose sends =>
      nobody thread frame sent purpose ((unmoved _ _ _ _).mpr sends), ?_, ?_, input, history, ?_⟩
  · change state.serverPosition ≤ (after.accepted ++ transit.unsent).length
    rw [accepted]
    exact inv.wire.position
  · change (after.accepted ++ transit.unsent).drop state.serverPosition = _
    rw [accepted]
    exact inv.wire.output
  · intro response found
    exact (answered response found).mono (fun _ => id) fun _ => id

theorem DemuxInv.worker (inv : DemuxInv mapping state transit) (after : DaemonState)
    (replies : List ServerAnswer) (calm : Calm after)
    (others : ∀ thread, thread ≠ .worker → after.threads thread = state.daemon.threads thread)
    (accepted : after.accepted = state.daemon.accepted)
    (input : InStep { state with daemon := after } replies)
    (history : ∃ taken, state.answers = taken ++ replies)
    (answered : ∀ response, response ∈ after.inFlight ∨
      (∃ done ∈ after.delivered, done.response = response) → Answered state response)
    (pipeline : PipelineInv mapping
      (DemuxState.pipeline { state with daemon := after } { transit with replies })) :
    DemuxInv mapping { state with daemon := after } { transit with replies } :=
  ⟨calm, inv.workerWire after replies calm others accepted input history answered, pipeline⟩

theorem received_cases {daemon base : DaemonState} {missing count : Nat} {piece : List UInt8}
    (arrived : received daemon missing count = some (piece, base)) :
    count ≤ missing ∧ piece = daemon.incoming.take count ∧ piece.length = count ∧
      base = { daemon with incoming := daemon.incoming.drop count } := by
  unfold received at arrived
  obtain ⟨⟨_, _, asked, available⟩, same⟩ := Option.ite_none_right_eq_some.mp arrived
  rw [Option.some.injEq, Prod.mk.injEq] at same
  obtain ⟨rfl, rfl⟩ := same
  exact ⟨asked, rfl, by rw [List.length_take, Nat.min_eq_left available], rfl⟩

theorem DemuxInv.header (inv : DemuxInv mapping state transit) (bytes piece : List UInt8)
    (count : Nat) (base : DaemonState)
    (calm : Calm (base.setPhase .worker (.readHeader (bytes ++ piece))))
    (here : state.daemon.threads .worker = .readHeader bytes)
    (arrived : received state.daemon (nbdReplySize - bytes.length) count = some (piece, base)) :
    DemuxInv mapping
      { state with daemon := base.setPhase .worker (.readHeader (bytes ++ piece)) } transit := by
  obtain ⟨asked, rfl, exact, rfl⟩ := received_cases arrived
  have inStep := inv.wire.input
  unfold InStep at inStep
  rw [here] at inStep
  obtain ⟨short, stream⟩ := inStep
  refine inv.worker _ transit.replies calm (fun thread different => setPhase_of_ne _ _ _ different)
    rfl ?_ inv.wire.history inv.wire.answered ?_
  · unfold InStep
    dsimp only
    rw [setPhase_self]
    refine ⟨?_, ?_⟩
    · rw [List.length_append, exact]
      omega
    · change bytes ++ state.daemon.incoming.take count ++ state.daemon.incoming.drop count = _
      rw [List.append_assoc, List.take_append_drop, stream]
  · have pipeline := inv.pipeline
    unfold DemuxState.pipeline at pipeline ⊢
    dsimp only at pipeline ⊢
    rw [waiting_worker, setPhase_self]
    rw [here] at pipeline
    exact pipeline

theorem DemuxInv.payload (inv : DemuxInv mapping state transit) (request : PendingRequestInfo)
    (command : SendRspCommand) (bytes piece : List UInt8) (count : Nat) (base after : DaemonState)
    (calm : Calm after)
    (here : state.daemon.threads .worker = .readPayload request command bytes)
    (arrived : received state.daemon (request.length.toNat - bytes.length) count =
      some (piece, base))
    (same : after = (base.fillBuffer bytes.length piece).setPhase .worker
      (if bytes.length + count = request.length.toNat then
        .respond ⟨request.requestType, command, bytes ++ piece⟩
      else .readPayload request command (bytes ++ piece))) :
    DemuxInv mapping { state with daemon := after } transit := by
  subst same
  obtain ⟨asked, rfl, exact, rfl⟩ := received_cases arrived
  have inStep := inv.wire.input
  unfold InStep at inStep
  rw [here] at inStep
  obtain ⟨payload, answered, whole, short, stream⟩ := inStep
  have moved : bytes ++ state.daemon.incoming.take count ++ state.daemon.incoming.drop count =
      payload ++ repliesBytes transit.replies := by
    rw [List.append_assoc, List.take_append_drop, stream]
  refine inv.worker _ transit.replies calm (fun thread different => setPhase_of_ne _ _ _ different)
    rfl ?_ inv.wire.history inv.wire.answered ?_
  · unfold InStep
    dsimp only
    rw [setPhase_self]
    by_cases complete : bytes.length + count = request.length.toNat
    · -- The last piece completes the payload the server sent.
      obtain ⟨received, left⟩ := List.append_inj moved (by
        rw [List.length_append, exact, complete, whole])
      rw [if_pos complete]
      dsimp only
      rw [received]
      exact ⟨answered, left⟩
    · rw [if_neg complete]
      refine ⟨payload, answered, whole, ?_, moved⟩
      rw [List.length_append, exact]
      omega
  · have pipeline := inv.pipeline
    unfold DemuxState.pipeline at pipeline ⊢
    dsimp only at pipeline ⊢
    rw [waiting_worker, setPhase_self]
    rw [here] at pipeline
    have handle : workerHandle (if bytes.length + count = request.length.toNat then
        .respond ⟨request.requestType, command, bytes ++ state.daemon.incoming.take count⟩
      else .readPayload request command (bytes ++ state.daemon.incoming.take count)) =
        some command.requestHandle := by
      split <;> rfl
    rw [handle]
    exact pipeline

/-- The worker's phases between two replies. -/
def restsPhase : Phase → Bool
  | .createEvent | .testTerminated | .resetEvent | .checkStatus _ | .awaitResponse => true
  | _ => false

theorem DemuxInv.turn (inv : DemuxInv mapping state transit) (event : Bool) (phase : Phase)
    (calm : Calm ({ state.daemon with overlappedEvent := event }.setPhase .worker phase))
    (here : restsPhase (state.daemon.threads .worker) = true)
    (next : phase = .testTerminated ∨ phase = .resetEvent ∨ phase = .readHeader [] ∨
      phase = .awaitResponse) :
    DemuxInv mapping
      { state with
        daemon := { state.daemon with overlappedEvent := event }.setPhase .worker phase }
      transit := by
  have inStep := inv.wire.input
  have before : workerHandle (state.daemon.threads .worker) = none ∧
      state.daemon.incoming = repliesBytes transit.replies := by
    unfold InStep at inStep
    generalize state.daemon.threads .worker = old at here inStep
    cases old <;> first | exact ⟨rfl, inStep⟩ | cases here
  have now : workerHandle phase = none := by
    rcases next with rfl | rfl | rfl | rfl <;> rfl
  refine inv.worker _ transit.replies calm (fun thread different => setPhase_of_ne _ _ _ different)
    rfl ?_ inv.wire.history inv.wire.answered ?_
  · unfold InStep
    dsimp only
    rw [setPhase_self]
    rcases next with rfl | rfl | rfl | rfl
    · exact before.2
    · exact before.2
    · exact ⟨Nat.zero_le _, before.2⟩
    · exact before.2
  · have pipeline := inv.pipeline
    unfold DemuxState.pipeline at pipeline ⊢
    dsimp only at pipeline ⊢
    rw [waiting_worker, setPhase_self, now]
    rw [before.1] at pipeline
    exact pipeline

/-! ## A reply -/

/-- The response to a conforming answer always exists. -/
theorem nbdResponse_answer (info : PendingRequestInfo) (answer : ServerAnswer)
    (fits : info.requestType = .read → info.length ≤ preallocatedRBuffSz)
    (replyOf : ReplyOf info answer) :
    ∃ command, nbdResponse info ⟨answer.error, answer.handle⟩ = .ok command ∧
      RespondsTo answer ⟨info.requestType, command, answer.payload⟩ ∧
      answer.payload.length = if command.hasBuffer then info.length.toNat else 0 := by
  unfold ReplyOf at replyOf
  rw [nbdResponse]
  dsimp only
  by_cases reads : answer.error = 0 ∧ info.requestType = .read
  · have small : ¬ info.length > preallocatedRBuffSz := UInt32.not_lt.mpr (fits reads.2)
    rw [if_pos reads] at replyOf ⊢
    rw [nbdGetReadResponseBufferSize, if_neg small, if_neg (not_not.mpr reads.1)]
    refine ⟨_, rfl, ⟨rfl, ?_, ?_, nofun, replyOf.symm, rfl⟩, replyOf⟩
    · exact iff_of_false (not_not.mpr rfl) (not_not.mpr reads.1)
    · exact iff_of_true rfl ⟨reads.2, reads.1⟩
  · rw [if_neg reads] at replyOf ⊢
    refine ⟨_, rfl, ⟨rfl, ?_, ?_, fun _ => rfl, replyOf.symm, rfl⟩, replyOf⟩
    · dsimp only
      split
      case isTrue failed => exact iff_of_true (by decide) failed
      case isFalse succeeded => exact iff_of_false (not_not.mpr rfl) succeeded
    · exact iff_of_false Bool.false_ne_true fun both => reads ⟨both.2, both.1⟩

theorem DemuxInv.reply (inv : DemuxInv mapping state transit) (bytes : List UInt8)
    (here : state.daemon.threads .worker = .readHeader bytes)
    (full : bytes.length = nbdReplySize) :
    ∃ answer rest info, transit.replies = answer :: rest ∧
      nbdReadReply bytes = .ok ⟨answer.error, answer.handle⟩ ∧
      state.daemon.incoming = answer.payload ++ repliesBytes rest ∧
      state.daemon.pendingRequests answer.handle = some info ∧ ReplyOf info answer ∧
      info.requestHandle = answer.handle ∧ EntryOf state.submittedReqList info := by
  have inStep := inv.wire.input
  unfold InStep at inStep
  rw [here] at inStep
  obtain ⟨_, stream⟩ := inStep
  cases replies : transit.replies with
  | nil =>
      rw [replies] at stream
      have none : bytes = [] := (List.append_eq_nil_iff.mp stream).1
      rw [none] at full
      cases full
  | cons answer rest =>
      rw [replies] at stream
      have split : bytes ++ state.daemon.incoming = answer.bytes ++ repliesBytes rest := stream
      obtain ⟨read, left⟩ := nbdReadReply_bytes answer (repliesBytes rest) bytes
        (by rw [← split, List.take_left' full])
      rw [← split, List.drop_left' full] at left
      obtain ⟨info, entered, replyOf⟩ := inv.pipeline.replyEntry answer
        (by change answer ∈ transit.replies; rw [replies]; exact List.mem_cons_self)
      obtain ⟨registered, entry, _⟩ := inv.pipeline.entered answer.handle info entered
      exact ⟨answer, rest, info, rfl, read, left, entered, replyOf, registered, entry⟩

theorem Calm.landed {daemon : DaemonState} (calm : Calm daemon)
    (resting : (daemon.threads .worker).awaits daemon.terminated = false) :
    daemon.inFlight = [] :=
  calm.buffer.landed resting

theorem demultiplex_reply (daemon : DaemonState) (bytes : List UInt8) (answer : ServerAnswer)
    (info : PendingRequestInfo) (command : SendRspCommand)
    (read : nbdReadReply bytes = .ok ⟨answer.error, answer.handle⟩)
    (entered : daemon.pendingRequests answer.handle = some info)
    (responds : nbdResponse info ⟨answer.error, answer.handle⟩ = .ok command) :
    demultiplex daemon .worker bytes =
      { daemon with
        pendingRequests := Function.update daemon.pendingRequests answer.handle none }.setPhase
        .worker (if command.hasBuffer ∧ info.length ≠ 0 then .readPayload info command []
          else .respond ⟨info.requestType, command, []⟩) := by
  rw [demultiplex, read]
  dsimp only
  rw [processNbdReply]
  dsimp only
  rw [entered]
  dsimp only
  rw [responds]

theorem DemuxInv.demultiplex (inv : DemuxInv mapping state transit) (bytes : List UInt8)
    (here : state.daemon.threads .worker = .readHeader bytes)
    (full : bytes.length = nbdReplySize)
    (calmAfter : ∀ after, after = Nbd.demultiplex state.daemon .worker bytes →
      servesPhase (after.threads .worker) = true → (after.threads .worker).sendScope = false →
      (∀ thread, thread ≠ .worker → after.threads thread = state.daemon.threads thread) →
      after.socket = state.daemon.socket → after.terminated = state.daemon.terminated →
      after.terminateInProgress = state.daemon.terminateInProgress → Calm after) :
    ∃ later, DemuxInv mapping
      { state with daemon := Nbd.demultiplex state.daemon .worker bytes } later := by
  obtain ⟨answer, rest, info, replies, read, incoming, entered, replyOf, registered, entry⟩ :=
    inv.reply bytes here full
  obtain ⟨request, submitted, tagged, kind, fits⟩ := entry
  obtain ⟨command, responds, respondsTo, size⟩ := nbdResponse_answer info answer fits replyOf
  have landed : state.daemon.inFlight = [] := inv.calm.landed (by rw [here]; rfl)
  have result := demultiplex_reply state.daemon bytes answer info command read entered responds
  have member : answer ∈ state.answers := by
    obtain ⟨taken, all⟩ := inv.wire.history
    rw [all, replies]
    exact List.mem_append_right _ List.mem_cons_self
  have answered : Answered state ⟨info.requestType, command, answer.payload⟩ :=
    ⟨⟨answer, member, respondsTo⟩, request, inv.pipeline.submittedFetched request submitted,
      tagged.trans (registered.trans respondsTo.handle.symm), kind⟩
  generalize phaseIs : (if command.hasBuffer ∧ info.length ≠ 0 then .readPayload info command []
    else .respond ⟨info.requestType, command, []⟩ : Phase) = phase at result
  have serves : servesPhase phase = true ∧ phase.sendScope = false ∧
      workerHandle phase = some answer.handle := by
    rw [← phaseIs]
    split
    · exact ⟨rfl, rfl, congrArg some respondsTo.handle⟩
    · exact ⟨rfl, rfl, congrArg some respondsTo.handle⟩
  have calm := calmAfter _ result.symm (by rw [setPhase_self]; exact serves.1)
    (by rw [setPhase_self]; exact serves.2.1)
    (fun thread different => setPhase_of_ne _ _ _ different) rfl rfl rfl
  rw [result]
  refine ⟨{ transit with replies := rest }, inv.worker _ rest calm
    (fun thread different => setPhase_of_ne _ _ _ different) rfl ?_ ?_ inv.wire.answered ?_⟩
  · unfold InStep
    dsimp only
    rw [setPhase_self, ← phaseIs]
    by_cases payload : command.hasBuffer = true ∧ info.length ≠ 0
    · rw [if_pos payload]
      rw [if_pos payload.1] at size
      refine ⟨answer.payload, answered.mono (fun _ => id) fun _ => id, size, ?_, incoming⟩
      exact Nat.pos_of_ne_zero fun zero => payload.2 (UInt32.toNat_inj.mp zero)
    · have empty : answer.payload = [] := by
        rw [← List.length_eq_zero_iff, size]
        split
        case isTrue has =>
          have zero : info.length = 0 := by
            by_contra nonzero
            exact payload ⟨has, nonzero⟩
          rw [zero]
          rfl
        case isFalse => rfl
      rw [if_neg payload]
      rw [empty] at answered incoming
      exact ⟨answered.mono (fun _ => id) fun _ => id, incoming⟩
  · obtain ⟨taken, all⟩ := inv.wire.history
    exact ⟨taken ++ [answer], by rw [all, replies, List.append_assoc, List.singleton_append]⟩
  · have idle : (state.pipeline transit).current = [] := by
      change (workerHandle (state.daemon.threads .worker)).toList ++ _ = []
      rw [here, landed]
      rfl
    have taken := inv.pipeline.take answer rest replies idle
    unfold DemuxState.pipeline at taken ⊢
    dsimp only at taken ⊢
    have flight : ({ state.daemon with
        pendingRequests := Function.update state.daemon.pendingRequests answer.handle none
        }.setPhase .worker phase).inFlight = [] := landed
    rw [waiting_worker, setPhase_self, serves.2.2, flight]
    exact taken

/-! ## Any quiet step -/

theorem DemuxInv.daemonStep (inv : DemuxInv mapping state transit) (thread : ThreadId)
    (choice : Choice) (quiet : quietChoice choice = true) (after : DemuxState)
    (taken : daemonStep mapping state thread choice = some after) :
    ∃ later, DemuxInv mapping after later := by
  obtain ⟨daemon, stepped, rfl⟩ := Option.map_eq_some_iff.mp taken
  have step := quietStep_of inv.calm quiet stepped
  have calm := inv.calm.step stepped
  cases step with
  | acquire index frame here free =>
      exact inv.acquire index frame _
        (calm (fun other different => setPhase_of_ne _ _ _ different) (by rw [setPhase_self]; rfl)
          (fun _ => ⟨index, rfl⟩) rfl rfl rfl) here free rfl
  | accept index frame sent count here positive fits =>
      refine inv.accept index frame sent count _
        (calm (fun other different => setPhase_of_ne _ _ _ different) ?_ (fun _ => ⟨index, rfl⟩)
          rfl rfl rfl) here rfl
      rw [setPhase_self]
      split <;> rfl
  | release index here =>
      exact inv.release index _
        (calm (fun other different => setPhase_of_ne _ _ _ different) (by rw [setPhase_self]; rfl)
          (fun _ => ⟨index, rfl⟩) rfl rfl rfl) here rfl
  | header bytes piece count base here arrived =>
      refine ⟨transit, inv.header bytes piece count base ?_ here arrived⟩
      obtain ⟨_, _, _, rfl⟩ := received_cases arrived
      exact calm (fun other different => setPhase_of_ne _ _ _ different)
        (by rw [setPhase_self]; rfl) (by rw [setPhase_self]; nofun) rfl rfl rfl
  | demultiplex bytes here full =>
      refine inv.demultiplex bytes here full ?_
      rintro _ rfl serves unsent others socket terminated terminating
      refine calm others serves (fun sends => ?_) socket terminated terminating
      rw [unsent] at sends
      cases sends
  | payload request command bytes piece count base here arrived =>
      refine ⟨transit, inv.payload request command bytes piece count base _ ?_ here arrived rfl⟩
      obtain ⟨_, _, _, rfl⟩ := received_cases arrived
      refine calm (fun other different => setPhase_of_ne _ _ _ different) ?_ ?_ rfl rfl rfl
      · rw [setPhase_self]
        split <;> rfl
      · rw [setPhase_self]
        split <;> nofun
  | create here =>
      refine ⟨transit, inv.turn true .testTerminated ?_ (by rw [here]; rfl) (Or.inl rfl)⟩
      exact calm (fun other different => setPhase_of_ne _ _ _ different) (by rw [setPhase_self]; rfl)
        (by rw [setPhase_self]; nofun) rfl rfl rfl
  | test here =>
      refine ⟨transit, inv.turn state.daemon.overlappedEvent .resetEvent ?_ (by rw [here]; rfl)
        (Or.inr (Or.inl rfl))⟩
      exact calm (fun other different => setPhase_of_ne _ _ _ different) (by rw [setPhase_self]; rfl)
        (by rw [setPhase_self]; nofun) rfl rfl rfl
  | reset here =>
      refine ⟨transit, inv.turn false (.readHeader []) ?_ (by rw [here]; rfl)
        (Or.inr (Or.inr (Or.inl rfl)))⟩
      exact calm (fun other different => setPhase_of_ne _ _ _ different) (by rw [setPhase_self]; rfl)
        (by rw [setPhase_self]; nofun) rfl rfl rfl
  | checkDone here | wake here =>
      refine ⟨transit, inv.turn state.daemon.overlappedEvent .testTerminated ?_ (by rw [here]; rfl)
        (Or.inl rfl)⟩
      exact calm (fun other different => setPhase_of_ne _ _ _ different) (by rw [setPhase_self]; rfl)
        (by rw [setPhase_self]; nofun) rfl rfl rfl
  | checkPending here =>
      refine ⟨transit, inv.turn state.daemon.overlappedEvent .awaitResponse ?_ (by rw [here]; rfl)
        (Or.inr (Or.inr (Or.inr rfl)))⟩
      exact calm (fun other different => setPhase_of_ne _ _ _ different) (by rw [setPhase_self]; rfl)
        (by rw [setPhase_self]; nofun) rfl rfl rfl

/-! ## The server -/

theorem DemuxInv.serverReads (inv : DemuxInv mapping state transit) (after : DemuxState)
    (taken : serverReads state = some after) : ∃ later, DemuxInv mapping after later := by
  obtain ⟨header, decoded, rfl⟩ := Option.map_eq_some_iff.mp taken
  have long := decodeHeader_long decoded
  have inside : state.serverPosition ≤ state.daemon.accepted.length := by
    rw [List.length_drop, nbdRequestSize] at long
    omega
  have output := inv.wire.output
  have whole : ∀ frame ∈ transit.frames, nbdRequestSize ≤ frame.length := by
    intro frame member
    obtain ⟨_, _, _, _, _, size⟩ := inv.pipeline.frameEntry frame member
    rw [size]
    exact Nat.le_add_right _ _
  have stream := output
  rw [List.drop_append_of_le_length inside] at stream
  obtain ⟨frame, more, frames, framed⟩ :=
    header_of_stream _ _ transit.frames stream whole header decoded
  obtain ⟨_, _, known, knownDecoded, _, size⟩ := inv.pipeline.frameEntry frame
    (by change frame ∈ transit.frames; rw [frames]; exact List.mem_cons_self)
  obtain rfl : header = known := Option.some.inj (framed.symm.trans knownDecoded)
  rw [frames, List.flatten_cons] at output
  have length := congrArg List.length output
  have front : (frame ++ more.flatten).length = frame.length + more.flatten.length :=
    List.length_append
  rw [List.length_drop, front] at length
  have position := inv.wire.position
  refine ⟨{ transit with frames := more }, inv.calm, ?_, ?_⟩
  · refine
      { inv.wire with
        position := ?_
        output := ?_
        input := inv.wire.input.congr rfl rfl (fun _ => id) fun _ => id
        answered := inv.wire.answered }
    · change state.serverPosition + nbdRequestSize + header.payloadLength ≤
        (state.daemon.accepted ++ transit.unsent).length
      omega
    · change (state.daemon.accepted ++ transit.unsent).drop
        (state.serverPosition + nbdRequestSize + header.payloadLength) = more.flatten
      rw [Nat.add_assoc, ← size, ← List.drop_drop, output, List.drop_left]
  · exact inv.pipeline.read frame more header frames framed

theorem repliesBytes_append (replies : List ServerAnswer) (answer : ServerAnswer) :
    repliesBytes (replies ++ [answer]) = repliesBytes replies ++ answer.bytes := by
  simp [repliesBytes]

theorem DemuxInv.serverAnswers (inv : DemuxInv mapping state transit) (index : Nat)
    (error : UInt32) (payload : List UInt8) (after : DemuxState)
    (taken : serverAnswers state index error payload = some after) :
    ∃ later, DemuxInv mapping after later := by
  obtain ⟨header, found, answers⟩ := Option.bind_eq_some_iff.mp taken
  obtain ⟨conforms, same⟩ := Option.ite_none_right_eq_some.mp answers
  cases same
  have mono : ∀ response, Answered state response → Answered
      { state with answers := state.answers ++ [⟨header.handle, error, payload⟩] } response :=
    fun response answered => answered.mono (fun _ => List.mem_append_left _) fun _ => id
  have appended : ∀ front : List UInt8, front = repliesBytes transit.replies →
      front ++ (⟨header.handle, error, payload⟩ : ServerAnswer).bytes =
        repliesBytes (transit.replies ++ [⟨header.handle, error, payload⟩]) := by
    intro front same
    rw [repliesBytes_append, same]
  refine ⟨{ transit with replies := transit.replies ++ [⟨header.handle, error, payload⟩] },
    ⟨inv.calm.serving, inv.calm.senders, inv.calm.connected, inv.calm.running,
      inv.calm.undisturbed, ⟨inv.calm.locks.send, inv.calm.locks.shutdown⟩,
      ⟨inv.calm.buffer.roles, inv.calm.buffer.delivered, inv.calm.buffer.loaded,
        inv.calm.buffer.flying⟩⟩, ?_, ?_⟩
  · refine
      { inv.wire with
        input := ?_
        history := ?_
        answered := fun response found => mono response (inv.wire.answered response found) }
    · have inStep := inv.wire.input
      unfold InStep at inStep ⊢
      dsimp only at inStep ⊢
      cases phase : state.daemon.threads .worker with
      | readHeader bytes =>
          rw [phase] at inStep
          refine ⟨inStep.1, ?_⟩
          rw [← List.append_assoc]
          exact appended _ inStep.2
      | readPayload request command bytes =>
          rw [phase] at inStep
          obtain ⟨payload, answered, whole, short, stream⟩ := inStep
          refine ⟨payload, mono _ answered, whole, short, ?_⟩
          rw [← List.append_assoc, stream, List.append_assoc, repliesBytes_append]
      | respond response =>
          rw [phase] at inStep
          exact ⟨mono _ inStep.1, appended _ inStep.2⟩
      | _ =>
          rw [phase] at inStep
          exact appended _ inStep
    · obtain ⟨taken, all⟩ := inv.wire.history
      exact ⟨taken, by rw [all, List.append_assoc]⟩
  · have moved := inv.pipeline.answer index header error payload found conforms
    unfold DemuxState.pipeline at moved ⊢
    dsimp only at moved ⊢
    rw [List.map_append]
    exact moved

end

end Wnbd.EndToEnd
