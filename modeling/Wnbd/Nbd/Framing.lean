import Wnbd.Nbd.ThreadSteps

/-!
# Whole frames on the connection

Between two holders of `SendLock` the connection has accepted whole request
frames; inside, it has accepted the front of one more.  A `SendExact` that gives up inside
a frame leaves that front behind, and nothing in the daemon keeps the next holder
from sending after it.
-/

set_option autoImplicit false

namespace Wnbd.Nbd

open DaemonState StepSystem

/-- The payload length a server reads from a request header: only writes carry one. -/
def NbdHeader.payloadLength (header : NbdHeader) : Nat :=
  if header.type &&& 0xFFFF = nbdCmdWrite then header.length.toNat else 0

/-- A header and exactly the payload it announces. -/
def WholeFrame (frame : List UInt8) : Prop :=
  ∃ header, decodeHeader frame = some header ∧
    frame.length = nbdRequestSize + header.payloadLength

/-- The frame of a handler call or of `DisconnectNbd`. -/
def DaemonFrame (blockSize : UInt32) (frame : List UInt8) : Prop :=
  frame = nbdDisconnectFrame ∨ ∃ call : HandlerCall, frame = (call.sent blockSize).frame

theorem wholeFrame_bare (offset : UInt64) (length : UInt32) (handle : UInt64) (type : UInt32)
    (bare : type &&& 0xFFFF ≠ nbdCmdWrite) :
    WholeFrame (nbdRequest offset length handle type) := by
  have decoded := decodeHeader_encode offset length handle type []
  rw [List.append_nil] at decoded
  refine ⟨_, decoded, ?_⟩
  rw [nbdRequest, nbdEncodeRequest_length, NbdHeader.payloadLength, if_neg bare]
  rfl

theorem wholeFrame_write (offset : UInt64) (length : UInt32) (data : Nat → UInt8)
    (handle : UInt64) (flags : UInt32) (write : (nbdCmdWrite ||| flags) &&& 0xFFFF = nbdCmdWrite) :
    WholeFrame (nbdSendWrite offset length data handle flags) := by
  refine ⟨_, decodeHeader_encode offset length handle _ _, ?_⟩
  rw [nbdSendWrite, List.length_append, nbdEncodeRequest_length, List.length_map,
    List.length_range, NbdHeader.payloadLength, if_pos write]
  rfl

theorem DaemonFrame.whole {blockSize : UInt32} {frame : List UInt8}
    (sent : DaemonFrame blockSize frame) : WholeFrame frame := by
  rcases sent with rfl | ⟨call, rfl⟩
  · exact wholeFrame_bare 0 0 0 nbdCmdDisc (by decide)
  · cases call with
    | read handle address count => exact wholeFrame_bare _ _ handle nbdCmdRead (by decide)
    | write handle buffer address count forceUnitAccess =>
        refine wholeFrame_write _ _ buffer handle _ ?_
        cases forceUnitAccess <;> decide
    | flush handle count => exact wholeFrame_bare 0 0 handle nbdCmdFlush (by decide)
    | unmap handle address count => exact wholeFrame_bare _ _ handle nbdCmdTrim (by decide)

/-! ## The invariant -/

/-- Whole frames in the order they were issued, then the first `sent` bytes of one more. -/
def AcceptedUpTo (state : DaemonState) (frame : List UInt8) (sent : Nat) : Prop :=
  ∃ done : List (List UInt8), (done ++ [frame]).Sublist state.issued ∧
    state.accepted = done.flatten ++ frame.take sent

/-- `SendExact` gives up after part of the frame was accepted, or on the header of a
write whose data goes out all the same. -/
def stopsInsideFrame (state : DaemonState) : DaemonAction → Bool
  | .thread thread .sendFailed =>
      match state.threads thread with
      | .send _ sent _ => decide (sent ≠ 0)
      | _ => false
  | .thread thread .sentNothing =>
      match state.threads thread with
      | .send frame sent _ => decide (¬ (sent = 0 ∧ frame.length ≤ nbdRequestSize))
      | _ => false
  | _ => false

/-- A frame is only left unfinished on a connection that takes no more bytes. -/
def CutWhenGone (state : DaemonState) (action : DaemonAction) : Prop :=
  stopsInsideFrame state action = true → state.socket ≠ .connected

instance (state : DaemonState) (action : DaemonAction) : Decidable (CutWhenGone state action) := by
  unfold CutWhenGone
  infer_instance

structure FrameInv (blockSize : UInt32) (state : DaemonState) : Prop where
  locks : LocksHeld state
  issued : ∀ frame ∈ state.issued, DaemonFrame blockSize frame
  waiting : ∀ thread frame purpose, state.threads thread = .lockSend frame purpose →
    DaemonFrame blockSize frame
  between : state.cut = none → (∀ thread frame sent purpose,
      state.threads thread ≠ .send frame sent purpose) →
    ∃ done : List (List UInt8), done.Sublist state.issued ∧ state.accepted = done.flatten
  sending : ∀ thread frame sent purpose, state.threads thread = .send frame sent purpose →
    sent ≤ frame.length ∧ (state.cut = none → AcceptedUpTo state frame sent)
  afterCut : ∀ count, state.cut = some count → state.socket ≠ .connected ∧
    state.accepted.length = count ∧ ∃ frame sent, AcceptedUpTo state frame sent

theorem frameInv_initial (blockSize : UInt32) : FrameInv blockSize .initial where
  locks := locksHeld_initial
  issued _ member := by cases member
  waiting thread _ _ here := by cases thread <;> cases here
  between _ _ := ⟨[], List.Sublist.refl [], rfl⟩
  sending thread _ _ _ here := by cases thread <;> cases here
  afterCut _ cut := by cases cut

section

variable {blockSize : UInt32} {state after : DaemonState} {thread : ThreadId} {phase : Phase}
  {choice : Choice}

theorem AcceptedUpTo.issue {frame : List UInt8} {sent : Nat} (upTo : AcceptedUpTo state frame sent)
    (accepted : after.accepted = state.accepted) (more : List (List UInt8))
    (issued : after.issued = state.issued ++ more) : AcceptedUpTo after frame sent := by
  obtain ⟨done, ordered, bytes⟩ := upTo
  refine ⟨done, ?_, by rw [accepted, bytes]⟩
  rw [issued]
  exact ordered.trans (List.sublist_append_left _ _)

theorem AcceptedUpTo.between {frame : List UInt8} (upTo : AcceptedUpTo state frame 0) :
    ∃ done : List (List UInt8), done.Sublist state.issued ∧ state.accepted = done.flatten := by
  obtain ⟨done, ordered, bytes⟩ := upTo
  rw [List.take_zero, List.append_nil] at bytes
  exact ⟨done, (List.sublist_append_left done [frame]).trans ordered, bytes⟩

theorem AcceptedUpTo.complete {frame : List UInt8} (upTo : AcceptedUpTo state frame frame.length) :
    ∃ done : List (List UInt8), done.Sublist state.issued ∧ state.accepted = done.flatten := by
  obtain ⟨done, ordered, bytes⟩ := upTo
  rw [List.take_length] at bytes
  exact ⟨done ++ [frame], ordered, by rw [bytes, List.flatten_append, List.flatten_singleton]⟩

theorem FrameInv.nobodySends (inv : FrameInv blockSize state) (free : state.sendLock = none)
    (found : ThreadId) (frame : List UInt8) (sent : Nat) (purpose : Purpose) :
    state.threads found ≠ .send frame sent purpose := by
  intro here
  have outside := (free ▸ inv.locks.send).free found
  rw [here] at outside
  cases outside

theorem FrameInv.onlySender (inv : FrameInv blockSize state) (thread : ThreadId)
    (holds : (state.threads thread).holdsSendLock = true) (found : ThreadId)
    (other : found ≠ thread) (frame : List UInt8) (sent : Nat) (purpose : Purpose) :
    state.threads found ≠ .send frame sent purpose := by
  intro here
  exact other (inv.locks.send.unique (by rw [here]; rfl) holds)

/-- The frames threads wait with, after one of them moved. -/
theorem FrameInv.waiting_setPhase (inv : FrameInv blockSize state) (base : DaemonState)
    (threads : base.threads = state.threads) (phase : Phase)
    (called : ∀ frame purpose, phase = .lockSend frame purpose → DaemonFrame blockSize frame)
    (found : ThreadId) (frame : List UInt8) (purpose : Purpose)
    (waits : (base.setPhase thread phase).threads found = .lockSend frame purpose) :
    DaemonFrame blockSize frame := by
  by_cases own : found = thread
  · rw [own, setPhase_self] at waits
    exact called frame purpose waits
  · rw [setPhase_of_ne base thread phase own, threads] at waits
    exact inv.waiting found frame purpose waits

theorem FrameInv.unsent (inv : FrameInv blockSize state) (thread : ThreadId)
    (locks : LocksHeld after)
    (accepted : after.accepted = state.accepted) (issued : after.issued = state.issued)
    (cut : after.cut = state.cut) (socket : after.socket = .connected → state.socket = .connected)
    (others : ∀ other, other ≠ thread → after.threads other = state.threads other)
    (quiet : ∀ frame sent purpose, state.threads thread ≠ .send frame sent purpose)
    (now : ∀ frame sent purpose, after.threads thread ≠ .send frame sent purpose)
    (waiting : ∀ frame purpose, after.threads thread = .lockSend frame purpose →
      DaemonFrame blockSize frame) : FrameInv blockSize after := by
  have upTo : ∀ frame sent, AcceptedUpTo state frame sent → AcceptedUpTo after frame sent :=
    fun frame sent found => found.issue accepted [] (by rw [issued, List.append_nil])
  refine ⟨locks, by rw [issued]; exact inv.issued, ?_, ?_, ?_, ?_⟩
  · intro found frame purpose here
    by_cases own : found = thread
    · exact waiting frame purpose (own ▸ here)
    · exact inv.waiting found frame purpose (others found own ▸ here)
  · intro uncut nobody
    rw [issued, accepted]
    refine inv.between (cut ▸ uncut) fun found frame sent purpose here => ?_
    by_cases own : found = thread
    · exact quiet frame sent purpose (own ▸ here)
    · exact nobody found frame sent purpose ((others found own).trans here)
  · intro found frame sent purpose here
    by_cases own : found = thread
    · exact absurd (own ▸ here) (now frame sent purpose)
    · obtain ⟨short, bytes⟩ := inv.sending found frame sent purpose (others found own ▸ here)
      exact ⟨short, fun uncut => upTo frame sent (bytes (cut ▸ uncut))⟩
  · intro count failed
    obtain ⟨gone, length, frame, sent, bytes⟩ := inv.afterCut count (cut ▸ failed)
    exact ⟨fun connected => gone (socket connected), by rw [accepted, length], frame, sent,
      upTo frame sent bytes⟩

theorem FrameInv.acquire (inv : FrameInv blockSize state) {frame : List UInt8} {purpose : Purpose}
    (here : state.threads thread = .lockSend frame purpose) (free : state.sendLock = none)
    (next : Phase) (moves : next = .unlockSend true purpose ∨ next = .send frame 0 purpose)
    (locks : LocksHeld ({ state with
      sendLock := some thread
      issued := state.issued ++ [frame] }.setPhase thread next)) :
    FrameInv blockSize ({ state with
      sendLock := some thread
      issued := state.issued ++ [frame] }.setPhase thread next) := by
  have nobody := inv.nobodySends free
  refine ⟨locks, ?_, ?_, ?_, ?_, ?_⟩
  · intro found member
    rcases List.mem_append.mp member with old | new
    · exact inv.issued found old
    · rw [List.mem_singleton.mp new]
      exact inv.waiting thread frame purpose here
  · apply inv.waiting_setPhase _ rfl
    intro waitingFrame waitingPurpose waits
    rcases moves with rfl | rfl <;> cases waits
  · intro uncut _
    obtain ⟨done, ordered, bytes⟩ := inv.between uncut nobody
    exact ⟨done, ordered.trans (List.sublist_append_left _ _), bytes⟩
  · intro found sentFrame sent sentPurpose sends
    by_cases own : found = thread
    · rw [own, setPhase_self] at sends
      rcases moves with rfl | rfl
      · cases sends
      · cases sends
        refine ⟨Nat.zero_le _, fun uncut => ?_⟩
        obtain ⟨done, ordered, bytes⟩ := inv.between uncut nobody
        refine ⟨done, ordered.append (List.Sublist.refl _), ?_⟩
        rw [List.take_zero, List.append_nil]
        exact bytes
    · rw [setPhase_of_ne _ _ _ own] at sends
      exact absurd sends (nobody found sentFrame sent sentPurpose)
  · intro count failed
    obtain ⟨gone, length, cutFrame, sent, bytes⟩ := inv.afterCut count failed
    exact ⟨gone, length, cutFrame, sent, bytes.issue rfl [frame] rfl⟩

theorem FrameInv.accept (inv : FrameInv blockSize state) {frame : List UInt8} {sent count : Nat}
    {purpose : Purpose} (here : state.threads thread = .send frame sent purpose)
    (connected : state.socket = .connected) (fits : sent + count ≤ frame.length)
    (locks : LocksHeld
      ({ state with accepted := state.accepted ++ (frame.drop sent).take count }.setPhase thread
        (if sent + count = frame.length then .unlockSend false purpose
          else .send frame (sent + count) purpose))) :
    FrameInv blockSize
      ({ state with accepted := state.accepted ++ (frame.drop sent).take count }.setPhase thread
        (if sent + count = frame.length then .unlockSend false purpose
          else .send frame (sent + count) purpose)) := by
  have uncut : state.cut = none := by
    cases failed : state.cut with
    | none => rfl
    | some bound => exact absurd connected (inv.afterCut bound failed).1
  have grown : AcceptedUpTo
      ({ state with accepted := state.accepted ++ (frame.drop sent).take count }.setPhase thread
        (if sent + count = frame.length then .unlockSend false purpose
          else .send frame (sent + count) purpose)) frame (sent + count) := by
    obtain ⟨done, ordered, front⟩ := (inv.sending thread frame sent purpose here).2 uncut
    refine ⟨done, ordered, ?_⟩
    change state.accepted ++ (frame.drop sent).take count = _
    rw [front, List.append_assoc, List.take_add]
  refine ⟨locks, inv.issued, ?_, ?_, ?_, ?_⟩
  · apply inv.waiting_setPhase _ rfl
    intro waitingFrame waitingPurpose waits
    split at waits <;> cases waits
  · intro _ nobody
    by_cases complete : sent + count = frame.length
    · rw [complete] at grown
      simp only [complete, if_true] at grown ⊢
      exact grown.complete
    · refine absurd ?_ (nobody thread frame (sent + count) purpose)
      rw [setPhase_self, if_neg complete]
  · intro found sentFrame sentNow sentPurpose sends
    by_cases own : found = thread
    · rw [own, setPhase_self] at sends
      split at sends
      · cases sends
      · cases sends
        exact ⟨fits, fun _ => grown⟩
    · rw [setPhase_of_ne _ _ _ own] at sends
      exact absurd sends
        (inv.onlySender thread (by rw [here]; rfl) found own sentFrame sentNow sentPurpose)
  · intro bound failed
    exact absurd connected (inv.afterCut bound failed).1

/-- `SendExact` gives up; behind a header whose data still goes out the frame counts
as cut. -/
theorem FrameInv.stop (inv : FrameInv blockSize state) {frame : List UInt8} {sent : Nat}
    {purpose : Purpose} (here : state.threads thread = .send frame sent purpose)
    (whole : Prop) [Decidable whole] (untouched : whole → sent = 0)
    (gone : ¬ whole → state.socket ≠ .connected) (next : Phase)
    (moves : next = .unlockSend true purpose ∨ next = .unlockSend false purpose ∨
      ¬ whole ∧ nbdRequestSize < frame.length ∧ next = .send frame nbdRequestSize purpose)
    (locks : LocksHeld ({ state with
      cut := if whole then state.cut else state.cut.or (some state.accepted.length)
      }.setPhase thread next)) :
    FrameInv blockSize ({ state with
      cut := if whole then state.cut else state.cut.or (some state.accepted.length)
      }.setPhase thread next) := by
  obtain ⟨short, bytes⟩ := inv.sending thread frame sent purpose here
  have stays : ∀ bound, state.cut.or (some state.accepted.length) = some bound → ¬ whole →
      state.socket ≠ .connected ∧ state.accepted.length = bound ∧
        ∃ frame sent, AcceptedUpTo state frame sent := by
    intro bound failed torn
    cases cut : state.cut with
    | some earlier =>
        rw [cut] at failed
        cases failed
        exact inv.afterCut _ cut
    | none =>
        rw [cut] at failed
        cases failed
        exact ⟨gone torn, rfl, frame, sent, bytes cut⟩
  have marked : ¬ whole → state.cut.or (some state.accepted.length) ≠ none := by
    cases state.cut <;> nofun
  refine ⟨locks, inv.issued, ?_, ?_, ?_, ?_⟩
  · apply inv.waiting_setPhase _ rfl
    intro waitingFrame waitingPurpose waits
    rcases moves with rfl | rfl | ⟨_, _, rfl⟩ <;> cases waits
  · intro uncut _
    change (if whole then state.cut else state.cut.or (some state.accepted.length)) = none at uncut
    by_cases intact : whole
    · rw [if_pos intact] at uncut
      have front := bytes uncut
      rw [untouched intact] at front
      exact front.between
    · rw [if_neg intact] at uncut
      exact absurd uncut (marked intact)
  · intro found sentFrame sentNow sentPurpose sends
    by_cases own : found = thread
    · rw [own, setPhase_self] at sends
      rcases moves with rfl | rfl | ⟨torn, longer, rfl⟩
      · cases sends
      · cases sends
      · cases sends
        refine ⟨longer.le, fun uncut => ?_⟩
        change (if whole then state.cut else _) = none at uncut
        rw [if_neg torn] at uncut
        exact absurd uncut (marked torn)
    · rw [setPhase_of_ne _ _ _ own] at sends
      exact absurd sends
        (inv.onlySender thread (by rw [here]; rfl) found own sentFrame sentNow sentPurpose)
  · intro bound failed
    change (if whole then state.cut else state.cut.or (some state.accepted.length)) = some bound
      at failed
    by_cases intact : whole
    · rw [if_pos intact] at failed
      exact inv.afterCut bound failed
    · rw [if_neg intact] at failed
      exact stays bound failed intact

theorem FrameInv.sendStep (inv : FrameInv blockSize state)
    (permitted : CutWhenGone state (.thread thread choice))
    (stepped : SendStep state thread (state.threads thread) choice after) :
    FrameInv blockSize after := by
  have locks := inv.locks.sendStep stepped
  generalize here : state.threads thread = phase at stepped
  cases stepped with
  | acquire frame purpose free =>
      apply inv.acquire here free _ ?_ locks
      split
      · exact Or.inl rfl
      · exact Or.inr rfl
  | accept frame sent purpose count connected reads positive fits =>
      exact inv.accept here connected fits locks
  | fail frame sent purpose unblocked =>
      apply inv.stop here (sent = 0) id ?_ _ (Or.inl rfl) locks
      intro touched
      apply permitted
      simp only [stopsInsideFrame, here]
      exact decide_eq_true touched
  | skip frame sent purpose unblocked =>
      apply inv.stop here (sent = 0 ∧ frame.length ≤ nbdRequestSize) And.left ?_ _ ?_ locks
      · intro torn
        apply permitted
        simp only [stopsInsideFrame, here]
        exact decide_eq_true torn
      · rcases afterNothing_cases frame sent purpose with ⟨longer, next⟩ | next
        · exact Or.inr (Or.inr ⟨fun whole => absurd whole.2 (not_le.mpr longer), longer, next⟩)
        · exact Or.inr (Or.inl next)
  | release failed purpose =>
      refine inv.unsent thread locks rfl rfl rfl id (fun other different =>
        setPhase_of_ne _ _ _ different) (by rw [here]; nofun) ?_ ?_
      · rw [setPhase_self]
        cases purpose <;> cases failed <;> nofun
      · rw [setPhase_self]
        cases purpose <;> cases failed <;> nofun

theorem FrameInv.shutdownStep (inv : FrameInv blockSize state)
    (stepped : ShutdownStep state thread (state.threads thread) choice after) :
    FrameInv blockSize after := by
  have locks := inv.locks.shutdownStep stepped
  generalize here : state.threads thread = phase at stepped
  cases stepped with
  | again | stopSocket | closeSocket =>
      exact inv.unsent thread locks rfl rfl rfl (by first | exact id | nofun)
        (fun other different => setPhase_of_ne _ _ _ different) (by rw [here]; nofun)
        (by rw [setPhase_self]; nofun) (by rw [setPhase_self]; nofun)
  | begin =>
      refine inv.unsent thread locks rfl rfl rfl id (fun other different =>
        setPhase_of_ne _ _ _ different) (by rw [here]; nofun) ?_ ?_
      · rw [setPhase_self]
        split <;> nofun
      · rw [setPhase_self]
        split <;> nofun
  | remove hardRemove outcome =>
      refine inv.unsent thread locks rfl rfl rfl id (fun other different =>
        setPhase_of_ne _ _ _ different) (by rw [here]; nofun) ?_ ?_
      · rw [setPhase_self]
        cases outcome <;> nofun
      · rw [setPhase_self]
        cases outcome <;> nofun
  | terminate =>
      refine inv.unsent thread locks rfl rfl rfl id (fun other different =>
        setPhase_of_ne _ _ _ different) (by rw [here]; nofun) ?_ ?_
      · rw [setPhase_self]
        split_ifs <;> nofun
      · rw [setPhase_self]
        intro frame purpose waits
        split_ifs at waits
        cases waits
        exact Or.inl rfl
  | release =>
      refine inv.unsent thread locks rfl rfl rfl id (fun other different =>
        setPhase_of_ne _ _ _ different) (by rw [here]; nofun) ?_ ?_
      · rw [setPhase_self]
        cases thread <;> nofun
      · rw [setPhase_self]
        cases thread <;> nofun

theorem FrameInv.serves (inv : FrameInv blockSize state)
    (serves : Serves blockSize state after thread phase)
    (unsent : (state.threads thread).sendScope = false)
    (unshut : (state.threads thread).shutdownScope = false) : FrameInv blockSize after := by
  have socket : after.socket = state.socket := serves.field Control.socket fun _ _ => rfl
  refine inv.unsent thread (inv.locks.serves serves unsent unshut)
    (serves.field Control.accepted fun _ _ => rfl) (serves.field Control.issued fun _ _ => rfl)
    (serves.field Control.cut fun _ _ => rfl) (fun connected => socket ▸ connected)
    (fun other different => serves.threads_of_ne different) ?_ ?_ ?_
  · intro frame sent purpose here
    rw [here] at unsent
    cases unsent
  · intro frame sent purpose here
    have outside := serves.sending
    rw [← serves.threads_self, here] at outside
    cases outside
  · intro frame purpose here
    exact Or.inr (serves.called frame purpose (serves.threads_self ▸ here))

theorem FrameInv.step (inv : FrameInv blockSize state) (action : DaemonAction)
    (permitted : CutWhenGone state action)
    (stepped : daemonNext blockSize state action = some after) : FrameInv blockSize after := by
  have locks := inv.locks.step stepped
  cases action with
  | thread thread choice =>
      rcases threadStep_cases blockSize state after thread choice stepped with
        ⟨_, sent⟩ | ⟨_, shut⟩ | ⟨unsent, unshut, phase, serves⟩
      · exact inv.sendStep permitted (sendStep_of sent)
      · exact inv.shutdownStep (shutdownStep_of shut)
      · exact inv.serves serves unsent unshut
  | responseCompleted index =>
      obtain ⟨response, _, rfl⟩ := Option.map_eq_some_iff.mp stepped
      exact ⟨locks, inv.issued, inv.waiting, inv.between, inv.sending, inv.afterCut⟩
  | connectionReset =>
      obtain ⟨_, ⟨⟩⟩ := Option.ite_none_right_eq_some.mp stepped
      exact ⟨locks, inv.issued, inv.waiting, inv.between, inv.sending, fun count failed =>
        ⟨nofun, (inv.afterCut count failed).2⟩⟩
  | serverSends bytes =>
      obtain ⟨_, ⟨⟩⟩ := Option.ite_none_right_eq_some.mp stepped
      exact ⟨locks, inv.issued, inv.waiting, inv.between, inv.sending, inv.afterCut⟩
  | diskCreated | serverStopsReading | serverStopsAnswering =>
      cases stepped
      exact ⟨locks, inv.issued, inv.waiting, inv.between, inv.sending, inv.afterCut⟩

end

/-! ## Outgoing framing -/

/-- The accepted bytes are the front of a row of whole issued frames, and none follow a
cut frame. -/
def FramedOutput (blockSize : UInt32) (state : DaemonState) : Prop :=
  (∃ frames : List (List UInt8), frames.Sublist state.issued ∧
      state.accepted <+: frames.flatten) ∧
    (∀ frame ∈ state.issued, DaemonFrame blockSize frame ∧ WholeFrame frame) ∧
    ∀ count, state.cut = some count → state.accepted.length = count

theorem AcceptedUpTo.framed {state : DaemonState} {frame : List UInt8} {sent : Nat}
    (upTo : AcceptedUpTo state frame sent) :
    ∃ frames : List (List UInt8), frames.Sublist state.issued ∧
      state.accepted <+: frames.flatten := by
  obtain ⟨done, ordered, bytes⟩ := upTo
  refine ⟨done ++ [frame], ordered, ?_⟩
  rw [bytes, List.flatten_append, List.flatten_singleton]
  exact (List.prefix_append_right_inj _).mpr (List.take_prefix sent frame)

theorem FrameInv.framed {blockSize : UInt32} {state : DaemonState}
    (inv : FrameInv blockSize state) : FramedOutput blockSize state := by
  refine ⟨?_, fun frame member => ⟨inv.issued frame member, (inv.issued frame member).whole⟩,
    fun count failed => (inv.afterCut count failed).2.1⟩
  cases cut : state.cut with
  | some count =>
      obtain ⟨_, _, frame, sent, upTo⟩ := inv.afterCut count cut
      exact upTo.framed
  | none =>
      by_cases sender : ∃ thread frame sent purpose, state.threads thread = .send frame sent purpose
      · obtain ⟨thread, frame, sent, purpose, here⟩ := sender
        exact ((inv.sending thread frame sent purpose here).2 cut).framed
      · obtain ⟨done, ordered, bytes⟩ := inv.between cut fun thread frame sent purpose here =>
          sender ⟨thread, frame, sent, purpose, here⟩
        exact ⟨done, ordered, by rw [bytes]⟩

/-- In every run that leaves frames unfinished only on a lost connection, the server
receives whole frames, the last of them possibly cut, and nothing behind a cut. -/
theorem outgoing_framing (blockSize : UInt32) (state : DaemonState)
    (path : Path (daemonNext blockSize) CutWhenGone .initial state) :
    FramedOutput blockSize state :=
  (path.invariant (FrameInv blockSize) (frameInv_initial blockSize)
    fun _ action _ permitted inv stepped => inv.step action permitted stepped).framed

/-- A read request of one block. -/
def oneBlockRead : HandlerCall := .read 1 0 1

/-- Four bytes of a read request are sent, `send` fails, and the dispatcher's own
`Shutdown` sends the disconnect request behind them. -/
def cutReadRun : List DaemonAction :=
  [.diskCreated,
    .thread (.dispatcher 0) (.request oneBlockRead),
    .thread (.dispatcher 0) .proceed,
    .thread (.dispatcher 0) (.accepted 4),
    .thread (.dispatcher 0) .sendFailed,
    .thread (.dispatcher 0) .proceed,
    .thread (.dispatcher 0) .proceed,
    .thread (.dispatcher 0) (.removed .removed),
    .thread (.dispatcher 0) .proceed,
    .thread (.dispatcher 0) .proceed,
    .thread (.dispatcher 0) (.accepted 28)]

/-- A read whose connection is reset after four bytes: the disconnect request is
not accepted. -/
def resetReadRun : List DaemonAction :=
  [.diskCreated,
    .thread (.dispatcher 0) (.request oneBlockRead),
    .thread (.dispatcher 0) .proceed,
    .thread (.dispatcher 0) (.accepted 4),
    .connectionReset,
    .thread (.dispatcher 0) .sendFailed,
    .thread (.dispatcher 0) .proceed]

theorem outgoing_framing_reset : ∃ state, run (daemonNext 512) .initial resetReadRun = some state ∧
    state.cut = some 4 ∧ FramedOutput 512 state := by
  have ran : (run (daemonNext 512) .initial resetReadRun).isSome = true := by decide +kernel
  obtain ⟨last, reached⟩ := Option.isSome_iff_exists.mp ran
  refine ⟨last, reached, ?_, outgoing_framing 512 last
    (path_of_run _ last resetReadRun (by decide +kernel) reached)⟩
  exact field_of_run DaemonState.cut .initial last resetReadRun (some 4) reached
    (by decide +kernel)

/-- The disconnect request follows four bytes of a header. -/
theorem disconnect_inside_a_frame : ¬ ∀ (blockSize : UInt32) (actions : List DaemonAction)
    (state : DaemonState), run (daemonNext blockSize) .initial actions = some state →
      FramedOutput blockSize state := by
  intro framed
  have ran : (run (daemonNext 512) .initial cutReadRun).isSome = true := by decide +kernel
  obtain ⟨last, reached⟩ := Option.isSome_iff_exists.mp ran
  obtain ⟨⟨frames, ordered, front⟩, _⟩ := framed 512 cutReadRun last reached
  have issued : last.issued = [(oneBlockRead.sent 512).frame, nbdDisconnectFrame] :=
    field_of_run DaemonState.issued .initial last cutReadRun _ reached (by decide +kernel)
  have accepted : last.accepted = (oneBlockRead.sent 512).frame.take 4 ++ nbdDisconnectFrame :=
    field_of_run DaemonState.accepted .initial last cutReadRun _ reached (by decide +kernel)
  rw [issued, ← List.mem_sublists] at ordered
  rw [accepted] at front
  revert frames
  decide +kernel

end Wnbd.Nbd
