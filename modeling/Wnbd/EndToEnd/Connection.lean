import Wnbd.EndToEnd.ReadIntegrity

/-!
# Frames on the connection

In a smooth run the connection carries the issued frames one after the other, and the
server reads their headers in this order.
-/

set_option autoImplicit false

namespace Wnbd.EndToEnd

open Wnbd.Scsi Wnbd.Dispatch Wnbd.Nbd DaemonState StepSystem

/-! ## The connection -/

/-- What the sender has not handed over yet. -/
structure IsUnsent (daemon : DaemonState) (unsent : List UInt8) : Prop where
  sending : ∀ thread frame sent purpose, daemon.threads thread = .send frame sent purpose →
    unsent = frame.drop sent
  resting : (∀ thread frame sent purpose, daemon.threads thread ≠ .send frame sent purpose) →
    unsent = []

/-- The connection carries whole frames in the order they were issued. -/
def InOrder (daemon : DaemonState) : Prop :=
  ∀ unsent, IsUnsent daemon unsent → daemon.accepted ++ unsent = daemon.issued.flatten

/-- This frame and the ones before it are on the connection. -/
def Arrived (daemon : DaemonState) (frame : List UInt8) : Prop :=
  ∃ earlier, (earlier ++ [frame]) <+: daemon.issued ∧
    (earlier ++ [frame]).flatten <+: daemon.accepted

theorem inOrder_initial : InOrder .initial := by
  intro unsent isUnsent
  refine isUnsent.resting fun thread frame sent purpose here => ?_
  cases thread <;> cases here

section

variable {blockSize : UInt32} {daemon after : DaemonState} {thread : ThreadId} {choice : Choice}

theorem Arrived.mono {frame : List UInt8} (arrived : Arrived daemon frame)
    (issued : daemon.issued <+: after.issued) (accepted : daemon.accepted <+: after.accepted) :
    Arrived after frame := by
  obtain ⟨earlier, order, bytes⟩ := arrived
  exact ⟨earlier, order.trans issued, bytes.trans accepted⟩

theorem InOrder.congr (order : InOrder daemon) (accepted : after.accepted = daemon.accepted)
    (issued : after.issued = daemon.issued)
    (sends : ∀ thread frame sent purpose, after.threads thread = .send frame sent purpose ↔
      daemon.threads thread = .send frame sent purpose) : InOrder after := by
  intro unsent isUnsent
  rw [accepted, issued]
  refine order unsent ⟨fun found frame sent purpose here => ?_, fun nobody => ?_⟩
  · exact isUnsent.sending found frame sent purpose ((sends found frame sent purpose).mpr here)
  · exact isUnsent.resting fun found frame sent purpose here =>
      nobody found frame sent purpose ((sends found frame sent purpose).mp here)

/-- No outcome of a `send` that leaves bytes of a frame behind. -/
def sendsWhole : Choice → Bool
  | .sendFailed | .sentNothing => false
  | _ => true

theorem sendsWhole_of_quiet (quiet : quietChoice choice = true) : sendsWhole choice = true := by
  cases choice with
  | sendFailed | sentNothing => cases quiet
  | _ => rfl

theorem sendsWhole_of_smooth (smooth : smoothChoice choice = true) :
    sendsWhole choice = true := by
  cases choice with
  | sendFailed | sentNothing => cases smooth
  | _ => rfl

theorem InOrder.sendStep (calm : Calm daemon) (order : InOrder daemon)
    (works : sendsWhole choice = true)
    (stepped : SendStep daemon thread (daemon.threads thread) choice after) :
    InOrder after ∧ daemon.issued <+: after.issued ∧ daemon.accepted <+: after.accepted := by
  generalize here : daemon.threads thread = phase at stepped
  cases stepped with
  | acquire frame purpose free =>
      have nobody := calm.nobody_sends free
      have before := order [] ⟨fun found other sent again sends =>
        absurd sends (nobody found other sent again), fun _ => rfl⟩
      rw [List.append_nil] at before
      have open_ : daemon.socket ≠ .closed := by
        rw [calm.connected]
        decide
      refine ⟨?_, List.prefix_append _ _, List.prefix_refl _⟩
      intro unsent isUnsent
      have own := isUnsent.sending thread frame 0 purpose (by
        rw [setPhase_self]
        exact if_neg open_)
      change daemon.accepted ++ unsent = (daemon.issued ++ [frame]).flatten
      rw [own, before, List.drop_zero, List.flatten_append, List.flatten_singleton]
  | accept frame sent purpose count connected reads positive fits =>
      have holds : (daemon.threads thread).holdsSendLock = true := by
        rw [here]
        rfl
      have alone := calm.only_sender thread holds
      have before := order (frame.drop sent) ⟨fun found other position again sends => by
        by_cases same : found = thread
        · rw [same, here] at sends
          cases sends
          rfl
        · exact absurd sends (alone found same other position again),
        fun nobody => absurd here (nobody thread frame sent purpose)⟩
      refine ⟨?_, List.prefix_refl _, List.prefix_append _ _⟩
      intro unsent isUnsent
      have rest : unsent = (frame.drop sent).drop count := by
        rw [List.drop_drop]
        by_cases done : sent + count = frame.length
        · rw [done, List.drop_length]
          refine isUnsent.resting fun found other position again sends => ?_
          by_cases same : found = thread
          · rw [same, setPhase_self, if_pos done] at sends
            cases sends
          · rw [setPhase_of_ne _ _ _ same] at sends
            exact alone found same other position again sends
        · exact isUnsent.sending thread frame (sent + count) purpose (by
            rw [setPhase_self, if_neg done])
      change daemon.accepted ++ (frame.drop sent).take count ++ unsent = daemon.issued.flatten
      rw [rest, List.append_assoc, List.take_append_drop]
      exact before
  | fail | skip => cases works
  | release failed purpose =>
      refine ⟨order.congr rfl rfl fun found frame sent again => ?_, List.prefix_refl _,
        List.prefix_refl _⟩
      by_cases same : found = thread
      · rw [same, setPhase_self, here]
        cases purpose with
        | request => cases failed <;> exact iff_of_false nofun nofun
        | disconnect => exact iff_of_false nofun nofun
      · rw [setPhase_of_ne _ _ _ same]

/-- A step of the daemon in a smooth run only adds to the connection. -/
theorem InOrder.threadStep (calm : Calm daemon) (order : InOrder daemon)
    (works : sendsWhole choice = true)
    (stepped : threadStep blockSize daemon thread choice = some after) :
    InOrder after ∧ daemon.issued <+: after.issued ∧ daemon.accepted <+: after.accepted := by
  rcases threadStep_cases blockSize daemon after thread choice stepped with
    ⟨_, sends⟩ | ⟨scope, _⟩ | ⟨unsent, _, phase, serves⟩
  · exact InOrder.sendStep calm order works (sendStep_of sends)
  · rw [servesPhase_outside _ (calm.serving thread)] at scope
    cases scope
  · have accepted : after.accepted = daemon.accepted :=
      serves.field Control.accepted fun _ _ => rfl
    have issued : after.issued = daemon.issued := serves.field Control.issued fun _ _ => rfl
    refine ⟨order.congr accepted issued fun found frame sent purpose => ?_, ?_, ?_⟩
    · by_cases same : found = thread
      · rw [same, serves.threads_self]
        refine iff_of_false (fun sends => ?_) (fun sends => ?_)
        · have rests := serves.sending
          rw [sends] at rests
          cases rests
        · rw [sends] at unsent
          cases unsent
      · rw [serves.threads_of_ne same]
    · rw [issued]
    · rw [accepted]

end

/-! ## The server -/

/-- The headers the server has read, answered or not. -/
def headersRead (state : DemuxState) : Nat := state.outstanding.length + state.answers.length

def readFrames (state : DemuxState) : List (List UInt8) :=
  state.daemon.issued.take (headersRead state)

def unreadFrames (state : DemuxState) : List (List UInt8) :=
  state.daemon.issued.drop (headersRead state)

/-- The server stands behind the frames whose headers it has read. -/
structure ServedInv (state : DemuxState) : Prop where
  order : InOrder state.daemon
  counted : headersRead state ≤ state.daemon.issued.length
  position : state.serverPosition = (readFrames state).flatten.length
  outstanding : ∀ header ∈ state.outstanding,
    ∃ frame ∈ readFrames state, frameHandle frame = some header.handle

theorem servedInv_initial : ServedInv .initial where
  order := inOrder_initial
  counted := Nat.le_refl 0
  position := rfl
  outstanding _ member := by cases member

section

variable {mapping : NbdMapping} {state after : DemuxState} {transit : Transit}

/-- More frames are issued behind the ones that are read. -/
theorem readFrames_mono (counted : headersRead state ≤ state.daemon.issued.length)
    (read : headersRead after = headersRead state)
    (issued : state.daemon.issued <+: after.daemon.issued) :
    readFrames after = readFrames state := by
  obtain ⟨more, added⟩ := issued
  rw [readFrames, readFrames, read, ← added, List.take_append_of_le_length counted]

/-- The server stays, and the daemon only adds to the connection. -/
theorem ServedInv.moves (inv : ServedInv state) (order : InOrder after.daemon)
    (issued : state.daemon.issued <+: after.daemon.issued)
    (position : after.serverPosition = state.serverPosition)
    (outstanding : after.outstanding = state.outstanding)
    (answers : after.answers = state.answers) : ServedInv after := by
  have read : headersRead after = headersRead state := by
    rw [headersRead, headersRead, outstanding, answers]
  have same := readFrames_mono inv.counted read issued
  refine ⟨order, ?_, ?_, ?_⟩
  · rw [read]
    exact inv.counted.trans issued.length_le
  · rw [position, same]
    exact inv.position
  · rw [outstanding, same]
    exact inv.outstanding

theorem ServedInv.daemonStep (inv : ServedInv state) (calm : Calm state.daemon)
    (thread : ThreadId) (choice : Choice) (works : sendsWhole choice = true)
    (stepped : daemonStep mapping state thread choice = some after) : ServedInv after := by
  obtain ⟨daemon, taken, rfl⟩ := Option.map_eq_some_iff.mp stepped
  obtain ⟨order, issued, _⟩ := InOrder.threadStep calm inv.order works taken
  exact inv.moves order issued rfl rfl rfl

theorem ServedInv.next_frame (inv : ServedInv state) (whole : DemuxInv mapping state transit)
    (framed : ∀ frame ∈ state.daemon.issued, WholeFrame frame) (header : NbdHeader)
    (decoded : decodeHeader (state.daemon.accepted.drop state.serverPosition) = some header) :
    ∃ frame more, unreadFrames state = frame :: more ∧ decodeHeader frame = some header ∧
      frame.length = nbdRequestSize + header.payloadLength := by
  have output := inv.order transit.unsent ⟨whole.wire.sending, whole.wire.resting⟩
  rw [← List.take_append_drop (headersRead state) state.daemon.issued, List.flatten_append]
    at output
  have long := decodeHeader_long decoded
  have inside : state.serverPosition ≤ state.daemon.accepted.length := by
    rw [List.length_drop, nbdRequestSize] at long
    omega
  have stream : state.daemon.accepted.drop state.serverPosition ++ transit.unsent =
      (unreadFrames state).flatten := by
    rw [← List.drop_append_of_le_length inside, output, inv.position]
    exact List.drop_left
  have sizes : ∀ frame ∈ unreadFrames state, nbdRequestSize ≤ frame.length := by
    intro frame member
    obtain ⟨_, _, size⟩ := framed frame (List.mem_of_mem_drop member)
    rw [size]
    exact Nat.le_add_right _ _
  obtain ⟨frame, more, unread, found⟩ := header_of_stream _ _ _ stream sizes header decoded
  have member : frame ∈ unreadFrames state := by
    rw [unread]
    exact List.mem_cons_self
  obtain ⟨known, knownDecoded, size⟩ := framed frame (List.mem_of_mem_drop member)
  obtain rfl : header = known := Option.some.inj (found.symm.trans knownDecoded)
  exact ⟨frame, more, unread, found, size⟩

theorem readFrames_succ (frame : List UInt8) (more : List (List UInt8))
    (unread : unreadFrames state = frame :: more) (read : headersRead after = headersRead state + 1)
    (issued : after.daemon.issued = state.daemon.issued) :
    readFrames after = readFrames state ++ [frame] ∧ unreadFrames after = more := by
  have inside : headersRead state < state.daemon.issued.length := by
    by_contra outside
    rw [unreadFrames, List.drop_eq_nil_of_le (Nat.not_lt.mp outside)] at unread
    cases unread
  rw [unreadFrames, List.drop_eq_getElem_cons inside] at unread
  obtain ⟨first, rest⟩ := List.cons.inj unread
  constructor
  · rw [readFrames, readFrames, read, issued, List.take_succ_eq_append_getElem inside, first]
  · rw [unreadFrames, read, issued, rest]

theorem ServedInv.serverReads (inv : ServedInv state) (whole : DemuxInv mapping state transit)
    (framed : ∀ frame ∈ state.daemon.issued, WholeFrame frame)
    (taken : serverReads state = some after) : ServedInv after := by
  obtain ⟨header, decoded, rfl⟩ := Option.map_eq_some_iff.mp taken
  obtain ⟨frame, more, unread, found, size⟩ := inv.next_frame whole framed header decoded
  have read : headersRead { state with
      serverPosition := state.serverPosition + nbdRequestSize + header.payloadLength
      outstanding := state.outstanding ++ [header] } = headersRead state + 1 := by
    simp only [headersRead, List.length_append, List.length_singleton]
    omega
  obtain ⟨grown, _⟩ := readFrames_succ frame more unread read rfl
  refine ⟨inv.order, ?_, ?_, ?_⟩
  · rw [read]
    by_contra outside
    rw [unreadFrames, List.drop_eq_nil_of_le (by
      simpa only [not_le, Nat.lt_add_one_iff] using outside)] at unread
    cases unread
  · rw [grown, List.flatten_append, List.flatten_singleton, List.length_append, ← inv.position,
      size, Nat.add_assoc]
  · intro other member
    rw [grown]
    rcases List.mem_append.mp member with before | now
    · obtain ⟨earlier, inRead, handle⟩ := inv.outstanding other before
      exact ⟨earlier, List.mem_append_left _ inRead, handle⟩
    · rw [List.mem_singleton.mp now]
      exact ⟨frame, List.mem_append_right _ (List.mem_singleton_self frame), by
        rw [frameHandle, found, Option.map_some]⟩

theorem ServedInv.serverAnswers (inv : ServedInv state) (index : Nat) (error : UInt32)
    (payload : List UInt8)
    (taken : EndToEnd.serverAnswers state index error payload = some after) :
    ServedInv after ∧ readFrames after = readFrames state := by
  obtain ⟨header, found, answers⟩ := Option.bind_eq_some_iff.mp taken
  obtain ⟨_, same⟩ := Option.ite_none_right_eq_some.mp answers
  cases same
  obtain ⟨inside, _⟩ := List.getElem?_eq_some_iff.mp found
  have read : headersRead { state with
      daemon := { state.daemon with
        incoming := state.daemon.incoming ++ (ServerAnswer.mk header.handle error payload).bytes }
      outstanding := state.outstanding.eraseIdx index
      answers := state.answers ++ [⟨header.handle, error, payload⟩] } = headersRead state := by
    simp only [headersRead, List.length_append, List.length_singleton,
      List.length_eraseIdx_of_lt inside]
    omega
  have frames := readFrames_mono inv.counted read (List.prefix_refl _)
  refine ⟨⟨inv.order.congr rfl rfl fun _ _ _ _ => Iff.rfl, ?_, ?_, ?_⟩, frames⟩
  · rw [read]
    exact inv.counted
  · rw [frames]
    exact inv.position
  · intro other member
    rw [frames]
    exact inv.outstanding other (List.mem_of_mem_eraseIdx member)

end

end Wnbd.EndToEnd
