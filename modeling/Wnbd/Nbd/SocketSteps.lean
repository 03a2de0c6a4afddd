import Wnbd.Nbd.Encoding
import Wnbd.Nbd.ExactTransfer
import Wnbd.Nbd.Threads

/-!
# The transfer loops of the threads

The threads of the daemon take one step for each call of `send` or `recv`.  What
`sendLoop` and `recvLoop` do in one call of `SendExact` or `RecvExact`, they do step by
step (`sendLoop_steps`, `recvLoop_steps`); and `recvExact` on a connection is `recvLoop`
with the answers of that connection (`recvExact_recvLoop`).
-/

set_option autoImplicit false

namespace Wnbd.Nbd

open Wnbd.Dispatch DaemonState StepSystem Transfer

def threadSteps (blockSize : UInt32) (thread : ThreadId) :
    DaemonState → List Choice → Option DaemonState :=
  run fun state choice => threadStep blockSize state thread choice

section

variable {blockSize : UInt32} {thread : ThreadId} {state : DaemonState} (answers : Answers)

theorem threadSteps_one {after : DaemonState} (choice : Choice)
    (taken : threadStep blockSize state thread choice = some after) :
    threadSteps blockSize thread state [choice] = some after := by
  rw [threadSteps, run, taken]
  rfl

theorem threadSteps_cons {next after : DaemonState} (choice : Choice) (rest : List Choice)
    (taken : threadStep blockSize state thread choice = some next)
    (others : threadSteps blockSize thread next rest = some after) :
    threadSteps blockSize thread state (choice :: rest) = some after := by
  rw [threadSteps, run, taken]
  exact others

/-! ## SendExact -/

/-- Where a `SendExact` call that returns this code leaves the thread. -/
def afterSend (code : UInt32) (frame : List UInt8) (sent : Nat) (purpose : Purpose) : Phase :=
  if code ≠ 0 then .unlockSend true purpose
  else if sendEnd frame sent = frame.length then .unlockSend false purpose
  else .send frame (sendEnd frame sent) purpose

theorem afterSend_zero (frame : List UInt8) (sent : Nat) (purpose : Purpose) :
    afterSend 0 frame sent purpose =
      if sendEnd frame sent = frame.length then .unlockSend false purpose
      else .send frame (sendEnd frame sent) purpose :=
  if_neg (not_not.mpr rfl)

theorem sendEnd_bounds (frame : List UInt8) (sent : Nat) (inside : sent < frame.length) :
    sent < sendEnd frame sent ∧ sendEnd frame sent ≤ frame.length := by
  unfold sendEnd
  split
  · omega
  · omega

theorem sendEnd_add (frame : List UInt8) (sent count : Nat)
    (inside : sent + count < sendEnd frame sent) :
    sendEnd frame (sent + count) = sendEnd frame sent := by
  unfold sendEnd at inside ⊢
  split at inside
  · rename_i inHeader
    rw [if_pos (by omega), if_pos inHeader]
  · rename_i behind
    rw [if_neg (by omega), if_neg behind]

theorem afterNothing_eq (frame : List UInt8) (sent : Nat) (purpose : Purpose) :
    afterNothing frame sent purpose = afterSend 0 frame sent purpose := by
  rw [afterSend_zero]
  unfold afterNothing sendEnd
  by_cases inHeader : sent < nbdRequestSize
  · rw [if_pos inHeader]
    by_cases more : nbdRequestSize < frame.length
    · rw [if_pos ⟨inHeader, more⟩, Nat.min_eq_left (Nat.le_of_lt more), if_neg (Nat.ne_of_lt more)]
    · rw [if_neg fun both => more both.2, Nat.min_eq_right (Nat.not_lt.mp more), if_pos rfl]
  · rw [if_neg fun both => inHeader both.1, if_neg inHeader, if_pos rfl]

theorem bytesFrom_bufferOf (frame : List UInt8) (sent count : Nat)
    (inside : sent + count ≤ frame.length) :
    bytesFrom (bufferOf frame) sent count = (frame.drop sent).take count := by
  apply List.ext_getElem
  · rw [bytesFrom, List.length_map, List.length_range, List.length_take, List.length_drop]
    omega
  · intro index below _
    rw [bytesFrom, List.length_map, List.length_range] at below
    simp only [bytesFrom, List.getElem_map, List.getElem_range, List.getElem_take,
      List.getElem_drop, bufferOf]
    rw [List.getD_eq_getElem?_getD, List.getElem?_eq_getElem (by omega), Option.getD_some]

/-- On a connection whose peer reads, a thread sends the bytes that `SendExact` sends, and
goes on as its code says. -/
theorem sendLoop_steps (frame : List UInt8) (purpose : Purpose) (sent calls : Nat)
    (here : state.threads thread = .send frame sent purpose)
    (connected : state.socket = .connected) (reads : state.serverReads = true)
    (inside : sent < frame.length) :
    ∃ choices after, threadSteps blockSize thread state choices = some after ∧
      after.accepted = state.accepted ++
        (sendLoop answers (bufferOf frame) (sendEnd frame sent - sent) calls sent).bytes ∧
      after.threads thread = afterSend
        (sendLoop answers (bufferOf frame) (sendEnd frame sent - sent) calls sent).code
        frame sent purpose := by
  have step : ∀ choice, threadStep blockSize state thread choice =
      sendStep state thread frame sent purpose choice := by
    intro choice
    rw [threadStep, here]
    rfl
  obtain ⟨ahead, most⟩ := sendEnd_bounds frame sent inside
  induction size : sendEnd frame sent - sent using Nat.strong_induction_on
    generalizing sent calls state with
  | _ left hypothesis =>
    by_cases moves : (next answers left calls).result ≤ 0
    · rw [sendLoop_stops answers left calls _ _ (by omega) moves]
      dsimp only
      by_cases silent : failureCode (next answers left calls).lastError
          (next answers left calls).result = 0
      · have taken := step .sentNothing
        rw [sendStep, if_pos (Or.inr reads)] at taken
        refine ⟨[.sentNothing], _, threadSteps_one _ taken, (List.append_nil _).symm, ?_⟩
        rw [silent, ← afterNothing_eq frame sent purpose]
        exact setPhase_self _ _ _
      · have taken := step .sendFailed
        rw [sendStep, if_pos (Or.inr reads)] at taken
        refine ⟨[.sendFailed], _, threadSteps_one _ taken, (List.append_nil _).symm, ?_⟩
        rw [afterSend, if_pos silent]
        exact setPhase_self _ _ _
    · have bound := (next answers left calls).toNat_le
      rw [sendLoop_moves answers left calls _ _ (by omega) moves]
      dsimp only
      generalize sized : (next answers left calls).result.toNat = count at bound
      have positive : 0 < count := by omega
      have taken := step (.accepted count)
      rw [sendStep, if_pos ⟨connected, reads, positive, by omega⟩] at taken
      rw [bytesFrom_bufferOf frame sent count (by omega)]
      by_cases last : sent + count = sendEnd frame sent
      · have none : left - count = 0 := by omega
        rw [none, sendLoop_zero]
        refine ⟨[.accepted count], _, threadSteps_one _ taken, ?_, ?_⟩
        · rw [List.append_nil]
          rfl
        · dsimp only
          rw [afterSend_zero, ← last]
          exact setPhase_self _ _ _
      · have more : sent + count < sendEnd frame sent := by omega
        have same := sendEnd_add frame sent count more
        rw [if_neg (by omega)] at taken
        obtain ⟨choices, after, others, accepted, phase⟩ := @hypothesis (left - count) (by omega)
          ({ state with accepted := state.accepted ++ (frame.drop sent).take count }.setPhase thread
            (.send frame (sent + count) purpose))
          (sent + count) (calls + 1) (setPhase_self _ _ _) connected reads (by omega)
          (by
            intro choice
            rw [threadStep, setPhase_self]
            rfl)
          (by omega) (by omega) (by omega)
        refine ⟨.accepted count :: choices, after, threadSteps_cons _ _ taken others, ?_, ?_⟩
        · rw [accepted]
          exact List.append_assoc ..
        · rw [phase, afterSend, afterSend, same]

/-! ## RecvExact -/

/-- Where a `RecvExact` call leaves the worker, with `phase` of the bytes it then has. -/
def afterReceive (code : UInt32) (phase : List UInt8 → Phase) (bytes : List UInt8) : Phase :=
  if code = 0 then phase bytes else .lockShutdown true

structure Receives (blockSize : UInt32) (thread : ThreadId) (size : Nat)
    (phase : List UInt8 → Phase) : Prop where
  moves : ∀ (state : DaemonState) (bytes : List UInt8) (count : Nat),
    state.threads thread = phase bytes → bytes.length < size → state.socket = .connected →
    0 < count → count ≤ size - bytes.length → count ≤ state.incoming.length →
    ∃ next, threadStep blockSize state thread (.received count) = some next ∧
      next.threads thread = phase (bytes ++ state.incoming.take count) ∧
      next.incoming = state.incoming.drop count ∧ next.socket = state.socket ∧
      next.serverAnswers = state.serverAnswers
  fails : ∀ (state : DaemonState) (bytes : List UInt8), state.threads thread = phase bytes →
    bytes.length < size → receiveFails state = true →
    threadStep blockSize state thread .receiveFailed =
      some (state.setPhase thread (.lockShutdown true))

theorem received_eq (missing count : Nat) (connected : state.socket = .connected)
    (positive : 0 < count) (few : count ≤ missing) (there : count ≤ state.incoming.length) :
    received state missing count =
      some (state.incoming.take count, { state with incoming := state.incoming.drop count }) :=
  if_pos ⟨connected, positive, few, there⟩

theorem receives_header (blockSize : UInt32) (thread : ThreadId) :
    Receives blockSize thread nbdReplySize .readHeader where
  moves state bytes count here _ connected positive few there := by
    refine ⟨({ state with incoming := state.incoming.drop count }.setPhase thread
      (.readHeader (bytes ++ state.incoming.take count))), ?_, setPhase_self _ _ _, rfl, rfl, rfl⟩
    rw [threadStep, here]
    dsimp only
    rw [receiveStep, received_eq _ count connected positive few there]
    rfl
  fails state bytes here short open_ := by
    rw [threadStep, here]
    dsimp only
    rw [receiveStep, if_pos ⟨open_, short⟩]

/-- The phase of the worker with these bytes of a payload. -/
def payloadPhase (request : PendingRequestInfo) (command : SendRspCommand) (bytes : List UInt8) :
    Phase :=
  if bytes.length = request.length.toNat then .respond ⟨request.requestType, command, bytes⟩
  else .readPayload request command bytes

theorem receives_payload (blockSize : UInt32) (thread : ThreadId) (request : PendingRequestInfo)
    (command : SendRspCommand) :
    Receives blockSize thread request.length.toNat (payloadPhase request command) where
  moves state bytes count here short connected positive few there := by
    rw [payloadPhase, if_neg (Nat.ne_of_lt short)] at here
    have longer : (bytes ++ state.incoming.take count).length = bytes.length + count := by
      rw [List.length_append, List.length_take, Nat.min_eq_left there]
    refine ⟨(({ state with incoming := state.incoming.drop count }.fillBuffer bytes.length
      (state.incoming.take count)).setPhase thread
        (payloadPhase request command (bytes ++ state.incoming.take count))), ?_,
      setPhase_self _ _ _, rfl, rfl, rfl⟩
    rw [threadStep, here]
    dsimp only
    rw [receiveStep, received_eq _ count connected positive few there, payloadPhase, longer]
    rfl
  fails state bytes here short open_ := by
    rw [payloadPhase, if_neg (Nat.ne_of_lt short)] at here
    rw [threadStep, here]
    dsimp only
    rw [receiveStep, if_pos open_]

/-- While the server answers, the worker takes the bytes that `RecvExact` takes, and goes on
as its code says. -/
theorem recvLoop_steps {size : Nat} {phase : List UInt8 → Phase}
    (receives : Receives blockSize thread size phase) (incoming : Nat → UInt8)
    (calls position current : Nat) (buffer : Nat → UInt8) (bytes : List UInt8)
    (here : state.threads thread = phase bytes) (short : bytes.length < size)
    (connected : state.socket = .connected) (open_ : state.serverAnswers = true)
    (sent : (recvLoop answers incoming (size - bytes.length) calls position current
      buffer).count ≤ state.incoming.length) :
    ∃ choices after, threadSteps blockSize thread state choices = some after ∧
      after.incoming = state.incoming.drop (recvLoop answers incoming (size - bytes.length) calls
        position current buffer).count ∧
      after.threads thread = afterReceive
        (recvLoop answers incoming (size - bytes.length) calls position current buffer).code phase
        (bytes ++ state.incoming.take (recvLoop answers incoming (size - bytes.length) calls
          position current buffer).count) := by
  induction gap : size - bytes.length using Nat.strong_induction_on
    generalizing bytes calls position current buffer state with
  | _ left hypothesis =>
    rw [gap] at sent
    by_cases moves : (next answers left calls).result > 0
    · have bound := (next answers left calls).toNat_le
      rw [recvLoop_moves answers left calls _ _ _ _ (by omega) moves] at sent ⊢
      dsimp only at sent ⊢
      generalize sized : (next answers left calls).result.toNat = count at bound sent ⊢
      obtain ⟨later, taken, there, rest, socket, answering⟩ := receives.moves state bytes count here
        short connected (by omega) (by omega) (by omega)
      by_cases last : count = left
      · have none : left - count = 0 := by omega
        rw [none, recvLoop_zero]
        refine ⟨[.received count], later, threadSteps_one _ taken, rest, ?_⟩
        rw [there]
        rfl
      · have longer : (bytes ++ state.incoming.take count).length = bytes.length + count := by
          rw [List.length_append, List.length_take, Nat.min_eq_left (by omega)]
        have remaining : size - (bytes ++ state.incoming.take count).length = left - count := by
          omega
        have enough : later.incoming.length = state.incoming.length - count := by
          rw [rest, List.length_drop]
        obtain ⟨choices, after, others, incomings, reached⟩ := hypothesis (left - count) (by omega)
          (calls + 1) (position + count) (current + count)
          (fill buffer incoming current position count) _ there (by omega)
          (socket.trans connected) (answering.trans open_) (by rw [remaining]; omega) remaining
        refine ⟨.received count :: choices, after, threadSteps_cons _ _ taken others, ?_, ?_⟩
        · rw [incomings, rest, List.drop_drop]
        · rw [reached, rest, List.append_assoc, List.take_add]
    · have failed := recvCode_ne_zero (next answers left calls) moves
      have taken := receives.fails state bytes here short (by simp [receiveFails, open_])
      rw [recvLoop_stops answers left calls _ _ _ _ (by omega) moves]
      refine ⟨[.receiveFailed], _, threadSteps_one _ taken, rfl, ?_⟩
      rw [afterReceive, if_neg failed]
      exact setPhase_self _ _ _

end

/-! ## Connections -/

def answerOf (result length : Int) : SocketCall length :=
  if fits : 0 ≤ result ∧ result ≤ length then ⟨result, 0, Or.inr fits⟩ else .failed length

def firstAnswer (result : Int) (calls : Nat) (others : Answers) : Answers := fun call length =>
  if call = calls then answerOf result length else others call length

theorem firstAnswer_next (result : Int) (calls length : Nat) (others : Answers)
    (least : 0 ≤ result) (most : result ≤ intOf length) :
    (next (firstAnswer result calls others) length calls).result = result := by
  rw [next, firstAnswer, if_pos rfl, answerOf, dif_pos ⟨least, most⟩]

theorem recvLoop_firstAnswer (result : Int) (before : Nat) (others : Answers)
    (incoming : Nat → UInt8) (length calls position current : Nat) (buffer : Nat → UInt8)
    (later : before < calls) :
    recvLoop (firstAnswer result before others) incoming length calls position current buffer =
      recvLoop others incoming length calls position current buffer := by
  induction length using Nat.strong_induction_on generalizing calls position current buffer with
  | _ length hypothesis =>
    have same : next (firstAnswer result before others) length calls = next others length calls :=
      if_neg (Nat.ne_of_gt later)
    by_cases none : length = 0
    · rw [none, recvLoop_zero, recvLoop_zero]
    · by_cases moves : (next others length calls).result > 0
      · rw [recvLoop_moves _ length calls _ _ _ _ none (same ▸ moves),
          recvLoop_moves _ length calls _ _ _ _ none moves, same]
        dsimp only
        rw [hypothesis _ (by omega) _ _ _ _ (by omega)]
      · rw [recvLoop_stops _ length calls _ _ _ _ none (same ▸ moves),
          recvLoop_stops _ length calls _ _ _ _ none moves, same]

theorem recvLoop_piece (others : Answers) (incoming : Nat → UInt8)
    (length calls position current : Nat) (buffer : Nat → UInt8) (count : Nat)
    (short : length < 2 ^ 31) (positive : 0 < count) (few : count ≤ length) :
    recvLoop (firstAnswer count calls others) incoming length calls position current buffer =
      let rest := recvLoop others incoming (length - count) (calls + 1) (position + count)
        (current + count) (fill buffer incoming current position count)
      ⟨rest.code, rest.calls, count + rest.count, rest.buffer⟩ := by
  have whole := intOf_of_lt length short
  have moved := firstAnswer_next count calls length others (by omega) (by omega)
  rw [recvLoop_moves _ length calls incoming position current buffer (by omega)
    (by rw [moved]; omega), moved, Int.toNat_natCast]
  dsimp only
  rw [recvLoop_firstAnswer _ _ _ _ _ _ _ _ _ (Nat.lt_succ_self calls)]

/-- What `recvExact` does with a connection is what the loop does with some answers. -/
theorem recvExact_recvLoop (length : Nat) (short : length < 2 ^ 32) (connection : Connection)
    (incoming : Nat → UInt8) (calls position current : Nat) (buffer : Nat → UInt8) :
    ∃ answers : Answers,
      (∀ bytes after, recvExact length connection = .ok (bytes, after) →
        (recvLoop answers incoming length calls position current buffer).code = 0 ∧
          (recvLoop answers incoming length calls position current buffer).count =
            bytes.length) ∧
      ∀ code, recvExact length connection = .error code →
        (recvLoop answers incoming length calls position current buffer).code = code := by
  induction length using Nat.strong_induction_on
    generalizing connection calls position current buffer with
  | _ length hypothesis =>
    rw [recvExact]
    by_cases none : length = 0
    · rw [if_pos none, none]
      refine ⟨fun _ length => answerOf 0 length, ?_, ?_⟩
      · intro bytes after same
        cases same
        rw [recvLoop_zero]
        exact ⟨rfl, rfl⟩
      · intro code same
        cases same
    rw [if_neg none]
    by_cases large : 2 ^ 31 ≤ length
    · rw [if_pos large]
      refine ⟨fun _ length => answerOf 0 length, ?_, ?_⟩
      · intro bytes last same
        cases same
      · intro code same
        cases same
        have negative : intOf length < 0 := by
          rw [intOf, if_neg (by omega)]
          omega
        have fails : next (fun _ length => answerOf 0 length) length calls = .failed _ :=
          dif_neg (by omega)
        rw [recvLoop_stops _ length calls _ _ _ _ none (by rw [fails, SocketCall.failed]; simp), fails]
        rfl
    rw [if_neg large]
    have whole := intOf_of_lt length (by omega)
    have few := recv_length_le length connection
    cases found : recv length connection with
    | mk read after =>
      rw [found] at few
      cases read with
      | nil =>
        have ends := firstAnswer_next 0 calls length (fun _ length => answerOf 0 length) (by omega)
          (by omega)
        refine ⟨firstAnswer 0 calls fun _ length => answerOf 0 length, ?_, ?_⟩
        · intro bytes last same
          cases same
        · intro code same
          cases same
          rw [recvLoop_stops _ length calls _ _ _ _ none (by rw [ends]; decide), ends]
          rfl
      | cons byte piece =>
        rw [List.length_cons] at few
        obtain ⟨others, succeeds, fails⟩ := hypothesis (length - (piece.length + 1)) (by omega)
          (by omega) after (calls + 1) (position + (piece.length + 1))
          (current + (piece.length + 1))
          (fill buffer incoming current position (piece.length + 1))
        have loops := recvLoop_piece others incoming length calls position current buffer
          (piece.length + 1) (by omega) (by omega) few
        refine ⟨firstAnswer (piece.length + 1 : Nat) calls others, ?_, ?_⟩
        · intro bytes last same
          rw [loops]
          dsimp only at same ⊢
          cases ran : recvExact (length - (piece.length + 1)) after with
          | error code => simp [ran] at same
          | ok received =>
            obtain ⟨rest, final⟩ := received
            simp only [ran] at same
            cases same
            obtain ⟨code, count⟩ := succeeds rest last ran
            refine ⟨code, ?_⟩
            rw [count, List.length_append, List.length_cons]
        · intro code same
          rw [loops]
          dsimp only at same ⊢
          cases ran : recvExact (length - (piece.length + 1)) after with
          | error other =>
            simp only [ran] at same
            cases same
            exact fails code ran
          | ok received => simp [ran] at same

end Wnbd.Nbd
