import Wnbd.Nbd.Socket

/-!
# The transfer loops

`SendExact` and `RecvExact` call by call.  Each call of `send` or `recv` moves
some bytes, none, or fails, and leaves a last error that may be stale.  A loop
that ends with zero should have moved the whole buffer.  `recvExact` does;
`sendExact` does unless a call moves nothing and the last error is none it knows.
-/

set_option autoImplicit false

namespace Wnbd.Nbd.Transfer

def invalidSocket : UInt64 := 0xFFFFFFFFFFFFFFFF

def errorInvalidHandle : UInt32 := 6
def errorCancelled : UInt32 := 1223

def wsaeIntr : Int := 10004
def wsaeConnReset : Int := 10054
def wsaeShutdown : Int := 10058
def wsaeDiscon : Int := 10101

/-! ## Calls on a socket -/

/-- The `(int)` conversion of a length. -/
def intOf (length : Nat) : Int :=
  if length % 2 ^ 32 < 2 ^ 31 then length % 2 ^ 32 else length % 2 ^ 32 - 2 ^ 32

/-- The answer of `send` or `recv` to a call with this length, and the value of
`WSAGetLastError` behind it. -/
structure SocketCall (length : Int) where
  result : Int
  lastError : Int
  range : result = -1 ∨ 0 ≤ result ∧ result ≤ length

def SocketCall.failed (length : Int) : SocketCall length := ⟨-1, 0, Or.inl rfl⟩

/-- The answers to the calls on a socket, by their number. -/
abbrev Answers := Nat → (length : Int) → SocketCall length

theorem intOf_of_lt (length : Nat) (small : length < 2 ^ 31) : intOf length = length := by
  rw [intOf, if_pos (by omega)]
  omega

theorem intOf_le (length : Nat) : intOf length ≤ length := by
  rw [intOf]
  split
  · omega
  · omega

theorem SocketCall.toNat_le {length : Nat} (call : SocketCall (intOf length)) :
    call.result.toNat ≤ length := by
  have bound := intOf_le length
  rcases call.range with failed | ⟨_, most⟩
  · rw [failed]
    exact Nat.zero_le length
  · omega

/-- The `switch` over the last error. -/
def failureCode (lastError result : Int) : UInt32 :=
  if lastError = wsaeIntr then errorCancelled
  else if lastError = wsaeShutdown ∨ lastError = wsaeConnReset ∨ lastError = wsaeDiscon then
    errorGracefulDisconnect
  else UInt32.ofInt result

/-- The switch turns the error into a code of its own. -/
def Reported (lastError : Int) : Prop :=
  lastError = wsaeIntr ∨ lastError = wsaeShutdown ∨ lastError = wsaeConnReset ∨
    lastError = wsaeDiscon

instance (lastError : Int) : Decidable (Reported lastError) :=
  inferInstanceAs (Decidable (_ ∨ _))

/-! ## SendExact -/

structure Sent where
  code : UInt32
  calls : Nat
  bytes : List UInt8

/-- A part of a buffer. -/
def bytesFrom (data : Nat → UInt8) (current count : Nat) : List UInt8 :=
  (List.range count).map fun index => data (current + index)

/-- The loop of `SendExact`, with this many calls behind it. -/
def sendLoop (answers : Answers) (data : Nat → UInt8) (length calls current : Nat) : Sent :=
  if length = 0 then ⟨0, calls, []⟩
  else
    let call := answers calls (intOf length)
    if call.result ≤ 0 then ⟨failureCode call.lastError call.result, calls + 1, []⟩
    else
      let rest := sendLoop answers data (length - call.result.toNat) (calls + 1)
        (current + call.result.toNat)
      ⟨rest.code, rest.calls, bytesFrom data current call.result.toNat ++ rest.bytes⟩
termination_by length
decreasing_by
  rename_i nonzero moved
  have positive : ¬ (answers calls (intOf length)).result ≤ 0 := moved
  omega

def sendExact (handle : UInt64) (answers : Answers) (data : Nat → UInt8) (length calls : Nat) :
    Sent :=
  if handle = invalidSocket then ⟨errorInvalidHandle, calls, []⟩
  else sendLoop answers data length calls 0

/-! ## RecvExact -/

structure Received where
  code : UInt32
  calls : Nat
  /-- How many bytes of the peer's stream were taken. -/
  count : Nat
  buffer : Nat → UInt8

/-- A call of `recv` writes the next bytes of the stream. -/
def fill (buffer incoming : Nat → UInt8) (current position count : Nat) : Nat → UInt8 :=
  fun index =>
  if current ≤ index ∧ index < current + count then incoming (position + (index - current))
  else buffer index

def recvCode (lastError result : Int) : UInt32 :=
  if result ≠ 0 then failureCode lastError result else errorGracefulDisconnect

/-- The loop of `RecvExact`; `position` is the next byte of the stream. -/
def recvLoop (answers : Answers) (incoming : Nat → UInt8) (length calls position current : Nat)
    (buffer : Nat → UInt8) : Received :=
  if length = 0 then ⟨0, calls, 0, buffer⟩
  else
    let call := answers calls (intOf length)
    if call.result > 0 then
      let rest := recvLoop answers incoming (length - call.result.toNat) (calls + 1)
        (position + call.result.toNat) (current + call.result.toNat)
        (fill buffer incoming current position call.result.toNat)
      ⟨rest.code, rest.calls, call.result.toNat + rest.count, rest.buffer⟩
    else ⟨recvCode call.lastError call.result, calls + 1, 0, buffer⟩
termination_by length
decreasing_by
  rename_i nonzero moved
  have positive : (answers calls (intOf length)).result > 0 := moved
  omega

def recvExact (handle : UInt64) (answers : Answers) (incoming : Nat → UInt8)
    (length calls position : Nat) (buffer : Nat → UInt8) : Received :=
  if handle = invalidSocket then ⟨errorInvalidHandle, calls, 0, buffer⟩
  else recvLoop answers incoming length calls position 0 buffer

/-! ## One call -/

section Step

variable (answers : Answers) (length calls : Nat)

/-- The answer to the next call. -/
def next : SocketCall (intOf length) := answers calls (intOf length)

theorem sendLoop_zero (data : Nat → UInt8) (current : Nat) :
    sendLoop answers data 0 calls current = ⟨0, calls, []⟩ := by
  rw [sendLoop, if_pos rfl]

theorem sendLoop_stops (data : Nat → UInt8) (current : Nat) (left : length ≠ 0)
    (stops : (next answers length calls).result ≤ 0) :
    sendLoop answers data length calls current =
      ⟨failureCode (next answers length calls).lastError (next answers length calls).result,
        calls + 1, []⟩ := by
  rw [sendLoop, if_neg left]
  exact if_pos stops

theorem sendLoop_moves (data : Nat → UInt8) (current : Nat) (left : length ≠ 0)
    (moves : ¬ (next answers length calls).result ≤ 0) :
    sendLoop answers data length calls current =
      let count := (next answers length calls).result.toNat
      let rest := sendLoop answers data (length - count) (calls + 1) (current + count)
      ⟨rest.code, rest.calls, bytesFrom data current count ++ rest.bytes⟩ := by
  rw [sendLoop, if_neg left]
  exact if_neg moves

theorem recvLoop_zero (incoming : Nat → UInt8) (position current : Nat) (buffer : Nat → UInt8) :
    recvLoop answers incoming 0 calls position current buffer = ⟨0, calls, 0, buffer⟩ := by
  rw [recvLoop, if_pos rfl]

theorem recvLoop_stops (incoming : Nat → UInt8) (position current : Nat) (buffer : Nat → UInt8)
    (left : length ≠ 0) (stops : ¬ (next answers length calls).result > 0) :
    recvLoop answers incoming length calls position current buffer =
      ⟨recvCode (next answers length calls).lastError (next answers length calls).result,
        calls + 1, 0, buffer⟩ := by
  rw [recvLoop, if_neg left]
  exact if_neg stops

theorem recvLoop_moves (incoming : Nat → UInt8) (position current : Nat) (buffer : Nat → UInt8)
    (left : length ≠ 0) (moves : (next answers length calls).result > 0) :
    recvLoop answers incoming length calls position current buffer =
      let count := (next answers length calls).result.toNat
      let rest := recvLoop answers incoming (length - count) (calls + 1) (position + count)
        (current + count) (fill buffer incoming current position count)
      ⟨rest.code, rest.calls, count + rest.count, rest.buffer⟩ := by
  rw [recvLoop, if_neg left]
  exact if_pos moves

end Step

/-! ## Codes -/

theorem ofInt_failed : UInt32.ofInt (-1) ≠ 0 := by
  decide

theorem failureCode_ne_zero (lastError result : Int) (failed : result = -1) :
    failureCode lastError result ≠ 0 := by
  rw [failureCode, failed]
  split
  · decide
  · split
    · decide
    · exact ofInt_failed

/-- A call that moves nothing gives a code when the last error is one of four. -/
theorem failureCode_zero (lastError : Int) :
    failureCode lastError 0 = 0 ↔ ¬ Reported lastError := by
  rw [failureCode, Reported]
  split
  case isTrue canceled =>
    exact ⟨fun zero => absurd zero (by decide), fun silent => absurd (Or.inl canceled) silent⟩
  case isFalse notCanceled =>
    split
    case isTrue closed =>
      exact ⟨fun zero => absurd zero (by decide), fun silent => absurd (Or.inr closed) silent⟩
    case isFalse notClosed =>
      refine ⟨fun _ => ?_, fun _ => rfl⟩
      rintro (canceled | closed)
      · exact notCanceled canceled
      · exact notClosed closed

theorem recvCode_ne_zero {length : Int} (call : SocketCall length) (stops : ¬ call.result > 0) :
    recvCode call.lastError call.result ≠ 0 := by
  rw [recvCode]
  split
  case isTrue nonzero =>
    refine failureCode_ne_zero _ _ ?_
    rcases call.range with failed | ⟨least, _⟩
    · exact failed
    · omega
  case isFalse => decide

/-! ## Whole loops -/

/-- The calls for this many bytes reach one that moves nothing while the last error
is none of the four. -/
inductive SilentStop (answers : Answers) : Nat → Nat → Prop
  | here {length calls : Nat} (left : length ≠ 0)
      (nothing : (next answers length calls).result = 0)
      (silent : ¬ Reported (next answers length calls).lastError) :
      SilentStop answers length calls
  | later {length calls : Nat} (left : length ≠ 0)
      (moves : 0 < (next answers length calls).result)
      (rest : SilentStop answers (length - (next answers length calls).result.toNat) (calls + 1)) :
      SilentStop answers length calls

theorem not_silentStop_zero (answers : Answers) (calls : Nat) : ¬ SilentStop answers 0 calls := by
  intro stop
  cases stop with
  | here left _ _ => exact left rfl
  | later left _ _ => exact left rfl

theorem silentStop_of_stops (answers : Answers) (length calls : Nat) (left : length ≠ 0)
    (stops : (next answers length calls).result ≤ 0) :
    SilentStop answers length calls ↔ (next answers length calls).result = 0 ∧
      ¬ Reported (next answers length calls).lastError := by
  constructor
  · intro stop
    cases stop with
    | here _ nothing silent => exact ⟨nothing, silent⟩
    | later _ moves _ => omega
  · rintro ⟨nothing, silent⟩
    exact SilentStop.here left nothing silent

theorem silentStop_of_moves (answers : Answers) (length calls : Nat) (left : length ≠ 0)
    (moves : 0 < (next answers length calls).result) :
    SilentStop answers length calls ↔
      SilentStop answers (length - (next answers length calls).result.toNat) (calls + 1) := by
  constructor
  · intro stop
    cases stop with
    | here _ nothing _ => omega
    | later _ _ rest => exact rest
  · intro rest
    exact SilentStop.later left moves rest

theorem bytesFrom_append (data : Nat → UInt8) (current first second : Nat) :
    bytesFrom data current first ++ bytesFrom data (current + first) second =
      bytesFrom data current (first + second) := by
  rw [bytesFrom, bytesFrom, bytesFrom, List.range_add, List.map_append, List.map_map]
  congr 1
  refine List.map_congr_left fun index _ => ?_
  rw [Function.comp_apply, Nat.add_assoc]

/-- Some bytes from `current` on were sent, in order; the code is zero when they are
all, or when the loop stopped silently. -/
structure SendsPrefix (answers : Answers) (data : Nat → UInt8) (length calls current : Nat)
    (sent : Sent) : Prop where
  part : ∃ count, count ≤ length ∧ sent.bytes = bytesFrom data current count ∧
    (sent.code = 0 ↔ count = length ∨ SilentStop answers length calls) ∧
    ¬ (count = length ∧ SilentStop answers length calls)
  calls : sent.calls ≤ calls + length

theorem sendLoop_prefix (answers : Answers) (data : Nat → UInt8) (length calls current : Nat) :
    SendsPrefix answers data length calls current
      (sendLoop answers data length calls current) := by
  induction length using Nat.strong_induction_on generalizing calls current with
  | _ length hypothesis =>
      by_cases left : length = 0
      · subst left
        rw [sendLoop_zero]
        refine ⟨⟨0, Nat.le_refl 0, rfl, ⟨fun _ => Or.inl rfl, fun _ => rfl⟩, ?_⟩, Nat.le_refl _⟩
        exact fun both => not_silentStop_zero answers calls both.2
      by_cases stops : (next answers length calls).result ≤ 0
      · rw [sendLoop_stops answers length calls data current left stops]
        refine ⟨⟨0, Nat.zero_le _, rfl, ?_, fun both => left both.1.symm⟩, ?_⟩
        · rw [silentStop_of_stops answers length calls left stops, or_iff_right (Ne.symm left)]
          rcases (next answers length calls).range with failed | ⟨least, _⟩
          · have code := failureCode_ne_zero (next answers length calls).lastError _ failed
            exact ⟨fun zero => absurd zero code, fun silent => by omega⟩
          · have nothing : (next answers length calls).result = 0 := by omega
            rw [nothing]
            exact (failureCode_zero _).trans (and_iff_right rfl).symm
        · change calls + 1 ≤ calls + length
          omega
      · have most := (next answers length calls).toNat_le
        obtain ⟨⟨count, short, bytes, code, apart⟩, bounded⟩ := hypothesis
          (length - (next answers length calls).result.toNat) (by omega) (calls + 1)
          (current + (next answers length calls).result.toNat)
        rw [sendLoop_moves answers length calls data current left stops]
        rw [← silentStop_of_moves answers length calls left (not_le.mp stops)] at code apart
        refine ⟨⟨(next answers length calls).result.toNat + count, by omega, ?_, ?_, ?_⟩, ?_⟩
        · dsimp only
          rw [bytes, bytesFrom_append]
        · have whole : (next answers length calls).result.toNat + count = length ↔
              count = length - (next answers length calls).result.toNat := by
            omega
          rw [whole]
          exact code
        · rintro ⟨whole, stop⟩
          exact apart ⟨by omega, stop⟩
        · dsimp only
          omega

theorem fill_fill (buffer incoming : Nat → UInt8) (current position first second : Nat) :
    fill (fill buffer incoming current position first) incoming (current + first)
      (position + first) second = fill buffer incoming current position (first + second) := by
  funext index
  simp only [fill]
  by_cases early : current ≤ index ∧ index < current + first
  · rw [if_neg (by omega), if_pos early, if_pos (by omega)]
  · rw [if_neg early]
    by_cases late : current + first ≤ index ∧ index < current + first + second
    · rw [if_pos late, if_pos (by omega)]
      congr 1
      omega
    · rw [if_neg late, if_neg (by omega)]

/-- Some bytes of the stream are in the buffer, in order and nothing else; the code is
zero when they are all. -/
structure ReceivesPrefix (incoming : Nat → UInt8) (length calls position current : Nat)
    (buffer : Nat → UInt8) (received : Received) : Prop where
  short : received.count ≤ length
  filled : received.buffer = fill buffer incoming current position received.count
  code : received.code = 0 ↔ received.count = length
  calls : received.calls ≤ calls + length

theorem fill_zero (buffer incoming : Nat → UInt8) (current position : Nat) :
    fill buffer incoming current position 0 = buffer := by
  funext index
  rw [fill, if_neg (by omega)]

theorem recvLoop_prefix (answers : Answers) (incoming : Nat → UInt8)
    (length calls position current : Nat) (buffer : Nat → UInt8) :
    ReceivesPrefix incoming length calls position current buffer
      (recvLoop answers incoming length calls position current buffer) := by
  induction length using Nat.strong_induction_on generalizing calls position current buffer with
  | _ length hypothesis =>
      by_cases left : length = 0
      · subst left
        rw [recvLoop_zero]
        exact ⟨Nat.le_refl 0, (fill_zero _ _ _ _).symm, ⟨fun _ => rfl, fun _ => rfl⟩,
          Nat.le_refl _⟩
      by_cases moves : (next answers length calls).result > 0
      · have most := (next answers length calls).toNat_le
        obtain ⟨short, filled, code, bounded⟩ := hypothesis
          (length - (next answers length calls).result.toNat) (by omega) (calls + 1)
          (position + (next answers length calls).result.toNat)
          (current + (next answers length calls).result.toNat)
          (fill buffer incoming current position (next answers length calls).result.toNat)
        rw [recvLoop_moves answers length calls incoming position current buffer left moves]
        refine ⟨?_, ?_, code.trans ?_, ?_⟩
        · dsimp only
          omega
        · dsimp only
          rw [filled, fill_fill]
        · dsimp only
          omega
        · dsimp only
          omega
      · have code := recvCode_ne_zero (next answers length calls) moves
        rw [recvLoop_stops answers length calls incoming position current buffer left moves]
        refine ⟨Nat.zero_le _, (fill_zero _ _ _ _).symm, ?_, ?_⟩
        · exact ⟨fun zero => absurd zero code, fun none => absurd none.symm left⟩
        · change calls + 1 ≤ calls + length
          omega

/-! ## Exact transfers -/

/-- A prefix of the buffer was sent, all of it just when the code is zero, with at
most one call a byte. -/
structure SendsExactly (data : Nat → UInt8) (length calls : Nat) (sent : Sent) : Prop where
  transfer : ∃ count, count ≤ length ∧ sent.bytes = bytesFrom data 0 count ∧
    (sent.code = 0 ↔ count = length)
  calls : sent.calls ≤ calls + length

theorem bytesFrom_length (data : Nat → UInt8) (current count : Nat) :
    (bytesFrom data current count).length = count := by
  rw [bytesFrom, List.length_map, List.length_range]

theorem sendExact_iff (handle : UInt64) (answers : Answers) (data : Nat → UInt8)
    (length calls : Nat) :
    SendsExactly data length calls (sendExact handle answers data length calls) ↔
      (handle = invalidSocket → length ≠ 0) ∧
        (handle ≠ invalidSocket → ¬ SilentStop answers length calls) := by
  rw [sendExact]
  split
  case isTrue invalid =>
    have code : errorInvalidHandle ≠ 0 := by decide
    constructor
    · intro exactly
      obtain ⟨count, _, bytes, whole⟩ := exactly.transfer
      have none : 0 = count := by
        rw [← bytesFrom_length data 0 count, ← bytes]
        rfl
      refine ⟨fun _ empty => code (whole.mpr ?_), fun valid => absurd invalid valid⟩
      rw [← none, empty]
    · rintro ⟨left, _⟩
      refine ⟨⟨0, Nat.zero_le _, rfl, ?_⟩, Nat.le_add_right _ _⟩
      exact ⟨fun zero => absurd zero code, fun none => absurd none.symm (left invalid)⟩
  case isFalse valid =>
    obtain ⟨⟨count, short, bytes, code, apart⟩, bounded⟩ :=
      sendLoop_prefix answers data length calls 0
    constructor
    · intro exactly
      obtain ⟨other, _, sameBytes, whole⟩ := exactly.transfer
      refine ⟨fun invalid => absurd invalid valid, fun _ stop => ?_⟩
      have sameCount : count = other := by
        rw [← bytesFrom_length data 0 count, ← bytes, sameBytes, bytesFrom_length]
      exact apart ⟨sameCount.trans (whole.mp (code.mpr (Or.inr stop))), stop⟩
    · rintro ⟨_, noStop⟩
      rw [or_iff_left (noStop valid)] at code
      exact ⟨⟨count, short, bytes, code⟩, bounded⟩

theorem recvExact_iff (handle : UInt64) (answers : Answers) (incoming : Nat → UInt8)
    (length calls position : Nat) (buffer : Nat → UInt8) :
    ReceivesPrefix incoming length calls position 0 buffer
        (recvExact handle answers incoming length calls position buffer) ↔
      (handle = invalidSocket → length ≠ 0) := by
  rw [recvExact]
  split
  case isTrue invalid =>
    have code : errorInvalidHandle ≠ 0 := by decide
    constructor
    · intro received _ empty
      exact code (received.code.mpr empty.symm)
    · intro left
      refine ⟨Nat.zero_le _, (fill_zero _ _ _ _).symm, ?_, Nat.le_add_right _ _⟩
      exact ⟨fun zero => absurd zero code, fun none => absurd none.symm (left invalid)⟩
  case isFalse valid =>
    exact ⟨fun _ invalid => absurd invalid valid, fun _ =>
      recvLoop_prefix answers incoming length calls position 0 buffer⟩

/-- `SendExact` is exact unless a call stops it silently, `RecvExact` always; both
return an error for no bytes on no socket. -/
theorem exact_transfer_iff (handle : UInt64) (length calls position : Nat) (sends recvs : Answers)
    (data incoming buffer : Nat → UInt8) :
    (SendsExactly data length calls (sendExact handle sends data length calls) ↔
      (handle = invalidSocket → length ≠ 0) ∧
        (handle ≠ invalidSocket → ¬ SilentStop sends length calls)) ∧
    (ReceivesPrefix incoming length calls position 0 buffer
        (recvExact handle recvs incoming length calls position buffer) ↔
      (handle = invalidSocket → length ≠ 0)) :=
  ⟨sendExact_iff handle sends data length calls,
    recvExact_iff handle recvs incoming length calls position buffer⟩

/-- Every call moves nothing and leaves the last error zero. -/
def staleAnswers : Answers := fun _ length =>
  if nonnegative : 0 ≤ length then ⟨0, 0, Or.inr ⟨le_refl 0, nonnegative⟩⟩
  else ⟨-1, 0, Or.inl rfl⟩

/-- A `send` of no bytes behind a stale last error ends the frame with success. -/
theorem sendExact_stops_silently :
    ¬ SendsExactly (fun _ => 0x2A) 28 0 (sendExact 4 staleAnswers (fun _ => 0x2A) 28 0) := by
  intro exactly
  refine ((sendExact_iff 4 staleAnswers (fun _ => 0x2A) 28 0).mp exactly).2 (by decide) ?_
  exact SilentStop.here (by decide) (by decide) (by decide)

end Wnbd.Nbd.Transfer
