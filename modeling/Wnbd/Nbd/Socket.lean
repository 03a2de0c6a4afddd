import Wnbd.Foundation.ExactParser

/-!
# The socket

`RecvExact` and `SendExact` over a connection whose peer has a finite byte stream
to send.  Each `recv` call gets some of the bytes that are left, at least one,
and none at the end of the stream.
-/

set_option autoImplicit false

namespace Wnbd.Nbd

open ExactParser

def errorAccessDenied : UInt32 := 5
def errorBadFormat : UInt32 := 11
def errorGenFailure : UInt32 := 31
def errorNotSupported : UInt32 := 50
def errorGracefulDisconnect : UInt32 := 1226

/-- `SOCKET_ERROR` as a DWORD. -/
def socketError : UInt32 := 0xFFFFFFFF

structure Connection where
  unread : List UInt8
  /-- How many bytes the next calls of `recv` find delivered. -/
  pieces : List Nat
  sent : List UInt8

abbrev Exchange : Type → Type := StateT Connection (Except UInt32)

/-- `recv` with a buffer of positive length. -/
def recv (length : Nat) (connection : Connection) : List UInt8 × Connection :=
  let size := min length (max 1 (connection.pieces.headD length))
  (connection.unread.take size,
    { connection with unread := connection.unread.drop size, pieces := connection.pieces.tail })

/-- The loop of `RecvExact`.  The length of a call is an `int`, and a negative one
fails. -/
def recvExact (length : Nat) : Exchange (List UInt8) := fun connection =>
  if length = 0 then .ok ([], connection)
  else if 2 ^ 31 ≤ length then .error socketError
  else
    match recv length connection with
    | ([], _) => .error errorGracefulDisconnect
    | (byte :: piece, after) =>
        match recvExact (length - (piece.length + 1)) after with
        | .error error => .error error
        | .ok (rest, last) => .ok (byte :: piece ++ rest, last)
termination_by length

/-- Every byte is accepted. -/
def sendExact (data : List UInt8) : Exchange Unit := fun connection =>
  .ok ((), { connection with sent := connection.sent ++ data })

theorem recv_split (length : Nat) (connection : Connection) :
    connection.unread = (recv length connection).1 ++ (recv length connection).2.unread :=
  (List.take_append_drop _ _).symm

theorem recv_length_le (length : Nat) (connection : Connection) :
    (recv length connection).1.length ≤ length := by
  simp only [recv, List.length_take]
  omega

/-- Only the end of the stream gives no byte. -/
theorem recv_eq_nil (length : Nat) (connection : Connection) (positive : length ≠ 0)
    (empty : (recv length connection).1 = []) : connection.unread = [] := by
  rcases List.take_eq_nil_iff.mp empty with zero | none
  · omega
  · exact none

/-- The words `RecvExact` takes: all of this length. -/
def ofLength (length : Nat) : Grammar UInt8 (List UInt8) := fun word value =>
  word = value ∧ word.length = length ∧ length < 2 ^ 31

theorem recvExact_sound (length : Nat) (start finish : Connection) (value : List UInt8)
    (succeeded : Succeeds (recvExact length) start value finish) :
    ofLength length value value ∧ start.unread = value ++ finish.unread := by
  induction length using Nat.strong_induction_on generalizing start value with
  | _ length hypothesis =>
      rw [Succeeds, recvExact] at succeeded
      split at succeeded
      case isTrue zero =>
        cases succeeded
        exact ⟨⟨rfl, zero.symm, by omega⟩, rfl⟩
      case isFalse positive =>
        split at succeeded
        case isTrue => cases succeeded
        case isFalse small =>
          have split := recv_split length start
          have short := recv_length_le length start
          cases received : recv length start with
          | mk read after =>
            rw [received] at succeeded split short
            cases read with
            | nil => cases succeeded
            | cons byte piece =>
              rw [List.length_cons] at short
              cases ranRest : recvExact (length - (piece.length + 1)) after with
              | error code => simp [ranRest] at succeeded
              | ok read =>
                obtain ⟨rest, last⟩ := read
                simp only [ranRest] at succeeded
                cases succeeded
                obtain ⟨⟨_, restLength, _⟩, restSplit⟩ :=
                  hypothesis (length - (piece.length + 1)) (by omega) after rest ranRest
                refine ⟨⟨rfl, ?_, by omega⟩, ?_⟩
                · rw [List.length_append, List.length_cons]
                  omega
                · rw [split, restSplit, List.append_assoc]

theorem recvExact_complete (length : Nat) (small : length < 2 ^ 31) (start : Connection)
    (word rest : List UInt8) (exact : word.length = length) (split : start.unread = word ++ rest) :
    ∃ finish, Succeeds (recvExact length) start word finish ∧ finish.unread = rest := by
  induction length using Nat.strong_induction_on generalizing start word with
  | _ length hypothesis =>
      simp only [Succeeds]
      by_cases zero : length = 0
      · have empty : word = [] := List.length_eq_zero_iff.mp (exact.trans zero)
        refine ⟨start, ?_, by rw [split, empty, List.nil_append]⟩
        rw [recvExact, if_pos zero, empty]
      rcases received : recv length start with ⟨piece, after⟩
      have pieces := recv_split length start
      have short := recv_length_le length start
      rw [received] at pieces short
      dsimp only at pieces short
      cases piece with
      | nil =>
          have none := recv_eq_nil length start zero (by rw [received])
          rw [split] at none
          have emptyWord := (List.append_eq_nil_iff.mp none).1
          rw [emptyWord] at exact
          exact absurd exact.symm zero
      | cons byte piece =>
          -- The piece is the front of the word that is asked for.
          obtain ⟨back, wordSplit, afterSplit⟩ : ∃ back, word = byte :: piece ++ back ∧
              after.unread = back ++ rest := by
            rcases List.append_eq_append_iff.mp (split.symm.trans pieces) with
              ⟨back, front, last⟩ | ⟨back, front, last⟩
            · have none : back = [] := by
                have lengths := congrArg List.length front
                rw [List.length_append] at lengths
                exact List.length_eq_zero_iff.mp (by omega)
              rw [none, List.append_nil] at front
              rw [none, List.nil_append] at last
              exact ⟨[], by rw [front, List.append_nil], by rw [last, List.nil_append]⟩
            · exact ⟨back, front, last⟩
          have lengths := congrArg List.length wordSplit
          rw [List.length_append, exact] at lengths
          rw [List.length_cons] at lengths
          obtain ⟨finish, ranRest, left⟩ := hypothesis (length - (piece.length + 1)) (by omega)
            (by omega) after back (by omega) afterSplit
          refine ⟨finish, ?_, left⟩
          rw [recvExact, if_neg zero, if_neg (by omega), received]
          dsimp only
          rw [ranRest, wordSplit]

theorem recvExact_exact (length : Nat) :
    Exact Connection.unread (ofLength length) (recvExact length) := by
  constructor
  · intro start value finish succeeded
    obtain ⟨parsed, split⟩ := recvExact_sound length start finish value succeeded
    exact ⟨value, parsed, split⟩
  · rintro start word value rest ⟨rfl, exact, small⟩ split
    exact recvExact_complete length small start word rest exact split

theorem sendExact_exact (data : List UInt8) :
    Exact Connection.unread (Grammar.nothing ()) (sendExact data) := by
  constructor
  · intro start value finish succeeded
    cases succeeded
    exact ⟨[], ⟨rfl, rfl⟩, rfl⟩
  · rintro start word value rest ⟨rfl, rfl⟩ split
    exact ⟨_, rfl, split⟩

end Wnbd.Nbd
