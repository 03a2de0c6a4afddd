import Wnbd.Foundation.BigEndian
import Wnbd.Foundation.ExactParser

/-!
# Reading fields off a byte string

A reader takes fields of known width off the front of a byte string and leaves the
rest.  `Succeeds` is the judgement of `ExactParser`; the rules say what a reader
finds in front of a string that was written field by field.
-/

set_option autoImplicit false

namespace ByteReader

open BigEndian ExactParser

abbrev Reader : Type → Type := StateT (List UInt8) (Except Unit)

def takeBytes (width : Nat) : Reader (List UInt8) := fun bytes =>
  if width ≤ bytes.length then .ok (bytes.take width, bytes.drop width) else .error ()

/-- A big-endian number. -/
def number (width : Nat) : Reader Nat := do
  let bytes ← takeBytes width
  pure (ofBytes bytes)

/-- So many numbers of one width. -/
def numbers (width : Nat) : Nat → Reader (List Nat)
  | 0 => pure []
  | count + 1 => do
      let first ← number width
      let rest ← numbers width count
      pure (first :: rest)

/-- The reader ends here unless the condition holds. -/
def demand (condition : Prop) [Decidable condition] : Reader Unit :=
  if condition then pure () else throw ()

theorem takeBytes_succeeds (width : Nat) (bytes found rest : List UInt8) :
    Succeeds (takeBytes width) bytes found rest ↔
      bytes = found ++ rest ∧ found.length = width := by
  rw [Succeeds, takeBytes]
  split
  case isTrue fits =>
    rw [Except.ok.injEq, Prod.mk.injEq]
    constructor
    · rintro ⟨rfl, rfl⟩
      exact ⟨(List.take_append_drop width bytes).symm, List.length_take_of_le fits⟩
    · rintro ⟨rfl, exact⟩
      exact ⟨List.take_left' exact, List.drop_left' exact⟩
  case isFalse short =>
    constructor
    · intro failed
      cases failed
    · rintro ⟨rfl, exact⟩
      rw [List.length_append] at short
      omega

theorem takeBytes_front (field rest : List UInt8) :
    Succeeds (takeBytes field.length) (field ++ rest) field rest :=
  (takeBytes_succeeds _ _ _ _).mpr ⟨rfl, rfl⟩

theorem number_front (width value : Nat) (small : value < 256 ^ width) (rest : List UInt8) :
    Succeeds (number width) (toBytes width value ++ rest) value rest := by
  refine succeeds_bind.mpr ⟨toBytes width value, rest, ?_, ?_⟩
  · exact (takeBytes_succeeds _ _ _ _).mpr ⟨rfl, toBytes_length width value⟩
  · exact succeeds_pure.mpr ⟨ofBytes_toBytes_of_lt width value small, rfl⟩

theorem numbers_front (width : Nat) (values : List Nat)
    (small : ∀ value ∈ values, value < 256 ^ width) (rest : List UInt8) :
    Succeeds (numbers width values.length) (values.flatMap (toBytes width) ++ rest) values
      rest := by
  induction values with
  | nil => exact succeeds_pure.mpr ⟨rfl, rfl⟩
  | cons value values hypothesis =>
      have others := hypothesis fun other member => small other (List.mem_cons_of_mem _ member)
      rw [List.flatMap_cons, List.append_assoc]
      refine succeeds_bind.mpr ⟨value, _, ?_, succeeds_bind.mpr ⟨values, rest, others, ?_⟩⟩
      · exact number_front width value (small value List.mem_cons_self) _
      · exact succeeds_pure.mpr ⟨rfl, rfl⟩

theorem demand_succeeds {condition : Prop} [Decidable condition] {bytes rest : List UInt8} :
    Succeeds (demand condition) bytes () rest ↔ condition ∧ bytes = rest := by
  rw [demand]
  split
  case isTrue holds => exact succeeds_pure.trans (and_congr_left fun _ => iff_of_true rfl holds)
  case isFalse fails =>
    refine iff_of_false (fun succeeded => ?_) fun both => fails both.1
    cases succeeded

end ByteReader
