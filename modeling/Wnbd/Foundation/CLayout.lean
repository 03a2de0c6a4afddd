import Mathlib.Tactic

/-!
# Layout of C records

Sizes and alignments of C types with natural alignment: each field of a record
starts at the next multiple of its alignment, and the record is padded to a
multiple of the largest one.  A region is a range of bytes; fields and array
elements lie inside the region of the object they belong to.
-/

set_option autoImplicit false

namespace CLayout

structure CType where
  size : Nat
  align : Nat
  aligned : 0 < align

def scalar (size : Nat) (positive : 0 < size := by decide) : CType := ⟨size, size, positive⟩

def array (element : CType) (count : Nat) : CType :=
  ⟨element.size * count, element.align, element.aligned⟩

/-- The next multiple of the alignment. -/
def alignUp (offset align : Nat) : Nat := (offset + (align - 1)) / align * align

/-- The first byte behind fields placed from an offset on. -/
def placeFields (offset : Nat) : List CType → Nat
  | [] => offset
  | field :: rest => placeFields (alignUp offset field.align + field.size) rest

def maxAlign : List CType → Nat
  | [] => 1
  | field :: rest => max field.align (maxAlign rest)

theorem maxAlign_pos (fields : List CType) : 0 < maxAlign fields := by
  cases fields with
  | nil => exact Nat.one_pos
  | cons field rest => exact lt_max_of_lt_left field.aligned

def record (fields : List CType) : CType :=
  ⟨alignUp (placeFields 0 fields) (maxAlign fields), maxAlign fields, maxAlign_pos fields⟩

/-- Every member of a union starts at its first byte. -/
def union (members : List CType) : CType :=
  ⟨alignUp ((members.map (·.size)).foldr max 0) (maxAlign members), maxAlign members,
    maxAlign_pos members⟩

/-- `offsetof` the field with this index. -/
def offsetOf (fields : List CType) (index : Nat) : Nat :=
  match fields[index]? with
  | some field => alignUp (placeFields 0 (fields.take index)) field.align
  | none => 0

def sizeAt (fields : List CType) (index : Nat) : Nat := (fields[index]?.map (·.size)).getD 0

theorem le_alignUp (offset align : Nat) (positive : 0 < align) : offset ≤ alignUp offset align := by
  have division := Nat.div_add_mod (offset + (align - 1)) align
  have remainder := Nat.mod_lt (offset + (align - 1)) positive
  rw [Nat.mul_comm] at division
  unfold alignUp
  omega

theorem le_placeFields (offset : Nat) (fields : List CType) :
    offset ≤ placeFields offset fields := by
  induction fields generalizing offset with
  | nil => exact Nat.le_refl offset
  | cons field rest hypothesis =>
      have start := le_alignUp offset field.align field.aligned
      have later := hypothesis (alignUp offset field.align + field.size)
      rw [placeFields]
      omega

theorem placeFields_append (offset : Nat) (first second : List CType) :
    placeFields offset (first ++ second) = placeFields (placeFields offset first) second := by
  induction first generalizing offset with
  | nil => rfl
  | cons field rest hypothesis => exact hypothesis _

/-- A field ends inside its record. -/
theorem field_end_le (fields : List CType) (index : Nat) (bound : index < fields.length) :
    offsetOf fields index + sizeAt fields index ≤ (record fields).size := by
  have split : fields = fields.take index ++ fields[index] :: fields.drop (index + 1) := by
    rw [← List.drop_eq_getElem_cons bound, List.take_append_drop]
  have placed : placeFields 0 fields =
      placeFields (offsetOf fields index + sizeAt fields index) (fields.drop (index + 1)) := by
    conv_lhs => rw [split]
    rw [placeFields_append, placeFields, offsetOf, sizeAt, List.getElem?_eq_getElem bound]
    rfl
  calc offsetOf fields index + sizeAt fields index
      ≤ placeFields 0 fields := by
        rw [placed]
        exact le_placeFields _ _
    _ ≤ (record fields).size := le_alignUp _ _ (maxAlign_pos fields)

/-! ## Regions -/

structure Region where
  offset : Nat
  length : Nat
deriving DecidableEq, Repr

namespace Region

/-- The first byte behind the region. -/
def stop (region : Region) : Nat := region.offset + region.length

def Inside (inner outer : Region) : Prop := outer.offset ≤ inner.offset ∧ inner.stop ≤ outer.stop

instance (inner outer : Region) : Decidable (Inside inner outer) :=
  inferInstanceAs (Decidable (_ ∧ _))

theorem Inside.refl (region : Region) : Inside region region := ⟨Nat.le_refl _, Nat.le_refl _⟩

theorem Inside.trans {inner middle outer : Region} (first : Inside inner middle)
    (second : Inside middle outer) : Inside inner outer :=
  ⟨Nat.le_trans second.1 first.1, Nat.le_trans first.2 second.2⟩

/-- An object of this type at the start of the memory. -/
def whole (type : CType) : Region := ⟨0, type.size⟩

/-- A field of the record at the region's start. -/
def field (outer : Region) (fields : List CType) (index : Nat) : Region :=
  ⟨outer.offset + offsetOf fields index, sizeAt fields index⟩

/-- An element of the array at the region's start. -/
def element (outer : Region) (type : CType) (index : Nat) : Region :=
  ⟨outer.offset + index * type.size, type.size⟩

theorem field_inside (outer : Region) (fields : List CType) (index : Nat)
    (bound : index < fields.length) (fits : (record fields).size ≤ outer.length) :
    Inside (outer.field fields index) outer := by
  have ends := field_end_le fields index bound
  simp only [Inside, stop, field]
  omega

theorem element_inside (outer : Region) (type : CType) (index : Nat)
    (fits : (index + 1) * type.size ≤ outer.length) : Inside (outer.element type index) outer := by
  rw [Nat.add_mul, Nat.one_mul] at fits
  simp only [Inside, stop, element]
  omega

end Region

end CLayout
