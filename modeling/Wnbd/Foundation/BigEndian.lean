import Mathlib.Tactic

/-!
# Big-endian byte strings

`ofBytes` reads a byte string as a base-256 numeral, most significant byte
first; `toBytes width value` writes the low `width` bytes of a number in the
same order.  The two are inverse up to the width.  The last section reads the
shift-and-or form in which C code assembles such a number.
-/

set_option autoImplicit false

namespace BigEndian

def ofBytes : List UInt8 → Nat
  | [] => 0
  | byte :: rest => byte.toNat * 256 ^ rest.length + ofBytes rest

def toBytes : Nat → Nat → List UInt8
  | 0, _ => []
  | width + 1, value => UInt8.ofNat (value / 256 ^ width) :: toBytes width value

theorem ofBytes_lt (bytes : List UInt8) : ofBytes bytes < 256 ^ bytes.length := by
  induction bytes with
  | nil => simp [ofBytes]
  | cons byte rest ih =>
      have byteSmall : byte.toNat + 1 ≤ 256 := byte.toNat_lt
      have scaled := Nat.mul_le_mul_right (256 ^ rest.length) byteSmall
      rw [ofBytes, List.length_cons, pow_succ]
      linarith

theorem ofBytes_eq_zero (bytes : List UInt8) : ofBytes bytes = 0 ↔ ∀ byte ∈ bytes, byte = 0 := by
  induction bytes with
  | nil => simp [ofBytes]
  | cons byte rest ih =>
      have scale : 256 ^ rest.length ≠ 0 := by positivity
      have zero : byte.toNat = 0 ↔ byte = 0 := by
        rw [← UInt8.toNat_inj]
        rfl
      rw [ofBytes, Nat.add_eq_zero_iff, Nat.mul_eq_zero, or_iff_left scale, zero, ih,
        List.forall_mem_cons]

@[simp] theorem toBytes_length (width value : Nat) : (toBytes width value).length = width := by
  induction width with
  | zero => rfl
  | succ width ih => simp [toBytes, ih]

theorem ofBytes_toBytes (width value : Nat) :
    ofBytes (toBytes width value) = value % 256 ^ width := by
  induction width with
  | zero => simp [toBytes, ofBytes, Nat.mod_one]
  | succ width ih =>
      have headExact : (UInt8.ofNat (value / 256 ^ width)).toNat = value / 256 ^ width % 256 := by
        simp
      rw [toBytes, ofBytes, toBytes_length, ih, headExact, pow_succ, Nat.mod_mul]
      ring

theorem ofBytes_toBytes_of_lt (width value : Nat) (small : value < 256 ^ width) :
    ofBytes (toBytes width value) = value := by
  rw [ofBytes_toBytes, Nat.mod_eq_of_lt small]

theorem toBytes_add_mul (width value high : Nat) :
    toBytes width (value + high * 256 ^ width) = toBytes width value := by
  induction width generalizing high with
  | zero => rfl
  | succ width ih =>
      have regroup : value + high * 256 ^ (width + 1) = value + high * 256 * 256 ^ width := by
        rw [pow_succ]
        ring
      have quotient : (value + high * 256 * 256 ^ width) / 256 ^ width =
          value / 256 ^ width + high * 256 := Nat.add_mul_div_right _ _ (by positivity)
      have head : UInt8.ofNat (value / 256 ^ width + high * 256) =
          UInt8.ofNat (value / 256 ^ width) := by
        rw [← UInt8.toNat_inj, UInt8.toNat_ofNat', UInt8.toNat_ofNat']
        omega
      rw [regroup, toBytes, toBytes, quotient, head, ih]

theorem toBytes_ofBytes (bytes : List UInt8) : toBytes bytes.length (ofBytes bytes) = bytes := by
  induction bytes with
  | nil => rfl
  | cons byte rest ih =>
      have small := ofBytes_lt rest
      have head : (byte.toNat * 256 ^ rest.length + ofBytes rest) / 256 ^ rest.length =
          byte.toNat := by
        rw [Nat.mul_comm, Nat.mul_add_div (by positivity), Nat.div_eq_of_lt small, Nat.add_zero]
      rw [List.length_cons, toBytes, ofBytes, head, UInt8.ofNat_toNat, Nat.add_comm,
        toBytes_add_mul, ih]

/-- A byte string of a given length spells a number in one way. -/
theorem ofBytes_eq_iff (bytes : List UInt8) (width value : Nat) (exact : bytes.length = width)
    (small : value < 256 ^ width) : ofBytes bytes = value ↔ bytes = toBytes width value := by
  constructor
  · rintro rfl
    rw [← exact, toBytes_ofBytes]
  · rintro rfl
    exact ofBytes_toBytes_of_lt width value small

/-! ## Numbers assembled with shifts and ors -/

theorem or_byte (high k low : Nat) (lowSmall : low < 256) :
    (high <<< (k + 8)) ||| (low <<< k) = (high * 256 + low) <<< k := by
  have pieces : high <<< (k + 8) = (high <<< 8) <<< k := by
    rw [← Nat.shiftLeft_add, Nat.add_comm 8 k]
  rw [pieces, ← Nat.shiftLeft_or_distrib,
    ← Nat.shiftLeft_add_eq_or_of_lt (i := 8) lowSmall, Nat.shiftLeft_eq high]

theorem or_last_byte (high low : Nat) (lowSmall : low < 256) :
    (high <<< 8) ||| low = high * 256 + low := by
  simpa using or_byte high 0 low lowSmall

end BigEndian
