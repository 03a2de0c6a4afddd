import Wnbd.Foundation.BigEndian

/-!
# SCSI command descriptor blocks

The operation codes the driver queues, the byte layouts of the 6, 10, 12 and
16 byte block commands, and `SrbCdbGetRange`, the routine every queued read,
write and cache flush is decoded with.  `srbCdbGetRange_offset`,
`srbCdbGetRange_length` and `srbCdbGetRange_fua` compare it with the layout of
the SCSI block commands, read as natural numbers.
-/

set_option autoImplicit false

namespace Wnbd.Scsi

open BigEndian

/-- The bytes of a CDB.  The union is 16 bytes long whatever the command. -/
abbrev Cdb := Vector UInt8 16

/-- `AsByte`. -/
def Cdb.asByte (cdb : Cdb) (index : Nat) : UInt8 := cdb[index]?.getD 0

def scsiopRead6 : UInt8 := 0x08
def scsiopWrite6 : UInt8 := 0x0A
def scsiopInquiry : UInt8 := 0x12
def scsiopModeSense : UInt8 := 0x1A
def scsiopReadCapacity : UInt8 := 0x25
def scsiopRead : UInt8 := 0x28
def scsiopWrite : UInt8 := 0x2A
def scsiopSynchronizeCache : UInt8 := 0x35
def scsiopUnmap : UInt8 := 0x42
def scsiopPersistentReserveIn : UInt8 := 0x5E
def scsiopPersistentReserveOut : UInt8 := 0x5F
def scsiopRead16 : UInt8 := 0x88
def scsiopWrite16 : UInt8 := 0x8A
def scsiopSynchronizeCache16 : UInt8 := 0x91
def scsiopRead12 : UInt8 := 0xA8
def scsiopWrite12 : UInt8 := 0xAA

inductive WnbdRequestType
  | unknown | read | write | flush | unmap | disconnect | persistResIn | persistResOut
deriving DecidableEq, Repr

/-- The request types that stand for an I/O, as opposed to a notification. -/
def WnbdRequestType.IsIo : WnbdRequestType → Prop
  | .unknown | .disconnect => False
  | _ => True

instance (requestType : WnbdRequestType) : Decidable requestType.IsIo := by
  cases requestType <;> unfold WnbdRequestType.IsIo <;> infer_instance

def scsiOpToWnbdReqType (scsiOp : UInt8) : WnbdRequestType :=
  if scsiOp ∈ [scsiopRead6, scsiopRead, scsiopRead12, scsiopRead16] then .read
  else if scsiOp ∈ [scsiopWrite6, scsiopWrite, scsiopWrite12, scsiopWrite16] then .write
  else if scsiOp = scsiopUnmap then .unmap
  else if scsiOp ∈ [scsiopSynchronizeCache, scsiopSynchronizeCache16] then .flush
  else if scsiOp = scsiopPersistentReserveIn then .persistResIn
  else if scsiOp = scsiopPersistentReserveOut then .persistResOut
  else .unknown

/-! ## SrbCdbGetRange -/

structure CdbRange where
  offset : UInt64
  length : UInt32
  forceUnitAccess : UInt32
deriving DecidableEq

/-- `CDB10.ForceUnitAccess` and its 12 and 16 byte siblings: bit 3 of byte 1. -/
def forceUnitAccessBit (cdb : Cdb) : UInt32 := (cdb.asByte 1 >>> 3 &&& 1).toUInt32

def srbCdbGetRange (cdb : Cdb) : CdbRange :=
  let group := cdb.asByte 0 &&& 0xE0
  if group = 0x00 then
    { offset := (cdb.asByte 1 &&& 0x1F).toUInt64 <<< 16 ||| (cdb.asByte 2).toUInt64 <<< 8 |||
        (cdb.asByte 3).toUInt64
      length := if cdb.asByte 4 ≠ 0 then (cdb.asByte 4).toUInt32 else 256
      forceUnitAccess := 0 }
  else if group = 0x20 ∨ group = 0x40 then
    { offset := (cdb.asByte 2).toUInt64 <<< 24 ||| (cdb.asByte 3).toUInt64 <<< 16 |||
        (cdb.asByte 4).toUInt64 <<< 8 ||| (cdb.asByte 5).toUInt64
      length := (cdb.asByte 7).toUInt32 <<< 8 ||| (cdb.asByte 8).toUInt32
      forceUnitAccess := forceUnitAccessBit cdb }
  else if group = 0x80 then
    { offset := (cdb.asByte 2).toUInt64 <<< 56 ||| (cdb.asByte 3).toUInt64 <<< 48 |||
        (cdb.asByte 4).toUInt64 <<< 40 ||| (cdb.asByte 5).toUInt64 <<< 32 |||
        (cdb.asByte 6).toUInt64 <<< 24 ||| (cdb.asByte 7).toUInt64 <<< 16 |||
        (cdb.asByte 8).toUInt64 <<< 8 ||| (cdb.asByte 9).toUInt64
      length := (cdb.asByte 10).toUInt32 <<< 24 ||| (cdb.asByte 11).toUInt32 <<< 16 |||
        (cdb.asByte 12).toUInt32 <<< 8 ||| (cdb.asByte 13).toUInt32
      forceUnitAccess := forceUnitAccessBit cdb }
  else if group = 0xA0 then
    { offset := (cdb.asByte 2).toUInt64 <<< 24 ||| (cdb.asByte 3).toUInt64 <<< 16 |||
        (cdb.asByte 4).toUInt64 <<< 8 ||| (cdb.asByte 5).toUInt64
      length := (cdb.asByte 6).toUInt32 <<< 24 ||| (cdb.asByte 7).toUInt32 <<< 16 |||
        (cdb.asByte 8).toUInt32 <<< 8 ||| (cdb.asByte 9).toUInt32
      forceUnitAccess := forceUnitAccessBit cdb }
  else
    -- No case matches: the out parameters keep the zeros the callers store first.
    { offset := 0, length := 0, forceUnitAccess := 0 }

/-! ## The SCSI block command layouts -/

inductive CdbFormat
  | six | ten | twelve | sixteen
deriving DecidableEq, Repr

/-- The layout of each command that carries a block range. -/
def rangeFormat (scsiOp : UInt8) : Option CdbFormat :=
  if scsiOp ∈ [scsiopRead6, scsiopWrite6] then some .six
  else if scsiOp ∈ [scsiopRead, scsiopWrite, scsiopSynchronizeCache] then some .ten
  else if scsiOp ∈ [scsiopRead12, scsiopWrite12] then some .twelve
  else if scsiOp ∈ [scsiopRead16, scsiopWrite16, scsiopSynchronizeCache16] then some .sixteen
  else none

def rangeOps : List UInt8 :=
  [scsiopRead6, scsiopRead, scsiopRead12, scsiopRead16, scsiopWrite6, scsiopWrite, scsiopWrite12,
    scsiopWrite16, scsiopSynchronizeCache, scsiopSynchronizeCache16]

theorem rangeFormat_of_mem (scsiOp : UInt8) (member : scsiOp ∈ rangeOps) :
    ∃ format, rangeFormat scsiOp = some format := by
  simp only [rangeOps, List.mem_cons, List.not_mem_nil, or_false] at member
  rcases member with rfl | rfl | rfl | rfl | rfl | rfl | rfl | rfl | rfl | rfl <;>
    exact ⟨_, rfl⟩

/-- LOGICAL BLOCK ADDRESS; the 6 byte form has 21 bits of it. -/
def logicalBlockAddress (cdb : Cdb) : CdbFormat → Nat
  | .six => (cdb.asByte 1).toNat % 32 * 256 ^ 2 + ofBytes [cdb.asByte 2, cdb.asByte 3]
  | .ten => ofBytes [cdb.asByte 2, cdb.asByte 3, cdb.asByte 4, cdb.asByte 5]
  | .twelve => ofBytes [cdb.asByte 2, cdb.asByte 3, cdb.asByte 4, cdb.asByte 5]
  | .sixteen => ofBytes [cdb.asByte 2, cdb.asByte 3, cdb.asByte 4, cdb.asByte 5,
      cdb.asByte 6, cdb.asByte 7, cdb.asByte 8, cdb.asByte 9]

/-- TRANSFER LENGTH in blocks; 0 means 256 blocks in the 6 byte form. -/
def transferLength (cdb : Cdb) : CdbFormat → Nat
  | .six => if (cdb.asByte 4).toNat = 0 then 256 else (cdb.asByte 4).toNat
  | .ten => ofBytes [cdb.asByte 7, cdb.asByte 8]
  | .twelve => ofBytes [cdb.asByte 6, cdb.asByte 7, cdb.asByte 8, cdb.asByte 9]
  | .sixteen => ofBytes [cdb.asByte 10, cdb.asByte 11, cdb.asByte 12, cdb.asByte 13]

/-- The FUA bit; the 6 byte form has none. -/
def fuaBit (cdb : Cdb) : CdbFormat → Bool
  | .six => false
  | _ => (cdb.asByte 1).toNat.testBit 3

/-- The group code, the top three bits of the operation code. -/
def CdbFormat.groupCode : CdbFormat → UInt8
  | .six => 0x00
  | .ten => 0x20
  | .twelve => 0xA0
  | .sixteen => 0x80

theorem rangeFormat_groupCode (scsiOp : UInt8) (format : CdbFormat)
    (ranged : rangeFormat scsiOp = some format) :
    scsiOp &&& 0xE0 = format.groupCode := by
  simp only [rangeFormat, List.mem_cons, List.not_mem_nil, or_false] at ranged
  split_ifs at ranged with six ten twelve sixteen
  · cases ranged
    rcases six with rfl | rfl <;> rfl
  · cases ranged
    rcases ten with rfl | rfl | rfl <;> rfl
  · cases ranged
    rcases twelve with rfl | rfl <;> rfl
  · cases ranged
    rcases sixteen with rfl | rfl | rfl <;> rfl

/-! ## The decoder agrees with the layouts -/

theorem shifted_byte_64 (byte : UInt8) (k : UInt64) (room : k.toNat ≤ 56) :
    (byte.toUInt64 <<< k).toNat = byte.toNat <<< k.toNat := by
  have byteSmall : byte.toNat < 2 ^ 8 := byte.toNat_lt
  have scaled : byte.toNat * 2 ^ k.toNat < 2 ^ 8 * 2 ^ 56 := by
    calc byte.toNat * 2 ^ k.toNat
        ≤ byte.toNat * 2 ^ 56 := Nat.mul_le_mul_left _ (Nat.pow_le_pow_right (by omega) room)
      _ < 2 ^ 8 * 2 ^ 56 := Nat.mul_lt_mul_of_pos_right byteSmall (by positivity)
  rw [UInt64.toNat_shiftLeft, Nat.mod_eq_of_lt (by omega : k.toNat < 64), UInt8.toNat_toUInt64,
    Nat.shiftLeft_eq, Nat.mod_eq_of_lt (by omega)]

theorem shifted_byte_32 (byte : UInt8) (k : UInt32) (room : k.toNat ≤ 24) :
    (byte.toUInt32 <<< k).toNat = byte.toNat <<< k.toNat := by
  have byteSmall : byte.toNat < 2 ^ 8 := byte.toNat_lt
  have scaled : byte.toNat * 2 ^ k.toNat < 2 ^ 8 * 2 ^ 24 := by
    calc byte.toNat * 2 ^ k.toNat
        ≤ byte.toNat * 2 ^ 24 := Nat.mul_le_mul_left _ (Nat.pow_le_pow_right (by omega) room)
      _ < 2 ^ 8 * 2 ^ 24 := Nat.mul_lt_mul_of_pos_right byteSmall (by positivity)
  rw [UInt32.toNat_shiftLeft, Nat.mod_eq_of_lt (by omega : k.toNat < 32), UInt8.toNat_toUInt32,
    Nat.shiftLeft_eq, Nat.mod_eq_of_lt (by omega)]

theorem assembled_offset_3 (a b c : UInt8) :
    (a.toUInt64 <<< 16 ||| b.toUInt64 <<< 8 ||| c.toUInt64).toNat = ofBytes [a, b, c] := by
  rw [UInt64.toNat_or, UInt64.toNat_or, shifted_byte_64 a 16 (by decide),
    shifted_byte_64 b 8 (by decide), UInt8.toNat_toUInt64]
  change a.toNat <<< (8 + 8) ||| b.toNat <<< 8 ||| c.toNat = _
  rw [or_byte _ _ _ b.toNat_lt, or_last_byte _ _ c.toNat_lt]
  simp only [ofBytes, List.length_cons, List.length_nil]
  ring

theorem assembled_offset_4 (a b c d : UInt8) :
    (a.toUInt64 <<< 24 ||| b.toUInt64 <<< 16 ||| c.toUInt64 <<< 8 ||| d.toUInt64).toNat =
      ofBytes [a, b, c, d] := by
  rw [UInt64.toNat_or, UInt64.toNat_or, UInt64.toNat_or, shifted_byte_64 a 24 (by decide),
    shifted_byte_64 b 16 (by decide), shifted_byte_64 c 8 (by decide), UInt8.toNat_toUInt64]
  change a.toNat <<< (16 + 8) ||| b.toNat <<< (8 + 8) ||| c.toNat <<< 8 ||| d.toNat = _
  rw [or_byte _ _ _ b.toNat_lt, or_byte _ _ _ c.toNat_lt, or_last_byte _ _ d.toNat_lt]
  simp only [ofBytes, List.length_cons, List.length_nil]
  ring

theorem assembled_offset_8 (a b c d e f g h : UInt8) :
    (a.toUInt64 <<< 56 ||| b.toUInt64 <<< 48 ||| c.toUInt64 <<< 40 ||| d.toUInt64 <<< 32 |||
      e.toUInt64 <<< 24 ||| f.toUInt64 <<< 16 ||| g.toUInt64 <<< 8 ||| h.toUInt64).toNat =
      ofBytes [a, b, c, d, e, f, g, h] := by
  simp only [UInt64.toNat_or, shifted_byte_64 a 56 (by decide), shifted_byte_64 b 48 (by decide),
    shifted_byte_64 c 40 (by decide), shifted_byte_64 d 32 (by decide),
    shifted_byte_64 e 24 (by decide), shifted_byte_64 f 16 (by decide),
    shifted_byte_64 g 8 (by decide), UInt8.toNat_toUInt64]
  change a.toNat <<< (48 + 8) ||| b.toNat <<< (40 + 8) ||| c.toNat <<< (32 + 8) |||
    d.toNat <<< (24 + 8) ||| e.toNat <<< (16 + 8) ||| f.toNat <<< (8 + 8) ||| g.toNat <<< 8 |||
    h.toNat = _
  rw [or_byte _ _ _ b.toNat_lt, or_byte _ _ _ c.toNat_lt, or_byte _ _ _ d.toNat_lt,
    or_byte _ _ _ e.toNat_lt, or_byte _ _ _ f.toNat_lt, or_byte _ _ _ g.toNat_lt,
    or_last_byte _ _ h.toNat_lt]
  simp only [ofBytes, List.length_cons, List.length_nil]
  ring

theorem assembled_length_2 (a b : UInt8) :
    (a.toUInt32 <<< 8 ||| b.toUInt32).toNat = ofBytes [a, b] := by
  rw [UInt32.toNat_or, shifted_byte_32 a 8 (by decide), UInt8.toNat_toUInt32]
  change a.toNat <<< 8 ||| b.toNat = _
  rw [or_last_byte _ _ b.toNat_lt]
  simp only [ofBytes, List.length_cons, List.length_nil]
  ring

theorem assembled_length_4 (a b c d : UInt8) :
    (a.toUInt32 <<< 24 ||| b.toUInt32 <<< 16 ||| c.toUInt32 <<< 8 ||| d.toUInt32).toNat =
      ofBytes [a, b, c, d] := by
  simp only [UInt32.toNat_or, shifted_byte_32 a 24 (by decide), shifted_byte_32 b 16 (by decide),
    shifted_byte_32 c 8 (by decide), UInt8.toNat_toUInt32]
  change a.toNat <<< (16 + 8) ||| b.toNat <<< (8 + 8) ||| c.toNat <<< 8 ||| d.toNat = _
  rw [or_byte _ _ _ b.toNat_lt, or_byte _ _ _ c.toNat_lt, or_last_byte _ _ d.toNat_lt]
  simp only [ofBytes, List.length_cons, List.length_nil]
  ring

theorem low_five_bits (byte : UInt8) : (byte &&& 0x1F).toNat = byte.toNat % 32 := by
  rw [UInt8.toNat_and]
  exact Nat.and_two_pow_sub_one_eq_mod byte.toNat 5

theorem srbCdbGetRange_offset (cdb : Cdb) (format : CdbFormat)
    (ranged : rangeFormat (cdb.asByte 0) = some format) :
    (srbCdbGetRange cdb).offset.toNat = logicalBlockAddress cdb format := by
  have group := rangeFormat_groupCode (cdb.asByte 0) format ranged
  unfold srbCdbGetRange
  rw [group]
  cases format with
  | six =>
      simp only [CdbFormat.groupCode, if_true, logicalBlockAddress]
      rw [assembled_offset_3]
      simp only [ofBytes, low_five_bits, List.length_cons, List.length_nil]
  | ten => exact assembled_offset_4 (cdb.asByte 2) (cdb.asByte 3) (cdb.asByte 4) (cdb.asByte 5)
  | twelve => exact assembled_offset_4 (cdb.asByte 2) (cdb.asByte 3) (cdb.asByte 4) (cdb.asByte 5)
  | sixteen =>
      exact assembled_offset_8 (cdb.asByte 2) (cdb.asByte 3) (cdb.asByte 4) (cdb.asByte 5)
        (cdb.asByte 6) (cdb.asByte 7) (cdb.asByte 8) (cdb.asByte 9)

theorem srbCdbGetRange_length (cdb : Cdb) (format : CdbFormat)
    (ranged : rangeFormat (cdb.asByte 0) = some format) :
    (srbCdbGetRange cdb).length.toNat = transferLength cdb format := by
  have group := rangeFormat_groupCode (cdb.asByte 0) format ranged
  unfold srbCdbGetRange
  rw [group]
  cases format with
  | six =>
      have zeroCount : cdb.asByte 4 = 0 ↔ (cdb.asByte 4).toNat = 0 := by
        rw [← UInt8.toNat_inj]
        simp
      by_cases empty : (cdb.asByte 4).toNat = 0
      · simp [CdbFormat.groupCode, transferLength, zeroCount, empty]
      · simp [CdbFormat.groupCode, transferLength, zeroCount, empty]
  | ten => exact assembled_length_2 (cdb.asByte 7) (cdb.asByte 8)
  | twelve => exact assembled_length_4 (cdb.asByte 6) (cdb.asByte 7) (cdb.asByte 8) (cdb.asByte 9)
  | sixteen =>
      exact assembled_length_4 (cdb.asByte 10) (cdb.asByte 11) (cdb.asByte 12) (cdb.asByte 13)

theorem forceUnitAccessBit_ne_zero (cdb : Cdb) :
    forceUnitAccessBit cdb ≠ 0 ↔ (cdb.asByte 1).toNat.testBit 3 = true := by
  have shifted : (forceUnitAccessBit cdb).toNat = (cdb.asByte 1).toNat >>> 3 &&& 1 := by
    simp [forceUnitAccessBit]
  rw [ne_eq, ← UInt32.toNat_inj, shifted, Nat.testBit, Nat.and_comm]
  simp

theorem srbCdbGetRange_fua (cdb : Cdb) (format : CdbFormat)
    (ranged : rangeFormat (cdb.asByte 0) = some format) :
    (srbCdbGetRange cdb).forceUnitAccess ≠ 0 ↔ fuaBit cdb format = true := by
  have group := rangeFormat_groupCode (cdb.asByte 0) format ranged
  unfold srbCdbGetRange
  rw [group]
  cases format with
  | six => simp [CdbFormat.groupCode, fuaBit]
  | ten => exact forceUnitAccessBit_ne_zero cdb
  | twelve => exact forceUnitAccessBit_ne_zero cdb
  | sixteen => exact forceUnitAccessBit_ne_zero cdb

end Wnbd.Scsi
