import Wnbd.Scsi.Cdb

/-!
# The encoding of block commands

The CDB that the SCSI block commands prescribe for an address, a block count and
a FUA bit.  `encode` writes the prescribed fields over a CDB that may hold
anything else; `srbCdbGetRange_encode` reads the same values back.
-/

set_option autoImplicit false

namespace Wnbd.Scsi

open BigEndian

/-! ## Bytes of a CDB -/

def Cdb.put (cdb : Cdb) (start : Nat) (bytes : List UInt8) : Cdb :=
  Vector.ofFn fun index =>
    if start ≤ index.val ∧ index.val < start + bytes.length then
      bytes.getD (index.val - start) 0
    else cdb[index]

theorem Cdb.asByte_put (cdb : Cdb) (start : Nat) (bytes : List UInt8) (index : Nat)
    (bound : index < 16) :
    (cdb.put start bytes).asByte index =
      if start ≤ index ∧ index < start + bytes.length then bytes.getD (index - start) 0
      else cdb.asByte index := by
  have known : (cdb.put start bytes)[index]? = some ((cdb.put start bytes)[index]) :=
    Vector.getElem?_eq_getElem bound
  have old : cdb[index]? = some cdb[index] := Vector.getElem?_eq_getElem bound
  rw [Cdb.asByte, Cdb.asByte, known, old, Option.getD_some, Option.getD_some, Cdb.put,
    Vector.getElem_ofFn]
  rfl

/-! ## Commands and ranges -/

inductive RangeCommand
  | read (format : CdbFormat)
  | write (format : CdbFormat)
  | synchronizeCache
  | synchronizeCache16
deriving DecidableEq, Repr

namespace RangeCommand

def format : RangeCommand → CdbFormat
  | .read format => format
  | .write format => format
  | .synchronizeCache => .ten
  | .synchronizeCache16 => .sixteen

def scsiOp : RangeCommand → UInt8
  | .read .six => scsiopRead6
  | .read .ten => scsiopRead
  | .read .twelve => scsiopRead12
  | .read .sixteen => scsiopRead16
  | .write .six => scsiopWrite6
  | .write .ten => scsiopWrite
  | .write .twelve => scsiopWrite12
  | .write .sixteen => scsiopWrite16
  | .synchronizeCache => scsiopSynchronizeCache
  | .synchronizeCache16 => scsiopSynchronizeCache16

/-- Reads and writes have a FUA bit, except for the 6 byte ones. -/
def hasFua : RangeCommand → Bool
  | .read format => format ≠ .six
  | .write format => format ≠ .six
  | .synchronizeCache => false
  | .synchronizeCache16 => false

def flushes : RangeCommand → Bool
  | .read _ => false
  | .write _ => false
  | .synchronizeCache => true
  | .synchronizeCache16 => true

/-- A read or write without a FUA bit is a 6 byte one. -/
theorem format_of_hasFua_false (command : RangeCommand) (transfers : command.flushes = false)
    (without : command.hasFua = false) : command.format = .six := by
  cases command with
  | read format => exact not_not.mp (of_decide_eq_false without)
  | write format => exact not_not.mp (of_decide_eq_false without)
  | synchronizeCache => cases transfers
  | synchronizeCache16 => cases transfers

theorem format_of_hasFua (command : RangeCommand) (carries : command.hasFua = true) :
    command.format ≠ .six := by
  cases command with
  | read format => exact of_decide_eq_true carries
  | write format => exact of_decide_eq_true carries
  | synchronizeCache => cases carries
  | synchronizeCache16 => cases carries

theorem rangeFormat_scsiOp (command : RangeCommand) :
    rangeFormat command.scsiOp = some command.format := by
  cases command with
  | read format => cases format <;> rfl
  | write format => cases format <;> rfl
  | synchronizeCache => rfl
  | synchronizeCache16 => rfl

end RangeCommand

def CdbFormat.addressBits : CdbFormat → Nat
  | .six => 21
  | .ten => 32
  | .twelve => 32
  | .sixteen => 64

def CdbFormat.Counts : CdbFormat → Nat → Prop
  | .six, count => 1 ≤ count ∧ count ≤ 256
  | .ten, count => count < 2 ^ 16
  | .twelve, count => count < 2 ^ 32
  | .sixteen, count => count < 2 ^ 32

structure BlockRange (command : RangeCommand) where
  address : Nat
  count : Nat
  forceUnitAccess : Bool
  addressFits : address < 2 ^ command.format.addressBits
  countFits : command.format.Counts count
  fuaFits : command.hasFua = false → forceUnitAccess = false

/-! ## The prescribed CDB -/

/-- The first byte of a 6 byte address shares its byte with three other bits. -/
def addressByte (old : UInt8) (address : Nat) : UInt8 :=
  old &&& 0xE0 ||| UInt8.ofNat (address / 256 ^ 2)

def fuaByte (old : UInt8) (forceUnitAccess : Bool) : UInt8 :=
  old &&& 0xF7 ||| if forceUnitAccess then 0x08 else 0x00

/-- A count of 256 is the byte zero in the 6 byte form. -/
def putRange (cdb : Cdb) (format : CdbFormat) (address count : Nat) : Cdb :=
  match format with
  | .six =>
      ((cdb.put 1 [addressByte (cdb.asByte 1) address]).put 2 (toBytes 2 address)).put 4
        (toBytes 1 count)
  | .ten => (cdb.put 2 (toBytes 4 address)).put 7 (toBytes 2 count)
  | .twelve => (cdb.put 2 (toBytes 4 address)).put 6 (toBytes 4 count)
  | .sixteen => (cdb.put 2 (toBytes 8 address)).put 10 (toBytes 4 count)

def putFua (cdb : Cdb) (command : RangeCommand) (forceUnitAccess : Bool) : Cdb :=
  if command.hasFua then cdb.put 1 [fuaByte (cdb.asByte 1) forceUnitAccess] else cdb

/-- The prescribed fields over a CDB with any other bits and bytes. -/
def encode (cdb : Cdb) (command : RangeCommand) (range : BlockRange command) : Cdb :=
  putFua (putRange (cdb.put 0 [command.scsiOp]) command.format range.address range.count) command
    range.forceUnitAccess

/-! ## Reading the fields back -/

section Fields

variable (cdb : Cdb) (format : CdbFormat) (address count : Nat)

theorem putRange_operationCode : (putRange cdb format address count).asByte 0 = cdb.asByte 0 := by
  cases format with
  | six => simp [putRange, Cdb.asByte_put]
  | ten => simp [putRange, Cdb.asByte_put]
  | twelve => simp [putRange, Cdb.asByte_put]
  | sixteen => simp [putRange, Cdb.asByte_put]

theorem addressByte_low (old : UInt8) (fits : address < 2 ^ 21) :
    (addressByte old address).toNat % 32 = address / 256 ^ 2 := by
  have high : (old &&& 0xE0).toNat % 2 ^ 5 = 0 := by
    rw [UInt8.toNat_and, Nat.and_mod_two_pow]
    exact Nat.and_zero _
  have low : (UInt8.ofNat (address / 256 ^ 2)).toNat % 2 ^ 5 = address / 256 ^ 2 := by
    rw [UInt8.toNat_ofNat']
    omega
  rw [addressByte, UInt8.toNat_or]
  change _ % 2 ^ 5 = _
  rw [Nat.or_mod_two_pow, high, low, Nat.zero_or]

theorem logicalBlockAddress_putRange (fits : address < 2 ^ format.addressBits) :
    logicalBlockAddress (putRange cdb format address count) format = address := by
  cases format with
  | six =>
      have low := addressByte_low address (cdb.asByte 1) fits
      have rest := ofBytes_toBytes 2 address
      have first : (putRange cdb .six address count).asByte 1 =
          addressByte (cdb.asByte 1) address := by
        simp [putRange, Cdb.asByte_put]
      have others : [(putRange cdb .six address count).asByte 2,
          (putRange cdb .six address count).asByte 3] = toBytes 2 address := by
        simp [putRange, Cdb.asByte_put, toBytes]
      rw [logicalBlockAddress, first, others, low, rest, Nat.mul_comm]
      exact Nat.div_add_mod address (256 ^ 2)
  | ten =>
      have whole := ofBytes_toBytes_of_lt 4 address fits
      simpa [putRange, logicalBlockAddress, Cdb.asByte_put, toBytes] using whole
  | twelve =>
      have whole := ofBytes_toBytes_of_lt 4 address fits
      simpa [putRange, logicalBlockAddress, Cdb.asByte_put, toBytes] using whole
  | sixteen =>
      have whole := ofBytes_toBytes_of_lt 8 address fits
      simpa [putRange, logicalBlockAddress, Cdb.asByte_put, toBytes] using whole

theorem transferLength_putRange (fits : format.Counts count) :
    transferLength (putRange cdb format address count) format = count := by
  cases format with
  | six =>
      have byte : ((putRange cdb .six address count).asByte 4).toNat = count % 256 := by
        simp [putRange, Cdb.asByte_put, toBytes]
      rw [transferLength, byte]
      obtain ⟨positive, small⟩ := fits
      split
      case isTrue zero => omega
      case isFalse nonzero => omega
  | ten =>
      have whole := ofBytes_toBytes_of_lt 2 count fits
      simpa [putRange, transferLength, Cdb.asByte_put, toBytes] using whole
  | twelve =>
      have whole := ofBytes_toBytes_of_lt 4 count fits
      simpa [putRange, transferLength, Cdb.asByte_put, toBytes] using whole
  | sixteen =>
      have whole := ofBytes_toBytes_of_lt 4 count fits
      simpa [putRange, transferLength, Cdb.asByte_put, toBytes] using whole

end Fields

/-! ## FUA -/

theorem putFua_asByte (cdb : Cdb) (command : RangeCommand) (forceUnitAccess : Bool) (index : Nat)
    (bound : index < 16) (other : index ≠ 1) :
    (putFua cdb command forceUnitAccess).asByte index = cdb.asByte index := by
  rw [putFua]
  split
  · rw [Cdb.asByte_put _ _ _ _ bound, if_neg]
    simp only [List.length_singleton]
    omega
  · rfl

/-- The FUA bit shares no byte with the range, except in the form without one. -/
theorem putFua_range (cdb : Cdb) (command : RangeCommand) (forceUnitAccess : Bool) :
    logicalBlockAddress (putFua cdb command forceUnitAccess) command.format =
        logicalBlockAddress cdb command.format ∧
      transferLength (putFua cdb command forceUnitAccess) command.format =
        transferLength cdb command.format := by
  cases without : command.hasFua with
  | false =>
      rw [putFua, without]
      exact ⟨rfl, rfl⟩
  | true =>
      have longer := command.format_of_hasFua without
      cases isFormat : command.format with
      | six => exact absurd isFormat longer
      | ten => simp [logicalBlockAddress, transferLength, putFua_asByte]
      | twelve => simp [logicalBlockAddress, transferLength, putFua_asByte]
      | sixteen => simp [logicalBlockAddress, transferLength, putFua_asByte]

theorem testBit_fuaByte (old : UInt8) (forceUnitAccess : Bool) :
    (fuaByte old forceUnitAccess).toNat.testBit 3 = forceUnitAccess := by
  have cleared : (0xF7 : UInt8).toNat.testBit 3 = false := rfl
  rw [fuaByte, UInt8.toNat_or, UInt8.toNat_and, Nat.testBit_or, Nat.testBit_and, cleared,
    Bool.and_false, Bool.false_or]
  cases forceUnitAccess with
  | true => rfl
  | false => rfl

theorem forceUnitAccessBit_eq (cdb : Cdb) :
    forceUnitAccessBit cdb = if (cdb.asByte 1).toNat.testBit 3 then 1 else 0 := by
  have nonzero := forceUnitAccessBit_ne_zero cdb
  have small : (forceUnitAccessBit cdb).toNat ≤ 1 := by
    rw [forceUnitAccessBit, UInt8.toNat_toUInt32, UInt8.toNat_and]
    exact Nat.and_le_right
  split
  case isTrue set =>
    have positive : (forceUnitAccessBit cdb).toNat ≠ 0 := by
      intro zero
      exact nonzero.mpr set (UInt32.toNat_inj.mp zero)
    exact UInt32.toNat_inj.mp (Nat.le_antisymm small (Nat.pos_of_ne_zero positive))
  case isFalse clear => exact not_not.mp fun set => clear (nonzero.mp set)

/-! ## The decoder inverts the encoding -/

/-- The decoded range is the encoded one.  A cache flush has no FUA bit to compare. -/
structure Decodes (command : RangeCommand) (range : BlockRange command) (decoded : CdbRange) :
    Prop where
  offset : decoded.offset.toNat = range.address
  length : decoded.length.toNat = range.count
  forceUnitAccess : command.flushes = false →
    decoded.forceUnitAccess = if range.forceUnitAccess then 1 else 0

section Encode

variable (cdb : Cdb) (command : RangeCommand) (range : BlockRange command)

theorem encode_operationCode : (encode cdb command range).asByte 0 = command.scsiOp := by
  rw [encode, putFua_asByte _ _ _ _ (by decide) (by decide), putRange_operationCode,
    Cdb.asByte_put _ _ _ _ (by decide)]
  rfl

theorem encode_fua (transfers : command.flushes = false) :
    (srbCdbGetRange (encode cdb command range)).forceUnitAccess =
      if range.forceUnitAccess then 1 else 0 := by
  have group := rangeFormat_groupCode ((encode cdb command range).asByte 0) command.format
    (by rw [encode_operationCode, command.rangeFormat_scsiOp])
  rw [srbCdbGetRange, group]
  cases carries : command.hasFua with
  | false =>
      rw [command.format_of_hasFua_false transfers carries, range.fuaFits carries]
      rfl
  | true =>
      have bit : ((encode cdb command range).asByte 1).toNat.testBit 3 = range.forceUnitAccess := by
        rw [encode, putFua, carries, if_pos rfl, Cdb.asByte_put _ _ _ _ (by decide)]
        exact testBit_fuaByte _ _
      rw [← bit, ← forceUnitAccessBit_eq]
      cases isFormat : command.format with
      | six => exact absurd isFormat (command.format_of_hasFua carries)
      | ten => rfl
      | twelve => rfl
      | sixteen => rfl

/-- For each command and all values it can carry, whatever else is in the CDB. -/
theorem srbCdbGetRange_encode :
    Decodes command range (srbCdbGetRange (encode cdb command range)) := by
  have ranged : rangeFormat ((encode cdb command range).asByte 0) = some command.format := by
    rw [encode_operationCode, command.rangeFormat_scsiOp]
  obtain ⟨sameAddress, sameLength⟩ := putFua_range
    (putRange (cdb.put 0 [command.scsiOp]) command.format range.address range.count) command
    range.forceUnitAccess
  refine ⟨?_, ?_, encode_fua cdb command range⟩
  · rw [srbCdbGetRange_offset _ _ ranged, encode, sameAddress,
      logicalBlockAddress_putRange _ _ _ _ range.addressFits]
  · rw [srbCdbGetRange_length _ _ ranged, encode, sameLength,
      transferLength_putRange _ _ _ _ range.countFits]

end Encode

end Wnbd.Scsi
