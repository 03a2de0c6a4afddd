import Wnbd.Foundation.TracedBuffer
import Wnbd.Scsi.Operation

/-!
# UNMAP parameter lists

The list as the SCSI block commands lay it out, read as natural numbers, the
reads the admission of an UNMAP makes, and when it admits one.  The reads decide
as `wnbdPendUnmapList` does (`wnbdPendUnmapListReads_value`).
-/

set_option autoImplicit false

namespace Wnbd.Scsi

open BigEndian CLayout TracedBuffer

/-! ## The layout -/

/-- UNMAP LOGICAL BLOCK ADDRESS and NUMBER OF LOGICAL BLOCKS of the first descriptor. -/
def descriptorAddress (buffer : Memory) : Nat := ofBytes (bytesAt buffer ⟨8, 8⟩)
def descriptorCount (buffer : Memory) : Nat := ofBytes (bytesAt buffer ⟨16, 4⟩)

theorem field_lt (buffer : Memory) (offset length : Nat) :
    ofBytes (bytesAt buffer ⟨offset, length⟩) < 256 ^ length := by
  have bound := ofBytes_lt (bytesAt buffer ⟨offset, length⟩)
  rwa [bytesAt, List.length_map, List.length_range] at bound

theorem descriptorAddress_lt (buffer : Memory) : descriptorAddress buffer < 2 ^ 64 :=
  (field_lt buffer 8 8).trans_le (by norm_num)

theorem descriptorCount_lt (buffer : Memory) : descriptorCount buffer < 2 ^ 32 :=
  (field_lt buffer 16 4).trans_le (by norm_num)

theorem unmapStartingLba_toNat (buffer : Memory) :
    (unmapStartingLba buffer).toNat = descriptorAddress buffer :=
  UInt64.toNat_ofNat_of_lt' (descriptorAddress_lt buffer)

theorem unmapLbaCount_toNat (buffer : Memory) :
    (unmapLbaCount buffer).toNat = descriptorCount buffer :=
  UInt32.toNat_ofNat_of_lt' (descriptorCount_lt buffer)

/-- The overflow test of a 64 bit sum together with the bound on it. -/
theorem range_test_iff (address limit : UInt64) (count : UInt32) :
    ¬ (address + count.toUInt64 < address ∨ address + count.toUInt64 > limit) ↔
      address.toNat + count.toNat ≤ limit.toNat := by
  have addressSmall : address.toNat < 2 ^ 64 := address.toNat_lt
  have countSmall : count.toNat < 2 ^ 32 := count.toNat_lt
  have limitSmall : limit.toNat < 2 ^ 64 := limit.toNat_lt
  rw [not_or, UInt64.not_lt, gt_iff_lt, UInt64.not_lt, UInt64.le_iff_toNat_le,
    UInt64.le_iff_toNat_le, UInt64.toNat_add, UInt32.toNat_toUInt64]
  omega

/-! ## Admission -/

/-- The numbers of the block limits page; what is not set stays zero. -/
structure VpdBlockLimitsPage where
  maximumTransferLength : UInt32
  maximumUnmapLbaCount : UInt32
  maximumUnmapBlockDescriptorCount : UInt32
deriving DecidableEq, Repr

def wnbdSetVpdBlockLimits (props : WnbdProperties) (maximumTransferLength : UInt32) :
    VpdBlockLimitsPage :=
  { maximumTransferLength := maximumTransferLength / props.blockSize
    maximumUnmapLbaCount := if props.flags.unmapSupported then 0xffffffff else 0
    maximumUnmapBlockDescriptorCount := if props.flags.unmapSupported then 1 else 0 }

/-! ## Reads -/

section Reads

variable (props : WnbdProperties) (srb : Srb) (cdb : Cdb)

/-- The range test of a descriptor and the element for it. -/
def wnbdPendDescriptor (blockAddress : UInt64) (blockCount : UInt32) : PendOutcome :=
  if blockAddress + blockCount.toUInt64 < blockAddress ∨
      blockAddress + blockCount.toUInt64 > props.blockCount then
    .finish statusInvalidParameter (srb.setSrbStatus srbStatusInvalidRequest)
  else
    .pend (blockAddress * props.blockSize.toUInt64)
      (blockCount.toUInt64 * props.blockSize.toUInt64) false

def wnbdPendDescriptorReads : Traced PendOutcome := do
  let startingLba ← loadBytes .read ⟨8, 8⟩
  let lbaCount ← loadBytes .read ⟨16, 4⟩
  pure (wnbdPendDescriptor props srb
    (UInt64.ofNat (ofBytes ((List.range 8).map startingLba)))
    (UInt32.ofNat (ofBytes ((List.range 4).map lbaCount))))

/-- The checks on a list with this `BlockDescLength`. -/
def wnbdPendLengthReads (blockDescLength : UInt16) : Traced PendOutcome :=
  if srb.dataTransferLength.toNat < unmapListHeaderSize + blockDescLength.toNat ∨
      blockDescLength.toNat > wnbdDefaultMaxTransferLength.toNat then
    pure (.finish statusBufferTooSmall (srb.setSrbStatus srbStatusAborted))
  else if cdb.asByte 1 &&& 1 ≠ 0 then
    pure (.finish statusInvalidParameter (srb.setSrbStatus srbStatusInvalidRequest))
  else if blockDescLength = 0 then
    pure (.finish statusSuccess ((srb.setDataTransferLength 0).setSrbStatus srbStatusSuccess))
  else if blockDescLength.toNat / unmapBlockDescriptorSize ≠ 1 then
    pure (.finish statusInvalidParameter (srb.setSrbStatus srbStatusInvalidRequest))
  else wnbdPendDescriptorReads props srb

/-- `wnbdPendUnmapList` with its reads of the list recorded. -/
def wnbdPendUnmapListReads : Traced PendOutcome :=
  if srb.dataTransferLength.toNat < unmapListHeaderSize then
    pure (.finish statusBufferTooSmall (srb.setSrbStatus srbStatusAborted))
  else do
    let lengthField ← loadBytes .read ⟨2, 2⟩
    wnbdPendLengthReads props srb cdb
      ((lengthField 0).toUInt16 <<< 8 ||| (lengthField 1).toUInt16)

theorem wnbdPendDescriptorReads_value (buffer : Memory) :
    (wnbdPendDescriptorReads props srb buffer).value =
      wnbdPendDescriptor props srb (unmapStartingLba buffer) (unmapLbaCount buffer) := rfl

/-- The reads decide as the admission does. -/
theorem wnbdPendUnmapListReads_value (buffer : Memory) :
    (wnbdPendUnmapListReads props srb cdb buffer).value =
      wnbdPendUnmapList props srb cdb buffer := by
  rw [wnbdPendUnmapListReads, wnbdPendUnmapList]
  by_cases short : srb.dataTransferLength.toNat < unmapListHeaderSize
  · rw [if_pos short, if_pos (Or.inl short)]
    rfl
  rw [if_neg short]
  change (wnbdPendLengthReads props srb cdb (blockDescrDataLength buffer) buffer).value = _
  dsimp only
  generalize blockDescrDataLength buffer = blockDescLength
  rw [wnbdPendLengthReads]
  by_cases outside : srb.dataTransferLength.toNat < unmapListHeaderSize + blockDescLength.toNat ∨
      blockDescLength.toNat > wnbdDefaultMaxTransferLength.toNat
  · rw [if_pos outside, if_pos (Or.inr outside)]
    rfl
  rw [if_neg outside, if_neg (not_or.mpr ⟨short, outside⟩)]
  by_cases anchored : cdb.asByte 1 &&& 1 ≠ 0
  · rw [if_pos anchored, if_pos anchored]
    rfl
  rw [if_neg anchored, if_neg anchored]
  by_cases empty : blockDescLength = 0
  · rw [if_pos empty, if_pos empty]
    rfl
  rw [if_neg empty, if_neg empty]
  by_cases several : blockDescLength.toNat / unmapBlockDescriptorSize ≠ 1
  · rw [if_pos several, if_pos several]
    rfl
  rw [if_neg several, if_neg several]
  exact wnbdPendDescriptorReads_value props srb buffer

end Reads

end Wnbd.Scsi
