import Wnbd.Nbd.Daemon
import Wnbd.Dispatch.BufferBounds

/-!
# Read and write addressing, from the CDB to the wire

The block range of a read or write passes through the queue element (bytes,
with a 32 bit length), the fetched request (blocks again) and the NBD header
(bytes again).  `address_fidelity_iff` says for which counts the range comes
out as it went in.
-/

set_option autoImplicit false

namespace Wnbd.EndToEnd

open Wnbd.Scsi Wnbd.Dispatch Wnbd.Nbd

def ioBlockRange : IoCommand → Option (UInt64 × UInt32)
  | .read blockAddress blockCount _ => some (blockAddress, blockCount)
  | .write blockAddress blockCount _ => some (blockAddress, blockCount)
  | _ => none

def expectedType (props : WnbdProperties) (cdb : Cdb) (format : CdbFormat) : UInt32 :=
  if scsiOpToWnbdReqType (cdb.asByte 0) = .write then
    nbdCmdWrite ||| (if fuaBit cdb format && props.flags.fuaSupported then nbdCmdFlagFua else 0)
  else nbdCmdRead

/-- Userspace sees the CDB's block range, and the server is sent that range in
bytes under the request's handle. -/
structure AddressFidelity (props : WnbdProperties) (cdb : Cdb) (format : CdbFormat)
    (tag : UInt64) (request : WnbdIoRequest) (payload : FetchPayload) : Prop where
  fetched : ∃ blockAddress blockCount, ioBlockRange request.cmd = some (blockAddress, blockCount) ∧
    blockAddress.toNat = logicalBlockAddress cdb format ∧
    blockCount.toNat = transferLength cdb format
  sent : ∀ buffer, ∃ sent header, wnbdHandleRequest props request payload buffer = some sent ∧
    decodeHeader sent.frame = some header ∧
    header.type = expectedType props cdb format ∧
    header.handle = tag ∧
    header.offset.toNat = logicalBlockAddress cdb format * 512 ∧
    header.length.toNat = transferLength cdb format * 512

theorem fetchElement_readWrite (props : WnbdProperties) (bufferSize : UInt32) (tag : UInt64)
    (range : ElementRange) (srb : Srb) (faults : FetchFaults) (payload : FetchPayload) (cdb : Cdb)
    (found : srb.cdb = some cdb)
    (submitted : (fetchElement props bufferSize tag range srb faults).verdict = .submit payload) :
    (fetchElement props bufferSize tag range srb faults).request =
      ⟨tag, scsiOpToWnbdReqType (cdb.asByte 0),
        fetchCommand props range cdb (scsiOpToWnbdReqType (cdb.asByte 0))⟩ := by
  unfold fetchElement at submitted ⊢
  simp only [Srb.setDataTransferLength_cdb, found] at submitted ⊢
  split
  · rfl
  · rename_i invalid
    simp [invalid] at submitted

/-- The element's starting byte, divided by the block size, is the CDB's address. -/
theorem accepted_blockAddress (props : WnbdProperties) (srb : Srb) (cdb : Cdb)
    (range : ElementRange) (created : geometryAccepted props = true)
    (accepted : RangeAccepted props srb cdb range) :
    (range.startingLbn / props.blockSize.toUInt64) = (srbCdbGetRange cdb).offset ∧
      (srbCdbGetRange cdb).offset.toNat * 512 < 2 ^ 64 := by
  obtain ⟨sizeExact, _, countSmall⟩ := (geometryAccepted_iff props).mp created
  have inside : (srbCdbGetRange cdb).offset.toNat ≤ props.blockCount.toNat :=
    UInt64.le_iff_toNat_le.mp (UInt64.le_trans accepted.noWrap accepted.inside)
  have offsetSmall : (srbCdbGetRange cdb).offset.toNat * 512 < 2 ^ 64 :=
    (Nat.mul_le_mul_right 512 inside).trans_lt countSmall
  refine ⟨?_, offsetSmall⟩
  have bytes : (range.startingLbn).toNat = (srbCdbGetRange cdb).offset.toNat * 512 := by
    rw [accepted.queued, sizeExact, UInt64.toNat_mul]
    exact Nat.mod_eq_of_lt offsetSmall
  rw [← UInt64.toNat_inj, UInt64.toNat_div, bytes, sizeExact]
  exact Nat.mul_div_cancel _ (by norm_num)

/-- An accepted read or write went through the range checks. -/
theorem accepted_readWrite (props : WnbdProperties) (srb : Srb) (cdb : Cdb) (range : ElementRange)
    (found : srb.cdb = some cdb)
    (readWrite : scsiOpToWnbdReqType (cdb.asByte 0) = .read ∨
      scsiOpToWnbdReqType (cdb.asByte 0) = .write)
    (accepted : acceptedRange props srb = some range) : RangeAccepted props srb cdb range := by
  obtain ⟨actual, actualFound, kind⟩ := acceptedRange_cases props srb range accepted
  cases found.symm.trans actualFound
  rcases kind with ranged | ⟨buffer, unmap⟩ | reserve
  · exact ranged
  · rw [unmap.opcode] at readWrite
    exact absurd readWrite (by decide)
  · have opcode := reserve.opcode
    simp only [List.mem_cons, List.not_mem_nil, or_false] at opcode
    rcases opcode with isIn | isOut
    · rw [isIn] at readWrite
      exact absurd readWrite (by decide)
    · rw [isOut] at readWrite
      exact absurd readWrite (by decide)

theorem ioBlockRange_fetchCommand (props : WnbdProperties) (range : ElementRange) (cdb : Cdb)
    (readWrite : scsiOpToWnbdReqType (cdb.asByte 0) = .read ∨
      scsiOpToWnbdReqType (cdb.asByte 0) = .write) :
    ioBlockRange (fetchCommand props range cdb (scsiOpToWnbdReqType (cdb.asByte 0))) =
      some (range.startingLbn / props.blockSize.toUInt64, range.dataLength / props.blockSize) := by
  rcases readWrite with isRead | isWrite
  · rw [isRead]
    rfl
  · rw [isWrite]
    rfl

theorem accepted_blockCount (props : WnbdProperties) (srb : Srb) (cdb : Cdb)
    (range : ElementRange) (created : geometryAccepted props = true)
    (accepted : RangeAccepted props srb cdb range) :
    (range.dataLength / props.blockSize).toNat =
      (srbCdbGetRange cdb).length.toNat * 512 % 2 ^ 32 / 512 := by
  obtain ⟨sizeExact, _, _⟩ := (geometryAccepted_iff props).mp created
  have blockBytes : (512 : UInt32).toNat = 512 := by decide
  rw [UInt32.toNat_div, accepted.queued, sizeExact, UInt32.toNat_mul, blockBytes]

theorem readWrite_frame (props : WnbdProperties) (cdb : Cdb) (format : CdbFormat) (tag : UInt64)
    (range : ElementRange) (payload : FetchPayload) (buffer : Nat → UInt8)
    (readWrite : scsiOpToWnbdReqType (cdb.asByte 0) = .read ∨
      scsiOpToWnbdReqType (cdb.asByte 0) = .write)
    (fuaExact : range.fua = fuaBit cdb format) :
    ∃ sent, wnbdHandleRequest props
        ⟨tag, scsiOpToWnbdReqType (cdb.asByte 0),
          fetchCommand props range cdb (scsiOpToWnbdReqType (cdb.asByte 0))⟩
        payload buffer = some sent ∧
      decodeHeader sent.frame = some
        { type := expectedType props cdb format
          handle := tag
          offset := range.startingLbn / props.blockSize.toUInt64 * props.blockSize.toUInt64
          length := range.dataLength / props.blockSize * props.blockSize } := by
  rcases readWrite with isRead | isWrite
  · refine ⟨_, by rw [isRead]; rfl, ?_⟩
    have decoded := decodeHeader_encode
      (range.startingLbn / props.blockSize.toUInt64 * props.blockSize.toUInt64)
      (range.dataLength / props.blockSize * props.blockSize) tag nbdCmdRead []
    rw [List.append_nil] at decoded
    rw [expectedType, isRead, if_neg (by decide)]
    exact decoded
  · refine ⟨_, by rw [isWrite]; rfl, ?_⟩
    rw [expectedType, if_pos isWrite, ← fuaExact]
    exact decodeHeader_encode _ _ tag _ _

theorem blocks_survive_iff (count : Nat) (small : count < 2 ^ 32) :
    count * 512 % 2 ^ 32 / 512 = count ↔ count * 512 < 2 ^ 32 := by
  omega

/-- Address and length come out as they went in exactly when the byte count of
the transfer fits in the element's 32 bit length. -/
theorem address_fidelity_iff (props : WnbdProperties) (srb : Srb) (cdb : Cdb) (format : CdbFormat)
    (range : ElementRange) (bufferSize : UInt32) (tag : UInt64) (faults : FetchFaults)
    (payload : FetchPayload) (created : geometryAccepted props = true)
    (found : srb.cdb = some cdb) (ranged : rangeFormat (cdb.asByte 0) = some format)
    (readWrite : scsiOpToWnbdReqType (cdb.asByte 0) = .read ∨
      scsiOpToWnbdReqType (cdb.asByte 0) = .write)
    (accepted : acceptedRange props srb = some range)
    (submitted : (fetchElement props bufferSize tag range srb faults).verdict = .submit payload) :
    AddressFidelity props cdb format tag
      (fetchElement props bufferSize tag range srb faults).request
      payload ↔ transferLength cdb format * 512 < 2 ^ 32 := by
  have sizeExact : props.blockSize = 512 := ((geometryAccepted_iff props).mp created).1
  have ranges : RangeAccepted props srb cdb range :=
    accepted_readWrite props srb cdb range found readWrite accepted
  obtain ⟨address, addressSmall⟩ := accepted_blockAddress props srb cdb range created ranges
  have count := accepted_blockCount props srb cdb range created ranges
  have countSmall : (srbCdbGetRange cdb).length.toNat < 2 ^ 32 := UInt32.toNat_lt _
  rw [srbCdbGetRange_length cdb format ranged] at count countSmall
  have request := fetchElement_readWrite props bufferSize tag range srb faults payload cdb found
    submitted
  rw [request, ← blocks_survive_iff _ countSmall, ← count]
  constructor
  · rintro ⟨⟨blockAddress, blockCount, fetched, _, countExact⟩, _⟩
    rw [← countExact]
    rcases readWrite with isRead | isWrite
    · rw [isRead] at fetched
      cases fetched
      rfl
    · rw [isWrite] at fetched
      cases fetched
      rfl
  · intro survives
    refine ⟨⟨_, _, ioBlockRange_fetchCommand props range cdb readWrite, ?_, survives⟩, ?_⟩
    · rw [address, srbCdbGetRange_offset cdb format ranged]
    · intro buffer
      have fuaExact : range.fua = fuaBit cdb format := by
        rw [ranges.queued, Bool.eq_iff_iff, decide_eq_true_iff]
        exact srbCdbGetRange_fua cdb format ranged
      obtain ⟨sent, handled, decoded⟩ :=
        readWrite_frame props cdb format tag range payload buffer readWrite fuaExact
      refine ⟨sent, _, handled, decoded, rfl, rfl, ?_, ?_⟩
      · rw [address, UInt64.toNat_mul, sizeExact, ← srbCdbGetRange_offset cdb format ranged]
        exact Nat.mod_eq_of_lt addressSmall
      · have fits := (blocks_survive_iff _ countSmall).mp (count ▸ survives)
        rw [UInt32.toNat_mul, survives, sizeExact]
        exact Nat.mod_eq_of_lt fits

/-! ## A write of eight blocks, and one of 2^23 + 8 -/

/-- WRITE(16) with FUA at block 16 and 4096 bytes of data; `high` is the second
byte of the block count, the last is 8. -/
def write16Cdb (high : UInt8) : Cdb :=
  #v[0x8A, 8, 0, 0, 0, 0, 0, 0, 0, 16, 0, high, 0, 8, 0, 0]

def write16Srb (high : UInt8) : Srb :=
  { cdb := some (write16Cdb high)
    dataTransferLength := 4096
    dataBuffer := some fun _ => 0
    srbStatus := 0
    scsiStatus := 0
    srbFlags := 0
    senseInfoBuffer := none
    senseInfoBufferLength := 0 }

theorem address_fidelity_eight_blocks :
    AddressFidelity diskProps (write16Cdb 0) .sixteen 7
      (fetchElement diskProps 0x200000 7 ⟨8192, 4096, true⟩ (write16Srb 0) ⟨0, 0⟩).request
      (.srbBytes 4096) :=
  (address_fidelity_iff diskProps (write16Srb 0) (write16Cdb 0) .sixteen ⟨8192, 4096, true⟩ 0x200000
    7 ⟨0, 0⟩ (.srbBytes 4096) (by decide) rfl (by decide) (by decide) (by decide) (by decide)).mpr
    (by decide)

/-- 2^23 + 8 blocks pass every check of the driver, and userspace is asked to
write 8. -/
theorem large_count_truncated :
    geometryAccepted diskProps = true ∧
      acceptedRange diskProps (write16Srb 0x80) = some ⟨8192, 4096, true⟩ ∧
      transferLength (write16Cdb 0x80) .sixteen = 0x800008 ∧
      (fetchElement diskProps 0x200000 7 ⟨8192, 4096, true⟩ (write16Srb 0x80) ⟨0, 0⟩).verdict =
        .submit (.srbBytes 4096) ∧
      (fetchElement diskProps 0x200000 7 ⟨8192, 4096, true⟩ (write16Srb 0x80) ⟨0, 0⟩).request.cmd =
        .write 16 8 true ∧
      ¬ AddressFidelity diskProps (write16Cdb 0x80) .sixteen 7
        (fetchElement diskProps 0x200000 7 ⟨8192, 4096, true⟩ (write16Srb 0x80) ⟨0, 0⟩).request
        (.srbBytes 4096) := by
  refine ⟨by decide, by decide, by decide, by decide, by decide, ?_⟩
  rintro ⟨⟨blockAddress, blockCount, fetched, _, countExact⟩, _⟩
  have eight : blockCount = 8 := by
    have command : ioBlockRange (fetchElement diskProps 0x200000 7 ⟨8192, 4096, true⟩
        (write16Srb 0x80) ⟨0, 0⟩).request.cmd = some (16, 8) := by decide
    rw [command] at fetched
    cases fetched
    rfl
  rw [eight] at countExact
  exact absurd countExact (by decide)

end Wnbd.EndToEnd
