import Wnbd.EndToEnd.Confinement
import Wnbd.EndToEnd.Unmapping

/-!
# What an SRB asks of the server

A command names a block range in its CDB or in the list behind it, and a write has the
bytes of its data buffer.  `elementFrame` is the frame that is sent for a queue element,
`Asks` the request that is read off the SRB.  They agree when the element can represent the
range and the data of a write is the SRB's (`elementFrame_asks`).
-/

set_option autoImplicit false

namespace Wnbd.EndToEnd

open Wnbd.Scsi Wnbd.Dispatch Wnbd.Nbd TracedBuffer

def QueuedRequest.memory (request : QueuedRequest) : Memory :=
  request.srb.dataBuffer.getD fun _ => 0

def QueuedRequest.ownData (request : QueuedRequest) : List UInt8 :=
  (List.range request.srb.dataTransferLength.toNat).map request.memory

def elementFrame (props : WnbdProperties) (request : QueuedRequest) : List UInt8 :=
  match request.kind with
  | some .read =>
      nbdRequest request.range.startingLbn request.range.dataLength request.tag nbdCmdRead
  | some .write =>
      nbdSendWrite request.range.startingLbn request.range.dataLength request.memory
        request.tag (if request.range.fua && props.flags.fuaSupported then nbdCmdFlagFua else 0)
  | some .flush => nbdRequest 0 0 request.tag nbdCmdFlush
  | some .unmap =>
      nbdRequest request.range.startingLbn request.range.dataLength request.tag nbdCmdTrim
  | _ => []

/-- One request with this handle and type, for these bytes. -/
structure RequestFrame (frame : List UInt8) (handle : UInt64) (type : UInt32)
    (offset length : Nat) (payload : List UInt8) : Prop where
  header : ∃ header, decodeHeader frame = some header ∧ header.handle = handle ∧
    header.type = type ∧ header.offset.toNat = offset ∧ header.length.toNat = length
  payload : frame.drop nbdRequestSize = payload

/-- The request for an SRB, by its CDB, its parameter list and its data. -/
inductive Asks (props : WnbdProperties) (request : QueuedRequest) (frame : List UInt8) : Prop
  | read (cdb : Cdb) (format : CdbFormat) (found : request.srb.cdb = some cdb)
      (kind : scsiOpToWnbdReqType (cdb.asByte 0) = .read)
      (ranged : rangeFormat (cdb.asByte 0) = some format)
      (framed : RequestFrame frame request.tag nbdCmdRead (logicalBlockAddress cdb format * 512)
        (transferLength cdb format * 512) [])
  | write (cdb : Cdb) (format : CdbFormat) (found : request.srb.cdb = some cdb)
      (kind : scsiOpToWnbdReqType (cdb.asByte 0) = .write)
      (ranged : rangeFormat (cdb.asByte 0) = some format)
      (framed : RequestFrame frame request.tag
        (nbdCmdWrite ||| if fuaBit cdb format && props.flags.fuaSupported then nbdCmdFlagFua else 0)
        (logicalBlockAddress cdb format * 512) (transferLength cdb format * 512)
        (request.ownData.take (transferLength cdb format * 512)))
  | flush (cdb : Cdb) (found : request.srb.cdb = some cdb)
      (kind : scsiOpToWnbdReqType (cdb.asByte 0) = .flush)
      (framed : RequestFrame frame request.tag nbdCmdFlush 0 0 [])
  | unmap (cdb : Cdb) (buffer : Memory) (found : request.srb.cdb = some cdb)
      (kind : scsiOpToWnbdReqType (cdb.asByte 0) = .unmap)
      (buffered : request.srb.dataBuffer = some buffer)
      (framed : RequestFrame frame request.tag nbdCmdTrim (descriptorAddress buffer * 512)
        (descriptorCount buffer * 512) [])

/-- The bytes a command names fit the 64 and 32 bits of a queue element, and those a write
names are in the SRB's data buffer. -/
structure Representable (srb : Srb) : Prop where
  range : ∀ cdb format, srb.cdb = some cdb → rangeFormat (cdb.asByte 0) = some format →
    scsiOpToWnbdReqType (cdb.asByte 0) = .read ∨ scsiOpToWnbdReqType (cdb.asByte 0) = .write →
      logicalBlockAddress cdb format * 512 < 2 ^ 64 ∧ transferLength cdb format * 512 < 2 ^ 32
  data : ∀ cdb format, srb.cdb = some cdb → rangeFormat (cdb.asByte 0) = some format →
    scsiOpToWnbdReqType (cdb.asByte 0) = .write →
      transferLength cdb format * 512 ≤ srb.dataTransferLength.toNat
  unmap : ∀ cdb buffer, srb.cdb = some cdb → scsiOpToWnbdReqType (cdb.asByte 0) = .unmap →
    srb.dataBuffer = some buffer →
      descriptorAddress buffer * 512 < 2 ^ 64 ∧ descriptorCount buffer * 512 < 2 ^ 32

/-- The element went through the checks of its range, for the size the disk had then. -/
def Admitted (props : WnbdProperties) (request : QueuedRequest) : Prop :=
  ∃ blockCount, acceptedRange { props with blockCount } request.srb = some request.range

/-! ## Frames and their headers -/

theorem requestFrame_bare (offset : UInt64) (length : UInt32) (handle : UInt64) (type : UInt32) :
    RequestFrame (nbdRequest offset length handle type) handle type offset.toNat length.toNat
      [] where
  header := ⟨_, decodeHeader_request offset length handle type, rfl, rfl, rfl, rfl⟩
  payload := by
    apply List.drop_eq_nil_of_le
    rw [nbdRequest, nbdEncodeRequest_length]
    exact Nat.le_refl _

theorem requestFrame_write (offset : UInt64) (length : UInt32) (data : Memory) (handle : UInt64)
    (flags : UInt32) :
    RequestFrame (nbdSendWrite offset length data handle flags) handle (nbdCmdWrite ||| flags)
      offset.toNat length.toNat ((List.range length.toNat).map data) where
  header := ⟨_, decodeHeader_encode offset length handle _ _, rfl, rfl, rfl, rfl⟩
  payload := by
    apply List.drop_left'
    exact nbdEncodeRequest_length offset length handle (nbdCmdWrite ||| flags)

/-- A range that fits the element is in it as it was named. -/
theorem bytes_exact (address : UInt64) (count : UInt32) (start length : Nat)
    (addressed : address.toNat = start) (counted : count.toNat = length)
    (startFits : start * 512 < 2 ^ 64) (lengthFits : length * 512 < 2 ^ 32) :
    (address * (512 : UInt32).toUInt64).toNat = start * 512 ∧
      (count * 512).toNat = length * 512 := by
  have wide : (512 : UInt32).toUInt64.toNat = 512 := rfl
  have narrow : (512 : UInt32).toNat = 512 := rfl
  rw [UInt64.toNat_mul, UInt32.toNat_mul, wide, narrow, addressed, counted]
  exact ⟨Nat.mod_eq_of_lt startFits, Nat.mod_eq_of_lt lengthFits⟩

section

variable {props : WnbdProperties} {request : QueuedRequest}

/-- The first bytes of a write are its own data. -/
theorem memory_own (length : Nat)
    (inside : length ≤ request.srb.dataTransferLength.toNat) :
    (List.range length).map request.memory = request.ownData.take length := by
  rw [QueuedRequest.ownData, ← List.map_take, List.take_range, Nat.min_eq_left inside]

theorem asks_readWrite {cdb : Cdb} {blockCount : UInt64} (block : props.blockSize = 512)
    (found : request.srb.cdb = some cdb)
    (readWrite : scsiOpToWnbdReqType (cdb.asByte 0) = .read ∨
      scsiOpToWnbdReqType (cdb.asByte 0) = .write)
    (accepted : acceptedRange { props with blockCount } request.srb = some request.range)
    (fits : Representable request.srb) : Asks props request (elementFrame props request) := by
  have ranged : RangeAccepted { props with blockCount } request.srb cdb request.range :=
    accepted_readWrite _ request.srb cdb request.range found readWrite accepted
  obtain ⟨format, formatted⟩ := rangeFormat_of_mem (cdb.asByte 0) ranged.member
  obtain ⟨startFits, lengthFits⟩ := fits.range cdb format found formatted readWrite
  obtain ⟨start, length⟩ := bytes_exact _ _ _ _ (srbCdbGetRange_offset cdb format formatted)
    (srbCdbGetRange_length cdb format formatted) startFits lengthFits
  have queued := ranged.queued
  simp only [block] at queued
  have startQueued : request.range.startingLbn.toNat = logicalBlockAddress cdb format * 512 := by
    rw [queued]
    exact start
  have lengthQueued : request.range.dataLength.toNat = transferLength cdb format * 512 := by
    rw [queued]
    exact length
  rcases readWrite with isRead | isWrite
  · have framed := requestFrame_bare request.range.startingLbn request.range.dataLength
      request.tag nbdCmdRead
    rw [startQueued, lengthQueued] at framed
    apply Asks.read cdb format found isRead formatted
    simp only [elementFrame, QueuedRequest.kind, found, Option.map_some, isRead]
    exact framed
  · have fua : request.range.fua = fuaBit cdb format := by
      rw [queued, Bool.eq_iff_iff, decide_eq_true_iff]
      exact srbCdbGetRange_fua cdb format formatted
    have framed := requestFrame_write request.range.startingLbn request.range.dataLength
      request.memory request.tag
      (if request.range.fua && props.flags.fuaSupported then nbdCmdFlagFua else 0)
    rw [startQueued, lengthQueued, memory_own _ (fits.data cdb format found formatted isWrite)]
      at framed
    apply Asks.write cdb format found isWrite formatted
    rw [← fua]
    simp only [elementFrame, QueuedRequest.kind, found, Option.map_some, isWrite]
    exact framed

theorem scsiOp_of_unmap {scsiOp : UInt8} (kind : scsiOpToWnbdReqType scsiOp = .unmap) :
    scsiOp = scsiopUnmap := by
  unfold scsiOpToWnbdReqType at kind
  split_ifs at kind with _ _ unmap
  exact unmap

theorem asks_unmap {cdb : Cdb} {blockCount : UInt64} (block : props.blockSize = 512)
    (found : request.srb.cdb = some cdb) (kind : scsiOpToWnbdReqType (cdb.asByte 0) = .unmap)
    (accepted : acceptedRange { props with blockCount } request.srb = some request.range)
    (fits : Representable request.srb) : Asks props request (elementFrame props request) := by
  have opcode := scsiOp_of_unmap kind
  obtain ⟨actual, actualFound, admission⟩ := acceptedRange_cases _ _ _ accepted
  cases found.symm.trans actualFound
  rcases admission with ranged | ⟨buffer, unmap⟩ | reserve
  · exact absurd ranged.member (by rw [opcode]; decide)
  · obtain ⟨startFits, lengthFits⟩ := fits.unmap cdb buffer found kind unmap.hasBuffer
    obtain ⟨start, length⟩ := bytes_exact _ _ _ _ (unmapStartingLba_toNat buffer)
      (unmapLbaCount_toNat buffer) startFits lengthFits
    have queued := unmap.queued
    simp only [block] at queued
    have framed := requestFrame_bare request.range.startingLbn request.range.dataLength
      request.tag nbdCmdTrim
    rw [queued] at framed
    dsimp only at framed
    rw [start, length] at framed
    apply Asks.unmap cdb buffer found kind unmap.hasBuffer
    simp only [elementFrame, QueuedRequest.kind, found, Option.map_some, kind]
    rw [queued]
    exact framed
  · exact absurd reserve.opcode (by rw [opcode]; decide)

/-- An element that represents its SRB is sent as the request the SRB asks for. -/
theorem elementFrame_asks (block : props.blockSize = 512) (admitted : Admitted props request)
    (handled : ∃ kind ∈ [WnbdRequestType.read, .write, .flush, .unmap], request.kind = some kind)
    (fits : Representable request.srb) : Asks props request (elementFrame props request) := by
  obtain ⟨blockCount, accepted⟩ := admitted
  obtain ⟨kind, member, same⟩ := handled
  obtain ⟨cdb, found, type⟩ := Option.map_eq_some_iff.mp same
  cases kind with
  | read => exact asks_readWrite block found (Or.inl type) accepted fits
  | write => exact asks_readWrite block found (Or.inr type) accepted fits
  | unmap => exact asks_unmap block found type accepted fits
  | flush =>
      apply Asks.flush cdb found type
      simp only [elementFrame, same]
      exact requestFrame_bare 0 0 request.tag nbdCmdFlush
  | persistResIn | persistResOut | unknown | disconnect => simp at member

/-- 2^23 + 8 blocks have more bytes than the length of an element can say. -/
example : ¬ Representable (write16Srb 0x80) := fun fits =>
  absurd (fits.range _ .sixteen rfl (by decide) (Or.inr (by decide))).2 (by decide)

end

end Wnbd.EndToEnd
