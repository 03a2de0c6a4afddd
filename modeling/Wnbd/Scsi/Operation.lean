import Wnbd.Scsi.Srb

/-!
# Admission of queued commands

`WnbdPendOperation` decides which commands go to the pending queue and with
which byte range; `WnbdPendElement` stores that range in the queue element,
where the length keeps only its low 32 bits.
-/

set_option autoImplicit false

namespace Wnbd.Scsi

open BigEndian

/-- What `WnbdPendOperation` does with a command: return a status with the SRB
updated, or call `WnbdPendElement` with this range. -/
inductive PendOutcome
  | finish (status : NtStatus) (srb : Srb)
  | pend (startingLbn dataLength : UInt64) (fua : Bool)

def illegalBlockStatus : WnbdStatus :=
  { scsiStatus := scsistatCheckCondition
    senseKey := scsiSenseIllegalRequest
    asc := scsiAdsenseIllegalBlock
    ascq := 0
    information := 0
    informationValid := false }

def wnbdPendRange (props : WnbdProperties) (srb : Srb) (cdb : Cdb) : PendOutcome :=
  let range := srbCdbGetRange cdb
  let dataLength := range.length * props.blockSize
  if dataLength < srb.dataTransferLength ∧
      (cdb.asByte 0 ≠ scsiopSynchronizeCache ∨ cdb.asByte 0 ≠ scsiopSynchronizeCache16) then
    .finish statusBufferTooSmall (srb.setSrbStatus srbStatusAborted)
  else if range.offset + range.length.toUInt64 < range.offset ∨
      range.offset + range.length.toUInt64 > props.blockCount then
    .finish statusInvalidParameter (setSrbStatus srb illegalBlockStatus)
  else
    .pend (range.offset * props.blockSize.toUInt64) dataLength.toUInt64
      (range.forceUnitAccess ≠ 0)

def unmapListHeaderSize : Nat := 8
def unmapBlockDescriptorSize : Nat := 16

/-- `BlockDescrDataLength` of the parameter list, a big-endian 16 bit field. -/
def blockDescrDataLength (buffer : Nat → UInt8) : UInt16 :=
  (buffer 2).toUInt16 <<< 8 ||| (buffer 3).toUInt16

def unmapStartingLba (buffer : Nat → UInt8) : UInt64 :=
  UInt64.ofNat (ofBytes ((List.range 8).map fun i => buffer (8 + i)))

def unmapLbaCount (buffer : Nat → UInt8) : UInt32 :=
  UInt32.ofNat (ofBytes ((List.range 4).map fun i => buffer (16 + i)))

def wnbdPendUnmapList (props : WnbdProperties) (srb : Srb) (cdb : Cdb)
    (buffer : Nat → UInt8) : PendOutcome :=
  let blockDescLength := blockDescrDataLength buffer
  if srb.dataTransferLength.toNat < unmapListHeaderSize ∨
      srb.dataTransferLength.toNat < unmapListHeaderSize + blockDescLength.toNat ∨
      blockDescLength.toNat > wnbdDefaultMaxTransferLength.toNat then
    .finish statusBufferTooSmall (srb.setSrbStatus srbStatusAborted)
  else if cdb.asByte 1 &&& 1 ≠ 0 then
    -- The anchored state is not supported.
    .finish statusInvalidParameter (srb.setSrbStatus srbStatusInvalidRequest)
  else if blockDescLength = 0 then
    .finish statusSuccess ((srb.setDataTransferLength 0).setSrbStatus srbStatusSuccess)
  else if blockDescLength.toNat / unmapBlockDescriptorSize ≠ 1 then
    .finish statusInvalidParameter (srb.setSrbStatus srbStatusInvalidRequest)
  else
    let blockAddress := unmapStartingLba buffer
    let blockCount := unmapLbaCount buffer
    if blockAddress + blockCount.toUInt64 < blockAddress ∨
        blockAddress + blockCount.toUInt64 > props.blockCount then
      .finish statusInvalidParameter (srb.setSrbStatus srbStatusInvalidRequest)
    else
      .pend (blockAddress * props.blockSize.toUInt64)
        (blockCount.toUInt64 * props.blockSize.toUInt64) false

def wnbdPendUnmap (props : WnbdProperties) (srb : Srb) (cdb : Cdb) : PendOutcome :=
  match srb.dataBuffer with
  | none => .finish statusBufferTooSmall (srb.setSrbStatus srbStatusAborted)
  | some buffer => wnbdPendUnmapList props srb cdb buffer

def wnbdPendPersistentReserve (srb : Srb) : PendOutcome :=
  if srb.dataTransferLength > wnbdDefaultMaxTransferLength then
    .finish statusBufferTooSmall (srb.setSrbStatus srbStatusAborted)
  else .pend 0 srb.dataTransferLength.toUInt64 false

def wnbdPendOperation (props : WnbdProperties) (srb : Srb) : PendOutcome :=
  match srb.cdb with
  | none => .finish statusInvalidParameter (srb.setSrbStatus srbStatusInvalidRequest)
  | some cdb =>
      if cdb.asByte 0 ∈ rangeOps then wnbdPendRange props srb cdb
      else if cdb.asByte 0 = scsiopUnmap then wnbdPendUnmap props srb cdb
      else if cdb.asByte 0 ∈ [scsiopPersistentReserveIn, scsiopPersistentReserveOut] then
        wnbdPendPersistentReserve srb
      else .finish statusInvalidParameter (srb.setSrbStatus srbStatusInvalidRequest)

structure ElementRange where
  startingLbn : UInt64
  dataLength : UInt32
  fua : Bool
deriving DecidableEq, Repr

/-- The fields `WnbdPendElement` stores from its arguments. -/
def wnbdPendElementRange (startingLbn dataLength : UInt64) (fua : Bool) : ElementRange :=
  { startingLbn, dataLength := dataLength.toUInt32, fua }

def acceptedRange (props : WnbdProperties) (srb : Srb) : Option ElementRange :=
  match wnbdPendOperation props srb with
  | .finish _ _ => none
  | .pend startingLbn dataLength fua => some (wnbdPendElementRange startingLbn dataLength fua)

/-! ## When a command is accepted -/

/-- The guards an accepted read, write or flush passed, and what it queues. -/
structure RangeAccepted (props : WnbdProperties) (srb : Srb) (cdb : Cdb)
    (range : ElementRange) : Prop where
  member : cdb.asByte 0 ∈ rangeOps
  longEnough : srb.dataTransferLength ≤ (srbCdbGetRange cdb).length * props.blockSize
  noWrap : (srbCdbGetRange cdb).offset ≤
    (srbCdbGetRange cdb).offset + (srbCdbGetRange cdb).length.toUInt64
  inside : (srbCdbGetRange cdb).offset + (srbCdbGetRange cdb).length.toUInt64 ≤ props.blockCount
  queued : range =
    { startingLbn := (srbCdbGetRange cdb).offset * props.blockSize.toUInt64
      dataLength := (srbCdbGetRange cdb).length * props.blockSize
      fua := decide ((srbCdbGetRange cdb).forceUnitAccess ≠ 0) }

structure UnmapAccepted (props : WnbdProperties) (srb : Srb) (cdb : Cdb)
    (buffer : Nat → UInt8) (range : ElementRange) : Prop where
  opcode : cdb.asByte 0 = scsiopUnmap
  hasBuffer : srb.dataBuffer = some buffer
  wholeList : unmapListHeaderSize + (blockDescrDataLength buffer).toNat ≤
    srb.dataTransferLength.toNat
  oneDescriptor : (blockDescrDataLength buffer).toNat / unmapBlockDescriptorSize = 1
  noWrap : unmapStartingLba buffer ≤ unmapStartingLba buffer + (unmapLbaCount buffer).toUInt64
  inside : unmapStartingLba buffer + (unmapLbaCount buffer).toUInt64 ≤ props.blockCount
  queued : range =
    { startingLbn := unmapStartingLba buffer * props.blockSize.toUInt64
      dataLength := unmapLbaCount buffer * props.blockSize
      fua := false }

structure PersistentReserveAccepted (srb : Srb) (cdb : Cdb) (range : ElementRange) : Prop where
  opcode : cdb.asByte 0 ∈ [scsiopPersistentReserveIn, scsiopPersistentReserveOut]
  queued : range = { startingLbn := 0, dataLength := srb.dataTransferLength, fua := false }

theorem wnbdPendRange_accepted (props : WnbdProperties) (srb : Srb) (cdb : Cdb)
    (startingLbn dataLength : UInt64) (fua : Bool) (member : cdb.asByte 0 ∈ rangeOps)
    (accepted : wnbdPendRange props srb cdb = .pend startingLbn dataLength fua) :
    RangeAccepted props srb cdb (wnbdPendElementRange startingLbn dataLength fua) := by
  unfold wnbdPendRange at accepted
  dsimp only at accepted
  split_ifs at accepted with short outside
  cases accepted
  -- The second disjunct of the length test holds for every operation code.
  have eitherDiffers : cdb.asByte 0 ≠ scsiopSynchronizeCache ∨
      cdb.asByte 0 ≠ scsiopSynchronizeCache16 := by
    by_contra both
    rw [not_or, not_not, not_not] at both
    exact absurd (both.1.symm.trans both.2) (by decide)
  rw [not_or] at outside
  refine ⟨member, UInt32.not_lt.mp fun less => short ⟨less, eitherDiffers⟩,
    UInt64.not_lt.mp outside.1, UInt64.not_lt.mp outside.2, ?_⟩
  simp only [wnbdPendElementRange, UInt32.toUInt32_toUInt64]

theorem wnbdPendUnmapList_accepted (props : WnbdProperties) (srb : Srb) (cdb : Cdb)
    (buffer : Nat → UInt8) (startingLbn dataLength : UInt64) (fua : Bool)
    (opcode : cdb.asByte 0 = scsiopUnmap) (hasBuffer : srb.dataBuffer = some buffer)
    (accepted : wnbdPendUnmapList props srb cdb buffer = .pend startingLbn dataLength fua) :
    UnmapAccepted props srb cdb buffer (wnbdPendElementRange startingLbn dataLength fua) := by
  unfold wnbdPendUnmapList at accepted
  dsimp only at accepted
  split_ifs at accepted with short anchored empty several outside
  cases accepted
  simp only [not_or, Nat.not_lt] at short
  rw [not_or] at outside
  refine ⟨opcode, hasBuffer, short.2.1, not_not.mp several, UInt64.not_lt.mp outside.1,
    UInt64.not_lt.mp outside.2, ?_⟩
  simp [wnbdPendElementRange]

/-- Every accepted command is a range, an unmap or a persistent reservation. -/
theorem acceptedRange_cases (props : WnbdProperties) (srb : Srb) (range : ElementRange)
    (accepted : acceptedRange props srb = some range) :
    ∃ cdb, srb.cdb = some cdb ∧
      (RangeAccepted props srb cdb range ∨
        (∃ buffer, UnmapAccepted props srb cdb buffer range) ∨
        PersistentReserveAccepted srb cdb range) := by
  unfold acceptedRange at accepted
  split at accepted
  · cases accepted
  rename_i startingLbn dataLength fua outcome
  cases accepted
  unfold wnbdPendOperation at outcome
  cases found : srb.cdb with
  | none => simp [found] at outcome
  | some cdb =>
      refine ⟨cdb, rfl, ?_⟩
      simp only [found] at outcome
      split_ifs at outcome with ranged unmap reserve
      · exact Or.inl (wnbdPendRange_accepted props srb cdb _ _ _ ranged outcome)
      · unfold wnbdPendUnmap at outcome
        cases buffered : srb.dataBuffer with
        | none => simp [buffered] at outcome
        | some buffer =>
            simp only [buffered] at outcome
            exact Or.inr (Or.inl ⟨buffer,
              wnbdPendUnmapList_accepted props srb cdb buffer _ _ _ unmap buffered outcome⟩)
      · unfold wnbdPendPersistentReserve at outcome
        split_ifs at outcome
        cases outcome
        exact Or.inr (Or.inr ⟨reserve, by simp [wnbdPendElementRange]⟩)

end Wnbd.Scsi
