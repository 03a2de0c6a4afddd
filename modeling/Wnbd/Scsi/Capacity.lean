import Mathlib.Order.Bounds.Basic
import Wnbd.Scsi.UnmapList

/-!
# Range acceptance and the advertised capacity

`WnbdPendOperation` up to the pending queue, with the element allocation of
`WnbdPendElement` as an input, and `WnbdReadCapacity`, which writes the
big-endian address of the last block into the data buffer of the SRB.
-/

set_option autoImplicit false

namespace Wnbd.Scsi

open BigEndian CLayout TracedBuffer

/-! ## Queueing -/

structure PendResult where
  status : NtStatus
  srb : Srb
  queued : Option ElementRange

def wnbdPendElement (allocated : Bool) (srb : Srb) (startingLbn dataLength : UInt64)
    (fua : Bool) : PendResult :=
  if allocated then
    { status := statusPending
      srb := srb
      queued := some (wnbdPendElementRange startingLbn dataLength fua) }
  else
    { status := statusInsufficientResources
      srb := srb.setSrbStatus srbStatusAborted
      queued := none }

def wnbdPendOperationResult (allocated : Bool) (props : WnbdProperties) (srb : Srb) :
    PendResult :=
  match wnbdPendOperation props srb with
  | .finish status updated => { status := status, srb := updated, queued := none }
  | .pend startingLbn dataLength fua => wnbdPendElement allocated srb startingLbn dataLength fua

def srbStatusCode (status : UInt8) : UInt8 := status &&& 0x3F

def PassesLengthCheck (props : WnbdProperties) (srb : Srb) (cdb : Cdb) : Prop :=
  srb.dataTransferLength ≤ (srbCdbGetRange cdb).length * props.blockSize

/-- A refused command: nothing queued, and the initiator sees the failure. -/
structure RefusedWithSense (result : PendResult) : Prop where
  nothing : result.queued = none
  failed : srbStatusCode result.srb.srbStatus ≠ srbStatusSuccess
  sense : result.srb.scsiStatus = scsistatCheckCondition

theorem rangeOps_of_rangeFormat (scsiOp : UInt8) (format : CdbFormat)
    (ranged : rangeFormat scsiOp = some format) : scsiOp ∈ rangeOps := by
  simp only [rangeFormat, List.mem_cons, List.not_mem_nil, or_false] at ranged
  simp only [rangeOps, List.mem_cons, List.not_mem_nil, or_false]
  split_ifs at ranged with six ten twelve sixteen
  · rcases six with opcode | opcode <;> simp [opcode]
  · rcases ten with opcode | opcode | opcode <;> simp [opcode]
  · rcases twelve with opcode | opcode <;> simp [opcode]
  · rcases sixteen with opcode | opcode | opcode <;> simp [opcode]

theorem setSrbStatus_illegalBlock (srb : Srb) :
    srbStatusCode (setSrbStatus srb illegalBlockStatus).srbStatus ≠ srbStatusSuccess ∧
      (setSrbStatus srb illegalBlockStatus).scsiStatus = scsistatCheckCondition := by
  have autosense : srbStatusCode (srbStatusError ||| srbStatusAutosenseValid) ≠
      srbStatusSuccess := by decide
  have plain : srbStatusCode srbStatusError ≠ srbStatusSuccess := by decide
  unfold setSrbStatus
  split
  · exact ⟨autosense, rfl⟩
  · exact ⟨plain, rfl⟩

section Acceptance

variable (props : WnbdProperties) (srb : Srb) (cdb : Cdb) (format : CdbFormat)

theorem wnbdPendOperation_range (found : srb.cdb = some cdb)
    (ranged : rangeFormat (cdb.asByte 0) = some format) :
    wnbdPendOperation props srb = wnbdPendRange props srb cdb := by
  simp only [wnbdPendOperation, found]
  rw [if_pos (rangeOps_of_rangeFormat (cdb.asByte 0) format ranged)]

/-- Past the length check only the end of the range decides. -/
theorem wnbdPendRange_cases (ranged : rangeFormat (cdb.asByte 0) = some format)
    (longEnough : PassesLengthCheck props srb cdb) :
    (logicalBlockAddress cdb format + transferLength cdb format ≤ props.blockCount.toNat ∧
      ∃ startingLbn dataLength fua,
        wnbdPendRange props srb cdb = .pend startingLbn dataLength fua) ∨
    (props.blockCount.toNat < logicalBlockAddress cdb format + transferLength cdb format ∧
      wnbdPendRange props srb cdb =
        .finish statusInvalidParameter (setSrbStatus srb illegalBlockStatus)) := by
  have inRange := range_test_iff (srbCdbGetRange cdb).offset props.blockCount
    (srbCdbGetRange cdb).length
  rw [srbCdbGetRange_offset cdb format ranged, srbCdbGetRange_length cdb format ranged] at inRange
  have notShort : ¬ (srbCdbGetRange cdb).length * props.blockSize < srb.dataTransferLength :=
    UInt32.not_lt.mpr longEnough
  unfold wnbdPendRange
  dsimp only
  rw [if_neg fun short => notShort short.1]
  by_cases inside :
      logicalBlockAddress cdb format + transferLength cdb format ≤ props.blockCount.toNat
  · rw [if_neg (inRange.mpr inside)]
    exact Or.inl ⟨inside, _, _, _, rfl⟩
  · rw [if_pos (not_not.mp fun accepted => inside (inRange.mp accepted))]
    exact Or.inr ⟨by omega, rfl⟩

theorem queued_iff (found : srb.cdb = some cdb)
    (ranged : rangeFormat (cdb.asByte 0) = some format)
    (longEnough : PassesLengthCheck props srb cdb) (allocated : Bool) :
    (wnbdPendOperationResult allocated props srb).queued.isSome ↔
      logicalBlockAddress cdb format + transferLength cdb format ≤ props.blockCount.toNat ∧
        allocated = true := by
  unfold wnbdPendOperationResult
  rw [wnbdPendOperation_range props srb cdb format found ranged]
  rcases wnbdPendRange_cases props srb cdb format ranged longEnough with
    ⟨inside, startingLbn, dataLength, fua, outcome⟩ | ⟨outside, outcome⟩
  · rw [outcome]
    cases allocated with
    | true => exact iff_of_true rfl ⟨inside, rfl⟩
    | false => exact iff_of_false (by simp [wnbdPendElement]) (by simp)
  · rw [outcome]
    refine iff_of_false (by simp) ?_
    intro accepted
    exact absurd accepted.1 (by omega)

theorem refused_with_sense (found : srb.cdb = some cdb)
    (ranged : rangeFormat (cdb.asByte 0) = some format)
    (longEnough : PassesLengthCheck props srb cdb) (allocated : Bool)
    (outside : props.blockCount.toNat <
      logicalBlockAddress cdb format + transferLength cdb format) :
    RefusedWithSense (wnbdPendOperationResult allocated props srb) := by
  unfold wnbdPendOperationResult
  rw [wnbdPendOperation_range props srb cdb format found ranged]
  rcases wnbdPendRange_cases props srb cdb format ranged longEnough with
    ⟨inside, _⟩ | ⟨_, outcome⟩
  · omega
  · rw [outcome]
    have reported := setSrbStatus_illegalBlock srb
    exact ⟨rfl, reported.1, reported.2⟩

end Acceptance

/-! ## READ CAPACITY -/

def scsiopReadCapacity16 : UInt8 := 0x9E
def serviceActionReadCapacity16 : UInt8 := 0x10
def maxUlong : UInt64 := 0xFFFFFFFF

/-- `sizeof(READ_CAPACITY_DATA)`, `sizeof(READ_CAPACITY_DATA_EX)`,
`sizeof(READ_CAPACITY16_DATA)` and `FIELD_OFFSET(READ_CAPACITY16_DATA, Reserved3)`. -/
def readCapacityDataSize : UInt32 := 8
def readCapacityDataExSize : UInt32 := 12
def readCapacity16DataSize : UInt32 := 32
def readCapacity16Reserved3 : UInt32 := 16

def Cdb.serviceAction (cdb : Cdb) : UInt8 := cdb.asByte 1 &&& 0x1F

/-- `REVERSE_BYTES_4` and `REVERSE_BYTES_8` of a number in little-endian memory. -/
def reverseBytes (width value : Nat) : Nat → UInt8 := fun index =>
  leBytes value (width - 1 - index)

def writeReadCapacityData (buffer : Memory) (maxLba : UInt64) (blockSize : UInt32) : Memory :=
  let address :=
    if maxLba ≥ maxUlong then store buffer ⟨0, 4⟩ (leBytes maxUlong.toNat)
    else store buffer ⟨0, 4⟩ (reverseBytes 4 maxLba.toNat)
  store address ⟨4, 4⟩ (reverseBytes 4 blockSize.toNat)

/-- The stores of the READ CAPACITY(16) case.  `LBPME` is the top bit of byte 14. -/
def writeReadCapacity16Data (buffer : Memory) (maxLba : UInt64) (blockSize : UInt32)
    (lbpme : Bool) : Memory :=
  let numbers := store (store buffer ⟨0, 8⟩ (reverseBytes 8 maxLba.toNat)) ⟨8, 4⟩
    (reverseBytes 4 blockSize.toNat)
  if lbpme then store numbers ⟨14, 1⟩ fun _ => numbers 14 ||| 0x80 else numbers

def wnbdReadCapacity (props : WnbdProperties) (srb : Srb) (cdb : Cdb) (blockSize : UInt32)
    (blockCount : UInt64) : UInt8 × Srb :=
  match srb.dataBuffer with
  | none => (srbStatusInternalError, srb)
  | some dataBuffer =>
      if blockCount = 0 then (srbStatusInternalError, srb)
      else
        let maxLba := blockCount - 1
        let length := srb.dataTransferLength
        let zeroed := store dataBuffer ⟨0, length.toNat⟩ fun _ => 0
        if cdb.asByte 0 = scsiopReadCapacity then
          if readCapacityDataSize > length then
            (srbStatusInvalidRequest, { srb with dataBuffer := some zeroed })
          else
            (srbStatusSuccess,
              { srb with
                dataBuffer := some (writeReadCapacityData zeroed maxLba blockSize)
                dataTransferLength := readCapacityDataSize })
        else if cdb.asByte 0 = scsiopReadCapacity16 then
          if cdb.serviceAction ≠ serviceActionReadCapacity16 ∨ readCapacityDataExSize > length then
            (srbStatusInvalidRequest, { srb with dataBuffer := some zeroed })
          else
            (srbStatusSuccess,
              { srb with
                dataBuffer := some (writeReadCapacity16Data zeroed maxLba blockSize
                  (length ≥ readCapacity16Reserved3 && props.flags.unmapSupported))
                dataTransferLength :=
                  if length ≥ readCapacity16DataSize then readCapacity16DataSize
                  else if length ≥ readCapacity16Reserved3 then readCapacity16Reserved3
                  else readCapacityDataExSize })
        else (srbStatusInvalidRequest, { srb with dataBuffer := some zeroed })

def wnbdHandleReadCapacity (props : WnbdProperties) (srb : Srb) (cdb : Cdb) : Srb :=
  if cdb.asByte 0 = scsiopReadCapacity16 ∧ cdb.serviceAction ≠ serviceActionReadCapacity16 then
    srb.setSrbStatus srbStatusInvalidRequest
  else
    let replied := wnbdReadCapacity props srb cdb props.blockSize props.blockCount
    replied.2.setSrbStatus replied.1

/-- The number in the leading bytes of the data buffer. -/
def reportedLba (width : Nat) (srb : Srb) : Option Nat :=
  srb.dataBuffer.map fun buffer => ofBytes (bytesAt buffer ⟨0, width⟩)

theorem map_reverseBytes (width value : Nat) :
    (List.range width).map (reverseBytes width value) = toBytes width value := by
  have reversed : (List.range width).reverse =
      (List.range width).map (fun index => width - 1 - index) := by
    rw [List.range_eq_range', List.reverse_range', ← List.range_eq_range']
    simp only [zero_add]
  rw [← reverse_leBytes, ← List.map_reverse, reversed, List.map_map]
  refine List.map_congr_left fun index _ => ?_
  simp [reverseBytes]

theorem ofBytes_store_reverseBytes (buffer : Memory) (region : Region) (value : Nat)
    (small : value < 256 ^ region.length) :
    ofBytes (bytesAt (store buffer region (reverseBytes region.length value)) region) = value := by
  rw [bytesAt_store, map_reverseBytes, ofBytes_toBytes_of_lt region.length value small]

section Capacity

variable (props : WnbdProperties) (buffer : Memory) (maxLba : UInt64) (blockSize : UInt32)

theorem writeReadCapacityData_lba :
    ofBytes (bytesAt (writeReadCapacityData buffer maxLba blockSize) ⟨0, 4⟩) =
      min maxLba.toNat (2 ^ 32 - 1) := by
  unfold writeReadCapacityData
  dsimp only
  rw [bytesAt_store_of_disjoint _ ⟨0, 4⟩ ⟨4, 4⟩ _ (Or.inl (Nat.le_refl 4))]
  have limit : maxUlong.toNat = 2 ^ 32 - 1 := by decide
  split
  · rename_i saturated
    have large : 2 ^ 32 - 1 ≤ maxLba.toNat := by
      rw [← limit]
      exact UInt64.le_iff_toNat_le.mp saturated
    rw [bytesAt_store, Nat.min_eq_right large]
    decide
  · rename_i below
    have small : maxLba.toNat < 2 ^ 32 - 1 := by
      rw [← limit]
      exact UInt64.lt_iff_toNat_lt.mp (UInt64.not_le.mp below)
    rw [ofBytes_store_reverseBytes buffer ⟨0, 4⟩ maxLba.toNat (by simp only []; omega),
      Nat.min_eq_left (by omega)]

theorem writeReadCapacity16Data_lba (lbpme : Bool) :
    ofBytes (bytesAt (writeReadCapacity16Data buffer maxLba blockSize lbpme) ⟨0, 8⟩) =
      maxLba.toNat := by
  have maxSmall : maxLba.toNat < 2 ^ 64 := maxLba.toNat_lt
  have numbers : ofBytes (bytesAt (store (store buffer ⟨0, 8⟩ (reverseBytes 8 maxLba.toNat)) ⟨8, 4⟩
      (reverseBytes 4 blockSize.toNat)) ⟨0, 8⟩) = maxLba.toNat := by
    rw [bytesAt_store_of_disjoint _ ⟨0, 8⟩ ⟨8, 4⟩ _ (Or.inl (Nat.le_refl 8))]
    exact ofBytes_store_reverseBytes buffer ⟨0, 8⟩ maxLba.toNat (by simp only []; omega)
  unfold writeReadCapacity16Data
  dsimp only
  split
  · rw [bytesAt_store_of_disjoint _ ⟨0, 8⟩ ⟨14, 1⟩ _ (Or.inl (by decide))]
    exact numbers
  · exact numbers

end Capacity

theorem maxLba_toNat (blockCount : UInt64) (nonempty : 1 ≤ blockCount.toNat) :
    (blockCount - 1).toNat = blockCount.toNat - 1 := by
  have one : (1 : UInt64).toNat = 1 := rfl
  rw [UInt64.toNat_sub_of_le blockCount 1 (UInt64.le_iff_toNat_le.mpr nonempty), one]

theorem wnbdHandleReadCapacity_ten (props : WnbdProperties) (srb : Srb) (cdb : Cdb)
    (nonempty : 1 ≤ props.blockCount.toNat) (opcode : cdb.asByte 0 = scsiopReadCapacity)
    (hasBuffer : srb.dataBuffer.isSome) (room : readCapacityDataSize ≤ srb.dataTransferLength) :
    (wnbdHandleReadCapacity props srb cdb).srbStatus = srbStatusSuccess ∧
      reportedLba 4 (wnbdHandleReadCapacity props srb cdb) =
        some (min (props.blockCount.toNat - 1) (2 ^ 32 - 1)) := by
  obtain ⟨buffer, buffered⟩ := Option.isSome_iff_exists.mp hasBuffer
  have notSixteen : ¬ (cdb.asByte 0 = scsiopReadCapacity16 ∧
      cdb.serviceAction ≠ serviceActionReadCapacity16) := by
    rintro ⟨sixteen, _⟩
    exact absurd (opcode.symm.trans sixteen) (by decide)
  have notEmpty : ¬ props.blockCount = 0 := by
    intro empty
    rw [empty] at nonempty
    exact absurd nonempty (by decide)
  unfold wnbdHandleReadCapacity wnbdReadCapacity
  rw [if_neg notSixteen, buffered]
  dsimp only
  rw [if_neg notEmpty, if_pos opcode, if_neg (UInt32.not_lt.mpr room)]
  refine ⟨rfl, ?_⟩
  change some (ofBytes (bytesAt (writeReadCapacityData _ _ _) ⟨0, 4⟩)) = _
  rw [writeReadCapacityData_lba, maxLba_toNat props.blockCount nonempty]

theorem wnbdHandleReadCapacity_sixteen (props : WnbdProperties) (srb : Srb) (cdb : Cdb)
    (nonempty : 1 ≤ props.blockCount.toNat) (opcode : cdb.asByte 0 = scsiopReadCapacity16)
    (service : cdb.serviceAction = serviceActionReadCapacity16)
    (hasBuffer : srb.dataBuffer.isSome)
    (room : readCapacityDataExSize ≤ srb.dataTransferLength) :
    (wnbdHandleReadCapacity props srb cdb).srbStatus = srbStatusSuccess ∧
      reportedLba 8 (wnbdHandleReadCapacity props srb cdb) =
        some (props.blockCount.toNat - 1) := by
  obtain ⟨buffer, buffered⟩ := Option.isSome_iff_exists.mp hasBuffer
  have served : ¬ (cdb.asByte 0 = scsiopReadCapacity16 ∧
      cdb.serviceAction ≠ serviceActionReadCapacity16) := fun refused => refused.2 service
  have notTen : ¬ cdb.asByte 0 = scsiopReadCapacity := by
    rw [opcode]
    decide
  have notEmpty : ¬ props.blockCount = 0 := by
    intro empty
    rw [empty] at nonempty
    exact absurd nonempty (by decide)
  have fits : ¬ (cdb.serviceAction ≠ serviceActionReadCapacity16 ∨
      readCapacityDataExSize > srb.dataTransferLength) := by
    rintro (other | short)
    · exact other service
    · exact UInt32.not_lt.mpr room short
  unfold wnbdHandleReadCapacity wnbdReadCapacity
  rw [if_neg served, buffered]
  dsimp only
  rw [if_neg notEmpty, if_neg notTen, if_pos opcode, if_neg fits]
  refine ⟨rfl, ?_⟩
  change some (ofBytes (bytesAt (writeReadCapacity16Data _ _ _ _) ⟨0, 8⟩)) = _
  rw [writeReadCapacity16Data_lba, maxLba_toNat props.blockCount nonempty]

/-! ## The two agree -/

/-- A read, write or flush of one block at the address passes every check. -/
def OneBlockAccepted (props : WnbdProperties) (address : Nat) : Prop :=
  ∃ srb cdb format, srb.cdb = some cdb ∧ rangeFormat (cdb.asByte 0) = some format ∧
    logicalBlockAddress cdb format = address ∧ transferLength cdb format = 1 ∧
    PassesLengthCheck props srb cdb ∧ (wnbdPendOperationResult true props srb).queued.isSome

def readOneBlock (address : Nat) : Cdb :=
  #v[scsiopRead16, 0, UInt8.ofNat (address / 256 ^ 7), UInt8.ofNat (address / 256 ^ 6),
    UInt8.ofNat (address / 256 ^ 5), UInt8.ofNat (address / 256 ^ 4),
    UInt8.ofNat (address / 256 ^ 3), UInt8.ofNat (address / 256 ^ 2),
    UInt8.ofNat (address / 256 ^ 1), UInt8.ofNat (address / 256 ^ 0), 0, 0, 0, 1, 0, 0]

def bareSrb (cdb : Cdb) : Srb :=
  { cdb := some cdb
    dataTransferLength := 0
    dataBuffer := none
    srbStatus := srbStatusPending
    scsiStatus := 0
    srbFlags := 0
    senseInfoBuffer := none
    senseInfoBufferLength := 0 }

theorem readOneBlock_address (address : Nat) (small : address < 2 ^ 64) :
    logicalBlockAddress (readOneBlock address) .sixteen = address := by
  have bytes : logicalBlockAddress (readOneBlock address) .sixteen = ofBytes (toBytes 8 address) := by
    simp only [logicalBlockAddress, toBytes]
    rfl
  rw [bytes]
  apply ofBytes_toBytes_of_lt
  norm_num
  omega

theorem readOneBlock_length (address : Nat) :
    transferLength (readOneBlock address) .sixteen = 1 := by
  have bytes : transferLength (readOneBlock address) .sixteen = ofBytes [0, 0, 0, 1] := rfl
  rw [bytes]
  decide

theorem oneBlockAccepted_greatest (props : WnbdProperties)
    (nonempty : 1 ≤ props.blockCount.toNat) :
    IsGreatest {address | OneBlockAccepted props address} (props.blockCount.toNat - 1) := by
  have countSmall : props.blockCount.toNat < 2 ^ 64 := props.blockCount.toNat_lt
  constructor
  · refine ⟨bareSrb (readOneBlock (props.blockCount.toNat - 1)),
      readOneBlock (props.blockCount.toNat - 1), .sixteen, rfl, rfl,
      readOneBlock_address _ (by omega), readOneBlock_length _,
      UInt32.le_iff_toNat_le.mpr (Nat.zero_le _), ?_⟩
    refine (queued_iff props _ _ .sixteen rfl rfl
      (UInt32.le_iff_toNat_le.mpr (Nat.zero_le _)) true).mpr ⟨?_, rfl⟩
    rw [readOneBlock_address _ (by omega), readOneBlock_length]
    omega
  · rintro address ⟨srb, cdb, format, found, ranged, atAddress, oneBlock, longEnough, queued⟩
    have inside := ((queued_iff props srb cdb format found ranged longEnough true).mp queued).1
    rw [atAddress, oneBlock] at inside
    omega

/-- What the admission and the two capacity commands tell about one disk. -/
structure CapacityAgrees (props : WnbdProperties) : Prop where
  accepted : ∀ srb cdb format, srb.cdb = some cdb → rangeFormat (cdb.asByte 0) = some format →
    PassesLengthCheck props srb cdb → ∀ allocated,
      ((wnbdPendOperationResult allocated props srb).queued.isSome ↔
        logicalBlockAddress cdb format + transferLength cdb format ≤ props.blockCount.toNat ∧
          allocated = true)
  refused : ∀ srb cdb format, srb.cdb = some cdb → rangeFormat (cdb.asByte 0) = some format →
    PassesLengthCheck props srb cdb → ∀ allocated,
      props.blockCount.toNat < logicalBlockAddress cdb format + transferLength cdb format →
        RefusedWithSense (wnbdPendOperationResult allocated props srb)
  sixteen : ∀ srb cdb, cdb.asByte 0 = scsiopReadCapacity16 →
    cdb.serviceAction = serviceActionReadCapacity16 → srb.dataBuffer.isSome →
    readCapacityDataExSize ≤ srb.dataTransferLength →
      (wnbdHandleReadCapacity props srb cdb).srbStatus = srbStatusSuccess ∧
        ∃ last, reportedLba 8 (wnbdHandleReadCapacity props srb cdb) = some last ∧
          IsGreatest {address | OneBlockAccepted props address} last
  ten : ∀ srb cdb, cdb.asByte 0 = scsiopReadCapacity → srb.dataBuffer.isSome →
    readCapacityDataSize ≤ srb.dataTransferLength →
      (wnbdHandleReadCapacity props srb cdb).srbStatus = srbStatusSuccess ∧
        ∃ last, IsGreatest {address | OneBlockAccepted props address} last ∧
          reportedLba 4 (wnbdHandleReadCapacity props srb cdb) = some (min last (2 ^ 32 - 1))

/-- A command that passes the length check is queued if its range lies on the disk and there is an
element for it; READ CAPACITY reports the last block that is accepted. -/
theorem range_acceptance_agrees_with_capacity (props : WnbdProperties)
    (nonempty : 1 ≤ props.blockCount.toNat) : CapacityAgrees props where
  accepted := by
    intro srb cdb format found ranged longEnough allocated
    exact queued_iff props srb cdb format found ranged longEnough allocated
  refused := by
    intro srb cdb format found ranged longEnough allocated outside
    exact refused_with_sense props srb cdb format found ranged longEnough allocated outside
  sixteen := by
    intro srb cdb opcode service hasBuffer room
    have replied :=
      wnbdHandleReadCapacity_sixteen props srb cdb nonempty opcode service hasBuffer room
    exact ⟨replied.1, _, replied.2, oneBlockAccepted_greatest props nonempty⟩
  ten := by
    intro srb cdb opcode hasBuffer room
    have replied := wnbdHandleReadCapacity_ten props srb cdb nonempty opcode hasBuffer room
    exact ⟨replied.1, _, oneBlockAccepted_greatest props nonempty, replied.2⟩

def oneBlockProperties : WnbdProperties :=
  { instanceName := []
    flags := ⟨false, true, true, true, false, false⟩
    blockCount := 1
    blockSize := 512
    pid := 1 }

theorem range_acceptance_one_block :
    1 ≤ oneBlockProperties.blockCount.toNat ∧ CapacityAgrees oneBlockProperties :=
  ⟨by decide, range_acceptance_agrees_with_capacity oneBlockProperties (by decide)⟩

/-- The last block of the disk is in range, and without memory for the element
the read of it is not queued. -/
theorem in_range_read_not_queued :
    logicalBlockAddress (readOneBlock 0) .sixteen + transferLength (readOneBlock 0) .sixteen ≤
        oneBlockProperties.blockCount.toNat ∧
      PassesLengthCheck oneBlockProperties (bareSrb (readOneBlock 0)) (readOneBlock 0) ∧
      (wnbdPendOperationResult false oneBlockProperties
        (bareSrb (readOneBlock 0))).queued.isSome = false := by
  refine ⟨by decide, ?_, by decide⟩
  unfold PassesLengthCheck
  decide

end Wnbd.Scsi
