import Wnbd.Scsi.Inquiry

/-!
# Commands answered at once

MODE SENSE, READ CAPACITY and REPORT LUNS on the data buffer of the SRB, and
`WnbdHandleSrbOperation` up to the commands that are queued.
`synchronous_in_bounds_iff` names the two replies that need not fit.  READ CAPACITY
answers as in the other modules (`answerCdb_readCapacity`).
-/

set_option autoImplicit false

namespace Wnbd.Scsi

open CLayout CLayout.Region TracedBuffer Wnbd.Ioctl

/-! ## MODE SENSE -/

def scsiopModeSense10 : UInt8 := 0x5A

def modePageCaching : UInt8 := 0x08
def modeSenseReturnAll : UInt8 := 0x3F
def modeSenseChangeableValues : UInt8 := 0x40

def modeParameterHeaderSize : Nat := 4
def modeParameterHeader10Size : Nat := 8
def modeCachingPageSize : Nat := 12

/-- `Pc`, two bits that are compared with a value of more. -/
def Cdb.modePc (cdb : Cdb) : UInt8 := cdb.asByte 2 >>> 6

def Cdb.modePageCode (cdb : Cdb) : UInt8 := cdb.asByte 2 &&& 0x3F

/-- `CHECK_MODE_SENSE` and `CHECK_MODE_SENSE10`, whose fields are in the same byte. -/
def checkModeSense (cdb : Cdb) (page : UInt8) : Bool :=
  modeSenseChangeableValues = cdb.modePc ∨
    (page ≠ cdb.modePageCode ∧ modeSenseReturnAll ≠ cdb.modePageCode)

def modeDeviceSpecificParameter (device : ScsiDevice) : Nat :=
  (if device.readOnly then 0x80 else 0) + if device.fuaSupported then 0x10 else 0

structure ModeSense where
  srbStatus : UInt8
  page : Option Nat
  length : Nat

/-- The two checks of both commands, in front of a header of this size. -/
def withModeRoom (cdb : Cdb) (maxLength : UInt32) (headerSize : Nat) (header : Traced Unit) :
    Traced ModeSense :=
  let length := headerSize + modeCachingPageSize
  if checkModeSense cdb modePageCaching then pure ⟨srbStatusInvalidRequest, none, length⟩
  else if length > maxLength.toNat then pure ⟨srbStatusDataOverrun, none, length⟩
  else do
    header
    pure ⟨srbStatusSuccess, some headerSize, length⟩

def storeModeHeader (device : ScsiDevice) : Traced Unit := do
  storeNat ⟨0, 1⟩ (modeParameterHeaderSize + modeCachingPageSize - 1)
  storeNat ⟨1, 1⟩ 0
  storeNat ⟨2, 1⟩ (modeDeviceSpecificParameter device)
  storeNat ⟨3, 1⟩ 0

def storeModeHeader10 (device : ScsiDevice) : Traced Unit := do
  storeNat ⟨0, 1⟩ 0
  storeNat ⟨1, 1⟩ (modeParameterHeader10Size + modeCachingPageSize - 2)
  storeNat ⟨2, 1⟩ 0
  storeNat ⟨3, 1⟩ (modeDeviceSpecificParameter device)
  storeNat ⟨6, 1⟩ 0
  storeNat ⟨7, 1⟩ 0

def wnbdSetModeSense (device : ScsiDevice) (cdb : Cdb) (maxLength : UInt32) : Traced ModeSense :=
  if cdb.asByte 0 = scsiopModeSense then
    withModeRoom cdb maxLength modeParameterHeaderSize (storeModeHeader device)
  else if cdb.asByte 0 = scsiopModeSense10 then
    withModeRoom cdb maxLength modeParameterHeader10Size (storeModeHeader10 device)
  else pure ⟨srbStatusInvalidRequest, none, 0⟩

def storeCachingPage (device : ScsiDevice) (page : Nat) : Traced Unit := do
  storeBits page 0x3F modePageCaching
  storeBits page 0x80 0
  storeNat ⟨page + 1, 1⟩ (modeCachingPageSize - 2)
  storeBits (page + 2) 0x01 (if device.flushSupported then 0 else 0x01)
  storeBits (page + 2) 0x04 (if device.flushSupported then 0x04 else 0)

/-- `WnbdModeSense` on a data buffer, which nothing fills with zeros first. -/
def wnbdModeSense (device : ScsiDevice) (length : UInt32) (cdb : Cdb) : Traced SyncReply := do
  let sensed ← wnbdSetModeSense device cdb length
  match sensed.page with
  | none => pure ⟨sensed.srbStatus, length⟩
  | some page =>
      if sensed.srbStatus ≠ srbStatusSuccess then pure ⟨sensed.srbStatus, length⟩
      else do
        storeCachingPage device page
        pure ⟨srbStatusSuccess, UInt32.ofNat sensed.length⟩

/-! ## READ CAPACITY -/

def storeReadCapacityData (maxLba : UInt64) (blockSize : UInt32) : Traced Unit := do
  storeBytes ⟨0, 4⟩ (if maxLba ≥ maxUlong then leBytes maxUlong.toNat
    else reverseBytes 4 maxLba.toNat)
  storeBytes ⟨4, 4⟩ (reverseBytes 4 blockSize.toNat)

def storeReadCapacity16Data (maxLba : UInt64) (blockSize : UInt32) (lbpme : Bool) :
    Traced Unit := do
  storeBytes ⟨0, 8⟩ (reverseBytes 8 maxLba.toNat)
  storeBytes ⟨8, 4⟩ (reverseBytes 4 blockSize.toNat)
  if lbpme then storeBits 14 0x80 0x80 else pure ()

def readCapacityProgram (props : WnbdProperties) (length : UInt32) (cdb : Cdb)
    (blockSize : UInt32) (blockCount : UInt64) : Traced SyncReply :=
  if blockCount = 0 then pure ⟨srbStatusInternalError, length⟩
  else do
    zeroMemory ⟨0, length.toNat⟩
    if cdb.asByte 0 = scsiopReadCapacity then
      if readCapacityDataSize > length then pure ⟨srbStatusInvalidRequest, length⟩
      else do
        storeReadCapacityData (blockCount - 1) blockSize
        pure ⟨srbStatusSuccess, readCapacityDataSize⟩
    else if cdb.asByte 0 = scsiopReadCapacity16 then
      if cdb.serviceAction ≠ serviceActionReadCapacity16 ∨ readCapacityDataExSize > length then
        pure ⟨srbStatusInvalidRequest, length⟩
      else do
        storeReadCapacity16Data (blockCount - 1) blockSize
          (length ≥ readCapacity16Reserved3 && props.flags.unmapSupported)
        pure ⟨srbStatusSuccess,
          if length ≥ readCapacity16DataSize then readCapacity16DataSize
          else if length ≥ readCapacity16Reserved3 then readCapacity16Reserved3
          else readCapacityDataExSize⟩
    else pure ⟨srbStatusInvalidRequest, length⟩

/-! ## REPORT LUNS -/

def lunListSize : Nat := 8

def wnbdReportLuns (length : UInt32) : Traced SyncReply := do
  zeroMemory ⟨0, length.toNat⟩
  storeNat ⟨3, 1⟩ 8
  pure ⟨srbStatusSuccess, UInt32.ofNat (lunListSize + 8)⟩

/-! ## The switch -/

structure SyncResult where
  srb : Srb
  accesses : List Access

/-- Each of the commands fails without a data buffer. -/
def withDataBuffer (srb : Srb) (program : Traced SyncReply) : SyncResult :=
  match srb.dataBuffer with
  | none => ⟨srb.setSrbStatus srbStatusInternalError, []⟩
  | some buffer =>
      let outcome := program buffer
      { srb :=
          { srb with
            dataBuffer := some outcome.memory
            dataTransferLength := outcome.value.dataTransferLength
            srbStatus := outcome.value.srbStatus }
        accesses := outcome.accesses }

def withoutData (srb : Srb) (srbStatus : UInt8) : SyncResult := ⟨srb.setSrbStatus srbStatus, []⟩

def scsiopTestUnitReady : UInt8 := 0x00
def scsiopVerify : UInt8 := 0x2F
def scsiopReportLuns : UInt8 := 0xA0

def queuedOps : List UInt8 :=
  rangeOps ++ [scsiopPersistentReserveIn, scsiopPersistentReserveOut, scsiopUnmap]

/-- The switch over the operation code.  A queued command has its status set to
aborted in front of `WnbdPendOperation`. -/
def answerCdb (device : ScsiDevice) (srb : Srb) (cdb : Cdb) : SyncResult :=
  let props := propertiesOf device.properties
  let length := srb.dataTransferLength
  if cdb.asByte 0 ∈ queuedOps then withoutData srb srbStatusAborted
  else if cdb.asByte 0 = scsiopInquiry then withDataBuffer srb (wnbdInquiry device length cdb)
  else if cdb.asByte 0 = scsiopModeSense ∨ cdb.asByte 0 = scsiopModeSense10 then
    withDataBuffer srb (wnbdModeSense device length cdb)
  else if cdb.asByte 0 = scsiopReadCapacity then
    withDataBuffer srb (readCapacityProgram props length cdb props.blockSize props.blockCount)
  else if cdb.asByte 0 = scsiopReadCapacity16 then
    if cdb.serviceAction = serviceActionReadCapacity16 then
      withDataBuffer srb (readCapacityProgram props length cdb props.blockSize props.blockCount)
    else withoutData srb srbStatusInvalidRequest
  else if cdb.asByte 0 = scsiopVerify ∨ cdb.asByte 0 = scsiopTestUnitReady then
    withoutData srb srbStatusSuccess
  else if cdb.asByte 0 = scsiopReportLuns then withDataBuffer srb (wnbdReportLuns length)
  else withoutData srb srbStatusInvalidRequest

/-- `WnbdHandleSrbOperation` up to `WnbdPendOperation`. -/
def wnbdHandleSrbOperation (device : ScsiDevice) (srb : Srb) : SyncResult :=
  match srb.cdb with
  | none => withoutData srb srbStatusInvalidRequest
  | some cdb =>
      if device.hardRemoveDevice then withoutData srb srbStatusInvalidRequest
      else answerCdb device srb cdb

/-! ## READ CAPACITY in one step -/

theorem setBit_of_masked (found : UInt8) : found &&& ~~~0x80 ||| 0x80 = found ||| 0x80 := by
  obtain ⟨bits⟩ := found
  rw [← UInt8.toBitVec_inj]
  revert bits
  decide +kernel

theorem storeReadCapacityData_memory (maxLba : UInt64) (blockSize : UInt32) (buffer : Memory) :
    (storeReadCapacityData maxLba blockSize buffer).memory =
      writeReadCapacityData buffer maxLba blockSize := by
  simp only [storeReadCapacityData, bind_memory, storeBytes_memory, writeReadCapacityData]
  split
  · rfl
  · rfl

theorem storeReadCapacity16Data_memory (maxLba : UInt64) (blockSize : UInt32) (lbpme : Bool)
    (buffer : Memory) :
    (storeReadCapacity16Data maxLba blockSize lbpme buffer).memory =
      writeReadCapacity16Data buffer maxLba blockSize lbpme := by
  simp only [storeReadCapacity16Data, bind_memory, storeBytes_memory, writeReadCapacity16Data]
  cases lbpme with
  | false => rfl
  | true => simp only [if_true, storeBits_memory, setBit_of_masked]

/-- The program does what `wnbdReadCapacity` does. -/
theorem wnbdReadCapacity_program (props : WnbdProperties) (srb : Srb) (cdb : Cdb)
    (blockSize : UInt32) (blockCount : UInt64) :
    (withDataBuffer srb (readCapacityProgram props srb.dataTransferLength cdb blockSize
      blockCount)).srb =
    (wnbdReadCapacity props srb cdb blockSize blockCount).2.setSrbStatus
      (wnbdReadCapacity props srb cdb blockSize blockCount).1 := by
  rw [withDataBuffer, wnbdReadCapacity]
  cases buffered : srb.dataBuffer with
  | none => rfl
  | some buffer =>
      simp only [readCapacityProgram]
      split
      case isTrue =>
        rw [pure_value, pure_memory, ← buffered]
        rfl
      case isFalse =>
        simp only [bind_value, bind_memory, zeroMemory_memory]
        split
        case isTrue =>
          split
          case isTrue => rfl
          case isFalse =>
            simp only [bind_value, bind_memory, pure_value, pure_memory,
              storeReadCapacityData_memory]
            rfl
        case isFalse =>
          split
          case isTrue =>
            split
            case isTrue => rfl
            case isFalse =>
              simp only [bind_value, bind_memory, pure_value, pure_memory,
                storeReadCapacity16Data_memory]
              rfl
          case isFalse => rfl

/-- Both capacity commands are answered by `wnbdHandleReadCapacity`. -/
theorem answerCdb_readCapacity (device : ScsiDevice) (srb : Srb) (cdb : Cdb)
    (capacity : cdb.asByte 0 = scsiopReadCapacity ∨ cdb.asByte 0 = scsiopReadCapacity16) :
    (answerCdb device srb cdb).srb =
      wnbdHandleReadCapacity (propertiesOf device.properties) srb cdb := by
  rcases capacity with ten | sixteen
  · have other : ¬ (scsiopReadCapacity = scsiopReadCapacity16 ∧
        cdb.serviceAction ≠ serviceActionReadCapacity16) := fun both => absurd both.1 (by decide)
    rw [wnbdHandleReadCapacity, ten, if_neg other, ← wnbdReadCapacity_program, answerCdb, ten]
    rfl
  · have answered : answerCdb device srb cdb =
        if cdb.serviceAction = serviceActionReadCapacity16 then
          withDataBuffer srb (readCapacityProgram (propertiesOf device.properties)
            srb.dataTransferLength cdb (propertiesOf device.properties).blockSize
            (propertiesOf device.properties).blockCount)
        else withoutData srb srbStatusInvalidRequest := by
      rw [answerCdb, sixteen]
      rfl
    rw [answered, wnbdHandleReadCapacity, sixteen]
    by_cases served : cdb.serviceAction = serviceActionReadCapacity16
    · rw [if_pos served, if_neg fun refused => refused.2 served, ← wnbdReadCapacity_program]
    · rw [if_neg served, if_pos ⟨rfl, served⟩]
      rfl

/-! ## Room in the buffer -/

section Room

variable (device : ScsiDevice) {length : UInt32} (cdb : Cdb)

theorem withModeRoom_triple (headerSize : Nat) {header : Traced Unit}
    (writes : headerSize ≤ length.toNat → Writes length header) :
    Triple (InBuffer length.toNat) (fun _ => True) (withModeRoom cdb length headerSize header)
      fun sensed _ => ∀ page, sensed.page = some page →
        page + modeCachingPageSize = sensed.length ∧ sensed.length ≤ length.toNat := by
  refine Triple.ite (fun _ => Triple.pure fun _ _ page found => by cases found) fun _ => ?_
  refine Triple.ite (fun _ => Triple.pure fun _ _ page found => by cases found) fun enough => ?_
  have room := Nat.not_lt.mp enough
  refine Keeps.bind (writes (by omega)) fun _ => Triple.pure fun _ _ page found => ?_
  cases found
  exact ⟨rfl, room⟩

theorem storeModeHeader_writes (room : modeParameterHeaderSize ≤ length.toNat) :
    Writes length (storeModeHeader device) := by
  rw [modeParameterHeaderSize] at room
  refine Writes.bind (Writes.storeNat (by simp only [Region.stop]; omega)) fun _ => ?_
  refine Writes.bind (Writes.storeNat (by simp only [Region.stop]; omega)) fun _ => ?_
  refine Writes.bind (Writes.storeNat (by simp only [Region.stop]; omega)) fun _ => ?_
  exact Writes.storeNat (by simp only [Region.stop]; omega)

theorem storeModeHeader10_writes (room : modeParameterHeader10Size ≤ length.toNat) :
    Writes length (storeModeHeader10 device) := by
  rw [modeParameterHeader10Size] at room
  refine Writes.bind (Writes.storeNat (by simp only [Region.stop]; omega)) fun _ => ?_
  refine Writes.bind (Writes.storeNat (by simp only [Region.stop]; omega)) fun _ => ?_
  refine Writes.bind (Writes.storeNat (by simp only [Region.stop]; omega)) fun _ => ?_
  refine Writes.bind (Writes.storeNat (by simp only [Region.stop]; omega)) fun _ => ?_
  refine Writes.bind (Writes.storeNat (by simp only [Region.stop]; omega)) fun _ => ?_
  exact Writes.storeNat (by simp only [Region.stop]; omega)

theorem storeCachingPage_writes {page : Nat} (room : page + modeCachingPageSize ≤ length.toNat) :
    Writes length (storeCachingPage device page) := by
  rw [modeCachingPageSize] at room
  refine Writes.bind (Writes.storeBits (by omega)) fun _ => ?_
  refine Writes.bind (Writes.storeBits (by omega)) fun _ => ?_
  refine Writes.bind (Writes.storeNat (by simp only [Region.stop]; omega)) fun _ => ?_
  refine Writes.bind (Writes.storeBits (by omega)) fun _ => ?_
  exact Writes.storeBits (by omega)

theorem wnbdModeSense_fits : Fits length (wnbdModeSense device length cdb) := by
  refine Triple.bind (fun sensed _ => ∀ page, sensed.page = some page →
    page + modeCachingPageSize = sensed.length ∧ sensed.length ≤ length.toNat) ?_ fun sensed => ?_
  · refine Triple.ite (fun _ => withModeRoom_triple cdb _ fun room =>
      storeModeHeader_writes device room) fun _ => ?_
    refine Triple.ite (fun _ => withModeRoom_triple cdb _ fun room =>
      storeModeHeader10_writes device room) fun _ => ?_
    exact Triple.pure fun _ _ page found => by cases found
  · cases found : sensed.page with
    | none => exact Triple.pure fun _ _ => UInt32.le_refl length
    | some page =>
        intro memory sound
        obtain ⟨whole, room⟩ := sound page rfl
        refine (Triple.ite (fun _ => Fits.pure _ (UInt32.le_refl length)) fun _ => ?_)
          memory trivial
        exact Fits.bind (storeCachingPage_writes device (by omega)) fun _ =>
          Fits.pure _ (ofNat_le_length room)

theorem readCapacityProgram_fits (props : WnbdProperties) (blockSize : UInt32)
    (blockCount : UInt64) :
    Fits length (readCapacityProgram props length cdb blockSize blockCount) := by
  refine Triple.ite (fun _ => Fits.pure _ (UInt32.le_refl length)) fun _ => ?_
  refine Fits.bind (Writes.storeBytes (by simp only [Region.stop]; omega)) fun _ => ?_
  refine Triple.ite (fun _ => ?_) fun _ => Triple.ite (fun _ => ?_) fun _ =>
    Fits.pure _ (UInt32.le_refl length)
  · refine Triple.ite (fun _ => Fits.pure _ (UInt32.le_refl length)) fun enough => ?_
    have room := UInt32.not_lt.mp enough
    have bytes : 8 ≤ length.toNat := UInt32.le_iff_toNat_le.mp room
    refine Fits.bind (Writes.bind (Writes.storeBytes ?_) fun _ => Writes.storeBytes ?_) fun _ =>
      Fits.pure _ room
    · simp only [Region.stop]
      omega
    · exact bytes
  · refine Triple.ite (fun _ => Fits.pure _ (UInt32.le_refl length)) fun served => ?_
    have room := UInt32.not_lt.mp fun short => served (Or.inr short)
    have bytes : 12 ≤ length.toNat := UInt32.le_iff_toNat_le.mp room
    refine Fits.bind (Writes.bind (Writes.storeBytes ?_) fun _ =>
      Writes.bind (Writes.storeBytes bytes) fun _ => ?_) fun _ => Fits.pure _ ?_
    · simp only [Region.stop]
      omega
    · refine Triple.ite (fun lbpme => Writes.storeBits ?_) fun _ => Keeps.pure ()
      have wide := of_decide_eq_true (Bool.and_eq_true_iff.mp lbpme).1
      have flags : 16 ≤ length.toNat := UInt32.le_iff_toNat_le.mp wide
      omega
    · split
      case isTrue whole => exact whole
      case isFalse =>
        split
        case isTrue wide => exact wide
        case isFalse => exact room

theorem wnbdReportLuns_fits (room : lunListSize + 8 ≤ length.toNat) :
    Fits length (wnbdReportLuns length) := by
  have bytes := room
  simp only [lunListSize] at bytes
  refine Fits.bind (Writes.storeBytes (by simp only [Region.stop]; omega)) fun _ => ?_
  exact Fits.bind (Writes.storeNat (by simp only [Region.stop]; omega)) fun _ =>
    Fits.pure _ (ofNat_le_length room)

end Room

/-! ## Which replies stay inside the buffer -/

/-- Every byte written lies in the data buffer of the SRB, and a success reports no
more than its length. -/
structure InBounds (srb : Srb) (result : SyncResult) : Prop where
  writes : ∀ access ∈ result.accesses, access.kind = .write →
    access.region.stop ≤ srb.dataTransferLength.toNat
  reported : result.srb.srbStatus = srbStatusSuccess →
    result.srb.dataTransferLength ≤ srb.dataTransferLength

theorem withoutData_inBounds (srb : Srb) (srbStatus : UInt8) :
    InBounds srb (withoutData srb srbStatus) :=
  ⟨fun _ member => absurd member List.not_mem_nil, fun _ => UInt32.le_refl _⟩

theorem withDataBuffer_inBounds (srb : Srb) {program : Traced SyncReply}
    (fits : srb.dataBuffer.isSome → Fits srb.dataTransferLength program) :
    InBounds srb (withDataBuffer srb program) := by
  rw [withDataBuffer]
  cases buffered : srb.dataBuffer with
  | none => exact withoutData_inBounds srb _
  | some buffer =>
      obtain ⟨inside, small⟩ := fits (by rw [buffered]; rfl) buffer trivial
      exact ⟨fun access member _ => inside access member, fun _ => small⟩

/-- Standard inquiry data, or a LUN list, for a buffer that is too short for it. -/
def Overruns (srb : Srb) (cdb : Cdb) : Prop :=
  (cdb.asByte 0 = scsiopInquiry ∧ cdb.enableVitalProductData = false ∧ cdb.inquiryPageCode = 0 ∧
      srb.dataTransferLength.toNat < inquiryDataBufferSize) ∨
    (cdb.asByte 0 = scsiopReportLuns ∧ srb.dataTransferLength.toNat < lunListSize + 8)

theorem answerCdb_inBounds (device : ScsiDevice) (srb : Srb) (cdb : Cdb)
    (room : srb.dataBuffer.isSome → ¬ Overruns srb cdb) :
    InBounds srb (answerCdb device srb cdb) := by
  rw [answerCdb]
  split
  case isTrue => exact withoutData_inBounds srb _
  split
  case isTrue inquiry =>
    refine withDataBuffer_inBounds srb fun hasBuffer => wnbdInquiry_fits device cdb ?_
    intro standard page
    refine Nat.not_lt.mp fun short => room hasBuffer (Or.inl ⟨inquiry, standard, page, short⟩)
  split
  case isTrue => exact withDataBuffer_inBounds srb fun _ => wnbdModeSense_fits device cdb
  split
  case isTrue => exact withDataBuffer_inBounds srb fun _ => readCapacityProgram_fits cdb _ _ _
  split
  case isTrue =>
    split
    case isTrue => exact withDataBuffer_inBounds srb fun _ => readCapacityProgram_fits cdb _ _ _
    case isFalse => exact withoutData_inBounds srb _
  split
  case isTrue => exact withoutData_inBounds srb _
  split
  case isTrue reportLuns =>
    refine withDataBuffer_inBounds srb fun hasBuffer => wnbdReportLuns_fits ?_
    exact Nat.not_lt.mp fun short => room hasBuffer (Or.inr ⟨reportLuns, short⟩)
  case isFalse => exact withoutData_inBounds srb _

theorem answerCdb_overruns (device : ScsiDevice) (srb : Srb) (cdb : Cdb)
    (hasBuffer : srb.dataBuffer.isSome) (overruns : Overruns srb cdb) :
    ¬ InBounds srb (answerCdb device srb cdb) := by
  obtain ⟨buffer, buffered⟩ := Option.isSome_iff_exists.mp hasBuffer
  intro bounds
  rcases overruns with ⟨inquiry, standard, page, short⟩ | ⟨reportLuns, short⟩
  · have answered : answerCdb device srb cdb =
        withDataBuffer srb (wnbdInquiry device srb.dataTransferLength cdb) := by
      rw [answerCdb, inquiry]
      rfl
    rw [answered, withDataBuffer, buffered, wnbdInquiry, standard, page] at bounds
    have inside := bounds.writes ⟨.write, ⟨0, inquiryDataBufferSize⟩⟩
      (List.mem_cons_of_mem _ List.mem_cons_self) rfl
    simp only [Region.stop] at inside
    omega
  · have answered : answerCdb device srb cdb =
        withDataBuffer srb (wnbdReportLuns srb.dataTransferLength) := by
      rw [answerCdb, reportLuns]
      rfl
    rw [answered, withDataBuffer, buffered] at bounds
    have small : 16 ≤ srb.dataTransferLength.toNat :=
      UInt32.le_iff_toNat_le.mp (bounds.reported rfl)
    rw [lunListSize] at short
    omega

/-- Every reply that is not queued stays inside the data buffer of its SRB, except for
standard inquiry data and a LUN list in a buffer that is too short for them. -/
theorem synchronous_in_bounds_iff (device : ScsiDevice) (srb : Srb) :
    InBounds srb (wnbdHandleSrbOperation device srb) ↔
      ¬ (device.hardRemoveDevice = false ∧ srb.dataBuffer.isSome ∧
        ∃ cdb, srb.cdb = some cdb ∧ Overruns srb cdb) := by
  rw [wnbdHandleSrbOperation]
  cases found : srb.cdb with
  | none =>
      refine iff_of_true (withoutData_inBounds srb _) ?_
      rintro ⟨_, _, cdb, isCdb, _⟩
      cases isCdb
  | some cdb =>
      cases removed : device.hardRemoveDevice with
      | true =>
          refine iff_of_true (withoutData_inBounds srb _) ?_
          rintro ⟨present, _⟩
          cases present
      | false =>
          constructor
          · rintro bounds ⟨_, hasBuffer, other, same, overruns⟩
            cases same
            exact answerCdb_overruns device srb cdb hasBuffer overruns bounds
          · intro room
            refine answerCdb_inBounds device srb cdb fun hasBuffer overruns => ?_
            exact room ⟨rfl, hasBuffer, cdb, rfl, overruns⟩

def shortInquiry : Srb :=
  { bareSrb #v[scsiopInquiry, 0, 0, 0, 5, 0, 0, 0, 0, 0, 0, 0, 0, 0, 0, 0] with
    dataTransferLength := 5
    dataBuffer := some fun _ => 0 }

def emptyDevice : ScsiDevice := ⟨fun _ => 0, fun _ => 0, false⟩

/-- 36 bytes are written to a buffer of five, and reported. -/
theorem shortInquiry_overruns :
    ⟨.write, ⟨0, 36⟩⟩ ∈ (wnbdHandleSrbOperation emptyDevice shortInquiry).accesses ∧
      (wnbdHandleSrbOperation emptyDevice shortInquiry).srb.srbStatus = srbStatusSuccess ∧
      (wnbdHandleSrbOperation emptyDevice shortInquiry).srb.dataTransferLength = 36 ∧
      ¬ InBounds shortInquiry (wnbdHandleSrbOperation emptyDevice shortInquiry) := by
  refine ⟨?_, ?_, ?_, fun bounds => ?_⟩
  · decide +kernel
  · decide +kernel
  · decide +kernel
  · have reported := bounds.reported (by decide +kernel)
    revert reported
    decide +kernel

end Wnbd.Scsi
