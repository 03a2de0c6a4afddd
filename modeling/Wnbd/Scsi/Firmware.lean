import Wnbd.Foundation.TracedBuffer
import Wnbd.Ioctl.Layout
import Wnbd.Scsi.Srb

/-!
# Firmware requests

`WnbdFirmareIOCTL` and `WnbdFirmwareInfo` on the data buffer of the SRB: an
`SRB_IO_CONTROL`, a `FIRMWARE_REQUEST_BLOCK` behind it, and the place for the
firmware information that the request block names by offset and length.
`firmware_ioctl_in_bounds` is about every offset and length and every buffer.
-/

set_option autoImplicit false

namespace Wnbd.Scsi

open CLayout CLayout.Region TracedBuffer

/-! ## Layout -/

def uchar : CType := Ioctl.byte
def ulong : CType := Ioctl.uint32

/-- `HeaderLength`, `Signature`, `Timeout`, `ControlCode`, `ReturnCode`, `Length`. -/
def srbIoControlFields : List CType := [ulong, array uchar 8, ulong, ulong, ulong, ulong]

def srbIoControl : CType := record srbIoControlFields

/-- `Version`, `Size`, `Function`, `Flags`, `DataBufferOffset`, `DataBufferLength`. -/
def firmwareRequestBlockFields : List CType := [ulong, ulong, ulong, ulong, ulong, ulong]

def firmwareRequestBlock : CType := record firmwareRequestBlockFields

/-- `SlotNumber`, `ReadOnly`, `Reserved`, `Revision`. -/
def storageFirmwareSlotInfoV2Fields : List CType := [uchar, uchar, array uchar 6, array uchar 16]

def storageFirmwareSlotInfoV2 : CType := record storageFirmwareSlotInfoV2Fields

/-- `Version`, `Size`, `UpgradeSupport`, `SlotCount`, `ActiveSlot`,
`PendingActivateSlot`, `FirmwareShared`, `Reserved`, `ImagePayloadAlignment`,
`ImagePayloadMaxSize`, and `Slot`, an array of no declared element. -/
def storageFirmwareInfoV2Fields : List CType :=
  [ulong, ulong, uchar, uchar, uchar, uchar, uchar, array uchar 3, ulong, ulong,
    array storageFirmwareSlotInfoV2 0]

def storageFirmwareInfoV2 : CType := record storageFirmwareInfoV2Fields

def srbControlField (index : Nat) : Region := (whole srbIoControl).field srbIoControlFields index

/-- `SrbControl + 1`. -/
def firmwareRequest : Region := ⟨srbIoControl.size, firmwareRequestBlock.size⟩

def firmwareRequestField (index : Nat) : Region :=
  firmwareRequest.field firmwareRequestBlockFields index

def returnCode : Region := srbControlField 4

def dataBufferOffset : Region := firmwareRequestField 4

def dataBufferLength : Region := firmwareRequestField 5

/-- Both headers. -/
def firmwareHeaders : Region := ⟨0, srbIoControl.size + firmwareRequestBlock.size⟩

/-- The information at this offset. -/
def firmwareInfo (offset : Nat) : Region := ⟨offset, storageFirmwareInfoV2.size⟩

def firmwareInfoField (offset index : Nat) : Region :=
  (firmwareInfo offset).field storageFirmwareInfoV2Fields index

/-- `Info->Slot[0]`. -/
def firmwareSlot (offset : Nat) : Region :=
  (firmwareInfoField offset 10).element storageFirmwareSlotInfoV2 0

def firmwareSlotField (offset index : Nat) : Region :=
  (firmwareSlot offset).field storageFirmwareSlotInfoV2Fields index

/-! ## Constants -/

def firmwareStatusSuccess : Nat := 0
def firmwareStatusInvalidParameter : Nat := 3
def firmwareStatusOutputBufferTooSmall : Nat := 5

def firmwareRequestBlockStructureVersion : Nat := 1
def firmwareFunctionGetInfo : Nat := 1

def storageFirmwareInfoStructureVersionV2 : Nat := 2
def storageFirmwareInfoInvalidSlot : Nat := 0xFF

def srbStatusBadSrbBlockLength : UInt8 := 0x15

/-- The digits that are copied into `Revision`. -/
def firmwareRevision : List UInt8 := [0x30, 0x31, 0x32, 0x33, 0x34, 0x35, 0x36, 0x37]

/-! ## The two functions -/

/-- The exit for a bad request: a return code and the SRB status. -/
def rejectFirmware : Traced UInt8 := do
  storeNat returnCode firmwareStatusInvalidParameter
  pure srbStatusBadSrbBlockLength

/-- `Version` differs, or else `Size` is too small. -/
def badFirmwareInfo (offset : Nat) : Traced Bool := do
  let version ← loadNat .read (firmwareInfoField offset 0)
  if version ≠ storageFirmwareInfoStructureVersionV2 then pure true
  else do
    let size ← loadNat .read (firmwareInfoField offset 1)
    pure (decide (storageFirmwareInfoV2.size > size))

/-- The fields of the answer behind `RtlZeroMemory`. -/
def storeFirmwareInfo (offset : Nat) : Traced Unit := do
  storeNat (firmwareInfoField offset 0) storageFirmwareInfoStructureVersionV2
  storeNat (firmwareInfoField offset 1) storageFirmwareInfoV2.size
  storeNat (firmwareInfoField offset 2) 1
  storeNat (firmwareInfoField offset 3) 1
  storeNat (firmwareInfoField offset 4) 0
  storeNat (firmwareInfoField offset 5) storageFirmwareInfoInvalidSlot
  storeNat (firmwareInfoField offset 6) 0
  storeNat (firmwareInfoField offset 8) 4096
  storeNat (firmwareInfoField offset 9) 8096

def storeFirmwareSlot (offset : Nat) : Traced Unit := do
  storeNat (firmwareSlotField offset 0) 0
  storeNat (firmwareSlotField offset 1) 0
  storeBytes ⟨(firmwareSlotField offset 3).offset, 8⟩ fun index => firmwareRevision.getD index 0

/-- The end of `WnbdFirmwareInfo`: a slot where there is room for one. -/
def finishFirmwareInfo (offset : Nat) : Traced UInt8 := do
  let length ← loadNat .read dataBufferLength
  if storageFirmwareInfoV2.size + storageFirmwareSlotInfoV2.size ≤ length then do
    storeFirmwareSlot offset
    storeNat returnCode firmwareStatusSuccess
    pure srbStatusSuccess
  else do
    storeNat dataBufferLength (storageFirmwareInfoV2.size + storageFirmwareSlotInfoV2.size)
    storeNat returnCode firmwareStatusOutputBufferTooSmall
    pure srbStatusSuccess

def wnbdFirmwareInfo : Traced UInt8 := do
  let length ← loadNat .read dataBufferLength
  if storageFirmwareInfoV2.size > length then rejectFirmware
  else do
    let offset ← loadNat .read dataBufferOffset
    let bad ← badFirmwareInfo offset
    if bad then rejectFirmware
    else do
      let length ← loadNat .read dataBufferLength
      zeroMemory ⟨offset, length⟩
      storeFirmwareInfo offset
      finishFirmwareInfo offset

/-- `ALIGN_UP(sizeof(SRB_IO_CONTROL) + sizeof(FIRMWARE_REQUEST_BLOCK), PVOID)`. -/
def firmwareDataStart : Nat := alignUp firmwareHeaders.length 8

/-- The switch over `Function`. -/
def dispatchFirmware : Traced UInt8 := do
  let function ← loadNat .read (firmwareRequestField 2)
  if function = firmwareFunctionGetInfo then wnbdFirmwareInfo
  else do
    storeNat returnCode firmwareStatusSuccess
    pure srbStatusSuccess

def wnbdFirmareIoctl (bufferLength : UInt32) : Traced UInt8 :=
  if firmwareHeaders.length > bufferLength.toNat then pure srbStatusBadSrbBlockLength
  else do
    let offset ← loadNat .read dataBufferOffset
    let length ← loadNat .read dataBufferLength
    if offset + length > bufferLength.toNat then rejectFirmware
    else do
      let version ← loadNat .read (firmwareRequestField 0)
      if firmwareRequestBlockStructureVersion > version then rejectFirmware
      else do
        let offset ← loadNat .read dataBufferOffset
        if firmwareDataStart > offset then rejectFirmware
        else dispatchFirmware

/-! ## What the functions touch -/

/-- A place of the headers that may change. -/
def Reported (place : Nat) : Prop :=
  (returnCode.offset ≤ place ∧ place < returnCode.stop) ∨
    (dataBufferLength.offset ≤ place ∧ place < dataBufferLength.stop)

/-- The headers as they came, except for `ReturnCode`. -/
def HeadersKept (before memory : Memory) : Prop :=
  ∀ place, place < firmwareHeaders.stop → ¬ (returnCode.offset ≤ place ∧ place < returnCode.stop) →
    memory place = before place

/-- The headers as they came, except for the two fields that report. -/
def HeadersReported (before memory : Memory) : Prop :=
  ∀ place, place < firmwareHeaders.stop → ¬ Reported place → memory place = before place

/-- Accesses inside the data buffer. -/
def InBuffer (bufferLength : Nat) (access : Access) : Prop := access.region.stop ≤ bufferLength

theorem HeadersKept.reported {before memory : Memory} (kept : HeadersKept before memory) :
    HeadersReported before memory :=
  fun place inside other => kept place inside fun code => other (Or.inl code)

theorem HeadersKept.natAt {before memory : Memory} (kept : HeadersKept before memory)
    (region : Region) (inside : region.stop ≤ firmwareHeaders.stop)
    (apart : region.stop ≤ returnCode.offset ∨ returnCode.stop ≤ region.offset) :
    natAt memory region = TracedBuffer.natAt before region := by
  refine natAt_congr region fun place low high => kept place (by omega) ?_
  omega

theorem HeadersKept.store {before memory : Memory} (kept : HeadersKept before memory)
    (region : Region) (bytes : Nat → UInt8)
    (elsewhere : firmwareHeaders.stop ≤ region.offset ∨ region = returnCode) :
    HeadersKept before (store memory region bytes) := by
  intro place inside other
  rw [TracedBuffer.store, if_neg]
  · exact kept place inside other
  · rcases elsewhere with behind | rfl
    · omega
    · exact other

theorem HeadersReported.store {before memory : Memory} (kept : HeadersReported before memory)
    (region : Region) (bytes : Nat → UInt8)
    (elsewhere : region = returnCode ∨ region = dataBufferLength) :
    HeadersReported before (store memory region bytes) := by
  intro place inside other
  rw [TracedBuffer.store, if_neg]
  · exact kept place inside other
  · rcases elsewhere with rfl | rfl
    · exact fun code => other (Or.inl code)
    · exact fun length => other (Or.inr length)

section Runs

variable {before : Memory} {bufferLength : Nat} (large : firmwareHeaders.stop ≤ bufferLength)

include large

/-- A header field that the driver reads still is what came in. -/
theorem loadHeader_triple (index : Nat)
    (inside : Inside (firmwareRequestField index) firmwareRequest) :
    Triple (InBuffer bufferLength) (HeadersKept before) (loadNat .read (firmwareRequestField index))
      fun value memory => HeadersKept before memory ∧
        value = natAt before (firmwareRequestField index) := by
  have stop : (firmwareRequestField index).stop ≤ firmwareHeaders.stop := inside.2
  refine (Triple.loadNat (Nat.le_trans stop large)).weaken (fun _ kept => kept) ?_
  rintro value memory ⟨kept, read⟩
  have behind : returnCode.stop ≤ firmwareRequest.offset := by decide
  exact ⟨kept, read.trans (kept.natAt _ stop (Or.inr (Nat.le_trans behind inside.1)))⟩

theorem rejectFirmware_triple :
    Triple (InBuffer bufferLength) (HeadersKept before) rejectFirmware
      fun _ => HeadersReported before := by
  refine Triple.bind (fun _ => HeadersKept before) (Triple.storeNat ?_ fun memory kept =>
    kept.store _ _ (Or.inr rfl)) fun _ => Triple.pure fun _ kept => kept.reported
  exact Nat.le_trans (by decide : returnCode.stop ≤ firmwareHeaders.stop) large

section Information

variable {offset length : Nat} (starts : firmwareHeaders.stop ≤ offset)
  (ends : offset + length ≤ bufferLength)

include starts ends

omit large in
theorem storeBehind_keeps (region : Region) (bytes : Nat → UInt8)
    (inside : Inside region ⟨offset, length⟩) :
    Keeps (InBuffer bufferLength) (HeadersKept before) (storeBytes region bytes) :=
  Keeps.storeBytes (Nat.le_trans inside.2 ends) fun _ kept =>
    kept.store region bytes (Or.inl (Nat.le_trans starts inside.1))

section Sized

variable (sized : storageFirmwareInfoV2.size ≤ length)

include sized

omit large starts ends in
theorem infoField_inside (index : Nat) (bound : index < storageFirmwareInfoV2Fields.length) :
    Inside (firmwareInfoField offset index) ⟨offset, length⟩ :=
  (field_inside (firmwareInfo offset) _ index bound (Nat.le_refl _)).trans
    ⟨Nat.le_refl _, Nat.add_le_add_left sized offset⟩

omit large in
theorem storeInfoField_keeps (index value : Nat)
    (bound : index < storageFirmwareInfoV2Fields.length) :
    Keeps (InBuffer bufferLength) (HeadersKept before)
      (storeNat (firmwareInfoField offset index) value) :=
  storeBehind_keeps starts ends _ _ (infoField_inside sized index bound)

omit large in
theorem storeFirmwareInfo_keeps :
    Keeps (InBuffer bufferLength) (HeadersKept before) (storeFirmwareInfo offset) := by
  refine Keeps.bind (storeInfoField_keeps starts ends sized 0 _ (by decide)) fun _ => ?_
  refine Keeps.bind (storeInfoField_keeps starts ends sized 1 _ (by decide)) fun _ => ?_
  refine Keeps.bind (storeInfoField_keeps starts ends sized 2 _ (by decide)) fun _ => ?_
  refine Keeps.bind (storeInfoField_keeps starts ends sized 3 _ (by decide)) fun _ => ?_
  refine Keeps.bind (storeInfoField_keeps starts ends sized 4 _ (by decide)) fun _ => ?_
  refine Keeps.bind (storeInfoField_keeps starts ends sized 5 _ (by decide)) fun _ => ?_
  refine Keeps.bind (storeInfoField_keeps starts ends sized 6 _ (by decide)) fun _ => ?_
  refine Keeps.bind (storeInfoField_keeps starts ends sized 8 _ (by decide)) fun _ => ?_
  exact storeInfoField_keeps starts ends sized 9 _ (by decide)

omit large starts in
theorem badFirmwareInfo_keeps :
    Keeps (InBuffer bufferLength) (HeadersKept before) (badFirmwareInfo offset) := by
  refine Keeps.bind (Keeps.loadNat ?_) fun version => ?_
  · exact Nat.le_trans (infoField_inside sized 0 (by decide)).2 ends
  refine Triple.ite (fun _ => Keeps.pure _) fun _ => ?_
  refine Keeps.bind (Keeps.loadNat ?_) fun size => Keeps.pure _
  exact Nat.le_trans (infoField_inside sized 1 (by decide)).2 ends

end Sized

omit large in
/-- The slot is stored only where it fits behind the information. -/
theorem storeFirmwareSlot_keeps
    (room : storageFirmwareInfoV2.size + storageFirmwareSlotInfoV2.size ≤ length) :
    Keeps (InBuffer bufferLength) (HeadersKept before) (storeFirmwareSlot offset) := by
  have slotInside : Inside (firmwareSlot offset) ⟨offset, length⟩ := by
    have behind : (firmwareSlot offset).offset = offset + storageFirmwareInfoV2.size := rfl
    have size : (firmwareSlot offset).length = storageFirmwareSlotInfoV2.size := rfl
    simp only [Inside, stop, behind, size]
    omega
  have fieldInside : ∀ index, index < storageFirmwareSlotInfoV2Fields.length →
      Inside (firmwareSlotField offset index) ⟨offset, length⟩ := fun index bound =>
    (field_inside (firmwareSlot offset) _ index bound (Nat.le_refl _)).trans slotInside
  refine Keeps.bind (storeBehind_keeps starts ends _ _ (fieldInside 0 (by decide))) fun _ => ?_
  refine Keeps.bind (storeBehind_keeps starts ends _ _ (fieldInside 1 (by decide))) fun _ => ?_
  refine storeBehind_keeps starts ends _ _ (Inside.trans ?_ (fieldInside 3 (by decide)))
  exact ⟨Nat.le_refl _, Nat.add_le_add_left (by decide : 8 ≤ 16) _⟩

theorem finishFirmwareInfo_triple (named : length = natAt before dataBufferLength) :
    Triple (InBuffer bufferLength) (HeadersKept before) (finishFirmwareInfo offset)
      fun _ => HeadersReported before := by
  have code : returnCode.stop ≤ bufferLength :=
    Nat.le_trans (by decide : returnCode.stop ≤ firmwareHeaders.stop) large
  have reported : ∀ value, Keeps (InBuffer bufferLength) (HeadersReported before)
      (storeNat returnCode value) := fun value =>
    Keeps.storeNat code fun _ kept => kept.store _ _ (Or.inl rfl)
  refine Triple.bind _ (loadHeader_triple large 5 (by decide)) fun found => ?_
  refine Triple.assume fun same => ?_
  refine Triple.ite (fun room => ?_) fun _ => ?_
  · rw [same.trans named.symm] at room
    refine Keeps.bind (storeFirmwareSlot_keeps starts ends room) fun _ => ?_
    refine Triple.bind (fun _ => HeadersReported before) ?_ fun _ => Keeps.pure _
    exact (reported _).weaken (fun _ kept => kept.reported) fun _ _ kept => kept
  · refine Triple.bind (fun _ => HeadersReported before) (Triple.storeNat ?_ fun _ kept =>
      kept.reported.store _ _ (Or.inr rfl)) fun _ => Keeps.bind (reported _) fun _ => Keeps.pure _
    exact Nat.le_trans (by decide : dataBufferLength.stop ≤ firmwareHeaders.stop) large

theorem wnbdFirmwareInfo_triple (namedOffset : offset = natAt before dataBufferOffset)
    (namedLength : length = natAt before dataBufferLength) :
    Triple (InBuffer bufferLength) (HeadersKept before) wnbdFirmwareInfo
      fun _ => HeadersReported before := by
  refine Triple.bind _ (loadHeader_triple large 5 (by decide)) fun first => ?_
  refine Triple.assume fun sameFirst => ?_
  refine Triple.ite (fun _ => rejectFirmware_triple large) fun sized => ?_
  refine Triple.bind _ (loadHeader_triple large 4 (by decide)) fun place => ?_
  refine Triple.assume fun samePlace => ?_
  have atOffset : place = offset := samePlace.trans namedOffset.symm
  have fits : storageFirmwareInfoV2.size ≤ length := by
    rw [namedLength]
    exact sameFirst ▸ not_lt.mp sized
  subst atOffset
  refine Keeps.bind (badFirmwareInfo_keeps ends fits) fun bad => ?_
  refine Triple.ite (fun _ => rejectFirmware_triple large) fun _ => ?_
  refine Triple.bind _ (loadHeader_triple large 5 (by decide)) fun second => ?_
  refine Triple.assume fun sameSecond => ?_
  have whole : second = length := sameSecond.trans namedLength.symm
  subst whole
  refine Keeps.bind (storeBehind_keeps starts ends _ _ (Inside.refl _)) fun _ => ?_
  refine Keeps.bind (storeFirmwareInfo_keeps starts ends fits) fun _ => ?_
  exact finishFirmwareInfo_triple large starts ends namedLength

end Information

theorem dispatchFirmware_triple (starts : firmwareHeaders.stop ≤ natAt before dataBufferOffset)
    (ends : natAt before dataBufferOffset + natAt before dataBufferLength ≤ bufferLength) :
    Triple (InBuffer bufferLength) (HeadersKept before) dispatchFirmware
      fun _ => HeadersReported before := by
  refine Triple.bind _ (loadHeader_triple large 2 (by decide)) fun function => ?_
  refine Triple.assume fun _ => ?_
  refine Triple.ite (fun _ => wnbdFirmwareInfo_triple large starts ends rfl rfl) fun _ => ?_
  refine Triple.bind (fun _ => HeadersReported before) (Triple.storeNat ?_ fun _ kept =>
    kept.reported.store _ _ (Or.inl rfl)) fun _ => Keeps.pure _
  exact Nat.le_trans (by decide : returnCode.stop ≤ firmwareHeaders.stop) large

end Runs

/-- The checks of both functions together, for every buffer, length, and request. -/
theorem wnbdFirmareIoctl_triple (bufferLength : UInt32) (before : Memory) :
    Triple (InBuffer bufferLength.toNat) (HeadersKept before) (wnbdFirmareIoctl bufferLength)
      fun _ => HeadersReported before := by
  refine Triple.ite (fun _ => Triple.pure fun _ kept => kept.reported) fun long => ?_
  have large : firmwareHeaders.stop ≤ bufferLength.toNat :=
    Nat.le_trans (by decide : firmwareHeaders.stop ≤ firmwareHeaders.length) (not_lt.mp long)
  refine Triple.bind _ (loadHeader_triple large 4 (by decide)) fun offset => ?_
  refine Triple.assume fun sameOffset => ?_
  refine Triple.bind _ (loadHeader_triple large 5 (by decide)) fun length => ?_
  refine Triple.assume fun sameLength => ?_
  refine Triple.ite (fun _ => rejectFirmware_triple large) fun ends => ?_
  refine Triple.bind _ (loadHeader_triple large 0 (by decide)) fun version => ?_
  refine Triple.assume fun _ => ?_
  refine Triple.ite (fun _ => rejectFirmware_triple large) fun _ => ?_
  refine Triple.bind _ (loadHeader_triple large 4 (by decide)) fun again => ?_
  refine Triple.assume fun sameAgain => ?_
  refine Triple.ite (fun _ => rejectFirmware_triple large) fun starts => ?_
  rw [sameOffset, sameLength] at ends
  rw [sameAgain] at starts
  exact dispatchFirmware_triple large
    (Nat.le_trans (by decide : firmwareHeaders.stop ≤ firmwareDataStart) (not_lt.mp starts))
    (not_lt.mp ends)

/-- Every access lies inside the data buffer, and of the two headers only `ReturnCode`
and `DataBufferLength` can change. -/
theorem firmware_ioctl_in_bounds (bufferLength : UInt32) (memory : Memory) :
    (∀ access ∈ (wnbdFirmareIoctl bufferLength memory).accesses,
      access.region.stop ≤ bufferLength.toNat) ∧
    ∀ place, place < firmwareHeaders.stop → ¬ Reported place →
      (wnbdFirmareIoctl bufferLength memory).memory place = memory place :=
  wnbdFirmareIoctl_triple bufferLength memory memory fun _ _ _ => rfl

end Wnbd.Scsi
