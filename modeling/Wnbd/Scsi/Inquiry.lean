import Wnbd.Ioctl.Irp
import Wnbd.Scsi.Capacity
import Wnbd.Scsi.Firmware

/-!
# INQUIRY

`WnbdInquiry` on the data buffer of the SRB: the standard data, and the pages of
vital product data that `WnbdProcessExtendedInquiry` builds.  A program runs on
the buffer and ends with the SRB status and the transfer length.
-/

set_option autoImplicit false

namespace Wnbd.Scsi

open CLayout CLayout.Region TracedBuffer Wnbd.Ioctl

/-! ## Devices and replies -/

/-- What the synchronous commands read of a `WNBD_DISK_DEVICE`. -/
structure ScsiDevice where
  /-- `Properties`, as the create command left them. -/
  properties : Memory
  inquiryData : Memory
  hardRemoveDevice : Bool

namespace ScsiDevice

variable (device : ScsiDevice)

def readOnly : Bool := flagSet device.properties 0
def flushSupported : Bool := flagSet device.properties 1
def fuaSupported : Bool := flagSet device.properties 2
def unmapSupported : Bool := flagSet device.properties 3
def naaIdSpecified : Bool := flagSet device.properties 7

/-- The characters of `SerialNumber` from an index on. -/
def serialNumber (index : Nat) : UInt8 := device.properties ((propertiesField 1).offset + index)

def naaIdentifier (index : Nat) : UInt8 := device.properties ((propertiesField 9).offset + index)

/-- `strlen(Properties.SerialNumber)`. -/
def serialLength : Nat :=
  terminatedLength device.properties byte.size wnbdMaxNameLength (propertiesField 1).offset

end ScsiDevice

/-- The status a command returns, and the transfer length it leaves in the SRB. -/
structure SyncReply where
  srbStatus : UInt8
  dataTransferLength : UInt32
deriving DecidableEq, Repr

def srbStatusDataOverrun : UInt8 := 0x12

/-! ## Pages -/

def vpdSupportedPages : Nat := 0x00
def vpdSerialNumber : Nat := 0x80
def vpdDeviceIdentifiers : Nat := 0x83
def vpdBlockLimits : Nat := 0xB0
def vpdBlockDeviceCharacteristics : Nat := 0xB1
def vpdLogicalBlockProvisioning : Nat := 0xB2

/-- The four bytes that every page begins with, and the sizes of the pages. -/
def vpdHeaderSize : Nat := 4
def vpdIdentificationDescriptorSize : Nat := 4
def vpdBlockLimitsSize : Nat := 64
def vpdLogicalBlockProvisioningSize : Nat := 8
def vpdBlockDeviceCharacteristicsSize : Nat := 64

/-- `DeviceType`, `DeviceTypeQualifier`, `PageCode` and the low byte of the page
length. -/
def storeVpdHeader (pageCode pageLength : Nat) : Traced Unit := do
  storeBits 0 0x1F 0
  storeBits 0 0xE0 0
  storeNat ⟨1, 1⟩ pageCode
  storeNat ⟨3, 1⟩ pageLength

/-- Bytes behind each other. -/
def storeListed : Nat → List Nat → Traced Unit
  | _, [] => pure ()
  | place, value :: rest => do
      storeNat ⟨place, 1⟩ value
      storeListed (place + 1) rest

/-- The pages that go into `SupportedPageList`. -/
def supportedPageList (device : ScsiDevice) : List Nat :=
  [vpdSupportedPages, vpdSerialNumber, vpdBlockLimits, vpdBlockDeviceCharacteristics,
    vpdLogicalBlockProvisioning] ++ if device.naaIdSpecified then [vpdDeviceIdentifiers] else []

def numberOfSupportedPages (device : ScsiDevice) : Nat := if device.naaIdSpecified then 6 else 5

def wnbdSetVpdSupportedPages (device : ScsiDevice) : Traced SyncReply := do
  storeVpdHeader vpdSupportedPages (numberOfSupportedPages device)
  storeListed vpdHeaderSize (supportedPageList device)
  pure ⟨srbStatusSuccess, UInt32.ofNat (vpdHeaderSize + numberOfSupportedPages device)⟩

/-- The high half of the first identifier byte says how long it is. -/
def naaIdSize (device : ScsiDevice) : Nat :=
  let naaType := (device.naaIdentifier 0 >>> 4) &&& 0xF
  if naaType = 0x2 ∨ naaType = 0x5 then 8 else wnbdNaaIdLength

def wnbdSetVpdDeviceIdentifier (device : ScsiDevice) (length : UInt32) : Traced SyncReply :=
  if !device.naaIdSpecified then pure ⟨srbStatusInvalidRequest, length⟩
  else
    let pageLength := vpdIdentificationDescriptorSize + naaIdSize device
    if length.toNat < vpdHeaderSize + pageLength then pure ⟨srbStatusDataOverrun, length⟩
    else do
      storeVpdHeader vpdDeviceIdentifiers pageLength
      storeBits 4 0x0F 1
      storeBits 5 0x0F 3
      storeBits 5 0x30 0
      storeNat ⟨7, 1⟩ (naaIdSize device)
      storeBytes ⟨8, naaIdSize device⟩ device.naaIdentifier
      pure ⟨srbStatusSuccess, UInt32.ofNat (vpdHeaderSize + pageLength)⟩

/-- `Size`, a UCHAR. -/
def serialSize (device : ScsiDevice) : Nat := (device.serialLength + 1) % 256

def wnbdSetVpdSerialNumber (device : ScsiDevice) (length : UInt32) : Traced SyncReply :=
  if length.toNat < vpdHeaderSize + serialSize device then pure ⟨srbStatusDataOverrun, length⟩
  else do
    storeVpdHeader vpdSerialNumber (serialSize device)
    storeBytes ⟨vpdHeaderSize, serialSize device⟩ device.serialNumber
    pure ⟨srbStatusSuccess, UInt32.ofNat (vpdHeaderSize + serialSize device)⟩

/-- The two limits of a device that takes UNMAP. -/
def storeUnmapLimits (device : ScsiDevice) (limits : VpdBlockLimitsPage) : Traced Unit :=
  if device.unmapSupported then do
    storeBytes ⟨20, 4⟩ (reverseBytes 4 limits.maximumUnmapLbaCount.toNat)
    storeBytes ⟨24, 4⟩ (reverseBytes 4 limits.maximumUnmapBlockDescriptorCount.toNat)
  else pure ()

/-- The stores of `WnbdSetVpdBlockLimits`. -/
def storeVpdBlockLimits (device : ScsiDevice) (maximumTransferLength : UInt32) :
    Traced SyncReply := do
  let limits := wnbdSetVpdBlockLimits (propertiesOf device.properties) maximumTransferLength
  storeVpdHeader vpdBlockLimits (vpdBlockLimitsSize - vpdHeaderSize)
  storeBytes ⟨8, 4⟩ (reverseBytes 4 limits.maximumTransferLength.toNat)
  storeUnmapLimits device limits
  pure ⟨srbStatusSuccess, UInt32.ofNat vpdBlockLimitsSize⟩

/-- `LBPU` and `ProvisioningType`. -/
def storeProvisioning (device : ScsiDevice) : Traced Unit :=
  if device.unmapSupported then do
    storeBits 5 0x80 0x80
    storeBits 6 0x07 2
  else pure ()

def wnbdSetVpdLogicalBlockProvisioning (device : ScsiDevice) : Traced SyncReply := do
  storeVpdHeader vpdLogicalBlockProvisioning (vpdLogicalBlockProvisioningSize - vpdHeaderSize)
  storeProvisioning device
  pure ⟨srbStatusSuccess, UInt32.ofNat vpdLogicalBlockProvisioningSize⟩

def wnbdSetVpdBlockDeviceCharacteristics (device : ScsiDevice) : Traced SyncReply := do
  storeVpdHeader vpdBlockDeviceCharacteristics 0x3C
  storeNat ⟨4, 1⟩ 0
  storeNat ⟨5, 1⟩ 0
  storeBits 7 0x0F 0
  storeBits 8 0x02 (if device.fuaSupported then 0x02 else 0)
  pure ⟨srbStatusSuccess, UInt32.ofNat vpdBlockDeviceCharacteristicsSize⟩

/-- The length check in front of a page of fixed size. -/
def withRoom (length : UInt32) (size : Nat) (page : Traced SyncReply) : Traced SyncReply :=
  if size > length.toNat then pure ⟨srbStatusDataOverrun, length⟩ else page

def wnbdProcessExtendedInquiry (device : ScsiDevice) (length : UInt32) (pageCode : Nat) :
    Traced SyncReply :=
  if pageCode = vpdSupportedPages then
    withRoom length (vpdHeaderSize + numberOfSupportedPages device)
      (wnbdSetVpdSupportedPages device)
  else if pageCode = vpdSerialNumber then wnbdSetVpdSerialNumber device length
  else if pageCode = vpdBlockLimits then
    withRoom length vpdBlockLimitsSize
      (storeVpdBlockLimits device wnbdDefaultMaxTransferLength)
  else if pageCode = vpdLogicalBlockProvisioning then
    withRoom length vpdLogicalBlockProvisioningSize (wnbdSetVpdLogicalBlockProvisioning device)
  else if pageCode = vpdBlockDeviceCharacteristics then
    withRoom length vpdBlockDeviceCharacteristicsSize
      (wnbdSetVpdBlockDeviceCharacteristics device)
  else if pageCode = vpdDeviceIdentifiers then wnbdSetVpdDeviceIdentifier device length
  -- An unknown page is only logged.
  else pure ⟨srbStatusSuccess, length⟩

/-! ## The command -/

def inquiryDataBufferSize : Nat := 36

def Cdb.enableVitalProductData (cdb : Cdb) : Bool := cdb.asByte 1 &&& 1 ≠ 0

def Cdb.inquiryPageCode (cdb : Cdb) : Nat := (cdb.asByte 2).toNat

/-- `WnbdInquiry` on a data buffer. -/
def wnbdInquiry (device : ScsiDevice) (length : UInt32) (cdb : Cdb) : Traced SyncReply := do
  zeroMemory ⟨0, length.toNat⟩
  if cdb.enableVitalProductData then
    wnbdProcessExtendedInquiry device length cdb.inquiryPageCode
  else if cdb.inquiryPageCode ≠ 0 then pure ⟨srbStatusInternalError, length⟩
  else do
    storeBytes ⟨0, inquiryDataBufferSize⟩ device.inquiryData
    pure ⟨srbStatusSuccess, UInt32.ofNat inquiryDataBufferSize⟩

/-! ## Room in the buffer -/

/-- The program stays inside a buffer of this length, and so does the length it
reports. -/
abbrev Fits (length : UInt32) (program : Traced SyncReply) : Prop :=
  Triple (InBuffer length.toNat) (fun _ => True) program fun reply _ =>
    reply.dataTransferLength ≤ length

/-- The program stays inside a buffer of this length. -/
abbrev Writes (length : UInt32) (program : Traced Unit) : Prop :=
  Keeps (InBuffer length.toNat) (fun _ => True) program

section Room

variable {length : UInt32}

theorem Fits.pure (srbStatus : UInt8) {reported : UInt32} (small : reported ≤ length) :
    Fits length (pure ⟨srbStatus, reported⟩) :=
  Triple.pure fun _ _ => small

theorem Fits.bind {program : Traced Unit} {next : Unit → Traced SyncReply}
    (first : Writes length program) (second : ∀ value, Fits length (next value)) :
    Fits length (program >>= next) :=
  Keeps.bind first second

theorem Writes.bind {program : Traced Unit} {next : Unit → Traced Unit}
    (first : Writes length program) (second : ∀ value, Writes length (next value)) :
    Writes length (program >>= next) :=
  Keeps.bind first second

theorem Writes.storeNat {region : Region} {value : Nat} (inside : region.stop ≤ length.toNat) :
    Writes length (storeNat region value) :=
  Keeps.storeNat inside fun _ _ => trivial

theorem Writes.storeBytes {region : Region} {bytes : Nat → UInt8}
    (inside : region.stop ≤ length.toNat) : Writes length (storeBytes region bytes) :=
  Keeps.storeBytes inside fun _ _ => trivial

theorem Writes.storeBits {place : Nat} {mask value : UInt8} (inside : place + 1 ≤ length.toNat) :
    Writes length (storeBits place mask value) :=
  Keeps.storeBits inside inside fun _ _ _ => trivial

theorem Writes.storeListed {place : Nat} {values : List Nat}
    (inside : place + values.length ≤ length.toNat) : Writes length (storeListed place values) := by
  induction values generalizing place with
  | nil => exact Keeps.pure ()
  | cons value rest hypothesis =>
      rw [List.length_cons] at inside
      refine Writes.bind (Writes.storeNat ?_) fun _ => hypothesis (by omega)
      simp only [Region.stop]
      omega

theorem Writes.storeVpdHeader {pageCode pageLength : Nat} (inside : vpdHeaderSize ≤ length.toNat) :
    Writes length (storeVpdHeader pageCode pageLength) := by
  rw [vpdHeaderSize] at inside
  refine Writes.bind (Writes.storeBits (by omega)) fun _ => ?_
  refine Writes.bind (Writes.storeBits (by omega)) fun _ => ?_
  exact Writes.bind (Writes.storeNat (by simp only [Region.stop]; omega)) fun _ =>
    Writes.storeNat (by simp only [Region.stop]; omega)

theorem ofNat_le_length {size : Nat} (room : size ≤ length.toNat) : UInt32.ofNat size ≤ length := by
  have small : size < 2 ^ 32 := Nat.lt_of_le_of_lt room length.toNat_lt
  rw [UInt32.le_iff_toNat_le, UInt32.toNat_ofNat_of_lt' small]
  exact room

theorem Fits.withRoom {size : Nat} {page : Traced SyncReply}
    (fits : size ≤ length.toNat → Fits length page) : Fits length (withRoom length size page) :=
  Triple.ite (fun _ => Fits.pure _ (UInt32.le_refl length)) fun room => fits (Nat.not_lt.mp room)

end Room

section Pages

variable (device : ScsiDevice) {length : UInt32}

theorem supportedPageList_length :
    (supportedPageList device).length = numberOfSupportedPages device := by
  rw [supportedPageList, numberOfSupportedPages]
  split
  · rfl
  · rfl

theorem naaIdSize_le : naaIdSize device ≤ wnbdNaaIdLength := by
  rw [naaIdSize]
  split
  · decide
  · exact Nat.le_refl _

theorem wnbdSetVpdSupportedPages_fits
    (room : vpdHeaderSize + numberOfSupportedPages device ≤ length.toNat) :
    Fits length (wnbdSetVpdSupportedPages device) := by
  refine Fits.bind (Writes.storeVpdHeader (by omega)) fun _ => ?_
  refine Fits.bind (Writes.storeListed ?_) fun _ =>
    Fits.pure _ (ofNat_le_length room)
  rw [supportedPageList_length]
  exact room

theorem wnbdSetVpdDeviceIdentifier_fits :
    Fits length (wnbdSetVpdDeviceIdentifier device length) := by
  refine Triple.ite (fun _ => Fits.pure _ (UInt32.le_refl length)) fun _ => ?_
  refine Triple.ite (fun _ => Fits.pure _ (UInt32.le_refl length)) fun enough => ?_
  have room := Nat.not_lt.mp enough
  have sizes := room
  simp only [vpdHeaderSize, vpdIdentificationDescriptorSize] at sizes
  refine Fits.bind (Writes.storeVpdHeader (by simp only [vpdHeaderSize]; omega)) fun _ => ?_
  refine Fits.bind (Writes.storeBits (by omega)) fun _ => ?_
  refine Fits.bind (Writes.storeBits (by omega)) fun _ => ?_
  refine Fits.bind (Writes.storeBits (by omega)) fun _ => ?_
  refine Fits.bind (Writes.storeNat (by simp only [Region.stop]; omega)) fun _ => ?_
  refine Fits.bind (Writes.storeBytes (by simp only [Region.stop]; omega)) fun _ => ?_
  exact Fits.pure _ (ofNat_le_length room)

theorem wnbdSetVpdSerialNumber_fits : Fits length (wnbdSetVpdSerialNumber device length) := by
  refine Triple.ite (fun _ => Fits.pure _ (UInt32.le_refl length)) fun enough => ?_
  have room := Nat.not_lt.mp enough
  refine Fits.bind (Writes.storeVpdHeader (by omega)) fun _ => ?_
  exact Fits.bind (Writes.storeBytes room) fun _ =>
    Fits.pure _ (ofNat_le_length room)

theorem storeVpdBlockLimits_fits (maximumTransferLength : UInt32)
    (room : vpdBlockLimitsSize ≤ length.toNat) :
    Fits length (storeVpdBlockLimits device maximumTransferLength) := by
  have sizes := room
  simp only [vpdBlockLimitsSize] at sizes
  refine Fits.bind (Writes.storeVpdHeader (by simp only [vpdHeaderSize]; omega)) fun _ => ?_
  refine Fits.bind (Writes.storeBytes (by simp only [Region.stop]; omega)) fun _ => ?_
  refine Fits.bind ?_ fun _ =>
    Fits.pure _ (ofNat_le_length room)
  refine Triple.ite (fun _ => ?_) fun _ => Keeps.pure ()
  exact Writes.bind (Writes.storeBytes (by simp only [Region.stop]; omega)) fun _ =>
    Writes.storeBytes (by simp only [Region.stop]; omega)

theorem wnbdSetVpdLogicalBlockProvisioning_fits
    (room : vpdLogicalBlockProvisioningSize ≤ length.toNat) :
    Fits length (wnbdSetVpdLogicalBlockProvisioning device) := by
  have sizes := room
  simp only [vpdLogicalBlockProvisioningSize] at sizes
  refine Fits.bind (Writes.storeVpdHeader (by simp only [vpdHeaderSize]; omega)) fun _ => ?_
  refine Fits.bind ?_ fun _ =>
    Fits.pure _ (ofNat_le_length room)
  refine Triple.ite (fun _ => ?_) fun _ => Keeps.pure ()
  exact Writes.bind (Writes.storeBits (by omega)) fun _ => Writes.storeBits (by omega)

theorem wnbdSetVpdBlockDeviceCharacteristics_fits
    (room : vpdBlockDeviceCharacteristicsSize ≤ length.toNat) :
    Fits length (wnbdSetVpdBlockDeviceCharacteristics device) := by
  have sizes := room
  simp only [vpdBlockDeviceCharacteristicsSize] at sizes
  refine Fits.bind (Writes.storeVpdHeader (by simp only [vpdHeaderSize]; omega)) fun _ => ?_
  refine Fits.bind (Writes.storeNat (by simp only [Region.stop]; omega)) fun _ => ?_
  refine Fits.bind (Writes.storeNat (by simp only [Region.stop]; omega)) fun _ => ?_
  refine Fits.bind (Writes.storeBits (by omega)) fun _ => ?_
  exact Fits.bind (Writes.storeBits (by omega)) fun _ =>
    Fits.pure _ (ofNat_le_length room)

/-- No page is written past the end of the buffer. -/
theorem wnbdProcessExtendedInquiry_fits (pageCode : Nat) :
    Fits length (wnbdProcessExtendedInquiry device length pageCode) := by
  refine Triple.ite (fun _ => Fits.withRoom fun room => wnbdSetVpdSupportedPages_fits device room)
    fun _ => ?_
  refine Triple.ite (fun _ => wnbdSetVpdSerialNumber_fits device) fun _ => ?_
  refine Triple.ite (fun _ => Fits.withRoom fun room => storeVpdBlockLimits_fits device _ room)
    fun _ => ?_
  refine Triple.ite (fun _ => Fits.withRoom fun room =>
    wnbdSetVpdLogicalBlockProvisioning_fits device room) fun _ => ?_
  refine Triple.ite (fun _ => Fits.withRoom fun room =>
    wnbdSetVpdBlockDeviceCharacteristics_fits device room) fun _ => ?_
  refine Triple.ite (fun _ => wnbdSetVpdDeviceIdentifier_fits device) fun _ => ?_
  exact Fits.pure _ (UInt32.le_refl length)

/-- The standard data needs the room that nothing checks. -/
theorem wnbdInquiry_fits (cdb : Cdb)
    (room : cdb.enableVitalProductData = false → cdb.inquiryPageCode = 0 →
      inquiryDataBufferSize ≤ length.toNat) :
    Fits length (wnbdInquiry device length cdb) := by
  refine Fits.bind (Writes.storeBytes (by simp only [Region.stop]; omega)) fun _ => ?_
  refine Triple.ite (fun _ => wnbdProcessExtendedInquiry_fits device _) fun standard => ?_
  refine Triple.ite (fun _ => Fits.pure _ (UInt32.le_refl length)) fun page => ?_
  have enough := room (Bool.eq_false_iff.mpr standard) (not_not.mp page)
  refine Fits.bind (Writes.storeBytes ?_) fun _ =>
    Fits.pure _ (ofNat_le_length enough)
  simp only [Region.stop]
  omega

end Pages

end Wnbd.Scsi
