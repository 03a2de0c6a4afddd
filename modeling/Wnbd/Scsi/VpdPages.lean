import Wnbd.Ioctl.Commands
import Wnbd.Scsi.SyncCommands

/-!
# Vital product data

What the pages say about a device that the create command made from a property
block.  `vpd_sound_iff` names the pages and the serial numbers that come out as
the property block has them.
-/

set_option autoImplicit false

namespace Wnbd.Scsi

open CLayout CLayout.Region TracedBuffer Wnbd.Ioctl

/-! ## Sound pages -/

/-- `WnbdProcessExtendedInquiry` on a buffer that `WnbdInquiry` has cleared. -/
def vpdOutcome (device : ScsiDevice) (length : UInt32) (pageCode : Nat) (buffer : Memory) :
    Outcome SyncReply :=
  wnbdProcessExtendedInquiry device length pageCode (store buffer ⟨0, length.toNat⟩ fun _ => 0)

/-- The big-endian page length in bytes two and three. -/
def declaredLength (page : Memory) : Nat := 256 * (page 2).toNat + (page 3).toNat

def payload (page : Memory) : List Nat :=
  (List.range (declaredLength page)).map fun index => (page (vpdHeaderSize + index)).toNat

/-- What the device answers for the page of supported pages. -/
def advertisedPages (device : ScsiDevice) : List Nat :=
  payload (vpdOutcome device 10 vpdSupportedPages fun _ => 0).memory

/-- A page that is advertised, names itself, is as long as it says and carries the
serial number. -/
structure PageSound (device : ScsiDevice) (serialNumber : List Nat) (pageCode : Nat)
    (outcome : Outcome SyncReply) : Prop where
  advertised : pageCode ∈ advertisedPages device
  named : (outcome.memory 1).toNat = pageCode
  sized : declaredLength outcome.memory + 4 = outcome.value.dataTransferLength.toNat
  serial : pageCode = vpdSerialNumber → payload outcome.memory = serialNumber ++ [0]

/-- A success means a sound page. -/
def VpdSound (device : ScsiDevice) (serialNumber : List Nat) (pageCode : Nat) (length : UInt32)
    (buffer : Memory) : Prop :=
  (vpdOutcome device length pageCode buffer).value.srbStatus = srbStatusSuccess →
    PageSound device serialNumber pageCode (vpdOutcome device length pageCode buffer)

/-! ## Pages and their headers -/

/-- The header of a page, complete up to the page itself. -/
structure HeaderAt (pageCode pageLength : Nat) (memory : Memory) : Prop where
  code : (memory 1).toNat = pageCode
  high : memory 2 = 0
  low : (memory 3).toNat = pageLength

theorem HeaderAt.declaredLength {pageCode pageLength : Nat} {memory : Memory}
    (header : HeaderAt pageCode pageLength memory) : declaredLength memory = pageLength := by
  rw [Scsi.declaredLength, header.high, header.low]
  exact Nat.zero_add _

theorem store_behind (memory : Memory) {region : Region} (bytes : Nat → UInt8) {place : Nat}
    (behind : place < region.offset) : store memory region bytes place = memory place := by
  rw [store, if_neg]
  omega

theorem HeaderAt.store {pageCode pageLength : Nat} {memory : Memory}
    (header : HeaderAt pageCode pageLength memory) {region : Region} (bytes : Nat → UInt8)
    (behind : vpdHeaderSize ≤ region.offset) :
    HeaderAt pageCode pageLength (store memory region bytes) := by
  rw [vpdHeaderSize] at behind
  refine ⟨?_, ?_, ?_⟩
  · rw [store_behind _ _ (by omega)]
    exact header.code
  · rw [store_behind _ _ (by omega)]
    exact header.high
  · rw [store_behind _ _ (by omega)]
    exact header.low

/-- The program writes behind the header only. -/
abbrev Behind (pageCode pageLength : Nat) (program : Traced Unit) : Prop :=
  Keeps (fun _ => True) (HeaderAt pageCode pageLength) program

section Behind

variable {pageCode pageLength : Nat}

theorem Behind.bind {program : Traced Unit} {next : Unit → Traced Unit}
    (first : Behind pageCode pageLength program)
    (second : ∀ value, Behind pageCode pageLength (next value)) :
    Behind pageCode pageLength (program >>= next) :=
  Keeps.bind first second

theorem Behind.storeBytes {region : Region} {bytes : Nat → UInt8}
    (behind : vpdHeaderSize ≤ region.offset) :
    Behind pageCode pageLength (storeBytes region bytes) :=
  Keeps.storeBytes trivial fun _ header => header.store bytes behind

theorem Behind.storeBits {place : Nat} {mask value : UInt8} (behind : vpdHeaderSize ≤ place) :
    Behind pageCode pageLength (storeBits place mask value) :=
  Keeps.storeBits trivial trivial fun _ bytes header => header.store bytes behind

theorem Behind.storeListed {place : Nat} {values : List Nat} (behind : vpdHeaderSize ≤ place) :
    Behind pageCode pageLength (storeListed place values) := by
  induction values generalizing place with
  | nil => exact Keeps.pure ()
  | cons value rest hypothesis =>
      exact Behind.bind (Behind.storeBytes behind) fun _ => hypothesis (by omega)

end Behind

/-- A buffer whose page length field is still clear. -/
def Cleared (memory : Memory) : Prop := memory 2 = 0

theorem cleared_buffer (length : UInt32) (buffer : Memory) (room : vpdHeaderSize ≤ length.toNat) :
    Cleared (store buffer ⟨0, length.toNat⟩ fun _ => 0) := by
  rw [vpdHeaderSize] at room
  rw [Cleared, store, if_pos]
  simp only [Region.stop]
  omega

theorem storeVpdHeader_triple {pageCode pageLength : Nat} (codeSmall : pageCode < 256)
    (lengthSmall : pageLength < 256) :
    Triple (fun _ => True) Cleared (storeVpdHeader pageCode pageLength)
      fun _ => HeaderAt pageCode pageLength := by
  have kept : ∀ {place : Nat} {mask value : UInt8}, place + 1 ≤ 2 →
      Keeps (fun _ => True) Cleared (storeBits place mask value) := by
    intro place mask value low
    refine Keeps.storeBits trivial trivial fun memory bytes cleared => ?_
    rw [Cleared, store, if_neg]
    · exact cleared
    · simp only [Region.stop]
      omega
  refine Keeps.bind (kept (by decide)) fun _ => Keeps.bind (kept (by decide)) fun _ => ?_
  refine Triple.bind (fun _ memory => (memory 1).toNat = pageCode ∧ memory 2 = 0)
    (Triple.storeNat trivial fun memory cleared => ⟨?_, ?_⟩) fun _ => ?_
  · simp [store, Region.stop, leBytes, Nat.mod_eq_of_lt codeSmall]
  · rw [store, if_neg (by simp [Region.stop])]
    exact cleared
  · refine Triple.storeNat trivial fun memory both => ⟨?_, ?_, ?_⟩
    · rw [store_behind _ _ (by decide)]
      exact both.1
    · rw [store_behind _ _ (by decide)]
      exact both.2
    · simp [store, Region.stop, leBytes, Nat.mod_eq_of_lt lengthSmall]

/-- The reply of a page with its header in front. -/
def PageReply (pageCode : Nat) (reply : SyncReply) (memory : Memory) : Prop :=
  reply.srbStatus = srbStatusSuccess → ∃ pageLength, HeaderAt pageCode pageLength memory ∧
    pageLength + 4 = reply.dataTransferLength.toNat

/-- The program leaves a page with this code in a buffer that is cleared as far as it
goes, or fails. -/
abbrev MakesPage (length : UInt32) (pageCode : Nat) (program : Traced SyncReply) : Prop :=
  Triple (fun _ => True) (fun memory => vpdHeaderSize ≤ length.toNat → Cleared memory) program
    (PageReply pageCode)

section MakesPage

variable {length : UInt32} {pageCode : Nat}

theorem MakesPage.fail {srbStatus : UInt8} (failed : srbStatus ≠ srbStatusSuccess) :
    MakesPage length pageCode (pure ⟨srbStatus, length⟩) :=
  Triple.pure fun _ _ success => absurd success failed

theorem MakesPage.withRoom {size : Nat} {page : Traced SyncReply}
    (makes : size ≤ length.toNat → MakesPage length pageCode page) :
    MakesPage length pageCode (withRoom length size page) :=
  Triple.ite (fun _ => MakesPage.fail (by decide)) fun room => makes (Nat.not_lt.mp room)

/-- The program goes on behind a complete header. -/
abbrev EndsPage (pageCode pageLength : Nat) (program : Traced SyncReply) : Prop :=
  Triple (fun _ => True) (HeaderAt pageCode pageLength) program (PageReply pageCode)

theorem MakesPage.header {pageLength : Nat} {rest : Unit → Traced SyncReply}
    (room : vpdHeaderSize ≤ length.toNat) (codeSmall : pageCode < 256)
    (lengthSmall : pageLength < 256)
    (ends : ∀ value, EndsPage pageCode pageLength (rest value)) :
    MakesPage length pageCode (storeVpdHeader pageCode pageLength >>= rest) :=
  Triple.bind (fun _ => HeaderAt pageCode pageLength)
    ((storeVpdHeader_triple codeSmall lengthSmall).weaken (fun _ cleared => cleared room)
      fun _ _ header => header) ends

theorem EndsPage.bind {pageLength : Nat} {program : Traced Unit} {next : Unit → Traced SyncReply}
    (behind : Behind pageCode pageLength program)
    (ends : ∀ value, EndsPage pageCode pageLength (next value)) :
    EndsPage pageCode pageLength (program >>= next) :=
  Keeps.bind behind ends

theorem EndsPage.pure {pageLength : Nat} (lengthSmall : pageLength < 256) :
    EndsPage pageCode pageLength
      (pure ⟨srbStatusSuccess, UInt32.ofNat (vpdHeaderSize + pageLength)⟩) := by
  refine Triple.pure fun _ header _ => ⟨pageLength, header, ?_⟩
  rw [vpdHeaderSize, UInt32.toNat_ofNat_of_lt' (by simp only [UInt32.size]; omega)]
  omega

end MakesPage

section Pages

variable (device : ScsiDevice) {length : UInt32}

theorem wnbdSetVpdSupportedPages_makesPage
    (room : vpdHeaderSize + numberOfSupportedPages device ≤ length.toNat) :
    MakesPage length vpdSupportedPages (wnbdSetVpdSupportedPages device) := by
  have small : numberOfSupportedPages device < 256 := by
    rw [numberOfSupportedPages]
    split
    · decide
    · decide
  refine MakesPage.header (by omega) (by decide) small fun _ => ?_
  exact EndsPage.bind (Behind.storeListed (Nat.le_refl _)) fun _ => EndsPage.pure small

theorem wnbdSetVpdSerialNumber_makesPage :
    MakesPage length vpdSerialNumber (wnbdSetVpdSerialNumber device length) := by
  have small : serialSize device < 256 := Nat.mod_lt _ (by decide)
  refine Triple.ite (fun _ => MakesPage.fail (by decide)) fun enough => ?_
  refine MakesPage.header (by omega) (by decide) small fun _ => ?_
  exact EndsPage.bind (Behind.storeBytes (Nat.le_refl _)) fun _ => EndsPage.pure small

theorem wnbdSetVpdDeviceIdentifier_makesPage :
    MakesPage length vpdDeviceIdentifiers (wnbdSetVpdDeviceIdentifier device length) := by
  have small : vpdIdentificationDescriptorSize + naaIdSize device < 256 :=
    Nat.lt_of_le_of_lt (Nat.add_le_add_left (naaIdSize_le device) _) (by decide)
  refine Triple.ite (fun _ => MakesPage.fail (by decide)) fun _ => ?_
  refine Triple.ite (fun _ => MakesPage.fail (by decide)) fun enough => ?_
  refine MakesPage.header (by omega) (by decide) small fun _ => ?_
  refine EndsPage.bind (Behind.storeBits (by decide)) fun _ => ?_
  refine EndsPage.bind (Behind.storeBits (by decide)) fun _ => ?_
  refine EndsPage.bind (Behind.storeBits (by decide)) fun _ => ?_
  refine EndsPage.bind (Behind.storeBytes (by decide)) fun _ => ?_
  refine EndsPage.bind (Behind.storeBytes ?_) fun _ => EndsPage.pure small
  exact Nat.le_add_left vpdHeaderSize 4

theorem storeVpdBlockLimits_makesPage (maximumTransferLength : UInt32)
    (room : vpdBlockLimitsSize ≤ length.toNat) :
    MakesPage length vpdBlockLimits (storeVpdBlockLimits device maximumTransferLength) := by
  refine MakesPage.header (Nat.le_trans (by decide) room) (by decide) (by decide) fun _ => ?_
  refine EndsPage.bind (Behind.storeBytes (by decide)) fun _ => ?_
  refine EndsPage.bind (Triple.ite (fun _ => ?_) fun _ => Keeps.pure ()) fun _ =>
    EndsPage.pure (by decide)
  exact Behind.bind (Behind.storeBytes (by decide)) fun _ => Behind.storeBytes (by decide)

theorem wnbdSetVpdLogicalBlockProvisioning_makesPage
    (room : vpdLogicalBlockProvisioningSize ≤ length.toNat) :
    MakesPage length vpdLogicalBlockProvisioning (wnbdSetVpdLogicalBlockProvisioning device) := by
  refine MakesPage.header (Nat.le_trans (by decide) room) (by decide) (by decide) fun _ => ?_
  refine EndsPage.bind (Triple.ite (fun _ => ?_) fun _ => Keeps.pure ()) fun _ =>
    EndsPage.pure (by decide)
  exact Behind.bind (Behind.storeBits (by decide)) fun _ => Behind.storeBits (by decide)

theorem wnbdSetVpdBlockDeviceCharacteristics_makesPage
    (room : vpdBlockDeviceCharacteristicsSize ≤ length.toNat) :
    MakesPage length vpdBlockDeviceCharacteristics (wnbdSetVpdBlockDeviceCharacteristics device) := by
  refine MakesPage.header (Nat.le_trans (by decide) room) (by decide) (by decide) fun _ => ?_
  refine EndsPage.bind (Behind.storeBytes (by decide)) fun _ => ?_
  refine EndsPage.bind (Behind.storeBytes (by decide)) fun _ => ?_
  refine EndsPage.bind (Behind.storeBits (by decide)) fun _ => ?_
  exact EndsPage.bind (Behind.storeBits (by decide)) fun _ => EndsPage.pure (by decide)

/-- The page codes of the switch. -/
def knownPages : List Nat :=
  [vpdSupportedPages, vpdSerialNumber, vpdBlockLimits, vpdLogicalBlockProvisioning,
    vpdBlockDeviceCharacteristics, vpdDeviceIdentifiers]

theorem wnbdProcessExtendedInquiry_makesPage {pageCode : Nat} (known : pageCode ∈ knownPages) :
    MakesPage length pageCode (wnbdProcessExtendedInquiry device length pageCode) := by
  simp only [knownPages, List.mem_cons, List.not_mem_nil, or_false] at known
  rcases known with rfl | rfl | rfl | rfl | rfl | rfl
  · rw [wnbdProcessExtendedInquiry, if_pos rfl]
    exact MakesPage.withRoom fun room => wnbdSetVpdSupportedPages_makesPage device room
  · rw [wnbdProcessExtendedInquiry, if_neg (by decide), if_pos rfl]
    exact wnbdSetVpdSerialNumber_makesPage device
  · rw [wnbdProcessExtendedInquiry, if_neg (by decide), if_neg (by decide), if_pos rfl]
    exact MakesPage.withRoom fun room => storeVpdBlockLimits_makesPage device _ room
  · rw [wnbdProcessExtendedInquiry, if_neg (by decide), if_neg (by decide), if_neg (by decide),
      if_pos rfl]
    exact MakesPage.withRoom fun room =>
      wnbdSetVpdLogicalBlockProvisioning_makesPage device room
  · rw [wnbdProcessExtendedInquiry, if_neg (by decide), if_neg (by decide), if_neg (by decide),
      if_neg (by decide), if_pos rfl]
    exact MakesPage.withRoom fun room =>
      wnbdSetVpdBlockDeviceCharacteristics_makesPage device room
  · rw [wnbdProcessExtendedInquiry, if_neg (by decide), if_neg (by decide), if_neg (by decide),
      if_neg (by decide), if_neg (by decide), if_pos rfl]
    exact wnbdSetVpdDeviceIdentifier_makesPage device

variable (length)

theorem vpdOutcome_page {pageCode : Nat} (known : pageCode ∈ knownPages) (buffer : Memory)
    (success : (vpdOutcome device length pageCode buffer).value.srbStatus = srbStatusSuccess) :
    ∃ pageLength, HeaderAt pageCode pageLength (vpdOutcome device length pageCode buffer).memory ∧
      pageLength + 4 =
        (vpdOutcome device length pageCode buffer).value.dataTransferLength.toNat :=
  (wnbdProcessExtendedInquiry_makesPage device known _ (cleared_buffer length buffer)).2 success

/-- An unknown page is a success that leaves the buffer as it was. -/
theorem wnbdProcessExtendedInquiry_unknown {pageCode : Nat} (unknown : pageCode ∉ knownPages) :
    wnbdProcessExtendedInquiry device length pageCode = pure ⟨srbStatusSuccess, length⟩ := by
  simp only [knownPages, List.mem_cons, List.not_mem_nil, or_false, not_or] at unknown
  obtain ⟨supported, serial, limits, provisioning, characteristics, identifiers⟩ := unknown
  rw [wnbdProcessExtendedInquiry, if_neg supported, if_neg serial, if_neg limits,
    if_neg provisioning, if_neg characteristics, if_neg identifiers]

theorem supportedPageList_known : supportedPageList device ⊆ knownPages := by
  rw [supportedPageList]
  split
  · decide
  · decide

theorem advertisedPages_eq : advertisedPages device = supportedPageList device := by
  have page : ∀ naa : Bool, payload (storeListed vpdHeaderSize
      ([vpdSupportedPages, vpdSerialNumber, vpdBlockLimits, vpdBlockDeviceCharacteristics,
        vpdLogicalBlockProvisioning] ++ if naa then [vpdDeviceIdentifiers] else [])
      (storeVpdHeader vpdSupportedPages (if naa then 6 else 5)
        (store (fun _ => 0) ⟨0, (10 : UInt32).toNat⟩ fun _ => 0)).memory).memory =
      [vpdSupportedPages, vpdSerialNumber, vpdBlockLimits, vpdBlockDeviceCharacteristics,
        vpdLogicalBlockProvisioning] ++ if naa then [vpdDeviceIdentifiers] else [] := by
    decide +kernel
  have room : ¬ vpdHeaderSize + numberOfSupportedPages device > (10 : UInt32).toNat := by
    rw [numberOfSupportedPages]
    split
    · decide
    · decide
  rw [advertisedPages, vpdOutcome, wnbdProcessExtendedInquiry, if_pos rfl, withRoom, if_neg room]
  simp only [wnbdSetVpdSupportedPages, bind_memory, pure_memory, numberOfSupportedPages,
    supportedPageList]
  exact page device.naaIdSpecified

/-- A known page that is returned is advertised. -/
theorem advertised_of_success {pageCode : Nat} (known : pageCode ∈ knownPages) (buffer : Memory)
    (success : (vpdOutcome device length pageCode buffer).value.srbStatus = srbStatusSuccess) :
    pageCode ∈ advertisedPages device := by
  rw [advertisedPages_eq, supportedPageList]
  by_cases identifiers : pageCode = vpdDeviceIdentifiers
  · cases naa : device.naaIdSpecified with
    | true => exact List.mem_append_right _ (by rw [identifiers]; exact List.mem_singleton_self _)
    | false =>
        rw [identifiers, vpdOutcome, wnbdProcessExtendedInquiry, if_neg (by decide),
          if_neg (by decide), if_neg (by decide), if_neg (by decide), if_neg (by decide),
          if_pos rfl, wnbdSetVpdDeviceIdentifier, naa, if_pos (by decide), pure_value] at success
        have failed : srbStatusInvalidRequest ≠ srbStatusSuccess := by decide
        exact absurd success failed
  · refine List.mem_append_left _ ?_
    simp only [knownPages, List.mem_cons, List.not_mem_nil, or_false, identifiers] at known ⊢
    tauto

/-! ## The serial number page -/

/-- `SerialNumber` as a string. -/
def storedSerial : List Nat :=
  stringAt device.properties byte.size wnbdMaxNameLength (propertiesField 1).offset

theorem storedSerial_length : (storedSerial device).length = device.serialLength := by
  rw [storedSerial, stringAt, List.length_map, List.length_range]
  rfl

theorem vpdOutcome_serial (buffer : Memory) :
    vpdOutcome device length vpdSerialNumber buffer =
      wnbdSetVpdSerialNumber device length (store buffer ⟨0, length.toNat⟩ fun _ => 0) := by
  rw [vpdOutcome, wnbdProcessExtendedInquiry, if_neg (by decide), if_pos rfl]

theorem serial_payload (buffer : Memory)
    (room : vpdHeaderSize + serialSize device ≤ length.toNat) :
    payload (vpdOutcome device length vpdSerialNumber buffer).memory =
      (List.range (serialSize device)).map fun index => (device.serialNumber index).toNat := by
  have cleared := cleared_buffer length buffer (by omega)
  have small : serialSize device < 256 := Nat.mod_lt _ (by decide)
  have header : HeaderAt vpdSerialNumber (serialSize device)
      (storeVpdHeader vpdSerialNumber (serialSize device)
        (store buffer ⟨0, length.toNat⟩ fun _ => 0)).memory :=
    (storeVpdHeader_triple (by decide) small _ cleared).2
  rw [vpdOutcome_serial, wnbdSetVpdSerialNumber, if_neg (Nat.not_lt.mpr room)]
  simp only [bind_memory, pure_memory, storeBytes_memory]
  rw [payload, (header.store device.serialNumber (Nat.le_refl vpdHeaderSize)).declaredLength]
  refine List.map_congr_left fun index member => ?_
  rw [store_within, if_pos (List.mem_range.mp member)]

theorem stored_unit (index : Nat) :
    natAt device.properties ⟨(propertiesField 1).offset + index * byte.size, byte.size⟩ =
      (device.serialNumber index).toNat := by
  have unit : byte.size = 1 := rfl
  rw [unit, Nat.mul_one, natAt_byte, ScsiDevice.serialNumber]

/-- Up to 254 characters the page carries the stored string and its terminator. -/
theorem serial_payload_whole (buffer : Memory)
    (room : vpdHeaderSize + serialSize device ≤ length.toNat) (short : device.serialLength < 255) :
    payload (vpdOutcome device length vpdSerialNumber buffer).memory =
      storedSerial device ++ [0] := by
  have size : serialSize device = device.serialLength + 1 := Nat.mod_eq_of_lt (by omega)
  have last : (device.serialNumber device.serialLength).toNat = 0 := by
    rw [← stored_unit]
    exact terminatedLength_zero _ _ (Nat.lt_trans short (by decide))
  rw [serial_payload device length buffer room, size, List.range_succ, List.map_append,
    List.map_singleton, last, storedSerial, stringAt]
  congr 1
  refine List.map_congr_left fun index _ => ?_
  exact (stored_unit device index).symm

end Pages

/-! ## The property block -/

/-- The two strings of a property block, terminated. -/
def givenInstance (properties : Memory) : List Nat :=
  stringAt (terminateStrings properties) byte.size wnbdMaxNameLength (propertiesField 0).offset

def givenSerial (properties : Memory) : List Nat :=
  stringAt (terminateStrings properties) byte.size wnbdMaxNameLength (propertiesField 1).offset

/-- The serial number that a device of the property block is to have. -/
def configuredSerial (properties : Memory) : List Nat :=
  if givenSerial properties = [] then givenInstance properties else givenSerial properties

section Properties

variable {properties created : Memory} {pid : UInt32}

/-- The array of the serial number as the create command leaves it. -/
theorem created_serial (accepted : prepareProperties pid properties = some created) {index : Nat}
    (bound : index < wnbdMaxNameLength) :
    created ((propertiesField 1).offset + index) =
      if givenSerial properties = [] ∧ index < (givenInstance properties).length then
        UInt8.ofNat ((givenInstance properties).getD index 0)
      else terminateStrings properties ((propertiesField 1).offset + index) := by
  have ahead : (propertiesField 1).offset + index < (propertiesField 7).offset := by
    have places : (propertiesField 1).offset + wnbdMaxNameLength ≤ (propertiesField 7).offset := by
      decide
    omega
  have beforePid : ∀ named : Memory,
      (if natAt named (propertiesField 7) = 0 then
        store named (propertiesField 7) (leBytes pid.toNat) else named)
          ((propertiesField 1).offset + index) = named ((propertiesField 1).offset + index) := by
    intro named
    split
    case isTrue => exact store_behind _ _ ahead
    case isFalse => rfl
  simp only [prepareProperties] at accepted
  split at accepted
  case isTrue => cases accepted
  split at accepted
  case isTrue => cases accepted
  split at accepted
  case isTrue => cases accepted
  rw [← Option.some.inj accepted, beforePid, ← givenSerial, ← givenInstance]
  by_cases empty : givenSerial properties = []
  · simp only [empty, if_true, true_and, store_within]
  · simp only [empty, if_false, false_and]

theorem givenInstance_length (properties : Memory) :
    (givenInstance properties).length < wnbdMaxNameLength := by
  have last : natAt (terminateStrings properties)
      ⟨(propertiesField 0).offset + 255 * byte.size, byte.size⟩ = 0 :=
    (natAt_byte _ _).trans (by rfl)
  rw [givenInstance, stringAt, List.length_map, List.length_range]
  exact Nat.lt_succ_of_le (terminatedLength_le _ _ 255 last)

/-- Whatever was copied, the last byte of the serial number is its terminator. -/
theorem created_serial_last (accepted : prepareProperties pid properties = some created) :
    natAt created ⟨(propertiesField 1).offset + 255 * byte.size, byte.size⟩ = 0 := by
  have short := givenInstance_length properties
  have place : (propertiesField 1).offset + 255 * byte.size = (propertiesField 1).offset + 255 :=
    rfl
  have unit : byte.size = 1 := rfl
  rw [place, unit, natAt_byte, created_serial accepted (by decide), if_neg]
  · rfl
  · rintro ⟨_, copied⟩
    rw [wnbdMaxNameLength] at short
    omega

theorem stored_of_given (accepted : prepareProperties pid properties = some created)
    (given : givenSerial properties ≠ []) :
    stringAt created byte.size wnbdMaxNameLength (propertiesField 1).offset =
      givenSerial properties := by
  refine stringAt_congr _ _ 255 (created_serial_last accepted) fun place low high => ?_
  obtain ⟨index, rfl⟩ := Nat.exists_eq_add_of_le low
  have bound : index < wnbdMaxNameLength := Nat.lt_of_add_lt_add_left high
  rw [created_serial accepted bound, if_neg fun both => given both.1]

theorem givenInstance_unit (properties : Memory) {index : Nat}
    (bound : index < (givenInstance properties).length) :
    (givenInstance properties)[index] = (terminateStrings properties
      ((propertiesField 0).offset + index)).toNat := by
  have unit : byte.size = 1 := rfl
  simp only [givenInstance, stringAt, List.getElem_map, List.getElem_range, unit, Nat.mul_one,
    natAt_byte]

theorem givenInstance_nonzero (properties : Memory) :
    ∀ unit ∈ givenInstance properties, unit ≠ 0 := by
  intro unit member
  rw [givenInstance, stringAt] at member
  obtain ⟨index, inRange, rfl⟩ := List.mem_map.mp member
  exact terminatedLength_nonzero _ _ index (List.mem_range.mp inRange)

/-- An empty serial number becomes the instance name and what the array held behind it. -/
theorem stored_of_empty (accepted : prepareProperties pid properties = some created)
    (empty : givenSerial properties = []) :
    stringAt created byte.size wnbdMaxNameLength (propertiesField 1).offset =
      givenInstance properties ++ stringAt created byte.size
        (wnbdMaxNameLength - (givenInstance properties).length)
        ((propertiesField 1).offset + (givenInstance properties).length * byte.size) := by
  have short := givenInstance_length properties
  have whole : wnbdMaxNameLength = (givenInstance properties).length +
      (wnbdMaxNameLength - (givenInstance properties).length) := by omega
  have unit : byte.size = 1 := rfl
  rw [whole]
  rw [stringAt_append (givenInstance properties) _ _ ?_ (givenInstance_nonzero properties),
    ← whole]
  intro index bound
  rw [unit, Nat.mul_one, natAt_byte, created_serial accepted (Nat.lt_trans bound short),
    if_pos ⟨empty, bound⟩, List.getD_eq_getElem?_getD, List.getElem?_eq_getElem bound, Option.getD_some,
    givenInstance_unit properties bound,
    UInt8.ofNat_toNat]

/-- A serial number is given, or its array ends where the copied instance name does. -/
def SerialKept (properties : Memory) : Prop :=
  givenSerial properties ≠ [] ∨
    terminateStrings properties
      ((propertiesField 1).offset + (givenInstance properties).length) = 0

theorem stored_eq_configured_iff (accepted : prepareProperties pid properties = some created) :
    stringAt created byte.size wnbdMaxNameLength (propertiesField 1).offset =
      configuredSerial properties ↔ SerialKept properties := by
  by_cases empty : givenSerial properties = []
  · have short := givenInstance_length properties
    have behind : natAt created ⟨(propertiesField 1).offset +
        (givenInstance properties).length * byte.size, byte.size⟩ =
        (terminateStrings properties
          ((propertiesField 1).offset + (givenInstance properties).length)).toNat := by
      have unit : byte.size = 1 := rfl
      rw [unit, Nat.mul_one, natAt_byte, created_serial accepted short,
        if_neg fun both => Nat.lt_irrefl _ both.2]
    obtain ⟨limit, remaining⟩ := Nat.exists_eq_succ_of_ne_zero
      (Nat.ne_of_gt (Nat.sub_pos_of_lt short))
    rw [stored_of_empty accepted empty, configuredSerial, if_pos empty, SerialKept, remaining,
      List.append_right_eq_self]
    constructor
    · intro nothing
      refine Or.inr (UInt8.toNat_inj.mp (behind.symm.trans ?_))
      by_contra nonzero
      rw [Nat.succ_eq_add_one, stringAt_cons _ _ nonzero] at nothing
      cases nothing
    · rintro (given | ends)
      · exact absurd empty given
      · refine stringAt_of_zero _ _ ?_
        rw [behind, ends]
        rfl
  · refine iff_of_true ?_ (Or.inl empty)
    rw [stored_of_given accepted empty, configuredSerial, if_neg empty]

end Properties

/-! ## Which pages are sound -/

section Sound

variable {device : ScsiDevice} {properties : Memory} {pid : UInt32}
  (accepted : prepareProperties pid properties = some device.properties)
  (length : UInt32) (buffer : Memory)

theorem serialSize_succeeds (room : vpdHeaderSize + serialSize device ≤ length.toNat) :
    (vpdOutcome device length vpdSerialNumber buffer).value.srbStatus = srbStatusSuccess := by
  rw [vpdOutcome_serial, wnbdSetVpdSerialNumber, if_neg (Nat.not_lt.mpr room)]
  rfl

theorem serialSize_fails (short : length.toNat < vpdHeaderSize + serialSize device) :
    (vpdOutcome device length vpdSerialNumber buffer).value.srbStatus ≠ srbStatusSuccess := by
  have failed : srbStatusDataOverrun ≠ srbStatusSuccess := by decide
  rw [vpdOutcome_serial, wnbdSetVpdSerialNumber, if_pos short, pure_value]
  exact failed

include accepted

/-- The payload is the configured serial number when that is what is stored and its
size fits in a byte. -/
theorem serial_payload_iff (room : vpdHeaderSize + serialSize device ≤ length.toNat) :
    payload (vpdOutcome device length vpdSerialNumber buffer).memory =
      configuredSerial properties ++ [0] ↔
    SerialKept properties ∧ (configuredSerial properties).length < 255 := by
  have small : device.serialLength ≤ 255 :=
    terminatedLength_le _ _ 255 (created_serial_last accepted)
  rw [← stored_eq_configured_iff accepted]
  by_cases short : device.serialLength < 255
  · rw [serial_payload_whole device length buffer room short, List.append_left_inj]
    constructor
    · intro same
      refine ⟨same, ?_⟩
      rw [← same, storedSerial_length]
      exact short
    · exact And.left
  · have size : serialSize device = 0 := by
      rw [serialSize, Nat.le_antisymm small (Nat.not_lt.mp short)]
    rw [serial_payload device length buffer room, size]
    constructor
    · intro nothing
      exact absurd nothing.symm (List.append_ne_nil_of_right_ne_nil _ (List.cons_ne_nil _ _))
    · rintro ⟨same, bound⟩
      rw [← same] at bound
      exact absurd ((storedSerial_length device).symm.trans_lt bound) short

/-- A success means a sound page for the page codes of the switch, and for the serial
number where it is kept and shorter than 255 characters. -/
theorem vpd_sound_iff (pageCode : Nat) :
    VpdSound device (configuredSerial properties) pageCode length buffer ↔
      pageCode ∈ knownPages ∧ (pageCode = vpdSerialNumber →
        length.toNat < vpdHeaderSize + serialSize device ∨
          (SerialKept properties ∧ (configuredSerial properties).length < 255)) := by
  constructor
  · intro sound
    have known : pageCode ∈ knownPages := by
      by_contra unknown
      have success : (vpdOutcome device length pageCode buffer).value.srbStatus =
          srbStatusSuccess := by
        rw [vpdOutcome, wnbdProcessExtendedInquiry_unknown device length unknown]
        rfl
      have advertised := (sound success).advertised
      rw [advertisedPages_eq] at advertised
      exact unknown (supportedPageList_known device advertised)
    refine ⟨known, ?_⟩
    rintro rfl
    by_cases room : length.toNat < vpdHeaderSize + serialSize device
    · exact Or.inl room
    · have enough := Nat.not_lt.mp room
      refine Or.inr ((serial_payload_iff accepted length buffer enough).mp ?_)
      exact (sound (serialSize_succeeds length buffer enough)).serial rfl
  · rintro ⟨known, serial⟩ success
    obtain ⟨pageLength, header, sized⟩ := vpdOutcome_page device length known buffer success
    refine ⟨advertised_of_success device length known buffer success, header.code, ?_, ?_⟩
    · rw [← sized]
      exact congrArg (· + 4) header.declaredLength
    · rintro rfl
      have enough : vpdHeaderSize + serialSize device ≤ length.toNat := by
        by_contra short
        exact serialSize_fails length buffer (Nat.not_le.mp short) success
      refine (serial_payload_iff accepted length buffer enough).mpr ?_
      exact (serial rfl).resolve_left (Nat.not_lt.mpr enough)

end Sound

/-- Eight blocks of 512 bytes by the name of "vv", without a serial number. -/
def diskProperties : Memory :=
  store (store (store (fun _ => 0) ⟨(propertiesField 0).offset, 2⟩ fun _ => 0x76)
    (propertiesField 4) (leBytes 8)) (propertiesField 5) (leBytes 512)

def createdDisk : ScsiDevice :=
  { properties := (prepareProperties 1 diskProperties).getD fun _ => 0
    inquiryData := fun _ => 0
    hardRemoveDevice := false }

theorem diskProperties_accepted :
    prepareProperties 1 diskProperties = some createdDisk.properties := by
  have isSome : (prepareProperties 1 diskProperties).isSome := by decide +kernel
  obtain ⟨created, found⟩ := Option.isSome_iff_exists.mp isSome
  rw [createdDisk, found, Option.getD_some]

theorem vpd_sound_iff_of_disk :
    VpdSound createdDisk (configuredSerial diskProperties) vpdSerialNumber 96 fun _ => 0 :=
  (vpd_sound_iff diskProperties_accepted 96 (fun _ => 0) vpdSerialNumber).mpr
    ⟨by decide, fun _ => Or.inr ⟨Or.inr (by decide +kernel), by decide +kernel⟩⟩

/-- The page of extended inquiry data: a success without a page. -/
theorem unknownPage_not_sound :
    (vpdOutcome createdDisk 96 0x86 fun _ => 0).value.srbStatus = srbStatusSuccess ∧
      0x86 ∉ advertisedPages createdDisk ∧
      ¬ VpdSound createdDisk (configuredSerial diskProperties) 0x86 96 fun _ => 0 := by
  have success : (vpdOutcome createdDisk 96 0x86 fun _ => 0).value.srbStatus =
      srbStatusSuccess := by
    decide +kernel
  have hidden : 0x86 ∉ advertisedPages createdDisk := by decide +kernel
  exact ⟨success, hidden, fun sound => hidden (sound success).advertised⟩

end Wnbd.Scsi
