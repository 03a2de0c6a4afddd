import Wnbd.Scsi.Cdb

/-!
# SCSI request blocks, statuses and device properties

The fields of an SRB that the driver reads or writes, the NTSTATUS and SRB
status values it uses, and `SetSrbStatus`, which turns a `WNBD_STATUS` into
SCSI status and fixed-format sense data.
-/

set_option autoImplicit false

namespace Wnbd.Scsi

abbrev NtStatus := UInt32

def statusSuccess : NtStatus := 0x00000000
def statusPending : NtStatus := 0x00000103
def statusBufferOverflow : NtStatus := 0x80000005
def statusInvalidHandle : NtStatus := 0xC0000008
def statusInvalidParameter : NtStatus := 0xC000000D
def statusInvalidDeviceRequest : NtStatus := 0xC0000010
def statusAccessDenied : NtStatus := 0xC0000022
def statusBufferTooSmall : NtStatus := 0xC0000023
def statusObjectTypeMismatch : NtStatus := 0xC0000024
def statusObjectNameNotFound : NtStatus := 0xC0000034
def statusObjectNameCollision : NtStatus := 0xC0000035
def statusInsufficientResources : NtStatus := 0xC000009A
def statusInternalError : NtStatus := 0xC00000E5
def statusTooManyAddresses : NtStatus := 0xC0000209
def statusNotFound : NtStatus := 0xC0000225
def statusShutdownInProgress : NtStatus := 0xC00002FE

/-- `NT_SUCCESS`: the sign bit of the status is clear. -/
def ntSuccess (status : NtStatus) : Bool := status < 0x80000000

def srbStatusPending : UInt8 := 0x00
def srbStatusSuccess : UInt8 := 0x01
def srbStatusAborted : UInt8 := 0x02
def srbStatusError : UInt8 := 0x04
def srbStatusInvalidRequest : UInt8 := 0x06
def srbStatusNoDevice : UInt8 := 0x08
def srbStatusInternalError : UInt8 := 0x30
def srbStatusAutosenseValid : UInt8 := 0x80

def scsistatCheckCondition : UInt8 := 0x02
def scsiSenseIllegalRequest : UInt8 := 0x05
def scsiAdsenseIllegalBlock : UInt8 := 0x21
def scsiSenseErrorcodeFixedCurrent : UInt8 := 0x70
def srbFlagsDisableAutosense : UInt32 := 0x20

/-- `WNBD_DEFAULT_MAX_TRANSFER_LENGTH`, 2 MiB. -/
def wnbdDefaultMaxTransferLength : UInt32 := 2 * 1024 * 1024

structure WnbdFlags where
  readOnly : Bool
  flushSupported : Bool
  fuaSupported : Bool
  unmapSupported : Bool
  useKernelNbd : Bool
  persistResSupported : Bool
deriving DecidableEq, Repr

/-- The part of `WNBD_PROPERTIES` the I/O path and device registration read.
`instanceName` holds the characters before the terminating NUL. -/
structure WnbdProperties where
  instanceName : List UInt8
  flags : WnbdFlags
  blockCount : UInt64
  blockSize : UInt32
  pid : UInt32
deriving DecidableEq, Repr

def ullongMax : UInt64 := 0xFFFFFFFFFFFFFFFF

/-- The block size and block count tests of `WnbdCreateConnection`. -/
def geometryAccepted (props : WnbdProperties) : Bool :=
  props.blockSize = 512 && props.blockCount ≠ 0 &&
    ¬ props.blockCount > ullongMax / props.blockSize.toUInt64

theorem geometryAccepted_iff (props : WnbdProperties) :
    geometryAccepted props = true ↔
      props.blockSize = 512 ∧ 0 < props.blockCount.toNat ∧
        props.blockCount.toNat * 512 < 2 ^ 64 := by
  have positive : props.blockCount ≠ 0 ↔ 0 < props.blockCount.toNat := by
    rw [ne_eq, ← UInt64.toNat_inj, Nat.pos_iff_ne_zero]
    rfl
  simp only [geometryAccepted, Bool.and_eq_true, decide_eq_true_eq, positive, and_assoc]
  refine and_congr_right fun sizeExact => and_congr_right fun _ => ?_
  rw [sizeExact, gt_iff_lt, UInt64.not_lt, UInt64.le_iff_toNat_le]
  have quotient : (ullongMax / (512 : UInt32).toUInt64).toNat = (2 ^ 64 - 1) / 512 := by decide
  rw [quotient]
  omega

structure SenseData where
  errorCode : UInt8
  senseKey : UInt8
  additionalSenseCode : UInt8
  additionalSenseCodeQualifier : UInt8
  additionalSenseLength : UInt8
  /-- The INFORMATION field, present when the VALID bit is set. -/
  information : Option UInt64
deriving DecidableEq, Repr

/-- `WNBD_STATUS`, the completion status in a userspace response. -/
structure WnbdStatus where
  scsiStatus : UInt8
  senseKey : UInt8
  asc : UInt8
  ascq : UInt8
  information : UInt64
  informationValid : Bool
deriving DecidableEq, Repr

structure Srb where
  /-- `SrbGetCdb`, which may return NULL. -/
  cdb : Option Cdb
  dataTransferLength : UInt32
  /-- `SrbGetDataBuffer`: NULL, or the bytes found from that address on. -/
  dataBuffer : Option (Nat → UInt8)
  srbStatus : UInt8
  scsiStatus : UInt8
  srbFlags : UInt32
  senseInfoBuffer : Option SenseData
  senseInfoBufferLength : UInt8

def Srb.setSrbStatus (srb : Srb) (status : UInt8) : Srb := { srb with srbStatus := status }

def Srb.setDataTransferLength (srb : Srb) (length : UInt32) : Srb :=
  { srb with dataTransferLength := length }

@[simp] theorem Srb.setSrbStatus_cdb (srb : Srb) (status : UInt8) :
    (srb.setSrbStatus status).cdb = srb.cdb := rfl

@[simp] theorem Srb.setSrbStatus_srbStatus (srb : Srb) (status : UInt8) :
    (srb.setSrbStatus status).srbStatus = status := rfl

@[simp] theorem Srb.setSrbStatus_dataTransferLength (srb : Srb) (status : UInt8) :
    (srb.setSrbStatus status).dataTransferLength = srb.dataTransferLength := rfl

@[simp] theorem Srb.setDataTransferLength_cdb (srb : Srb) (length : UInt32) :
    (srb.setDataTransferLength length).cdb = srb.cdb := rfl

@[simp] theorem Srb.setDataTransferLength_dataTransferLength (srb : Srb) (length : UInt32) :
    (srb.setDataTransferLength length).dataTransferLength = length := rfl

/-- `sizeof(SENSE_DATA)`. -/
def senseDataSize : UInt8 := 18

/-- Fixed-format sense data for a failed request.  The buffer is only written
when it is present, large enough and autosense is not disabled. -/
def setSrbStatus (srb : Srb) (status : WnbdStatus) : Srb :=
  let reported := { srb with scsiStatus := status.scsiStatus }
  if srb.senseInfoBuffer.isSome ∧ senseDataSize ≤ srb.senseInfoBufferLength ∧
      srb.srbFlags &&& srbFlagsDisableAutosense = 0 then
    { reported with
      senseInfoBuffer := some
        { errorCode := scsiSenseErrorcodeFixedCurrent
          senseKey := status.senseKey
          additionalSenseCode := status.asc
          additionalSenseCodeQualifier := status.ascq
          -- sizeof(SENSE_DATA) less the size up to and including this field
          additionalSenseLength := senseDataSize - 8
          information := if status.informationValid then some status.information else none }
      scsiStatus := if status.scsiStatus = 0 then scsistatCheckCondition else status.scsiStatus
      srbStatus := srbStatusError ||| srbStatusAutosenseValid }
  else { reported with srbStatus := srbStatusError }

@[simp] theorem setSrbStatus_dataTransferLength (srb : Srb) (status : WnbdStatus) :
    (setSrbStatus srb status).dataTransferLength = srb.dataTransferLength := by
  unfold setSrbStatus
  split <;> rfl

@[simp] theorem setSrbStatus_cdb (srb : Srb) (status : WnbdStatus) :
    (setSrbStatus srb status).cdb = srb.cdb := by
  unfold setSrbStatus
  split <;> rfl

end Wnbd.Scsi
