import Wnbd.Scsi.Operation

/-!
# Preparing one queue element for userspace

The body of the fetch loop between taking an element off the pending queue and
either submitting it or completing its SRB: `ValidateScsiRequest`, the fields
of the `WNBD_IO_REQUEST`, and the payload placed in the user buffer.  Which
allocations and mappings fail is an input.
-/

set_option autoImplicit false

namespace Wnbd.Dispatch

open BigEndian Wnbd.Scsi

/-- `WNBD_IO_REQUEST.Cmd`; `zero` is the union after `RtlZeroMemory`. -/
inductive IoCommand
  | zero
  | read (blockAddress : UInt64) (blockCount : UInt32) (forceUnitAccess : Bool)
  | write (blockAddress : UInt64) (blockCount : UInt32) (forceUnitAccess : Bool)
  | flush (blockAddress : UInt64) (blockCount : UInt32)
  | unmap (count : UInt32)
  | persistResIn (serviceAction : UInt8) (allocationLength : UInt16)
  | persistResOut (serviceAction scope type : UInt8) (parameterListLength : UInt16)
deriving DecidableEq, Repr

structure WnbdIoRequest where
  requestHandle : UInt64
  requestType : WnbdRequestType
  cmd : IoCommand
deriving DecidableEq, Repr

def WnbdIoRequest.zero : WnbdIoRequest :=
  { requestHandle := 0, requestType := .unknown, cmd := .zero }

def validateScsiRequest (props : WnbdProperties) (cdb : Option Cdb) : Bool :=
  match cdb with
  | none => false
  | some cdb =>
      match scsiOpToWnbdReqType (cdb.asByte 0) with
      | .unmap => !props.flags.readOnly && props.flags.unmapSupported
      | .write => !props.flags.readOnly
      | .flush => !props.flags.readOnly && props.flags.flushSupported
      | .persistResOut => !props.flags.readOnly && props.flags.persistResSupported
      | .persistResIn => props.flags.persistResSupported
      | .read => true
      | .unknown | .disconnect => false

inductive FetchPayload
  | untouched
  | unmapDescriptor (blockAddress : UInt64) (blockCount : UInt32)
  | srbBytes (count : UInt32)
deriving DecidableEq, Repr

/-- Failures of the calls the loop body makes: the status of `LockFetchBuffer`
and the result of `StorPortGetSystemAddress`, each used only where it is called. -/
structure FetchFaults where
  lockStatus : NtStatus
  storResult : UInt32
deriving DecidableEq, Repr

inductive FetchVerdict
  | invalid
  | bufferTooSmall
  | lockFailed (status : NtStatus)
  | noSrbBuffer
  | submit (payload : FetchPayload)
deriving DecidableEq, Repr

def FetchVerdict.status : FetchVerdict → Option NtStatus
  | .invalid => none
  | .bufferTooSmall => some statusBufferTooSmall
  | .lockFailed status => some status
  | .noSrbBuffer => some statusSuccess
  | .submit .untouched => none
  | .submit (.unmapDescriptor _ _) => some statusSuccess
  | .submit (.srbBytes _) => some statusSuccess

structure FetchedElement where
  request : WnbdIoRequest
  srb : Srb
  verdict : FetchVerdict

def wnbdUnmapDescriptorSize : UInt32 := 16

def fetchCommand (props : WnbdProperties) (range : ElementRange) (cdb : Cdb) :
    WnbdRequestType → IoCommand
  | .read =>
      .read (range.startingLbn / props.blockSize.toUInt64) (range.dataLength / props.blockSize)
        (range.fua && props.flags.fuaSupported)
  | .write =>
      .write (range.startingLbn / props.blockSize.toUInt64) (range.dataLength / props.blockSize)
        (range.fua && props.flags.fuaSupported)
  | .flush =>
      .flush (range.startingLbn / props.blockSize.toUInt64) (range.dataLength / props.blockSize)
  | .unmap => .unmap 1
  | .persistResIn =>
      .persistResIn (cdb.asByte 1 &&& 0x1F) (UInt16.ofNat (ofBytes [cdb.asByte 7, cdb.asByte 8]))
  | .persistResOut =>
      .persistResOut (cdb.asByte 1 &&& 0x1F) (cdb.asByte 2 >>> 4) (cdb.asByte 2 &&& 0x0F)
        (UInt16.ofNat (ofBytes [cdb.asByte 7, cdb.asByte 8]))
  | .unknown | .disconnect => .zero

/-- The checks after the request structure is filled, in the order of the source. -/
def fetchVerdict (props : WnbdProperties) (bufferSize : UInt32) (range : ElementRange)
    (faults : FetchFaults) : WnbdRequestType → FetchVerdict
  | .unmap =>
      if wnbdUnmapDescriptorSize > bufferSize then .bufferTooSmall
      else if faults.lockStatus ≠ 0 then .lockFailed faults.lockStatus
      else .submit (.unmapDescriptor (range.startingLbn / props.blockSize.toUInt64)
        (range.dataLength / props.blockSize))
  | .write | .persistResOut =>
      if range.dataLength > bufferSize then .bufferTooSmall
      else if range.dataLength = 0 then .submit .untouched
      else if faults.lockStatus ≠ 0 then .lockFailed faults.lockStatus
      else if faults.storResult ≠ 0 then .noSrbBuffer
      else .submit (.srbBytes range.dataLength)
  | _ => .submit .untouched

/-- The loop body for an element in hand, from the new tag to the decision. -/
def fetchElement (props : WnbdProperties) (bufferSize : UInt32) (tag : UInt64)
    (range : ElementRange) (srb : Srb) (faults : FetchFaults) : FetchedElement :=
  let srb := srb.setDataTransferLength 0
  match srb.cdb with
  | none =>
      { request := .zero, srb := srb.setSrbStatus srbStatusInvalidRequest, verdict := .invalid }
  | some cdb =>
      if validateScsiRequest props (some cdb) then
        let requestType := scsiOpToWnbdReqType (cdb.asByte 0)
        let verdict := fetchVerdict props bufferSize range faults requestType
        { request := ⟨tag, requestType, fetchCommand props range cdb requestType⟩
          srb := match verdict with
            | .submit _ => srb
            | _ => srb.setSrbStatus srbStatusInternalError
          verdict }
      else
        { request := .zero, srb := srb.setSrbStatus srbStatusInvalidRequest, verdict := .invalid }

/-! ## Facts the loop and the concurrent model use -/

theorem validateScsiRequest_isIo (props : WnbdProperties) (cdb : Cdb)
    (valid : validateScsiRequest props (some cdb) = true) :
    (scsiOpToWnbdReqType (cdb.asByte 0)).IsIo := by
  unfold validateScsiRequest at valid
  cases kind : scsiOpToWnbdReqType (cdb.asByte 0) <;> simp_all [WnbdRequestType.IsIo]

theorem fetchElement_srb (props : WnbdProperties) (bufferSize : UInt32) (tag : UInt64)
    (range : ElementRange) (srb : Srb) (faults : FetchFaults) :
    (fetchElement props bufferSize tag range srb faults).srb.cdb = srb.cdb ∧
      (fetchElement props bufferSize tag range srb faults).srb.dataTransferLength = 0 := by
  unfold fetchElement
  simp only [Srb.setDataTransferLength_cdb]
  split
  · exact ⟨rfl, rfl⟩
  · split
    · dsimp only
      split <;> exact ⟨rfl, rfl⟩
    · exact ⟨rfl, rfl⟩

end Wnbd.Dispatch
