import Wnbd.Dispatch.Element

/-!
# Applying a userspace response to an SRB

The part of `WnbdHandleResponse` that runs with an element taken off the
submitted list: the data copy into the SRB buffer, the zero fill behind a short
reply, and the status and transfer length the SRB is completed with.
-/

set_option autoImplicit false

namespace Wnbd.Dispatch

open Wnbd.Scsi

/-- The fields of `WNBD_IOCTL_SEND_RSP_COMMAND` the handler reads.  `hasBuffer`
says that `DataBuffer` is not NULL. -/
structure SendRspCommand where
  requestHandle : UInt64
  status : WnbdStatus
  hasBuffer : Bool
  dataBufferSize : UInt32
deriving DecidableEq, Repr

structure ResponseFaults where
  storResult : UInt32
  lockStatus : NtStatus
deriving DecidableEq, Repr

structure BufferWrite where
  offset : Nat
  length : Nat
deriving DecidableEq, Repr

structure HandledResponse where
  status : NtStatus
  srb : Srb
  writes : List BufferWrite

def isReadSrb (srb : Srb) : Bool :=
  match srb.cdb with
  | none => false
  | some cdb => decide (cdb.asByte 0 ∈ [scsiopRead6, scsiopRead, scsiopRead12, scsiopRead16])

def isPerResInSrb (srb : Srb) : Bool :=
  match srb.cdb with
  | none => false
  | some cdb => decide (cdb.asByte 0 = scsiopPersistentReserveIn)

def fillSrbBuffer (dataLength : UInt32) (command : SendRspCommand) : List BufferWrite :=
  (if command.hasBuffer ∧ command.dataBufferSize > 0 then
    [⟨0, min dataLength.toNat command.dataBufferSize.toNat⟩] else []) ++
  (if command.dataBufferSize < dataLength then
    [⟨command.dataBufferSize.toNat, dataLength.toNat - command.dataBufferSize.toNat⟩] else [])

def reportStatus (dataLength : UInt32) (srb : Srb) (command : SendRspCommand) : Srb :=
  if command.status.scsiStatus ≠ 0 then setSrbStatus (srb.setDataTransferLength 0) command.status
  else (srb.setDataTransferLength dataLength).setSrbStatus srbStatusSuccess

/-- `WnbdHandleResponse` once the element is off the submitted list.  Each early
`goto Exit` completes the SRB with what it holds at that point. -/
def applyResponse (range : ElementRange) (aborted : Bool) (srb : Srb) (command : SendRspCommand)
    (faults : ResponseFaults) : HandledResponse :=
  let carriesData := isReadSrb srb || isPerResInSrb srb
  if ¬ aborted ∧ srb.cdb.isNone then
    { status := statusInternalError, srb, writes := [] }
  else if ¬ aborted ∧ carriesData ∧ faults.storResult ≠ 0 then
    { status := statusInternalError, srb := srb.setSrbStatus srbStatusInternalError, writes := [] }
  else if command.status.scsiStatus = 0 ∧ carriesData then
    if ¬ command.hasBuffer ∧ command.dataBufferSize > 0 then
      { status := statusInvalidParameter, srb := srb.setSrbStatus srbStatusInternalError,
        writes := [] }
    else if command.hasBuffer ∧ faults.lockStatus ≠ 0 then
      { status := faults.lockStatus, srb := srb.setSrbStatus srbStatusInternalError, writes := [] }
    else
      { status := statusSuccess, srb := reportStatus range.dataLength srb command,
        writes := if aborted then [] else fillSrbBuffer range.dataLength command }
  else
    { status := statusSuccess, srb := reportStatus range.dataLength srb command, writes := [] }

/-- What `DrainDeviceQueue` writes into the SRB of an element it aborts. -/
def abortSrb (srb : Srb) : Srb := (srb.setDataTransferLength 0).setSrbStatus srbStatusAborted

/-! ## What the handler may touch -/

theorem fillSrbBuffer_end (dataLength : UInt32) (command : SendRspCommand) (write : BufferWrite)
    (member : write ∈ fillSrbBuffer dataLength command) :
    write.offset + write.length ≤ dataLength.toNat := by
  unfold fillSrbBuffer at member
  rcases List.mem_append.mp member with copied | zeroed
  · split at copied
    · simp only [List.mem_singleton] at copied
      subst write
      simp
    · simp at copied
  · split at zeroed
    · rename_i short
      have shortNat := UInt32.lt_iff_toNat_lt.mp short
      simp only [List.mem_singleton] at zeroed
      subst write
      dsimp only
      omega
    · simp at zeroed

theorem reportStatus_length (dataLength : UInt32) (srb : Srb) (command : SendRspCommand) :
    (reportStatus dataLength srb command).dataTransferLength =
      if command.status.scsiStatus ≠ 0 then 0 else dataLength := by
  unfold reportStatus
  split <;> simp

/-- Every write stays below `DataLength`, and the reported length is either the
one the SRB had or at most `DataLength`. -/
theorem applyResponse_bounds (range : ElementRange) (aborted : Bool) (srb : Srb)
    (command : SendRspCommand) (faults : ResponseFaults) :
    (∀ write ∈ (applyResponse range aborted srb command faults).writes,
        write.offset + write.length ≤ range.dataLength.toNat) ∧
      ((applyResponse range aborted srb command faults).srb.dataTransferLength =
          srb.dataTransferLength ∨
        (applyResponse range aborted srb command faults).srb.dataTransferLength.toNat ≤
          range.dataLength.toNat) := by
  have reported : (reportStatus range.dataLength srb command).dataTransferLength.toNat ≤
      range.dataLength.toNat := by
    rw [reportStatus_length]
    split <;> simp
  unfold applyResponse
  dsimp only
  split_ifs with missingCdb noSrbBuffer carries nullBuffer lockFails wasAborted
  · exact ⟨by simp, Or.inl rfl⟩
  · exact ⟨by simp, Or.inl rfl⟩
  · exact ⟨by simp, Or.inl rfl⟩
  · exact ⟨by simp, Or.inl rfl⟩
  · exact ⟨by simp, Or.inr reported⟩
  · exact ⟨fun write member => fillSrbBuffer_end range.dataLength command write member,
      Or.inr reported⟩
  · exact ⟨by simp, Or.inr reported⟩

end Wnbd.Dispatch
