import Wnbd.Ioctl.Irp

/-!
# Fetch and response commands

`WnbdDispatchRequest` and `WnbdHandleResponse` by what they read and write in the
system buffer.  The fetch loop follows `dispatchLoop`: `Command->Request` is in
the buffer here, and `DataBufferSize` is read where it is compared.
-/

set_option autoImplicit false

namespace Wnbd.Ioctl

open CLayout CLayout.Region TracedBuffer Wnbd.Scsi Wnbd.Dispatch

/-! ## Fetch -/

def fetchCommandField (index : Nat) : Region :=
  (whole wnbdIoctlFetchReqCommand).field wnbdIoctlFetchReqCommandFields index

def fetchRequest : Region := fetchCommandField 1

def requestField (index : Nat) : Region := fetchRequest.field wnbdIoRequestFields index

/-- A member of the structure in `Request->Cmd` with these fields. -/
def cmdField (fields : List CType) (index : Nat) : Region := (requestField 2).field fields index

def requestTypeCode : WnbdRequestType → Nat
  | .unknown => 0
  | .read => 1
  | .write => 2
  | .flush => 3
  | .unmap => 4
  | .disconnect => 5
  | .persistResIn => 6
  | .persistResOut => 7

def storeBits (word : Region) (low width value : Nat) : Traced Unit := do
  let old ← loadNat .read word
  let high := old / 2 ^ (low + width) * 2 ^ (low + width)
  storeNat word (high + value % 2 ^ width * 2 ^ low + old % 2 ^ low)

def storeTransfer (blockAddress : UInt64) (blockCount : UInt32) : Traced Unit := do
  storeNat (cmdField transferCmdFields 0) blockAddress.toNat
  storeNat (cmdField transferCmdFields 1) blockCount.toNat

def storeCmd : IoCommand → Traced Unit
  | .zero => pure ()
  | .read blockAddress blockCount forceUnitAccess => do
      storeTransfer blockAddress blockCount
      storeBits (cmdField transferCmdFields 2) 0 1 forceUnitAccess.toNat
  | .write blockAddress blockCount forceUnitAccess => do
      storeTransfer blockAddress blockCount
      storeBits (cmdField transferCmdFields 2) 0 1 forceUnitAccess.toNat
  | .flush blockAddress blockCount => storeTransfer blockAddress blockCount
  | .unmap count => storeNat (cmdField unmapCmdFields 0) count.toNat
  | .persistResIn serviceAction allocationLength => do
      storeNat (cmdField persistResInCmdFields 0) serviceAction.toNat
      storeNat (cmdField persistResInCmdFields 1) allocationLength.toNat
  | .persistResOut serviceAction scope type parameterListLength => do
      storeNat (cmdField persistResOutCmdFields 0) serviceAction.toNat
      storeBits (cmdField persistResOutCmdFields 1) 0 4 scope.toNat
      storeBits (cmdField persistResOutCmdFields 1) 4 4 type.toNat
      storeNat (cmdField persistResOutCmdFields 2) parameterListLength.toNat

def payloadLength (range : ElementRange) : WnbdRequestType → Option UInt32
  | .unmap => some wnbdUnmapDescriptorSize
  | .write | .persistResOut => some range.dataLength
  | _ => none

def loadLockedBuffer (length : UInt32) (dataBufferSize : Nat) : Traced Unit :=
  if length.toNat ≤ dataBufferSize ∧ length ≠ 0 then do
    let _ ← loadNat .take (fetchCommandField 3)
    pure ()
  else pure ()

/-- The fields of the command the payload step reads; the value is
`DataBufferSize` where it is compared. -/
def loadFetchBuffer : Option UInt32 → Traced Nat
  | none => pure 0
  | some length => do
      let dataBufferSize ← loadNat .take (fetchCommandField 4)
      loadLockedBuffer length dataBufferSize
      pure dataBufferSize

/-- The loop body for an element in hand. -/
def fetchElementAt (props : WnbdProperties) (round : FetchRound) (element : PendingElement) :
    Traced FetchedElement := do
  zeroMemory fetchRequest
  match element.srb.cdb with
  | none => pure (fetchElement props 0 round.tag element.range element.srb round.faults)
  | some cdb =>
      if validateScsiRequest props (some cdb) then do
        let requestType := scsiOpToWnbdReqType (cdb.asByte 0)
        storeNat (requestField 1) (requestTypeCode requestType)
        storeNat (requestField 0) round.tag.toNat
        storeCmd (fetchCommand props element.range cdb requestType)
        let dataBufferSize ← loadFetchBuffer (payloadLength element.range requestType)
        pure (fetchElement props (UInt32.ofNat dataBufferSize) round.tag element.range element.srb
          round.faults)
      else pure (fetchElement props 0 round.tag element.range element.srb round.faults)

def dispatchExitAt (hardRemove : Bool) (status : NtStatus) : Traced (Option NtStatus) :=
  if hardRemove then do
    storeNat (requestField 1) (requestTypeCode .disconnect)
    pure (some statusSuccess)
  else pure (some status)

/-- `dispatchLoop` on the buffer; `none` while the call still waits. -/
def dispatchLoopAt (props : WnbdProperties) :
    List FetchRound → Bool → NtStatus → Traced (Option NtStatus)
  | [], _, _ => pure none
  | round :: rest, hardRemove, status =>
      let atTop := hardRemove || round.raisedBeforeTop
      let atCheck := atTop || round.raisedBeforeCheck
      let atMove := atCheck || round.raisedBeforeMove
      let atExit := atMove || round.raisedBeforeExit
      if atTop then dispatchExitAt true status
      else if round.wait ≠ .deviceEvent then dispatchExitAt atExit status
      else if atCheck then dispatchExitAt true status
      else
        match round.popped with
        | none => dispatchLoopAt props rest atMove status
        | some element => do
            let fetched ← fetchElementAt props round element
            let status := fetched.verdict.status.getD status
            match fetched.verdict with
            | .invalid | .lockFailed _ | .noSrbBuffer => dispatchLoopAt props rest atMove status
            | .bufferTooSmall | .submit _ => dispatchExitAt atExit status

def wnbdDispatchRequestAt (props : WnbdProperties) (requestorPid : UInt32)
    (rounds : List FetchRound) : Traced (Option NtStatus) :=
  if props.pid ≠ requestorPid ∨ props.flags.useKernelNbd then pure (some statusAccessDenied)
  else dispatchLoopAt props rounds false statusSuccess

/-! ## Responses -/

def rspCommandField (index : Nat) : Region :=
  (whole wnbdIoctlSendRspCommand).field wnbdIoctlSendRspCommandFields index

def responseField (index : Nat) : Region := (rspCommandField 1).field wnbdIoResponseFields index

def responseStatusField (index : Nat) : Region := (responseField 2).field wnbdStatusFields index

def loadInformation (valid : Bool) : Traced Nat :=
  if valid then loadNat .take (responseStatusField 4) else pure 0

/-- What `SetSrbStatus` reads of the response's status; the sense fields only for
an SRB with a usable sense buffer. -/
def loadStatus (srb : Srb) : Traced WnbdStatus := do
  let scsiStatus ← loadNat .take (responseStatusField 0)
  let reported : WnbdStatus :=
    { scsiStatus := UInt8.ofNat scsiStatus, senseKey := 0, asc := 0, ascq := 0, information := 0,
      informationValid := false }
  if srb.senseInfoBuffer.isSome ∧ senseDataSize ≤ srb.senseInfoBufferLength ∧
      srb.srbFlags &&& srbFlagsDisableAutosense = 0 then do
    let senseKey ← loadNat .take (responseStatusField 1)
    let asc ← loadNat .take (responseStatusField 2)
    let ascq ← loadNat .take (responseStatusField 3)
    let validWord ← loadNat .take (responseStatusField 7)
    let information ← loadInformation (validWord.testBit 8)
    pure
      { reported with
        senseKey := UInt8.ofNat senseKey
        asc := UInt8.ofNat asc
        ascq := UInt8.ofNat ascq
        information := UInt64.ofNat information
        informationValid := validWord.testBit 8 }
  else pure reported

def loadResponseBuffer (carriesData : Bool) : Traced (Bool × Nat) :=
  if carriesData then do
    let dataBuffer ← loadNat .take (rspCommandField 3)
    let dataBufferSize ← loadNat .take (rspCommandField 4)
    pure (decide (dataBuffer ≠ 0), dataBufferSize)
  else pure (false, 0)

/-- The status record is only looked into when it reports an error. -/
def loadErrorStatus (scsiStatus : Nat) (srb : Srb) : Traced WnbdStatus :=
  if scsiStatus = 0 then pure ⟨0, 0, 0, 0, 0, false⟩ else loadStatus srb

/-- A found element is answered before the response is looked at when its CDB or
its buffer is missing. -/
def missingSrbParts (element : SubmittedElement) : Bool :=
  !element.aborted && (element.srb.cdb.isNone ||
    ((isReadSrb element.srb || isPerResInSrb element.srb) && element.faults.storResult ≠ 0))

def wnbdHandleResponseAt (device : ListedDevice) (requestorPid : UInt32) : Traced NtStatus :=
  let props := propertiesOf device.properties
  if props.pid ≠ requestorPid ∨ props.flags.useKernelNbd then pure statusAccessDenied
  else do
    let requestHandle ← loadNat .take (responseField 0)
    match device.submitted requestHandle with
    | none => pure statusNotFound
    | some element =>
        if missingSrbParts element then pure statusInternalError
        else do
          let scsiStatus ← loadNat .take (responseStatusField 0)
          let (hasBuffer, dataBufferSize) ← loadResponseBuffer
            (scsiStatus = 0 && (isReadSrb element.srb || isPerResInSrb element.srb))
          let status ← loadErrorStatus scsiStatus element.srb
          pure (applyResponse element.range element.aborted element.srb
            { requestHandle := UInt64.ofNat requestHandle, status, hasBuffer,
              dataBufferSize := UInt32.ofNat dataBufferSize } element.faults).status

end Wnbd.Ioctl
