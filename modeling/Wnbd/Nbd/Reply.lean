import Wnbd.Nbd.Daemon
import Wnbd.Dispatch.Response

/-!
# Replies of the NBD server

`NbdDaemon::ProcessNbdReply` up to the response it hands to the driver, and what
a request fetched from the driver becomes on the wire.
-/

set_option autoImplicit false

namespace Wnbd.Nbd

open Wnbd.Scsi Wnbd.Dispatch

def errorInvalidParameter : UInt32 := 87
def errorFileTooLarge : UInt32 := 223

def scsiSenseMediumError : UInt8 := 0x03
def scsiAdsenseUnrecoveredError : UInt8 := 0x11

structure NbdReply where
  error : UInt32
  handle : UInt64
deriving DecidableEq, Repr

def zeroStatus : WnbdStatus :=
  { scsiStatus := 0, senseKey := 0, asc := 0, ascq := 0, information := 0,
    informationValid := false }

def wnbdSetSense (senseKey asc : UInt8) : WnbdStatus :=
  { zeroStatus with scsiStatus := scsistatCheckCondition, senseKey, asc }

def nbdGetReadResponseBufferSize (requestLength preallocatedBufferSize : UInt32) :
    Except UInt32 UInt32 :=
  if requestLength > preallocatedBufferSize then .error errorFileTooLarge else .ok requestLength

def preallocatedRBuffSz : UInt32 := wnbdDefaultMaxTransferLength

/-- The response to a reply whose entry was found; the payload of a successful
read is received into the preallocated buffer. -/
def nbdResponse (request : PendingRequestInfo) (reply : NbdReply) :
    Except UInt32 SendRspCommand :=
  let status := if reply.error ≠ 0 then
    wnbdSetSense scsiSenseMediumError scsiAdsenseUnrecoveredError else zeroStatus
  if reply.error = 0 ∧ request.requestType = .read then
    (nbdGetReadResponseBufferSize request.length preallocatedRBuffSz).map fun dataBufferSize =>
      { requestHandle := reply.handle, status, hasBuffer := true, dataBufferSize }
  else .ok { requestHandle := reply.handle, status, hasBuffer := false, dataBufferSize := 0 }

abbrev PendingRequests := UInt64 → Option PendingRequestInfo

/-- `emplace` keeps an entry that is already there. -/
def PendingRequests.emplace (pending : PendingRequests) (info : PendingRequestInfo) :
    PendingRequests :=
  if (pending info.requestHandle).isSome then pending
  else Function.update pending info.requestHandle (some info)

/-- The lookup, which erases the entry, and the response. -/
def processNbdReply (pending : PendingRequests) (reply : NbdReply) :
    PendingRequests × Except UInt32 SendRspCommand :=
  match pending reply.handle with
  | none => (pending, .error errorInvalidParameter)
  | some request => (Function.update pending reply.handle none, nbdResponse request reply)

/-! ## From a fetched request to the wire -/

/-- What the daemon registers and sends for a request with this handle. -/
structure SentFor (handle : UInt64) (sent : SentRequest) : Prop where
  registered : sent.info.requestHandle = handle
  framed : ∃ header, decodeHeader sent.frame = some header ∧ header.handle = handle
  fits : sent.info.requestType = .read → sent.info.length ≤ preallocatedRBuffSz

theorem sentFor_header (offset : UInt64) (length type : UInt32) (handle : UInt64)
    (info : PendingRequestInfo) (payload : List UInt8) (registered : info.requestHandle = handle)
    (fits : info.requestType = .read → info.length ≤ preallocatedRBuffSz) :
    SentFor handle ⟨info, nbdEncodeRequest offset length handle type ++ payload⟩ :=
  ⟨registered, ⟨_, decodeHeader_encode offset length handle type payload, rfl⟩, fits⟩

theorem sentFor_bare (offset : UInt64) (length type : UInt32) (handle : UInt64)
    (info : PendingRequestInfo) (registered : info.requestHandle = handle)
    (fits : info.requestType = .read → info.length ≤ preallocatedRBuffSz) :
    SentFor handle ⟨info, nbdRequest offset length handle type⟩ := by
  have header := decodeHeader_encode offset length handle type []
  rw [List.append_nil] at header
  exact ⟨registered, ⟨_, header, rfl⟩, fits⟩

theorem blocks_mul_le (dataLength blockSize : UInt32) :
    dataLength / blockSize * blockSize ≤ dataLength := by
  rw [UInt32.le_iff_toNat_le, UInt32.toNat_mul, UInt32.toNat_div]
  exact (Nat.mod_le _ _).trans (Nat.div_mul_le_self _ _)

/-- Every request the driver submits has a handler in the daemon, which clears
the persistent reservation flag. -/
theorem fetched_sentFor (props : WnbdProperties) (bufferSize : UInt32) (tag : UInt64)
    (range : ElementRange) (srb : Srb) (faults : FetchFaults) (payload : FetchPayload)
    (noPersistRes : props.flags.persistResSupported = false)
    (fits : ∀ cdb, srb.cdb = some cdb → scsiOpToWnbdReqType (cdb.asByte 0) = .read →
      range.dataLength ≤ preallocatedRBuffSz)
    (submitted : (fetchElement props bufferSize tag range srb faults).verdict = .submit payload)
    (buffer : Nat → UInt8) :
    ∃ sent, wnbdHandleRequest props (fetchElement props bufferSize tag range srb faults).request
      payload buffer = some sent ∧ SentFor tag sent := by
  unfold fetchElement at submitted ⊢
  simp only [Srb.setDataTransferLength_cdb] at submitted ⊢
  cases found : srb.cdb with
  | none => simp [found] at submitted
  | some cdb =>
      simp only [found] at submitted ⊢
      split at submitted
      case isFalse => cases submitted
      case isTrue valid =>
        rw [if_pos valid]
        dsimp only at submitted ⊢
        unfold validateScsiRequest at valid
        cases kind : scsiOpToWnbdReqType (cdb.asByte 0) with
        | read =>
            refine ⟨_, by simp only [fetchCommand, wnbdHandleRequest]; rfl,
              sentFor_bare _ _ _ tag _ rfl fun _ => ?_⟩
            exact UInt32.le_trans (blocks_mul_le range.dataLength props.blockSize)
              (fits cdb found kind)
        | write =>
            exact ⟨_, by simp only [fetchCommand, wnbdHandleRequest]; rfl,
              sentFor_header _ _ _ tag _ _ rfl fun isRead => by cases isRead⟩
        | flush =>
            simp only [kind, Bool.and_eq_true] at valid
            exact ⟨_, by simp only [fetchCommand, wnbdHandleRequest, valid.2, if_true]; rfl,
              sentFor_bare _ _ _ tag _ rfl fun isRead => by cases isRead⟩
        | unmap =>
            simp only [kind, Bool.and_eq_true] at valid
            simp only [kind, fetchVerdict] at submitted
            split_ifs at submitted
            cases submitted
            exact ⟨_, by simp only [fetchCommand, wnbdHandleRequest, valid.2, if_true]; rfl,
              sentFor_bare _ _ _ tag _ rfl fun isRead => by cases isRead⟩
        | persistResIn => simp [kind, noPersistRes] at valid
        | persistResOut => simp [kind, noPersistRes] at valid
        | unknown => simp [kind] at valid
        | disconnect => simp [kind] at valid

/-! ## When the driver accepts a response -/

/-- With nothing failing, a response to an element that was not aborted succeeds. -/
theorem applyResponse_success (range : ElementRange) (srb : Srb) (command : SendRspCommand)
    (cdb : srb.cdb ≠ none) (buffered : command.hasBuffer = false → command.dataBufferSize = 0) :
    (applyResponse range false srb command ⟨0, 0⟩).status = statusSuccess := by
  have hasCdb : srb.cdb.isNone = false := by
    cases found : srb.cdb with
    | none => exact absurd found cdb
    | some _ => rfl
  unfold applyResponse
  dsimp only
  rw [if_neg (by simp [hasCdb]), if_neg (by simp)]
  split
  · rw [if_neg ?_, if_neg (by simp)]
    rintro ⟨absent, sized⟩
    rw [buffered (Bool.eq_false_iff.mpr absent)] at sized
    exact absurd sized (by decide)
  · rfl

theorem nbdResponse_buffered (request : PendingRequestInfo) (reply : NbdReply)
    (command : SendRspCommand) (responded : nbdResponse request reply = .ok command) :
    command.requestHandle = reply.handle ∧
      (command.hasBuffer = false → command.dataBufferSize = 0) := by
  unfold nbdResponse nbdGetReadResponseBufferSize at responded
  dsimp only at responded
  split_ifs at responded <;> cases responded <;> exact ⟨rfl, fun _ => by trivial⟩

/-- An entry that fits the preallocated buffer can always be answered. -/
theorem nbdResponse_ok (request : PendingRequestInfo) (reply : NbdReply)
    (fits : request.requestType = .read → request.length ≤ preallocatedRBuffSz) :
    ∃ command, nbdResponse request reply = .ok command := by
  unfold nbdResponse nbdGetReadResponseBufferSize
  dsimp only
  by_cases read : reply.error = 0 ∧ request.requestType = .read
  · have small : ¬ request.length > preallocatedRBuffSz := UInt32.not_lt.mpr (fits read.2)
    rw [if_pos read, if_neg small]
    exact ⟨_, rfl⟩
  · rw [if_neg read]
    exact ⟨_, rfl⟩

end Wnbd.Nbd
