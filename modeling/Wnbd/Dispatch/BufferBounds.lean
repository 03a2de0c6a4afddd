import Wnbd.Dispatch.Response

/-!
# Bounds on the SRB data buffer

An accepted SRB has `dataTransferLength` bytes behind its data buffer.  The
admission check compares that length with the byte count of the command, but
only rejects commands that name too few bytes; the copies and the reported
transfer length use the byte count.  `srb_buffer_bounds_iff` says when the two
agree well enough to stay inside the buffer.
-/

set_option autoImplicit false

namespace Wnbd.Dispatch

open Wnbd.Scsi

def FetchVerdict.copiedOut : FetchVerdict → Nat
  | .submit (.srbBytes count) => count.toNat
  | _ => 0

/-- Nothing the driver does with an accepted SRB passes the end of its data
buffer: the fetch, a drain, and any response to the submitted request. -/
structure StaysInSrbBuffer (props : WnbdProperties) (srb : Srb) (range : ElementRange) : Prop where
  copiedOut : ∀ bufferSize tag faults,
    (fetchElement props bufferSize tag range srb faults).verdict.copiedOut ≤
      srb.dataTransferLength.toNat
  refused : ∀ bufferSize tag faults,
    (∀ payload, (fetchElement props bufferSize tag range srb faults).verdict ≠ .submit payload) →
    (fetchElement props bufferSize tag range srb faults).srb.dataTransferLength.toNat ≤
      srb.dataTransferLength.toNat
  aborted : (abortSrb srb).dataTransferLength.toNat ≤ srb.dataTransferLength.toNat
  written : ∀ bufferSize tag faults payload,
    (fetchElement props bufferSize tag range srb faults).verdict = .submit payload →
    ∀ aborted command responseFaults, ∀ write ∈ (applyResponse range aborted
        (fetchElement props bufferSize tag range srb faults).srb command responseFaults).writes,
      write.offset + write.length ≤ srb.dataTransferLength.toNat
  reported : ∀ bufferSize tag faults payload,
    (fetchElement props bufferSize tag range srb faults).verdict = .submit payload →
    ∀ aborted command responseFaults, (applyResponse range aborted
        (fetchElement props bufferSize tag range srb faults).srb command
        responseFaults).srb.dataTransferLength.toNat ≤
      srb.dataTransferLength.toNat

/-- The byte count an accepted command asks for, as the 32 bit product the
driver computes from the block count of the CDB or the unmap descriptor. -/
def requestedBytes (props : WnbdProperties) (srb : Srb) (cdb : Cdb) : Nat :=
  match rangeFormat (cdb.asByte 0) with
  | some format => transferLength cdb format * props.blockSize.toNat % 2 ^ 32
  | none =>
      if cdb.asByte 0 = scsiopUnmap then
        (unmapLbaCount (srb.dataBuffer.getD fun _ => 0)).toNat * props.blockSize.toNat % 2 ^ 32
      else srb.dataTransferLength.toNat

/-- The command asks for no more bytes than the SRB has, unless the device's
flags make the fetch refuse it. -/
def AsksWithinTransfer (props : WnbdProperties) (srb : Srb) : Prop :=
  ∀ cdb, srb.cdb = some cdb → validateScsiRequest props (some cdb) = true →
    requestedBytes props srb cdb ≤ srb.dataTransferLength.toNat

theorem accepted_dataLength (props : WnbdProperties) (srb : Srb) (range : ElementRange) (cdb : Cdb)
    (accepted : acceptedRange props srb = some range) (found : srb.cdb = some cdb) :
    range.dataLength.toNat = requestedBytes props srb cdb := by
  obtain ⟨actual, actualFound, kind⟩ := acceptedRange_cases props srb range accepted
  cases found.symm.trans actualFound
  unfold requestedBytes
  rcases kind with ranged | ⟨buffer, unmap⟩ | reserve
  · obtain ⟨format, formatExact⟩ := rangeFormat_of_mem (cdb.asByte 0) ranged.member
    rw [formatExact, ranged.queued]
    simp only [UInt32.toNat_mul, srbCdbGetRange_length cdb format formatExact]
  · rw [unmap.opcode, unmap.queued, unmap.hasBuffer]
    simp [rangeFormat, UInt32.toNat_mul, scsiopUnmap, scsiopRead6, scsiopWrite6, scsiopRead,
      scsiopWrite, scsiopSynchronizeCache, scsiopRead12, scsiopWrite12, scsiopRead16,
      scsiopWrite16, scsiopSynchronizeCache16]
  · rw [reserve.queued]
    have opcode := reserve.opcode
    simp only [List.mem_cons, List.not_mem_nil, or_false] at opcode
    rcases opcode with isIn | isOut
    · rw [isIn]; rfl
    · rw [isOut]; rfl

/-! ## What each stage may use -/

theorem fetchVerdict_copiedOut (props : WnbdProperties) (bufferSize : UInt32)
    (range : ElementRange) (faults : FetchFaults) (requestType : WnbdRequestType) :
    (fetchVerdict props bufferSize range faults requestType).copiedOut ≤
      range.dataLength.toNat := by
  cases requestType <;> unfold fetchVerdict <;> (try split_ifs) <;> simp [FetchVerdict.copiedOut]

theorem submitted_validated (props : WnbdProperties) (bufferSize : UInt32) (tag : UInt64)
    (range : ElementRange) (srb : Srb) (faults : FetchFaults) (payload : FetchPayload)
    (submitted : (fetchElement props bufferSize tag range srb faults).verdict = .submit payload) :
    ∃ cdb, srb.cdb = some cdb ∧ validateScsiRequest props (some cdb) = true := by
  unfold fetchElement at submitted
  cases found : srb.cdb with
  | none => simp [found] at submitted
  | some cdb =>
      refine ⟨cdb, rfl, ?_⟩
      by_contra invalid
      simp [found, invalid] at submitted

theorem fetchElement_copiedOut (props : WnbdProperties) (bufferSize : UInt32) (tag : UInt64)
    (range : ElementRange) (srb : Srb) (faults : FetchFaults) :
    (fetchElement props bufferSize tag range srb faults).verdict.copiedOut ≤
      range.dataLength.toNat := by
  unfold fetchElement
  dsimp only
  split
  · simp [FetchVerdict.copiedOut]
  · split
    · exact fetchVerdict_copiedOut props bufferSize range faults _
    · simp [FetchVerdict.copiedOut]

/-- With a large enough user buffer and no failure, a valid element is submitted. -/
theorem fetchElement_submits (props : WnbdProperties) (tag : UInt64) (range : ElementRange)
    (srb : Srb) (cdb : Cdb) (found : srb.cdb = some cdb)
    (valid : validateScsiRequest props (some cdb) = true) :
    ∃ payload, (fetchElement props 0xFFFFFFFF tag range srb ⟨0, 0⟩).verdict = .submit payload := by
  have fits : ¬ range.dataLength > 0xFFFFFFFF := by
    rw [gt_iff_lt, UInt32.lt_iff_toNat_lt]
    have := range.dataLength.toNat_lt
    simp
    omega
  have verdict : ∃ payload, fetchVerdict props 0xFFFFFFFF range ⟨0, 0⟩
      (scsiOpToWnbdReqType (cdb.asByte 0)) = .submit payload := by
    unfold fetchVerdict
    cases scsiOpToWnbdReqType (cdb.asByte 0) <;>
      simp only [fits, if_false, ne_eq, not_true_eq_false]
    case write | persistResOut => split <;> exact ⟨_, rfl⟩
    case unmap => exact ⟨_, rfl⟩
    all_goals exact ⟨_, rfl⟩
  obtain ⟨payload, verdictExact⟩ := verdict
  refine ⟨payload, ?_⟩
  simp [fetchElement, found, valid, verdictExact]

def successfulResponse : SendRspCommand :=
  { requestHandle := 0
    status := ⟨0, 0, 0, 0, 0, false⟩
    hasBuffer := false
    dataBufferSize := 0 }

theorem applyResponse_success (range : ElementRange) (srb : Srb) (cdb : Cdb)
    (found : srb.cdb = some cdb) :
    (applyResponse range false srb successfulResponse ⟨0, 0⟩).srb.dataTransferLength =
      range.dataLength := by
  simp [applyResponse, reportStatus, successfulResponse, found]
  split <;> rfl

/-- The driver stays inside the SRB buffer exactly when the command asks for no
more bytes than the SRB's transfer length, or is refused by the fetch. -/
theorem srb_buffer_bounds_iff (props : WnbdProperties) (srb : Srb) (range : ElementRange)
    (accepted : acceptedRange props srb = some range) :
    StaysInSrbBuffer props srb range ↔ AsksWithinTransfer props srb := by
  constructor
  · intro bounds cdb found valid
    obtain ⟨payload, submitted⟩ := fetchElement_submits props 0 range srb cdb found valid
    have keeps := fetchElement_srb props 0xFFFFFFFF 0 range srb ⟨0, 0⟩
    have reported := bounds.reported 0xFFFFFFFF 0 ⟨0, 0⟩ payload submitted false
      successfulResponse ⟨0, 0⟩
    rw [applyResponse_success range _ cdb (keeps.1.trans found)] at reported
    rwa [← accepted_dataLength props srb range cdb accepted found]
  · intro asks
    -- Past this point the element's length is known to fit whenever it is submitted.
    have fits : ∀ bufferSize tag faults payload,
        (fetchElement props bufferSize tag range srb faults).verdict = .submit payload →
        range.dataLength.toNat ≤ srb.dataTransferLength.toNat := by
      intro bufferSize tag faults payload submitted
      obtain ⟨cdb, found, valid⟩ :=
        submitted_validated props bufferSize tag range srb faults payload submitted
      rw [accepted_dataLength props srb range cdb accepted found]
      exact asks cdb found valid
    refine ⟨?_, ?_, by simp [abortSrb], ?_, ?_⟩
    · intro bufferSize tag faults
      have bound := fetchElement_copiedOut props bufferSize tag range srb faults
      cases verdict : (fetchElement props bufferSize tag range srb faults).verdict with
      | submit payload =>
          rw [verdict] at bound
          exact bound.trans (fits bufferSize tag faults payload verdict)
      | _ => simp [FetchVerdict.copiedOut]
    · intro bufferSize tag faults _
      rw [(fetchElement_srb props bufferSize tag range srb faults).2]
      simp
    · intro bufferSize tag faults payload submitted aborted command responseFaults write member
      exact ((applyResponse_bounds range aborted _ command responseFaults).1 write member).trans
        (fits bufferSize tag faults payload submitted)
    · intro bufferSize tag faults payload submitted aborted command responseFaults
      rcases (applyResponse_bounds range aborted (fetchElement props bufferSize tag range srb
        faults).srb command responseFaults).2 with kept | bounded
      · rw [kept, (fetchElement_srb props bufferSize tag range srb faults).2]
        simp
      · exact bounded.trans (fits bufferSize tag faults payload submitted)

/-! ## A write with a short buffer -/

def diskProps : WnbdProperties :=
  { instanceName := [100]
    flags := ⟨false, true, true, true, false, true⟩
    blockCount := 0x1000000
    blockSize := 512
    pid := 4 }

def write10Srb (blocks : UInt8) (length : UInt32) : Srb :=
  { cdb := some #v[0x2A, 0, 0, 0, 0, 0, 0, 0, blocks, 0, 0, 0, 0, 0, 0, 0]
    dataTransferLength := length
    dataBuffer := some fun _ => 0
    srbStatus := 0
    scsiStatus := 0
    srbFlags := 0
    senseInfoBuffer := none
    senseInfoBufferLength := 0 }

theorem srb_buffer_bounds_exact_write :
    StaysInSrbBuffer diskProps (write10Srb 1 512) ⟨0, 512, false⟩ := by
  refine (srb_buffer_bounds_iff diskProps (write10Srb 1 512) ⟨0, 512, false⟩ (by decide)).mpr ?_
  intro cdb found _
  cases found
  decide

/-- Two blocks are accepted with one block of buffer, and 1024 bytes are copied
out of it. -/
theorem short_write_overruns :
    acceptedRange diskProps (write10Srb 2 512) = some ⟨0, 1024, false⟩ ∧
      (fetchElement diskProps 4096 1 ⟨0, 1024, false⟩ (write10Srb 2 512) ⟨0, 0⟩).verdict =
        .submit (.srbBytes 1024) ∧
      ¬ StaysInSrbBuffer diskProps (write10Srb 2 512) ⟨0, 1024, false⟩ := by
  refine ⟨by decide, by decide, ?_⟩
  intro bounds
  have copied := bounds.copiedOut 4096 1 ⟨0, 0⟩
  exact absurd copied (by decide)

end Wnbd.Dispatch
