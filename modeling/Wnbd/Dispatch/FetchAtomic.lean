import Wnbd.Dispatch.BufferBounds
import Wnbd.Dispatch.Fetch
import Wnbd.Foundation.LastMatch

/-!
# What a fetch returns and what it moved

A fetch should return an I/O request exactly when it put that element on the
submitted list.  `fetch_atomic_iff` gives the inputs for which it does not: a
status or a request left over from an earlier round, and a removal flag raised
between the check and the insertion.
-/

set_option autoImplicit false

namespace Wnbd.Dispatch

open Wnbd.Scsi

/-- The removal flag became set after an element was moved. -/
def DispatchResult.RemovedAfterMove (result : DispatchResult) : Prop :=
  result.hardRemoveAtMove = false ∧ result.hardRemoveAtExit = true

structure FetchAtomic (result : DispatchResult) : Prop where
  returned : ∀ handle requestType, requestType.IsIo → result.status = statusSuccess →
    result.request.requestType = requestType → result.request.requestHandle = handle →
    result.moved = [⟨handle, requestType⟩]
  moved : ∀ handle requestType, result.moved = [⟨handle, requestType⟩] →
    result.RemovedAfterMove ∨ (requestType.IsIo ∧ result.status = statusSuccess ∧
      result.request.requestType = requestType ∧ result.request.requestHandle = handle)
  closed : result.status ≠ statusSuccess ∨ result.request.requestType = .disconnect →
    result.moved = [] ∨ result.RemovedAfterMove

/-! ## Rounds by their inputs -/

namespace FetchRound

def requestType (round : FetchRound) : WnbdRequestType :=
  match round.popped.bind (·.srb.cdb) with
  | some cdb => scsiOpToWnbdReqType (cdb.asByte 0)
  | none => .unknown

def Takes (round : FetchRound) : Prop := round.popped.isSome = true

def Validates (props : WnbdProperties) (round : FetchRound) : Prop :=
  ∃ element, round.popped = some element ∧ validateScsiRequest props element.srb.cdb = true

def lockLength (round : FetchRound) : UInt32 :=
  match round.popped, round.requestType with
  | some _, .unmap => wnbdUnmapDescriptorSize
  | some element, .write => element.range.dataLength
  | some element, .persistResOut => element.range.dataLength
  | _, _ => 0

def LocksBuffer (props : WnbdProperties) (bufferSize : UInt32) (round : FetchRound) : Prop :=
  round.Validates props ∧ round.lockLength ≤ bufferSize ∧ round.lockLength ≠ 0

def LockFails (props : WnbdProperties) (bufferSize : UInt32) (round : FetchRound) : Prop :=
  round.LocksBuffer props bufferSize ∧ round.faults.lockStatus ≠ 0

/-- The buffer was locked and `StorPortGetSystemAddress` failed. -/
def Unmapped (props : WnbdProperties) (bufferSize : UInt32) (round : FetchRound) : Prop :=
  round.LocksBuffer props bufferSize ∧ round.faults.lockStatus = 0 ∧
    round.requestType ≠ .unmap ∧ round.faults.storResult ≠ 0

def Submits (props : WnbdProperties) (bufferSize : UInt32) (round : FetchRound) : Prop :=
  round.Validates props ∧ round.lockLength ≤ bufferSize ∧
    ¬ round.LockFails props bufferSize ∧ ¬ round.Unmapped props bufferSize

structure Retries (props : WnbdProperties) (bufferSize : UInt32) (round : FetchRound) : Prop where
  wait : round.wait = .deviceEvent
  top : round.raisedBeforeTop = false
  check : round.raisedBeforeCheck = false
  move : round.raisedBeforeMove = false
  unserved : ¬ round.Takes ∨ (round.Takes ∧ ¬ round.Validates props) ∨
    round.LockFails props bufferSize ∨ round.Unmapped props bufferSize

end FetchRound

open FetchRound

/-- `Status` holds an error after these rounds: the last buffer lock failed. -/
def StaleError (props : WnbdProperties) (bufferSize : UInt32) (earlier : List FetchRound) : Prop :=
  LastMatch (LockFails props bufferSize) (LocksBuffer props bufferSize) earlier

/-- The caller's request holds an I/O type after these rounds and `Status` is
clear: the last element taken could not be mapped, or none was taken and the
caller passed such a type in. -/
def StaleRequest (props : WnbdProperties) (bufferSize : UInt32) (initial : WnbdIoRequest)
    (earlier : List FetchRound) : Prop :=
  LastMatch (Unmapped props bufferSize) Takes earlier ∨
    ((∀ round ∈ earlier, ¬ round.Takes) ∧ initial.requestType.IsIo)

/-- The call leaves through its wait with the flag clear, and what it returns is
`stale`. -/
structure LeavesStale (stale : Prop) (last : FetchRound) : Prop where
  wait : last.wait ≠ .deviceEvent
  check : last.raisedBeforeCheck = false
  move : last.raisedBeforeMove = false
  exit : last.raisedBeforeExit = false
  stale : stale

/-- The call moves an element although the flag was raised since its check, or
moves one that needs no buffer while `Status` holds an `error`. -/
structure MovesStale (props : WnbdProperties) (bufferSize : UInt32) (error : Prop)
    (last : FetchRound) : Prop where
  wait : last.wait = .deviceEvent
  check : last.raisedBeforeCheck = false
  submits : last.Submits props bufferSize
  wrong : last.raisedBeforeMove = true ∨
    (last.raisedBeforeExit = false ∧ ¬ last.LocksBuffer props bufferSize ∧ error)

/-- The inputs on which status, request and submitted list come apart. -/
def BreaksAtomicity (props : WnbdProperties) (bufferSize : UInt32) (initial : WnbdIoRequest)
    (rounds : List FetchRound) : Prop :=
  ∃ earlier last rest, rounds = earlier ++ last :: rest ∧
    (∀ round ∈ earlier, round.Retries props bufferSize) ∧ last.raisedBeforeTop = false ∧
    (LeavesStale (StaleRequest props bufferSize initial earlier) last ∨
      MovesStale props bufferSize (StaleError props bufferSize earlier) last)

/-! ## What the loop body does in each kind of round -/

inductive TakenRound (props : WnbdProperties) (bufferSize : UInt32) (round : FetchRound)
    (fetched : FetchedElement) : Prop
  | invalid (refused : ¬ round.Validates props) (verdict : fetched.verdict = .invalid)
      (request : fetched.request = .zero)
  | tooSmall (verdict : fetched.verdict = .bufferTooSmall)
      (unserved : ¬ round.Submits props bufferSize ∧ ¬ round.LocksBuffer props bufferSize)
      (valid : round.Validates props)
  | lockFailed (fails : round.LockFails props bufferSize)
      (verdict : fetched.verdict = .lockFailed round.faults.lockStatus)
  | unmapped (unmapped : round.Unmapped props bufferSize)
      (verdict : fetched.verdict = .noSrbBuffer)
      (isIo : fetched.request.requestType.IsIo)
  | submits (submits : round.Submits props bufferSize) (payload : FetchPayload)
      (verdict : fetched.verdict = .submit payload)
      (status : (FetchVerdict.submit payload).status = some statusSuccess ∧
          round.LocksBuffer props bufferSize ∨
        (FetchVerdict.submit payload).status = none ∧ ¬ round.LocksBuffer props bufferSize)
      (isIo : fetched.request.requestType.IsIo) (handle : fetched.request.requestHandle = round.tag)

/-- The checks of the loop body by the length of buffer to lock. -/
theorem fetchVerdict_lockLength (props : WnbdProperties) (bufferSize : UInt32) (round : FetchRound)
    (element : PendingElement) (popped : round.popped = some element) :
    fetchVerdict props bufferSize element.range round.faults round.requestType =
      if round.lockLength > bufferSize then .bufferTooSmall
      else if round.lockLength = 0 then .submit .untouched
      else if round.faults.lockStatus ≠ 0 then .lockFailed round.faults.lockStatus
      else if round.requestType = .unmap then
        .submit (.unmapDescriptor (element.range.startingLbn / props.blockSize.toUInt64)
          (element.range.dataLength / props.blockSize))
      else if round.faults.storResult ≠ 0 then .noSrbBuffer
      else .submit (.srbBytes element.range.dataLength) := by
  have notBelow : ¬ (0 : UInt32) > bufferSize := by simp
  unfold FetchRound.lockLength
  cases kind : round.requestType <;> simp only [popped, fetchVerdict]
  case unmap => simp [wnbdUnmapDescriptorSize]
  case write | persistResOut => simp
  all_goals simp only [notBelow, if_false, if_true]

theorem fetchElement_verdict (props : WnbdProperties) (bufferSize : UInt32) (round : FetchRound)
    (element : PendingElement) (popped : round.popped = some element)
    (valid : round.Validates props) :
    (fetchElement props bufferSize round.tag element.range element.srb round.faults).verdict =
      fetchVerdict props bufferSize element.range round.faults round.requestType := by
  obtain ⟨other, otherPopped, isValid⟩ := valid
  cases popped.symm.trans otherPopped
  cases found : element.srb.cdb with
  | none =>
      rw [found] at isValid
      cases isValid
  | some cdb =>
      rw [found] at isValid
      have kind : round.requestType = scsiOpToWnbdReqType (cdb.asByte 0) := by
        simp [FetchRound.requestType, popped, found]
      rw [kind]
      simp [fetchElement, found, isValid]

theorem fetchElement_taken (props : WnbdProperties) (bufferSize : UInt32) (round : FetchRound)
    (element : PendingElement) (popped : round.popped = some element) :
    TakenRound props bufferSize round
      (fetchElement props bufferSize round.tag element.range element.srb round.faults) := by
  have validates : round.Validates props ↔ validateScsiRequest props element.srb.cdb = true := by
    constructor
    · rintro ⟨other, otherPopped, valid⟩
      cases popped.symm.trans otherPopped
      exact valid
    · exact fun valid => ⟨element, popped, valid⟩
  cases found : element.srb.cdb with
  | none =>
      refine .invalid (fun valid => ?_) (by simp [fetchElement, found])
        (by simp [fetchElement, found])
      have refused := validates.mp valid
      rw [found] at refused
      cases refused
  | some cdb =>
      have kind : round.requestType = scsiOpToWnbdReqType (cdb.asByte 0) := by
        simp [FetchRound.requestType, popped, found]
      by_cases valid : validateScsiRequest props (some cdb) = true
      case neg =>
        refine .invalid (fun isValid => valid ?_) (by simp [fetchElement, found, valid])
          (by simp [fetchElement, found, valid])
        rw [← found]
        exact validates.mp isValid
      case pos =>
        have isValid : round.Validates props := validates.mpr (found ▸ valid)
        have isIo := validateScsiRequest_isIo props cdb valid
        have verdict := fetchElement_verdict props bufferSize round element popped isValid
        have request : (fetchElement props bufferSize round.tag element.range element.srb
            round.faults).request = ⟨round.tag, scsiOpToWnbdReqType (cdb.asByte 0),
              fetchCommand props element.range cdb (scsiOpToWnbdReqType (cdb.asByte 0))⟩ := by
          simp [fetchElement, found, valid]
        rw [← kind] at isIo
        rw [fetchVerdict_lockLength props bufferSize round element popped] at verdict
        rw [← kind] at request
        have requestIo : (fetchElement props bufferSize round.tag element.range element.srb
            round.faults).request.requestType.IsIo := by
          rw [request]
          exact isIo
        have handle : (fetchElement props bufferSize round.tag element.range element.srb
            round.faults).request.requestHandle = round.tag := by
          rw [request]
        by_cases small : round.lockLength > bufferSize
        · have tooLong : ¬ round.lockLength ≤ bufferSize := UInt32.not_le.mpr small
          rw [if_pos small] at verdict
          exact .tooSmall verdict ⟨fun submits => tooLong submits.2.1,
            fun locks => tooLong locks.2.1⟩ isValid
        have fits : round.lockLength ≤ bufferSize := UInt32.not_lt.mp small
        rw [if_neg small] at verdict
        by_cases empty : round.lockLength = 0
        · have noLock : ¬ round.LocksBuffer props bufferSize := fun locks => locks.2.2 empty
          rw [if_pos empty] at verdict
          exact .submits ⟨isValid, fits, fun fails => noLock fails.1,
            fun unmapped => noLock unmapped.1⟩ _ verdict (Or.inr ⟨rfl, noLock⟩) requestIo handle
        have locks : round.LocksBuffer props bufferSize := ⟨isValid, fits, empty⟩
        rw [if_neg empty] at verdict
        by_cases failed : round.faults.lockStatus ≠ 0
        · rw [if_pos failed] at verdict
          exact .lockFailed ⟨locks, failed⟩ verdict
        rw [if_neg failed] at verdict
        by_cases unmap : round.requestType = .unmap
        · rw [if_pos unmap] at verdict
          exact .submits ⟨isValid, fits, fun fails => failed fails.2,
            fun unmapped => unmapped.2.2.1 unmap⟩ _ verdict (Or.inl ⟨rfl, locks⟩) requestIo handle
        rw [if_neg unmap] at verdict
        by_cases stor : round.faults.storResult ≠ 0
        · rw [if_pos stor] at verdict
          exact .unmapped ⟨locks, not_not.mp failed, unmap, stor⟩ verdict requestIo
        rw [if_neg stor] at verdict
        exact .submits ⟨isValid, fits, fun fails => failed fails.2,
          fun unmapped => stor unmapped.2.2.2⟩ _ verdict (Or.inl ⟨rfl, locks⟩) requestIo handle

/-! ## The loop -/

def ErrorAfter (props : WnbdProperties) (bufferSize : UInt32) (status : NtStatus)
    (earlier : List FetchRound) : Prop :=
  StaleError props bufferSize earlier ∨
    (status ≠ statusSuccess ∧ ∀ round ∈ earlier, ¬ round.LocksBuffer props bufferSize)

def RequestAfter (props : WnbdProperties) (bufferSize : UInt32) (status : NtStatus)
    (request : WnbdIoRequest) (earlier : List FetchRound) : Prop :=
  LastMatch (Unmapped props bufferSize) Takes earlier ∨
    ((∀ round ∈ earlier, ¬ round.Takes) ∧ status = statusSuccess ∧ request.requestType.IsIo)

def afterRound (props : WnbdProperties) (bufferSize : UInt32) (round : FetchRound)
    (status : NtStatus) (request : WnbdIoRequest) : NtStatus × WnbdIoRequest :=
  match round.popped with
  | none => (status, request)
  | some element =>
      let fetched := fetchElement props bufferSize round.tag element.range element.srb
        round.faults
      (fetched.verdict.status.getD status, fetched.request)

/-- An element a retried round took and found valid was lost to its buffer. -/
theorem retries_lost (props : WnbdProperties) (bufferSize : UInt32) (round : FetchRound)
    (retries : round.Retries props bufferSize) (takes : round.Takes)
    (valid : round.Validates props) :
    round.LockFails props bufferSize ∨ round.Unmapped props bufferSize := by
  rcases retries.unserved with free | ⟨_, refused⟩ | lost
  · exact absurd takes free
  · exact absurd valid refused
  · exact lost

theorem retries_not_submits (props : WnbdProperties) (bufferSize : UInt32) (round : FetchRound)
    (retries : round.Retries props bufferSize) : ¬ round.Submits props bufferSize := by
  rintro ⟨valid, _, noFailure, mapped⟩
  have takes : round.Takes := by
    obtain ⟨element, popped, _⟩ := valid
    simp [Takes, popped]
  rcases retries_lost props bufferSize round retries takes valid with fails | unmapped
  · exact noFailure fails
  · exact mapped unmapped

theorem retries_locks (props : WnbdProperties) (bufferSize : UInt32) (round : FetchRound)
    (retries : round.Retries props bufferSize) (takes : round.Takes)
    (valid : round.Validates props) : round.LocksBuffer props bufferSize := by
  rcases retries_lost props bufferSize round retries takes valid with fails | unmapped
  · exact fails.1
  · exact unmapped.1

theorem takes_of_locks (props : WnbdProperties) (bufferSize : UInt32) (round : FetchRound)
    (locks : round.LocksBuffer props bufferSize) : round.Takes := by
  obtain ⟨⟨element, popped, _⟩, _⟩ := locks
  rw [Takes, popped]
  rfl

theorem errorAfter_cons (props : WnbdProperties) (bufferSize : UInt32) (round : FetchRound)
    (earlier : List FetchRound) (status : NtStatus) (request : WnbdIoRequest)
    (retries : round.Retries props bufferSize) :
    ErrorAfter props bufferSize status (round :: earlier) ↔
      ErrorAfter props bufferSize (afterRound props bufferSize round status request).1 earlier := by
  unfold ErrorAfter StaleError
  rw [LastMatch.cons, List.forall_mem_cons, or_assoc]
  refine or_congr_right ?_
  cases popped : round.popped with
  | none =>
      have idle : ¬ round.LocksBuffer props bufferSize := fun locks => by
        have takes := takes_of_locks props bufferSize round locks
        rw [Takes, popped] at takes
        cases takes
      simp [afterRound, popped, LockFails, idle]
  | some element =>
      have takes : round.Takes := by simp [Takes, popped]
      have taken := fetchElement_taken props bufferSize round element popped
      simp only [afterRound, popped]
      cases taken with
      | invalid refused verdict request =>
          have idle : ¬ round.LocksBuffer props bufferSize := fun locks => refused locks.1
          rw [verdict]
          simp [FetchVerdict.status, LockFails, idle]
      | tooSmall verdict unserved valid =>
          exact absurd (retries_locks props bufferSize round retries takes valid) unserved.2
      | lockFailed fails verdict =>
          rw [verdict]
          simp [FetchVerdict.status, fails, fails.1, fails.2, statusSuccess]
      | unmapped unmapped verdict isIo =>
          rw [verdict]
          simp [FetchVerdict.status, LockFails, unmapped.1, unmapped.2.1]
      | submits submits payload verdict status isIo handle =>
          rcases retries.unserved with free | ⟨_, refused⟩ | fails | unmapped
          · exact absurd (by rw [Takes, popped]; rfl) free
          · exact absurd submits.1 refused
          · exact absurd fails submits.2.2.1
          · exact absurd unmapped submits.2.2.2

theorem requestAfter_cons (props : WnbdProperties) (bufferSize : UInt32) (round : FetchRound)
    (earlier : List FetchRound) (status : NtStatus) (request : WnbdIoRequest)
    (retries : round.Retries props bufferSize) :
    RequestAfter props bufferSize status request (round :: earlier) ↔
      RequestAfter props bufferSize (afterRound props bufferSize round status request).1
        (afterRound props bufferSize round status request).2 earlier := by
  unfold RequestAfter
  rw [LastMatch.cons, List.forall_mem_cons, or_assoc]
  refine or_congr_right ?_
  cases popped : round.popped with
  | none =>
      have idle : ¬ round.Takes := by simp [Takes, popped]
      have noUnmapped : ¬ round.Unmapped props bufferSize := fun unmapped =>
        idle (takes_of_locks props bufferSize round unmapped.1)
      simp [afterRound, popped, idle, noUnmapped]
  | some element =>
      have takes : round.Takes := by simp [Takes, popped]
      have taken := fetchElement_taken props bufferSize round element popped
      simp only [afterRound, popped, takes, not_true_eq_false, false_and, or_false]
      cases taken with
      | invalid refused verdict request =>
          have noUnmapped : ¬ round.Unmapped props bufferSize := fun unmapped =>
            refused unmapped.1.1
          rw [request]
          simp [noUnmapped, WnbdIoRequest.zero, WnbdRequestType.IsIo]
      | tooSmall verdict unserved valid =>
          exact absurd (retries_locks props bufferSize round retries takes valid) unserved.2
      | lockFailed fails verdict =>
          have noUnmapped : ¬ round.Unmapped props bufferSize := fun unmapped =>
            fails.2 unmapped.2.1
          rw [verdict]
          simp [FetchVerdict.status, noUnmapped, fails.2, statusSuccess]
      | unmapped unmapped verdict isIo =>
          rw [verdict]
          simp [FetchVerdict.status, unmapped, isIo]
      | submits submits payload verdict status isIo handle =>
          exact absurd submits (retries_not_submits props bufferSize round retries)

def BreaksFrom (props : WnbdProperties) (bufferSize : UInt32) (status : NtStatus)
    (request : WnbdIoRequest) (rounds : List FetchRound) : Prop :=
  ∃ earlier last rest, rounds = earlier ++ last :: rest ∧
    (∀ round ∈ earlier, round.Retries props bufferSize) ∧ last.raisedBeforeTop = false ∧
    (LeavesStale (RequestAfter props bufferSize status request earlier) last ∨
      MovesStale props bufferSize (ErrorAfter props bufferSize status earlier) last)

/-- What goes wrong in the round the call ends in. -/
def WrongRound (props : WnbdProperties) (bufferSize : UInt32) (status : NtStatus)
    (request : WnbdIoRequest) (round : FetchRound) : Prop :=
  round.raisedBeforeTop = false ∧
    (LeavesStale (status = statusSuccess ∧ request.requestType.IsIo) round ∨
      MovesStale props bufferSize (status ≠ statusSuccess) round)

theorem breaksFrom_cons (props : WnbdProperties) (bufferSize : UInt32) (status : NtStatus)
    (request : WnbdIoRequest) (round : FetchRound) (rounds : List FetchRound) :
    BreaksFrom props bufferSize status request (round :: rounds) ↔
      WrongRound props bufferSize status request round ∨
        (round.Retries props bufferSize ∧ BreaksFrom props bufferSize
          (afterRound props bufferSize round status request).1
          (afterRound props bufferSize round status request).2 rounds) := by
  have requestNow : RequestAfter props bufferSize status request [] ↔
      (status = statusSuccess ∧ request.requestType.IsIo) := by
    simp [RequestAfter, LastMatch.nil]
  have errorNow : ErrorAfter props bufferSize status [] ↔ status ≠ statusSuccess := by
    simp [ErrorAfter, StaleError, LastMatch.nil]
  refine (Reaches.cons round rounds).trans (or_congr ?_ (and_congr_right fun retries => ?_))
  · rw [propext requestNow, propext errorNow]
    rfl
  · refine Reaches.congr fun earlier last => ?_
    rw [propext (requestAfter_cons props bufferSize round earlier status request retries),
      propext (errorAfter_cons props bufferSize round earlier status request retries)]

/-! ## The exits -/

theorem exit_disconnected (status : NtStatus) (request : WnbdIoRequest) (atMove : Bool) :
    FetchAtomic (dispatchExit true status request [] atMove) where
  returned := by
    rintro handle requestType isIo _ rfl
    exact isIo.elim
  moved := fun _ _ moved => by cases moved
  closed := fun _ => Or.inl rfl

theorem exit_unmoved (status : NtStatus) (request : WnbdIoRequest) (atMove : Bool) :
    FetchAtomic (dispatchExit false status request [] atMove) ↔
      ¬ (status = statusSuccess ∧ request.requestType.IsIo) := by
  constructor
  · rintro atomic ⟨success, isIo⟩
    cases atomic.returned request.requestHandle request.requestType isIo success rfl rfl
  · intro clean
    refine ⟨fun handle requestType isIo success same _ => ?_, fun _ _ moved => by (cases moved),
      fun _ => Or.inl rfl⟩
    exact absurd ⟨success, same ▸ isIo⟩ clean

theorem exit_moved_removed (status : NtStatus) (request : WnbdIoRequest) (element : MovedElement)
    (atMove : Bool) :
    FetchAtomic (dispatchExit true status request [element] atMove) ↔ atMove = false := by
  constructor
  · intro atomic
    rcases atomic.closed (Or.inr rfl) with none | after
    · cases none
    · exact after.1
  · rintro rfl
    refine ⟨fun handle requestType isIo _ same _ => ?_, fun _ _ _ => Or.inl ⟨rfl, rfl⟩,
      fun _ => Or.inr ⟨rfl, rfl⟩⟩
    cases same
    exact isIo.elim

theorem exit_moved (status : NtStatus) (request : WnbdIoRequest) (tag : UInt64) (atMove : Bool)
    (isIo : request.requestType.IsIo) (handle : request.requestHandle = tag) :
    FetchAtomic (dispatchExit false status request [⟨tag, request.requestType⟩] atMove) ↔
      status = statusSuccess := by
  constructor
  · intro atomic
    rcases atomic.moved tag request.requestType rfl with after | ⟨_, success, _⟩
    · cases after.2
    · exact success
  · intro success
    refine ⟨?_, ?_, ?_⟩
    · rintro other requestType _ _ rfl rfl
      rw [← handle]
      rfl
    · intro other requestType moved
      cases moved
      exact Or.inr ⟨isIo, success, rfl, handle⟩
    · rintro (failed | disconnected)
      · exact absurd success failed
      · have kind : request.requestType = .disconnect := disconnected
        rw [kind] at isIo
        exact isIo.elim

/-- Once the flag is raised the call returns a Disconnect and moves nothing. -/
theorem dispatchLoop_raised (props : WnbdProperties) (bufferSize : UInt32)
    (rounds : List FetchRound) (status : NtStatus) (request : WnbdIoRequest)
    (result : DispatchResult)
    (returned : dispatchLoop props bufferSize rounds true status request = some result) :
    FetchAtomic result := by
  cases rounds with
  | nil => cases returned
  | cons round rest =>
      simp only [dispatchLoop, Bool.true_or, if_true] at returned
      cases returned
      exact exit_disconnected status request false

/-- A round that is not retried and ends the call: only its own fault counts. -/
theorem breaksFrom_last (props : WnbdProperties) (bufferSize : UInt32) (status : NtStatus)
    (request : WnbdIoRequest) (round : FetchRound) (rounds : List FetchRound)
    (ends : ¬ round.Retries props bufferSize) :
    BreaksFrom props bufferSize status request (round :: rounds) ↔
      WrongRound props bufferSize status request round :=
  (breaksFrom_cons props bufferSize status request round rounds).trans
    (or_iff_left fun both => ends both.1)

/-- A round in which the call leaves at one of its tests of the flag is right. -/
theorem wrongRound_raised (props : WnbdProperties) (bufferSize : UInt32) (status : NtStatus)
    (request : WnbdIoRequest) (round : FetchRound)
    (raised : round.raisedBeforeTop = true ∨
      (round.wait = .deviceEvent ∧ round.raisedBeforeCheck = true)) :
    ¬ WrongRound props bufferSize status request round := by
  rintro ⟨top, stale | moves⟩
  · rcases raised with now | ⟨wait, _⟩
    · rw [top] at now
      cases now
    · exact stale.wait wait
  · rcases raised with now | ⟨_, now⟩
    · rw [top] at now
      cases now
    · rw [moves.check] at now
      cases now

theorem wrongRound_continues (props : WnbdProperties) (bufferSize : UInt32) (status : NtStatus)
    (request : WnbdIoRequest) (round : FetchRound) (wait : round.wait = .deviceEvent)
    (unserved : ¬ round.Submits props bufferSize) :
    ¬ WrongRound props bufferSize status request round := by
  rintro ⟨_, stale | moves⟩
  · exact stale.wait wait
  · exact unserved moves.submits

/-! ## The ways a turn ends -/

/-- The element at the head of the queue is gone and was not submitted, or there was none. -/
def Unserved (props : WnbdProperties) (bufferSize : UInt32) (round : FetchRound) : Prop :=
  ¬ round.Takes ∨ (round.Takes ∧ ¬ round.Validates props) ∨
    round.LockFails props bufferSize ∨ round.Unmapped props bufferSize

theorem not_submits_of_unserved (props : WnbdProperties) (bufferSize : UInt32)
    (round : FetchRound) (unserved : Unserved props bufferSize round) :
    ¬ round.Submits props bufferSize := by
  rintro ⟨valid, _, noFailure, mapped⟩
  rcases unserved with free | ⟨_, refused⟩ | fails | unmapped
  · obtain ⟨element, popped, _⟩ := valid
    exact free (by simp [Takes, popped])
  · exact refused valid
  · exact noFailure fails
  · exact mapped unmapped

/-- The turn gets past the check behind the pop. -/
structure PastCheck (round : FetchRound) : Prop where
  top : round.raisedBeforeTop = false
  wait : round.wait = .deviceEvent
  check : round.raisedBeforeCheck = false

/-- What a turn comes to that the loop enters with the flag clear, by its inputs. -/
inductive TurnEnds (props : WnbdProperties) (bufferSize : UInt32) (round : FetchRound)
    (status : NtStatus) (request : WnbdIoRequest) : Turn → Prop
  | raised (quits : round.raisedBeforeTop = true ∨
      (round.wait = .deviceEvent ∧ round.raisedBeforeCheck = true)) :
      TurnEnds props bufferSize round status request
        (.returns (dispatchExit true status request [] false) .untouched)
  | waits (top : round.raisedBeforeTop = false) (wait : round.wait ≠ .deviceEvent) :
      TurnEnds props bufferSize round status request
        (.returns (dispatchExit (round.raisedBeforeCheck || round.raisedBeforeMove ||
          round.raisedBeforeExit) status request [] false) .untouched)
  | goesOn (past : PastCheck round) (unserved : Unserved props bufferSize round) :
      TurnEnds props bufferSize round status request
        (.goesOn round.raisedBeforeMove (afterRound props bufferSize round status request).1
          (afterRound props bufferSize round status request).2)
  | tooSmall (past : PastCheck round) (takes : round.Takes) (valid : round.Validates props)
      (unserved : ¬ round.Submits props bufferSize ∧ ¬ round.LocksBuffer props bufferSize)
      (partly : WnbdIoRequest) :
      TurnEnds props bufferSize round status request
        (.returns (dispatchExit (round.raisedBeforeMove || round.raisedBeforeExit)
          statusBufferTooSmall partly [] false) .untouched)
  | submits (past : PastCheck round) (submits : round.Submits props bufferSize)
      (element : PendingElement) (popped : round.popped = some element) (payload : FetchPayload)
      (verdict : (fetchElement props bufferSize round.tag element.range element.srb
        round.faults).verdict = .submit payload)
      (now : NtStatus) (locked : now = statusSuccess ∧ round.LocksBuffer props bufferSize ∨
        now = status ∧ ¬ round.LocksBuffer props bufferSize)
      (isIo : (fetchElement props bufferSize round.tag element.range element.srb
        round.faults).request.requestType.IsIo)
      (handle : (fetchElement props bufferSize round.tag element.range element.srb
        round.faults).request.requestHandle = round.tag) :
      TurnEnds props bufferSize round status request
        (.returns (dispatchExit (round.raisedBeforeMove || round.raisedBeforeExit) now
          (fetchElement props bufferSize round.tag element.range element.srb round.faults).request
          [⟨round.tag, (fetchElement props bufferSize round.tag element.range element.srb
            round.faults).request.requestType⟩] round.raisedBeforeMove) payload)

theorem dispatchTurn_ends (props : WnbdProperties) (bufferSize : UInt32) (round : FetchRound)
    (status : NtStatus) (request : WnbdIoRequest) :
    TurnEnds props bufferSize round status request
      (dispatchTurn props bufferSize round false status request) := by
  rw [dispatchTurn]
  dsimp only
  rw [Bool.false_or]
  cases top : round.raisedBeforeTop with
  | true => exact .raised (Or.inl top)
  | false =>
  simp only [Bool.false_or, Bool.false_eq_true, if_false]
  by_cases wait : round.wait = .deviceEvent
  case neg =>
    rw [if_pos wait]
    exact .waits top wait
  case pos =>
  rw [if_neg (not_not.mpr wait)]
  cases check : round.raisedBeforeCheck with
  | true => exact .raised (Or.inr ⟨wait, check⟩)
  | false =>
  simp only [Bool.false_or, Bool.false_eq_true, if_false]
  have past : PastCheck round := ⟨top, wait, check⟩
  cases popped : round.popped with
  | none =>
      have after : afterRound props bufferSize round status request = (status, request) := by
        simp [afterRound, popped]
      have free : ¬ round.Takes := by simp [Takes, popped]
      have goesOn : TurnEnds props bufferSize round status request _ := .goesOn past (Or.inl free)
      rw [after] at goesOn
      exact goesOn
  | some element =>
      dsimp only
      have takes : round.Takes := by simp [Takes, popped]
      have after : afterRound props bufferSize round status request =
          ((fetchElement props bufferSize round.tag element.range element.srb
              round.faults).verdict.status.getD status,
            (fetchElement props bufferSize round.tag element.range element.srb
              round.faults).request) := by
        simp [afterRound, popped]
      have lost : Unserved props bufferSize round → TurnEnds props bufferSize round status request
          (.goesOn round.raisedBeforeMove
            ((fetchElement props bufferSize round.tag element.range element.srb
              round.faults).verdict.status.getD status)
            (fetchElement props bufferSize round.tag element.range element.srb
              round.faults).request) := by
        intro unserved
        have goesOn : TurnEnds props bufferSize round status request _ := .goesOn past unserved
        rw [after] at goesOn
        exact goesOn
      cases fetchElement_taken props bufferSize round element popped with
      | invalid refused verdict zeroed =>
          have goesOn := lost (Or.inr (Or.inl ⟨takes, refused⟩))
          rw [verdict] at goesOn ⊢
          exact goesOn
      | lockFailed fails verdict =>
          have goesOn := lost (Or.inr (Or.inr (Or.inl fails)))
          rw [verdict] at goesOn ⊢
          exact goesOn
      | unmapped unmapped verdict isIo =>
          have goesOn := lost (Or.inr (Or.inr (Or.inr unmapped)))
          rw [verdict] at goesOn ⊢
          exact goesOn
      | tooSmall verdict unserved valid =>
          rw [verdict]
          exact .tooSmall past takes valid unserved _
      | submits submits payload verdict locked isIo handle =>
          rw [verdict]
          refine .submits past submits element popped payload verdict _ ?_ isIo handle
          rcases locked with ⟨assigned, locks⟩ | ⟨unassigned, free⟩
          · rw [assigned]
            exact Or.inl ⟨rfl, locks⟩
          · rw [unassigned]
            exact Or.inr ⟨rfl, free⟩

/-! ## The loop -/

section Ends

variable (props : WnbdProperties) (bufferSize : UInt32) (status : NtStatus)
  (request : WnbdIoRequest) (round : FetchRound)

/-- What a turn returns agrees with what it moved exactly when nothing goes wrong in it. -/
theorem turn_atomic_iff (result : DispatchResult) (payload : FetchPayload)
    (ends : TurnEnds props bufferSize round status request (.returns result payload)) :
    ¬ round.Retries props bufferSize ∧
      (FetchAtomic result ↔ ¬ WrongRound props bufferSize status request round) := by
  cases ends with
  | raised quits =>
      refine ⟨fun retries => ?_, iff_of_true (exit_disconnected status request false)
        (wrongRound_raised props bufferSize status request round quits)⟩
      rcases quits with raised | ⟨_, raised⟩
      · rw [retries.top] at raised
        cases raised
      · rw [retries.check] at raised
        cases raised
  | waits top wait =>
      refine ⟨fun retries => wait retries.wait, ?_⟩
      cases raised : (round.raisedBeforeCheck || round.raisedBeforeMove ||
          round.raisedBeforeExit) with
      | true =>
          refine iff_of_true (exit_disconnected status request false) ?_
          rintro ⟨_, stale | moves⟩
          · rw [stale.check, stale.move, stale.exit] at raised
            cases raised
          · exact wait moves.wait
      | false =>
          rw [Bool.or_eq_false_iff, Bool.or_eq_false_iff] at raised
          rw [exit_unmoved, not_iff_not]
          exact ⟨fun stale => ⟨top, Or.inl ⟨wait, raised.1.1, raised.1.2, raised.2, stale⟩⟩,
            fun ⟨_, wrong⟩ => wrong.elim (·.stale) fun moves => absurd moves.wait wait⟩
  | tooSmall past takes valid unserved partly =>
      refine ⟨fun retries => unserved.2 (retries_locks props bufferSize round retries takes valid),
        iff_of_true ?_
          (wrongRound_continues props bufferSize status request round past.wait unserved.1)⟩
      cases round.raisedBeforeMove || round.raisedBeforeExit with
      | true => exact exit_disconnected _ _ _
      | false =>
          have failed : statusBufferTooSmall ≠ statusSuccess := by decide
          exact (exit_unmoved _ _ _).mpr fun stale => failed stale.1
  | submits past submits element popped payload verdict now locked isIo handle =>
      refine ⟨fun retries => retries_not_submits props bufferSize round retries submits, ?_⟩
      have wrong : WrongRound props bufferSize status request round ↔
          (round.raisedBeforeMove = true ∨ (round.raisedBeforeExit = false ∧
            ¬ round.LocksBuffer props bufferSize ∧ status ≠ statusSuccess)) :=
        ⟨fun ⟨_, kind⟩ => kind.elim (fun stale => absurd past.wait stale.wait) (·.wrong),
          fun kind => ⟨past.top, Or.inr ⟨past.wait, past.check, submits, kind⟩⟩⟩
      rw [wrong]
      cases move : round.raisedBeforeMove with
      | true =>
          rw [Bool.true_or, exit_moved_removed]
          simp
      | false =>
      cases exit : round.raisedBeforeExit with
      | true =>
          rw [Bool.false_or, exit_moved_removed]
          simp
      | false =>
          rw [Bool.false_or, exit_moved _ _ _ _ isIo handle]
          rcases locked with ⟨rfl, locks⟩ | ⟨rfl, free⟩
          · simp [locks]
          · simp [free]

end Ends

/-- The loop answers for what it moved exactly when no round of it goes wrong. -/
theorem dispatchLoop_atomic (props : WnbdProperties) (bufferSize : UInt32)
    (rounds : List FetchRound) (status : NtStatus) (request : WnbdIoRequest)
    (result : DispatchResult)
    (returned : dispatchLoop props bufferSize rounds false status request = some result) :
    FetchAtomic result ↔ ¬ BreaksFrom props bufferSize status request rounds := by
  induction rounds generalizing status request with
  | nil => cases returned
  | cons round rest hypothesis =>
      have ends := dispatchTurn_ends props bufferSize round status request
      rw [dispatchLoop_cons] at returned
      generalize dispatchTurn props bufferSize round false status request = turn at returned ends
      cases turn with
      | returns value payload =>
          cases returned
          obtain ⟨last, atomic⟩ := turn_atomic_iff props bufferSize status request round _ _ ends
          rw [breaksFrom_last _ _ _ _ _ _ last]
          exact atomic
      | goesOn hardRemove nextStatus nextRequest =>
          dsimp only at returned
          cases ends with
          | goesOn past unserved =>
          rw [breaksFrom_cons, or_iff_right (wrongRound_continues props bufferSize status request
            round past.wait (not_submits_of_unserved props bufferSize round unserved))]
          cases move : round.raisedBeforeMove with
          | true =>
              -- With the flag raised the next test ends the call.
              rw [move] at returned
              refine iff_of_true (dispatchLoop_raised props bufferSize rest _ _ result returned) ?_
              rintro ⟨retries, _⟩
              rw [retries.move] at move
              cases move
          | false =>
              rw [move] at returned
              rw [hypothesis _ _ returned]
              exact not_congr (and_iff_right
                ⟨past.wait, past.top, past.check, move, unserved⟩).symm

/-! ## The call -/

def Refused (props : WnbdProperties) (requestorPid : UInt32) : Prop :=
  props.pid ≠ requestorPid ∨ props.flags.useKernelNbd = true

/-- What a fetch returns agrees with what it moved exactly on the inputs that do
not bring a stale status, a stale request or a late removal into the answer. -/
theorem fetch_atomic_iff (props : WnbdProperties) (requestorPid bufferSize : UInt32)
    (initial : WnbdIoRequest) (rounds : List FetchRound) (result : DispatchResult)
    (returned : wnbdDispatchRequest props requestorPid bufferSize initial rounds = some result) :
    FetchAtomic result ↔
      Refused props requestorPid ∨ ¬ BreaksAtomicity props bufferSize initial rounds := by
  unfold wnbdDispatchRequest at returned
  split at returned
  case isTrue refused =>
    cases returned
    refine iff_of_true ⟨?_, ?_, fun _ => Or.inl rfl⟩ (Or.inl refused)
    · intro _ _ _ success
      have denied : statusAccessDenied ≠ statusSuccess := by decide
      exact absurd success denied
    · intro _ _ moved
      cases moved
  case isFalse accepted =>
    rw [dispatchLoop_atomic props bufferSize rounds statusSuccess initial result returned,
      show (Refused props requestorPid ∨ ¬ BreaksAtomicity props bufferSize initial rounds) ↔
        ¬ BreaksAtomicity props bufferSize initial rounds from or_iff_right accepted, not_iff_not]
    have request : ∀ earlier, RequestAfter props bufferSize statusSuccess initial earlier ↔
        StaleRequest props bufferSize initial earlier := by
      simp [RequestAfter, StaleRequest]
    have error : ∀ earlier, ErrorAfter props bufferSize statusSuccess earlier ↔
        StaleError props bufferSize earlier := by
      simp [ErrorAfter]
    unfold BreaksFrom BreaksAtomicity
    simp only [propext (request _), propext (error _)]

/-! ## A failed lock, followed by a write and by a read -/

def oneBlockRound (opcode : UInt8) (tag : UInt64) (lockStatus : NtStatus) : FetchRound :=
  { wait := .deviceEvent
    popped := some
      { range := ⟨0, 512, false⟩
        srb := { write10Srb 1 512 with
          cdb := some #v[opcode, 0, 0, 0, 0, 0, 0, 0, 1, 0, 0, 0, 0, 0, 0, 0] } }
    tag
    faults := ⟨lockStatus, 0⟩
    raisedBeforeTop := false
    raisedBeforeCheck := false
    raisedBeforeMove := false
    raisedBeforeExit := false }

def lockFailureThen (opcode : UInt8) : List FetchRound :=
  [oneBlockRound scsiopWrite 1 statusInsufficientResources, oneBlockRound opcode 2 0]

theorem fetch_atomic_second_write :
    wnbdDispatchRequest diskProps 4 4096 .zero (lockFailureThen scsiopWrite) =
        some ⟨statusSuccess, ⟨2, .write, .write 0 1 false⟩, [⟨2, .write⟩], false, false⟩ ∧
      ¬ BreaksAtomicity diskProps 4096 .zero (lockFailureThen scsiopWrite) := by
  have returned : wnbdDispatchRequest diskProps 4 4096 .zero (lockFailureThen scsiopWrite) =
      some ⟨statusSuccess, ⟨2, .write, .write 0 1 false⟩, [⟨2, .write⟩], false, false⟩ := by
    decide
  have atomic : FetchAtomic
      ⟨statusSuccess, ⟨2, .write, .write 0 1 false⟩, [⟨2, .write⟩], false, false⟩ :=
    (exit_moved statusSuccess ⟨2, .write, .write 0 1 false⟩ 2 false (by decide) rfl).mpr rfl
  refine ⟨returned, ?_⟩
  rcases (fetch_atomic_iff diskProps 4 4096 .zero _ _ returned).mp atomic with refused | sound
  · exact absurd refused (by unfold Refused; decide)
  · exact sound

/-- The read is moved to the submitted list, and the call returns the error of
the earlier write: userspace never learns of it. -/
theorem stale_status_hides_move :
    wnbdDispatchRequest diskProps 4 4096 .zero (lockFailureThen scsiopRead) =
        some ⟨statusInsufficientResources, ⟨2, .read, .read 0 1 false⟩, [⟨2, .read⟩], false,
          false⟩ ∧
      ¬ FetchAtomic ⟨statusInsufficientResources, ⟨2, .read, .read 0 1 false⟩, [⟨2, .read⟩],
        false, false⟩ := by
  refine ⟨by decide, fun atomic => ?_⟩
  rcases atomic.closed (Or.inl (by decide)) with none | after
  · cases none
  · cases after.2

end Wnbd.Dispatch
