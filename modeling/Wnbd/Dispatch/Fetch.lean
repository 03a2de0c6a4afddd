import Wnbd.Dispatch.Element

/-!
# The fetch loop

`WnbdDispatchRequest` waits for work, takes the head of the pending queue and
hands it to userspace, retrying after most failures.  What happens outside the
call (wait results, the element found at the head of the queue, the tag counter,
failing allocations, the moments at which `HardRemoveDevice` is raised) is a
list of rounds; `Status` and the caller's request survive from one to the next.
-/

set_option autoImplicit false

namespace Wnbd.Dispatch

open Wnbd.Scsi

/-- `STATUS_WAIT_0` and any result the loop does not test is `deviceEvent`. -/
inductive WaitResult
  | deviceEvent | removalEvent | alerted
deriving DecidableEq, Repr

structure PendingElement where
  range : ElementRange
  srb : Srb

/-- What one turn of the loop meets. -/
structure FetchRound where
  wait : WaitResult
  /-- The head of the pending queue, or an empty queue. -/
  popped : Option PendingElement
  tag : UInt64
  faults : FetchFaults
  /-- `HardRemoveDevice` is raised before the loop test, between it and the check
  after the pop, between that check and the insertion, or before the last test. -/
  raisedBeforeTop : Bool
  raisedBeforeCheck : Bool
  raisedBeforeMove : Bool
  raisedBeforeExit : Bool

structure MovedElement where
  tag : UInt64
  requestType : WnbdRequestType
deriving DecidableEq, Repr

structure DispatchResult where
  status : NtStatus
  request : WnbdIoRequest
  /-- The elements this call put on the submitted list. -/
  moved : List MovedElement
  hardRemoveAtMove : Bool
  hardRemoveAtExit : Bool
deriving DecidableEq, Repr

def dispatchExit (hardRemove : Bool) (status : NtStatus) (request : WnbdIoRequest)
    (moved : List MovedElement) (hardRemoveAtMove : Bool) : DispatchResult :=
  if hardRemove then
    { status := statusSuccess, request := { request with requestType := .disconnect }, moved,
      hardRemoveAtMove, hardRemoveAtExit := true }
  else { status, request, moved, hardRemoveAtMove, hardRemoveAtExit := false }

/-- The loop, from the state `HardRemoveDevice`, `Status` and `Command->Request`
have at its test; `none` while the call still waits. -/
def dispatchLoop (props : WnbdProperties) (bufferSize : UInt32) :
    List FetchRound → Bool → NtStatus → WnbdIoRequest → Option DispatchResult
  | [], _, _, _ => none
  | round :: rest, hardRemove, status, request =>
      let atTop := hardRemove || round.raisedBeforeTop
      let atCheck := atTop || round.raisedBeforeCheck
      let atMove := atCheck || round.raisedBeforeMove
      let atExit := atMove || round.raisedBeforeExit
      if atTop then some (dispatchExit true status request [] false)
      else if round.wait ≠ .deviceEvent then some (dispatchExit atExit status request [] false)
      else if atCheck then some (dispatchExit true status request [] false)
      else
        match round.popped with
        | none => dispatchLoop props bufferSize rest atMove status request
        | some element =>
            let fetched := fetchElement props bufferSize round.tag element.range element.srb
              round.faults
            let status := fetched.verdict.status.getD status
            match fetched.verdict with
            | .invalid | .lockFailed _ | .noSrbBuffer =>
                dispatchLoop props bufferSize rest atMove status fetched.request
            | .bufferTooSmall => some (dispatchExit atExit status fetched.request [] false)
            | .submit _ =>
                some (dispatchExit atExit status fetched.request
                  [⟨round.tag, fetched.request.requestType⟩] atMove)

inductive Turn
  | returns (result : DispatchResult) (payload : FetchPayload)
  | goesOn (hardRemove : Bool) (status : NtStatus) (request : WnbdIoRequest)

/-- The loop test and the body behind it, with what the turn does to the user buffer. -/
def dispatchTurn (props : WnbdProperties) (bufferSize : UInt32) (round : FetchRound)
    (hardRemove : Bool) (status : NtStatus) (request : WnbdIoRequest) : Turn :=
  let atTop := hardRemove || round.raisedBeforeTop
  let atCheck := atTop || round.raisedBeforeCheck
  let atMove := atCheck || round.raisedBeforeMove
  let atExit := atMove || round.raisedBeforeExit
  if atTop then .returns (dispatchExit true status request [] false) .untouched
  else if round.wait ≠ .deviceEvent then
    .returns (dispatchExit atExit status request [] false) .untouched
  else if atCheck then .returns (dispatchExit true status request [] false) .untouched
  else
    match round.popped with
    | none => .goesOn atMove status request
    | some element =>
        let fetched := fetchElement props bufferSize round.tag element.range element.srb
          round.faults
        let status := fetched.verdict.status.getD status
        match fetched.verdict with
        | .invalid | .lockFailed _ | .noSrbBuffer => .goesOn atMove status fetched.request
        | .bufferTooSmall =>
            .returns (dispatchExit atExit status fetched.request [] false) .untouched
        | .submit payload =>
            .returns (dispatchExit atExit status fetched.request
              [⟨round.tag, fetched.request.requestType⟩] atMove) payload

theorem dispatchLoop_cons (props : WnbdProperties) (bufferSize : UInt32) (round : FetchRound)
    (rest : List FetchRound) (hardRemove : Bool) (status : NtStatus) (request : WnbdIoRequest) :
    dispatchLoop props bufferSize (round :: rest) hardRemove status request =
      match dispatchTurn props bufferSize round hardRemove status request with
      | .returns result _ => some result
      | .goesOn hardRemove status request =>
          dispatchLoop props bufferSize rest hardRemove status request := by
  rw [dispatchLoop, dispatchTurn]
  dsimp only
  split
  · rfl
  split
  · rfl
  split
  · rfl
  cases round.popped with
  | none => rfl
  | some element =>
      dsimp only
      cases (fetchElement props bufferSize round.tag element.range element.srb
        round.faults).verdict with
      | invalid | lockFailed _ | noSrbBuffer | bufferTooSmall | submit _ => rfl

/-- `initial` is the request record as the caller passed it in. -/
def wnbdDispatchRequest (props : WnbdProperties) (requestorPid bufferSize : UInt32)
    (initial : WnbdIoRequest) (rounds : List FetchRound) : Option DispatchResult :=
  if props.pid ≠ requestorPid ∨ props.flags.useKernelNbd then
    some ⟨statusAccessDenied, initial, [], false, false⟩
  else dispatchLoop props bufferSize rounds false statusSuccess initial

end Wnbd.Dispatch
