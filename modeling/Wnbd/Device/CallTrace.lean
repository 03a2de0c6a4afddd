import Wnbd.Device.Machine
import Wnbd.Foundation.HandOff
import Wnbd.Foundation.PageLedger

/-!
# What a call does to its elements and its MDLs

The functions that handle queue elements, with every access to an element's
fields, every change of hands and every operation on an MDL, in the order of the
source.  Wait results, the elements found on the lists and the failures of the
calls made are inputs.
-/

set_option autoImplicit false

namespace Wnbd.Device

open Wnbd.Scsi Wnbd.Dispatch HandOff

inductive ElementField
  | link | hashLink | srb | startingLbn | dataLength | fua | deviceExtension | tag | aborted
  | completed | pooled | reqTimestamp
deriving DecidableEq

abbrev ElementEvent := Event ElementId ElementField

/-- An element taken off a list: its address and the fields that decide what follows. -/
structure TakenElement where
  element : ElementId
  range : ElementRange
  srb : Srb
  aborted : Bool
  completed : Bool
  pooled : Bool

namespace TakenElement

def accesses (taken : TakenElement) (fields : List ElementField) : List ElementEvent :=
  fields.map (.accessed taken.element)

/-! ## Elements -/

def wnbdFreeSrbElement (taken : TakenElement) : List ElementEvent :=
  (if taken.pooled then taken.accesses [.pooled, .link] else taken.accesses [.pooled]) ++
    [.released taken.element]

def completeRequest (taken : TakenElement) (freeElement : Bool) : List ElementEvent :=
  taken.accesses [.completed] ++
    (if taken.completed then []
      else taken.accesses [.srb, .tag, .srb, .srb, .deviceExtension, .srb]) ++
    if freeElement then taken.wnbdFreeSrbElement else []

def wnbdSubmittedReqInsert (taken : TakenElement) : List ElementEvent :=
  taken.accesses [.link, .tag, .hashLink] ++ [.published taken.element]

end TakenElement

/-- The element `WnbdAllocSrbElement` hands out, zeroed: from the pool, or allocated. -/
structure AllocatedElement where
  element : ElementId
  pooled : Bool

def ElementField.all : List ElementField :=
  [.link, .hashLink, .srb, .startingLbn, .dataLength, .fua, .deviceExtension, .tag, .aborted,
    .completed, .pooled, .reqTimestamp]

def wnbdAllocSrbElement (allocated : AllocatedElement) : List ElementEvent :=
  .taken allocated.element ::
    if allocated.pooled then
      (ElementField.all ++ [ElementField.pooled]).map (.accessed allocated.element)
    else []

def wnbdPendElement : Option AllocatedElement → List ElementEvent
  | none => []
  | some allocated =>
      wnbdAllocSrbElement allocated ++
        [ElementField.reqTimestamp, .deviceExtension, .srb, .startingLbn, .dataLength, .aborted,
          .completed, .fua, .link].map (.accessed allocated.element) ++
        [.published allocated.element]

/-- An element that `DrainDeviceQueue` takes; `detects` says that the connection
is found stale at it. -/
structure DrainedElement where
  taken : TakenElement
  detects : Bool

def DrainedElement.events (submittedRequests checked : Bool) (drained : DrainedElement) :
    List ElementEvent :=
  .taken drained.taken.element ::
    (drained.taken.accesses
        ((if submittedRequests then [.hashLink] else []) ++ [.srb, .srb, .aborted] ++
          (if drained.taken.aborted then [] else [.aborted]) ++
          (if checked then [.reqTimestamp, .reqTimestamp, .reqTimestamp] else []) ++
          if checked && drained.detects then [.reqTimestamp] else []) ++
      drained.taken.completeRequest true)

/-- `checkStaleConn` stands for `CheckStaleConn && !StaleConnDetected`. -/
def drainDeviceQueue (submittedRequests : Bool) : Bool → List DrainedElement → List ElementEvent
  | _, [] => []
  | checkStaleConn, drained :: rest =>
      drained.events submittedRequests checkStaleConn ++
        drainDeviceQueue submittedRequests (checkStaleConn && !drained.detects) rest

/-! ## User buffers -/

abbrev ExceptionCode := { code : NtStatus // code ≠ statusSuccess }

/-- How `LockUsermodeBuffer` ends; an exception is raised by the probe, or by
`MmProbeAndLockPages`. -/
inductive LockOutcome
  | probeFault (code : ExceptionCode)
  | noMdl
  | lockFault (code : ExceptionCode)
  | noMapping
  | locked

def LockOutcome.status : LockOutcome → NtStatus
  | .probeFault code | .lockFault code => code.val
  | .noMdl | .noMapping => statusInsufficientResources
  | .locked => statusSuccess

def lockUsermodeBuffer (outcome : LockOutcome) (pages : PageLocks) : PageLocks :=
  match outcome with
  | .probeFault _ | .noMdl => pages
  | .lockFault _ => pages.ioAllocateMdl
  | .noMapping | .locked => pages.ioAllocateMdl.mmProbeAndLockPages

def lockFetchBuffer (outcome : LockOutcome) (pages : PageLocks) : PageLocks :=
  let pages := lockUsermodeBuffer outcome pages
  if outcome.status ≠ statusSuccess ∧ pages.mdl.isSome then pages.release.clear else pages

def exitPages (pages : PageLocks) : PageLocks :=
  if pages.mdl.isSome then pages.release else pages

/-! ## The fetch call -/

structure CallState where
  events : List ElementEvent
  pages : PageLocks
  /-- `Mdl` and `BufferLocked` at the tests of the loop. -/
  atLoopTest : List (Option Nat × Bool)

namespace CallState

def start : CallState := { events := [], pages := .start, atLoopTest := [] }

def append (state : CallState) (events : List ElementEvent) : CallState :=
  { state with events := state.events ++ events }

def onPages (state : CallState) (operation : PageLocks → PageLocks) : CallState :=
  { state with pages := operation state.pages }

def loopTest (state : CallState) : CallState :=
  { state with
    atLoopTest := state.atLoopTest ++ [(state.pages.mdl, state.pages.bufferLocked)] }

def exit (state : CallState) : CallState := state.onPages exitPages

end CallState

structure FetchTurn where
  wait : WaitResult
  popped : Option TakenElement
  tag : UInt64
  lock : LockOutcome
  storResult : UInt32
  raisedBeforeTop : Bool
  raisedBeforeCheck : Bool
  raisedBeforeMove : Bool
  raisedBeforeExit : Bool

/-- The turn as the loop model meets it. -/
def FetchTurn.round (turn : FetchTurn) : FetchRound :=
  { wait := turn.wait
    popped := turn.popped.map fun taken => ⟨taken.range, taken.srb⟩
    tag := turn.tag
    faults := ⟨turn.lock.status, turn.storResult⟩
    raisedBeforeTop := turn.raisedBeforeTop
    raisedBeforeCheck := turn.raisedBeforeCheck
    raisedBeforeMove := turn.raisedBeforeMove
    raisedBeforeExit := turn.raisedBeforeExit }

inductive LoopStep
  | continues | leaves
deriving DecidableEq

/-- The error branches complete the SRB and free the element. -/
def refuse (taken : TakenElement) (state : CallState) : CallState :=
  (state.append (taken.accesses [.srb])).append (taken.completeRequest true)

def submit (taken : TakenElement) (state : CallState) : LoopStep × CallState :=
  (.leaves, state.append taken.wnbdSubmittedReqInsert)

def copySrbBuffer (bufferSize : UInt32) (taken : TakenElement) (lock : LockOutcome)
    (storResult : UInt32) (state : CallState) : LoopStep × CallState :=
  let state := state.append (taken.accesses [.dataLength])
  if taken.range.dataLength > bufferSize then (.leaves, refuse taken state)
  else
    let state := state.append (taken.accesses [.dataLength])
    if taken.range.dataLength = 0 then submit taken state
    else
      let state := (state.append (taken.accesses [.dataLength])).onPages (lockFetchBuffer lock)
      if lock.status ≠ statusSuccess then (.continues, refuse taken state)
      else
        let state := state.append (taken.accesses [.deviceExtension, .srb])
        if storResult ≠ 0 then
          -- the warning reads the element that was just completed and freed
          let state := (refuse taken state).append (taken.accesses [.srb, .tag])
          (.continues, state.onPages fun pages => pages.release.clear)
        else submit taken (state.append (taken.accesses [.dataLength]))

def writeDescriptor (bufferSize : UInt32) (taken : TakenElement) (lock : LockOutcome)
    (state : CallState) : LoopStep × CallState :=
  if wnbdUnmapDescriptorSize > bufferSize then (.leaves, refuse taken state)
  else
    let state := state.onPages (lockFetchBuffer lock)
    if lock.status ≠ statusSuccess then (.continues, refuse taken state)
    else submit taken (state.append (taken.accesses [.startingLbn, .dataLength]))

def fetchBody (props : WnbdProperties) (bufferSize : UInt32) (taken : TakenElement)
    (lock : LockOutcome) (storResult : UInt32) (state : CallState) : LoopStep × CallState :=
  let state := state.append (taken.accesses [.tag, .srb, .srb, .srb, .tag, .srb])
  match taken.srb.cdb with
  | none => (.continues, refuse taken (state.append (taken.accesses [.srb])))
  | some cdb =>
      if validateScsiRequest props (some cdb) then
        let state := state.append (taken.accesses [.tag])
        match scsiOpToWnbdReqType (cdb.asByte 0) with
        | .read => submit taken (state.append (taken.accesses [.startingLbn, .dataLength, .fua]))
        | .write =>
            copySrbBuffer bufferSize taken lock storResult
              (state.append (taken.accesses [.startingLbn, .dataLength, .fua]))
        | .flush => submit taken (state.append (taken.accesses [.startingLbn, .dataLength]))
        | .unmap => writeDescriptor bufferSize taken lock state
        | .persistResOut => copySrbBuffer bufferSize taken lock storResult state
        | .persistResIn | .unknown | .disconnect => submit taken state
      else (.continues, refuse taken (state.append (taken.accesses [.srb])))

/-- The loop of `WnbdDispatchRequest` and its exit; a call that has used up its
turns is still waiting. -/
def dispatchTrace (props : WnbdProperties) (bufferSize : UInt32) :
    List FetchTurn → Bool → CallState → CallState
  | [], _, state => state
  | turn :: rest, hardRemove, state =>
      let state := state.loopTest
      let atTop := hardRemove || turn.raisedBeforeTop
      let atCheck := atTop || turn.raisedBeforeCheck
      let atMove := atCheck || turn.raisedBeforeMove
      if atTop then state.exit
      else if turn.wait ≠ .deviceEvent then state.exit
      else
        match turn.popped with
        | none => if atCheck then state.exit else dispatchTrace props bufferSize rest atMove state
        | some taken =>
            let state := state.append [.taken taken.element]
            if atCheck then state.exit
            else
              match fetchBody props bufferSize taken turn.lock turn.storResult state with
              | (.continues, state) => dispatchTrace props bufferSize rest atMove state
              | (.leaves, state) => state.exit

def wnbdDispatchTrace (props : WnbdProperties) (requestorPid bufferSize : UInt32)
    (turns : List FetchTurn) : CallState :=
  if props.pid ≠ requestorPid ∨ props.flags.useKernelNbd then .start
  else dispatchTrace props bufferSize turns false .start

/-! ## The response call -/

/-- The part of `WnbdHandleResponse` that looks at the SRB of an element that was
not aborted; it leaves through `goto Exit`. -/
def inspectSrb (taken : TakenElement) (storResult : UInt32) (state : CallState) :
    LoopStep × CallState :=
  let state := state.append (taken.accesses [.srb])
  match taken.srb.cdb with
  | none => (.leaves, state)
  | some _ =>
      let state := state.append (taken.accesses
        ([.srb, .tag, .srb] ++ if isReadSrb taken.srb then [] else [.srb]))
      if isReadSrb taken.srb || isPerResInSrb taken.srb then
        let state := state.append (taken.accesses [.deviceExtension, .srb])
        if storResult ≠ 0 then (.leaves, state.append (taken.accesses [.srb, .tag, .srb]))
        else (.continues, state)
      else (.continues, state)

def fillAccesses (taken : TakenElement) (command : SendRspCommand) : List ElementEvent :=
  taken.accesses ([.aborted] ++ if taken.aborted then []
    else (if command.hasBuffer ∧ command.dataBufferSize > 0 then [.dataLength] else []) ++
      if command.dataBufferSize < taken.range.dataLength then [.dataLength, .dataLength]
      else [.dataLength])

def copyUserBuffer (taken : TakenElement) (command : SendRspCommand) (lock : LockOutcome)
    (state : CallState) : LoopStep × CallState :=
  if command.hasBuffer then
    let state := state.onPages (lockUsermodeBuffer lock)
    if lock.status ≠ statusSuccess then (.leaves, state.append (taken.accesses [.srb]))
    else (.continues, state.append (fillAccesses taken command))
  else if command.dataBufferSize > 0 then
    (.leaves, state.append (taken.accesses [.srb, .tag, .srb]))
  else (.continues, state.append (fillAccesses taken command))

def reportResponse (taken : TakenElement) (command : SendRspCommand) (state : CallState) :
    CallState :=
  state.append (taken.accesses
    (if command.status.scsiStatus ≠ 0 then [.srb, .srb] else [.srb, .dataLength, .srb]))

/-- The `Exit` label of `WnbdHandleResponse`. -/
def responseExit (taken : TakenElement) (state : CallState) : CallState :=
  (((state.append (taken.accesses [.aborted])).exit.append (taken.accesses [.aborted])).append
    (if taken.aborted then [] else taken.completeRequest false)).append taken.wnbdFreeSrbElement

def handleResponse (taken : TakenElement) (command : SendRspCommand) (lock : LockOutcome)
    (storResult : UInt32) (state : CallState) : CallState :=
  let state := state.append (.taken taken.element :: taken.accesses [.aborted])
  let inspected :=
    if taken.aborted then (.continues, state.append (taken.accesses [.srb, .tag]))
    else inspectSrb taken storResult state
  match inspected with
  | (.leaves, state) => responseExit taken state
  | (.continues, state) =>
      if command.status.scsiStatus ≠ 0 then responseExit taken (reportResponse taken command state)
      else
        let state := state.append (taken.accesses
          ([.srb] ++ if isReadSrb taken.srb then [] else [.srb]))
        if isReadSrb taken.srb || isPerResInSrb taken.srb then
          match copyUserBuffer taken command lock state with
          | (.leaves, state) => responseExit taken state
          | (.continues, state) => responseExit taken (reportResponse taken command state)
        else responseExit taken (reportResponse taken command state)

/-- `found` is the element with the handle of the response, if there is one. -/
def wnbdHandleResponseTrace (props : WnbdProperties) (requestorPid : UInt32)
    (found : Option TakenElement) (command : SendRspCommand) (lock : LockOutcome)
    (storResult : UInt32) : CallState :=
  if props.pid ≠ requestorPid ∨ props.flags.useKernelNbd then .start
  else
    match found with
    | none => .start
    | some taken => handleResponse taken command lock storResult .start

end Wnbd.Device
