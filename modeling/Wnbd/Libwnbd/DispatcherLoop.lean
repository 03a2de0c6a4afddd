import Wnbd.Dispatch.Element
import Wnbd.Foundation.StepSystem
import Wnbd.Nbd.Threads

/-!
# The dispatcher loop of libwnbd

`WnbdDispatcherLoop` fetches one request after the other.  The driver writes the
request into `Command`, a local of `WnbdIoctlFetchRequest`, from which it is
copied before the function returns.  A fetch that ends later than that copy
hands the loop an old request: `dispatcher_loop_exact_iff`.  The wait inside
`WnbdIoctlFetchRequest` would do: `exact_without_overlapped`.
-/

set_option autoImplicit false

namespace Wnbd.Libwnbd

open Wnbd.Dispatch StepSystem
open Wnbd.Nbd (errorIoPending)

/-! ## The loop -/

inductive Operation
  | idle
  | inFlight
  | finished (status : UInt32)
deriving DecidableEq, Repr

inductive LoopPc
  /-- `while (WnbdIsRunning(Disk))`. -/
  | test
  | resetEvent
  /-- `WnbdIoctlFetchRequest`.  Without an overlapped structure of the caller
  `WnbdDeviceIoControl` creates an event and waits itself. -/
  | createEvent
  | deviceIoControl
  | waitInside
  | copy (status : UInt32)
  | leave (status : UInt32)
  /-- Back in `WnbdDispatcherLoop`. -/
  | fetched (errorCode : UInt32)
  | getOverlappedResult
  | result (errorCode : UInt32)
  | handleRequest
  | stopDispatcher (errorCode : UInt32)
  | returned (errorCode : UInt32)
deriving Repr

/-- `command` is `Command.Request` while `WnbdIoctlFetchRequest` runs.  The last
three have no counterpart in the library: the requests the driver wrote, those
passed to `WnbdHandleRequest`, and those written after the lifetime of `Command`. -/
structure LoopState where
  pc : LoopPc
  request : WnbdIoRequest
  command : Option WnbdIoRequest
  operation : Operation
  produced : List WnbdIoRequest
  handled : List WnbdIoRequest
  lateWrites : List WnbdIoRequest
deriving Repr

def LoopState.initial (request : WnbdIoRequest) : LoopState :=
  { pc := .test, request, command := none, operation := .idle, produced := [], handled := [],
    lateWrites := [] }

inductive IoControlResult
  | completed (request : WnbdIoRequest)
  | failed (error : UInt32)
  | pending
deriving DecidableEq, Repr

inductive Completion
  | request (request : WnbdIoRequest)
  | error (error : UInt32)
deriving DecidableEq, Repr

/-- What the loop gets from outside; `complete` is the end of a pending operation. -/
inductive LoopEvent
  | isRunning (running : Bool)
  | systemCall (error : UInt32)
  | deviceIoControl (result : IoControlResult)
  | complete (completion : Completion)
  | proceed
deriving DecidableEq, Repr

def isFailure (error : UInt32) : Bool := error != 0 && error != errorIoPending

/-- `overlapped` says whether the caller passed an overlapped structure. -/
def copiesRequest (overlapped : Bool) (status : UInt32) : Bool :=
  !(status != 0 && !(status == errorIoPending && overlapped))

def loopStep (overlapped : Bool) (state : LoopState) : LoopPc → LoopEvent → Option LoopState
  | .test, .isRunning running =>
      some { state with pc := if running then .resetEvent else .stopDispatcher 0 }
  | .resetEvent, .systemCall error =>
      if error = 0 then
        some { state with
          command := some .zero
          pc := if overlapped then .deviceIoControl else .createEvent }
      else some { state with pc := .stopDispatcher error }
  | .createEvent, .systemCall error =>
      if error = 0 then some { state with pc := .deviceIoControl }
      else if isFailure error then some { state with pc := .copy error }
      else none
  | .deviceIoControl, .deviceIoControl (.completed request) =>
      some { state with
        command := some request
        produced := state.produced ++ [request]
        operation := .idle
        pc := .copy 0 }
  | .deviceIoControl, .deviceIoControl (.failed error) =>
      if isFailure error then some { state with operation := .idle, pc := .copy error } else none
  | .deviceIoControl, .deviceIoControl .pending =>
      some { state with
        operation := .inFlight
        pc := if overlapped then .copy errorIoPending else .waitInside }
  | .waitInside, .proceed =>
      match state.operation with
      | .finished status => some { state with pc := .copy status }
      | _ => none
  | .copy status, .proceed =>
      some { state with
        request := if copiesRequest overlapped status then state.command.getD state.request
          else state.request
        pc := .leave status }
  | .leave status, .proceed => some { state with command := none, pc := .fetched status }
  | .fetched errorCode, .proceed =>
      some { state with
        pc := if errorCode = errorIoPending then .getOverlappedResult else .result errorCode }
  | .getOverlappedResult, .proceed =>
      match state.operation with
      | .finished status => some { state with pc := .result status }
      | _ => none
  | .result errorCode, .proceed =>
      some { state with
        pc := if errorCode = 0 then .handleRequest else .stopDispatcher errorCode }
  | .handleRequest, .proceed =>
      some { state with handled := state.handled ++ [state.request], pc := .test }
  | .stopDispatcher errorCode, .proceed => some { state with pc := .returned errorCode }
  | _, _ => none

/-- The driver completes the pending operation and writes its output where
`Command` is, or was. -/
def completeStep (state : LoopState) : Completion → Option LoopState
  | .request request =>
      if state.operation = .inFlight then
        some { state with
          produced := state.produced ++ [request]
          operation := .finished 0
          command := state.command.map fun _ => request
          lateWrites := if state.command.isSome then state.lateWrites
            else state.lateWrites ++ [request] }
      else none
  | .error error =>
      if state.operation = .inFlight && isFailure error then
        some { state with operation := .finished error }
      else none

def loopNext (overlapped : Bool) (state : LoopState) : LoopEvent → Option LoopState
  | .complete completion => completeStep state completion
  | event => loopStep overlapped state state.pc event

/-- One case for each branch of `loopStep`. -/
inductive LoopCase (overlapped : Bool) (state : LoopState) : LoopPc → LoopState → Prop
  | test (running : Bool) :
      LoopCase overlapped state .test
        { state with pc := if running then .resetEvent else .stopDispatcher 0 }
  | reset :
      LoopCase overlapped state .resetEvent
        { state with
          command := some .zero
          pc := if overlapped then .deviceIoControl else .createEvent }
  | resetFails (error : UInt32) :
      LoopCase overlapped state .resetEvent { state with pc := .stopDispatcher error }
  | create : LoopCase overlapped state .createEvent { state with pc := .deviceIoControl }
  | createFails (error : UInt32) (failure : isFailure error = true) :
      LoopCase overlapped state .createEvent { state with pc := .copy error }
  | completed (request : WnbdIoRequest) :
      LoopCase overlapped state .deviceIoControl
        { state with
          command := some request
          produced := state.produced ++ [request]
          operation := .idle
          pc := .copy 0 }
  | failed (error : UInt32) (failure : isFailure error = true) :
      LoopCase overlapped state .deviceIoControl
        { state with operation := .idle, pc := .copy error }
  | pending :
      LoopCase overlapped state .deviceIoControl
        { state with
          operation := .inFlight
          pc := if overlapped then .copy errorIoPending else .waitInside }
  | waited (status : UInt32) (finished : state.operation = .finished status) :
      LoopCase overlapped state .waitInside { state with pc := .copy status }
  | copy (status : UInt32) :
      LoopCase overlapped state (.copy status)
        { state with
          request := if copiesRequest overlapped status then state.command.getD state.request
            else state.request
          pc := .leave status }
  | leave (status : UInt32) :
      LoopCase overlapped state (.leave status)
        { state with command := none, pc := .fetched status }
  | fetched (errorCode : UInt32) :
      LoopCase overlapped state (.fetched errorCode)
        { state with
          pc := if errorCode = errorIoPending then .getOverlappedResult else .result errorCode }
  | getResult (status : UInt32) (finished : state.operation = .finished status) :
      LoopCase overlapped state .getOverlappedResult { state with pc := .result status }
  | result (errorCode : UInt32) :
      LoopCase overlapped state (.result errorCode)
        { state with
          pc := if errorCode = 0 then .handleRequest else .stopDispatcher errorCode }
  | handle :
      LoopCase overlapped state .handleRequest
        { state with handled := state.handled ++ [state.request], pc := .test }
  | stop (errorCode : UInt32) :
      LoopCase overlapped state (.stopDispatcher errorCode)
        { state with pc := .returned errorCode }

theorem loopStep_cases {overlapped : Bool} {state after : LoopState} {pc : LoopPc}
    {event : LoopEvent} (taken : loopStep overlapped state pc event = some after) :
    LoopCase overlapped state pc after := by
  cases pc with
  | test =>
      cases event with
      | isRunning running =>
          cases taken
          exact .test running
      | _ => cases taken
  | resetEvent =>
      cases event with
      | systemCall error =>
          by_cases success : error = 0
          · simp only [loopStep, if_pos success] at taken
            cases taken
            exact .reset
          · simp only [loopStep, if_neg success] at taken
            cases taken
            exact .resetFails error
      | _ => cases taken
  | createEvent =>
      cases event with
      | systemCall error =>
          by_cases success : error = 0
          · simp only [loopStep, if_pos success] at taken
            cases taken
            exact .create
          · simp only [loopStep, if_neg success] at taken
            obtain ⟨failure, ⟨⟩⟩ := Option.ite_none_right_eq_some.mp taken
            exact .createFails error failure
      | _ => cases taken
  | deviceIoControl =>
      cases event with
      | deviceIoControl result =>
          cases result with
          | completed request =>
              cases taken
              exact .completed request
          | failed error =>
              obtain ⟨failure, ⟨⟩⟩ := Option.ite_none_right_eq_some.mp taken
              exact .failed error failure
          | pending =>
              cases taken
              exact .pending
      | _ => cases taken
  | waitInside =>
      cases event with
      | proceed =>
          cases finished : state.operation with
          | finished status =>
              simp only [loopStep, finished] at taken
              cases taken
              rw [← finished]
              exact .waited status finished
          | _ =>
              simp only [loopStep, finished] at taken
              cases taken
      | _ => cases taken
  | getOverlappedResult =>
      cases event with
      | proceed =>
          cases finished : state.operation with
          | finished status =>
              simp only [loopStep, finished] at taken
              cases taken
              rw [← finished]
              exact .getResult status finished
          | _ =>
              simp only [loopStep, finished] at taken
              cases taken
      | _ => cases taken
  | copy | leave | fetched | result | handleRequest | stopDispatcher =>
      cases event with
      | proceed =>
          cases taken
          constructor
      | _ => cases taken
  | _ => cases taken

/-! ## What the loop should do -/

def fetchSucceeds (status : UInt32) (operation : Operation) : Bool :=
  status == 0 || (status == errorIoPending && operation == .finished 0)

/-- What the round is about to pass to `WnbdHandleRequest`. -/
def LoopState.inHand (state : LoopState) : List WnbdIoRequest :=
  match state.pc with
  | .waitInside => if state.operation = .finished 0 then state.command.toList else []
  | .copy status => if fetchSucceeds status state.operation then state.command.toList else []
  | .leave status | .fetched status =>
      if fetchSucceeds status state.operation then [state.request] else []
  | .getOverlappedResult => if state.operation = .finished 0 then [state.request] else []
  | .result errorCode => if errorCode = 0 then [state.request] else []
  | .handleRequest => [state.request]
  | _ => []

/-- The requests the driver produced are those that were handled, in order, and
the one of this round, and no output went to a dead `Command`. -/
structure HandlesExactly (state : LoopState) : Prop where
  produced : state.produced = state.handled ++ state.inHand
  inTime : state.lateWrites = []

def LoopPc.copied : LoopPc → Bool
  | .leave _ | .fetched _ | .getOverlappedResult => true
  | _ => false

/-- A request is delivered before the copy, or the copy took the same zeros. -/
def DeliveredBeforeCopy (state : LoopState) : LoopEvent → Prop
  | .complete (.request request) =>
      state.pc.copied = true → state.command.isSome = true ∧ request = .zero
  | _ => True

instance (state : LoopState) (event : LoopEvent) : Decidable (DeliveredBeforeCopy state event) := by
  unfold DeliveredBeforeCopy
  split <;> infer_instance

/-! ## Where an operation can be in flight -/

def LoopPc.inFetch : LoopPc → Bool
  | .deviceIoControl | .createEvent | .copy _ | .waitInside | .leave _ => true
  | _ => false

/-- The fetch returned, or will return, `ERROR_IO_PENDING`. -/
def LoopPc.reportsPending : LoopPc → Bool
  | .copy status | .leave status | .fetched status => status == errorIoPending
  | .getOverlappedResult => true
  | _ => false

def LoopPc.beforeCall : LoopPc → Bool
  | .createEvent | .deviceIoControl => true
  | _ => false

structure LoopInv (overlapped : Bool) (state : LoopState) : Prop where
  alive : state.command.isSome = state.pc.inFetch
  fresh : state.pc.beforeCall = true → state.command = some .zero
  awaited : state.operation = .inFlight →
    state.pc = .waitInside ∨ (overlapped = true ∧ state.pc.reportsPending = true)
  inside : overlapped = false → state.pc.reportsPending = false
  ended : ∀ status, state.operation = .finished status → status ≠ errorIoPending
  stale : state.operation = .inFlight →
    (∀ command, state.command = some command → command = .zero) ∧
      (state.pc.copied = true → state.request = .zero)

theorem loopInv_initial (overlapped : Bool) (request : WnbdIoRequest) :
    LoopInv overlapped (LoopState.initial request) where
  alive := rfl
  fresh before := by cases before
  awaited flying := by cases flying
  inside _ := rfl
  ended _ finished := by cases finished
  stale flying := by cases flying

theorem isFailure_ne {error : UInt32} (failure : isFailure error = true) :
    error ≠ 0 ∧ error ≠ errorIoPending := by
  simp only [isFailure, Bool.and_eq_true, bne_iff_ne] at failure
  exact failure

theorem reportsPending_of_failure {error : UInt32} (failure : isFailure error = true) :
    (error == errorIoPending) = false := by
  rw [beq_eq_false_iff_ne]
  exact (isFailure_ne failure).2

section Invariant

variable {overlapped : Bool} {state after : LoopState}

theorem LoopInv.idle (inv : LoopInv overlapped state) (notInside : state.pc ≠ .waitInside)
    (silent : state.pc.reportsPending = false) : state.operation ≠ .inFlight := by
  intro flying
  rcases inv.awaited flying with waiting | ⟨-, reports⟩
  · exact notInside waiting
  · rw [silent] at reports
    cases reports

/-- Where no operation is in flight only the lifetime of `Command` is left to check. -/
theorem LoopInv.settled (alive : after.command.isSome = after.pc.inFetch)
    (idle : after.operation ≠ .inFlight)
    (silent : after.pc.reportsPending = false)
    (ended : ∀ status, after.operation = .finished status → status ≠ errorIoPending)
    (fresh : after.pc.beforeCall = false ∨ after.command = some .zero) :
    LoopInv overlapped after where
  alive := alive
  fresh before := by
    rcases fresh with called | zero
    · rw [called] at before
      cases before
    · exact zero
  awaited flying := absurd flying idle
  inside _ := silent
  ended := ended
  stale flying := absurd flying idle

theorem LoopInv.reports (inv : LoopInv overlapped state)
    (alive : after.command.isSome = after.pc.inFetch) (operation : after.operation = state.operation)
    (inFetch : state.pc ≠ .waitInside)
    (reports : after.pc.reportsPending = state.pc.reportsPending)
    (stale : state.operation = .inFlight → (∀ command, after.command = some command → command = .zero) ∧
      (after.pc.copied = true → after.request = .zero))
    (fresh : after.pc.beforeCall = false ∨ after.command = some .zero) :
    LoopInv overlapped after where
  alive := alive
  fresh before := by
    rcases fresh with called | zero
    · rw [called] at before
      cases before
    · exact zero
  awaited flying := by
    rcases inv.awaited (operation ▸ flying) with waiting | pending
    · exact absurd waiting inFetch
    · exact Or.inr (reports ▸ pending)
  inside alone := reports ▸ inv.inside alone
  ended status finished := inv.ended status (operation ▸ finished)
  stale flying := stale (operation ▸ flying)

theorem completeStep_inv (completion : Completion) (inv : LoopInv overlapped state)
    (taken : completeStep state completion = some after) : LoopInv overlapped after := by
  cases completion with
  | request request =>
      obtain ⟨flying, ⟨⟩⟩ := Option.ite_none_right_eq_some.mp taken
      have called : state.pc.beforeCall = false := by
        rcases inv.awaited flying with waiting | ⟨-, reports⟩
        · rw [waiting]
          rfl
        · revert reports
          cases state.pc <;> intro reports <;> first | rfl | cases reports
      refine ⟨?_, ?_, fun next => (by cases next), inv.inside, ?_,
        fun next => (by cases next)⟩
      · rw [Option.isSome_map]
        exact inv.alive
      · intro before
        rw [called] at before
        cases before
      · rintro status ⟨⟩
        decide
  | error error =>
      obtain ⟨guard, ⟨⟩⟩ := Option.ite_none_right_eq_some.mp taken
      simp only [Bool.and_eq_true, decide_eq_true_eq] at guard
      refine ⟨inv.alive, inv.fresh, fun next => (by cases next), inv.inside, ?_,
        fun next => (by cases next)⟩
      rintro status ⟨⟩
      exact (isFailure_ne guard.2).2

/-- Without a pending operation the status tells how the wait ended. -/
theorem LoopInv.ofPending (inv : LoopInv overlapped state) (here : state.pc = .deviceIoControl) :
    LoopInv overlapped
      { state with
        operation := .inFlight
        pc := if overlapped then .copy errorIoPending else .waitInside } := by
  have alive := inv.alive
  have fresh := inv.fresh
  rw [here] at alive fresh
  have zero : ∀ command, state.command = some command → command = .zero := by
    intro command stored
    rw [fresh rfl] at stored
    cases stored
    rfl
  cases overlapped with
  | false =>
      exact ⟨alive, fun before => (by cases before), fun _ => Or.inl rfl, fun _ => rfl,
        fun _ finished => (by cases finished), fun _ => ⟨zero, fun copied => by cases copied⟩⟩
  | true =>
      exact ⟨alive, fun before => (by cases before), fun _ => Or.inr ⟨rfl, rfl⟩,
        fun alone => (by cases alone), fun _ finished => (by cases finished),
        fun _ => ⟨zero, fun copied => by cases copied⟩⟩

theorem LoopInv.copyStep (inv : LoopInv overlapped state) (status : UInt32)
    (here : state.pc = .copy status) :
    LoopInv overlapped
      { state with
        request := if copiesRequest overlapped status then state.command.getD state.request
          else state.request
        pc := .leave status } := by
  have alive := inv.alive
  rw [here] at alive
  refine inv.reports alive rfl (by simp [here]) (by rw [here]; rfl) ?_ (Or.inl rfl)
  intro flying
  obtain ⟨zero, -⟩ := inv.stale flying
  refine ⟨zero, fun _ => ?_⟩
  obtain ⟨command, stored⟩ := Option.isSome_iff_exists.mp alive
  rcases inv.awaited flying with waiting | ⟨overlapped_eq, reports⟩
  · rw [here] at waiting
    cases waiting
  · rw [here] at reports
    have pending : status = errorIoPending := eq_of_beq reports
    have copies : copiesRequest overlapped status = true := by
      rw [overlapped_eq, pending]
      rfl
    simp only [copies, if_true, stored, Option.getD_some]
    exact zero command stored

theorem LoopInv.fetchedStep (inv : LoopInv overlapped state) (errorCode : UInt32)
    (here : state.pc = .fetched errorCode) :
    LoopInv overlapped
      { state with
        pc := if errorCode = errorIoPending then .getOverlappedResult else .result errorCode } := by
  have alive := inv.alive
  have idle := inv.idle
  rw [here] at alive idle
  by_cases pending : errorCode = errorIoPending
  · refine inv.reports (by simpa [pending, LoopPc.inFetch] using alive) rfl (by simp [here])
      (by simp [here, pending, LoopPc.reportsPending]) ?_ (by simp [pending, LoopPc.beforeCall])
    intro flying
    exact ⟨(inv.stale flying).1, fun _ => (inv.stale flying).2 (by rw [here]; rfl)⟩
  · have silent : (LoopPc.fetched errorCode).reportsPending = false :=
      beq_eq_false_iff_ne.mpr pending
    refine .settled ?_ (idle (by simp) silent) ?_ inv.ended ?_
    all_goals simp only [pending, if_false]
    · exact alive
    · rfl
    · exact Or.inl rfl

theorem loopStep_inv (event : LoopEvent) (inv : LoopInv overlapped state)
    (taken : loopStep overlapped state state.pc event = some after) : LoopInv overlapped after := by
  have alive := inv.alive
  have fresh := inv.fresh
  have idle := inv.idle
  generalize here : state.pc = pc at alive fresh idle taken
  cases loopStep_cases taken with
  | test running =>
      cases running <;> exact .settled alive (idle (by simp) rfl) rfl inv.ended (Or.inl rfl)
  | reset =>
      cases overlapped <;>
        exact .settled rfl (idle (by simp) rfl) rfl inv.ended (Or.inr rfl)
  | resetFails | handle | stop =>
      exact .settled alive (idle (by simp) rfl) rfl inv.ended (Or.inl rfl)
  | create => exact .settled alive (idle (by simp) rfl) rfl inv.ended (Or.inr (fresh rfl))
  | createFails error failure =>
      exact .settled alive (idle (by simp) rfl) (reportsPending_of_failure failure)
        inv.ended (Or.inl rfl)
  | completed request =>
      exact .settled rfl (by simp) rfl (fun _ finished => by cases finished) (Or.inl rfl)
  | failed error failure =>
      exact .settled alive (by simp) (reportsPending_of_failure failure)
        (fun _ finished => by cases finished) (Or.inl rfl)
  | pending => exact inv.ofPending here
  | waited status finished =>
      have idle : state.operation ≠ .inFlight := by
        rw [finished]
        simp
      exact .settled alive idle (beq_eq_false_iff_ne.mpr (inv.ended status finished))
        inv.ended (Or.inl rfl)
  | copy status => exact inv.copyStep status here
  | leave status =>
      refine inv.reports rfl rfl (by simp [here]) (by rw [here]; rfl) ?_ (Or.inl rfl)
      intro flying
      exact ⟨fun _ absent => (by cases absent),
        fun _ => (inv.stale flying).2 (by rw [here]; rfl)⟩
  | fetched errorCode => exact inv.fetchedStep errorCode here
  | getResult status finished =>
      refine .settled alive ?_ rfl inv.ended (Or.inl rfl)
      rw [finished]
      simp
  | result errorCode =>
      split <;> exact .settled alive (idle (by simp) rfl) rfl inv.ended (Or.inl rfl)

theorem loopNext_inv (event : LoopEvent) (inv : LoopInv overlapped state)
    (taken : loopNext overlapped state event = some after) : LoopInv overlapped after := by
  cases event with
  | complete completion => exact completeStep_inv completion inv taken
  | isRunning | systemCall | deviceIoControl | proceed => exact loopStep_inv _ inv taken

end Invariant

/-! ## When the loop handles exactly what was produced -/

section Exact

variable {overlapped : Bool} {state after : LoopState}

theorem handlesExactly_kept (produced : after.produced = state.produced)
    (handled : after.handled = state.handled) (inTime : after.lateWrites = state.lateWrites)
    (inHand : after.inHand = state.inHand) : HandlesExactly after ↔ HandlesExactly state := by
  constructor
  · rintro ⟨exactly, none⟩
    exact ⟨by rw [← produced, ← handled, ← inHand]; exact exactly, by rw [← inTime]; exact none⟩
  · rintro ⟨exactly, none⟩
    exact ⟨by rw [produced, handled, inHand]; exact exactly, by rw [inTime]; exact none⟩

/-- A request arrives, and `handed` will be passed to `WnbdHandleRequest`. -/
theorem handlesExactly_arrived (request handed : WnbdIoRequest)
    (produced : after.produced = state.produced ++ [request])
    (handled : after.handled = state.handled) (inTime : after.lateWrites = state.lateWrites)
    (before : state.inHand = []) (inHand : after.inHand = [handed]) :
    HandlesExactly after ↔ HandlesExactly state ∧ request = handed := by
  constructor
  · rintro ⟨exactly, none⟩
    rw [produced, handled, inHand] at exactly
    obtain ⟨same, last⟩ := List.append_inj' exactly rfl
    rw [inTime] at none
    refine ⟨⟨?_, none⟩, (List.cons.inj last).1⟩
    rw [before, List.append_nil]
    exact same
  · rintro ⟨⟨exactly, none⟩, rfl⟩
    rw [before, List.append_nil] at exactly
    refine ⟨?_, inTime.trans none⟩
    rw [produced, handled, inHand, exactly]

theorem fetchSucceeds_failure {error : UInt32} (failure : isFailure error = true)
    (operation : Operation) : fetchSucceeds error operation = false := by
  obtain ⟨nonzero, notPending⟩ := isFailure_ne failure
  simp [fetchSucceeds, nonzero, notPending]

theorem fetchSucceeds_finished (status : UInt32) (notPending : status ≠ errorIoPending) :
    fetchSucceeds status (.finished status) = (status == 0) := by
  simp [fetchSucceeds, notPending]

theorem copy_inHand (inv : LoopInv overlapped state) (status : UInt32)
    (here : state.pc = .copy status) (succeeds : fetchSucceeds status state.operation = true) :
    state.command.toList =
      [if copiesRequest overlapped status then state.command.getD state.request
        else state.request] := by
  have alive := inv.alive
  rw [here] at alive
  obtain ⟨command, stored⟩ := Option.isSome_iff_exists.mp alive
  have copies : copiesRequest overlapped status = true := by
    simp only [fetchSucceeds, Bool.or_eq_true, Bool.and_eq_true, beq_iff_eq] at succeeds
    rcases succeeds with rfl | ⟨rfl, -⟩
    · rfl
    · cases overlapped with
      | true => rfl
      | false =>
          have silent := inv.inside rfl
          rw [here] at silent
          cases silent
  rw [copies, if_pos rfl, stored]
  rfl

theorem loopStep_exact (event : LoopEvent) (inv : LoopInv overlapped state)
    (taken : loopStep overlapped state state.pc event = some after) :
    HandlesExactly after ↔ HandlesExactly state := by
  generalize here : state.pc = pc at taken
  cases loopStep_cases taken with
  | test running =>
      refine handlesExactly_kept rfl rfl rfl ?_
      cases running <;> simp only [LoopState.inHand, here] <;> rfl
  | reset | pending =>
      refine handlesExactly_kept rfl rfl rfl ?_
      cases overlapped <;> simp only [LoopState.inHand, here] <;> rfl
  | resetFails | create | leave | stop =>
      exact handlesExactly_kept rfl rfl rfl (by simp only [LoopState.inHand, here])
  | createFails error failure | failed error failure =>
      refine handlesExactly_kept rfl rfl rfl ?_
      simp only [LoopState.inHand, here, fetchSucceeds_failure failure, Bool.false_eq_true, if_false]
  | completed request =>
      have before : state.inHand = [] := by simp only [LoopState.inHand, here]
      refine Iff.trans (handlesExactly_arrived request request ?_ ?_ ?_ before ?_)
        (and_iff_left rfl) <;> rfl
  | waited status finished =>
      refine handlesExactly_kept rfl rfl rfl ?_
      have notPending := inv.ended status finished
      simp only [LoopState.inHand, here, finished, fetchSucceeds_finished status notPending,
        beq_iff_eq, Operation.finished.injEq]
  | copy status =>
      refine handlesExactly_kept rfl rfl rfl ?_
      simp only [LoopState.inHand, here]
      split
      case isTrue succeeds => exact (copy_inHand inv status here succeeds).symm
      case isFalse => rfl
  | fetched errorCode =>
      refine handlesExactly_kept rfl rfl rfl ?_
      by_cases pending : errorCode = errorIoPending
      · subst pending
        simp [LoopState.inHand, here, fetchSucceeds, show errorIoPending ≠ 0 by decide]
      · simp [LoopState.inHand, here, fetchSucceeds, pending]
  | getResult status finished =>
      refine handlesExactly_kept rfl rfl rfl ?_
      simp only [LoopState.inHand, here, finished, Operation.finished.injEq]
  | result errorCode =>
      refine handlesExactly_kept rfl rfl rfl ?_
      by_cases success : errorCode = 0
      · simp [LoopState.inHand, here, success]
      · simp [LoopState.inHand, here, success]
  | handle =>
      have before : state.inHand = [state.request] := by simp only [LoopState.inHand, here]
      constructor
      · rintro ⟨exactly, none⟩
        refine ⟨?_, none⟩
        rw [before]
        exact exactly.trans (List.append_nil _)
      · rintro ⟨exactly, none⟩
        refine ⟨?_, none⟩
        rw [before] at exactly
        exact exactly.trans (List.append_nil _).symm

/-- A round that waits for its operation has nothing to handle yet. -/
theorem inHand_of_waiting (waits : state.pc = .waitInside ∨ state.pc.reportsPending = true)
    (without : state.operation ≠ .finished 0) : state.inHand = [] := by
  rcases waits with waiting | reports
  · simp [LoopState.inHand, waiting, without]
  · revert reports
    unfold LoopState.inHand LoopPc.reportsPending
    cases state.pc <;> intro reports <;> first | cases reports | skip
    all_goals simp_all [fetchSucceeds, show errorIoPending ≠ 0 by decide]

theorem LoopInv.waits (inv : LoopInv overlapped state) (flying : state.operation = .inFlight) :
    state.pc = .waitInside ∨ state.pc.reportsPending = true := by
  rcases inv.awaited flying with waiting | ⟨-, reports⟩
  · exact Or.inl waiting
  · exact Or.inr reports

theorem inHand_of_inFlight (inv : LoopInv overlapped state) (flying : state.operation = .inFlight) :
    state.inHand = [] := by
  refine inHand_of_waiting (inv.waits flying) ?_
  rw [flying]
  simp

/-- The request of a pending fetch arrives: in `Command` before the copy, too
late for the copy, or after the lifetime of `Command`. -/
theorem request_exact (inv : LoopInv overlapped state) (flying : state.operation = .inFlight)
    (request : WnbdIoRequest) (taken : completeStep state (.request request) = some after) :
    HandlesExactly after ↔
      HandlesExactly state ∧ DeliveredBeforeCopy state (.complete (.request request)) := by
  obtain ⟨-, equal⟩ := Option.ite_none_right_eq_some.mp taken
  have afterEq := Option.some.inj equal
  have before := inHand_of_inFlight inv flying
  have alive := inv.alive
  by_cases live : state.command.isSome = true
  · obtain ⟨command, stored⟩ := Option.isSome_iff_exists.mp live
    rw [stored] at alive
    have handed : ∀ next : WnbdIoRequest, after.inHand = [next] →
        (HandlesExactly after ↔ HandlesExactly state ∧ request = next) := by
      intro next inHand
      refine handlesExactly_arrived request next ?_ ?_ ?_ before inHand
      · rw [← afterEq]
      · rw [← afterEq]
      · rw [← afterEq]
        exact if_pos live
    by_cases copied : state.pc.copied = true
    · -- Of the steps after the copy only `leave` is in the lifetime of `Command`.
      have zero := (inv.stale flying).2 copied
      have inHand : after.inHand = [state.request] := by
        rw [← afterEq]
        rcases inv.awaited flying with waiting | ⟨-, reports⟩
        · rw [waiting] at copied
          cases copied
        · revert reports copied alive
          simp only [LoopState.inHand]
          cases state.pc with
          | leave status =>
              intro _ _ reports
              rw [eq_of_beq reports]
              rfl
          | fetched | getOverlappedResult => intro alive; cases alive
          | _ => intro _ copied; cases copied
      rw [handed state.request inHand, zero]
      simp [DeliveredBeforeCopy, copied, live]
    · have inHand : after.inHand = [request] := by
        rw [← afterEq]
        simp only [LoopState.inHand, stored, Option.map_some]
        rcases inv.awaited flying with waiting | ⟨-, reports⟩
        · rw [waiting]
          rfl
        · revert reports copied alive
          cases state.pc with
          | copy status =>
              intro _ _ reports
              rw [eq_of_beq reports]
              rfl
          | leave | fetched | getOverlappedResult => intro _ copied; exact absurd rfl copied
          | _ => intro _ _ reports; cases reports
      rw [handed request inHand]
      simp [DeliveredBeforeCopy, copied]
  · have dead : state.command.isSome = false := Bool.eq_false_iff.mpr live
    refine iff_of_false ?_ ?_
    · rintro ⟨-, none⟩
      rw [← afterEq] at none
      simp [dead] at none
    · rintro ⟨-, inTime⟩
      have copied : state.pc.copied = true := by
        rcases inv.awaited flying with waiting | ⟨-, reports⟩
        · rw [waiting, dead] at alive
          cases alive
        · rw [dead] at alive
          revert reports alive
          cases state.pc <;> intro alive reports <;> first | rfl | cases reports | cases alive
      exact live (inTime copied).1

theorem loopNext_exact (event : LoopEvent) (inv : LoopInv overlapped state)
    (taken : loopNext overlapped state event = some after) :
    HandlesExactly after ↔ HandlesExactly state ∧ DeliveredBeforeCopy state event := by
  cases event with
  | complete completion =>
      cases completion with
      | request request =>
          obtain ⟨flying, -⟩ := Option.ite_none_right_eq_some.mp taken
          exact request_exact inv flying request taken
      | error error =>
          obtain ⟨guard, ⟨⟩⟩ := Option.ite_none_right_eq_some.mp taken
          simp only [Bool.and_eq_true, decide_eq_true_eq] at guard
          obtain ⟨flying, failure⟩ := guard
          have allowed : DeliveredBeforeCopy state (.complete (.error error)) := trivial
          rw [and_iff_left allowed]
          refine handlesExactly_kept rfl rfl rfl ?_
          rw [inHand_of_inFlight inv flying]
          refine inHand_of_waiting (inv.waits flying) ?_
          simpa using (isFailure_ne failure).1
  | isRunning | systemCall | deviceIoControl | proceed =>
      exact (loopStep_exact _ inv taken).trans (and_iff_left trivial).symm

end Exact

/-- In every run: what the loop handles is what the driver produced, once each
and in order, and no output misses `Command`, exactly when no fetch delivers its
request after the copy. -/
theorem dispatcher_loop_exact_iff (uninitialised : WnbdIoRequest) (events : List LoopEvent)
    (state : LoopState)
    (ran : run (loopNext true) (LoopState.initial uninitialised) events = some state) :
    HandlesExactly state ↔
      AllAllowed (loopNext true) DeliveredBeforeCopy (LoopState.initial uninitialised) events := by
  rw [clean_iff_allAllowed (LoopInv true) HandlesExactly
    (fun _ _ event inv taken => loopNext_inv event inv taken)
    (fun _ _ event inv taken => loopNext_exact event inv taken) events _ state
    (loopInv_initial true uninitialised) ran]
  exact and_iff_right ⟨rfl, rfl⟩

/-- Without an overlapped structure of the caller the wait is inside, before the
copy, and the loop would be exact in every run. -/
theorem exact_without_overlapped (uninitialised : WnbdIoRequest) (events : List LoopEvent)
    (state : LoopState)
    (ran : run (loopNext false) (LoopState.initial uninitialised) events = some state) :
    HandlesExactly state := by
  have both : LoopInv false state ∧ HandlesExactly state := by
    refine invariant_of_run (fun state => LoopInv false state ∧ HandlesExactly state) ?_ events _
      state ⟨loopInv_initial false uninitialised, rfl, rfl⟩ ran
    intro before after event held taken
    obtain ⟨inv, exactly⟩ := held
    refine ⟨loopNext_inv event inv taken, (loopNext_exact event inv taken).mpr ⟨exactly, ?_⟩⟩
    cases event with
    | complete completion =>
        cases completion with
        | request request =>
            intro copied
            obtain ⟨flying, -⟩ := Option.ite_none_right_eq_some.mp taken
            rcases inv.awaited flying with waiting | ⟨alone, -⟩
            · rw [waiting] at copied
              cases copied
            · cases alone
        | error error => trivial
    | _ => trivial
  exact both.2

/-! ## One fetch, completed at once or too late -/

def oneBlockRead : WnbdIoRequest :=
  { requestHandle := 1, requestType := .read, cmd := .read 0 1 false }

def fetchOnce (result : IoControlResult) : List LoopEvent :=
  [.isRunning true, .systemCall 0, .deviceIoControl result, .proceed, .proceed]

def completedFetch : List LoopEvent :=
  fetchOnce (.completed oneBlockRead) ++ [.proceed, .proceed, .proceed]

def pendingFetch : List LoopEvent :=
  fetchOnce .pending ++ [.proceed, .complete (.request oneBlockRead), .proceed, .proceed, .proceed]

theorem dispatcher_loop_exact_completed :
    ∃ state, run (loopNext true) (LoopState.initial .zero) completedFetch = some state ∧
      state.handled = [oneBlockRead] ∧ HandlesExactly state := by
  have enabled : (run (loopNext true) (LoopState.initial .zero) completedFetch).map
      (·.handled) = some [oneBlockRead] := by
    decide +kernel
  obtain ⟨state, ran, handled⟩ := Option.map_eq_some_iff.mp enabled
  refine ⟨state, ran, handled, ?_⟩
  exact (dispatcher_loop_exact_iff .zero completedFetch state ran).mpr (by decide +kernel)

/-- The driver's read goes to a dead `Command`, and the loop handles zeros. -/
theorem pending_fetch_handled_stale :
    ¬ ∀ (uninitialised : WnbdIoRequest) (events : List LoopEvent) (state : LoopState),
      run (loopNext true) (LoopState.initial uninitialised) events = some state →
      HandlesExactly state := by
  intro always
  have enabled : (run (loopNext true) (LoopState.initial .zero) pendingFetch).map
      (fun last => (last.handled, last.lateWrites)) = some ([.zero], [oneBlockRead]) := by
    decide +kernel
  obtain ⟨state, ran, fields⟩ := Option.map_eq_some_iff.mp enabled
  have inTime := (always .zero pendingFetch state ran).inTime
  rw [(Prod.mk.inj fields).2] at inTime
  cases inTime

end Wnbd.Libwnbd
