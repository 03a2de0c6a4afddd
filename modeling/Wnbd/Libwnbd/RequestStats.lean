import Wnbd.Foundation.Counting
import Wnbd.Foundation.StepSystem
import Wnbd.Nbd.Reply

/-!
# The request statistics of libwnbd

`WnbdHandleRequest` counts a request as submitted only after the handler it
called has returned; the answer, which another thread may send before, takes it
off again.  `request_stats_balanced_iff` says in which runs the two gauges stay
above zero and end where they should.
-/

set_option autoImplicit false

namespace Wnbd.Libwnbd

open Wnbd.Scsi Wnbd.Dispatch StepSystem
open Wnbd.Nbd (wnbdSetSense)

/-! ## Disks, requests and responses -/

/-- What `WnbdHandleRequest` reads of a `WNBD_DISK`; `implements` says which
functions of `Interface` are not NULL. -/
structure WnbdDisk where
  implements : WnbdRequestType → Bool
  flags : WnbdFlags
  unmapAnchorSupported : Bool
  maxUnmapDescCount : UInt32

structure FetchedRequest where
  request : WnbdIoRequest
  anchor : Bool
deriving DecidableEq, Repr

structure WnbdIoResponse where
  requestHandle : UInt64
  requestType : WnbdRequestType
  status : WnbdStatus
deriving DecidableEq, Repr

def scsiAdsenseIllegalCommand : UInt8 := 0x20
def scsiAdsenseInvalidCdb : UInt8 := 0x24
def scsiAdsenseInvalidFieldParameterList : UInt8 := 0x26

def errorNotFound : UInt32 := 1168

inductive Route
  | disconnect
  | handler
  | unsupported (additionalSenseCode : UInt8)
deriving DecidableEq, Repr

def routeIf (supported : Bool) : Route :=
  if supported then .handler else .unsupported scsiAdsenseIllegalCommand

def unmapCount : IoCommand → UInt32
  | .unmap count => count
  | _ => 0

def routeRequest (disk : WnbdDisk) (fetched : FetchedRequest) : Route :=
  match fetched.request.requestType with
  | .disconnect => .disconnect
  | .read => routeIf (disk.implements .read)
  | .write => routeIf (disk.implements .write)
  | .flush => routeIf (disk.implements .flush && disk.flags.flushSupported)
  | .unmap =>
      if !disk.implements .unmap || !disk.flags.unmapSupported then
        .unsupported scsiAdsenseIllegalCommand
      else if !disk.unmapAnchorSupported && fetched.anchor then .unsupported scsiAdsenseInvalidCdb
      else if disk.maxUnmapDescCount < unmapCount fetched.request.cmd then
        .unsupported scsiAdsenseInvalidFieldParameterList
      else .handler
  | .persistResIn => routeIf (disk.implements .persistResIn && disk.flags.persistResSupported)
  | .persistResOut => routeIf (disk.implements .persistResOut && disk.flags.persistResSupported)
  | .unknown => .unsupported scsiAdsenseIllegalCommand

/-! ## State -/

/-- `WNBD_USR_STATS`.  Three of the unsigned fields are also counted down; here
they are the integers of which the fields hold the remainder. -/
structure WnbdUsrStats where
  totalReceivedRequests : UInt64
  totalSubmittedRequests : UInt64
  totalReceivedReplies : UInt64
  unsubmittedRequests : Int
  pendingSubmittedRequests : Int
  pendingReplies : Int
  readErrors : UInt64
  writeErrors : UInt64
  flushErrors : UInt64
  unmapErrors : UInt64
  invalidRequests : UInt64
  totalRWRequests : UInt64
  totalReadBlocks : UInt64
  totalWrittenBlocks : UInt64
  persistResInErrors : UInt64
  persistResOutErrors : UInt64
deriving DecidableEq, Repr

def WnbdUsrStats.zero : WnbdUsrStats :=
  { totalReceivedRequests := 0, totalSubmittedRequests := 0, totalReceivedReplies := 0
    unsubmittedRequests := 0, pendingSubmittedRequests := 0, pendingReplies := 0
    readErrors := 0, writeErrors := 0, flushErrors := 0, unmapErrors := 0
    invalidRequests := 0, totalRWRequests := 0, totalReadBlocks := 0, totalWrittenBlocks := 0
    persistResInErrors := 0, persistResOutErrors := 0 }

inductive Caller
  | replier
  /-- A handler, before it returns to `WnbdHandleRequest`. -/
  | handler (fetched : FetchedRequest)
  /-- `WnbdHandleRequest` itself, for an unsupported request. -/
  | unsupported
deriving DecidableEq, Repr

inductive Outcome
  | disconnect
  | handler
  | unsupported
deriving DecidableEq, Repr

inductive ThreadPc
  | idle
  /-- `WnbdHandleRequest`. -/
  | countUnsubmitted (fetched : FetchedRequest)
  | route (fetched : FetchedRequest)
  | inHandler (fetched : FetchedRequest)
  | avoidNegative (fetched : FetchedRequest) (additionalSenseCode : UInt8)
  | retire (outcome : Outcome)
  | countSubmitted (outcome : Outcome)
  /-- `WnbdSendResponseEx`. -/
  | reply (response : WnbdIoResponse) (caller : Caller)
  | subtractPending (response : WnbdIoResponse) (caller : Caller)
  | checkRunning (response : WnbdIoResponse) (caller : Caller)
  | send (caller : Caller)
deriving DecidableEq, Repr

/-- The last three have no counterpart in the library: the handles of the I/O
requests passed to a handler and not answered, the number of disconnect requests
that were handled, and whether a gauge was decremented at zero. -/
structure StatsState where
  stats : WnbdUsrStats
  running : Bool
  threads : Nat → ThreadPc
  unanswered : List UInt64
  disconnects : Nat
  wrapped : Bool

/-- `Started` is set before the dispatcher threads run. -/
def StatsState.initial : StatsState :=
  { stats := .zero, running := true, threads := fun _ => .idle, unanswered := [],
    disconnects := 0, wrapped := false }

def StatsState.setPc (state : StatsState) (thread : Nat) (pc : ThreadPc) : StatsState :=
  { state with threads := Function.update state.threads thread pc }

/-! ## Steps -/

inductive Choice
  | handle (fetched : FetchedRequest)
  | respond (response : WnbdIoResponse)
  | sent (status : UInt32)
  | proceed
deriving DecidableEq, Repr

def countTransfer (stats : WnbdUsrStats) (request : WnbdIoRequest) : WnbdUsrStats :=
  match request.requestType, request.cmd with
  | .read, .read _ blockCount _ =>
      { stats with
        totalRWRequests := stats.totalRWRequests + 1
        totalReadBlocks := stats.totalReadBlocks + blockCount.toUInt64 }
  | .write, .write _ blockCount _ =>
      { stats with
        totalRWRequests := stats.totalRWRequests + 1
        totalWrittenBlocks := stats.totalWrittenBlocks + blockCount.toUInt64 }
  | _, _ => stats

def countError (stats : WnbdUsrStats) (response : WnbdIoResponse) : WnbdUsrStats :=
  if response.status.scsiStatus = 0 then stats
  else
    match response.requestType with
    | .read => { stats with readErrors := stats.readErrors + 1 }
    | .write => { stats with writeErrors := stats.writeErrors + 1 }
    | .flush => { stats with flushErrors := stats.flushErrors + 1 }
    | .unmap => { stats with unmapErrors := stats.unmapErrors + 1 }
    | .persistResIn => { stats with persistResInErrors := stats.persistResInErrors + 1 }
    | .persistResOut => { stats with persistResOutErrors := stats.persistResOutErrors + 1 }
    | .unknown | .disconnect => stats

def unsupportedResponse (request : WnbdIoRequest) (additionalSenseCode : UInt8) : WnbdIoResponse :=
  { requestHandle := request.requestHandle
    requestType := request.requestType
    status := wnbdSetSense scsiSenseIllegalRequest additionalSenseCode }

def submit (stats : WnbdUsrStats) : WnbdUsrStats :=
  { stats with
    totalSubmittedRequests := stats.totalSubmittedRequests + 1
    pendingSubmittedRequests := stats.pendingSubmittedRequests + 1 }

def handleStep (disk : WnbdDisk) (state : StatsState) (thread : Nat) :
    ThreadPc → Choice → Option StatsState
  | .idle, .handle fetched =>
      some ({ state with
        stats.totalReceivedRequests := state.stats.totalReceivedRequests + 1 }.setPc thread
          (.countUnsubmitted fetched))
  | .countUnsubmitted fetched, .proceed =>
      some ({ state with
        stats.unsubmittedRequests := state.stats.unsubmittedRequests + 1 }.setPc thread
          (.route fetched))
  | .route fetched, .proceed =>
      match routeRequest disk fetched with
      | .disconnect => some ({ state with running := false }.setPc thread (.retire .disconnect))
      | .handler =>
          some ({ state with
            unanswered := state.unanswered ++ [fetched.request.requestHandle] }.setPc thread
              (.inHandler fetched))
      | .unsupported code => some (state.setPc thread (.avoidNegative fetched code))
  | .inHandler fetched, .proceed =>
      some ({ state with stats := countTransfer state.stats fetched.request }.setPc thread
        (.retire .handler))
  | .avoidNegative fetched code, .proceed =>
      some ({ state with
        stats.pendingSubmittedRequests := state.stats.pendingSubmittedRequests + 1 }.setPc thread
          (.reply (unsupportedResponse fetched.request code) .unsupported))
  | .retire outcome, .proceed =>
      some ({ state with
        stats.unsubmittedRequests := state.stats.unsubmittedRequests - 1
        wrapped := state.wrapped || decide (state.stats.unsubmittedRequests ≤ 0) }.setPc thread
          (.countSubmitted outcome))
  | .countSubmitted .unsupported, .proceed =>
      some ({ state with
        stats.invalidRequests := state.stats.invalidRequests + 1 }.setPc thread .idle)
  | .countSubmitted .handler, .proceed =>
      some ({ state with stats := submit state.stats }.setPc thread .idle)
  | .countSubmitted .disconnect, .proceed =>
      some ({ state with
        stats := submit state.stats
        disconnects := state.disconnects + 1 }.setPc thread .idle)
  | _, _ => none

def Caller.pc : Caller → ThreadPc
  | .replier => .idle
  | .handler fetched => .inHandler fetched
  | .unsupported => .retire .unsupported

/-- A request is answered once. -/
def respondStep (state : StatsState) (thread : Nat) (response : WnbdIoResponse)
    (caller : Caller) : Option StatsState :=
  if response.requestHandle ∈ state.unanswered then
    some ({ state with
      unanswered := state.unanswered.erase response.requestHandle }.setPc thread
        (.reply response caller))
  else none

def replyStep (state : StatsState) (thread : Nat) : ThreadPc → Choice → Option StatsState
  | .idle, .respond response => respondStep state thread response .replier
  | .inHandler fetched, .respond response => respondStep state thread response (.handler fetched)
  | .reply response caller, .proceed =>
      some ({ state with
        stats.totalReceivedReplies := state.stats.totalReceivedReplies + 1 }.setPc thread
          (.subtractPending response caller))
  | .subtractPending response caller, .proceed =>
      some ({ state with
        stats.pendingSubmittedRequests := state.stats.pendingSubmittedRequests - 1
        wrapped := state.wrapped || decide (state.stats.pendingSubmittedRequests ≤ 0) }.setPc thread
          (.checkRunning response caller))
  | .checkRunning response caller, .proceed =>
      let counted := countError state.stats response
      if state.running then
        some ({ state with
          stats := { counted with pendingReplies := counted.pendingReplies + 1 } }.setPc thread
            (.send caller))
      else some ({ state with stats := counted }.setPc thread caller.pc)
  | .send caller, .sent status =>
      some ({ state with
        stats.pendingReplies := state.stats.pendingReplies - 1
        running := state.running && !(decide (caller = Caller.unsupported) &&
          decide (status = errorNotFound)) }.setPc
          thread caller.pc)
  | _, _ => none

/-- The two functions have no step in common. -/
def statsNext (disk : WnbdDisk) (state : StatsState) (action : Nat × Choice) :
    Option StatsState :=
  (handleStep disk state action.1 (state.threads action.1) action.2).or
    (replyStep state action.1 (state.threads action.1) action.2)

/-! ## What a step can do -/

section Cases

variable (disk : WnbdDisk) (state : StatsState) (thread : Nat)

/-- One case for each branch of `handleStep`. -/
inductive HandleCase : ThreadPc → StatsState → Prop
  | received (fetched : FetchedRequest) :
      HandleCase .idle
        ({ state with
          stats.totalReceivedRequests := state.stats.totalReceivedRequests + 1 }.setPc thread
            (.countUnsubmitted fetched))
  | unsubmitted (fetched : FetchedRequest) :
      HandleCase (.countUnsubmitted fetched)
        ({ state with
          stats.unsubmittedRequests := state.stats.unsubmittedRequests + 1 }.setPc thread
            (.route fetched))
  | disconnect (fetched : FetchedRequest) (routed : routeRequest disk fetched = .disconnect) :
      HandleCase (.route fetched)
        ({ state with running := false }.setPc thread (.retire .disconnect))
  | pass (fetched : FetchedRequest) (routed : routeRequest disk fetched = .handler) :
      HandleCase (.route fetched)
        ({ state with
          unanswered := state.unanswered ++ [fetched.request.requestHandle] }.setPc thread
            (.inHandler fetched))
  | reject (fetched : FetchedRequest) (code : UInt8)
      (routed : routeRequest disk fetched = .unsupported code) :
      HandleCase (.route fetched) (state.setPc thread (.avoidNegative fetched code))
  | returned (fetched : FetchedRequest) :
      HandleCase (.inHandler fetched)
        ({ state with stats := countTransfer state.stats fetched.request }.setPc thread
          (.retire .handler))
  | avoidNegative (fetched : FetchedRequest) (code : UInt8) :
      HandleCase (.avoidNegative fetched code)
        ({ state with
          stats.pendingSubmittedRequests := state.stats.pendingSubmittedRequests + 1 }.setPc thread
            (.reply (unsupportedResponse fetched.request code) .unsupported))
  | retire (outcome : Outcome) :
      HandleCase (.retire outcome)
        ({ state with
          stats.unsubmittedRequests := state.stats.unsubmittedRequests - 1
          wrapped := state.wrapped || decide (state.stats.unsubmittedRequests ≤ 0) }.setPc thread
            (.countSubmitted outcome))
  | invalid :
      HandleCase (.countSubmitted .unsupported)
        ({ state with
          stats.invalidRequests := state.stats.invalidRequests + 1 }.setPc thread .idle)
  | submitted :
      HandleCase (.countSubmitted .handler)
        ({ state with stats := submit state.stats }.setPc thread .idle)
  | disconnected :
      HandleCase (.countSubmitted .disconnect)
        ({ state with
          stats := submit state.stats
          disconnects := state.disconnects + 1 }.setPc thread .idle)

/-- One case for each branch of `replyStep`; the two threads that may answer
share the first. -/
inductive ReplyCase : ThreadPc → StatsState → Prop
  | answer (pc : ThreadPc) (response : WnbdIoResponse) (caller : Caller) (begins : caller.pc = pc)
      (starts : pc = .idle ∨ ∃ fetched, pc = .inHandler fetched)
      (member : response.requestHandle ∈ state.unanswered) :
      ReplyCase pc
        ({ state with
          unanswered := state.unanswered.erase response.requestHandle }.setPc thread
            (.reply response caller))
  | received (response : WnbdIoResponse) (caller : Caller) :
      ReplyCase (.reply response caller)
        ({ state with
          stats.totalReceivedReplies := state.stats.totalReceivedReplies + 1 }.setPc thread
            (.subtractPending response caller))
  | subtract (response : WnbdIoResponse) (caller : Caller) :
      ReplyCase (.subtractPending response caller)
        ({ state with
          stats.pendingSubmittedRequests := state.stats.pendingSubmittedRequests - 1
          wrapped := state.wrapped || decide (state.stats.pendingSubmittedRequests ≤ 0) }.setPc
            thread (.checkRunning response caller))
  | running (response : WnbdIoResponse) (caller : Caller) (isRunning : state.running = true) :
      ReplyCase (.checkRunning response caller)
        ({ state with
          stats := { countError state.stats response with
            pendingReplies := (countError state.stats response).pendingReplies + 1 } }.setPc thread
              (.send caller))
  | stopped (response : WnbdIoResponse) (caller : Caller) (isStopped : state.running = false) :
      ReplyCase (.checkRunning response caller)
        ({ state with stats := countError state.stats response }.setPc thread caller.pc)
  | sent (caller : Caller) (status : UInt32) :
      ReplyCase (.send caller)
        ({ state with
          stats.pendingReplies := state.stats.pendingReplies - 1
          running := state.running && !(decide (caller = Caller.unsupported) &&
            decide (status = errorNotFound)) }.setPc thread caller.pc)

end Cases

/-! ## What the threads owe the gauges -/

def ThreadPc.caller : ThreadPc → Option Caller
  | .reply _ caller | .subtractPending _ caller | .checkRunning _ caller | .send caller =>
      some caller
  | _ => none

def ThreadPc.uncounted (pc : ThreadPc) : Bool :=
  match pc with
  | .inHandler _ | .retire .handler | .countSubmitted .handler => true
  | _ =>
      match pc.caller with
      | some (.handler _) => true
      | _ => false

/-- The thread has an answer that is still counted as pending. -/
def ThreadPc.subtracting : ThreadPc → Bool
  | .reply _ _ | .subtractPending _ _ => true
  | _ => false

def ThreadPc.unsubmitted (pc : ThreadPc) : Bool :=
  match pc with
  | .route _ | .inHandler _ | .avoidNegative _ _ | .retire _ => true
  | _ =>
      match pc.caller with
      | some (.handler _) | some .unsupported => true
      | _ => false

def AtRest (state : StatsState) : Prop := ∀ thread, state.threads thread = .idle

/-- What a step of `thread` to `next` does to the gauges. -/
structure Balanced (before after : StatsState) (old new : ThreadPc) : Prop where
  pending : after.stats.pendingSubmittedRequests - after.unanswered.length - after.disconnects +
      (if new.uncounted = true then 1 else 0 : Nat) - (if new.subtracting = true then 1 else 0 : Nat) =
    before.stats.pendingSubmittedRequests - before.unanswered.length - before.disconnects +
      (if old.uncounted = true then 1 else 0 : Nat) - (if old.subtracting = true then 1 else 0 : Nat)
  unsubmitted :
    after.stats.unsubmittedRequests - (if new.unsubmitted = true then 1 else 0 : Nat) =
      before.stats.unsubmittedRequests - (if old.unsubmitted = true then 1 else 0 : Nat)

section Steps

variable {disk : WnbdDisk} {state after : StatsState} {thread : Nat} {pc : ThreadPc}
variable {choice : Choice}

theorem countTransfer_gauges (stats : WnbdUsrStats) (request : WnbdIoRequest) :
    (countTransfer stats request).pendingSubmittedRequests = stats.pendingSubmittedRequests ∧
      (countTransfer stats request).unsubmittedRequests = stats.unsubmittedRequests := by
  unfold countTransfer
  split <;> exact ⟨rfl, rfl⟩

theorem countError_gauges (stats : WnbdUsrStats) (response : WnbdIoResponse) :
    (countError stats response).pendingSubmittedRequests = stats.pendingSubmittedRequests ∧
      (countError stats response).unsubmittedRequests = stats.unsubmittedRequests := by
  unfold countError
  split
  · exact ⟨rfl, rfl⟩
  · split <;> exact ⟨rfl, rfl⟩

theorem handleStep_cases (taken : handleStep disk state thread pc choice = some after) :
    HandleCase disk state thread pc after := by
  cases pc with
  | idle =>
      cases choice with
      | handle fetched =>
          cases taken
          exact .received fetched
      | _ => cases taken
  | route fetched =>
      cases choice with
      | proceed =>
          cases routed : routeRequest disk fetched with
          | disconnect =>
              simp only [handleStep, routed] at taken
              cases taken
              exact .disconnect fetched routed
          | handler =>
              simp only [handleStep, routed] at taken
              cases taken
              exact .pass fetched routed
          | unsupported code =>
              simp only [handleStep, routed] at taken
              cases taken
              exact .reject fetched code routed
      | _ => cases taken
  | countSubmitted outcome =>
      cases choice with
      | proceed =>
          cases outcome with
          | unsupported | handler | disconnect =>
              cases taken
              constructor
      | _ => cases outcome <;> cases taken
  | countUnsubmitted | inHandler | avoidNegative | retire =>
      cases choice with
      | proceed =>
          cases taken
          constructor
      | _ => cases taken
  | _ => cases taken

theorem handleStep_balanced (taken : handleStep disk state thread pc choice = some after) :
    ∃ next, after.threads = Function.update state.threads thread next ∧
      Balanced state after pc next := by
  cases handleStep_cases taken with
  | pass fetched =>
      refine ⟨_, rfl, ?_, ?_⟩ <;>
        simp [StatsState.setPc, ThreadPc.uncounted, ThreadPc.subtracting, ThreadPc.unsubmitted,
          ThreadPc.caller]
      omega
  | returned fetched =>
      obtain ⟨pending, unsubmitted⟩ := countTransfer_gauges state.stats fetched.request
      refine ⟨_, rfl, ?_, ?_⟩ <;>
        simp [StatsState.setPc, ThreadPc.uncounted, ThreadPc.subtracting, ThreadPc.unsubmitted,
          pending, unsubmitted]
  | retire outcome =>
      refine ⟨_, rfl, ?_, ?_⟩ <;> cases outcome <;>
        simp [StatsState.setPc, ThreadPc.uncounted, ThreadPc.subtracting, ThreadPc.unsubmitted,
          ThreadPc.caller]
  | received | disconnect | reject =>
      refine ⟨_, rfl, ?_, ?_⟩ <;>
        simp [StatsState.setPc, ThreadPc.uncounted, ThreadPc.subtracting, ThreadPc.unsubmitted,
          ThreadPc.caller]
  | unsubmitted | avoidNegative | invalid | submitted | disconnected =>
      refine ⟨_, rfl, ?_, ?_⟩ <;>
        simp [StatsState.setPc, ThreadPc.uncounted, ThreadPc.subtracting, ThreadPc.unsubmitted,
          ThreadPc.caller, submit] <;> omega

theorem replyStep_cases (taken : replyStep state thread pc choice = some after) :
    ReplyCase state thread pc after := by
  cases pc with
  | idle =>
      cases choice with
      | respond response =>
          obtain ⟨member, ⟨⟩⟩ := Option.ite_none_right_eq_some.mp taken
          exact .answer .idle response .replier rfl (Or.inl rfl) member
      | _ => cases taken
  | inHandler fetched =>
      cases choice with
      | respond response =>
          obtain ⟨member, ⟨⟩⟩ := Option.ite_none_right_eq_some.mp taken
          exact .answer (.inHandler fetched) response (.handler fetched) rfl
            (Or.inr ⟨fetched, rfl⟩) member
      | _ => cases taken
  | checkRunning response caller =>
      cases choice with
      | proceed =>
          by_cases isRunning : state.running = true
          · simp only [replyStep, if_pos isRunning] at taken
            cases taken
            exact .running response caller isRunning
          · simp only [replyStep, if_neg isRunning] at taken
            cases taken
            exact .stopped response caller (Bool.eq_false_of_not_eq_true isRunning)
      | _ => cases taken
  | send caller =>
      cases choice with
      | sent status =>
          cases taken
          exact .sent caller status
      | _ => cases taken
  | reply | subtractPending =>
      cases choice with
      | proceed =>
          cases taken
          constructor
      | _ => cases taken
  | _ => cases taken

theorem replyStep_balanced (taken : replyStep state thread pc choice = some after) :
    ∃ next, after.threads = Function.update state.threads thread next ∧
      Balanced state after pc next := by
  cases replyStep_cases taken with
  | answer _ response caller begins starts member =>
      have shorter := List.length_erase_of_mem member
      have positive := List.length_pos_of_mem member
      refine ⟨_, rfl, ?_, ?_⟩
      · rcases starts with rfl | ⟨fetched, rfl⟩ <;> cases caller <;> cases begins <;>
          simp only [StatsState.setPc, shorter, ThreadPc.uncounted, ThreadPc.subtracting,
            ThreadPc.caller, Bool.false_eq_true, if_true, if_false] <;> omega
      · rcases starts with rfl | ⟨fetched, rfl⟩ <;> cases caller <;> cases begins <;> rfl
  | received response caller =>
      refine ⟨_, rfl, ?_, ?_⟩ <;> cases caller <;>
        simp [StatsState.setPc, ThreadPc.uncounted, ThreadPc.subtracting, ThreadPc.unsubmitted,
          ThreadPc.caller]
  | subtract response caller =>
      refine ⟨_, rfl, ?_, ?_⟩ <;> cases caller <;>
        simp [StatsState.setPc, ThreadPc.uncounted, ThreadPc.subtracting, ThreadPc.unsubmitted,
          ThreadPc.caller] <;> omega
  | running response caller | stopped response caller =>
      obtain ⟨pending, unsubmitted⟩ := countError_gauges state.stats response
      refine ⟨_, rfl, ?_, ?_⟩ <;> cases caller <;>
        simp [StatsState.setPc, ThreadPc.uncounted, ThreadPc.subtracting, ThreadPc.unsubmitted,
          ThreadPc.caller, Caller.pc, pending, unsubmitted]
  | sent caller status =>
      refine ⟨_, rfl, ?_, ?_⟩ <;> cases caller <;>
        simp [StatsState.setPc, ThreadPc.uncounted, ThreadPc.subtracting, ThreadPc.unsubmitted,
          ThreadPc.caller, Caller.pc]

theorem statsNext_balanced {action : Nat × Choice}
    (taken : statsNext disk state action = some after) :
    ∃ next, after.threads = Function.update state.threads action.1 next ∧
      Balanced state after (state.threads action.1) next := by
  rcases Option.or_eq_some_iff.mp taken with handled | ⟨-, replied⟩
  · exact handleStep_balanced handled
  · exact replyStep_balanced replied

end Steps

/-! ## The balance -/

/-- The gauges are what was passed to the handlers and not answered, up to the
threads that are about to count or to subtract. -/
def StatsInv (state : StatsState) : Prop :=
  ∃ uncounted subtracting unsubmitted : Nat,
    Counts (fun thread => (state.threads thread).uncounted = true) uncounted ∧
    Counts (fun thread => (state.threads thread).subtracting = true) subtracting ∧
    Counts (fun thread => (state.threads thread).unsubmitted = true) unsubmitted ∧
    state.stats.pendingSubmittedRequests + uncounted =
      state.unanswered.length + state.disconnects + subtracting ∧
    state.stats.unsubmittedRequests = unsubmitted

theorem statsInv_initial : StatsInv StatsState.initial := by
  refine ⟨0, 0, 0, Counts.zero ?_, Counts.zero ?_, Counts.zero ?_, rfl, rfl⟩ <;>
    intro thread <;> exact Bool.false_ne_true

theorem statsNext_inv (disk : WnbdDisk) (state after : StatsState) (action : Nat × Choice)
    (inv : StatsInv state) (taken : statsNext disk state action = some after) :
    StatsInv after := by
  obtain ⟨uncounted, subtracting, unsubmitted, first, second, third, pending, gauge⟩ := inv
  obtain ⟨next, threads, balanced⟩ := statsNext_balanced taken
  obtain ⟨uncountedAfter, firstAfter, uncounts⟩ :=
    Counts.update (fun pc : ThreadPc => pc.uncounted = true) _ first action.1 next
  obtain ⟨subtractingAfter, secondAfter, subtracts⟩ :=
    Counts.update (fun pc : ThreadPc => pc.subtracting = true) _ second action.1 next
  obtain ⟨unsubmittedAfter, thirdAfter, unsubmits⟩ :=
    Counts.update (fun pc : ThreadPc => pc.unsubmitted = true) _ third action.1 next
  have pendingAfter := balanced.pending
  have gaugeAfter := balanced.unsubmitted
  refine ⟨uncountedAfter, subtractingAfter, unsubmittedAfter, ?_, ?_, ?_, ?_, ?_⟩
  · rw [threads]
    exact firstAfter
  · rw [threads]
    exact secondAfter
  · rw [threads]
    exact thirdAfter
  · omega
  · omega

/-! ## Runs without a wrap -/

/-- Fewer threads are between a handler and its count than requests are
unanswered or being subtracted: some request that was counted is not subtracted. -/
def SubtractsCounted (state : StatsState) : Prop :=
  ∃ uncounted subtracting : Nat,
    Counts (fun thread => (state.threads thread).uncounted = true) uncounted ∧
    Counts (fun thread => (state.threads thread).subtracting = true) subtracting ∧
    uncounted < state.unanswered.length + subtracting

/-- No disconnect request is counted as submitted, and a pending request is
subtracted only while one was counted. -/
def KeepsBalance (state : StatsState) (action : Nat × Choice) : Prop :=
  match state.threads action.1 with
  | .countSubmitted .disconnect => False
  | .subtractPending _ _ => SubtractsCounted state
  | _ => True

/-- Neither gauge went below zero, and no disconnect request was counted. -/
def Clean (state : StatsState) : Prop := state.wrapped = false ∧ state.disconnects = 0

theorem positive_iff_subtractsCounted {state : StatsState} (inv : StatsInv state)
    (none : state.disconnects = 0) :
    0 < state.stats.pendingSubmittedRequests ↔ SubtractsCounted state := by
  obtain ⟨uncounted, subtracting, unsubmitted, first, second, -, pending, -⟩ := inv
  rw [none] at pending
  constructor
  · intro positive
    exact ⟨uncounted, subtracting, first, second, by omega⟩
  · rintro ⟨uncounted', subtracting', first', second', fewer⟩
    have same := first.unique first'
    have same' := second.unique second'
    omega

theorem retiring_positive {state : StatsState} (inv : StatsInv state) (thread : Nat)
    (outcome : Outcome) (here : state.threads thread = .retire outcome) :
    0 < state.stats.unsubmittedRequests := by
  obtain ⟨-, -, unsubmitted, -, -, third, -, gauge⟩ := inv
  have positive := third.pos thread (by rw [here]; rfl)
  omega

/-- The steps of `WnbdHandleRequest`: only a disconnect request spoils the run. -/
theorem handleStep_clean {disk : WnbdDisk} {state after : StatsState} {thread : Nat}
    {choice : Choice} (inv : StatsInv state)
    (taken : handleStep disk state thread (state.threads thread) choice = some after) :
    Clean after ↔ Clean state ∧ KeepsBalance state (thread, choice) := by
  have retiring := retiring_positive inv thread
  unfold KeepsBalance
  dsimp only
  generalize state.threads thread = pc at retiring taken ⊢
  cases handleStep_cases taken with
  | retire outcome =>
      have positive := retiring outcome rfl
      have noWrap : decide (state.stats.unsubmittedRequests ≤ 0) = false := by
        rw [decide_eq_false_iff_not]
        omega
      cases outcome <;> simp [Clean, StatsState.setPc, noWrap]
  | disconnected => simp [Clean, StatsState.setPc]
  | _ => exact (and_true _).symm ▸ Iff.rfl

/-- The steps of `WnbdSendResponseEx`: the decrement needs a counted request. -/
theorem replyStep_clean {state after : StatsState} {thread : Nat} {choice : Choice}
    (inv : StatsInv state)
    (taken : replyStep state thread (state.threads thread) choice = some after) :
    Clean after ↔ Clean state ∧ KeepsBalance state (thread, choice) := by
  have counted := positive_iff_subtractsCounted inv
  unfold KeepsBalance
  dsimp only
  generalize state.threads thread = pc at taken ⊢
  cases replyStep_cases taken with
  | answer _ response caller begins starts =>
      rcases starts with rfl | ⟨fetched, rfl⟩ <;> exact (and_true _).symm ▸ Iff.rfl
  | subtract response caller =>
      simp only [Clean, StatsState.setPc, Bool.or_eq_false_iff, decide_eq_false_iff_not, not_le]
      constructor
      · rintro ⟨⟨kept, positive⟩, none⟩
        exact ⟨⟨kept, none⟩, (counted none).mp positive⟩
      · rintro ⟨⟨kept, none⟩, subtracts⟩
        exact ⟨⟨kept, (counted none).mpr subtracts⟩, none⟩
  | _ => exact (and_true _).symm ▸ Iff.rfl

theorem statsNext_clean (disk : WnbdDisk) (state after : StatsState) (action : Nat × Choice)
    (inv : StatsInv state) (taken : statsNext disk state action = some after) :
    Clean after ↔ Clean state ∧ KeepsBalance state action := by
  rcases Option.or_eq_some_iff.mp taken with handled | ⟨-, replied⟩
  · exact handleStep_clean inv handled
  · exact replyStep_clean inv replied

/-! ## Every run -/

/-- What the gauges should say when no thread is in the middle of a call. -/
structure StatsBalanced (state : StatsState) : Prop where
  neverWrapped : state.wrapped = false
  unsubmitted : state.stats.unsubmittedRequests = 0
  pending : state.stats.pendingSubmittedRequests = state.unanswered.length

theorem statsBalanced_iff {state : StatsState} (inv : StatsInv state) (rest : AtRest state) :
    StatsBalanced state ↔ Clean state := by
  obtain ⟨uncounted, subtracting, unsubmitted, first, second, third, pending, gauge⟩ := inv
  have noneUncounted := first.eq_zero fun thread => by rw [rest thread]; exact Bool.false_ne_true
  have noneSubtracting := second.eq_zero fun thread => by rw [rest thread]; exact Bool.false_ne_true
  have noneUnsubmitted := third.eq_zero fun thread => by rw [rest thread]; exact Bool.false_ne_true
  constructor
  · intro balanced
    have exactly := balanced.pending
    exact ⟨balanced.neverWrapped, by omega⟩
  · rintro ⟨neverWrapped, none⟩
    exact ⟨neverWrapped, by omega, by omega⟩

/-- In every run the gauges stay clean exactly if no disconnect request is counted
and every decrement finds a counted request, and at rest the statistics then balance. -/
theorem request_stats_balanced_iff (disk : WnbdDisk) (actions : List (Nat × Choice))
    (state : StatsState) (ran : run (statsNext disk) StatsState.initial actions = some state) :
    (state.wrapped = false ∧ state.disconnects = 0 ↔
        AllAllowed (statsNext disk) KeepsBalance StatsState.initial actions) ∧
      (AtRest state →
        (StatsBalanced state ↔
          AllAllowed (statsNext disk) KeepsBalance StatsState.initial actions)) := by
  have inv : StatsInv state :=
    invariant_of_run StatsInv (fun state after action inv taken =>
      statsNext_inv disk state after action inv taken) actions _ state statsInv_initial ran
  have clean : Clean state ↔ AllAllowed (statsNext disk) KeepsBalance StatsState.initial actions := by
    rw [clean_iff_allAllowed StatsInv Clean
      (fun state after action inv taken => statsNext_inv disk state after action inv taken)
      (statsNext_clean disk) actions _ state statsInv_initial ran]
    exact and_iff_right ⟨rfl, rfl⟩
  constructor
  · exact clean
  · intro rest
    rw [statsBalanced_iff inv rest]
    exact clean

/-! ## One read, answered after its handler returned, and before -/

def readingDisk : WnbdDisk :=
  { implements := fun kind => kind == .read
    flags := ⟨false, false, false, false, false, false⟩
    unmapAnchorSupported := false
    maxUnmapDescCount := 0 }

def readOfBlock : FetchedRequest :=
  { request := { requestHandle := 1, requestType := .read, cmd := .read 0 1 false }
    anchor := false }

def readResponse : WnbdIoResponse :=
  { requestHandle := 1, requestType := .read, status := Wnbd.Nbd.zeroStatus }

def passToHandler : List (Nat × Choice) := [(0, .handle readOfBlock), (0, .proceed), (0, .proceed)]

def returnFromHandler : List (Nat × Choice) := [(0, .proceed), (0, .proceed), (0, .proceed)]

def sendResponse : List (Nat × Choice) :=
  [(1, .respond readResponse), (1, .proceed), (1, .proceed), (1, .proceed), (1, .sent 0)]

theorem atRest_of_run (actions : List (Nat × Choice)) (state : StatsState)
    (ran : run (statsNext readingDisk) StatsState.initial actions = some state)
    (others : ∀ index, (run (statsNext readingDisk) StatsState.initial actions).map
      (fun last => last.threads (index + 2)) = some .idle)
    (first : (run (statsNext readingDisk) StatsState.initial actions).map
      (fun last => last.threads 0) = some .idle)
    (second : (run (statsNext readingDisk) StatsState.initial actions).map
      (fun last => last.threads 1) = some .idle) : AtRest state
  | 0 => field_of_run (fun last => last.threads 0) _ state actions _ ran first
  | 1 => field_of_run (fun last => last.threads 1) _ state actions _ ran second
  | index + 2 => field_of_run (fun last => last.threads (index + 2)) _ state actions _ ran
      (others index)

theorem request_stats_balanced_one_read :
    ∃ state, run (statsNext readingDisk) StatsState.initial
        (passToHandler ++ returnFromHandler ++ sendResponse) = some state ∧
      StatsBalanced state ∧
      AllAllowed (statsNext readingDisk) KeepsBalance StatsState.initial
        (passToHandler ++ returnFromHandler ++ sendResponse) := by
  have enabled : (run (statsNext readingDisk) StatsState.initial
      (passToHandler ++ returnFromHandler ++ sendResponse)).map (fun last =>
        (last.wrapped, last.stats.unsubmittedRequests, last.stats.pendingSubmittedRequests,
          last.unanswered)) = some (false, 0, 0, []) := by
    decide +kernel
  obtain ⟨state, ran, fields⟩ := Option.map_eq_some_iff.mp enabled
  obtain ⟨neverWrapped, unsubmitted, pending, unanswered⟩ :
      state.wrapped = false ∧ state.stats.unsubmittedRequests = 0 ∧
        state.stats.pendingSubmittedRequests = 0 ∧ state.unanswered = [] := by
    simpa using fields
  have rest : AtRest state :=
    atRest_of_run _ state ran (fun _ => rfl) (by decide +kernel) (by decide +kernel)
  have balanced : StatsBalanced state := ⟨neverWrapped, unsubmitted, by rw [pending, unanswered]; rfl⟩
  have exactly := (request_stats_balanced_iff readingDisk _ state ran).2 rest
  exact ⟨state, ran, balanced, exactly.mp balanced⟩

/-- The answer is sent while the handler has not returned, and the gauge wraps. -/
theorem early_answer_wraps :
    ¬ ∀ (disk : WnbdDisk) (actions : List (Nat × Choice)) (state : StatsState),
      run (statsNext disk) StatsState.initial actions = some state → AtRest state →
      StatsBalanced state := by
  intro always
  have enabled : (run (statsNext readingDisk) StatsState.initial
      (passToHandler ++ sendResponse ++ returnFromHandler)).map (·.wrapped) = some true := by
    decide +kernel
  obtain ⟨state, ran, wrapped⟩ := Option.map_eq_some_iff.mp enabled
  have rest : AtRest state :=
    atRest_of_run _ state ran (fun _ => rfl) (by decide +kernel) (by decide +kernel)
  have never := (always readingDisk _ state ran rest).neverWrapped
  rw [wrapped] at never
  cases never

end Wnbd.Libwnbd
