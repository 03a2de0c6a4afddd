import Mathlib.Tactic

/-!
# Stale connections

The check that `DrainDeviceQueue` makes at each element it aborts, and the rule
the documentation gives.  Interrupt time counts units of 100 ns, the settings
milliseconds.  The check is never wrong when it finds a connection stale;
`stale_detection_iff` says what it overlooks.
-/

set_option autoImplicit false

namespace Wnbd.Device

/-! ## The check -/

structure StaleSettings where
  removeStaleConnections : Bool
  staleReqTimeoutMs : Int64
  staleConnTimeoutMs : Int64

def wnbdDefaultStaleReqTimeoutMs : UInt64 := 15000

def wnbdDefaultStaleConnTimeoutMs : UInt64 := 60000

/-- An option value as the check uses it; zero stands for the default. -/
def timeoutMs (option : Int64) (default : UInt64) : UInt64 :=
  if option.toUInt64 = 0 then default else option.toUInt64

/-- An element the drain takes: its `ReqTimestamp`, and the last reply of the
connection by then, if there was one. -/
structure AbortedRequest where
  reqTimestamp : UInt64
  lastReply : Option UInt64

def AbortedRequest.lastReplyTimestamp (request : AbortedRequest) : UInt64 :=
  request.lastReply.getD 0

def staleConn (settings : StaleSettings) (timeNow : UInt64) (request : AbortedRequest) : Bool :=
  request.reqTimestamp ≠ 0 && decide (request.reqTimestamp < timeNow) &&
    decide (timeoutMs settings.staleReqTimeoutMs wnbdDefaultStaleReqTimeoutMs <
      (timeNow - request.reqTimestamp) / 10000) &&
    request.lastReplyTimestamp ≠ 0 && decide (request.lastReplyTimestamp < timeNow) &&
    decide (timeoutMs settings.staleConnTimeoutMs wnbdDefaultStaleConnTimeoutMs <
      (timeNow - request.lastReplyTimestamp) / 10000)

/-- What one drain finds: the time it reads first, and the elements in its queue. -/
structure QueueDrain where
  timeNow : UInt64
  requests : List AbortedRequest

def staleConnDetected (settings : StaleSettings) (checkStaleConn : Bool) (timeNow : UInt64) :
    Bool → List AbortedRequest → Bool
  | detected, [] => detected
  | detected, request :: rest =>
      staleConnDetected settings checkStaleConn timeNow
        (if checkStaleConn && !detected then staleConn settings timeNow request else detected) rest

def drainDisconnects (settings : StaleSettings) (checkStaleConn : Bool) (drain : QueueDrain) :
    Bool :=
  staleConnDetected settings checkStaleConn drain.timeNow false drain.requests &&
    settings.removeStaleConnections

/-- Whether an abort or a LUN reset does: the pending queue, then the submitted list. -/
def drainDeviceQueuesDisconnects (settings : StaleSettings) (pending submitted : QueueDrain) :
    Bool :=
  drainDisconnects settings true pending || drainDisconnects settings true submitted

/-! ## The documented rule -/

def documentedTimeout (option : Int64) (default : UInt64) : Int :=
  if option.toInt = 0 then default.toNat else option.toInt

def OlderThan (timeNow timestamp : UInt64) (milliseconds : Int) : Prop :=
  milliseconds * 10000 < (timeNow.toNat : Int) - timestamp.toNat

/-- A connection created at `created` is stale at an aborted request: the request
is too old, and the last reply, or the creation if there was none, too long ago. -/
structure StaleByRule (settings : StaleSettings) (created timeNow : UInt64)
    (request : AbortedRequest) : Prop where
  requestOld : OlderThan timeNow request.reqTimestamp
    (documentedTimeout settings.staleReqTimeoutMs wnbdDefaultStaleReqTimeoutMs)
  connectionOld : OlderThan timeNow (request.lastReply.getD created)
    (documentedTimeout settings.staleConnTimeoutMs wnbdDefaultStaleConnTimeoutMs)

/-- Some aborted request of either queue meets a condition, at its drain's time. -/
def AtSomeRequest (pending submitted : QueueDrain) (holds : UInt64 → AbortedRequest → Prop) :
    Prop :=
  (∃ request ∈ pending.requests, holds pending.timeNow request) ∨
    ∃ request ∈ submitted.requests, holds submitted.timeNow request

def DocumentedRule (settings : StaleSettings) (created : UInt64)
    (pending submitted : QueueDrain) : Prop :=
  settings.removeStaleConnections = true ∧
    AtSomeRequest pending submitted (StaleByRule settings created)

/-! ## What the check sees of an interval -/

/-- The check tells an interval from the setting: the setting is not negative, the
start of the interval is not zero, and a whole millisecond lies beyond. -/
structure Visible (timeNow timestamp : UInt64) (milliseconds : Int) : Prop where
  setting : 0 ≤ milliseconds
  start : timestamp ≠ 0
  whole : (milliseconds + 1) * 10000 ≤ (timeNow.toNat : Int) - timestamp.toNat

theorem toInt_eq (option : Int64) : option.toInt =
    if option.toUInt64.toNat < 2 ^ 63 then (option.toUInt64.toNat : Int)
    else option.toUInt64.toNat - 2 ^ 64 := by
  have cond := BitVec.toInt_eq_toNat_cond option.toBitVec
  have same : option.toBitVec.toNat = option.toUInt64.toNat := rfl
  rw [same] at cond
  rw [Int64.toInt, cond]
  split <;> split <;> omega

theorem olderThan_of_visible {timeNow timestamp : UInt64} {milliseconds : Int}
    (visible : Visible timeNow timestamp milliseconds) :
    OlderThan timeNow timestamp milliseconds := by
  have whole := visible.whole
  unfold OlderThan
  omega

theorem visible_iff (timeNow timestamp : UInt64) (option : Int64) (default : UInt64) :
    Visible timeNow timestamp (documentedTimeout option default) ↔
      timestamp ≠ 0 ∧ timestamp < timeNow ∧
        timeoutMs option default < (timeNow - timestamp) / 10000 := by
  have signed := toInt_eq option
  have bound := option.toUInt64.toNat_lt
  have zero : option.toUInt64 = 0 ↔ option.toInt = 0 := by
    rw [← UInt64.toNat_inj, signed, UInt64.toNat_zero]
    split <;> omega
  -- the setting as the check reads it: the same number, or a huge one
  have read : (0 ≤ documentedTimeout option default ∧
        ((timeoutMs option default).toNat : Int) = documentedTimeout option default) ∨
      (documentedTimeout option default < 0 ∧ 2 ^ 63 ≤ (timeoutMs option default).toNat) := by
    unfold documentedTimeout timeoutMs
    by_cases unset : option.toInt = 0
    · rw [if_pos unset, if_pos (zero.mpr unset)]
      exact Or.inl ⟨Int.natCast_nonneg _, rfl⟩
    · rw [if_neg unset, if_neg fun isZero => unset (zero.mp isZero)]
      split at signed <;> omega
  have nowBound := timeNow.toNat_lt
  have ordered : timestamp < timeNow ↔ timestamp.toNat < timeNow.toNat := UInt64.lt_iff_toNat_lt
  have elapsed : timestamp < timeNow →
      ((timeNow - timestamp) / 10000).toNat = (timeNow.toNat - timestamp.toNat) / 10000 := by
    intro before
    rw [UInt64.toNat_div, UInt64.toNat_sub_of_le _ _ (UInt64.le_of_lt before)]
    rfl
  constructor
  · rintro ⟨setting, start, whole⟩
    have before : timestamp < timeNow := ordered.mpr (by omega)
    refine ⟨start, before, ?_⟩
    rw [UInt64.lt_iff_toNat_lt, elapsed before]
    omega
  · rintro ⟨start, before, longer⟩
    rw [UInt64.lt_iff_toNat_lt, elapsed before] at longer
    have earlier := ordered.mp before
    refine ⟨?_, start, ?_⟩ <;> omega

structure Noticed (settings : StaleSettings) (timeNow : UInt64) (request : AbortedRequest) :
    Prop where
  requestVisible : Visible timeNow request.reqTimestamp
    (documentedTimeout settings.staleReqTimeoutMs wnbdDefaultStaleReqTimeoutMs)
  connectionVisible : Visible timeNow request.lastReplyTimestamp
    (documentedTimeout settings.staleConnTimeoutMs wnbdDefaultStaleConnTimeoutMs)

/-- The connection is stale at this request, and the check cannot tell it from one
of the intervals: after a connection without a reply, for instance. -/
structure Overlooked (settings : StaleSettings) (created timeNow : UInt64)
    (request : AbortedRequest) : Prop where
  stale : StaleByRule settings created timeNow request
  hidden : ¬ Visible timeNow request.reqTimestamp
      (documentedTimeout settings.staleReqTimeoutMs wnbdDefaultStaleReqTimeoutMs) ∨
    ¬ Visible timeNow request.lastReplyTimestamp
      (documentedTimeout settings.staleConnTimeoutMs wnbdDefaultStaleConnTimeoutMs)

theorem staleConn_iff (settings : StaleSettings) (timeNow : UInt64) (request : AbortedRequest) :
    staleConn settings timeNow request = true ↔ Noticed settings timeNow request := by
  have reqVisible := visible_iff timeNow request.reqTimestamp settings.staleReqTimeoutMs
    wnbdDefaultStaleReqTimeoutMs
  have connVisible := visible_iff timeNow request.lastReplyTimestamp settings.staleConnTimeoutMs
    wnbdDefaultStaleConnTimeoutMs
  simp only [staleConn, Bool.and_eq_true, decide_eq_true_eq]
  constructor
  · rintro ⟨⟨⟨⟨⟨start, before⟩, longer⟩, replied⟩, earlier⟩, silent⟩
    exact ⟨reqVisible.mpr ⟨start, before, longer⟩, connVisible.mpr ⟨replied, earlier, silent⟩⟩
  · rintro ⟨visible, silentVisible⟩
    obtain ⟨start, before, longer⟩ := reqVisible.mp visible
    obtain ⟨replied, earlier, silent⟩ := connVisible.mp silentVisible
    exact ⟨⟨⟨⟨⟨start, before⟩, longer⟩, replied⟩, earlier⟩, silent⟩

/-- What the check finds stale is stale by the rule. -/
theorem Noticed.stale {settings : StaleSettings} {timeNow : UInt64} {request : AbortedRequest}
    (noticed : Noticed settings timeNow request) (created : UInt64) :
    StaleByRule settings created timeNow request := by
  refine ⟨olderThan_of_visible noticed.requestVisible, ?_⟩
  have silent := olderThan_of_visible noticed.connectionVisible
  have replied := noticed.connectionVisible.start
  rw [AbortedRequest.lastReplyTimestamp] at silent replied
  cases reply : request.lastReply with
  | none =>
      rw [reply] at replied
      exact absurd rfl replied
  | some timestamp =>
      rw [reply] at silent
      exact silent

theorem stale_cases (settings : StaleSettings) (created timeNow : UInt64)
    (request : AbortedRequest) : StaleByRule settings created timeNow request ↔
      Noticed settings timeNow request ∨ Overlooked settings created timeNow request := by
  constructor
  · intro stale
    by_cases visible : Visible timeNow request.reqTimestamp
        (documentedTimeout settings.staleReqTimeoutMs wnbdDefaultStaleReqTimeoutMs)
    · by_cases silent : Visible timeNow request.lastReplyTimestamp
          (documentedTimeout settings.staleConnTimeoutMs wnbdDefaultStaleConnTimeoutMs)
      · exact Or.inl ⟨visible, silent⟩
      · exact Or.inr ⟨stale, Or.inr silent⟩
    · exact Or.inr ⟨stale, Or.inl visible⟩
  · rintro (noticed | overlooked)
    · exact noticed.stale created
    · exact overlooked.stale

/-! ## The loop -/

theorem staleConnDetected_iff (settings : StaleSettings) (timeNow : UInt64) (detected : Bool)
    (requests : List AbortedRequest) :
    staleConnDetected settings true timeNow detected requests = true ↔
      detected = true ∨ ∃ request ∈ requests, Noticed settings timeNow request := by
  induction requests generalizing detected with
  | nil => simp [staleConnDetected]
  | cons request rest hypothesis =>
      rw [staleConnDetected, hypothesis, List.exists_mem_cons_iff]
      cases detected with
      | true => simp
      | false => simp [staleConn_iff]

theorem disconnects_iff (settings : StaleSettings) (pending submitted : QueueDrain) :
    drainDeviceQueuesDisconnects settings pending submitted = true ↔
      settings.removeStaleConnections = true ∧
        AtSomeRequest pending submitted (Noticed settings) := by
  have drained : ∀ drain : QueueDrain, drainDisconnects settings true drain = true ↔
      settings.removeStaleConnections = true ∧
        ∃ request ∈ drain.requests, Noticed settings drain.timeNow request := by
    intro drain
    rw [drainDisconnects, Bool.and_eq_true, staleConnDetected_iff, and_comm]
    simp
  rw [drainDeviceQueuesDisconnects, Bool.or_eq_true, drained, drained, ← and_or_left]
  rfl

/-! ## Main result -/

/-- An abort disconnects as documented exactly if the setting is off, nothing is
overlooked, or the connection is found stale at another request. -/
theorem stale_detection_iff (settings : StaleSettings) (created : UInt64)
    (pending submitted : QueueDrain) :
    (drainDeviceQueuesDisconnects settings pending submitted = true ↔
        DocumentedRule settings created pending submitted) ↔
      settings.removeStaleConnections = false ∨
        ¬ AtSomeRequest pending submitted (Overlooked settings created) ∨
        AtSomeRequest pending submitted (Noticed settings) := by
  have rule : AtSomeRequest pending submitted (StaleByRule settings created) ↔
      AtSomeRequest pending submitted (Noticed settings) ∨
        AtSomeRequest pending submitted (Overlooked settings created) := by
    unfold AtSomeRequest
    simp only [stale_cases, and_or_left, exists_or]
    exact or_or_or_comm
  rw [disconnects_iff, DocumentedRule, rule]
  cases settings.removeStaleConnections with
  | false => simp
  | true =>
      by_cases noticed : AtSomeRequest pending submitted (Noticed settings)
      · simp [noticed]
      · simp [noticed]

def hungDaemon : QueueDrain :=
  { timeNow := 1000000000, requests := [⟨800000000, none⟩] }

/-- The daemon hung before its first reply: stale by the rule, and never removed. -/
theorem first_reply_missing :
    DocumentedRule ⟨true, 15000, 60000⟩ 100000000 hungDaemon ⟨1000000000, []⟩ ∧
      drainDeviceQueuesDisconnects ⟨true, 15000, 60000⟩ hungDaemon ⟨1000000000, []⟩ = false := by
  refine ⟨⟨rfl, Or.inl ⟨⟨800000000, none⟩, List.mem_cons_self, ?_, ?_⟩⟩, by decide⟩
  · unfold OlderThan
    decide
  · unfold OlderThan
    decide

end Wnbd.Device
