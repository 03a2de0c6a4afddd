import Wnbd.Device.CallTrace
import Wnbd.Dispatch.FetchAtomic

/-!
# Elements after their hand-off

Each call follows one element at a time, from the list it took it from to the
list it puts it on or to the pool.  `hand_off_discipline_iff` names the two turns
of the fetch loop that do not: an SRB buffer that cannot be mapped, and an element
taken while the device is being removed.
-/

set_option autoImplicit false

namespace Wnbd.Device

open Wnbd.Scsi Wnbd.Dispatch HandOff

/-! ## Pieces of a trace -/

theorem holding_accesses (element : ElementId) (fields : List ElementField) :
    holding (some element) (fields.map (Event.accessed element)) = some (some element) := by
  induction fields with
  | nil => rfl
  | cons field rest hypothesis =>
      rw [List.map_cons, holding, hold, if_pos rfl, Option.bind_some, hypothesis]

section Taken

variable (taken : TakenElement)

theorem holding_taken_accesses (fields : List ElementField) :
    holding (some taken.element) (taken.accesses fields) = some (some taken.element) :=
  holding_accesses taken.element fields

theorem holding_free :
    holding (some taken.element) taken.wnbdFreeSrbElement = some none := by
  have last : holding (some taken.element) ([.released taken.element] : List ElementEvent) =
      some none := by
    rw [holding, hold, if_pos rfl]
    rfl
  rw [TakenElement.wnbdFreeSrbElement]
  split
  · exact holding_append_of (holding_taken_accesses taken _) last
  · exact holding_append_of (holding_taken_accesses taken _) last

theorem holding_completeRequest (freeElement : Bool) :
    holding (some taken.element) (taken.completeRequest freeElement) =
      some (if freeElement then none else some taken.element) := by
  rw [TakenElement.completeRequest]
  have reported : holding (some taken.element) (if taken.completed then []
      else taken.accesses [.srb, .tag, .srb, .srb, .deviceExtension, .srb]) =
        some (some taken.element) := by
    split
    · rfl
    · exact holding_taken_accesses taken _
  refine holding_append_of (holding_append_of (holding_taken_accesses taken _) reported) ?_
  cases freeElement with
  | true => exact holding_free taken
  | false => rfl

theorem holding_insert :
    holding (some taken.element) taken.wnbdSubmittedReqInsert = some none := by
  refine holding_append_of (holding_taken_accesses taken _) ?_
  rw [holding, hold, if_pos rfl]
  rfl

end Taken

/-! ## The element a call has in hand -/

/-- The events so far are in order and leave this element in hand. -/
def InHand (state : CallState) (hand : Option ElementId) : Prop :=
  holding none state.events = some hand

section InHand

variable {state : CallState} {taken : TakenElement}

theorem InHand.accesses (held : InHand state (some taken.element)) (fields : List ElementField) :
    InHand (state.append (taken.accesses fields)) (some taken.element) :=
  holding_append_of held (holding_taken_accesses taken fields)

theorem InHand.take (held : InHand state none) :
    InHand (state.append [.taken taken.element]) (some taken.element) :=
  holding_append_of held rfl

theorem InHand.onPages {hand : Option ElementId} (held : InHand state hand)
    (operation : PageLocks → PageLocks) : InHand (state.onPages operation) hand := held

theorem InHand.loopTest {hand : Option ElementId} (held : InHand state hand) :
    InHand state.loopTest hand := held

theorem InHand.exit {hand : Option ElementId} (held : InHand state hand) :
    InHand state.exit hand := held

theorem InHand.refuse (held : InHand state (some taken.element)) :
    InHand (refuse taken state) none :=
  holding_append_of (held.accesses _) (holding_completeRequest taken true)

theorem InHand.submit (held : InHand state (some taken.element)) :
    InHand (submit taken state).2 none :=
  holding_append_of held (holding_insert taken)

end InHand

/-! ## One turn of the fetch loop -/

/-- The step the loop takes for a verdict. -/
def stepOf : FetchVerdict → LoopStep
  | .invalid | .lockFailed _ | .noSrbBuffer => .continues
  | .bufferTooSmall | .submit _ => .leaves

/-- The step of a turn, and what it did to the element, by its verdict. -/
structure BodyTrace (verdict : FetchVerdict) (after : LoopStep × CallState) : Prop where
  step : after.1 = stepOf verdict
  settled : verdict ≠ .noSrbBuffer → InHand after.2 none
  used : verdict = .noSrbBuffer → UsedAfterHandOff after.2.events

theorem BodyTrace.refused {verdict : FetchVerdict} {state : CallState} {taken : TakenElement}
    (held : InHand state (some taken.element)) (mapped : verdict ≠ .noSrbBuffer) :
    BodyTrace verdict (stepOf verdict, refuse taken state) :=
  ⟨rfl, fun _ => held.refuse, fun unmapped => absurd unmapped mapped⟩

theorem BodyTrace.submitted {payload : FetchPayload} {state : CallState} {taken : TakenElement}
    (held : InHand state (some taken.element)) :
    BodyTrace (.submit payload) (submit taken state) :=
  ⟨rfl, fun _ => held.submit, fun unmapped => by (cases unmapped)⟩

/-- The warning reads the element that `refuse` has just freed. -/
theorem used_after_refuse (taken : TakenElement) (state : CallState) :
    UsedAfterHandOff ((refuse taken state).append (taken.accesses [.srb, .tag])).events := by
  refine ⟨state.events ++ taken.accesses [.srb] ++ (taken.accesses [.completed] ++
    (if taken.completed then []
      else taken.accesses [.srb, .tag, .srb, .srb, .deviceExtension, .srb]) ++
    if taken.pooled then taken.accesses [.pooled, .link] else taken.accesses [.pooled]),
    .released taken.element, [], taken.element, .srb, [.accessed taken.element .tag], ?_,
    decide_eq_true rfl, fun _ member => absurd member List.not_mem_nil⟩
  simp only [refuse, CallState.append, TakenElement.completeRequest,
    TakenElement.wnbdFreeSrbElement, if_true, List.append_assoc]
  rfl

theorem copySrbBuffer_trace (bufferSize : UInt32) (taken : TakenElement) (lock : LockOutcome)
    (storResult : UInt32) {state : CallState} (held : InHand state (some taken.element)) :
    BodyTrace
      (if taken.range.dataLength > bufferSize then .bufferTooSmall
        else if taken.range.dataLength = 0 then .submit .untouched
        else if lock.status ≠ statusSuccess then .lockFailed lock.status
        else if storResult ≠ 0 then .noSrbBuffer
        else .submit (.srbBytes taken.range.dataLength))
      (copySrbBuffer bufferSize taken lock storResult state) := by
  have compared := held.accesses [.dataLength]
  have tested := compared.accesses [.dataLength]
  have locked := (tested.accesses [.dataLength]).onPages (lockFetchBuffer lock)
  unfold copySrbBuffer
  dsimp only
  split
  · exact .refused compared (by simp)
  split
  · exact .submitted tested
  split
  · exact .refused locked (by simp)
  split
  · refine ⟨rfl, fun mapped => absurd rfl mapped, fun _ => ?_⟩
    exact used_after_refuse taken _
  · exact .submitted ((locked.accesses _).accesses _)

theorem writeDescriptor_trace (bufferSize : UInt32) (taken : TakenElement) (lock : LockOutcome)
    (address : UInt64) (count : UInt32) {state : CallState}
    (held : InHand state (some taken.element)) :
    BodyTrace
      (if wnbdUnmapDescriptorSize > bufferSize then .bufferTooSmall
        else if lock.status ≠ statusSuccess then .lockFailed lock.status
        else .submit (.unmapDescriptor address count))
      (writeDescriptor bufferSize taken lock state) := by
  unfold writeDescriptor
  dsimp only
  split
  · exact .refused held (by simp)
  split
  · exact .refused (held.onPages _) (by simp)
  · exact .submitted ((held.onPages _).accesses _)

/-- The loop body follows the verdict of the loop model. -/
theorem fetchBody_trace (props : WnbdProperties) (bufferSize : UInt32) (tag : UInt64)
    (taken : TakenElement) (lock : LockOutcome) (storResult : UInt32) {state : CallState}
    (held : InHand state (some taken.element)) :
    BodyTrace
      (fetchElement props bufferSize tag taken.range taken.srb ⟨lock.status, storResult⟩).verdict
      (fetchBody props bufferSize taken lock storResult state) := by
  have begun := held.accesses [.tag, .srb, .srb, .srb, .tag, .srb]
  unfold fetchBody fetchElement
  simp only [Srb.setDataTransferLength_cdb]
  cases taken.srb.cdb with
  | none => exact .refused (begun.accesses _) (by simp)
  | some cdb =>
      dsimp only
      split
      · have numbered := begun.accesses [.tag]
        cases scsiOpToWnbdReqType (cdb.asByte 0) with
        | read => exact .submitted (numbered.accesses _)
        | write => exact copySrbBuffer_trace bufferSize taken lock storResult (numbered.accesses _)
        | flush => exact .submitted (numbered.accesses _)
        | unmap => exact writeDescriptor_trace bufferSize taken lock _ _ numbered
        | persistResOut => exact copySrbBuffer_trace bufferSize taken lock storResult numbered
        | persistResIn => exact .submitted numbered
        | unknown => exact .submitted numbered
        | disconnect => exact .submitted numbered
      · exact .refused (begun.accesses _) (by simp)

/-! ## The fetch loop -/

section Loop

variable (props : WnbdProperties) (bufferSize : UInt32)

/-- An element is taken and dropped, or completed, freed and then read. -/
structure TurnBreaks (turn : FetchTurn) : Prop where
  wait : turn.wait = .deviceEvent
  top : turn.raisedBeforeTop = false
  takes : turn.round.Takes
  wrong : turn.raisedBeforeCheck = true ∨ turn.round.Unmapped props bufferSize

/-- The loop reaches such a turn. -/
def BreaksHandOff (turns : List FetchTurn) : Prop :=
  Reaches (fun turn => turn.round.Retries props bufferSize)
    (fun _ last => TurnBreaks props bufferSize last) turns

theorem breaksHandOff_cons (turn : FetchTurn) (rest : List FetchTurn) :
    BreaksHandOff props bufferSize (turn :: rest) ↔
      TurnBreaks props bufferSize turn ∨
        (turn.round.Retries props bufferSize ∧ BreaksHandOff props bufferSize rest) :=
  Reaches.cons turn rest

theorem not_turnBreaks_idle (turn : FetchTurn) (idle : turn.popped = none) :
    ¬ TurnBreaks props bufferSize turn := by
  rintro ⟨_, _, takes, _⟩
  rw [FetchRound.Takes, FetchTurn.round, idle] at takes
  cases takes

variable {props bufferSize}

/-- The verdict on a taken element, by the inputs of the turn. -/
theorem verdict_noSrbBuffer_iff (round : FetchRound) (element : PendingElement)
    (popped : round.popped = some element) :
    (fetchElement props bufferSize round.tag element.range element.srb round.faults).verdict =
      .noSrbBuffer ↔ round.Unmapped props bufferSize := by
  cases fetchElement_taken props bufferSize round element popped with
  | invalid refused verdict request =>
      rw [verdict]
      exact iff_of_false (by simp) fun unmapped => refused unmapped.1.1
  | tooSmall verdict unserved valid =>
      rw [verdict]
      exact iff_of_false (by simp) fun unmapped => unserved.2 unmapped.1
  | lockFailed fails verdict =>
      rw [verdict]
      exact iff_of_false (by simp) fun unmapped => fails.2 unmapped.2.1
  | unmapped unmapped verdict isIo =>
      rw [verdict]
      exact iff_of_true rfl unmapped
  | submits submits payload verdict status isIo handle =>
      rw [verdict]
      exact iff_of_false (by simp) submits.2.2.2

theorem stepOf_continues_iff (round : FetchRound) (element : PendingElement)
    (popped : round.popped = some element) :
    stepOf (fetchElement props bufferSize round.tag element.range element.srb
        round.faults).verdict = .continues ↔
      ¬ round.Takes ∨ (round.Takes ∧ ¬ round.Validates props) ∨
        round.LockFails props bufferSize ∨ round.Unmapped props bufferSize := by
  have takes : round.Takes := by
    rw [FetchRound.Takes, popped]
    rfl
  have served : ∀ {verdict : FetchVerdict}, stepOf verdict = .leaves →
      ¬ stepOf verdict = .continues := fun leaves continues => by
    rw [leaves] at continues
    cases continues
  cases fetchElement_taken props bufferSize round element popped with
  | invalid refused verdict request =>
      rw [verdict]
      exact iff_of_true rfl (Or.inr (Or.inl ⟨takes, refused⟩))
  | tooSmall verdict unserved valid =>
      rw [verdict]
      refine iff_of_false (served rfl) ?_
      rintro (idle | ⟨_, refused⟩ | fails | unmapped)
      · exact idle takes
      · exact refused valid
      · exact unserved.2 fails.1
      · exact unserved.2 unmapped.1
  | lockFailed fails verdict =>
      rw [verdict]
      exact iff_of_true rfl (Or.inr (Or.inr (Or.inl fails)))
  | unmapped unmapped verdict isIo =>
      rw [verdict]
      exact iff_of_true rfl (Or.inr (Or.inr (Or.inr unmapped)))
  | submits submits payload verdict status isIo handle =>
      rw [verdict]
      refine iff_of_false (served rfl) ?_
      rintro (idle | ⟨_, refused⟩ | fails | unmapped)
      · exact idle takes
      · exact refused submits.1
      · exact submits.2.2.1 fails
      · exact submits.2.2.2 unmapped

/-! ## Traces only grow -/

variable (props bufferSize)

/-- One state's events begin with the other's. -/
def Extends (before after : CallState) : Prop := before.events <+: after.events

theorem Extends.append {before after : CallState} (grows : Extends before after)
    (events : List ElementEvent) : Extends before (after.append events) :=
  grows.trans (List.prefix_append after.events events)

theorem copySrbBuffer_extends (taken : TakenElement) (lock : LockOutcome) (storResult : UInt32)
    {before state : CallState} (grows : Extends before state) :
    Extends before (copySrbBuffer bufferSize taken lock storResult state).2 := by
  have refused : ∀ {after : CallState}, Extends before after →
      Extends before (refuse taken after) := fun grown => (grown.append _).append _
  have compared := grows.append (taken.accesses [.dataLength])
  have tested := compared.append (taken.accesses [.dataLength])
  have locked := tested.append (taken.accesses [.dataLength])
  unfold copySrbBuffer
  dsimp only
  split
  · exact refused compared
  split
  · exact tested.append _
  split
  · exact refused locked
  split
  · exact (refused (locked.append _)).append _
  · exact ((locked.append _).append _).append _

theorem writeDescriptor_extends (taken : TakenElement) (lock : LockOutcome)
    {before state : CallState} (grows : Extends before state) :
    Extends before (writeDescriptor bufferSize taken lock state).2 := by
  unfold writeDescriptor
  dsimp only
  split
  · exact (grows.append _).append _
  split
  · exact (grows.append _).append _
  · exact (grows.append _).append _

theorem fetchBody_extends (taken : TakenElement) (lock : LockOutcome) (storResult : UInt32)
    {before state : CallState} (grows : Extends before state) :
    Extends before (fetchBody props bufferSize taken lock storResult state).2 := by
  have begun := grows.append (taken.accesses [.tag, .srb, .srb, .srb, .tag, .srb])
  unfold fetchBody
  dsimp only
  split
  · exact ((begun.append _).append _).append _
  split
  · have numbered := begun.append (taken.accesses [.tag])
    split
    · exact (numbered.append _).append _
    · exact copySrbBuffer_extends bufferSize taken lock storResult (numbered.append _)
    · exact (numbered.append _).append _
    · exact writeDescriptor_extends bufferSize taken lock numbered
    · exact copySrbBuffer_extends bufferSize taken lock storResult numbered
    all_goals exact numbered.append _
  · exact ((begun.append _).append _).append _

theorem dispatchTrace_extends (turns : List FetchTurn) (hardRemove : Bool)
    {before state : CallState} (grows : Extends before state) :
    Extends before (dispatchTrace props bufferSize turns hardRemove state) := by
  induction turns generalizing hardRemove state with
  | nil => exact grows
  | cons turn rest hypothesis =>
      rw [dispatchTrace]
      dsimp only
      split
      · exact grows
      split
      · exact grows
      split
      · split
        · exact grows
        · exact hypothesis _ grows
      · rename_i taken popped
        have took := (show Extends before state.loopTest from grows).append [.taken taken.element]
        split
        · exact took
        have body := fetchBody_extends props bufferSize taken turn.lock turn.storResult took
        split
        · rename_i after went
          rw [went] at body
          exact hypothesis _ body
        · rename_i after went
          rw [went] at body
          exact body

/-! ## The whole loop -/

theorem dispatchTrace_raised (turns : List FetchTurn) {state : CallState}
    (held : InHand state none) :
    InHand (dispatchTrace props bufferSize turns true state) none := by
  cases turns with
  | nil => exact held
  | cons turn rest => exact held

section Turns

variable {props bufferSize} {turn : FetchTurn} {rest : List FetchTurn} {state : CallState}

theorem not_breaksHandOff_of_last (ends : ¬ turn.round.Retries props bufferSize)
    (sound : ¬ TurnBreaks props bufferSize turn) :
    ¬ BreaksHandOff props bufferSize (turn :: rest) := by
  rw [breaksHandOff_cons]
  rintro (breaks | ⟨retries, _⟩)
  · exact sound breaks
  · exact ends retries

-- The turns behind this one keep the discipline exactly when they reach none that breaks it.
variable (later : ∀ {after : CallState}, InHand after none →
  (Disciplined (dispatchTrace props bufferSize rest false after).events ↔
    ¬ BreaksHandOff props bufferSize rest))
  (top : turn.raisedBeforeTop = false) (wait : turn.wait = .deviceEvent)
  (check : turn.raisedBeforeCheck = false)

include later top wait check

/-- A turn that goes on, with the flag as it is then. -/
theorem goesOn_disciplined (held : InHand state none)
    (unserved : ¬ turn.round.Takes ∨ (turn.round.Takes ∧ ¬ turn.round.Validates props) ∨
      turn.round.LockFails props bufferSize ∨ turn.round.Unmapped props bufferSize)
    (sound : ¬ TurnBreaks props bufferSize turn) :
    Disciplined (dispatchTrace props bufferSize rest turn.raisedBeforeMove state).events ↔
      ¬ BreaksHandOff props bufferSize (turn :: rest) := by
  rw [breaksHandOff_cons, or_iff_right sound]
  cases move : turn.raisedBeforeMove with
  | true =>
      refine iff_of_true
        (disciplined_of_holding (dispatchTrace_raised props bufferSize rest held)) ?_
      rintro ⟨retries, _⟩
      exact Bool.false_ne_true (retries.move.symm.trans move)
  | false =>
      rw [later held]
      have retries : turn.round.Retries props bufferSize := ⟨wait, top, check, move, unserved⟩
      exact not_congr (and_iff_right retries).symm

/-- A turn with an element in hand, past the check. -/
theorem takenTurn_disciplined {taken : TakenElement} (popped : turn.popped = some taken)
    (took : InHand state (some taken.element)) :
    (∀ after, fetchBody props bufferSize taken turn.lock turn.storResult state =
        (.continues, after) →
      (Disciplined (dispatchTrace props bufferSize rest turn.raisedBeforeMove after).events ↔
        ¬ BreaksHandOff props bufferSize (turn :: rest))) ∧
    ∀ after, fetchBody props bufferSize taken turn.lock turn.storResult state =
        (.leaves, after) →
      (Disciplined after.exit.events ↔ ¬ BreaksHandOff props bufferSize (turn :: rest)) := by
  have isPopped : turn.round.popped = some ⟨taken.range, taken.srb⟩ := by
    rw [FetchTurn.round, popped]
    rfl
  have takes : turn.round.Takes := by
    rw [FetchRound.Takes, isPopped]
    rfl
  have body := fetchBody_trace props bufferSize turn.tag taken turn.lock turn.storResult took
  have unmapped : (fetchElement props bufferSize turn.tag taken.range taken.srb
      ⟨turn.lock.status, turn.storResult⟩).verdict = .noSrbBuffer ↔
        turn.round.Unmapped props bufferSize :=
    verdict_noSrbBuffer_iff turn.round ⟨taken.range, taken.srb⟩ isPopped
  have continues : stepOf (fetchElement props bufferSize turn.tag taken.range taken.srb
      ⟨turn.lock.status, turn.storResult⟩).verdict = .continues ↔ _ :=
    stepOf_continues_iff turn.round ⟨taken.range, taken.srb⟩ isPopped
  have sound : ¬ turn.round.Unmapped props bufferSize → ¬ TurnBreaks props bufferSize turn := by
    rintro mapped ⟨_, _, _, dropped | isUnmapped⟩
    · exact Bool.false_ne_true (check.symm.trans dropped)
    · exact mapped isUnmapped
  constructor
  · intro after went
    rw [went] at body
    by_cases isUnmapped : turn.round.Unmapped props bufferSize
    · refine iff_of_false (fun disciplined => disciplined.unused ?_) (not_not.mpr ?_)
      · obtain ⟨later, grown⟩ := dispatchTrace_extends props bufferSize rest
          turn.raisedBeforeMove (List.prefix_refl after.events)
        rw [← grown]
        exact (body.used (unmapped.mpr isUnmapped)).append_right later
      · rw [breaksHandOff_cons]
        exact Or.inl ⟨wait, top, takes, Or.inr isUnmapped⟩
    · have settled := body.settled fun verdict => isUnmapped (unmapped.mp verdict)
      exact goesOn_disciplined later top wait check settled (continues.mp body.step.symm)
        (sound isUnmapped)
  · intro after went
    rw [went] at body
    have ends : ¬ turn.round.Retries props bufferSize := fun retries => by
      have goes := body.step.trans (continues.mpr retries.unserved)
      cases goes
    have mapped : ¬ turn.round.Unmapped props bufferSize := fun isUnmapped => by
      have goes := body.step.trans (continues.mpr (Or.inr (Or.inr (Or.inr isUnmapped))))
      cases goes
    have settled := body.settled fun verdict => mapped (unmapped.mp verdict)
    exact iff_of_true (disciplined_of_holding settled)
      (not_breaksHandOff_of_last ends (sound mapped))

end Turns

/-- The loop keeps the discipline exactly when it reaches no turn that breaks it. -/
theorem dispatchTrace_disciplined (turns : List FetchTurn) {state : CallState}
    (held : InHand state none) :
    Disciplined (dispatchTrace props bufferSize turns false state).events ↔
      ¬ BreaksHandOff props bufferSize turns := by
  induction turns generalizing state with
  | nil => exact iff_of_true (disciplined_of_holding held) Reaches.nil
  | cons turn rest hypothesis =>
      rw [dispatchTrace]
      simp only [Bool.false_or]
      cases top : turn.raisedBeforeTop with
      | true =>
          rw [if_pos rfl]
          refine iff_of_true (disciplined_of_holding held)
            (not_breaksHandOff_of_last (fun retries => ?_) fun breaks => ?_)
          · exact Bool.false_ne_true (retries.top.symm.trans top)
          · exact Bool.false_ne_true (breaks.top.symm.trans top)
      | false =>
      rw [if_neg Bool.false_ne_true]
      by_cases wait : turn.wait = .deviceEvent
      swap
      · rw [if_pos wait]
        exact iff_of_true (disciplined_of_holding held) (not_breaksHandOff_of_last
          (fun retries => wait retries.wait) fun breaks => wait breaks.wait)
      rw [if_neg (not_not.mpr wait), Bool.false_or]
      cases popped : turn.popped with
      | none =>
          have untaken : ¬ turn.round.Takes := by
            rw [FetchRound.Takes, FetchTurn.round, popped]
            exact Bool.false_ne_true
          have sound := not_turnBreaks_idle props bufferSize turn popped
          dsimp only
          cases check : turn.raisedBeforeCheck with
          | true =>
              rw [if_pos rfl]
              exact iff_of_true (disciplined_of_holding held) (not_breaksHandOff_of_last
                (fun retries => Bool.false_ne_true (retries.check.symm.trans check)) sound)
          | false =>
              rw [if_neg Bool.false_ne_true, Bool.false_or]
              exact goesOn_disciplined hypothesis top wait check held.loopTest (Or.inl untaken)
                sound
      | some taken =>
          dsimp only
          cases check : turn.raisedBeforeCheck with
          | true =>
              -- the element is dropped
              rw [if_pos rfl]
              refine iff_of_false (fun disciplined => disciplined.settled ?_) (not_not.mpr ?_)
              · exact ⟨state.events, taken.element, [], rfl, Nat.zero_ne_one⟩
              · have takes : turn.round.Takes := by
                  rw [FetchRound.Takes, FetchTurn.round, popped]
                  rfl
                rw [breaksHandOff_cons]
                exact Or.inl ⟨wait, top, takes, Or.inl check⟩
          | false =>
              rw [if_neg Bool.false_ne_true, Bool.false_or]
              have turned := takenTurn_disciplined hypothesis top wait check popped
                held.loopTest.take
              split
              · rename_i after went
                exact turned.1 after went
              · rename_i after went
                exact turned.2 after went

end Loop

/-! ## The other calls -/

theorem holding_pendElement (allocated : Option AllocatedElement) :
    holding none (wnbdPendElement allocated) = some none := by
  cases allocated with
  | none => rfl
  | some allocated =>
      have zeroed : holding none (wnbdAllocSrbElement allocated) =
          some (some allocated.element) := by
        rw [wnbdAllocSrbElement, holding, hold, Option.bind_some]
        split
        · exact holding_accesses allocated.element _
        · rfl
      have queued : holding (some allocated.element)
          ([.published allocated.element] : List ElementEvent) = some none := by
        rw [holding, hold, if_pos rfl]
        rfl
      exact holding_append_of (holding_append_of zeroed (holding_accesses allocated.element _))
        queued

theorem holding_drain (submittedRequests checkStaleConn : Bool) (drained : List DrainedElement) :
    holding none (drainDeviceQueue submittedRequests checkStaleConn drained) = some none := by
  induction drained generalizing checkStaleConn with
  | nil => rfl
  | cons first rest hypothesis =>
      refine holding_append_of ?_ (hypothesis _)
      rw [DrainedElement.events, holding, hold, Option.bind_some]
      exact holding_append_of (holding_taken_accesses first.taken _)
        (holding_completeRequest first.taken true)

section Response

variable {state : CallState} {taken : TakenElement}

theorem inspectSrb_hand (storResult : UInt32) (held : InHand state (some taken.element)) :
    InHand (inspectSrb taken storResult state).2 (some taken.element) := by
  unfold inspectSrb
  dsimp only
  split
  · exact held.accesses _
  split
  · split
    · exact (((held.accesses _).accesses _).accesses _).accesses _
    · exact ((held.accesses _).accesses _).accesses _
  · exact (held.accesses _).accesses _

theorem copyUserBuffer_hand (command : SendRspCommand) (lock : LockOutcome)
    (held : InHand state (some taken.element)) :
    InHand (copyUserBuffer taken command lock state).2 (some taken.element) := by
  unfold copyUserBuffer
  dsimp only
  split
  · split
    · exact (held.onPages _).accesses _
    · exact (held.onPages _).accesses _
  split
  · exact held.accesses _
  · exact held.accesses _

theorem responseExit_hand (held : InHand state (some taken.element)) :
    InHand (responseExit taken state) none := by
  have completed : holding (some taken.element)
      (if taken.aborted then [] else taken.completeRequest false) =
        some (some taken.element) := by
    split
    · rfl
    · exact holding_completeRequest taken false
  have noted : InHand (((state.append (taken.accesses [.aborted])).exit).append
      (taken.accesses [.aborted])) (some taken.element) := (held.accesses _).exit.accesses _
  exact holding_append_of (holding_append_of noted completed) (holding_free taken)

theorem handleResponse_hand (command : SendRspCommand) (lock : LockOutcome) (storResult : UInt32)
    (held : InHand state none) :
    InHand (handleResponse taken command lock storResult state) none := by
  have took : InHand (state.append (.taken taken.element :: taken.accesses [.aborted]))
      (some taken.element) := by
    refine holding_append_of held ?_
    rw [holding, hold, Option.bind_some]
    exact holding_taken_accesses taken _
  have inspected : InHand (if taken.aborted then
      (LoopStep.continues, (state.append (.taken taken.element :: taken.accesses [.aborted])).append
        (taken.accesses [.srb, .tag]))
      else inspectSrb taken storResult
        (state.append (.taken taken.element :: taken.accesses [.aborted]))).2
      (some taken.element) := by
    split
    · exact took.accesses _
    · exact inspectSrb_hand storResult took
  unfold handleResponse
  dsimp only
  generalize (if taken.aborted then _ else _) = step at inspected ⊢
  split
  · exact responseExit_hand inspected
  split
  · exact responseExit_hand (inspected.accesses _)
  split
  · have copied := copyUserBuffer_hand command lock
      (inspected.accesses ([.srb] ++ if isReadSrb taken.srb then [] else [.srb]))
    split
    · rename_i after went
      rw [went] at copied
      exact responseExit_hand copied
    · rename_i after went
      rw [went] at copied
      exact responseExit_hand (copied.accesses _)
  · exact responseExit_hand ((inspected.accesses _).accesses _)

end Response

/-! ## Main result -/

/-- A call of one of the functions that handle queue elements. -/
inductive ElementCall
  | pendElement (allocated : Option AllocatedElement)
  | dispatchRequest (requestorPid bufferSize : UInt32) (turns : List FetchTurn)
  | handleResponse (requestorPid : UInt32) (found : Option TakenElement)
      (command : SendRspCommand) (lock : LockOutcome) (storResult : UInt32)
  | drainDeviceQueue (submittedRequests checkStaleConn : Bool) (drained : List DrainedElement)
  | completeRequest (taken : TakenElement) (freeElement : Bool)

def ElementCall.events (props : WnbdProperties) : ElementCall → List ElementEvent
  | .pendElement allocated => wnbdPendElement allocated
  | .dispatchRequest requestorPid bufferSize turns =>
      (wnbdDispatchTrace props requestorPid bufferSize turns).events
  | .handleResponse requestorPid found command lock storResult =>
      (wnbdHandleResponseTrace props requestorPid found command lock storResult).events
  | .drainDeviceQueue submittedRequests checkStaleConn drained =>
      Wnbd.Device.drainDeviceQueue submittedRequests checkStaleConn drained
  | .completeRequest taken freeElement => taken.completeRequest freeElement

/-- An accepted fetch call reaches a turn that breaks the discipline. -/
def ElementCall.Breaks (props : WnbdProperties) : ElementCall → Prop
  | .dispatchRequest requestorPid bufferSize turns =>
      ¬ Refused props requestorPid ∧ BreaksHandOff props bufferSize turns
  | _ => False

theorem untaken_completeRequest (taken : TakenElement) (freeElement : Bool)
    (element : ElementId) : Event.taken element ∉ taken.completeRequest freeElement := by
  simp only [TakenElement.completeRequest, TakenElement.wnbdFreeSrbElement,
    TakenElement.accesses]
  split <;> split <;> simp
  all_goals (split <;> simp)

/-- A call accesses no element after its hand-off, and hands off every element it
takes once, exactly if it is not a fetch that reaches a breaking turn. -/
theorem hand_off_discipline_iff (props : WnbdProperties) (call : ElementCall) :
    Disciplined (call.events props) ↔ ¬ call.Breaks props := by
  cases call with
  | pendElement allocated =>
      exact iff_of_true (disciplined_of_holding (holding_pendElement allocated)) id
  | dispatchRequest requestorPid bufferSize turns =>
      rw [ElementCall.events, wnbdDispatchTrace]
      split
      · rename_i refused
        exact iff_of_true (disciplined_of_holding rfl) fun breaks => breaks.1 refused
      · rename_i accepted
        have started : InHand CallState.start none := rfl
        rw [dispatchTrace_disciplined props bufferSize turns started]
        exact not_congr (and_iff_right accepted).symm
  | handleResponse requestorPid found command lock storResult =>
      refine iff_of_true ?_ id
      rw [ElementCall.events]
      unfold wnbdHandleResponseTrace
      split
      · exact disciplined_of_holding rfl
      split
      · exact disciplined_of_holding rfl
      · have started : InHand CallState.start none := rfl
        exact disciplined_of_holding (handleResponse_hand command lock storResult started)
  | drainDeviceQueue submittedRequests checkStaleConn drained =>
      exact iff_of_true
        (disciplined_of_holding (holding_drain submittedRequests checkStaleConn drained)) id
  | completeRequest taken freeElement =>
      refine iff_of_true ⟨unused_of_holding (holding_completeRequest taken freeElement), ?_⟩ id
      rintro ⟨before, element, after, split, _⟩
      refine untaken_completeRequest taken freeElement element ?_
      rw [ElementCall.events] at split
      rw [split]
      exact List.mem_append_right _ List.mem_cons_self

/-! ## A write whose SRB buffer cannot be mapped -/

/-- A one-block write, taken from the head of the pending queue. -/
def takenWrite : TakenElement :=
  { element := 7, range := ⟨0, 512, false⟩, srb := write10Srb 1 512, aborted := false
    completed := false, pooled := true }

def turnWith (popped : Option TakenElement) (storResult : UInt32) (raisedBeforeCheck : Bool) :
    FetchTurn :=
  { wait := .deviceEvent, popped, tag := 1, lock := .locked, storResult
    raisedBeforeTop := false, raisedBeforeCheck, raisedBeforeMove := false
    raisedBeforeExit := false }

theorem turnWith_breaks {storResult : UInt32} {raisedBeforeCheck : Bool}
    (wrong : raisedBeforeCheck = true ∨ storResult ≠ 0) :
    BreaksHandOff diskProps 4096 [turnWith (some takenWrite) storResult raisedBeforeCheck] := by
  have valid : validateScsiRequest diskProps takenWrite.srb.cdb = true := by decide
  have fits : takenWrite.range.dataLength ≤ 4096 := by decide
  have some : takenWrite.range.dataLength ≠ 0 := by decide
  have isWrite : (turnWith (.some takenWrite) storResult raisedBeforeCheck).round.requestType =
      .write := rfl
  refine ⟨[], _, [], rfl, fun _ member => absurd member List.not_mem_nil, rfl, rfl, rfl, ?_⟩
  refine wrong.imp id fun unmapped => ⟨⟨⟨_, rfl, valid⟩, fits, some⟩, rfl, ?_, unmapped⟩
  rw [isWrite]
  exact WnbdRequestType.noConfusion

/-- After `StorPortGetSystemAddress` failed the warning reads the freed element;
when the device is being removed the element taken is neither queued nor freed. -/
theorem element_used_or_lost :
    ¬ Disciplined ((ElementCall.dispatchRequest 4 4096
        [turnWith (some takenWrite) 1 false]).events diskProps) ∧
      ¬ Disciplined ((ElementCall.dispatchRequest 4 4096
        [turnWith (some takenWrite) 0 true]).events diskProps) := by
  have started : InHand CallState.start none := rfl
  have accepted : ¬ (diskProps.pid ≠ 4 ∨ diskProps.flags.useKernelNbd) := by decide
  constructor
  · rw [ElementCall.events, wnbdDispatchTrace, if_neg accepted,
      dispatchTrace_disciplined diskProps 4096 _ started, not_not]
    exact turnWith_breaks (Or.inr (by decide))
  · rw [ElementCall.events, wnbdDispatchTrace, if_neg accepted,
      dispatchTrace_disciplined diskProps 4096 _ started, not_not]
    exact turnWith_breaks (Or.inl rfl)

end Wnbd.Device
