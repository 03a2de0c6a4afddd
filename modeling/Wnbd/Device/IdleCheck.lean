import Wnbd.Device.Completion
import Wnbd.Device.QueueMoves

/-!
# Is the device idle?

`IRP_MN_QUERY_REMOVE_DEVICE` asks `HasPendingAsyncRequests`, which looks at the
two lists only.  Every accepted SRB was reported exactly when the lists are
empty and no thread has an element between them: `idle_check_sound_iff`.
-/

set_option autoImplicit false

namespace Wnbd.Device

open Wnbd.Scsi Wnbd.Dispatch Placement DeviceState DeviceQueues StepSystem

/-! ## Accepted SRBs -/

def AcceptedInv (state : DeviceState) : Prop :=
  ∀ thread srb, (state.threads thread).newSrb state.queues.heap = some srb →
    srb ∉ state.ledger.accepted

theorem acceptedInv_initial (poolSize : Nat) : AcceptedInv (DeviceState.initial poolSize) := by
  intro thread srb _ accepted
  cases accepted

theorem accepted_issued {state : DeviceState} (inv : DeviceInv state) (srb : SrbId)
    (accepted : srb ∈ state.ledger.accepted) : srb < state.ledger.issued := by
  rcases inv.srbs.accounted srb accepted with reported | ⟨element, carries⟩
  · exact inv.srbs.issued .reported srb reported
  · exact inv.srbs.issued (.element element) srb carries

theorem QueueMove.accepted {before after : DeviceState} {old new : ThreadPc}
    (move : QueueMove before after old new) :
    after.ledger.accepted = before.ledger.accepted ∨
      ∃ element srb, old = .startInsert element ∧ new = .startSignal ∧
        (before.queues.heap element).bind (·.srb) = some srb ∧
        after.ledger.accepted = before.ledger.accepted ++ [srb] := by
  cases move with
  | insert element srb carries queues =>
      exact Or.inr ⟨element, srb, rfl, rfl, carries, queues.accepted⟩
  | quiet queues _ | handle _ queues | refuse _ queues | receive _ _ queues
  | exhausted _ _ queues | signal queues | awake _ _ queues | popNone _ _ queues
  | pop _ _ _ _ queues | drop _ _ _ queues | reject _ _ _ queues | submit _ queues
  | take _ _ _ queues | apply _ _ queues | drainPending _ _ _ _ _ queues
  | drainSubmitted _ _ _ _ queues | abort _ _ _ _ _ queues | complete _ _ queues =>
      exact Or.inl queues.accepted

/-- The element a StartIo thread inserts carries the SRB, and no one else has it. -/
theorem newSrb_exclusive {state : DeviceState} (inv : DeviceInv state) (thread other : ThreadId)
    (element : ElementId) (srb : SrbId) (here : state.threads thread = .startInsert element)
    (carries : (state.queues.heap element).bind (·.srb) = some srb)
    (same : (state.threads other).newSrb state.queues.heap = some srb) : other = thread := by
  have full : (state.threads thread).hand = some element := by rw [here]; rfl
  have carried_of : ∀ holder held, state.threads holder = .startInsert held →
      (state.queues.heap held).bind (·.srb) = some srb →
      srb ∈ carried (state.queues.heap held) := by
    intro holder held inserting points
    obtain ⟨value, stored, holds⟩ :=
      inv.elements.held holder held (by rw [inserting]; rfl)
    rw [inserting] at holds
    obtain ⟨-, notCompleted, -⟩ := holds
    rw [stored, Option.bind_some] at points
    simp [carried, stored, notCompleted, points]
  have mine := carried_of thread element here carries
  by_cases inserting : ∃ held, state.threads other = .startInsert held
  · obtain ⟨held, there⟩ := inserting
    rw [there] at same
    have theirs := carried_of other held there same
    have sameElement := inv.srbs.exclusive.unique (.element held) (.element element) srb theirs mine
    cases sameElement
    have both := inv.elements.exclusive.unique (.hand other) (.hand thread) element
      (inv.elements.handed other element (by rw [there]; rfl)).1
      (inv.elements.handed thread element full).1
    cases both
    rfl
  · have starting : (state.threads other).startingSrb = some srb := by
      revert same
      cases pc : state.threads other <;> intro same <;>
        first | exact same | exact absurd ⟨_, pc⟩ inserting
    have theirs : srb ∈ srbContents state.queues.heap state.ledger.reported state.threads
        (.starting other) := by simp [srbContents, starting]
    cases inv.srbs.exclusive.unique (.starting other) (.element element) srb theirs mine

theorem deviceNext_accepted (props : WnbdProperties) (state after : DeviceState)
    (action : ThreadId × Choice) (inv : DeviceInv state) (accepted : AcceptedInv state)
    (taken : deviceNext props state action = some after) : AcceptedInv after := by
  obtain ⟨thread, choice⟩ := action
  obtain ⟨next, threads, move, heap, fresh⟩ := deviceNext_moves inv taken
  -- What a thread has after the step it had before, unless it was just issued.
  have before : ∀ other srb, (after.threads other).newSrb after.queues.heap = some srb →
      srb ∉ state.ledger.accepted ∧
        (other ≠ thread → (state.threads other).newSrb state.queues.heap = some srb) := by
    intro other srb has
    rw [threads] at has
    by_cases own : other = thread
    · subst own
      rw [Function.update_self] at has
      refine ⟨?_, fun different => absurd rfl different⟩
      rcases fresh srb has with had | rfl
      · exact accepted other srb had
      · intro old
        exact absurd (accepted_issued inv _ old) (Nat.lt_irrefl _)
    · rw [Function.update_of_ne own] at has
      have had : (state.threads other).newSrb state.queues.heap = some srb := by
        revert has
        cases pc : state.threads other with
        | startInsert element =>
            intro has
            have full : (state.threads other).hand = some element := by rw [pc]; rfl
            obtain ⟨value, stored, -⟩ := inv.elements.held other element full
            have used : state.queues.heap element ≠ none := by
              rw [stored]
              exact Option.some_ne_none _
            have kept := heap element (fun mine => own ?_) used
            · rwa [ThreadPc.newSrb, kept] at has
            · have both := inv.elements.exclusive.unique (.hand other) (.hand thread) element
                (inv.elements.handed other element full).1
                (inv.elements.handed thread element mine).1
              cases both
              rfl
        | _ => exact id
      exact ⟨accepted other srb had, fun _ => had⟩
  intro other srb has
  obtain ⟨notBefore, had⟩ := before other srb has
  rcases move.accepted with same | ⟨element, inserted, here, next_eq, carries, grown⟩
  · rwa [same]
  · rw [grown, List.mem_append, List.mem_singleton]
    rintro (old | rfl)
    · exact notBefore old
    · have own : other = thread := by
        by_contra different
        exact different (newSrb_exclusive inv thread other element srb here carries (had different))
      rw [threads, own, Function.update_self, next_eq] at has
      cases has

/-! ## Requests between the lists -/

/-- The thread took an element off a list and has not completed it, or will put
it on the other list. -/
def ThreadPc.InTransit : ThreadPc → Prop
  | .fetchCheck _ (some _) | .fetchPrepare _ _ | .fetchSubmit _ | .responseApply _ _
  | .abort _ _ _ _ | .complete _ _ => True
  | _ => False

/-- No thread has an element between the lists, and none was left behind. -/
structure NoneInTransit (state : DeviceState) : Prop where
  threads : ∀ thread, ¬ (state.threads thread).InTransit
  lost : state.queues.lost = []

def outstanding (state : DeviceState) : List SrbId :=
  state.ledger.accepted.filter fun srb => decide (srb ∉ state.ledger.reported)

theorem outstanding_eq_nil_iff (state : DeviceState) :
    outstanding state = [] ↔ ∀ srb ∈ state.ledger.accepted, srb ∈ state.ledger.reported := by
  simp [outstanding, List.filter_eq_nil_iff]

theorem queued_outstanding {state : DeviceState} (inv : DeviceInv state) (element : ElementId)
    (value : SrbQueueElement) (stored : state.queues.heap element = some value)
    (holds : Phase.pendingCompletion.Holds state.ledger.accepted value) :
    ∃ srb ∈ state.ledger.accepted, srb ∉ state.ledger.reported := by
  obtain ⟨notCompleted, srb, accepted, carries⟩ := holds
  refine ⟨srb, accepted, carried_not_reported state inv element srb ?_⟩
  simp [carried, stored, notCompleted, carries]

theorem Phase.Holds.toPending {accepted : List SrbId} {value : SrbQueueElement}
    (holds : Phase.queued.Holds accepted value) : Phase.pendingCompletion.Holds accepted value :=
  holds.2

theorem inTransit_outstanding {state : DeviceState} (inv : DeviceInv state) (thread : ThreadId)
    (transit : (state.threads thread).InTransit) :
    ∃ srb ∈ state.ledger.accepted, srb ∉ state.ledger.reported := by
  have held := inv.elements.held thread
  revert transit held
  cases pc : state.threads thread with
  | fetchCheck bufferSize popped =>
      intro transit held
      cases popped with
      | none => exact absurd transit id
      | some element =>
          obtain ⟨value, stored, holds⟩ := held element rfl
          exact queued_outstanding inv element value stored holds.toPending
  | fetchPrepare _ element | fetchSubmit element | responseApply _ element
  | abort _ _ _ element =>
      intro _ held
      obtain ⟨value, stored, holds⟩ := held element rfl
      exact queued_outstanding inv element value stored holds.toPending
  | complete element _ =>
      intro _ held
      obtain ⟨value, stored, holds⟩ := held element rfl
      exact queued_outstanding inv element value stored holds
  | _ => intro transit; exact absurd transit id

/-- An element whose SRB is accepted and not reported is on a list, in transit
or lost. -/
theorem carried_place {state : DeviceState} (inv : DeviceInv state) (accepted : AcceptedInv state)
    (element : ElementId) (srb : SrbId) (carries : srb ∈ carried (state.queues.heap element))
    (member : srb ∈ state.ledger.accepted) :
    element ∈ state.queues.pendingReqList ∨ element ∈ state.queues.submittedReqList ∨
      element ∈ state.queues.lost ∨ ∃ thread, (state.threads thread).InTransit := by
  have used : state.queues.heap element ≠ none := by
    intro unused
    rw [unused] at carries
    cases carries
  obtain ⟨place, found⟩ := inv.elements.placed element used
  obtain ⟨value, stored, holds⟩ := inv.elements.phased place element found
  have notSpare : ¬ Phase.spare.Holds state.ledger.accepted value := by
    intro spare
    rw [stored, show carried (some value) = [] from spare] at carries
    cases carries
  cases place with
  | pool => exact absurd holds notSpare
  | pending => exact Or.inl found
  | submitted => exact Or.inr (Or.inl found)
  | lost => exact Or.inr (Or.inr (Or.inl found))
  | hand thread =>
      refine Or.inr (Or.inr (Or.inr ⟨thread, ?_⟩))
      have full : (state.threads thread).hand = some element := by simpa [contents] using found
      have new := accepted thread srb
      revert full holds new
      simp only [Place.phase]
      cases state.threads thread with
      | fetchCheck bufferSize popped =>
          intro _ full _
          cases full
          trivial
      | fetchPrepare | fetchSubmit | responseApply | abort | complete =>
          intros
          trivial
      | startInsert held =>
          intro holds full new
          cases full
          refine absurd member (new ?_)
          rw [ThreadPc.newSrb, stored, Option.bind_some]
          simpa [carried, stored, holds.2.1] using carries
      | _ =>
          intro holds
          exact absurd holds notSpare

/-- Behind empty lists, what is outstanding is what is between the lists. -/
theorem outstanding_iff_inTransit {state : DeviceState} (inv : DeviceInv state)
    (accepted : AcceptedInv state) (noPending : state.queues.pendingReqList = [])
    (noSubmitted : state.queues.submittedReqList = []) :
    outstanding state = [] ↔ NoneInTransit state := by
  rw [outstanding_eq_nil_iff]
  constructor
  · intro all
    refine ⟨fun thread transit => ?_, List.eq_nil_iff_forall_not_mem.mpr fun element found => ?_⟩
    · obtain ⟨srb, member, unreported⟩ := inTransit_outstanding inv thread transit
      exact unreported (all srb member)
    · obtain ⟨value, stored, holds⟩ := inv.elements.phased .lost element found
      obtain ⟨srb, member, unreported⟩ :=
        queued_outstanding inv element value stored holds.toPending
      exact unreported (all srb member)
  · rintro ⟨none, noLost⟩ srb member
    rcases inv.srbs.accounted srb member with reported | ⟨element, carries⟩
    · exact reported
    · have found := carried_place inv accepted element srb carries member
      rw [noPending, noSubmitted, noLost] at found
      rcases found with queued | submitted | lost | ⟨thread, transit⟩
      · cases queued
      · cases submitted
      · cases lost
      · exact absurd transit (none thread)

/-! ## Queries -/

/-- `HasPendingAsyncRequests`, which holds both queue locks. -/
def hasPendingAsyncRequests (queues : DeviceQueues) : Bool :=
  !queues.submittedReqList.isEmpty || !queues.pendingReqList.isEmpty

inductive QueryPc
  | idle
  | comparePdo
  | check
  /-- `STATUS_DEVICE_BUSY` if there are pending requests. -/
  | release (hasPendingRequests : Bool)
deriving DecidableEq, Repr

inductive QueryChoice
  | queryRemove
  | pdo (same : Bool)
  | proceed
deriving DecidableEq, Repr

/-- What a check returned, and the SRBs outstanding while it held the locks. -/
structure QueryAnswer where
  hasPendingRequests : Bool
  outstanding : List SrbId
deriving DecidableEq, Repr

/-- `answers` has no counterpart in the driver. -/
structure QueryState where
  device : DeviceState
  queries : Nat → QueryPc
  answers : List QueryAnswer

def QueryState.initial (poolSize : Nat) : QueryState :=
  { device := DeviceState.initial poolSize, queries := fun _ => .idle, answers := [] }

inductive QueryAction
  | device (action : ThreadId × Choice)
  | query (index : Nat) (choice : QueryChoice)

def queryStep (state : QueryState) (index : Nat) : QueryPc → QueryChoice → Option QueryState
  | .idle, .queryRemove =>
      state.device.rundown.acquire.map fun rundown =>
        { state with
          device.rundown := rundown
          queries := Function.update state.queries index .comparePdo }
  | .comparePdo, .pdo same =>
      some { state with
        queries := Function.update state.queries index (if same then .check else .release false) }
  | .check, .proceed =>
      let pending := hasPendingAsyncRequests state.device.queues
      some { state with
        queries := Function.update state.queries index (.release pending)
        answers := state.answers ++ [⟨pending, outstanding state.device⟩] }
  | .release _, .proceed =>
      some { state with
        device.rundown := state.device.rundown.release
        queries := Function.update state.queries index .idle }
  | _, _ => none

def queryNext (props : WnbdProperties) (state : QueryState) : QueryAction → Option QueryState
  | .device action => (deviceNext props state.device action).map fun device => { state with device }
  | .query index choice => queryStep state index (state.queries index) choice

inductive QueryCase (state : QueryState) (index : Nat) : QueryChoice → QueryState → Prop
  | acquire (here : state.queries index = .idle) (rundown : Rundown) :
      QueryCase state index .queryRemove
        { state with
          device.rundown := rundown
          queries := Function.update state.queries index .comparePdo }
  | compare (here : state.queries index = .comparePdo) (same : Bool) :
      QueryCase state index (.pdo same)
        { state with
          queries := Function.update state.queries index (if same then .check else .release false) }
  | check (here : state.queries index = .check) :
      QueryCase state index .proceed
        { state with
          queries := Function.update state.queries index
            (.release (hasPendingAsyncRequests state.device.queues))
          answers := state.answers ++
            [⟨hasPendingAsyncRequests state.device.queues, outstanding state.device⟩] }
  | release (pending : Bool) (here : state.queries index = .release pending) :
      QueryCase state index .proceed
        { state with
          device.rundown := state.device.rundown.release
          queries := Function.update state.queries index .idle }

theorem queryStep_cases {state after : QueryState} {index : Nat} {choice : QueryChoice}
    (taken : queryStep state index (state.queries index) choice = some after) :
    QueryCase state index choice after := by
  cases here : state.queries index with
  | idle =>
      rw [here] at taken
      cases choice with
      | queryRemove =>
          obtain ⟨rundown, -, rfl⟩ := Option.map_eq_some_iff.mp taken
          exact .acquire here rundown
      | _ => cases taken
  | comparePdo =>
      rw [here] at taken
      cases choice with
      | pdo same =>
          cases taken
          exact .compare here same
      | _ => cases taken
  | check =>
      rw [here] at taken
      cases choice with
      | proceed =>
          cases taken
          exact .check here
      | _ => cases taken
  | release pending =>
      rw [here] at taken
      cases choice with
      | proceed =>
          cases taken
          exact .release pending here
      | _ => cases taken

structure QueryInv (state : QueryState) : Prop where
  device : DeviceInv state.device
  accepted : AcceptedInv state.device

theorem queryInv_initial (poolSize : Nat) : QueryInv (QueryState.initial poolSize) :=
  ⟨deviceInv_initial poolSize, acceptedInv_initial poolSize⟩

theorem queryNext_inv (props : WnbdProperties) (state after : QueryState) (action : QueryAction)
    (inv : QueryInv state) (taken : queryNext props state action = some after) :
    QueryInv after := by
  cases action with
  | device action =>
      obtain ⟨device, moved, rfl⟩ := Option.map_eq_some_iff.mp taken
      exact ⟨deviceNext_inv props state.device device action inv.device moved,
        deviceNext_accepted props state.device device action inv.device inv.accepted moved⟩
  | query index choice =>
      cases queryStep_cases taken with
      | acquire | compare | check | release =>
          exact ⟨⟨inv.device.elements, inv.device.srbs⟩, inv.accepted⟩

/-! ## When the check is sound -/

/-- Every answer that there were no pending requests came with none outstanding. -/
def AnswersSound (state : QueryState) : Prop :=
  ∀ answer ∈ state.answers, answer.hasPendingRequests = false → answer.outstanding = []

/-- A check that finds both lists empty runs while no thread has an element
between them. -/
def ChecksAtRest (state : QueryState) : QueryAction → Prop
  | .query index _ => state.queries index = .check → state.device.queues.pendingReqList = [] →
      state.device.queues.submittedReqList = [] → NoneInTransit state.device
  | .device _ => True

theorem hasPendingAsyncRequests_eq_false_iff (queues : DeviceQueues) :
    hasPendingAsyncRequests queues = false ↔
      queues.pendingReqList = [] ∧ queues.submittedReqList = [] := by
  simp only [hasPendingAsyncRequests, Bool.or_eq_false_iff, Bool.not_eq_false',
    List.isEmpty_iff]
  exact And.comm

theorem answersSound_step (props : WnbdProperties) (state after : QueryState)
    (action : QueryAction) (inv : QueryInv state)
    (taken : queryNext props state action = some after) :
    AnswersSound after ↔ AnswersSound state ∧ ChecksAtRest state action := by
  cases action with
  | device action =>
      obtain ⟨device, moved, rfl⟩ := Option.map_eq_some_iff.mp taken
      exact (and_iff_left trivial).symm
  | query index choice =>
      have elsewhere : state.queries index ≠ .check →
          ChecksAtRest state (.query index choice) := by
        intro other check
        exact absurd check other
      cases queryStep_cases taken with
      | check here =>
          have last : (hasPendingAsyncRequests state.device.queues = false →
              outstanding state.device = []) ↔ ChecksAtRest state (.query index .proceed) := by
            rw [hasPendingAsyncRequests_eq_false_iff, and_imp]
            constructor
            · intro sound _ noPending noSubmitted
              exact (outstanding_iff_inTransit inv.device inv.accepted noPending noSubmitted).mp
                (sound noPending noSubmitted)
            · intro rest noPending noSubmitted
              exact (outstanding_iff_inTransit inv.device inv.accepted noPending noSubmitted).mpr
                (rest here noPending noSubmitted)
          rw [← last]
          simp only [AnswersSound, List.mem_append, List.mem_singleton, or_imp, forall_and,
            forall_eq]
      | acquire here | compare here | release pending here =>
          exact (and_iff_left (elsewhere (by simp [here]))).symm

/-- The answers of a run are sound exactly when no check ran behind the back of
a thread that has an element between the lists. -/
theorem idle_check_sound_iff (props : WnbdProperties) (poolSize : Nat)
    (actions : List QueryAction) (state : QueryState)
    (ran : run (queryNext props) (QueryState.initial poolSize) actions = some state) :
    AnswersSound state ↔
      AllAllowed (queryNext props) ChecksAtRest (QueryState.initial poolSize) actions := by
  have none : AnswersSound (QueryState.initial poolSize) := by
    intro answer member
    cases member
  rw [clean_iff_allAllowed QueryInv AnswersSound (queryNext_inv props) (answersSound_step props)
    actions _ state (queryInv_initial poolSize) ran]
  exact and_iff_right none

/-! ## A query after an answered write, and one during a fetch -/

def queryRemove (index : Nat) : List QueryAction :=
  [.query index .queryRemove, .query index (.pdo true), .query index .proceed]

theorem idle_check_sound_one_write :
    ∃ state, run (queryNext diskProps) (QueryState.initial 1)
        (oneWrite.map .device ++ queryRemove 0) = some state ∧
      state.answers = [⟨false, []⟩] ∧
      AllAllowed (queryNext diskProps) ChecksAtRest (QueryState.initial 1)
        (oneWrite.map .device ++ queryRemove 0) := by
  have enabled : (run (queryNext diskProps) (QueryState.initial 1)
      (oneWrite.map .device ++ queryRemove 0)).map (·.answers) = some [⟨false, []⟩] := by
    decide +kernel
  obtain ⟨state, ran, answers⟩ := Option.map_eq_some_iff.mp enabled
  refine ⟨state, ran, answers, (idle_check_sound_iff diskProps 1 _ state ran).mp ?_⟩
  intro answer member _
  rw [answers, List.mem_singleton] at member
  rw [member]

/-- A fetch call has just popped the only request, and the device looks idle. -/
theorem fetched_request_overlooked :
    ¬ ∀ (props : WnbdProperties) (poolSize : Nat) (actions : List QueryAction)
      (state : QueryState),
      run (queryNext props) (QueryState.initial poolSize) actions = some state →
      AnswersSound state := by
  intro always
  have enabled : (run (queryNext diskProps) (QueryState.initial 1)
      ((queueWrite (.user 0) ++ fetchUntilPop (.user 1)).map .device ++ queryRemove 0)).map
        (·.answers) = some [⟨false, [0]⟩] := by
    decide +kernel
  obtain ⟨state, ran, answers⟩ := Option.map_eq_some_iff.mp enabled
  have sound := always diskProps 1 _ state ran ⟨false, [0]⟩
    (by rw [answers]; exact List.mem_cons_self) rfl
  cases sound

end Wnbd.Device
