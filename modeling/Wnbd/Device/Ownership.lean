import Wnbd.Device.Machine
import Wnbd.Foundation.Placement

/-!
# Who owns an element, and which SRB it carries

An element is in the pool, on the pending queue, on the submitted list or in the
hands of one thread; an SRB is with the StartIo thread that received it, carried
by one element, or reported.  `ElementInv` and `SrbInv` state this, and the
lemmas below say how the few kinds of step preserve them: picking an element off
a list, putting one down, writing the one in hand, allocating and freeing.
-/

set_option autoImplicit false

namespace Wnbd.Device

open Wnbd.Scsi Wnbd.Dispatch Placement HashIndex DeviceState DeviceQueues

/-! ## Places -/

inductive Place
  | pool | pending | submitted | lost
  | hand (thread : ThreadId)
deriving DecidableEq

def contents (queues : DeviceQueues) (threads : ThreadId → ThreadPc) : Place → List ElementId
  | .pool => queues.srbElementPool
  | .pending => queues.pendingReqList
  | .submitted => queues.submittedReqList
  | .lost => queues.lost
  | .hand thread => (threads thread).hand.toList

inductive SrbPlace
  | starting (thread : ThreadId)
  | element (element : ElementId)
  | reported
deriving DecidableEq

/-- The SRB an element still has to complete. -/
def carried : Option SrbQueueElement → List SrbId
  | some value => if value.completed then [] else value.srb.toList
  | none => []

theorem carried_update (heap : ElementId → Option SrbQueueElement) (element : ElementId)
    (value : Option SrbQueueElement) (same : carried value = carried (heap element))
    (other : ElementId) :
    carried (Function.update heap element value other) = carried (heap other) := by
  by_cases own : other = element
  · subst own
    rw [Function.update_self, same]
  · rw [Function.update_of_ne own]

def srbContents (heap : ElementId → Option SrbQueueElement) (reported : List SrbId)
    (threads : ThreadId → ThreadPc) : SrbPlace → List SrbId
  | .starting thread => (threads thread).startingSrb.toList
  | .element element => carried (heap element)
  | .reported => reported

/-! ## What an element holds at each place -/

inductive Phase
  /-- Carries no SRB. -/
  | spare
  /-- Filled in, not queued yet. -/
  | filled
  /-- Carries an accepted SRB and was neither aborted nor completed. -/
  | queued
  /-- Carries an accepted SRB and was not completed. -/
  | pendingCompletion
deriving DecidableEq

def Phase.Holds (accepted : List SrbId) : Phase → SrbQueueElement → Prop
  | .spare, value => carried (some value) = []
  | .filled, value => value.aborted = false ∧ value.completed = false ∧ ∃ srb, value.srb = some srb
  | .queued, value =>
      value.aborted = false ∧ value.completed = false ∧ ∃ srb ∈ accepted, value.srb = some srb
  | .pendingCompletion, value => value.completed = false ∧ ∃ srb ∈ accepted, value.srb = some srb

/-- What a thread expects of the element in its hands. -/
def ThreadPc.phase : ThreadPc → Phase
  | .startInsert _ => .filled
  | .fetchCheck _ _ | .fetchPrepare _ _ | .fetchSubmit _ | .responseApply _ _ | .abort _ _ _ _ =>
      .queued
  | .complete _ _ => .pendingCompletion
  | _ => .spare

def Place.phase (threads : ThreadId → ThreadPc) : Place → Phase
  | .pool => .spare
  | .pending | .submitted | .lost => .queued
  | .hand thread => (threads thread).phase

theorem Phase.Holds.accept {accepted more : List SrbId} {phase : Phase} {value : SrbQueueElement}
    (holds : phase.Holds accepted value) (grows : accepted ⊆ more) : phase.Holds more value := by
  cases phase with
  | spare => exact holds
  | filled => exact holds
  | queued =>
      obtain ⟨aborted, completed, srb, member, carries⟩ := holds
      exact ⟨aborted, completed, srb, grows member, carries⟩
  | pendingCompletion =>
      obtain ⟨completed, srb, member, carries⟩ := holds
      exact ⟨completed, srb, grows member, carries⟩

/-! ## The invariants -/

structure ElementInv (queues : DeviceQueues) (threads : ThreadId → ThreadPc)
    (accepted : List SrbId) : Prop where
  exclusive : Exclusive (contents queues threads)
  phased : ∀ place element, element ∈ contents queues threads place →
    ∃ value, queues.heap element = some value ∧ (place.phase threads).Holds accepted value
  placed : ∀ element, queues.heap element ≠ none → ∃ place, element ∈ contents queues threads place
  indexed : Indexes (bucketOf queues.heap) queues.submittedReqList queues.submittedReqHashBuckets

structure SrbInv (heap : ElementId → Option SrbQueueElement) (ledger : SrbLedger)
    (threads : ThreadId → ThreadPc) : Prop where
  exclusive : Exclusive (srbContents heap ledger.reported threads)
  issued : ∀ place srb, srb ∈ srbContents heap ledger.reported threads place → srb < ledger.issued
  accounted : ∀ srb ∈ ledger.accepted,
    srb ∈ ledger.reported ∨ ∃ element, srb ∈ carried (heap element)

structure DeviceInv (state : DeviceState) : Prop where
  elements : ElementInv state.queues state.threads state.ledger.accepted
  srbs : SrbInv state.queues.heap state.ledger state.threads

/-! ## Lists gain and lose elements -/

section Lists

variable (queues : DeviceQueues) (threads : ThreadId → ThreadPc) (element : ElementId)

theorem puts_pool_head :
    Puts (contents queues threads)
      (contents { queues with srbElementPool := element :: queues.srbElementPool } threads)
      element .pool where
  here := List.Perm.refl _
  others place other := by cases place <;> first | rfl | exact absurd rfl other

theorem puts_pending_tail :
    Puts (contents queues threads)
      (contents { queues with pendingReqList := queues.pendingReqList ++ [element] } threads)
      element .pending where
  here := List.perm_append_singleton _ _
  others place other := by cases place <;> first | rfl | exact absurd rfl other

theorem puts_submitted_tail :
    Puts (contents queues threads) (contents (queues.wnbdSubmittedReqInsert element) threads)
      element .submitted where
  here := List.perm_append_singleton _ _
  others place other := by cases place <;> first | rfl | exact absurd rfl other

theorem puts_lost_tail :
    Puts (contents queues threads)
      (contents { queues with lost := queues.lost ++ [element] } threads) element .lost where
  here := List.perm_append_singleton _ _
  others place other := by cases place <;> first | rfl | exact absurd rfl other

theorem takes_pool_head (rest : List ElementId) (head : queues.srbElementPool = element :: rest) :
    Puts (contents { queues with srbElementPool := rest } threads) (contents queues threads)
      element .pool where
  here := by
    simp only [contents, head]
    exact List.Perm.refl _
  others place other := by cases place <;> first | rfl | exact absurd rfl other

theorem takes_pending_head (rest : List ElementId)
    (head : queues.pendingReqList = element :: rest) :
    Puts (contents { queues with pendingReqList := rest } threads) (contents queues threads)
      element .pending where
  here := by
    simp only [contents, head]
    exact List.Perm.refl _
  others place other := by cases place <;> first | rfl | exact absurd rfl other

theorem takes_submitted (member : element ∈ queues.submittedReqList) :
    Puts (contents (queues.unlinkSubmitted element) threads) (contents queues threads)
      element .submitted where
  here := List.perm_cons_erase member
  others place other := by cases place <;> first | rfl | exact absurd rfl other

end Lists

theorem puts_hand (queues : DeviceQueues) (threads : ThreadId → ThreadPc) (thread : ThreadId)
    (pc : ThreadPc) (element : ElementId) (empty : (threads thread).hand = none)
    (full : pc.hand = some element) :
    Puts (contents queues threads) (contents queues (Function.update threads thread pc)) element
      (.hand thread) where
  here := by simp [contents, full, empty]
  others place other := by
    cases place with
    | hand holder =>
        have different : holder ≠ thread := fun same => other (by rw [same])
        simp [contents, Function.update_of_ne different]
    | pool | pending | submitted | lost => rfl

theorem takes_hand (queues : DeviceQueues) (threads : ThreadId → ThreadPc) (thread : ThreadId)
    (pc : ThreadPc) (element : ElementId) (full : (threads thread).hand = some element)
    (empty : pc.hand = none) :
    Puts (contents queues (Function.update threads thread pc)) (contents queues threads) element
      (.hand thread) where
  here := by simp [contents, full, empty]
  others place other := by
    cases place with
    | hand holder =>
        have different : holder ≠ thread := fun same => other (by rw [same])
        simp [contents, Function.update_of_ne different]
    | pool | pending | submitted | lost => rfl

/-- A thread that keeps what it has in hand changes no contents. -/
theorem contents_setPc (queues : DeviceQueues) (threads : ThreadId → ThreadPc) (thread : ThreadId)
    (pc : ThreadPc) (same : pc.hand = (threads thread).hand) (place : Place) :
    contents queues (Function.update threads thread pc) place = contents queues threads place := by
  cases place with
  | hand holder =>
      by_cases own : holder = thread
      · subst own
        simp [contents, same]
      · simp [contents, Function.update_of_ne own]
  | pool | pending | submitted | lost => rfl

theorem phase_of_ne (threads : ThreadId → ThreadPc) (thread : ThreadId) (pc : ThreadPc)
    (place : Place) (other : place ≠ .hand thread) :
    place.phase (Function.update threads thread pc) = place.phase threads := by
  cases place with
  | hand holder =>
      have different : holder ≠ thread := fun same => other (by rw [same])
      simp [Place.phase, Function.update_of_ne different]
  | pool | pending | submitted | lost => rfl

/-! ## Elements: what each kind of step preserves -/

namespace ElementInv

variable {queues after : DeviceQueues} {threads : ThreadId → ThreadPc} {accepted more : List SrbId}
variable (inv : ElementInv queues threads accepted) (thread : ThreadId) (pc : ThreadPc)
variable (element : ElementId)
include inv

theorem handed (full : (threads thread).hand = some element) :
    element ∈ contents queues threads (.hand thread) ∧
      ∀ place, element ∈ contents queues threads place → place = .hand thread := by
  have here : element ∈ contents queues threads (.hand thread) := by simp [contents, full]
  exact ⟨here, fun place member => inv.exclusive.unique place (.hand thread) element member here⟩

theorem held (full : (threads thread).hand = some element) :
    ∃ value, queues.heap element = some value ∧ (threads thread).phase.Holds accepted value :=
  inv.phased (.hand thread) element (inv.handed thread element full).1

theorem setPc (grows : accepted ⊆ more) (same : pc.hand = (threads thread).hand)
    (holds : ∀ element value, pc.hand = some element → queues.heap element = some value →
      (threads thread).phase.Holds accepted value → pc.phase.Holds more value) :
    ElementInv queues (Function.update threads thread pc) more where
  exclusive := inv.exclusive.transfer (.kept (contents_setPc queues threads thread pc same))
  phased place element member := by
    rw [contents_setPc queues threads thread pc same] at member
    obtain ⟨value, stored, old⟩ := inv.phased place element member
    refine ⟨value, stored, ?_⟩
    by_cases own : place = .hand thread
    · subst own
      have full : pc.hand = some element := by
        rw [same]
        simpa [contents] using member
      simpa [Place.phase] using holds element value full stored old
    · rw [phase_of_ne threads thread pc place own]
      exact old.accept grows
  placed element stored := by
    obtain ⟨place, member⟩ := inv.placed element stored
    exact ⟨place, by rwa [contents_setPc queues threads thread pc same]⟩
  indexed := inv.indexed

theorem pick (source : Place) (empty : (threads thread).hand = none)
    (full : pc.hand = some element)
    (taken : Puts (contents after threads) (contents queues threads) element source)
    (heap : after.heap = queues.heap)
    (holds : ∀ value, (source.phase threads).Holds accepted value → pc.phase.Holds accepted value)
    (indexed : Indexes (bucketOf after.heap) after.submittedReqList
      after.submittedReqHashBuckets) :
    ElementInv after (Function.update threads thread pc) accepted := by
  have put := puts_hand after threads thread pc element empty full
  refine ⟨inv.exclusive.transfer (.moved _ element source _ taken put), ?_, ?_, indexed⟩
  · intro place other member
    rcases (put.mem_iff place other).mp member with ⟨rfl, rfl⟩ | old
    · obtain ⟨value, stored, found⟩ := inv.phased source other taken.mem_target
      exact ⟨value, by rw [heap, stored], by simpa [Place.phase] using holds value found⟩
    · have notOwn : place ≠ .hand thread := by
        rintro rfl
        simp [contents, empty] at old
      obtain ⟨value, stored, found⟩ :=
        inv.phased place other ((taken.mem_iff place other).mpr (Or.inr old))
      rw [phase_of_ne threads thread pc place notOwn]
      exact ⟨value, by rw [heap, stored], found⟩
  · intro other stored
    rw [heap] at stored
    obtain ⟨place, member⟩ := inv.placed other stored
    rcases (taken.mem_iff place other).mp member with ⟨rfl, rfl⟩ | kept
    · exact ⟨_, put.mem_target⟩
    · exact ⟨place, (put.mem_iff place other).mpr (Or.inr kept)⟩

/-- The thread puts the element in its hands at `target`. -/
theorem drop (target : Place) (grows : accepted ⊆ more)
    (full : (threads thread).hand = some element) (empty : pc.hand = none)
    (put : Puts (contents queues (Function.update threads thread pc))
      (contents after (Function.update threads thread pc)) element target)
    (heap : after.heap = queues.heap)
    (holds : ∀ value, queues.heap element = some value →
      (threads thread).phase.Holds accepted value →
      (target.phase (Function.update threads thread pc)).Holds more value)
    (indexed : Indexes (bucketOf after.heap) after.submittedReqList
      after.submittedReqHashBuckets) :
    ElementInv after (Function.update threads thread pc) more := by
  have taken := takes_hand queues threads thread pc element full empty
  refine ⟨inv.exclusive.transfer (.moved _ element _ target taken put), ?_, ?_, indexed⟩
  · intro place other member
    rcases (put.mem_iff place other).mp member with ⟨rfl, rfl⟩ | old
    · obtain ⟨value, stored, found⟩ := inv.held thread other full
      exact ⟨value, by rw [heap, stored], holds value stored found⟩
    · have notOwn : place ≠ .hand thread := by
        rintro rfl
        simp [contents, empty] at old
      obtain ⟨value, stored, found⟩ :=
        inv.phased place other ((taken.mem_iff place other).mpr (Or.inr old))
      rw [phase_of_ne threads thread pc place notOwn]
      exact ⟨value, by rw [heap, stored], found.accept grows⟩
  · intro other stored
    rw [heap] at stored
    obtain ⟨place, member⟩ := inv.placed other stored
    rcases (taken.mem_iff place other).mp member with ⟨rfl, rfl⟩ | kept
    · exact ⟨_, put.mem_target⟩
    · exact ⟨place, (put.mem_iff place other).mpr (Or.inr kept)⟩

theorem indexed_update (value : Option SrbQueueElement)
    (elsewhere : element ∉ queues.submittedReqList) :
    Indexes (bucketOf (Function.update queues.heap element value)) queues.submittedReqList
      queues.submittedReqHashBuckets := by
  refine inv.indexed.congr fun other member => ?_
  have different : other ≠ element := fun same => elsewhere (same ▸ member)
  rw [bucketOf, Function.update_of_ne different]
  rfl

theorem write (value : SrbQueueElement) (full : (threads thread).hand = some element)
    (same : pc.hand = some element) (holds : pc.phase.Holds accepted value) :
    ElementInv { queues with heap := Function.update queues.heap element (some value) }
      (Function.update threads thread pc) accepted := by
  have kept := contents_setPc queues threads thread pc (same.trans full.symm)
  obtain ⟨here, only⟩ := inv.handed thread element full
  refine ⟨inv.exclusive.transfer (.kept kept), ?_, ?_,
    inv.indexed_update element (some value) fun listed => by cases only .submitted listed⟩
  · intro place other member
    have found : other ∈ contents queues threads place := by
      rw [← kept]
      exact member
    by_cases own : place = .hand thread
    · subst own
      have equal : other = element := by
        have inHand : some other = some element := by
          rw [← full]
          simpa [contents, eq_comm] using found
        exact Option.some.inj inHand
      subst equal
      exact ⟨value, Function.update_self .., by simpa [Place.phase] using holds⟩
    · have different : other ≠ element := by
        rintro rfl
        exact own (only place found)
      rw [phase_of_ne threads thread pc place own]
      simpa [Function.update_of_ne different] using inv.phased place other found
  · intro other stored
    by_cases equal : other = element
    · subst equal
      exact ⟨.hand thread, (congrArg (other ∈ ·) (kept (.hand thread))).mpr here⟩
    · dsimp only at stored
      rw [Function.update_of_ne equal] at stored
      obtain ⟨place, member⟩ := inv.placed other stored
      exact ⟨place, (congrArg (other ∈ ·) (kept place)).mpr member⟩

theorem allocate (value : SrbQueueElement) (unused : queues.heap element = none)
    (empty : (threads thread).hand = none) (full : pc.hand = some element)
    (holds : pc.phase.Holds accepted value) :
    ElementInv { queues with heap := Function.update queues.heap element (some value) }
      (Function.update threads thread pc) accepted := by
  have put := puts_hand queues threads thread pc element empty full
  have fresh : ∀ place, element ∉ contents queues threads place := fun place member => by
    obtain ⟨found, stored, -⟩ := inv.phased place element member
    rw [unused] at stored
    cases stored
  refine ⟨inv.exclusive.transfer (.created element _ fresh put), ?_, ?_,
    inv.indexed_update element (some value) (fresh .submitted)⟩
  · intro place other member
    rcases (put.mem_iff place other).mp member with ⟨rfl, rfl⟩ | old
    · exact ⟨value, Function.update_self .., by simpa [Place.phase] using holds⟩
    · have different : other ≠ element := fun same => fresh place (same ▸ old)
      have notOwn : place ≠ .hand thread := by
        rintro rfl
        simp [contents, empty] at old
      rw [phase_of_ne threads thread pc place notOwn]
      simpa [Function.update_of_ne different] using inv.phased place other old
  · intro other stored
    by_cases equal : other = element
    · subst equal
      exact ⟨.hand thread, put.mem_target⟩
    · dsimp only at stored
      rw [Function.update_of_ne equal] at stored
      obtain ⟨place, member⟩ := inv.placed other stored
      exact ⟨place, (put.mem_iff place other).mpr (Or.inr member)⟩

theorem destroy (full : (threads thread).hand = some element) (empty : pc.hand = none) :
    ElementInv { queues with heap := Function.update queues.heap element none }
      (Function.update threads thread pc) accepted := by
  have taken := takes_hand queues threads thread pc element full empty
  obtain ⟨-, nowhere⟩ := taken.exclusive_of_after inv.exclusive
  obtain ⟨here, only⟩ := inv.handed thread element full
  refine ⟨inv.exclusive.transfer (.destroyed element _ taken), ?_, ?_,
    inv.indexed_update element none fun listed => by cases only .submitted listed⟩
  · intro place other member
    have different : other ≠ element := fun same => nowhere place (same ▸ member)
    have notOwn : place ≠ .hand thread := by
      rintro rfl
      simp [contents, empty] at member
    rw [phase_of_ne threads thread pc place notOwn]
    simpa [Function.update_of_ne different] using
      inv.phased place other ((taken.mem_iff place other).mpr (Or.inr member))
  · intro other stored
    have different : other ≠ element := by
      rintro rfl
      exact stored (Function.update_self ..)
    dsimp only at stored
    rw [Function.update_of_ne different] at stored
    obtain ⟨place, member⟩ := inv.placed other stored
    rcases (taken.mem_iff place other).mp member with ⟨same, -⟩ | kept
    · exact absurd same different
    · exact ⟨place, kept⟩

end ElementInv

/-! ## SRBs: what each kind of step preserves -/

section SrbPuts

variable (heap : ElementId → Option SrbQueueElement) (reported : List SrbId)
variable (threads : ThreadId → ThreadPc) (thread : ThreadId) (pc : ThreadPc) (srb : SrbId)

theorem srbContents_setPc (same : pc.startingSrb = (threads thread).startingSrb)
    (place : SrbPlace) :
    srbContents heap reported (Function.update threads thread pc) place =
      srbContents heap reported threads place := by
  cases place with
  | starting holder =>
      by_cases own : holder = thread
      · subst own
        simp [srbContents, same]
      · simp [srbContents, Function.update_of_ne own]
  | element | reported => rfl

theorem puts_starting (empty : (threads thread).startingSrb = none)
    (full : pc.startingSrb = some srb) :
    Puts (srbContents heap reported threads)
      (srbContents heap reported (Function.update threads thread pc)) srb (.starting thread) where
  here := by simp [srbContents, full, empty]
  others place other := by
    cases place with
    | starting holder =>
        have different : holder ≠ thread := fun same => other (by rw [same])
        simp [srbContents, Function.update_of_ne different]
    | element | reported => rfl

theorem takes_starting (full : (threads thread).startingSrb = some srb)
    (empty : pc.startingSrb = none) :
    Puts (srbContents heap reported (Function.update threads thread pc))
      (srbContents heap reported threads) srb (.starting thread) where
  here := by simp [srbContents, full, empty]
  others place other := by
    cases place with
    | starting holder =>
        have different : holder ≠ thread := fun same => other (by rw [same])
        simp [srbContents, Function.update_of_ne different]
    | element | reported => rfl

theorem puts_element (element : ElementId) (value : Option SrbQueueElement)
    (empty : carried (heap element) = []) (full : carried value = [srb]) :
    Puts (srbContents heap reported threads)
      (srbContents (Function.update heap element value) reported threads) srb
      (.element element) where
  here := by simp [srbContents, full, empty]
  others place other := by
    cases place with
    | element found =>
        have different : found ≠ element := fun same => other (by rw [same])
        simp [srbContents, Function.update_of_ne different]
    | starting | reported => rfl

theorem takes_element (element : ElementId) (value : Option SrbQueueElement)
    (full : carried (heap element) = [srb]) (empty : carried value = []) :
    Puts (srbContents (Function.update heap element value) reported threads)
      (srbContents heap reported threads) srb (.element element) where
  here := by simp [srbContents, full, empty]
  others place other := by
    cases place with
    | element found =>
        have different : found ≠ element := fun same => other (by rw [same])
        simp [srbContents, Function.update_of_ne different]
    | starting | reported => rfl

theorem puts_reported :
    Puts (srbContents heap reported threads) (srbContents heap (reported ++ [srb]) threads) srb
      .reported where
  here := List.perm_append_singleton _ _
  others place other := by cases place <;> first | rfl | exact absurd rfl other

end SrbPuts

namespace SrbInv

variable {heap changed : ElementId → Option SrbQueueElement} {ledger after : SrbLedger}
variable {threads : ThreadId → ThreadPc}
variable (inv : SrbInv heap ledger threads) (thread : ThreadId) (pc : ThreadPc) (srb : SrbId)
include inv

theorem keep (starting : pc.startingSrb = (threads thread).startingSrb)
    (carries : ∀ element, carried (changed element) = carried (heap element))
    (reported : after.reported = ledger.reported) (issued : after.issued = ledger.issued)
    (accepted : ∀ srb ∈ after.accepted,
      srb ∈ ledger.accepted ∨ ∃ element, srb ∈ carried (heap element)) :
    SrbInv changed after (Function.update threads thread pc) := by
  have same : ∀ place, srbContents changed after.reported (Function.update threads thread pc)
      place = srbContents heap ledger.reported threads place := by
    intro place
    rw [srbContents_setPc _ _ _ _ _ starting, reported]
    cases place with
    | element element => exact carries element
    | starting | reported => rfl
  refine ⟨inv.exclusive.transfer (.kept same), fun place srb member => ?_, fun srb member => ?_⟩
  · rw [same] at member
    rw [issued]
    exact inv.issued place srb member
  · rw [reported]
    simp only [carries]
    rcases accepted srb member with old | new
    · exact inv.accounted srb old
    · exact Or.inr new

theorem begin (empty : (threads thread).startingSrb = none)
    (full : pc.startingSrb = some ledger.issued) (srbs : SrbId → Srb) :
    SrbInv heap { ledger with srbs, issued := ledger.issued + 1 }
      (Function.update threads thread pc) := by
  have put := puts_starting heap ledger.reported threads thread pc ledger.issued empty full
  have fresh : ∀ place, ledger.issued ∉ srbContents heap ledger.reported threads place :=
    fun place member => absurd (inv.issued place _ member) (Nat.lt_irrefl _)
  refine ⟨inv.exclusive.transfer (.created _ _ fresh put), fun place srb member => ?_,
    inv.accounted⟩
  rcases (put.mem_iff place srb).mp member with ⟨rfl, -⟩ | old
  · exact Nat.lt_succ_self _
  · exact Nat.lt_succ_of_lt (inv.issued place srb old)

theorem reportStarting (full : (threads thread).startingSrb = some srb)
    (empty : pc.startingSrb = none) :
    SrbInv heap { ledger with reported := ledger.reported ++ [srb] }
      (Function.update threads thread pc) := by
  have taken := takes_starting heap ledger.reported threads thread pc srb full empty
  have put := puts_reported heap ledger.reported (Function.update threads thread pc) srb
  refine ⟨inv.exclusive.transfer (.moved _ srb _ _ taken put), fun place other member => ?_,
    fun other member => ?_⟩
  · rcases (put.mem_iff place other).mp member with ⟨rfl, -⟩ | old
    · exact inv.issued _ other taken.mem_target
    · exact inv.issued place other ((taken.mem_iff place other).mpr (Or.inr old))
  · rcases inv.accounted other member with done | carriedBy
    · exact Or.inl (List.mem_append_left _ done)
    · exact Or.inr carriedBy

theorem fill (element : ElementId) (value : SrbQueueElement)
    (full : (threads thread).startingSrb = some srb) (empty : pc.startingSrb = none)
    (spare : carried (heap element) = []) (carries : carried (some value) = [srb]) :
    SrbInv (Function.update heap element (some value)) ledger
      (Function.update threads thread pc) := by
  have taken := takes_starting heap ledger.reported threads thread pc srb full empty
  have put := puts_element heap ledger.reported (Function.update threads thread pc) srb element
    (some value) spare carries
  refine ⟨inv.exclusive.transfer (.moved _ srb _ _ taken put), fun place other member => ?_,
    fun other member => ?_⟩
  · rcases (put.mem_iff place other).mp member with ⟨rfl, -⟩ | old
    · exact inv.issued _ other taken.mem_target
    · exact inv.issued place other ((taken.mem_iff place other).mpr (Or.inr old))
  · rcases inv.accounted other member with done | ⟨found, carriedBy⟩
    · exact Or.inl done
    · have different : found ≠ element := by
        rintro rfl
        rw [spare] at carriedBy
        cases carriedBy
      exact Or.inr ⟨found, by rwa [Function.update_of_ne different]⟩

theorem reportCarried (element : ElementId) (value : SrbQueueElement)
    (starting : pc.startingSrb = (threads thread).startingSrb)
    (carries : carried (heap element) = [srb]) (spare : carried (some value) = []) :
    SrbInv (Function.update heap element (some value))
      { ledger with reported := ledger.reported ++ [srb] } (Function.update threads thread pc) := by
  have taken := takes_element heap ledger.reported (Function.update threads thread pc) srb element
    (some value) carries spare
  have put := puts_reported (Function.update heap element (some value)) ledger.reported
    (Function.update threads thread pc) srb
  have kept := srbContents_setPc heap ledger.reported threads thread pc starting
  have exclusive := inv.exclusive.transfer (.kept kept)
  refine ⟨exclusive.transfer (.moved _ srb _ _ taken put), fun place other member => ?_,
    fun other member => ?_⟩
  · have issued : ∀ place other, other ∈ srbContents heap ledger.reported
        (Function.update threads thread pc) place → other < ledger.issued := by
      intro place other found
      rw [kept] at found
      exact inv.issued place other found
    rcases (put.mem_iff place other).mp member with ⟨rfl, -⟩ | old
    · exact issued _ other taken.mem_target
    · exact issued place other ((taken.mem_iff place other).mpr (Or.inr old))
  · rcases inv.accounted other member with done | ⟨found, carriedBy⟩
    · exact Or.inl (List.mem_append_left _ done)
    · by_cases own : found = element
      · subst own
        rw [carries, List.mem_singleton] at carriedBy
        subst carriedBy
        exact Or.inl (List.mem_append_right _ List.mem_cons_self)
      · exact Or.inr ⟨found, by rwa [Function.update_of_ne own]⟩

end SrbInv

end Wnbd.Device
