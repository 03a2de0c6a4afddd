import Wnbd.Device.SubmittedReqHash

/-!
# Sequences of submitted-request calls

What the driver's three functions return and leave in memory, over every sequence
of calls from the initialized state, told by the requests present: a list in the
order of insertion that a search walks from its start.
-/

set_option autoImplicit false

namespace Wnbd.Device

open Wnbd.Dispatch DeviceQueues

inductive SubmittedReqCall
  /-- The fields of an element are filled in and the element is inserted. -/
  | insert (element : ElementId) (value : SrbQueueElement)
  | removeByTag (tag : UInt64)
  | removeHead

def SubmittedReqs.call (fuel : Nat) (requests : SubmittedReqs) :
    SubmittedReqCall → Option (Option ElementId × SubmittedReqs)
  | .insert element value =>
      some (none, (requests.setElement element value).wnbdSubmittedReqInsert element)
  | .removeByTag tag => requests.wnbdSubmittedReqRemoveByTag fuel tag
  | .removeHead => some requests.wnbdSubmittedReqRemoveHead

def SubmittedReqs.calls (fuel : Nat) :
    SubmittedReqs → List SubmittedReqCall → Option (List (Option ElementId) × SubmittedReqs)
  | requests, [] => some ([], requests)
  | requests, call :: rest =>
      (requests.call fuel call).bind fun returned =>
        (returned.2.calls fuel rest).map fun results => (returned.1 :: results.1, results.2)

/-! ## The requests present -/

structure SubmittedRequest where
  element : ElementId
  tag : UInt64
deriving DecidableEq

namespace SubmittedReqCall

/-- By tag, the first request a search of the whole list meets; else the oldest. -/
def returned (present : List SubmittedRequest) : SubmittedReqCall → Option SubmittedRequest
  | .insert _ _ => none
  | .removeByTag tag => present.find? fun request => request.tag == tag
  | .removeHead => present.head?

def remaining (present : List SubmittedRequest) : SubmittedReqCall → List SubmittedRequest
  | .insert element value => present ++ [⟨element, value.tag⟩]
  | .removeByTag tag =>
      (returned present (.removeByTag tag)).elim present fun request => present.erase request
  | .removeHead => (returned present .removeHead).elim present fun request => present.erase request

/-- The element to insert is not present, and no present element has its tag. -/
def distinct (present : List SubmittedRequest) : SubmittedReqCall → Bool
  | .insert element value =>
      present.all fun request => request.element != element && request.tag != value.tag
  | _ => true

/-- What the calls return and leave, by the list alone. -/
def history : List SubmittedRequest → List SubmittedReqCall →
    List (Option SubmittedRequest) × List SubmittedRequest
  | present, [] => ([], present)
  | present, call :: rest =>
      let later := history (call.remaining present) rest
      (call.returned present :: later.1, later.2)

def allDistinct : List SubmittedRequest → List SubmittedReqCall → Bool
  | _, [] => true
  | present, call :: rest => call.distinct present && allDistinct (call.remaining present) rest

end SubmittedReqCall

/-- The submitted list chains the requests present, oldest first, and each bucket
the requests with its tags, newest first; elements and tags are there once. -/
structure FaithfulIndex (requests : SubmittedReqs) (present : List SubmittedRequest) : Prop where
  elementsOnce : (present.map (·.element)).Nodup
  tagsOnce : (present.map (·.tag)).Nodup
  tagged : ∀ request ∈ present, ∃ value,
    requests.heap request.element = some value ∧ value.tag = request.tag
  listed : requests.links.Ring .submittedReqListHead
    (present.map fun request => .link request.element)
  chained : ∀ bucket, bucket < 256 → requests.links.Ring (.submittedReqHashBuckets bucket)
    ((present.filter fun request => wnbdSubmittedReqBucket request.tag == bucket).reverse.map
      fun request => .hashLink request.element)

/-! ## The queue model over a history -/

/-- The queue model's lists hold the requests present. -/
structure HoldsPresent (queues : DeviceQueues) (present : List SubmittedRequest) : Prop where
  elementsOnce : (present.map (·.element)).Nodup
  tagsOnce : (present.map (·.tag)).Nodup
  tagged : ∀ request ∈ present, ∃ value,
    queues.heap request.element = some value ∧ value.tag = request.tag
  listed : queues.submittedReqList = present.map (·.element)
  chained : ∀ bucket, queues.submittedReqHashBuckets bucket =
    (present.filter fun request => wnbdSubmittedReqBucket request.tag == bucket).reverse.map
      (·.element)

section History

variable {queues : DeviceQueues} {present : List SubmittedRequest} {request : SubmittedRequest}

theorem HoldsPresent.bucketOf_eq (holds : HoldsPresent queues present)
    (member : request ∈ present) :
    bucketOf queues.heap request.element = wnbdSubmittedReqBucket request.tag := by
  obtain ⟨value, stored, same⟩ := holds.tagged request member
  rw [bucketOf, stored, ← same]

theorem HoldsPresent.index (holds : HoldsPresent queues present) :
    HashIndex.Indexes (bucketOf queues.heap) queues.submittedReqList
      queues.submittedReqHashBuckets := by
  intro bucket
  have hashed : (queues.submittedReqList.filter fun element =>
      bucketOf queues.heap element = bucket) =
      (present.filter fun request => wnbdSubmittedReqBucket request.tag == bucket).map
        (·.element) := by
    rw [holds.listed, List.filter_map]
    refine congrArg _ (List.filter_congr fun request member => ?_)
    rw [Function.comp_apply, holds.bucketOf_eq member]
    rfl
  rw [holds.chained, hashed]
  exact (List.reverse_perm _).map _

/-- The bucket's chain and the whole list hold the same request with a tag. -/
theorem HoldsPresent.find (holds : HoldsPresent queues present) (tag : UInt64) :
    queues.findSubmittedByTag tag =
      (present.find? fun request => request.tag == tag).map (·.element) := by
  have tagOf : ∀ request ∈ present,
      ((queues.heap request.element).any fun value => value.tag == tag) = (request.tag == tag) := by
    intro request member
    obtain ⟨value, stored, same⟩ := holds.tagged request member
    rw [stored, ← same]
    rfl
  have walked : queues.findSubmittedByTag tag = queues.submittedReqList.find? fun element =>
      (queues.heap element).any fun value => value.tag == tag := by
    refine holds.index.find?_eq _ _ ?_ ?_
    · rw [holds.listed]
      intro element member wanted
      obtain ⟨request, present, rfl⟩ := List.mem_map.mp member
      rw [tagOf request present, beq_iff_eq] at wanted
      rw [holds.bucketOf_eq present, wanted]
    · rw [holds.listed]
      intro element member other otherMember wanted otherWanted
      obtain ⟨request, present, rfl⟩ := List.mem_map.mp member
      obtain ⟨otherRequest, otherPresent, rfl⟩ := List.mem_map.mp otherMember
      rw [tagOf request present, beq_iff_eq] at wanted
      rw [tagOf otherRequest otherPresent, beq_iff_eq] at otherWanted
      rw [List.inj_on_of_nodup_map holds.tagsOnce present otherPresent
        (wanted.trans otherWanted.symm)]
  rw [walked, holds.listed, List.find?_map]
  refine congrArg _ (List.find?_congr fun request member => ?_)
  exact tagOf request member

theorem distinct_insert (element : ElementId) (value : SrbQueueElement)
    (distinct : (SubmittedReqCall.insert element value).distinct present = true) :
    (∀ request ∈ present, request.element ≠ element) ∧
      ∀ request ∈ present, request.tag ≠ value.tag := by
  rw [SubmittedReqCall.distinct, List.all_eq_true] at distinct
  refine ⟨fun request member => ?_, fun request member => ?_⟩
  · have both := distinct request member
    rw [Bool.and_eq_true, bne_iff_ne] at both
    exact both.1
  · have both := distinct request member
    rw [Bool.and_eq_true, bne_iff_ne, bne_iff_ne] at both
    exact both.2

theorem HoldsPresent.setElement (holds : HoldsPresent queues present) (element : ElementId)
    (value : SrbQueueElement) (absent : ∀ request ∈ present, request.element ≠ element) :
    HoldsPresent { queues with heap := Function.update queues.heap element (some value) }
      present where
  elementsOnce := holds.elementsOnce
  tagsOnce := holds.tagsOnce
  tagged request member := by
    obtain ⟨stored, found, same⟩ := holds.tagged request member
    exact ⟨stored, (Function.update_of_ne (absent request member) _ _).trans found, same⟩
  listed := holds.listed
  chained := holds.chained

theorem nodup_concat_map {β : Type} (field : SubmittedRequest → β)
    (once : (present.map field).Nodup) (absent : ∀ other ∈ present, field other ≠ field request) :
    ((present ++ [request]).map field).Nodup := by
  rw [List.map_append, List.nodup_append]
  refine ⟨once, List.nodup_singleton _, fun first member second single => ?_⟩
  obtain ⟨other, listed, rfl⟩ := List.mem_map.mp member
  rw [List.map_singleton, List.mem_singleton] at single
  rw [single]
  exact absent other listed

theorem HoldsPresent.insert (holds : HoldsPresent queues present)
    (request : SubmittedRequest) {value : SrbQueueElement}
    (stored : queues.heap request.element = some value) (tag : value.tag = request.tag)
    (newElement : ∀ other ∈ present, other.element ≠ request.element)
    (newTag : ∀ other ∈ present, other.tag ≠ request.tag) :
    HoldsPresent (queues.wnbdSubmittedReqInsert request.element) (present ++ [request]) := by
  have own : bucketOf queues.heap request.element = wnbdSubmittedReqBucket request.tag := by
    rw [bucketOf, stored, ← tag]
  refine ⟨nodup_concat_map _ holds.elementsOnce newElement,
    nodup_concat_map _ holds.tagsOnce newTag, fun other member => ?_, ?_, fun bucket => ?_⟩
  · rcases List.mem_append.mp member with before | single
    · exact holds.tagged other before
    · rw [List.mem_singleton.mp single]
      exact ⟨value, stored, tag⟩
  · rw [List.map_append, ← holds.listed]
    rfl
  · rw [List.filter_append, List.reverse_append, List.map_append, ← holds.chained]
    by_cases same : bucket = bucketOf queues.heap request.element
    · rw [same, insert_bucket_self, List.filter_cons_of_pos (by rw [own]; exact beq_self_eq_true _)]
      rfl
    · rw [own] at same
      rw [insert_bucket_of_ne _ _ _ (own ▸ same), List.filter_cons_of_neg]
      · rfl
      · rw [beq_iff_eq]
        exact Ne.symm same

theorem HoldsPresent.unlink (holds : HoldsPresent queues present) (member : request ∈ present) :
    HoldsPresent (queues.unlinkSubmitted request.element) (present.erase request) := by
  have own := holds.bucketOf_eq member
  have once : present.Nodup := holds.elementsOnce.of_map _
  have fewer : (present.erase request).Sublist present := List.erase_sublist
  refine ⟨holds.elementsOnce.sublist (fewer.map _), holds.tagsOnce.sublist (fewer.map _),
    fun other listed => holds.tagged other (fewer.subset listed), ?_, fun bucket => ?_⟩
  · rw [← HashIndex.erase_map (·.element) holds.elementsOnce member, ← holds.listed]
    rfl
  · rw [← List.erase_filter]
    by_cases same : bucket = bucketOf queues.heap request.element
    · have chained : request ∈
          (present.filter fun other => wnbdSubmittedReqBucket other.tag == bucket).reverse := by
        rw [List.mem_reverse, List.mem_filter, same, own]
        exact ⟨member, beq_self_eq_true _⟩
      have chain : (present.filter fun other => wnbdSubmittedReqBucket other.tag == bucket).Sublist
          present := List.filter_sublist
      have chainOnce := holds.elementsOnce.sublist (chain.map (·.element))
      rw [← HashIndex.erase_reverse (once.filter _), ← HashIndex.erase_map (·.element) _ chained,
        ← holds.chained, same]
      · exact unlink_bucket_self queues request.element
      · rw [List.map_reverse]
        exact List.nodup_reverse.mpr chainOnce
    · rw [unlink_bucket_of_ne _ _ _ same, holds.chained, List.erase_of_not_mem]
      rw [List.mem_filter, beq_iff_eq]
      exact fun hashed => same (hashed.2.symm.trans own.symm)

end History

/-! ## Memory over a history -/

theorem FaithfulIndex.of_queues {requests : SubmittedReqs} {queues : DeviceQueues}
    {present : List SubmittedRequest} (rep : Represents requests queues)
    (holds : HoldsPresent queues present) : FaithfulIndex requests present where
  elementsOnce := holds.elementsOnce
  tagsOnce := holds.tagsOnce
  tagged := rep.heap ▸ holds.tagged
  listed := by
    have ring := rep.listed
    rw [holds.listed, List.map_map] at ring
    exact ring
  chained bucket valid := by
    have ring := rep.chained bucket valid
    rw [holds.chained, List.map_map] at ring
    exact ring

theorem Represents.setElement {requests : SubmittedReqs} {queues : DeviceQueues}
    (rep : Represents requests queues) (element : ElementId) (value : SrbQueueElement) :
    Represents (requests.setElement element value)
      { queues with heap := Function.update queues.heap element (some value) } where
  heap := by rw [← rep.heap]; rfl
  listed := rep.listed
  chained := rep.chained

/-- One call does to memory what it does to the list of the requests present. -/
theorem call_step {requests : SubmittedReqs} {queues : DeviceQueues}
    {present : List SubmittedRequest} (rep : Represents requests queues)
    (holds : HoldsPresent queues present) (call : SubmittedReqCall) {fuel : Nat}
    (enough : present.length < fuel) (distinct : call.distinct present = true) :
    ∃ after queuesAfter,
      requests.call fuel call = some ((call.returned present).map (·.element), after) ∧
        Represents after queuesAfter ∧ HoldsPresent queuesAfter (call.remaining present) := by
  have taken : ∀ request ∈ present,
      Represents (requests.unlink request.element) (queues.unlinkSubmitted request.element) ∧
        HoldsPresent (queues.unlinkSubmitted request.element) (present.erase request) := by
    intro request member
    refine ⟨rep.unlink holds.index ?_, holds.unlink member⟩
    rw [holds.listed]
    exact List.mem_map_of_mem member
  cases call with
  | insert element value =>
      obtain ⟨newElement, newTag⟩ := distinct_insert element value distinct
      have written := holds.setElement element value newElement
      have stored : Function.update queues.heap element (some value) element = some value :=
        Function.update_self ..
      refine ⟨_, _, rfl, (rep.setElement element value).insert written.index ?_,
        written.insert ⟨element, value.tag⟩ stored rfl newElement newTag⟩
      rw [written.listed]
      intro member
      obtain ⟨request, listed, same⟩ := List.mem_map.mp member
      exact newElement request listed same
  | removeByTag tag =>
      have short : (queues.submittedReqHashBuckets (wnbdSubmittedReqBucket tag)).length < fuel := by
        rw [holds.chained, List.length_map, List.length_reverse]
        exact (List.length_filter_le _ _).trans_lt enough
      have removed := rep.removeByTag tag short
      rw [holds.find] at removed
      cases found : present.find? fun request => request.tag == tag with
      | none =>
          rw [found] at removed
          refine ⟨_, _, ?_, rep, ?_⟩
          · rw [SubmittedReqCall.returned, found]
            exact removed
          · rw [SubmittedReqCall.remaining, SubmittedReqCall.returned, found]
            exact holds
      | some request =>
          rw [found] at removed
          obtain ⟨repAfter, holdsAfter⟩ := taken request (List.mem_of_find?_eq_some found)
          refine ⟨_, _, ?_, repAfter, ?_⟩
          · rw [SubmittedReqCall.returned, found]
            exact removed
          · rw [SubmittedReqCall.remaining, SubmittedReqCall.returned, found]
            exact holdsAfter
  | removeHead =>
      have removed := rep.removeHead
      rw [holds.listed, List.head?_map] at removed
      cases present with
      | nil => exact ⟨_, _, congrArg some removed, rep, holds⟩
      | cons request rest =>
          obtain ⟨repAfter, holdsAfter⟩ := taken request List.mem_cons_self
          exact ⟨_, _, congrArg some removed, repAfter, holdsAfter⟩

theorem remaining_length (call : SubmittedReqCall) (present : List SubmittedRequest) :
    (call.remaining present).length ≤ present.length + 1 := by
  have erased : ∀ found : Option SubmittedRequest,
      (found.elim present fun request => present.erase request).length ≤ present.length + 1 := by
    intro found
    cases found with
    | none => exact Nat.le_succ _
    | some request => exact List.length_erase_le.trans (Nat.le_succ _)
  cases call with
  | insert element value => exact le_of_eq List.length_append
  | removeByTag tag => exact erased _
  | removeHead => exact erased _

theorem calls_step {requests : SubmittedReqs} {queues : DeviceQueues}
    {present : List SubmittedRequest} (rep : Represents requests queues)
    (holds : HoldsPresent queues present) (calls : List SubmittedReqCall) {fuel : Nat}
    (enough : present.length + calls.length ≤ fuel)
    (distinct : SubmittedReqCall.allDistinct present calls = true) :
    ∃ after, requests.calls fuel calls =
        some ((SubmittedReqCall.history present calls).1.map (Option.map (·.element)), after) ∧
      FaithfulIndex after (SubmittedReqCall.history present calls).2 := by
  induction calls generalizing requests queues present with
  | nil => exact ⟨requests, rfl, FaithfulIndex.of_queues rep holds⟩
  | cons call rest hypothesis =>
      rw [SubmittedReqCall.allDistinct, Bool.and_eq_true] at distinct
      rw [List.length_cons] at enough
      have short : present.length < fuel := by omega
      have grown := remaining_length call present
      have shorter : (call.remaining present).length + rest.length ≤ fuel := by omega
      obtain ⟨next, queuesNext, called, repNext, holdsNext⟩ :=
        call_step rep holds call short distinct.1
      obtain ⟨after, ran, faithful⟩ := hypothesis repNext holdsNext shorter distinct.2
      refine ⟨after, ?_, faithful⟩
      rw [SubmittedReqs.calls, called, Option.bind_some, ran]
      rfl

/-! ## Main result -/

/-- From any memory, initialized: the calls return what they return on the list of
the requests present, and the list and the buckets hold exactly these requests. -/
theorem submitted_tag_hash_faithful (memory : SubmittedReqs) (calls : List SubmittedReqCall)
    (fuel : Nat) (enough : calls.length ≤ fuel)
    (distinct : SubmittedReqCall.allDistinct [] calls = true) :
    ∃ after, memory.initialized.calls fuel calls =
        some ((SubmittedReqCall.history [] calls).1.map (Option.map (·.element)), after) ∧
      FaithfulIndex after (SubmittedReqCall.history [] calls).2 := by
  let empty : DeviceQueues :=
    { heap := memory.heap, srbElementPool := [], pendingReqList := [], submittedReqList := []
      submittedReqHashBuckets := fun _ => [], lost := [] }
  have rep : Represents memory.initialized empty :=
    represents_initialized memory empty rfl rfl fun _ => rfl
  have holds : HoldsPresent empty [] :=
    { elementsOnce := List.nodup_nil
      tagsOnce := List.nodup_nil
      tagged := fun _ member => absurd member List.not_mem_nil
      listed := rfl
      chained := fun _ => rfl }
  exact calls_step rep holds calls (by rwa [List.length_nil, Nat.zero_add]) distinct

def submittedWith (tag : UInt64) : SrbQueueElement :=
  { SrbQueueElement.zeroed true with tag }

/-- Memory in which every entry points to the list head. -/
def blankRequests : SubmittedReqs :=
  { heap := fun _ => none
    links := ⟨fun _ => .submittedReqListHead, fun _ => .submittedReqListHead⟩ }

/-- Tags 1 and 257 collide; the older of the two is removed by its tag. -/
theorem submitted_tag_hash_faithful_colliding :
    ∃ after, blankRequests.initialized.calls 5 [.insert 7 (submittedWith 1),
        .insert 8 (submittedWith 257), .removeByTag 2, .removeByTag 1, .removeHead] =
          some ([none, none, none, some 7, some 8], after) ∧ FaithfulIndex after [] :=
  submitted_tag_hash_faithful blankRequests [.insert 7 (submittedWith 1),
    .insert 8 (submittedWith 257), .removeByTag 2, .removeByTag 1, .removeHead] 5 (by decide) (by decide)

end Wnbd.Device
