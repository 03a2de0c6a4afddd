import Wnbd.Device.Machine
import Wnbd.Foundation.ListEntry

/-!
# The submitted requests in memory

`WnbdSubmittedReqInsert`, `WnbdSubmittedReqRemoveByTag` and
`WnbdSubmittedReqRemoveHead` down to single links.  Memory represents the queues
of the device model when each of its rings chains what the matching list holds,
and the three functions then do to memory what the model's operations do to the
lists.
-/

set_option autoImplicit false

namespace Wnbd.Device

open Wnbd.Dispatch DeviceQueues

/-! ## Memory -/

/-- The list entries that submitted requests are threaded through. -/
inductive SubmittedLink
  | submittedReqListHead
  | submittedReqHashBuckets (bucket : UInt64)
  | link (element : ElementId)
  | hashLink (element : ElementId)
deriving DecidableEq

structure SubmittedReqs where
  heap : ElementId → Option SrbQueueElement
  links : ListEntries SubmittedLink

namespace SubmittedReqs

def wnbdInitSubmittedReqHash (requests : SubmittedReqs) : SubmittedReqs :=
  { requests with
    links := (List.range 256).foldl (fun links index =>
      links.initializeListHead (.submittedReqHashBuckets (UInt64.ofNat index))) requests.links }

/-- What creating a device does to the list and to the buckets. -/
def initialized (requests : SubmittedReqs) : SubmittedReqs :=
  wnbdInitSubmittedReqHash
    { requests with links := requests.links.initializeListHead .submittedReqListHead }

def setElement (requests : SubmittedReqs) (element : ElementId) (value : SrbQueueElement) :
    SubmittedReqs :=
  { requests with heap := Function.update requests.heap element (some value) }

def wnbdSubmittedReqInsert (requests : SubmittedReqs) (element : ElementId) : SubmittedReqs :=
  { requests with
    links := (requests.links.insertTailList .submittedReqListHead (.link element)).insertHeadList
      (.submittedReqHashBuckets (bucketOf requests.heap element)) (.hashLink element) }

/-- The test in the loop, on the element that contains the entry. -/
def hasTag (heap : ElementId → Option SrbQueueElement) (tag : UInt64) : SubmittedLink → Bool
  | .hashLink element => (heap element).any fun value => value.tag == tag
  | _ => false

def unlink (requests : SubmittedReqs) (element : ElementId) : SubmittedReqs :=
  { requests with
    links := (requests.links.removeEntryList (.link element)).removeEntryList (.hashLink element) }

/-- `none` while the loop over the bucket still runs after `fuel` entries. -/
def wnbdSubmittedReqRemoveByTag (fuel : Nat) (requests : SubmittedReqs) (tag : UInt64) :
    Option (Option ElementId × SubmittedReqs) :=
  let bucket := SubmittedLink.submittedReqHashBuckets (wnbdSubmittedReqBucket tag)
  (requests.links.search bucket (hasTag requests.heap tag) fuel
      (requests.links.flink bucket)).map fun
    | some (.hashLink element) => (some element, requests.unlink element)
    | _ => (none, requests)

def wnbdSubmittedReqRemoveHead (requests : SubmittedReqs) : Option ElementId × SubmittedReqs :=
  if requests.links.isListEmpty .submittedReqListHead then (none, requests)
  else
    match requests.links.removeHeadList .submittedReqListHead with
    | (.link element, links) =>
        (some element, { requests with links := links.removeEntryList (.hashLink element) })
    | (_, links) => (none, { requests with links })

end SubmittedReqs

/-! ## Representation of the queues -/

theorem wnbdSubmittedReqBucket_lt (tag : UInt64) : wnbdSubmittedReqBucket tag < 256 := by
  rw [UInt64.lt_iff_toNat_lt, wnbdSubmittedReqBucket, UInt64.toNat_and]
  exact Nat.lt_succ_of_le Nat.and_le_right

theorem bucketOf_lt (heap : ElementId → Option SrbQueueElement) (element : ElementId) :
    bucketOf heap element < 256 := by
  unfold bucketOf
  split
  · exact wnbdSubmittedReqBucket_lt _
  · decide

/-- The rings in memory chain the queue model's lists. -/
structure Represents (requests : SubmittedReqs) (queues : DeviceQueues) : Prop where
  heap : requests.heap = queues.heap
  listed : requests.links.Ring .submittedReqListHead (queues.submittedReqList.map .link)
  chained : ∀ bucket, bucket < 256 → requests.links.Ring (.submittedReqHashBuckets bucket)
    ((queues.submittedReqHashBuckets bucket).map .hashLink)

section Rings

variable {elements others : List ElementId} {element : ElementId} {bucket other : UInt64}

theorem link_mem_map : SubmittedLink.link element ∈ elements.map SubmittedLink.link ↔
    element ∈ elements :=
  List.mem_map_of_injective fun _ _ same => SubmittedLink.link.inj same

theorem hashLink_mem_map : SubmittedLink.hashLink element ∈ elements.map SubmittedLink.hashLink ↔
    element ∈ elements :=
  List.mem_map_of_injective fun _ _ same => SubmittedLink.hashLink.inj same

theorem list_apart (elements others : List ElementId) (bucket : UInt64) :
    ∀ shared ∈ SubmittedLink.submittedReqListHead :: elements.map SubmittedLink.link,
      shared ∉ SubmittedLink.submittedReqHashBuckets bucket :: others.map SubmittedLink.hashLink := by
  intro shared member again
  simp only [List.mem_cons, List.mem_map] at member again
  rcases member with rfl | ⟨_, _, rfl⟩ <;> rcases again with same | ⟨_, _, same⟩ <;> cases same

theorem buckets_apart (different : bucket ≠ other)
    (apart : ∀ element ∈ elements, element ∉ others) :
    ∀ shared ∈ SubmittedLink.submittedReqHashBuckets bucket :: elements.map SubmittedLink.hashLink,
      shared ∉ SubmittedLink.submittedReqHashBuckets other :: others.map SubmittedLink.hashLink := by
  intro shared member again
  simp only [List.mem_cons, List.mem_map] at member again
  rcases member with rfl | ⟨element, member, rfl⟩ <;> rcases again with same | ⟨_, listed, same⟩
  · exact different (SubmittedLink.submittedReqHashBuckets.inj same)
  · cases same
  · cases same
  · exact apart element member (SubmittedLink.hashLink.inj same ▸ listed)

/-- Removing the entry of a chained element leaves the ring without it. -/
theorem removeEntryList_ring {links : ListEntries SubmittedLink} {listHead : SubmittedLink}
    (entryOf : ElementId → SubmittedLink) (ring : links.Ring listHead (elements.map entryOf))
    (member : element ∈ elements) :
    (links.removeEntryList (entryOf element)).Ring listHead
      ((elements.erase element).map entryOf) := by
  obtain ⟨front, back, notFront, split, erased⟩ := List.exists_erase_eq member
  rw [erased, List.map_append]
  refine ring.remove ?_
  rw [split, List.map_append]
  rfl

end Rings

section Buckets

variable (queues : DeviceQueues) (element : ElementId) (bucket : UInt64)

theorem insert_bucket_self :
    (queues.wnbdSubmittedReqInsert element).submittedReqHashBuckets (bucketOf queues.heap element) =
      element :: queues.submittedReqHashBuckets (bucketOf queues.heap element) :=
  Function.update_self ..

theorem insert_bucket_of_ne (different : bucket ≠ bucketOf queues.heap element) :
    (queues.wnbdSubmittedReqInsert element).submittedReqHashBuckets bucket =
      queues.submittedReqHashBuckets bucket :=
  Function.update_of_ne different _ _

theorem unlink_bucket_self :
    (queues.unlinkSubmitted element).submittedReqHashBuckets (bucketOf queues.heap element) =
      (queues.submittedReqHashBuckets (bucketOf queues.heap element)).erase element :=
  Function.update_self ..

theorem unlink_bucket_of_ne (different : bucket ≠ bucketOf queues.heap element) :
    (queues.unlinkSubmitted element).submittedReqHashBuckets bucket =
      queues.submittedReqHashBuckets bucket :=
  Function.update_of_ne different _ _

end Buckets

section Operations

variable {requests : SubmittedReqs} {queues : DeviceQueues} {element : ElementId}

theorem absent_bucket
    (index : HashIndex.Indexes (bucketOf queues.heap) queues.submittedReqList
      queues.submittedReqHashBuckets)
    (absent : element ∉ queues.submittedReqList) (bucket : UInt64) :
    element ∉ queues.submittedReqHashBuckets bucket := fun member =>
  absent ((HashIndex.mem_bucket_iff _ _ _ index bucket element).mp member).1

theorem other_bucket
    (index : HashIndex.Indexes (bucketOf queues.heap) queues.submittedReqList
      queues.submittedReqHashBuckets)
    {bucket other : UInt64} (different : bucket ≠ other) :
    ∀ element ∈ queues.submittedReqHashBuckets bucket,
      element ∉ queues.submittedReqHashBuckets other := by
  intro element member again
  have inBucket := (HashIndex.mem_bucket_iff _ _ _ index bucket element).mp member
  have inOther := (HashIndex.mem_bucket_iff _ _ _ index other element).mp again
  exact different (inBucket.2.symm.trans inOther.2)

theorem Represents.insert (rep : Represents requests queues)
    (index : HashIndex.Indexes (bucketOf queues.heap) queues.submittedReqList
      queues.submittedReqHashBuckets)
    (absent : element ∉ queues.submittedReqList) :
    Represents (requests.wnbdSubmittedReqInsert element) (queues.wnbdSubmittedReqInsert element) := by
  have linkOutside : SubmittedLink.link element ∉
      SubmittedLink.submittedReqListHead :: queues.submittedReqList.map SubmittedLink.link := by
    rw [List.mem_cons, link_mem_map]
    rintro (same | member)
    · cases same
    · exact absent member
  have hashOutside : ∀ bucket, SubmittedLink.hashLink element ∉
      SubmittedLink.submittedReqHashBuckets bucket ::
        (queues.submittedReqHashBuckets bucket).map SubmittedLink.hashLink := by
    intro bucket
    rw [List.mem_cons, hashLink_mem_map]
    rintro (same | member)
    · cases same
    · exact absent_bucket index absent bucket member
  have hashOff : ∀ entries : List ElementId, SubmittedLink.hashLink element ∉
      SubmittedLink.submittedReqListHead :: entries.map SubmittedLink.link := by
    intro entries member
    simp at member
  have linkOff : ∀ bucket (entries : List ElementId), SubmittedLink.link element ∉
      SubmittedLink.submittedReqHashBuckets bucket :: entries.map SubmittedLink.hashLink := by
    intro bucket entries member
    simp at member
  -- the two insertions, the list first
  have listed := rep.listed.insertTail linkOutside
  have chained : ∀ bucket, bucket < 256 →
      (requests.links.insertTailList .submittedReqListHead (.link element)).Ring
        (.submittedReqHashBuckets bucket)
        ((queues.submittedReqHashBuckets bucket).map .hashLink) := fun bucket valid =>
    rep.listed.insertTail_apart (rep.chained bucket valid) (linkOff bucket _)
      (list_apart _ _ bucket)
  have own := chained _ (bucketOf_lt queues.heap element)
  have links : (requests.wnbdSubmittedReqInsert element).links =
      (requests.links.insertTailList .submittedReqListHead (.link element)).insertHeadList
        (.submittedReqHashBuckets (bucketOf queues.heap element)) (.hashLink element) := by
    rw [← rep.heap]
    rfl
  have grown : (queues.wnbdSubmittedReqInsert element).submittedReqList.map SubmittedLink.link =
      queues.submittedReqList.map SubmittedLink.link ++ [SubmittedLink.link element] :=
    List.map_append
  refine ⟨rep.heap, ?_, fun bucket valid => ?_⟩
  · rw [links]
    rw [← grown] at listed
    exact own.insertHead_apart listed (hashOff _) fun shared inBucket inList =>
      list_apart _ _ _ shared inList inBucket
  · rw [links]
    by_cases same : bucket = bucketOf queues.heap element
    · subst same
      rw [insert_bucket_self, List.map_cons]
      exact own.insertHead (hashOutside _)
    · rw [insert_bucket_of_ne _ _ _ same]
      exact own.insertHead_apart (chained bucket valid) (hashOutside bucket)
        (buckets_apart (Ne.symm same) (other_bucket index (Ne.symm same)))

theorem Represents.unlink (rep : Represents requests queues)
    (index : HashIndex.Indexes (bucketOf queues.heap) queues.submittedReqList
      queues.submittedReqHashBuckets)
    (member : element ∈ queues.submittedReqList) :
    Represents (requests.unlink element) (queues.unlinkSubmitted element) := by
  have hashed : element ∈ queues.submittedReqHashBuckets (bucketOf queues.heap element) :=
    (HashIndex.mem_bucket_iff _ _ _ index _ element).mpr ⟨member, rfl⟩
  have linkMember : SubmittedLink.link element ∈
      SubmittedLink.submittedReqListHead :: queues.submittedReqList.map SubmittedLink.link :=
    List.mem_cons_of_mem _ (link_mem_map.mpr member)
  have shrunk := removeEntryList_ring .link rep.listed member
  have chained : ∀ bucket, bucket < 256 →
      (requests.links.removeEntryList (.link element)).Ring (.submittedReqHashBuckets bucket)
        ((queues.submittedReqHashBuckets bucket).map .hashLink) := fun bucket valid =>
    rep.listed.remove_apart (rep.chained bucket valid) linkMember (list_apart _ _ bucket)
  have own := chained _ (bucketOf_lt queues.heap element)
  have hashMember := List.mem_cons_of_mem
    (SubmittedLink.submittedReqHashBuckets (bucketOf queues.heap element))
    (hashLink_mem_map.mpr hashed)
  refine ⟨rep.heap, ?_, fun bucket valid => ?_⟩
  · exact own.remove_apart shrunk hashMember fun shared inBucket inList =>
      list_apart _ _ _ shared inList inBucket
  · by_cases same : bucket = bucketOf queues.heap element
    · subst same
      rw [unlink_bucket_self]
      exact removeEntryList_ring .hashLink own hashed
    · rw [unlink_bucket_of_ne _ _ _ same]
      exact own.remove_apart (chained bucket valid) hashMember
        (buckets_apart (Ne.symm same) (other_bucket index (Ne.symm same)))

theorem Represents.removeByTag (rep : Represents requests queues) (tag : UInt64) {fuel : Nat}
    (enough : (queues.submittedReqHashBuckets (wnbdSubmittedReqBucket tag)).length < fuel) :
    requests.wnbdSubmittedReqRemoveByTag fuel tag = some
      (queues.findSubmittedByTag tag,
        (queues.findSubmittedByTag tag).elim requests requests.unlink) := by
  have ring := rep.chained _ (wnbdSubmittedReqBucket_lt tag)
  have walked := ring.search (SubmittedReqs.hasTag requests.heap tag)
    ((List.length_map _).trans_lt enough)
  have found : ((queues.submittedReqHashBuckets (wnbdSubmittedReqBucket tag)).map
      SubmittedLink.hashLink).find? (SubmittedReqs.hasTag requests.heap tag) =
      (queues.findSubmittedByTag tag).map SubmittedLink.hashLink := by
    rw [List.find?_map, rep.heap]
    rfl
  rw [SubmittedReqs.wnbdSubmittedReqRemoveByTag, walked, found]
  cases queues.findSubmittedByTag tag <;> rfl

theorem Represents.removeHead (rep : Represents requests queues) :
    requests.wnbdSubmittedReqRemoveHead =
      (queues.submittedReqList.head?,
        queues.submittedReqList.head?.elim requests requests.unlink) := by
  have ring := rep.listed
  have empty := ring.isListEmpty_iff
  rw [SubmittedReqs.wnbdSubmittedReqRemoveHead]
  cases listed : queues.submittedReqList with
  | nil =>
      rw [if_pos (empty.mpr (by rw [listed]; rfl))]
      rfl
  | cons first rest =>
      rw [listed, List.map_cons] at ring empty
      rw [if_neg fun isEmpty => List.cons_ne_nil _ _ (empty.mp isEmpty), ring.removeHead]
      rfl

theorem represents_initialized (requests : SubmittedReqs) (queues : DeviceQueues)
    (heap : requests.heap = queues.heap) (noRequests : queues.submittedReqList = [])
    (noBuckets : ∀ bucket, queues.submittedReqHashBuckets bucket = []) :
    Represents requests.initialized queues := by
  have buckets : requests.initialized.links =
      ((List.range 256).map fun index =>
        SubmittedLink.submittedReqHashBuckets (UInt64.ofNat index)).foldl
          ListEntries.initializeListHead
          (requests.links.initializeListHead .submittedReqListHead) := by
    rw [List.foldl_map, SubmittedReqs.initialized, SubmittedReqs.wnbdInitSubmittedReqHash]
  refine ⟨heap, ?_, fun bucket valid => ?_⟩
  · rw [buckets, noRequests]
    exact (ListEntries.ring_initialized _ _).initialize_all _
  · rw [buckets, noBuckets]
    refine ListEntries.ring_initialize_all _ (List.mem_map.mpr ⟨bucket.toNat, ?_, ?_⟩)
    · exact List.mem_range.mpr (UInt64.lt_iff_toNat_lt.mp valid)
    · rw [UInt64.ofNat_toNat]

end Operations

end Wnbd.Device
