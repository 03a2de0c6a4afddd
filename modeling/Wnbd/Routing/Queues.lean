import Wnbd.Routing.Registry

/-!
# The queues of one device between calls

What the lists and the bucket chains of a device hold: each element once, with an SRB,
neither aborted nor completed, and the submitted ones with tags of their own.  Every
call changes them by one of four moves.
-/

set_option autoImplicit false

namespace Wnbd.Routing

open Wnbd.Scsi Wnbd.Dispatch Wnbd.Device HashIndex DeviceQueues

/-- An element with this tag and SRB is on the submitted list. -/
def Submitted (queues : DeviceQueues) (tag : UInt64) (srb : SrbId) : Prop :=
  ∃ element ∈ queues.submittedReqList, ∃ stored, queues.heap element = some stored ∧
    stored.tag = tag ∧ stored.srb = some srb

/-- A queued element and its SRB. -/
structure Holds (queues : DeviceQueues) (ledger : SrbLedger) (element : ElementId)
    (stored : SrbQueueElement) (srb : SrbId) : Prop where
  heap : queues.heap element = some stored
  carries : stored.srb = some srb
  aborted : stored.aborted = false
  completed : stored.completed = false
  issued : srb < ledger.issued

structure QueueInv (queues : DeviceQueues) (requestHandle : UInt64) (ledger : SrbLedger) : Prop where
  once : (queues.pendingReqList ++ queues.submittedReqList).Nodup
  holds : ∀ element ∈ queues.pendingReqList ++ queues.submittedReqList,
    ∃ stored srb, Holds queues ledger element stored srb
  tags : ∀ tag srb, Submitted queues tag srb → tag.toNat ≤ requestHandle.toNat
  tagsOnce : ∀ element ∈ queues.submittedReqList, ∀ other ∈ queues.submittedReqList,
    ∀ stored otherStored, queues.heap element = some stored →
      queues.heap other = some otherStored → stored.tag = otherStored.tag → element = other
  commands : ∀ tag srb, Submitted queues tag srb → (ledger.srbs srb).cdb.isSome = true
  index : Indexes (bucketOf queues.heap) queues.submittedReqList queues.submittedReqHashBuckets

theorem queueInv_empty (requestHandle : UInt64) (ledger : SrbLedger) :
    QueueInv emptyQueues requestHandle ledger where
  once := List.nodup_nil
  holds _ member := absurd member List.not_mem_nil
  tags _ _ submitted := by
    obtain ⟨_, member, _⟩ := submitted
    exact absurd member List.not_mem_nil
  tagsOnce _ member := absurd member List.not_mem_nil
  commands _ _ submitted := by
    obtain ⟨_, member, _⟩ := submitted
    exact absurd member List.not_mem_nil
  index := indexes_nil _

/-- SRBs are issued, reported and written, and keep their commands. -/
structure LedgerGrows (before after : SrbLedger) : Prop where
  issued : before.issued ≤ after.issued
  commands : ∀ srb, srb < before.issued → (after.srbs srb).cdb = (before.srbs srb).cdb

section Moves

variable {queues : DeviceQueues} {requestHandle : UInt64} {ledger later : SrbLedger}

theorem QueueInv.pending_holds (inv : QueueInv queues requestHandle ledger) {element : ElementId}
    (member : element ∈ queues.pendingReqList) :
    ∃ stored srb, Holds queues ledger element stored srb :=
  inv.holds element (List.mem_append_left _ member)

theorem QueueInv.submitted_holds (inv : QueueInv queues requestHandle ledger)
    {element : ElementId} (member : element ∈ queues.submittedReqList) :
    ∃ stored srb, Holds queues ledger element stored srb :=
  inv.holds element (List.mem_append_right _ member)

theorem QueueInv.submitted_issued (inv : QueueInv queues requestHandle ledger) {tag : UInt64}
    {srb : SrbId} (submitted : Submitted queues tag srb) : srb < ledger.issued := by
  obtain ⟨element, member, stored, heap, _, carries⟩ := submitted
  obtain ⟨found, other, held⟩ := inv.submitted_holds member
  have same : stored = found := Option.some.inj (heap.symm.trans held.heap)
  have sameSrb : srb = other := Option.some.inj (carries.symm.trans (same ▸ held.carries))
  rw [sameSrb]
  exact held.issued

theorem QueueInv.grow (inv : QueueInv queues requestHandle ledger)
    (grows : LedgerGrows ledger later) : QueueInv queues requestHandle later where
  once := inv.once
  holds element member := by
    obtain ⟨stored, srb, held⟩ := inv.holds element member
    exact ⟨stored, srb, held.heap, held.carries, held.aborted, held.completed,
      lt_of_lt_of_le held.issued grows.issued⟩
  tags := inv.tags
  tagsOnce := inv.tagsOnce
  commands tag srb submitted := by
    rw [grows.commands srb (inv.submitted_issued submitted)]
    exact inv.commands tag srb submitted
  index := inv.index

theorem QueueInv.raise {higher : UInt64} (inv : QueueInv queues requestHandle ledger)
    (le : requestHandle.toNat ≤ higher.toNat) : QueueInv queues higher ledger :=
  { inv with tags := fun tag srb submitted => (inv.tags tag srb submitted).trans le }

theorem QueueInv.pend (inv : QueueInv queues requestHandle ledger) (element : ElementId)
    (stored : SrbQueueElement) (srb : SrbId) (unused : queues.heap element = none)
    (carries : stored.srb = some srb) (aborted : stored.aborted = false)
    (completed : stored.completed = false) (issued : srb < ledger.issued) :
    QueueInv { queues with
        heap := Function.update queues.heap element (some stored)
        pendingReqList := queues.pendingReqList ++ [element] } requestHandle ledger ∧
      ∀ tag found, Submitted { queues with
        heap := Function.update queues.heap element (some stored)
        pendingReqList := queues.pendingReqList ++ [element] } tag found ↔
          Submitted queues tag found := by
  have absent : ∀ other ∈ queues.pendingReqList ++ queues.submittedReqList, other ≠ element := by
    intro other member same
    obtain ⟨_, _, held⟩ := inv.holds other member
    rw [same] at held
    cases unused.symm.trans held.heap
  have heapOf : ∀ other ∈ queues.pendingReqList ++ queues.submittedReqList,
      Function.update queues.heap element (some stored) other = queues.heap other :=
    fun other member => Function.update_of_ne (absent other member) _ _
  have sameSubmitted : ∀ tag found, Submitted { queues with
      heap := Function.update queues.heap element (some stored)
      pendingReqList := queues.pendingReqList ++ [element] } tag found ↔
        Submitted queues tag found := by
    intro tag found
    refine exists_congr fun other => and_congr_right fun member => exists_congr fun value => ?_
    dsimp only
    rw [heapOf other (List.mem_append_right _ member)]
  refine ⟨⟨?_, ?_, ?_, ?_, ?_, ?_⟩, sameSubmitted⟩
  · have moved : (queues.pendingReqList ++ [element] ++ queues.submittedReqList).Perm
        (element :: (queues.pendingReqList ++ queues.submittedReqList)) := by
      rw [List.append_assoc]
      exact List.perm_middle
    exact moved.nodup_iff.mpr (List.nodup_cons.mpr
      ⟨fun member => absent element member rfl, inv.once⟩)
  · intro other member
    dsimp only at member
    by_cases own : other = element
    · subst own
      exact ⟨stored, srb, Function.update_self .., carries, aborted, completed, issued⟩
    · have old : other ∈ queues.pendingReqList ++ queues.submittedReqList := by
        rw [List.append_assoc, List.mem_append, List.mem_append, List.mem_singleton] at member
        rcases member with pending | same | submitted
        · exact List.mem_append_left _ pending
        · exact absurd same own
        · exact List.mem_append_right _ submitted
      obtain ⟨value, found, held⟩ := inv.holds other old
      exact ⟨value, found, (heapOf other old).trans held.heap, held.carries, held.aborted,
        held.completed, held.issued⟩
  · intro tag found submitted
    exact inv.tags tag found ((sameSubmitted tag found).mp submitted)
  · intro first firstMember second secondMember firstStored secondStored firstHeap secondHeap
    dsimp only at firstHeap secondHeap
    rw [heapOf first (List.mem_append_right _ firstMember)] at firstHeap
    rw [heapOf second (List.mem_append_right _ secondMember)] at secondHeap
    exact inv.tagsOnce first firstMember second secondMember firstStored secondStored firstHeap
      secondHeap
  · intro tag found submitted
    exact inv.commands tag found ((sameSubmitted tag found).mp submitted)
  · refine inv.index.congr fun other member => ?_
    dsimp only
    rw [bucketOf, bucketOf, heapOf other (List.mem_append_right _ member)]

/-- Elements leave the lists, and the heap changes only where none is left. -/
theorem QueueInv.shrink (inv : QueueInv queues requestHandle ledger) (after : DeviceQueues)
    (pending : after.pendingReqList.Sublist queues.pendingReqList)
    (submitted : after.submittedReqList.Sublist queues.submittedReqList)
    (heap : ∀ element ∈ after.pendingReqList ++ after.submittedReqList,
      after.heap element = queues.heap element)
    (index : Indexes (bucketOf queues.heap) after.submittedReqList
      after.submittedReqHashBuckets) : QueueInv after requestHandle ledger := by
  have listed := pending.append submitted
  have same : ∀ element ∈ after.submittedReqList, after.heap element = queues.heap element :=
    fun element member => heap element (List.mem_append_right _ member)
  have before : ∀ tag srb, Submitted after tag srb → Submitted queues tag srb := by
    rintro tag srb ⟨element, member, stored, found⟩
    rw [same element member] at found
    exact ⟨element, submitted.subset member, stored, found⟩
  refine ⟨listed.nodup inv.once, ?_, fun tag srb found => inv.tags tag srb (before tag srb found),
    ?_, fun tag srb found => inv.commands tag srb (before tag srb found), ?_⟩
  · intro element member
    obtain ⟨stored, srb, held⟩ := inv.holds element (listed.subset member)
    exact ⟨stored, srb, (heap element member).trans held.heap, held.carries, held.aborted,
      held.completed, held.issued⟩
  · intro element member other otherMember stored otherStored found otherFound tags
    rw [same element member] at found
    rw [same other otherMember] at otherFound
    exact inv.tagsOnce element (submitted.subset member) other (submitted.subset otherMember)
      stored otherStored found otherFound tags
  · refine index.congr fun element member => ?_
    rw [bucketOf, bucketOf, same element member]

theorem QueueInv.popPending (inv : QueueInv queues requestHandle ledger) (element : ElementId)
    (rest : List ElementId) (head : queues.pendingReqList = element :: rest)
    (value : Option SrbQueueElement) :
    QueueInv { queues with
        heap := Function.update queues.heap element value, pendingReqList := rest }
        requestHandle ledger ∧
      (∀ tag srb, Submitted { queues with
          heap := Function.update queues.heap element value, pendingReqList := rest } tag srb ↔
        Submitted queues tag srb) ∧
      element ∉ rest ++ queues.submittedReqList := by
  have once := inv.once
  rw [head, List.cons_append, List.nodup_cons] at once
  have heap : ∀ other ∈ rest ++ queues.submittedReqList,
      Function.update queues.heap element value other = queues.heap other := by
    intro other member
    have apart : other ≠ element := by
      rintro rfl
      exact once.1 member
    exact Function.update_of_ne apart _ _
  refine ⟨inv.shrink _ ?_ (List.Sublist.refl _) heap inv.index, ?_, once.1⟩
  · rw [head]
    exact List.sublist_cons_self _ _
  · intro tag srb
    refine exists_congr fun other => and_congr_right fun member => exists_congr fun stored => ?_
    dsimp only
    rw [heap other (List.mem_append_right _ member)]

theorem QueueInv.unlink (inv : QueueInv queues requestHandle ledger) (element : ElementId)
    (member : element ∈ queues.submittedReqList) (value : Option SrbQueueElement)
    (stored : SrbQueueElement) (found : queues.heap element = some stored) :
    QueueInv { queues.unlinkSubmitted element with
        heap := Function.update queues.heap element value } requestHandle ledger ∧
      ∀ tag srb, Submitted { queues.unlinkSubmitted element with
          heap := Function.update queues.heap element value } tag srb ↔
        Submitted queues tag srb ∧ tag ≠ stored.tag := by
  obtain ⟨pendingOnce, submittedOnce, disjoint⟩ := List.nodup_append.mp inv.once
  have left : ∀ other ∈ queues.pendingReqList ++ queues.submittedReqList.erase element,
      other ≠ element := by
    intro other listed same
    rcases List.mem_append.mp listed with pending | submitted
    · exact disjoint other pending element member same
    · exact (submittedOnce.mem_erase_iff.mp submitted).1 same
  have heap : ∀ other ∈ queues.pendingReqList ++ queues.submittedReqList.erase element,
      Function.update queues.heap element value other = queues.heap other :=
    fun other listed => Function.update_of_ne (left other listed) _ _
  refine ⟨inv.shrink _ (List.Sublist.refl _) (List.erase_sublist ..) heap
    (inv.index.remove element), ?_⟩
  intro tag srb
  constructor
  · rintro ⟨other, listed, otherStored, otherFound, tagged, carries⟩
    dsimp only [unlinkSubmitted] at listed otherFound
    have old : other ∈ queues.submittedReqList := (submittedOnce.mem_erase_iff.mp listed).2
    rw [heap other (List.mem_append_right _ listed)] at otherFound
    refine ⟨⟨other, old, otherStored, otherFound, tagged, carries⟩, fun same => ?_⟩
    exact left other (List.mem_append_right _ listed)
      (inv.tagsOnce other old element member otherStored stored otherFound found
        (tagged.trans same))
  · rintro ⟨⟨other, listed, otherStored, otherFound, tagged, carries⟩, different⟩
    have apart : other ≠ element := by
      rintro rfl
      rw [found, Option.some.injEq] at otherFound
      exact different (tagged.symm.trans (congrArg (·.tag) otherFound.symm))
    have kept : other ∈ queues.submittedReqList.erase element :=
      submittedOnce.mem_erase_iff.mpr ⟨apart, listed⟩
    refine ⟨other, kept, otherStored, ?_, tagged, carries⟩
    exact (heap other (List.mem_append_right _ kept)).trans otherFound

theorem QueueInv.submit (inv : QueueInv queues requestHandle ledger) (element : ElementId)
    (unlisted : element ∉ queues.pendingReqList ++ queues.submittedReqList)
    (stored : SrbQueueElement) (srb : SrbId) (held : Holds queues ledger element stored srb)
    (newTag : requestHandle.toNat < stored.tag.toNat)
    (command : (ledger.srbs srb).cdb.isSome = true) :
    QueueInv (queues.wnbdSubmittedReqInsert element) stored.tag ledger ∧
      ∀ tag found, Submitted (queues.wnbdSubmittedReqInsert element) tag found ↔
        Submitted queues tag found ∨ tag = stored.tag ∧ found = srb := by
  have submitted : ∀ tag found, Submitted (queues.wnbdSubmittedReqInsert element) tag found ↔
      Submitted queues tag found ∨ tag = stored.tag ∧ found = srb := by
    intro tag found
    constructor
    · rintro ⟨other, member, otherStored, heap, tagged, carries⟩
      rcases List.mem_append.mp member with old | new
      · exact Or.inl ⟨other, old, otherStored, heap, tagged, carries⟩
      · rw [List.mem_singleton] at new
        subst new
        have same : otherStored = stored := Option.some.inj (heap.symm.trans held.heap)
        subst same
        exact Or.inr ⟨tagged.symm, Option.some.inj (carries.symm.trans held.carries)⟩
    · rintro (⟨other, member, otherStored, found⟩ | ⟨rfl, rfl⟩)
      · exact ⟨other, List.mem_append_left _ member, otherStored, found⟩
      · exact ⟨element, List.mem_append_right _ (List.mem_singleton.mpr rfl), stored, held.heap,
          rfl, held.carries⟩
  -- The tags that are in use are below the new one.
  have below : ∀ other ∈ queues.submittedReqList, ∀ otherStored,
      queues.heap other = some otherStored → otherStored.tag ≠ stored.tag := by
    intro other member otherStored heap same
    obtain ⟨value, otherSrb, otherHeld⟩ := inv.submitted_holds member
    have bound := inv.tags value.tag otherSrb
      ⟨other, member, value, otherHeld.heap, rfl, otherHeld.carries⟩
    rw [Option.some.inj (otherHeld.heap.symm.trans heap), same] at bound
    omega
  refine ⟨⟨?_, ?_, ?_, ?_, ?_, ?_⟩, submitted⟩
  · change (queues.pendingReqList ++ (queues.submittedReqList ++ [element])).Nodup
    rw [← List.append_assoc]
    exact List.Nodup.append inv.once (List.nodup_singleton _)
      (List.disjoint_singleton.mpr unlisted)
  · intro other member
    change other ∈ queues.pendingReqList ++ (queues.submittedReqList ++ [element]) at member
    rw [← List.append_assoc, List.mem_append, List.mem_singleton] at member
    rcases member with old | rfl
    · obtain ⟨value, found, otherHeld⟩ := inv.holds other old
      exact ⟨value, found, otherHeld.heap, otherHeld.carries, otherHeld.aborted,
        otherHeld.completed, otherHeld.issued⟩
    · exact ⟨stored, srb, held.heap, held.carries, held.aborted, held.completed, held.issued⟩
  · intro tag found isSubmitted
    rcases (submitted tag found).mp isSubmitted with old | ⟨rfl, _⟩
    · exact (inv.tags tag found old).trans newTag.le
    · exact Nat.le_refl _
  · intro first firstMember second secondMember firstStored secondStored firstHeap secondHeap tags
    rcases List.mem_append.mp firstMember with oldFirst | newFirst
    · rcases List.mem_append.mp secondMember with oldSecond | newSecond
      · exact inv.tagsOnce first oldFirst second oldSecond firstStored secondStored firstHeap
          secondHeap tags
      · rw [List.mem_singleton.mp newSecond] at secondHeap
        rw [← Option.some.inj (held.heap.symm.trans secondHeap)] at tags
        exact absurd tags (below first oldFirst firstStored firstHeap)
    · rcases List.mem_append.mp secondMember with oldSecond | newSecond
      · rw [List.mem_singleton.mp newFirst] at firstHeap
        rw [← Option.some.inj (held.heap.symm.trans firstHeap)] at tags
        exact absurd tags.symm (below second oldSecond secondStored secondHeap)
      · rw [List.mem_singleton.mp newFirst, List.mem_singleton.mp newSecond]
  · intro tag found isSubmitted
    rcases (submitted tag found).mp isSubmitted with old | ⟨_, rfl⟩
    · exact inv.commands tag found old
    · exact command
  · exact inv.index.insert element

/-- The bucket of a tag and the whole list hold the same element with it. -/
theorem QueueInv.find_iff (inv : QueueInv queues requestHandle ledger) (tag : UInt64)
    (element : ElementId) :
    queues.findSubmittedByTag tag = some element ↔
      element ∈ queues.submittedReqList ∧ ∃ stored, queues.heap element = some stored ∧
        stored.tag = tag := by
  have wanted : ∀ listed ∈ queues.submittedReqList,
      ((queues.heap listed).any (fun value => value.tag == tag) = true ↔
        ∃ stored, queues.heap listed = some stored ∧ stored.tag = tag) := by
    intro listed member
    obtain ⟨stored, srb, held⟩ := inv.submitted_holds member
    rw [held.heap, Option.any_some, beq_iff_eq]
    simp
  have unique : ∀ listed ∈ queues.submittedReqList, ∀ other ∈ queues.submittedReqList,
      (queues.heap listed).any (fun value => value.tag == tag) = true →
        (queues.heap other).any (fun value => value.tag == tag) = true → listed = other := by
    intro listed member other otherMember isWanted otherWanted
    obtain ⟨stored, heap, tagged⟩ := (wanted listed member).mp isWanted
    obtain ⟨otherStored, otherHeap, otherTagged⟩ := (wanted other otherMember).mp otherWanted
    exact inv.tagsOnce listed member other otherMember stored otherStored heap otherHeap
      (tagged.trans otherTagged.symm)
  have walked : queues.findSubmittedByTag tag = queues.submittedReqList.find? fun listed =>
      (queues.heap listed).any fun value => value.tag == tag := by
    refine inv.index.find?_eq _ _ (fun listed member isWanted => ?_) unique
    obtain ⟨stored, heap, tagged⟩ := (wanted listed member).mp isWanted
    rw [bucketOf, heap]
    exact congrArg wnbdSubmittedReqBucket tagged
  rw [walked]
  constructor
  · intro found
    have member := List.mem_of_find?_eq_some found
    have isWanted := List.find?_some found
    exact ⟨member, (wanted element member).mp isWanted⟩
  · rintro ⟨member, stored⟩
    have isWanted := (wanted element member).mpr stored
    cases search : queues.submittedReqList.find? fun listed =>
        (queues.heap listed).any fun value => value.tag == tag with
    | none => exact absurd isWanted (List.find?_eq_none.mp search element member)
    | some other =>
        have otherWanted := List.find?_some search
        rw [unique other (List.mem_of_find?_eq_some search) element member otherWanted isWanted]

end Moves

end Wnbd.Routing
