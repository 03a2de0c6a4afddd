import Mathlib.Tactic

/-!
# Rings of list entries

Circular doubly linked lists threaded through their members: the head is an entry
of the ring itself, and each entry holds a forward and a backward link.  The
operations assign single links, in the order of the C macros; `Ring` says which
entries a head leads to, and each operation is an edit of that list.  Rings that
share no entry do not disturb each other.
-/

set_option autoImplicit false

/-- The links of all entries in memory. -/
structure ListEntries (ι : Type) where
  flink : ι → ι
  blink : ι → ι

namespace ListEntries

variable {ι : Type} [DecidableEq ι]

/-! ## Operations -/

def setFlink (links : ListEntries ι) (entry target : ι) : ListEntries ι :=
  { links with flink := Function.update links.flink entry target }

def setBlink (links : ListEntries ι) (entry target : ι) : ListEntries ι :=
  { links with blink := Function.update links.blink entry target }

def initializeListHead (links : ListEntries ι) (listHead : ι) : ListEntries ι :=
  (links.setFlink listHead listHead).setBlink listHead listHead

def isListEmpty (links : ListEntries ι) (listHead : ι) : Bool := links.flink listHead = listHead

def insertTailList (links : ListEntries ι) (listHead entry : ι) : ListEntries ι :=
  let prevEntry := links.blink listHead
  (((links.setFlink entry listHead).setBlink entry prevEntry).setFlink prevEntry entry).setBlink
    listHead entry

def insertHeadList (links : ListEntries ι) (listHead entry : ι) : ListEntries ι :=
  let nextEntry := links.flink listHead
  (((links.setFlink entry nextEntry).setBlink entry listHead).setBlink nextEntry entry).setFlink
    listHead entry

def removeEntryList (links : ListEntries ι) (entry : ι) : ListEntries ι :=
  let nextEntry := links.flink entry
  let prevEntry := links.blink entry
  (links.setFlink prevEntry nextEntry).setBlink nextEntry prevEntry

def removeHeadList (links : ListEntries ι) (listHead : ι) : ι × ListEntries ι :=
  let entry := links.flink listHead
  let nextEntry := links.flink entry
  (entry, (links.setFlink listHead nextEntry).setBlink nextEntry listHead)

/-- The loop over the entries of a list, up to the first one wanted; `none` while
it still walks after `fuel` entries. -/
def search (links : ListEntries ι) (listHead : ι) (wanted : ι → Bool) :
    Nat → ι → Option (Option ι)
  | 0, _ => none
  | fuel + 1, entry =>
      if entry = listHead then some none
      else if wanted entry then some (some entry)
      else search links listHead wanted fuel (links.flink entry)

/-! ## Chains of links -/

section Chains

omit [DecidableEq ι]

/-- The two entries are linked both ways. -/
def Adjacent (links : ListEntries ι) (entry next : ι) : Prop :=
  links.flink entry = next ∧ links.blink next = entry

/-- A chain reads the forward links of all entries but the last, and the backward
links of all but the first. -/
theorem chain_frame {before after : ListEntries ι} {entries : List ι}
    (chain : entries.IsChain before.Adjacent)
    (flinks : ∀ entry ∈ entries.dropLast, after.flink entry = before.flink entry)
    (blinks : ∀ entry ∈ entries.tail, after.blink entry = before.blink entry) :
    entries.IsChain after.Adjacent := by
  induction entries with
  | nil => exact .nil
  | cons first rest hypothesis =>
      cases rest with
      | nil => exact .singleton first
      | cons second rest =>
          rw [List.isChain_cons_cons] at chain ⊢
          obtain ⟨⟨forward, backward⟩, later⟩ := chain
          rw [List.dropLast_cons_cons] at flinks
          refine ⟨⟨?_, ?_⟩, hypothesis later (fun entry member => ?_) fun entry member => ?_⟩
          · rw [flinks first List.mem_cons_self, forward]
          · rw [blinks second List.mem_cons_self, backward]
          · exact flinks entry (List.mem_cons_of_mem first member)
          · exact blinks entry (List.mem_cons_of_mem second member)

/-- A place in a chain where two entries meet that are met nowhere else. -/
structure Seam (front : List ι) (prev next : ι) (back : List ι) : Prop where
  prevFront : prev ∉ front
  prevBack : prev ∉ (next :: back).dropLast
  nextFront : next ∉ (front ++ [prev]).tail
  nextBack : next ∉ back

theorem Seam.of_split {entries front back : List ι} {prev next : ι}
    (split : entries = front ++ prev :: next :: back) (sources : entries.dropLast.Nodup)
    (targets : entries.tail.Nodup) : Seam front prev next back := by
  have dropped : entries.dropLast = front ++ prev :: (next :: back).dropLast := by
    rw [split, List.dropLast_append_of_ne_nil (by simp), List.dropLast_cons_cons]
  have tailed : entries.tail = (front ++ [prev]).tail ++ next :: back := by
    rw [split, ← List.tail_append_of_ne_nil (by simp)]
    simp
  rw [dropped] at sources
  rw [tailed] at targets
  obtain ⟨-, prevOnce, prevApart⟩ := List.nodup_append.mp sources
  obtain ⟨-, nextOnce, nextApart⟩ := List.nodup_append.mp targets
  exact
    { prevFront := fun member => prevApart prev member prev List.mem_cons_self rfl
      prevBack := (List.nodup_cons.mp prevOnce).1
      nextFront := fun member => nextApart next member next List.mem_cons_self rfl
      nextBack := (List.nodup_cons.mp nextOnce).1 }

end Chains

/-- The four assignments that link an entry in between two others. -/
def linkBetween (links : ListEntries ι) (prev next entry : ι) : ListEntries ι :=
  { flink := Function.update (Function.update links.flink entry next) prev entry
    blink := Function.update (Function.update links.blink entry prev) next entry }

/-- The two assignments that link two entries past one in between. -/
def linkPast (links : ListEntries ι) (prev next : ι) : ListEntries ι :=
  { flink := Function.update links.flink prev next
    blink := Function.update links.blink next prev }

theorem insertTailList_eq (links : ListEntries ι) (listHead entry : ι) :
    links.insertTailList listHead entry =
      links.linkBetween (links.blink listHead) listHead entry := rfl

theorem insertHeadList_eq (links : ListEntries ι) (listHead entry : ι) :
    links.insertHeadList listHead entry =
      links.linkBetween listHead (links.flink listHead) entry := rfl

theorem removeEntryList_eq (links : ListEntries ι) (entry : ι) :
    links.removeEntryList entry = links.linkPast (links.blink entry) (links.flink entry) := rfl

theorem removeHeadList_eq (links : ListEntries ι) (listHead : ι) :
    links.removeHeadList listHead = (links.flink listHead,
      links.linkPast listHead (links.flink (links.flink listHead))) := rfl

section Edits

variable {links : ListEntries ι} {front back : List ι} {prev next entry : ι}

theorem chain_linkBetween (chain : (front ++ prev :: next :: back).IsChain links.Adjacent)
    (seam : Seam front prev next back) (outside : entry ∉ front ++ prev :: next :: back) :
    (front ++ prev :: entry :: next :: back).IsChain
      (links.linkBetween prev next entry).Adjacent := by
  rw [List.isChain_append_cons_cons] at chain
  obtain ⟨left, -, right⟩ := chain
  have notFront : entry ∉ front := fun member => outside (List.mem_append_left _ member)
  have notPrev : entry ≠ prev := by
    rintro rfl
    simp at outside
  have notRight : entry ∉ next :: back := fun member =>
    outside (List.mem_append_right _ (List.mem_cons_of_mem _ member))
  have notNext : entry ≠ next := by
    rintro rfl
    simp at notRight
  have flinkOf : ∀ other, other ≠ prev → other ≠ entry →
      (links.linkBetween prev next entry).flink other = links.flink other := by
    intro other first second
    exact (Function.update_of_ne first _ _).trans (Function.update_of_ne second _ _)
  have blinkOf : ∀ other, other ≠ next → other ≠ entry →
      (links.linkBetween prev next entry).blink other = links.blink other := by
    intro other first second
    exact (Function.update_of_ne first _ _).trans (Function.update_of_ne second _ _)
  rw [List.isChain_append_cons_cons, List.isChain_cons_cons]
  refine ⟨chain_frame left (fun other member => ?_) fun other member => ?_, ⟨?_, ?_⟩, ⟨?_, ?_⟩,
    chain_frame right (fun other member => ?_) fun other member => ?_⟩
  · rw [List.dropLast_concat] at member
    exact flinkOf other (fun same => seam.prevFront (same ▸ member))
      fun same => notFront (same ▸ member)
  · refine blinkOf other (fun same => seam.nextFront (same ▸ member)) fun same => ?_
    have inFront := List.mem_of_mem_tail member
    rw [same, List.mem_append, List.mem_singleton] at inFront
    exact inFront.elim notFront notPrev
  · exact Function.update_self ..
  · exact (Function.update_of_ne notNext _ _).trans (Function.update_self ..)
  · exact (Function.update_of_ne notPrev _ _).trans (Function.update_self ..)
  · exact Function.update_self ..
  · exact flinkOf other (fun same => seam.prevBack (same ▸ member))
      fun same => notRight (same ▸ List.dropLast_subset _ member)
  · exact blinkOf other (fun same => seam.nextBack (same ▸ member))
      fun same => notRight (same ▸ List.mem_cons_of_mem next member)

theorem chain_linkPast (chain : (front ++ prev :: entry :: next :: back).IsChain links.Adjacent)
    (seam : Seam front prev next back) :
    (front ++ prev :: next :: back).IsChain (links.linkPast prev next).Adjacent := by
  rw [List.isChain_append_cons_cons, List.isChain_cons_cons] at chain
  obtain ⟨left, -, -, right⟩ := chain
  rw [List.isChain_append_cons_cons]
  refine ⟨chain_frame left (fun other member => ?_) fun other member => ?_, ⟨?_, ?_⟩,
    chain_frame right (fun other member => ?_) fun other member => ?_⟩
  · rw [List.dropLast_concat] at member
    refine Function.update_of_ne ?_ _ _
    rintro rfl
    exact seam.prevFront member
  · refine Function.update_of_ne ?_ _ _
    rintro rfl
    exact seam.nextFront member
  · exact Function.update_self ..
  · exact Function.update_self ..
  · refine Function.update_of_ne ?_ _ _
    rintro rfl
    exact seam.prevBack member
  · refine Function.update_of_ne ?_ _ _
    rintro rfl
    exact seam.nextBack member

end Edits

/-! ## Rings -/

/-- The head leads to these entries in this order, each of them once, and back. -/
structure Ring (links : ListEntries ι) (listHead : ι) (entries : List ι) : Prop where
  nodup : (listHead :: entries).Nodup
  chain : (listHead :: (entries ++ [listHead])).IsChain links.Adjacent

section Ring

variable {links after : ListEntries ι} {listHead entry : ι} {entries : List ι}

omit [DecidableEq ι] in
theorem Ring.seam (ring : Ring links listHead entries) {front back : List ι} {prev next : ι}
    (split : listHead :: (entries ++ [listHead]) = front ++ prev :: next :: back) :
    Seam front prev next back := by
  refine Seam.of_split split ?_ ?_
  · rw [← List.cons_append, List.dropLast_concat]
    exact ring.nodup
  · rw [List.tail_cons, List.nodup_append_comm]
    exact ring.nodup

omit [DecidableEq ι] in
theorem Ring.frame (ring : Ring links listHead entries)
    (same : ∀ entry ∈ listHead :: entries,
      after.flink entry = links.flink entry ∧ after.blink entry = links.blink entry) :
    Ring after listHead entries := by
  refine ⟨ring.nodup, chain_frame ring.chain (fun entry member => ?_) fun entry member => ?_⟩
  · rw [← List.cons_append, List.dropLast_concat] at member
    exact (same entry member).1
  · rw [List.tail_cons, List.mem_append, List.mem_singleton] at member
    exact (same entry (List.mem_cons.mpr member.symm)).2

theorem Ring.frame_linkBetween (ring : Ring links listHead entries) {prev next : ι}
    (outside : entry ∉ listHead :: entries) (prevApart : prev ∉ listHead :: entries)
    (nextApart : next ∉ listHead :: entries) :
    Ring (links.linkBetween prev next entry) listHead entries := by
  refine ring.frame fun other member => ⟨?_, ?_⟩
  · have notPrev : other ≠ prev := fun same => prevApart (same ▸ member)
    have notEntry : other ≠ entry := fun same => outside (same ▸ member)
    exact (Function.update_of_ne notPrev _ _).trans (Function.update_of_ne notEntry _ _)
  · have notNext : other ≠ next := fun same => nextApart (same ▸ member)
    have notEntry : other ≠ entry := fun same => outside (same ▸ member)
    exact (Function.update_of_ne notNext _ _).trans (Function.update_of_ne notEntry _ _)

theorem Ring.frame_linkPast (ring : Ring links listHead entries) {prev next : ι}
    (prevApart : prev ∉ listHead :: entries) (nextApart : next ∉ listHead :: entries) :
    Ring (links.linkPast prev next) listHead entries := by
  refine ring.frame fun other member => ⟨?_, ?_⟩
  · have notPrev : other ≠ prev := fun same => prevApart (same ▸ member)
    exact Function.update_of_ne notPrev _ _
  · have notNext : other ≠ next := fun same => nextApart (same ▸ member)
    exact Function.update_of_ne notNext _ _

omit [DecidableEq ι] in
/-- An entry of a ring lies between its two neighbours. -/
theorem Ring.around (ring : Ring links listHead entries) {front back : List ι}
    (split : entries = front ++ entry :: back) :
    ∃ before prev next after, listHead :: front = before ++ [prev] ∧
      back ++ [listHead] = next :: after ∧ links.blink entry = prev ∧ links.flink entry = next := by
  obtain ⟨before, prev, lead⟩ : ∃ before prev, listHead :: front = before ++ [prev] :=
    ⟨_, _, (List.dropLast_append_getLast (List.cons_ne_nil listHead front)).symm⟩
  obtain ⟨next, after, rest⟩ : ∃ next after, back ++ [listHead] = next :: after := by
    cases back with
    | nil => exact ⟨listHead, [], rfl⟩
    | cons first others => exact ⟨first, others ++ [listHead], rfl⟩
  have path : listHead :: (entries ++ [listHead]) = before ++ prev :: entry :: next :: after := by
    rw [split, List.append_assoc, List.cons_append, rest, ← List.cons_append, lead,
      List.append_assoc]
    rfl
  have chain := ring.chain
  rw [path, List.isChain_append_cons_cons, List.isChain_cons_cons] at chain
  exact ⟨before, prev, next, after, lead, rest, chain.2.1.2, chain.2.2.1.1⟩

theorem ring_initialized (links : ListEntries ι) (listHead : ι) :
    Ring (links.initializeListHead listHead) listHead [] where
  nodup := List.nodup_singleton listHead
  chain := by
    rw [List.nil_append, List.isChain_pair]
    exact ⟨Function.update_self .., Function.update_self ..⟩

theorem Ring.initialize_apart (ring : Ring links listHead []) (other : ι) :
    Ring (links.initializeListHead other) listHead [] := by
  by_cases same : listHead = other
  · subst same
    exact ring_initialized links listHead
  · refine ring.frame fun entry member => ?_
    rw [List.mem_singleton.mp member]
    exact ⟨Function.update_of_ne same _ _, Function.update_of_ne same _ _⟩

theorem Ring.initialize_all (ring : Ring links listHead []) (heads : List ι) :
    Ring (heads.foldl initializeListHead links) listHead [] := by
  induction heads generalizing links with
  | nil => exact ring
  | cons first rest hypothesis => exact hypothesis (ring.initialize_apart first)

theorem ring_initialize_all (links : ListEntries ι) {heads : List ι} (member : listHead ∈ heads) :
    Ring (heads.foldl initializeListHead links) listHead [] := by
  induction heads generalizing links with
  | nil => cases member
  | cons first rest hypothesis =>
      rcases List.mem_cons.mp member with rfl | later
      · exact (ring_initialized links listHead).initialize_all rest
      · exact hypothesis (links.initializeListHead first) later

theorem Ring.insertTail (ring : Ring links listHead entries)
    (outside : entry ∉ listHead :: entries) :
    Ring (links.insertTailList listHead entry) listHead (entries ++ [entry]) := by
  obtain ⟨front, prev, lead⟩ : ∃ front prev, listHead :: entries = front ++ [prev] :=
    ⟨_, _, (List.dropLast_append_getLast (List.cons_ne_nil listHead entries)).symm⟩
  have path : listHead :: (entries ++ [listHead]) = front ++ prev :: listHead :: [] := by
    rw [← List.cons_append, lead, List.append_assoc]
    rfl
  have chain := ring.chain
  rw [path] at chain
  have last : links.blink listHead = prev := (List.isChain_append_cons_cons.mp chain).2.1.2
  have absent : entry ∉ front ++ prev :: listHead :: [] := by
    rw [← path, ← List.cons_append, List.mem_append, List.mem_singleton]
    rintro (member | rfl)
    · exact outside member
    · exact outside List.mem_cons_self
  refine ⟨?_, ?_⟩
  · rw [← List.cons_append, List.nodup_append_comm]
    exact List.nodup_cons.mpr ⟨outside, ring.nodup⟩
  · have linked := chain_linkBetween chain (ring.seam path) absent
    rw [insertTailList_eq, last, ← List.cons_append, ← List.cons_append, lead, List.append_assoc,
      List.append_assoc]
    exact linked

theorem Ring.insertHead (ring : Ring links listHead entries)
    (outside : entry ∉ listHead :: entries) :
    Ring (links.insertHeadList listHead entry) listHead (entry :: entries) := by
  obtain ⟨next, back, rest⟩ : ∃ next back, entries ++ [listHead] = next :: back := by
    cases entries with
    | nil => exact ⟨listHead, [], rfl⟩
    | cons first others => exact ⟨first, others ++ [listHead], rfl⟩
  have path : listHead :: (entries ++ [listHead]) = [] ++ listHead :: next :: back := by
    rw [rest]
    rfl
  have chain := ring.chain
  rw [path] at chain
  have first : links.flink listHead = next := (List.isChain_append_cons_cons.mp chain).2.1.1
  have absent : entry ∉ [] ++ listHead :: next :: back := by
    rw [← path, ← List.cons_append, List.mem_append, List.mem_singleton]
    rintro (member | rfl)
    · exact outside member
    · exact outside List.mem_cons_self
  refine ⟨(List.Perm.swap _ _ _).nodup_iff.mp (List.nodup_cons.mpr ⟨outside, ring.nodup⟩), ?_⟩
  have linked := chain_linkBetween chain (ring.seam path) absent
  rw [insertHeadList_eq, first, List.cons_append, rest]
  exact linked

theorem Ring.remove (ring : Ring links listHead entries) {front back : List ι}
    (split : entries = front ++ entry :: back) :
    Ring (links.removeEntryList entry) listHead (front ++ back) := by
  obtain ⟨before, prev, next, later, lead, rest, backward, forward⟩ := ring.around split
  have path : listHead :: (entries ++ [listHead]) = before ++ prev :: entry :: next :: later := by
    rw [split, List.append_assoc, List.cons_append, rest, ← List.cons_append, lead,
      List.append_assoc]
    rfl
  have nodup := ring.nodup
  have chain := ring.chain
  rw [path] at chain
  have enter := ring.seam path
  have leave : Seam (before ++ [prev]) entry next later := ring.seam (by rw [path]; simp)
  have seam : Seam before prev next later :=
    { prevFront := enter.prevFront
      prevBack := fun member => enter.prevBack (List.mem_cons_of_mem entry member)
      nextFront := fun member => leave.nextFront (by
        rw [List.tail_append_of_ne_nil (by simp)]
        exact List.mem_append_left _ member)
      nextBack := leave.nextBack }
  refine ⟨?_, ?_⟩
  · rw [split] at nodup
    exact nodup.sublist
      ((List.Sublist.append_left (List.sublist_cons_self entry back) front).cons_cons listHead)
  · have linked := chain_linkPast chain seam
    rw [removeEntryList_eq, backward, forward, List.append_assoc, rest, ← List.cons_append, lead,
      List.append_assoc]
    exact linked

theorem Ring.removeHead (ring : Ring links listHead (entry :: entries)) :
    links.removeHeadList listHead = (entry, links.removeEntryList entry) := by
  have chain := ring.chain
  rw [List.cons_append, List.isChain_cons_cons] at chain
  obtain ⟨⟨forward, backward⟩, -⟩ := chain
  rw [removeHeadList_eq, removeEntryList_eq, forward, backward]

omit [DecidableEq ι] in
theorem Ring.isListEmpty_iff [DecidableEq ι] (ring : Ring links listHead entries) :
    links.isListEmpty listHead = true ↔ entries = [] := by
  have chain := ring.chain
  rw [isListEmpty, decide_eq_true_iff]
  cases entries with
  | nil => exact iff_of_true (List.isChain_cons_cons.mp chain).1.1 rfl
  | cons first rest =>
      have forward := (List.isChain_cons_cons.mp chain).1.1
      refine iff_of_false (fun empty => ?_) (List.cons_ne_nil first rest)
      have headFirst : listHead = first := empty.symm.trans forward
      exact (List.nodup_cons.mp ring.nodup).1 (headFirst ▸ List.mem_cons_self)

/-! ## Other rings -/

variable {others : List ι} {otherHead : ι}

omit [DecidableEq ι] in
theorem Ring.flink_mem (ring : Ring links listHead entries) (member : entry ∈ listHead :: entries) :
    links.flink entry ∈ listHead :: entries := by
  obtain ⟨front, back, split⟩ := List.append_of_mem member
  obtain ⟨next, after, rest⟩ : ∃ next after, back ++ [listHead] = next :: after :=
    List.exists_cons_of_ne_nil (by simp)
  have chain := ring.chain
  rw [← List.cons_append, split, List.append_assoc, List.cons_append, rest] at chain
  have forward : links.flink entry = next := (List.isChain_append_cons_cons.mp chain).2.1.1
  have place : next ∈ back ++ [listHead] := by
    rw [rest]
    exact List.mem_cons_self
  rw [forward]
  rcases List.mem_append.mp place with inBack | isHead
  · rw [split]
    exact List.mem_append_right _ (List.mem_cons_of_mem _ inBack)
  · rw [List.mem_singleton.mp isHead]
    exact List.mem_cons_self

omit [DecidableEq ι] in
theorem Ring.blink_mem (ring : Ring links listHead entries) (member : entry ∈ listHead :: entries) :
    links.blink entry ∈ listHead :: entries := by
  have turned : entry ∈ entries ++ [listHead] := by
    rw [List.mem_append, List.mem_singleton]
    exact (List.mem_cons.mp member).symm
  obtain ⟨front, back, split⟩ := List.append_of_mem turned
  obtain ⟨before, prev, lead⟩ : ∃ before prev, listHead :: front = before ++ [prev] :=
    ⟨_, _, (List.dropLast_append_getLast (List.cons_ne_nil listHead front)).symm⟩
  have chain := ring.chain
  rw [split, ← List.cons_append, lead, List.append_assoc] at chain
  have backward : links.blink entry = prev := (List.isChain_append_cons_cons.mp chain).2.1.2
  have place : prev ∈ listHead :: front := by
    rw [lead]
    exact List.mem_append_right _ List.mem_cons_self
  rw [backward]
  rcases List.mem_cons.mp place with isHead | inFront
  · rw [isHead]
    exact List.mem_cons_self
  · have listed : prev ∈ entries ++ [listHead] := by
      rw [split]
      exact List.mem_append_left _ inFront
    rw [List.mem_append, List.mem_singleton] at listed
    exact List.mem_cons.mpr listed.symm

theorem Ring.insertTail_apart (ring : Ring links listHead entries)
    (other : Ring links otherHead others) (outside : entry ∉ otherHead :: others)
    (apart : ∀ shared ∈ listHead :: entries, shared ∉ otherHead :: others) :
    Ring (links.insertTailList listHead entry) otherHead others := by
  rw [insertTailList_eq]
  exact other.frame_linkBetween outside (apart _ (ring.blink_mem List.mem_cons_self))
    (apart listHead List.mem_cons_self)

theorem Ring.insertHead_apart (ring : Ring links listHead entries)
    (other : Ring links otherHead others) (outside : entry ∉ otherHead :: others)
    (apart : ∀ shared ∈ listHead :: entries, shared ∉ otherHead :: others) :
    Ring (links.insertHeadList listHead entry) otherHead others := by
  rw [insertHeadList_eq]
  exact other.frame_linkBetween outside (apart listHead List.mem_cons_self)
    (apart _ (ring.flink_mem List.mem_cons_self))

theorem Ring.remove_apart (ring : Ring links listHead entries)
    (other : Ring links otherHead others) (member : entry ∈ listHead :: entries)
    (apart : ∀ shared ∈ listHead :: entries, shared ∉ otherHead :: others) :
    Ring (links.removeEntryList entry) otherHead others := by
  rw [removeEntryList_eq]
  exact other.frame_linkPast (apart _ (ring.blink_mem member)) (apart _ (ring.flink_mem member))

/-! ## Searches -/

/-- A walk over a suffix of the ring, with more fuel than entries, is a search of
that suffix. -/
theorem Ring.search_suffix (ring : Ring links listHead entries) (wanted : ι → Bool) {fuel : ℕ} :
    ∀ {back front : List ι}, entries = front ++ back → back.length < fuel →
      links.search listHead wanted fuel ((back ++ [listHead]).head (by simp)) =
        some (back.find? wanted) := by
  induction fuel with
  | zero => exact fun _ short => absurd short (Nat.not_lt_zero _)
  | succ fuel hypothesis =>
      intro back front split enough
      cases back with
      | nil => exact if_pos rfl
      | cons first back =>
          have member : first ∈ entries := by
            rw [split]
            exact List.mem_append_right _ List.mem_cons_self
          have notHead : first ≠ listHead := by
            rintro rfl
            exact (List.nodup_cons.mp ring.nodup).1 member
          have shifted : entries = (front ++ [first]) ++ back := by
            rw [split, List.append_assoc]
            rfl
          have rest : links.search listHead wanted fuel
              ((back ++ [listHead]).head (by simp)) = some (back.find? wanted) :=
            hypothesis shifted (Nat.lt_of_succ_lt_succ enough)
          have forward : links.flink first = (back ++ [listHead]).head (by simp) := by
            obtain ⟨before, prev, next, after, -, tail, -, forward⟩ := ring.around split
            rw [forward]
            simp only [tail, List.head_cons]
          change (if first = listHead then some none
            else if wanted first then some (some first)
            else links.search listHead wanted fuel (links.flink first)) = _
          rw [if_neg notHead, forward, rest, List.find?_cons]
          cases wanted first <;> rfl

theorem Ring.search (ring : Ring links listHead entries) (wanted : ι → Bool) {fuel : ℕ}
    (enough : entries.length < fuel) :
    links.search listHead wanted fuel (links.flink listHead) = some (entries.find? wanted) := by
  have forward : links.flink listHead = (entries ++ [listHead]).head (by simp) := by
    have chain := ring.chain
    obtain ⟨next, after, rest⟩ : ∃ next after, entries ++ [listHead] = next :: after :=
      List.exists_cons_of_ne_nil (by simp)
    rw [rest] at chain
    simp only [rest, List.head_cons]
    exact (List.isChain_cons_cons.mp chain).1.1
  rw [forward]
  exact ring.search_suffix wanted (List.nil_append entries).symm enough

end Ring

end ListEntries
