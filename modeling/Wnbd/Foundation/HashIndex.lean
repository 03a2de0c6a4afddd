import Mathlib.Tactic

/-!
# Hash buckets over a list

A list of entries indexed by buckets: bucket `b` chains the entries whose hash
is `b`.  Insertion puts an entry at the head of its bucket, whatever its place
in the list; removal takes it out of both.
-/

set_option autoImplicit false

namespace HashIndex

variable {α β : Type} [DecidableEq β]

def insertHead (buckets : β → List α) (bucket : β) (entry : α) : β → List α :=
  Function.update buckets bucket (entry :: buckets bucket)

def remove [DecidableEq α] (buckets : β → List α) (bucket : β) (entry : α) : β → List α :=
  Function.update buckets bucket ((buckets bucket).erase entry)

/-- Every bucket chains exactly the list's entries with its hash. -/
def Indexes (hash : α → β) (entries : List α) (buckets : β → List α) : Prop :=
  ∀ bucket, (buckets bucket).Perm (entries.filter fun entry => hash entry = bucket)

theorem indexes_nil (hash : α → β) : Indexes hash [] fun _ => [] :=
  fun _ => List.Perm.refl _

theorem mem_bucket_iff (hash : α → β) (entries : List α) (buckets : β → List α)
    (index : Indexes hash entries buckets) (bucket : β) (entry : α) :
    entry ∈ buckets bucket ↔ entry ∈ entries ∧ hash entry = bucket := by
  rw [(index bucket).mem_iff, List.mem_filter, decide_eq_true_iff]

/-- Only the hashes of listed entries matter. -/
theorem Indexes.congr {hash changed : α → β} {entries : List α} {buckets : β → List α}
    (index : Indexes hash entries buckets)
    (same : ∀ entry ∈ entries, changed entry = hash entry) : Indexes changed entries buckets := by
  intro bucket
  have filtered : (entries.filter fun entry => changed entry = bucket) =
      entries.filter fun entry => hash entry = bucket :=
    List.filter_congr fun entry member => by rw [same entry member]
  rw [filtered]
  exact index bucket

theorem Indexes.insert {hash : α → β} {entries : List α} {buckets : β → List α}
    (index : Indexes hash entries buckets) (entry : α) :
    Indexes hash (entries ++ [entry]) (insertHead buckets (hash entry) entry) := by
  intro bucket
  rw [List.filter_append]
  by_cases own : bucket = hash entry
  · subst own
    rw [insertHead, Function.update_self]
    have single : ([entry].filter fun other => hash other = hash entry) = [entry] := by simp
    rw [single]
    exact ((index _).cons entry).trans (List.perm_append_singleton _ _).symm
  · rw [insertHead, Function.update_of_ne own]
    have none : ([entry].filter fun other => hash other = bucket) = [] := by
      simp [Ne.symm own]
    rw [none, List.append_nil]
    exact index bucket

theorem Indexes.remove [DecidableEq α] {hash : α → β} {entries : List α} {buckets : β → List α}
    (index : Indexes hash entries buckets) (entry : α) :
    Indexes hash (entries.erase entry) (remove buckets (hash entry) entry) := by
  intro bucket
  rw [List.erase_filter.symm]
  by_cases own : bucket = hash entry
  · subst own
    rw [HashIndex.remove, Function.update_self]
    exact (index _).erase entry
  · rw [HashIndex.remove, Function.update_of_ne own, List.erase_of_not_mem]
    · exact index bucket
    · rw [List.mem_filter, decide_eq_true_iff]
      exact fun member => own member.2.symm

/-- A search that finds at most one entry, in its own bucket, may walk either. -/
theorem Indexes.find?_eq {hash : α → β} {entries : List α} {buckets : β → List α}
    (index : Indexes hash entries buckets) (wanted : α → Bool) (bucket : β)
    (hashed : ∀ entry ∈ entries, wanted entry = true → hash entry = bucket)
    (unique : ∀ entry ∈ entries, ∀ other ∈ entries, wanted entry = true → wanted other = true →
      entry = other) :
    (buckets bucket).find? wanted = entries.find? wanted := by
  have chained := mem_bucket_iff hash entries buckets index bucket
  cases listed : entries.find? wanted with
  | none =>
      rw [List.find?_eq_none] at listed ⊢
      exact fun entry member => listed entry ((chained entry).mp member).1
  | some entry =>
      have member := List.mem_of_find?_eq_some listed
      have isWanted := List.find?_some listed
      have inBucket := (chained entry).mpr ⟨member, hashed entry member isWanted⟩
      cases found : (buckets bucket).find? wanted with
      | none => exact absurd isWanted (List.find?_eq_none.mp found entry inBucket)
      | some other =>
          have otherMember := ((chained other).mp (List.mem_of_find?_eq_some found)).1
          rw [unique other otherMember entry member (List.find?_some found) isWanted]

theorem erase_map [DecidableEq α] {γ : Type} [DecidableEq γ] (image : α → γ) {entries : List α}
    (nodup : (entries.map image).Nodup) {entry : α} (member : entry ∈ entries) :
    (entries.map image).erase (image entry) = (entries.erase entry).map image := by
  induction entries with
  | nil => cases member
  | cons first rest hypothesis =>
      rw [List.map_cons, List.nodup_cons] at nodup
      by_cases same : first = entry
      · subst same
        rw [List.map_cons, List.erase_cons_head, List.erase_cons_head]
      · have later : entry ∈ rest := (List.mem_cons.mp member).resolve_left (Ne.symm same)
        have different : image first ≠ image entry := fun equal =>
          nodup.1 (equal ▸ List.mem_map_of_mem later)
        rw [List.map_cons, List.erase_cons_tail (by simpa using different),
          List.erase_cons_tail (by simpa using same), List.map_cons, hypothesis nodup.2 later]

theorem erase_reverse [DecidableEq α] {entries : List α} (nodup : entries.Nodup) (entry : α) :
    entries.reverse.erase entry = (entries.erase entry).reverse := by
  rw [(List.nodup_reverse.mpr nodup).erase_eq_filter, nodup.erase_eq_filter, List.filter_reverse]

end HashIndex
