import Mathlib.Tactic

/-!
# Walking a linked list that loses entries

An entry that is taken out of a doubly linked list keeps its own forward link,
so a walk that has started at it goes on and meets the entries that are still
linked behind it.
-/

set_option autoImplicit false

namespace LinkedList

variable {α : Type} [DecidableEq α]

def after : List α → α → Option α
  | [], _ => none
  | entry :: rest, found => if entry = found then rest.head? else after rest found

/-- The forward link of an entry: of a linked one by its place in the list, of
one that was taken out by the link it kept. -/
def flink (entries : List α) (kept : α → Option α) (entry : α) : Option α :=
  if entry ∈ entries then after entries entry else kept entry

def walk (next : α → Option α) : Option α → Nat → List α × Option α
  | none, _ => ([], none)
  | some entry, 0 => ([], some entry)
  | some entry, remaining + 1 =>
      let (met, stands) := walk next (next entry) remaining
      (entry :: met, stands)

omit [DecidableEq α] in
theorem walk_length_le (next : α → Option α) (start : Option α) (remaining : Nat) :
    (walk next start remaining).1.length ≤ remaining := by
  induction remaining generalizing start with
  | zero => cases start <;> exact Nat.le_refl 0
  | succ remaining hypothesis =>
      cases start with
      | none => exact Nat.zero_le _
      | some entry => exact Nat.succ_le_succ (hypothesis (next entry))

/-- A walk that starts at `entry` meets the entries of the list in their order. -/
inductive Covers (next : α → Option α) : Option α → List α → Prop
  | nil (entry : Option α) : Covers next entry []
  | meets {entry : α} {rest : List α} (covers : Covers next (next entry) rest) :
      Covers next (some entry) (entry :: rest)
  | skips {entry : α} {entries : List α} (covers : Covers next (next entry) entries) :
      Covers next (some entry) entries

variable {next : α → Option α} {start : Option α} {entries : List α} {kept : α → Option α}

omit [DecidableEq α] in
/-- A walk that reaches the end has met every entry it covers. -/
theorem Covers.met (covers : Covers next start entries) (remaining : Nat)
    (ended : (walk next start remaining).2 = none) :
    entries.Sublist (walk next start remaining).1 := by
  induction covers generalizing remaining with
  | nil => exact List.nil_sublist _
  | meets covers hypothesis =>
      cases remaining with
      | zero => cases ended
      | succ remaining => exact (hypothesis remaining ended).cons_cons _
  | skips covers hypothesis =>
      cases remaining with
      | zero => cases ended
      | succ remaining => exact (hypothesis remaining ended).cons _

theorem mem_of_after (entries : List α) (entry found : α)
    (linked : after entries entry = some found) : found ∈ entries := by
  induction entries with
  | nil => cases linked
  | cons first rest hypothesis =>
      rw [after] at linked
      split_ifs at linked with here
      · exact List.mem_cons_of_mem first (List.mem_of_head? linked)
      · exact List.mem_cons_of_mem first (hypothesis linked)

theorem after_append (front : List α) (entry : α) (rest : List α) (outside : entry ∉ front) :
    after (front ++ entry :: rest) entry = rest.head? := by
  induction front with
  | nil => simp [after]
  | cons first front hypothesis =>
      rw [List.mem_cons, not_or] at outside
      rw [List.cons_append, after, if_neg (Ne.symm outside.1)]
      exact hypothesis outside.2

theorem covers_head (nodup : entries.Nodup) :
    Covers (flink entries kept) entries.head? entries := by
  have suffix : ∀ rest front, entries = front ++ rest →
      Covers (flink entries kept) rest.head? rest := by
    intro rest
    induction rest with
    | nil => exact fun _ _ => .nil _
    | cons entry rest hypothesis =>
        intro front split
        have outside : entry ∉ front := fun member =>
          List.disjoint_of_nodup_append (split ▸ nodup) member List.mem_cons_self
        refine .meets ?_
        have linked : flink entries kept entry = rest.head? := by
          rw [flink, if_pos (by rw [split]; simp), split, after_append front entry rest outside]
        rw [linked]
        exact hypothesis (front ++ [entry]) (by rw [split]; simp)
  exact suffix entries [] rfl

theorem walk_head (nodup : entries.Nodup) (remaining : Nat) :
    walk (flink entries kept) entries.head? remaining =
      (entries.take remaining, (entries.drop remaining).head?) := by
  have suffix : ∀ rest front remaining, entries = front ++ rest →
      walk (flink entries kept) rest.head? remaining =
        (rest.take remaining, (rest.drop remaining).head?) := by
    intro rest
    induction rest with
    | nil =>
        intro front remaining _
        rw [List.take_nil, List.drop_nil]
        cases remaining <;> rfl
    | cons entry rest hypothesis =>
        intro front remaining split
        cases remaining with
        | zero => rfl
        | succ remaining =>
            have outside : entry ∉ front := fun member =>
              List.disjoint_of_nodup_append (split ▸ nodup) member List.mem_cons_self
            have linked : flink entries kept entry = rest.head? := by
              rw [flink, if_pos (by rw [split]; simp), split,
                after_append front entry rest outside]
            have behind := hypothesis (front ++ [entry]) remaining (by rw [split]; simp)
            rw [List.head?_cons, walk, linked, behind]
            rfl
  exact suffix entries [] remaining rfl

/-- Taking an entry out only redirects the link of the entry in front of it. -/
theorem after_erase (nodup : entries.Nodup) (removed entry : α) (different : entry ≠ removed) :
    after (entries.erase removed) entry =
      if after entries entry = some removed then after entries removed
      else after entries entry := by
  induction entries with
  | nil => simp [after]
  | cons first rest hypothesis =>
      rw [List.nodup_cons] at nodup
      by_cases removes : first = removed
      · subst removes
        have unlinked : after rest entry ≠ some first := fun linked =>
          nodup.1 (mem_of_after rest entry first linked)
        rw [List.erase_cons_head, after, if_neg (Ne.symm different), if_neg unlinked]
      · rw [List.erase_cons_tail (by simpa using removes), after, after]
        by_cases here : first = entry
        · subst here
          rw [if_pos rfl, if_pos rfl]
          cases rest with
          | nil => simp
          | cons second rest =>
              by_cases next : second = removed
              · subst next
                simp [after, removes]
              · simp [next, List.erase_cons_tail]
        · rw [if_neg here, if_neg here, hypothesis nodup.2, after, if_neg removes]

/-- The links kept by the entries taken out so far, once `removed` is one of them. -/
def keepLink (entries : List α) (kept : α → Option α) (removed : α) : α → Option α :=
  Function.update kept removed (after entries removed)

theorem flink_erase_self (nodup : entries.Nodup) (removed : α) (linked : removed ∈ entries) :
    flink (entries.erase removed) (keepLink entries kept removed) removed =
      flink entries kept removed := by
  rw [flink, if_neg nodup.not_mem_erase, keepLink, Function.update_self, flink, if_pos linked]

/-- An entry in front of the removed one takes over its link; no other link changes. -/
theorem flink_erase_of_ne (nodup : entries.Nodup) (removed entry : α) (linked : removed ∈ entries)
    (different : entry ≠ removed) :
    flink (entries.erase removed) (keepLink entries kept removed) entry =
        flink entries kept entry ∨
      flink entries kept entry = some removed ∧
        flink (entries.erase removed) (keepLink entries kept removed) entry =
          flink entries kept removed := by
  by_cases member : entry ∈ entries
  · have stays : entry ∈ entries.erase removed := nodup.mem_erase_iff.mpr ⟨different, member⟩
    rw [flink, if_pos stays, after_erase nodup removed entry different, flink, if_pos member,
      flink, if_pos linked]
    by_cases ahead : after entries entry = some removed
    · exact Or.inr ⟨ahead, if_pos ahead⟩
    · exact Or.inl (if_neg ahead)
  · refine Or.inl ?_
    rw [flink, if_neg fun stays => member (List.mem_of_mem_erase stays), keepLink,
      Function.update_of_ne different, flink, if_neg member]

/-- A walk under way still covers what is left when an entry is taken out. -/
theorem Covers.erase {found : List α} (covers : Covers (flink entries kept) start found)
    (nodup : entries.Nodup) (removed : α) (linked : removed ∈ entries) (once : found.Nodup) :
    Covers (flink (entries.erase removed) (keepLink entries kept removed)) start
      (found.erase removed) := by
  -- What a walk that stood behind `entry` covers, it covers behind the new link as well.
  have behind : ∀ entry rest, entry ≠ removed → removed ∉ rest →
      Covers (flink (entries.erase removed) (keepLink entries kept removed))
        (flink entries kept entry) rest →
      Covers (flink (entries.erase removed) (keepLink entries kept removed))
        (flink (entries.erase removed) (keepLink entries kept removed) entry) rest := by
    intro entry rest different gone old
    rcases flink_erase_of_ne nodup removed entry linked different with same | ⟨ahead, taken⟩
    · rw [same]
      exact old
    · rw [ahead] at old
      rw [taken, ← flink_erase_self nodup removed linked]
      cases old with
      | nil => exact .nil _
      | meets covers => exact absurd List.mem_cons_self gone
      | skips covers => exact covers
  induction covers with
  | nil => exact .nil _
  | @meets entry rest covers hypothesis =>
      rw [List.nodup_cons] at once
      have old := hypothesis once.2
      by_cases removes : entry = removed
      · subst removes
        rw [List.erase_cons_head]
        rw [List.erase_of_not_mem once.1] at old
        exact .skips (by rw [flink_erase_self nodup entry linked]; exact old)
      · rw [List.erase_cons_tail (by simpa using removes)]
        exact .meets (behind entry _ removes once.2.not_mem_erase old)
  | @skips entry found covers hypothesis =>
      have old := hypothesis once
      by_cases removes : entry = removed
      · subst removes
        exact .skips (by rw [flink_erase_self nodup entry linked]; exact old)
      · exact .skips (behind entry _ removes once.not_mem_erase old)

end LinkedList
