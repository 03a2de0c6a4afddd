import Mathlib.Tactic

/-!
# Programs that consume exactly a grammar

A program on a state with unread symbols is exact for a grammar when it succeeds
on the states whose unread symbols start with a word of the grammar, gives the
word's value and leaves what follows the word.  The rules compose grammars the
way the program composes.
-/

set_option autoImplicit false

namespace ExactParser

variable {σ ε τ α β : Type}

def Succeeds (program : StateT σ (Except ε) α) (start : σ) (value : α) (finish : σ) : Prop :=
  program start = .ok (value, finish)

theorem succeeds_pure {found value : α} {start finish : σ} :
    Succeeds (pure found : StateT σ (Except ε) α) start value finish ↔
      found = value ∧ start = finish := by
  change (Except.ok (found, start) : Except ε (α × σ)) = .ok (value, finish) ↔ _
  rw [Except.ok.injEq, Prod.mk.injEq]

theorem succeeds_bind {program : StateT σ (Except ε) α} {next : α → StateT σ (Except ε) β}
    {start finish : σ} {value : β} :
    Succeeds (program >>= next) start value finish ↔
      ∃ found middle, Succeeds program start found middle ∧
        Succeeds (next found) middle value finish := by
  change Except.bind (program start) (fun both => next both.1 both.2) = .ok (value, finish) ↔ _
  constructor
  · intro succeeded
    cases ran : program start with
    | error error =>
        rw [ran] at succeeded
        cases succeeded
    | ok both =>
        rw [ran] at succeeded
        exact ⟨both.1, both.2, ran, succeeded⟩
  · rintro ⟨found, middle, first, second⟩
    rw [first]
    exact second

/-- A test in front of the program. -/
theorem succeeds_reject {condition : Prop} [Decidable condition] {error : ε}
    {program : StateT σ (Except ε) α} {start finish : σ} {value : α} :
    Succeeds (if condition then throw error else program) start value finish ↔
      ¬ condition ∧ Succeeds program start value finish := by
  by_cases rejected : condition
  · rw [if_pos rejected]
    refine iff_of_false (fun succeeded => ?_) fun both => both.1 rejected
    cases succeeded
  · rw [if_neg rejected]
    exact (and_iff_right rejected).symm

/-- A grammar relates words to their values. -/
abbrev Grammar (τ α : Type) : Type := List τ → α → Prop

namespace Grammar

def nothing (value : α) : Grammar τ α := fun word found => word = [] ∧ value = found

def never : Grammar τ α := fun _ _ => False

/-- A word of the first grammar and one of the grammar its value selects. -/
def andThen (first : Grammar τ α) (second : α → Grammar τ β) : Grammar τ β := fun word value =>
  ∃ front back found, word = front ++ back ∧ first front found ∧ second found back value

end Grammar

structure Exact (unread : σ → List τ) (grammar : Grammar τ α)
    (program : StateT σ (Except ε) α) : Prop where
  sound : ∀ start value finish, Succeeds program start value finish →
    ∃ word, grammar word value ∧ unread start = word ++ unread finish
  complete : ∀ start word value rest, grammar word value → unread start = word ++ rest →
    ∃ finish, Succeeds program start value finish ∧ unread finish = rest

section Rules

variable {unread : σ → List τ}

theorem Exact.pure (value : α) :
    Exact unread (Grammar.nothing value) (Pure.pure value : StateT σ (Except ε) α) := by
  constructor
  · intro start found finish succeeded
    obtain ⟨same, stays⟩ := succeeds_pure.mp succeeded
    exact ⟨[], ⟨rfl, same⟩, by rw [stays, List.nil_append]⟩
  · rintro start word found rest ⟨rfl, same⟩ split
    exact ⟨start, succeeds_pure.mpr ⟨same, rfl⟩, split⟩

theorem Exact.fail {program : StateT σ (Except ε) α}
    (fails : ∀ start value finish, ¬ Succeeds program start value finish) :
    Exact unread Grammar.never program :=
  ⟨fun start value finish succeeded => absurd succeeded (fails start value finish),
    fun _ _ _ _ none => none.elim⟩

theorem Exact.throw (error : ε) :
    Exact unread Grammar.never (MonadExcept.throw error : StateT σ (Except ε) α) :=
  Exact.fail fun _ _ _ succeeded => by cases succeeded

theorem Exact.bind {program : StateT σ (Except ε) α} {next : α → StateT σ (Except ε) β}
    {first : Grammar τ α} {second : α → Grammar τ β} (exactFirst : Exact unread first program)
    (exactSecond : ∀ value, Exact unread (second value) (next value)) :
    Exact unread (first.andThen second) (program >>= next) := by
  constructor
  · intro start value finish succeeded
    obtain ⟨found, middle, ranFirst, ranSecond⟩ := succeeds_bind.mp succeeded
    obtain ⟨front, wordFront, splitFront⟩ := exactFirst.sound start found middle ranFirst
    obtain ⟨back, wordBack, splitBack⟩ := (exactSecond found).sound middle value finish ranSecond
    refine ⟨front ++ back, ⟨front, back, found, rfl, wordFront, wordBack⟩, ?_⟩
    rw [splitFront, splitBack, List.append_assoc]
  · rintro start word value rest ⟨front, back, found, rfl, wordFront, wordBack⟩ split
    rw [List.append_assoc] at split
    obtain ⟨middle, ranFirst, left⟩ := exactFirst.complete start front found _ wordFront split
    obtain ⟨finish, ranSecond, rested⟩ :=
      (exactSecond found).complete middle back value rest wordBack left
    exact ⟨finish, succeeds_bind.mpr ⟨found, middle, ranFirst, ranSecond⟩, rested⟩

/-- The same words under another description. -/
theorem Exact.describe {program : StateT σ (Except ε) α} {grammar description : Grammar τ α}
    (exact : Exact unread grammar program)
    (same : ∀ word value, grammar word value ↔ description word value) :
    Exact unread description program := by
  constructor
  · intro start value finish succeeded
    obtain ⟨word, parsed, split⟩ := exact.sound start value finish succeeded
    exact ⟨word, (same word value).mp parsed, split⟩
  · intro start word value rest parsed split
    exact exact.complete start word value rest ((same word value).mpr parsed) split

/-- A program that consumes nothing may come first. -/
theorem Exact.after {program : StateT σ (Except ε) α} {next : α → StateT σ (Except ε) β}
    {found : α} {grammar : Grammar τ β} (silent : Exact unread (Grammar.nothing found) program)
    (exact : Exact unread grammar (next found)) : Exact unread grammar (program >>= next) := by
  constructor
  · intro start value finish succeeded
    obtain ⟨other, middle, ranFirst, ranSecond⟩ := succeeds_bind.mp succeeded
    obtain ⟨_, ⟨rfl, rfl⟩, splitFirst⟩ := silent.sound start other middle ranFirst
    obtain ⟨word, parsed, split⟩ := exact.sound middle value finish ranSecond
    exact ⟨word, parsed, splitFirst.trans split⟩
  · intro start word value rest parsed split
    obtain ⟨middle, ranFirst, left⟩ := silent.complete start [] found (unread start) ⟨rfl, rfl⟩ rfl
    obtain ⟨finish, ranSecond, rested⟩ :=
      exact.complete middle word value rest parsed (left.trans split)
    exact ⟨finish, succeeds_bind.mpr ⟨found, middle, ranFirst, ranSecond⟩, rested⟩

theorem Exact.ite {condition : Prop} [Decidable condition] {yes no : StateT σ (Except ε) α}
    {first second : Grammar τ α} (exactYes : condition → Exact unread first yes)
    (exactNo : ¬ condition → Exact unread second no) :
    Exact unread (fun word value => if condition then first word value else second word value)
      (if condition then yes else no) := by
  split
  · exact exactYes ‹_›
  · exact exactNo ‹_›

/-- A word that a success starts with is the one it consumed. -/
theorem Exact.consumed {program : StateT σ (Except ε) α} {grammar : Grammar τ α}
    (exact : Exact unread grammar program) {start finish : σ} {value found : α}
    {word rest : List τ} (succeeded : Succeeds program start value finish)
    (parsed : grammar word found) (split : unread start = word ++ rest) :
    value = found ∧ unread finish = rest := by
  obtain ⟨other, ranOther, left⟩ := exact.complete start word found rest parsed split
  have same := ranOther.symm.trans succeeded
  rw [Except.ok.injEq, Prod.mk.injEq] at same
  exact ⟨same.1.symm, same.2 ▸ left⟩

end Rules

end ExactParser
