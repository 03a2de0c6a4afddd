import Mathlib.Tactic

/-!
# Systems that take one step at a time

`next state action` is the state after an enabled action.  A path is a run of
enabled actions that all meet a condition on the state they are taken in; an
invariant of the allowed steps holds all along it.
-/

set_option autoImplicit false

namespace StepSystem

variable {σ α : Type} (next : σ → α → Option σ)

def run : σ → List α → Option σ
  | state, [] => some state
  | state, action :: rest => (next state action).bind fun after => run after rest

/-- `Path next allowed start state`: some run of allowed actions leads from
`start` to `state`. -/
inductive Path (allowed : σ → α → Prop) (start : σ) : σ → Prop
  | refl : Path allowed start start
  | step {state after : σ} (action : α) (path : Path allowed start state)
      (permitted : allowed state action) (taken : next state action = some after) :
      Path allowed start after

variable {next}

/-- What holds at the start and survives every allowed step holds all along. -/
theorem Path.invariant {allowed : σ → α → Prop} {start state : σ} (inv : σ → Prop)
    (initially : inv start)
    (preserved : ∀ state action after, allowed state action → inv state →
      next state action = some after → inv after)
    (path : Path next allowed start state) : inv state := by
  induction path with
  | refl => exact initially
  | step action _ permitted taken hypothesis =>
      exact preserved _ action _ permitted hypothesis taken

theorem Path.trans {allowed : σ → α → Prop} {start middle last : σ}
    (first : Path next allowed start middle) (second : Path next allowed middle last) :
    Path next allowed start last := by
  induction second with
  | refl => exact first
  | step action _ permitted taken hypothesis => exact .step action hypothesis permitted taken

/-- What survives the steps of a run holds at its end if it holds at its start. -/
theorem invariant_of_actions (inv : σ → Prop) (actions : List α)
    (preserved : ∀ state after, ∀ action ∈ actions, inv state →
      next state action = some after → inv after)
    (start last : σ) (initially : inv start) (ran : run next start actions = some last) :
    inv last := by
  induction actions generalizing start with
  | nil =>
      cases ran
      exact initially
  | cons action rest hypothesis =>
      obtain ⟨after, taken, ranRest⟩ := Option.bind_eq_some_iff.mp ran
      have first := preserved start after action List.mem_cons_self initially taken
      apply hypothesis _ after first ranRest
      intro state after other member
      exact preserved state after other (List.mem_cons_of_mem action member)

theorem invariant_of_run (inv : σ → Prop)
    (preserved : ∀ state after action, inv state → next state action = some after → inv after)
    (actions : List α) (start last : σ) (initially : inv start)
    (ran : run next start actions = some last) : inv last :=
  invariant_of_actions inv actions (fun state after action _ => preserved state after action)
    start last initially ran

/-- Reading a field of the state a run ends in. -/
theorem field_of_run {β : Type} (field : σ → β) (start last : σ) (actions : List α) (value : β)
    (ran : run next start actions = some last)
    (computed : (run next start actions).map field = some value) : field last = value := by
  rw [ran, Option.map_some] at computed
  exact Option.some.inj computed

def AllAllowed (next : σ → α → Option σ) (allowed : σ → α → Prop) : σ → List α → Prop
  | _, [] => True
  | state, action :: rest => allowed state action ∧
      match next state action with
      | some after => AllAllowed next allowed after rest
      | none => True

instance decidableAllAllowed (next : σ → α → Option σ) (allowed : σ → α → Prop)
    [∀ state action, Decidable (allowed state action)] :
    ∀ (state : σ) (actions : List α), Decidable (AllAllowed next allowed state actions)
  | _, [] => inferInstanceAs (Decidable True)
  | state, action :: rest => by
      unfold AllAllowed
      cases next state action with
      | some after =>
          have := decidableAllAllowed next allowed after rest
          exact inferInstanceAs (Decidable (_ ∧ _))
      | none => exact inferInstanceAs (Decidable (_ ∧ True))

/-- A condition that a step keeps exactly when it is allowed holds at the end of
a run exactly when all its steps were allowed. -/
theorem clean_iff_allAllowed {allowed : σ → α → Prop} (inv clean : σ → Prop)
    (preserved : ∀ state after action, inv state → next state action = some after → inv after)
    (kept : ∀ state after action, inv state → next state action = some after →
      (clean after ↔ clean state ∧ allowed state action))
    (actions : List α) (start last : σ) (initially : inv start)
    (ran : run next start actions = some last) :
    clean last ↔ clean start ∧ AllAllowed next allowed start actions := by
  induction actions generalizing start with
  | nil =>
      cases ran
      simp only [AllAllowed, and_true]
  | cons action rest hypothesis =>
      obtain ⟨after, taken, ranRest⟩ := Option.bind_eq_some_iff.mp ran
      rw [hypothesis after (preserved start after action initially taken) ranRest,
        kept start after action initially taken, AllAllowed, taken, and_assoc]

theorem AllAllowed.mono {allowed wider : σ → α → Prop}
    (implies : ∀ state action, allowed state action → wider state action) (start : σ)
    (actions : List α) (permitted : AllAllowed next allowed start actions) :
    AllAllowed next wider start actions := by
  induction actions generalizing start with
  | nil => exact trivial
  | cons action rest hypothesis =>
      refine ⟨implies start action permitted.1, ?_⟩
      have permittedRest := permitted.2
      cases taken : next start action with
      | none => exact trivial
      | some after =>
          rw [taken] at permittedRest
          exact hypothesis after permittedRest

/-- A list of allowed actions is a path. -/
theorem path_of_run {allowed : σ → α → Prop} (start last : σ) (actions : List α)
    (permitted : AllAllowed next allowed start actions)
    (ran : run next start actions = some last) : Path next allowed start last := by
  induction actions generalizing start with
  | nil =>
      cases ran
      exact .refl
  | cons action rest hypothesis =>
      obtain ⟨after, taken, ranRest⟩ := Option.bind_eq_some_iff.mp ran
      have first : Path next allowed start after := .step action .refl permitted.1 taken
      have permittedRest := permitted.2
      rw [taken] at permittedRest
      exact first.trans (hypothesis after permittedRest ranRest)

end StepSystem
