import Mathlib.Tactic

/-!
# Objects that change hands

A thread takes an object into its hands, accesses its fields, and hands it off:
from then on others may use or free it.  A trace of these events is disciplined
when no object is accessed after its hand-off, before it is taken again, and
every object taken is handed off once.  `holding` follows the object in hand and
accepts such traces of threads that hold one object at a time.
-/

set_option autoImplicit false

namespace HandOff

/-- An object is handed off by publishing it to other threads or by freeing it. -/
inductive Event (ι φ : Type)
  | taken (object : ι)
  | accessed (object : ι) (field : φ)
  | published (object : ι)
  | released (object : ι)
deriving DecidableEq

variable {ι φ : Type} [DecidableEq ι]

def Event.handsOff (object : ι) : Event ι φ → Bool
  | .published other | .released other => other = object
  | _ => false

def Event.takes (object : ι) : Event ι φ → Bool
  | .taken other => other = object
  | _ => false

/-! ## Discipline -/

def UsedAfterHandOff (events : List (Event ι φ)) : Prop :=
  ∃ before handOff middle object field after,
    events = before ++ handOff :: (middle ++ .accessed object field :: after) ∧
      handOff.handsOff object = true ∧ ∀ event ∈ middle, event.takes object = false

/-- The number of hand-offs of an object before it is taken again. -/
def handOffs (object : ι) (events : List (Event ι φ)) : Nat :=
  (events.takeWhile fun event => !event.takes object).countP (·.handsOff object)

def Unsettled (events : List (Event ι φ)) : Prop :=
  ∃ before object after, events = before ++ .taken object :: after ∧ handOffs object after ≠ 1

structure Disciplined (events : List (Event ι φ)) : Prop where
  unused : ¬ UsedAfterHandOff events
  settled : ¬ Unsettled events

theorem UsedAfterHandOff.append_right {events : List (Event ι φ)}
    (used : UsedAfterHandOff events) (later : List (Event ι φ)) :
    UsedAfterHandOff (events ++ later) := by
  obtain ⟨before, handOff, middle, object, field, after, rfl, hands, free⟩ := used
  refine ⟨before, handOff, middle, object, field, after ++ later, ?_, hands, free⟩
  rw [List.append_assoc, List.cons_append, List.append_assoc, List.cons_append]

/-! ## The object in hand -/

/-- The object in hand after an event, if the event is in order. -/
def hold : Option ι → Event ι φ → Option (Option ι)
  | none, .taken object => some (some object)
  | some held, .accessed object _ => if held = object then some (some held) else none
  | some held, .published object => if held = object then some none else none
  | some held, .released object => if held = object then some none else none
  | _, _ => none

def holding : Option ι → List (Event ι φ) → Option (Option ι)
  | hand, [] => some hand
  | hand, event :: rest => (hold hand event).bind fun next => holding next rest

theorem holding_append (hand : Option ι) (first second : List (Event ι φ)) :
    holding hand (first ++ second) =
      (holding hand first).bind fun next => holding next second := by
  induction first generalizing hand with
  | nil => rfl
  | cons event rest hypothesis =>
      rw [List.cons_append, holding, holding, Option.bind_assoc]
      exact congrArg _ (funext fun next => hypothesis next)

theorem holding_append_of {hand middle last : Option ι} {first second : List (Event ι φ)}
    (ran : holding hand first = some middle) (ranRest : holding middle second = some last) :
    holding hand (first ++ second) = some last := by
  rw [holding_append, ran, Option.bind_some, ranRest]

theorem hold_handsOff {hand next : Option ι} {event : Event ι φ} {object : ι}
    (held : hold hand event = some next) (hands : event.handsOff object = true) :
    hand = some object ∧ next = none := by
  cases event with
  | taken _ => cases hands
  | accessed _ _ => cases hands
  | published other | released other =>
      cases hand with
      | none => cases held
      | some inHand =>
          simp only [hold] at held
          split at held
          · rename_i same
            have isObject : other = object := of_decide_eq_true hands
            cases held
            exact ⟨by rw [same, isObject], rfl⟩
          · cases held

/-- An object comes into hand only by being taken. -/
theorem hold_keeps {hand : Option ι} {event : Event ι φ} {object : ι}
    (held : hold hand event = some (some object)) (untaken : event.takes object = false) :
    hand = some object := by
  cases event with
  | taken other =>
      cases hand with
      | none =>
          cases held
          exact absurd rfl (of_decide_eq_false untaken)
      | some inHand => cases held
  | accessed other field =>
      cases hand with
      | none => cases held
      | some inHand =>
          simp only [hold] at held
          split at held <;> cases held
          rfl
  | published other | released other =>
      cases hand with
      | none => cases held
      | some inHand =>
          simp only [hold] at held
          split at held <;> cases held

theorem holding_keeps {hand : Option ι} {events : List (Event ι φ)} {object : ι}
    (ran : holding hand events = some (some object))
    (untaken : ∀ event ∈ events, event.takes object = false) : hand = some object := by
  induction events generalizing hand with
  | nil => exact Option.some.inj ran
  | cons event rest hypothesis =>
      obtain ⟨next, held, ranRest⟩ := Option.bind_eq_some_iff.mp ran
      have kept := hypothesis ranRest fun later member =>
        untaken later (List.mem_cons_of_mem event member)
      rw [kept] at held
      exact hold_keeps held (untaken event List.mem_cons_self)

theorem unused_of_holding {hand last : Option ι} {events : List (Event ι φ)}
    (ran : holding hand events = some last) : ¬ UsedAfterHandOff events := by
  rintro ⟨before, handOff, middle, object, field, after, rfl, hands, free⟩
  rw [holding_append] at ran
  obtain ⟨first, _, ran⟩ := Option.bind_eq_some_iff.mp ran
  obtain ⟨second, handed, ran⟩ := Option.bind_eq_some_iff.mp ran
  rw [(hold_handsOff handed hands).2, holding_append] at ran
  obtain ⟨third, between, ran⟩ := Option.bind_eq_some_iff.mp ran
  obtain ⟨fourth, used, _⟩ := Option.bind_eq_some_iff.mp ran
  cases third with
  | none => cases used
  | some inHand =>
      simp only [hold] at used
      split at used
      · rename_i same
        subst same
        cases holding_keeps between free
      · cases used

theorem handOffs_cons (object : ι) (event : Event ι φ) (rest : List (Event ι φ)) :
    handOffs object (event :: rest) =
      if event.takes object then 0
      else handOffs object rest + if event.handsOff object then 1 else 0 := by
  rw [handOffs, List.takeWhile_cons]
  cases event.takes object
  · exact List.countP_cons
  · rfl

theorem handOffs_other {hand last : Option ι} {events : List (Event ι φ)} {object : ι}
    (ran : holding hand events = some last) (other : hand ≠ some object) :
    handOffs object events = 0 := by
  induction events generalizing hand with
  | nil => rfl
  | cons event rest hypothesis =>
      obtain ⟨next, held, ranRest⟩ := Option.bind_eq_some_iff.mp ran
      rw [handOffs_cons]
      cases taken : event.takes object with
      | true => rfl
      | false =>
          have apart : next ≠ some object := by
            rintro rfl
            exact other (hold_keeps held taken)
          have keeps : event.handsOff object = false := by
            by_contra hands
            exact other (hold_handsOff held (Bool.not_eq_false _ ▸ hands)).1
          rw [hypothesis ranRest apart, keeps]
          rfl

theorem handOffs_held {events : List (Event ι φ)} {object : ι}
    (ran : holding (some object) events = some none) : handOffs object events = 1 := by
  induction events with
  | nil => cases ran
  | cons event rest hypothesis =>
      obtain ⟨next, held, ranRest⟩ := Option.bind_eq_some_iff.mp ran
      have untaken : event.takes object = false := by
        cases event with
        | taken other => cases held
        | accessed _ _ | published _ | released _ => rfl
      rw [handOffs_cons, untaken, if_neg Bool.false_ne_true]
      cases hands : event.handsOff object with
      | true =>
          have empty := (hold_handsOff held hands).2
          rw [handOffs_other ranRest (by rw [empty]; exact (Option.some_ne_none object).symm)]
          rfl
      | false =>
          have kept : next = some object := by
            cases event with
            | taken other => cases held
            | accessed other field =>
                simp only [hold] at held
                split at held <;> cases held
                rfl
            | published other | released other =>
                simp only [hold] at held
                split at held
                · rename_i same
                  rw [same] at hands
                  exact absurd rfl (of_decide_eq_false hands)
                · cases held
          rw [kept] at ranRest
          rw [hypothesis ranRest]
          rfl

/-- A thread that follows the object in its hand, and ends with empty hands. -/
theorem disciplined_of_holding {events : List (Event ι φ)}
    (ran : holding none events = some none) : Disciplined events where
  unused := unused_of_holding ran
  settled := by
    rintro ⟨before, object, after, rfl, wrong⟩
    rw [holding_append] at ran
    obtain ⟨hand, _, ran⟩ := Option.bind_eq_some_iff.mp ran
    obtain ⟨next, held, ran⟩ := Option.bind_eq_some_iff.mp ran
    cases hand with
    | none =>
        cases held
        exact wrong (handOffs_held ran)
    | some inHand => cases held

end HandOff
