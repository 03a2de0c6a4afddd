import Mathlib.Tactic

/-!
# A ledger of memory descriptors

A descriptor is allocated, the pages it describes may be locked and unlocked, and
it is freed.  `PageLocks` carries the two variables a caller keeps for its current
descriptor next to the ledger of what was done; `Settled` says that nothing is
open, and what a settled ledger is worth is `Settled.balanced`.
-/

set_option autoImplicit false

/-- Descriptors are numbered in the order of their allocation. -/
inductive PageEvent
  | allocated (mdl : Nat)
  | locked (mdl : Nat)
  | unlocked (mdl : Nat)
  | freed (mdl : Nat)
deriving DecidableEq

def PageEvent.mdl : PageEvent → Nat
  | .allocated mdl | .locked mdl | .unlocked mdl | .freed mdl => mdl

structure PageLocks where
  mdl : Option Nat
  bufferLocked : Bool
  allocations : Nat
  events : List PageEvent
deriving DecidableEq

namespace PageLocks

def start : PageLocks := { mdl := none, bufferLocked := false, allocations := 0, events := [] }

/-! ## Operations -/

def ioAllocateMdl (pages : PageLocks) : PageLocks :=
  { pages with
    mdl := some pages.allocations
    allocations := pages.allocations + 1
    events := pages.events ++ [.allocated pages.allocations] }

/-- An event of the current descriptor. -/
def note (pages : PageLocks) (event : Nat → PageEvent) : PageLocks :=
  { pages with events := pages.events ++ (pages.mdl.map event).toList }

def mmProbeAndLockPages (pages : PageLocks) : PageLocks :=
  { pages.note .locked with bufferLocked := true }

def mmUnlockPages (pages : PageLocks) : PageLocks := pages.note .unlocked

def ioFreeMdl (pages : PageLocks) : PageLocks := pages.note .freed

def clear (pages : PageLocks) : PageLocks := { pages with mdl := none, bufferLocked := false }

@[simp] theorem note_mdl (pages : PageLocks) (event : Nat → PageEvent) :
    (pages.note event).mdl = pages.mdl := rfl

@[simp] theorem note_bufferLocked (pages : PageLocks) (event : Nat → PageEvent) :
    (pages.note event).bufferLocked = pages.bufferLocked := rfl

@[simp] theorem note_allocations (pages : PageLocks) (event : Nat → PageEvent) :
    (pages.note event).allocations = pages.allocations := rfl

/-! ## Balance -/

/-- What is allocated is freed once, and what is locked is unlocked once, in
between; nothing else is locked, unlocked or freed. -/
structure Balanced (events : List PageEvent) : Prop where
  allocatedOnce : ∀ mdl, events.count (.allocated mdl) ≤ 1
  lockedOnce : ∀ mdl, events.count (.locked mdl) ≤ events.count (.allocated mdl)
  freed : ∀ mdl, events.count (.freed mdl) = events.count (.allocated mdl)
  unlocked : ∀ mdl, events.count (.unlocked mdl) = events.count (.locked mdl)
  order : ∀ mdl, .locked mdl ∈ events →
    [PageEvent.allocated mdl, .locked mdl, .unlocked mdl, .freed mdl].Sublist events

theorem Balanced.append {first second : List PageEvent} (balanced : Balanced first)
    (balancedSecond : Balanced second)
    (apart : ∀ event ∈ first, ∀ other ∈ second, event.mdl ≠ other.mdl) :
    Balanced (first ++ second) := by
  have absent : ∀ (events : List PageEvent) (event : PageEvent),
      (∀ other ∈ events, other.mdl ≠ event.mdl) → events.count event = 0 :=
    fun events event none => List.count_eq_zero.mpr fun member => none event member rfl
  have zero : ∀ event : PageEvent,
      (∀ other : PageEvent, other.mdl = event.mdl → first.count other = 0) ∨
        ∀ other : PageEvent, other.mdl = event.mdl → second.count other = 0 := by
    intro event
    by_cases mentioned : ∃ own ∈ first, own.mdl = event.mdl
    · obtain ⟨own, member, same⟩ := mentioned
      refine Or.inr fun other equal => absent second other fun later listed => ?_
      rw [equal, ← same]
      exact (apart own member later listed).symm
    · refine Or.inl fun other equal => absent first other fun own member => ?_
      rw [equal]
      exact fun same => mentioned ⟨own, member, same⟩
  refine ⟨fun mdl => ?_, fun mdl => ?_, fun mdl => ?_, fun mdl => ?_, fun mdl member => ?_⟩
  · have before := balanced.allocatedOnce mdl
    have after := balancedSecond.allocatedOnce mdl
    rw [List.count_append]
    rcases zero (.allocated mdl) with none | none
    · rw [none _ rfl]
      omega
    · rw [none _ rfl]
      omega
  · have before := balanced.lockedOnce mdl
    have after := balancedSecond.lockedOnce mdl
    rw [List.count_append, List.count_append]
    omega
  · rw [List.count_append, List.count_append, balanced.freed, balancedSecond.freed]
  · rw [List.count_append, List.count_append, balanced.unlocked, balancedSecond.unlocked]
  · rcases List.mem_append.mp member with before | after
    · exact (balanced.order mdl before).trans (List.sublist_append_left first second)
    · exact (balancedSecond.order mdl after).trans (List.sublist_append_right first second)

/-- The events of a descriptor whose pages were not locked, or were. -/
def life (mdl : Nat) (locked : Bool) : List PageEvent :=
  if locked then [.allocated mdl, .locked mdl, .unlocked mdl, .freed mdl]
  else [.allocated mdl, .freed mdl]

theorem mdl_of_life {mdl : Nat} {locked : Bool} {event : PageEvent}
    (member : event ∈ life mdl locked) : event.mdl = mdl := by
  cases locked <;> simp only [life, Bool.false_eq_true, if_true, if_false, List.mem_cons,
    List.not_mem_nil, or_false] at member
  · rcases member with rfl | rfl <;> rfl
  · rcases member with rfl | rfl | rfl | rfl <;> rfl

theorem balanced_life (mdl : Nat) (locked : Bool) : Balanced (life mdl locked) := by
  have counts : ∀ other, ((life mdl locked).count (.allocated other) = if mdl = other then 1 else 0) ∧
      ((life mdl locked).count (.freed other) = if mdl = other then 1 else 0) ∧
      ((life mdl locked).count (.locked other) = if mdl = other ∧ locked then 1 else 0) ∧
      (life mdl locked).count (.unlocked other) = if mdl = other ∧ locked then 1 else 0 := by
    intro other
    by_cases same : mdl = other
    · subst same
      cases locked <;> simp [life]
    · cases locked <;> simp [life, same]
  refine ⟨fun other => ?_, fun other => ?_, fun other => ?_, fun other => ?_,
    fun other member => ?_⟩
  · rw [(counts other).1]
    split <;> omega
  · rw [(counts other).1, (counts other).2.2.1]
    by_cases same : mdl = other
    · rw [if_pos same]
      split <;> omega
    · rw [if_neg same, if_neg fun both => same both.1]
  · rw [(counts other).1, (counts other).2.1]
  · rw [(counts other).2.2.1, (counts other).2.2.2]
  · have own : mdl = other := (mdl_of_life member).symm
    subst own
    cases locked with
    | true => exact List.Sublist.refl _
    | false => simp [life] at member

/-- The lives of the first descriptors, one after another. -/
inductive Lives : Nat → List PageEvent → Prop
  | nil : Lives 0 []
  | life {count : Nat} {events : List PageEvent} (lives : Lives count events) (locked : Bool) :
      Lives (count + 1) (events ++ life count locked)

theorem Lives.mdl_lt {count : Nat} {events : List PageEvent} (lives : Lives count events) :
    ∀ event ∈ events, event.mdl < count := by
  induction lives with
  | nil => exact fun _ member => absurd member List.not_mem_nil
  | @life count _ _ locked hypothesis =>
      intro event member
      rcases List.mem_append.mp member with earlier | now
      · exact Nat.lt_succ_of_lt (hypothesis event earlier)
      · rw [mdl_of_life now]
        exact Nat.lt_succ_self count

theorem Lives.balanced {count : Nat} {events : List PageEvent} (lives : Lives count events) :
    Balanced events := by
  induction lives with
  | nil => exact ⟨fun _ => Nat.zero_le 1, fun _ => le_rfl, fun _ => rfl, fun _ => rfl,
      fun _ member => absurd member List.not_mem_nil⟩
  | @life count events earlier locked hypothesis =>
      refine hypothesis.append (balanced_life count locked) fun event member other now => ?_
      rw [mdl_of_life now]
      exact (earlier.mdl_lt event member).ne

/-- No descriptor is open. -/
structure Settled (pages : PageLocks) : Prop where
  mdl : pages.mdl = none
  bufferLocked : pages.bufferLocked = false
  lives : Lives pages.allocations pages.events

/-- One descriptor is open, its pages locked as `BufferLocked` says. -/
structure Open (pages : PageLocks) : Prop where
  mdl : ∃ count events, pages.mdl = some count ∧ pages.allocations = count + 1 ∧
    Lives count events ∧
    pages.events = events ++ .allocated count :: if pages.bufferLocked then [.locked count] else []

theorem settled_start : Settled start := ⟨rfl, rfl, .nil⟩

theorem Settled.ioAllocateMdl {pages : PageLocks} (settled : Settled pages) :
    Open pages.ioAllocateMdl :=
  ⟨pages.allocations, pages.events, rfl, rfl, settled.lives, by
    rw [PageLocks.ioAllocateMdl, settled.bufferLocked]; rfl⟩

theorem Open.mmProbeAndLockPages {pages : PageLocks} (opened : Open pages)
    (unlocked : pages.bufferLocked = false) : Open pages.mmProbeAndLockPages := by
  obtain ⟨count, events, mdl, allocations, lives, same⟩ := opened.mdl
  refine ⟨count, events, mdl, allocations, lives, ?_⟩
  rw [PageLocks.mmProbeAndLockPages, note, same, mdl, unlocked]
  simp

/-- Unlocking what is locked, and freeing. -/
def release (pages : PageLocks) : PageLocks :=
  (if pages.bufferLocked then pages.mmUnlockPages else pages).ioFreeMdl

theorem Open.release {pages : PageLocks} (opened : Open pages) :
    Lives pages.release.allocations pages.release.events := by
  obtain ⟨count, events, mdl, allocations, lives, same⟩ := opened.mdl
  have next := lives.life pages.bufferLocked
  cases locked : pages.bufferLocked with
  | true =>
      rw [locked] at next
      simpa [PageLocks.release, locked, mmUnlockPages, ioFreeMdl, note, mdl, same, allocations,
        life] using next
  | false =>
      rw [locked] at next
      simpa [PageLocks.release, locked, ioFreeMdl, note, mdl, same, allocations, life] using next

theorem Open.clear {pages : PageLocks} (opened : Open pages) : Settled pages.release.clear :=
  ⟨rfl, rfl, opened.release⟩

end PageLocks
