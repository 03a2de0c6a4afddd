import Mathlib.Tactic

/-!
# Synchronization events

An event that releases one waiting thread and resets itself.  Setting it while
threads wait releases one of them; otherwise it stays signaled until a thread
starts to wait on it.
-/

set_option autoImplicit false

structure SyncEvent (ι : Type) where
  signaled : Bool
  waiters : List ι
deriving DecidableEq, Repr

namespace SyncEvent

variable {ι : Type}

def initial : SyncEvent ι := { signaled := false, waiters := [] }

/-- No thread waits on a signaled event, and none is queued twice. -/
structure WellFormed (event : SyncEvent ι) : Prop where
  nodup : event.waiters.Nodup
  idle : event.signaled = true → event.waiters = []

theorem WellFormed.consume {event : SyncEvent ι} (wellFormed : event.WellFormed) :
    ({ event with signaled := false } : SyncEvent ι).WellFormed :=
  ⟨wellFormed.nodup, fun signaled => by cases signaled⟩

theorem WellFormed.queue {event : SyncEvent ι} (wellFormed : event.WellFormed) (thread : ι)
    (unset : event.signaled = false) (notYet : thread ∉ event.waiters) :
    ({ event with waiters := event.waiters ++ [thread] } : SyncEvent ι).WellFormed :=
  ⟨wellFormed.nodup.append (List.nodup_singleton thread) (List.disjoint_singleton.mpr notYet),
    fun signaled => by rw [unset] at signaled; cases signaled⟩

variable [DecidableEq ι]

/-- `KeSetEvent`, releasing `chosen`, or no thread when none waits. -/
def set (event : SyncEvent ι) (chosen : Option ι) : Option (SyncEvent ι) :=
  match chosen with
  | some thread =>
      if thread ∈ event.waiters then some { event with waiters := event.waiters.erase thread }
      else none
  | none => if event.waiters = [] then some { event with signaled := true } else none

/-- A thread that starts to wait: it goes on at once when the event is signaled. -/
def wait (event : SyncEvent ι) (thread : ι) : Bool × SyncEvent ι :=
  if event.signaled then (true, { event with signaled := false })
  else (false, { event with waiters := event.waiters ++ [thread] })

/-- A waiting thread is released through another object of its wait. -/
def leave (event : SyncEvent ι) (thread : ι) : SyncEvent ι :=
  { event with waiters := event.waiters.erase thread }

variable {event : SyncEvent ι}

theorem WellFormed.leave (wellFormed : event.WellFormed) (thread : ι) :
    (event.leave thread).WellFormed :=
  ⟨wellFormed.nodup.erase thread, fun signaled => by
    rw [SyncEvent.leave, wellFormed.idle signaled]
    rfl⟩

theorem WellFormed.mem_leave (wellFormed : event.WellFormed) (thread other : ι) :
    other ∈ (event.leave thread).waiters ↔ other ≠ thread ∧ other ∈ event.waiters :=
  wellFormed.nodup.mem_erase_iff

theorem set_cases (event after : SyncEvent ι) (chosen : Option ι)
    (released : event.set chosen = some after) :
    (∃ thread, chosen = some thread ∧ thread ∈ event.waiters ∧ after = event.leave thread) ∨
      (chosen = none ∧ event.waiters = [] ∧ after = { event with signaled := true }) := by
  unfold set at released
  cases chosen with
  | some thread =>
      dsimp only at released
      split_ifs at released with member
      cases released
      exact Or.inl ⟨thread, rfl, member, rfl⟩
  | none =>
      dsimp only at released
      split_ifs at released with empty
      cases released
      exact Or.inr ⟨rfl, empty, rfl⟩

end SyncEvent
