import Wnbd.Device.CallTrace

/-!
# MDLs over a whole call

Between two turns of the fetch loop no MDL is open; a turn that leaves the loop
may leave one open, with its pages locked or not, and the common exit closes it.
The response call opens one at most.
-/

set_option autoImplicit false

namespace Wnbd.Device

open Wnbd.Scsi Wnbd.Dispatch PageLocks

/-! ## Locking -/

/-- What the common exit may find. -/
def Closable (pages : PageLocks) : Prop := Settled pages ∨ Open pages

theorem lockUsermodeBuffer_closable (outcome : LockOutcome) {pages : PageLocks}
    (settled : Settled pages) : Closable (lockUsermodeBuffer outcome pages) := by
  have opened := settled.ioAllocateMdl
  cases outcome with
  | probeFault _ | noMdl => exact Or.inl settled
  | lockFault _ => exact Or.inr opened
  | noMapping | locked => exact Or.inr (opened.mmProbeAndLockPages settled.bufferLocked)

/-- A failed lock leaves nothing open, a successful one an MDL. -/
theorem lockFetchBuffer_failed (outcome : LockOutcome) {pages : PageLocks}
    (settled : Settled pages) (failed : outcome.status ≠ statusSuccess) :
    Settled (lockFetchBuffer outcome pages) := by
  rw [lockFetchBuffer]
  rcases lockUsermodeBuffer_closable outcome settled with still | opened
  · rw [if_neg fun both => by rw [still.mdl] at both; cases both.2]
    exact still
  · obtain ⟨count, events, mdl, rest⟩ := opened.mdl
    rw [if_pos ⟨failed, by rw [mdl]; rfl⟩]
    exact opened.clear

theorem lockFetchBuffer_open (outcome : LockOutcome) {pages : PageLocks}
    (settled : Settled pages) (success : outcome.status = statusSuccess) :
    Open (lockFetchBuffer outcome pages) := by
  rw [lockFetchBuffer, if_neg fun both => both.1 success]
  have insufficient : statusInsufficientResources ≠ statusSuccess := by decide
  cases outcome with
  | probeFault code | lockFault code => exact absurd success code.property
  | noMdl | noMapping => exact absurd success insufficient
  | locked => exact settled.ioAllocateMdl.mmProbeAndLockPages settled.bufferLocked

theorem exitPages_lives {pages : PageLocks} (closable : Closable pages) :
    Lives (exitPages pages).allocations (exitPages pages).events := by
  rw [exitPages]
  rcases closable with settled | opened
  · rw [if_neg fun isSome => by rw [settled.mdl] at isSome; cases isSome]
    exact settled.lives
  · obtain ⟨count, events, mdl, rest⟩ := opened.mdl
    rw [if_pos (by rw [mdl]; rfl)]
    exact opened.release

/-! ## The fetch loop -/

/-- A turn that goes on leaves nothing open. -/
structure StepPages (step : LoopStep × CallState) : Prop where
  continues : step.1 = .continues → Settled step.2.pages
  closable : Closable step.2.pages

theorem StepPages.settled {step : LoopStep} {state : CallState} (settled : Settled state.pages) :
    StepPages (step, state) :=
  ⟨fun _ => settled, Or.inl settled⟩

theorem StepPages.leaves {state : CallState} (closable : Closable state.pages) :
    StepPages (.leaves, state) :=
  ⟨fun isContinue => by (cases isContinue), closable⟩

theorem copySrbBuffer_pages (bufferSize : UInt32) (taken : TakenElement) (lock : LockOutcome)
    (storResult : UInt32) {state : CallState} (settled : Settled state.pages) :
    StepPages (copySrbBuffer bufferSize taken lock storResult state) := by
  unfold copySrbBuffer
  dsimp only
  split_ifs with small empty failed unmapped
  · exact .settled settled
  · exact .settled settled
  · exact .settled (lockFetchBuffer_failed lock settled failed)
  · exact .settled (lockFetchBuffer_open lock settled (not_not.mp failed)).clear
  · exact .leaves (Or.inr (lockFetchBuffer_open lock settled (not_not.mp failed)))

theorem writeDescriptor_pages (bufferSize : UInt32) (taken : TakenElement) (lock : LockOutcome)
    {state : CallState} (settled : Settled state.pages) :
    StepPages (writeDescriptor bufferSize taken lock state) := by
  unfold writeDescriptor
  dsimp only
  split_ifs with small failed
  · exact .settled settled
  · exact .settled (lockFetchBuffer_failed lock settled failed)
  · exact .leaves (Or.inr (lockFetchBuffer_open lock settled (not_not.mp failed)))

theorem fetchBody_pages (props : WnbdProperties) (bufferSize : UInt32) (taken : TakenElement)
    (lock : LockOutcome) (storResult : UInt32) {state : CallState}
    (settled : Settled state.pages) :
    StepPages (fetchBody props bufferSize taken lock storResult state) := by
  unfold fetchBody
  dsimp only
  split
  · exact .settled settled
  · split
    · split
      · exact .settled settled
      · exact copySrbBuffer_pages bufferSize taken lock storResult settled
      · exact .settled settled
      · exact writeDescriptor_pages bufferSize taken lock settled
      · exact copySrbBuffer_pages bufferSize taken lock storResult settled
      all_goals exact .settled settled
    · exact .settled settled

theorem onPages_atLoopTest (state : CallState) (operation : PageLocks → PageLocks) :
    (state.onPages operation).atLoopTest = state.atLoopTest := rfl

theorem copySrbBuffer_atLoopTest (bufferSize : UInt32) (taken : TakenElement) (lock : LockOutcome)
    (storResult : UInt32) (state : CallState) :
    (copySrbBuffer bufferSize taken lock storResult state).2.atLoopTest = state.atLoopTest := by
  unfold copySrbBuffer
  dsimp only
  split_ifs <;> rfl

theorem writeDescriptor_atLoopTest (bufferSize : UInt32) (taken : TakenElement)
    (lock : LockOutcome) (state : CallState) :
    (writeDescriptor bufferSize taken lock state).2.atLoopTest = state.atLoopTest := by
  unfold writeDescriptor
  dsimp only
  split_ifs <;> rfl

theorem fetchBody_atLoopTest (props : WnbdProperties) (bufferSize : UInt32) (taken : TakenElement)
    (lock : LockOutcome) (storResult : UInt32) (state : CallState) :
    (fetchBody props bufferSize taken lock storResult state).2.atLoopTest = state.atLoopTest := by
  unfold fetchBody
  dsimp only
  split
  · rfl
  · split
    · split
      · rfl
      · exact copySrbBuffer_atLoopTest ..
      · rfl
      · exact writeDescriptor_atLoopTest ..
      · exact copySrbBuffer_atLoopTest ..
      all_goals rfl
    · rfl

/-- Every test of the loop found `Mdl` NULL and `BufferLocked` FALSE. -/
def CleanTests (state : CallState) : Prop := ∀ seen ∈ state.atLoopTest, seen = (none, false)

theorem CleanTests.loopTest {state : CallState} (clean : CleanTests state)
    (settled : Settled state.pages) : CleanTests state.loopTest := by
  intro seen member
  rcases List.mem_append.mp member with earlier | now
  · exact clean seen earlier
  · rw [List.mem_singleton.mp now, settled.mdl, settled.bufferLocked]

theorem dispatchTrace_pages (props : WnbdProperties) (bufferSize : UInt32)
    (turns : List FetchTurn) (hardRemove : Bool) {state : CallState}
    (settled : Settled state.pages) (clean : CleanTests state) :
    let after := dispatchTrace props bufferSize turns hardRemove state
    Lives after.pages.allocations after.pages.events ∧ CleanTests after := by
  induction turns generalizing hardRemove state with
  | nil => exact ⟨settled.lives, clean⟩
  | cons turn rest hypothesis =>
      have tested := clean.loopTest settled
      have left : Lives (exitPages state.pages).allocations (exitPages state.pages).events :=
        exitPages_lives (Or.inl settled)
      dsimp only
      rw [dispatchTrace]
      dsimp only
      split
      · exact ⟨left, tested⟩
      split
      · exact ⟨left, tested⟩
      split
      · split
        · exact ⟨left, tested⟩
        · exact hypothesis _ settled tested
      · rename_i taken popped
        split
        · exact ⟨left, tested⟩
        have body := fetchBody_pages props bufferSize taken turn.lock turn.storResult
          (show Settled (state.loopTest.append [.taken taken.element]).pages from settled)
        have unchanged := fetchBody_atLoopTest props bufferSize taken turn.lock
          turn.storResult (state.loopTest.append [.taken taken.element])
        split
        · rename_i after went
          rw [went] at body unchanged
          refine hypothesis _ (body.continues rfl) ?_
          rw [CleanTests, unchanged]
          exact tested
        · rename_i after went
          rw [went] at body unchanged
          refine ⟨exitPages_lives body.closable, ?_⟩
          rw [CleanTests, CallState.exit, onPages_atLoopTest, unchanged]
          exact tested

/-! ## The response -/

theorem inspectSrb_pages (taken : TakenElement) (storResult : UInt32) (state : CallState) :
    (inspectSrb taken storResult state).2.pages = state.pages := by
  unfold inspectSrb
  dsimp only
  split
  · rfl
  · split_ifs <;> rfl

theorem copyUserBuffer_pages (taken : TakenElement) (command : SendRspCommand)
    (lock : LockOutcome) {state : CallState} (settled : Settled state.pages) :
    Closable (copyUserBuffer taken command lock state).2.pages := by
  unfold copyUserBuffer
  dsimp only
  split_ifs with buffer failed
  · exact lockUsermodeBuffer_closable lock settled
  · exact lockUsermodeBuffer_closable lock settled
  · exact Or.inl settled
  · exact Or.inl settled

theorem responseExit_lives (taken : TakenElement) {state : CallState}
    (closable : Closable state.pages) :
    Lives (responseExit taken state).pages.allocations (responseExit taken state).pages.events :=
  exitPages_lives closable

theorem handleResponse_lives (taken : TakenElement) (command : SendRspCommand)
    (lock : LockOutcome) (storResult : UInt32) {state : CallState}
    (settled : Settled state.pages) :
    let after := handleResponse taken command lock storResult state
    Lives after.pages.allocations after.pages.events := by
  have start : Settled (state.append (.taken taken.element :: taken.accesses [.aborted])).pages :=
    settled
  have inspected : Settled (if taken.aborted then
      (LoopStep.continues, (state.append (.taken taken.element :: taken.accesses [.aborted])).append
        (taken.accesses [.srb, .tag]))
      else inspectSrb taken storResult
        (state.append (.taken taken.element :: taken.accesses [.aborted]))).2.pages := by
    split
    · exact start
    · rw [inspectSrb_pages]
      exact start
  dsimp only
  unfold handleResponse
  dsimp only
  generalize (if taken.aborted then _ else _) = step at inspected ⊢
  split
  · exact responseExit_lives taken (Or.inl inspected)
  · split
    · exact responseExit_lives taken (Or.inl inspected)
    · split
      · have copied := copyUserBuffer_pages taken command lock (show Settled (CallState.append _
          (taken.accesses ([.srb] ++ if isReadSrb taken.srb then [] else [.srb]))).pages
            from inspected)
        split
        · rename_i after went
          rw [went] at copied
          exact responseExit_lives taken copied
        · rename_i after went
          rw [went] at copied
          exact responseExit_lives taken copied
      · exact responseExit_lives taken (Or.inl inspected)

/-! ## Main result -/

/-- Whatever fails, in whichever turns: every MDL a fetch or a response call
allocates is freed once, after its pages were unlocked if they were locked, and
each turn of the fetch loop starts without one. -/
theorem page_lock_balance (props : WnbdProperties) (requestorPid : UInt32) :
    (∀ bufferSize turns,
      let after := wnbdDispatchTrace props requestorPid bufferSize turns
      Balanced after.pages.events ∧ ∀ seen ∈ after.atLoopTest, seen = (none, false)) ∧
      ∀ found command lock storResult,
        Balanced (wnbdHandleResponseTrace props requestorPid found command lock
          storResult).pages.events := by
  refine ⟨fun bufferSize turns => ?_, fun found command lock storResult => ?_⟩
  · dsimp only
    rw [wnbdDispatchTrace]
    split
    · exact ⟨Lives.nil.balanced, fun _ member => absurd member List.not_mem_nil⟩
    · have untested : CleanTests .start := fun _ member => absurd member List.not_mem_nil
      have started : Settled CallState.start.pages := settled_start
      obtain ⟨lives, clean⟩ :=
        dispatchTrace_pages props bufferSize turns false started untested
      exact ⟨lives.balanced, clean⟩
  · unfold wnbdHandleResponseTrace
    split
    · exact Lives.nil.balanced
    · split
      · exact Lives.nil.balanced
      · have started : Settled CallState.start.pages := settled_start
        exact (handleResponse_lives _ command lock storResult started).balanced

end Wnbd.Device
