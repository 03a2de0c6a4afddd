import Wnbd.Device.Machine

/-!
# What a step can do

One relation for each group of steps, with a case for each branch of the step
function: where the thread stood, what the step took and read, and the state it
leaves.  The invariants are proved over these cases.
-/

set_option autoImplicit false

namespace Wnbd.Device

open Wnbd.Scsi Wnbd.Dispatch DeviceState DeviceQueues

section Cases

variable (props : WnbdProperties) (state : DeviceState) (thread : ThreadId)

inductive AllocCase (srb : SrbId) (range : ElementRange) : Choice → DeviceState → Prop
  | pooled (element : ElementId) (rest : List ElementId)
      (pool : state.queues.srbElementPool = element :: rest) :
      AllocCase srb range .proceed
        ({ state with queues.srbElementPool := rest }.setPc thread (.startFill srb range element))
  | direct (element : ElementId) (empty : state.queues.srbElementPool = [])
      (unused : state.queues.heap element = none) :
      AllocCase srb range (.allocation (some element))
        ((state.setElement element (some (.zeroed false))).setPc thread
          (.startFill srb range element))
  | fails (empty : state.queues.srbElementPool = []) :
      AllocCase srb range (.allocation none)
        ((state.setSrb srb ((state.ledger.srbs srb).setSrbStatus srbStatusAborted)).setPc thread
          (.startRefused srb))

inductive StartIoCase : ThreadPc → Choice → DeviceState → Prop
  | noDevice (srb : SrbId) (removing : state.hardRemoveDevice = true) :
      StartIoCase (.startCheck srb) .proceed
        ((state.setSrb srb ((state.ledger.srbs srb).setSrbStatus srbStatusNoDevice)).setPc thread
          (.startRefused srb))
  | check (srb : SrbId) (serving : state.hardRemoveDevice = false) :
      StartIoCase (.startCheck srb) .proceed (state.setPc thread (.startHandle srb))
  | handle (srb : SrbId) :
      StartIoCase (.startHandle srb) .proceed (startHandleStep props state thread srb)
  | alloc (srb : SrbId) (range : ElementRange) (choice : Choice) (after : DeviceState)
      (taken : startAllocStep state thread srb range choice = some after) :
      StartIoCase (.startAlloc srb range) choice after
  | fill (srb : SrbId) (range : ElementRange) (element : ElementId) (value : SrbQueueElement)
      (stored : state.queues.heap element = some value) :
      StartIoCase (.startFill srb range element) .proceed
        ((state.setElement element (some
          { srb := some srb, range, tag := 0, aborted := false, completed := false,
            pooled := value.pooled })).setPc thread (.startInsert element))
  | insert (element : ElementId) (value : SrbQueueElement) (srb : SrbId)
      (stored : state.queues.heap element = some value) (carries : value.srb = some srb) :
      StartIoCase (.startInsert element) .proceed
        ({ state with
          queues.pendingReqList := state.queues.pendingReqList ++ [element]
          ledger.accepted := state.ledger.accepted ++ [srb] }.setPc thread .startSignal)
  | signal :
      StartIoCase .startSignal .proceed
        ({ state with deviceEvent := state.deviceEvent + 1 }.setPc thread .release)
  | refused (srb : SrbId) :
      StartIoCase (.startRefused srb) .proceed
        ({ state with rundown := state.rundown.release }.setPc thread (.startReport srb))
  | report (srb : SrbId) :
      StartIoCase (.startReport srb) .proceed ((state.report srb).setPc thread .idle)

/-- What `fetchPrepareStep` leaves, for the tag it drew and the element it decided on. -/
def fetchPrepared (bufferSize : UInt32) (element : ElementId) (tag : UInt64)
    (value : SrbQueueElement) (srb : SrbId) (faults : FetchFaults) : DeviceState :=
  let fetched := fetchElement props bufferSize tag value.range (state.ledger.srbs srb) faults
  let prepared := { state with requestHandle := tag }.setElement element (some { value with tag })
  (prepared.setSrb srb fetched.srb).setPc thread
    (match fetched.verdict with
      | .submit _ => .fetchSubmit element
      | .bufferTooSmall => .complete element .release
      | .invalid | .lockFailed _ | .noSrbBuffer => .complete element (.fetchTest bufferSize))

inductive FetchCase : ThreadPc → Choice → DeviceState → Prop
  | test (bufferSize : UInt32) :
      FetchCase (.fetchTest bufferSize) .proceed
        (state.setPc thread (if state.hardRemoveDevice then .release else .fetchWait bufferSize))
  | woken (bufferSize : UInt32) (signaled : 0 < state.deviceEvent) :
      FetchCase (.fetchWait bufferSize) (.wait .deviceEvent)
        ({ state with deviceEvent := state.deviceEvent - 1 }.setPc thread (.fetchPop bufferSize))
  | removed (bufferSize : UInt32) (signaled : state.deviceRemovalEvent = true) :
      FetchCase (.fetchWait bufferSize) (.wait .removalEvent) (state.setPc thread .release)
  | interrupted (bufferSize : UInt32) :
      FetchCase (.fetchWait bufferSize) (.wait .alerted) (state.setPc thread .fetchAlerted)
  | alerted :
      FetchCase .fetchAlerted .proceed
        ({ state with deviceRemovalEvent := true }.setPc thread .release)
  | popNone (bufferSize : UInt32) (empty : state.queues.pendingReqList = []) :
      FetchCase (.fetchPop bufferSize) .proceed (state.setPc thread (.fetchCheck bufferSize none))
  | pop (bufferSize : UInt32) (element : ElementId) (rest : List ElementId)
      (head : state.queues.pendingReqList = element :: rest) :
      FetchCase (.fetchPop bufferSize) .proceed
        ({ state with queues.pendingReqList := rest }.setPc thread
          (.fetchCheck bufferSize (some element)))
  | drop (bufferSize : UInt32) (popped : Option ElementId)
      (removing : state.hardRemoveDevice = true) :
      FetchCase (.fetchCheck bufferSize popped) .proceed
        ({ state with queues.lost := state.queues.lost ++ popped.toList }.setPc thread .release)
  | retry (bufferSize : UInt32) (serving : state.hardRemoveDevice = false) :
      FetchCase (.fetchCheck bufferSize none) .proceed (state.setPc thread (.fetchTest bufferSize))
  | keep (bufferSize : UInt32) (element : ElementId) (serving : state.hardRemoveDevice = false) :
      FetchCase (.fetchCheck bufferSize (some element)) .proceed
        (state.setPc thread (.fetchPrepare bufferSize element))
  | prepare (bufferSize : UInt32) (element : ElementId) (elsewhere : UInt64)
      (faults : FetchFaults) (value : SrbQueueElement) (srb : SrbId)
      (stored : state.queues.heap element = some value) (carries : value.srb = some srb) :
      FetchCase (.fetchPrepare bufferSize element) (.fetchFaults elsewhere faults)
        (fetchPrepared props state thread bufferSize element (state.requestHandle + elsewhere + 1)
          value srb faults)
  | submit (element : ElementId) :
      FetchCase (.fetchSubmit element) .proceed
        ({ state with queues := state.queues.wnbdSubmittedReqInsert element }.setPc thread .release)

inductive ResponseCase : ThreadPc → Choice → DeviceState → Prop
  | unknown (command : SendRspCommand)
      (absent : state.queues.findSubmittedByTag command.requestHandle = none) :
      ResponseCase (.responseTake command) .proceed (state.setPc thread .release)
  | take (command : SendRspCommand) (element : ElementId)
      (found : state.queues.findSubmittedByTag command.requestHandle = some element) :
      ResponseCase (.responseTake command) .proceed
        ({ state with queues := state.queues.unlinkSubmitted element }.setPc thread
          (.responseApply command element))
  | apply (command : SendRspCommand) (element : ElementId) (faults : ResponseFaults)
      (value : SrbQueueElement) (srb : SrbId) (stored : state.queues.heap element = some value)
      (carries : value.srb = some srb) :
      ResponseCase (.responseApply command element) (.responseFaults faults)
        ((state.setSrb srb (applyResponse value.range value.aborted (state.ledger.srbs srb) command
          faults).srb).setPc thread
            (if value.aborted then .free element .release else .complete element .release))

/-- Where a drain goes once its list is empty. -/
def drainEmptied (list : DrainedList) (checkStaleConn staleConnDetected : Bool) : ThreadPc :=
  if staleConnDetected then .disconnectMark list checkStaleConn
  else drainNext thread checkStaleConn list

inductive DrainCase : ThreadPc → Choice → DeviceState → Prop
  | pendingNone (checkStaleConn staleConnDetected : Bool)
      (empty : state.queues.pendingReqList = []) :
      DrainCase (.drain .pending checkStaleConn staleConnDetected) .proceed
        (state.setPc thread (drainEmptied thread .pending checkStaleConn staleConnDetected))
  | submittedNone (checkStaleConn staleConnDetected : Bool)
      (empty : state.queues.submittedReqList = []) :
      DrainCase (.drain .submitted checkStaleConn staleConnDetected) .proceed
        (state.setPc thread (drainEmptied thread .submitted checkStaleConn staleConnDetected))
  | pending (checkStaleConn staleConnDetected : Bool) (element : ElementId)
      (rest : List ElementId) (head : state.queues.pendingReqList = element :: rest) :
      DrainCase (.drain .pending checkStaleConn staleConnDetected) .proceed
        ({ state with queues.pendingReqList := rest }.setPc thread
          (.abort .pending checkStaleConn staleConnDetected element))
  | submitted (checkStaleConn staleConnDetected : Bool) (element : ElementId)
      (rest : List ElementId) (head : state.queues.submittedReqList = element :: rest) :
      DrainCase (.drain .submitted checkStaleConn staleConnDetected) .proceed
        ({ state with queues := state.queues.unlinkSubmitted element }.setPc thread
          (.abort .submitted checkStaleConn staleConnDetected element))
  | abort (list : DrainedList) (checkStaleConn staleConnDetected : Bool) (element : ElementId)
      (detected : Bool) (value : SrbQueueElement) (srb : SrbId)
      (stored : state.queues.heap element = some value) (carries : value.srb = some srb) :
      DrainCase (.abort list checkStaleConn staleConnDetected element) (.staleConnection detected)
        (((state.setSrb srb (abortSrb (state.ledger.srbs srb))).setElement element
          (some { value with aborted := true })).setPc thread
            (.complete element (.drain list checkStaleConn
              (staleConnDetected || (checkStaleConn && detected)))))
  | mark (list : DrainedList) (checkStaleConn : Bool) :
      DrainCase (.disconnectMark list checkStaleConn) .proceed
        ({ state with hardRemoveDevice := true }.setPc thread
          (.disconnectSignal list checkStaleConn))
  | signal (list : DrainedList) (checkStaleConn : Bool) :
      DrainCase (.disconnectSignal list checkStaleConn) .proceed
        ({ state with deviceRemovalEvent := true }.setPc thread
          (drainNext thread checkStaleConn list))

inductive CompletionCase : ThreadPc → Choice → DeviceState → Prop
  | complete (element : ElementId) (resume : Resume) (value : SrbQueueElement) (srb : SrbId)
      (stored : state.queues.heap element = some value) (carries : value.srb = some srb) :
      CompletionCase (.complete element resume) .proceed
        ((if value.completed then state
          else (state.setElement element (some { value with completed := true })).report srb).setPc
            thread (.free element resume))
  | free (element : ElementId) (resume : Resume) (value : SrbQueueElement)
      (stored : state.queues.heap element = some value) :
      CompletionCase (.free element resume) .proceed
        ((wnbdFreeSrbElement state element value).setPc thread resume.pc)
  | remove :
      CompletionCase .removeSignal .proceed
        ({ state with deviceRemovalEvent := true }.setPc thread .release)
  | release :
      CompletionCase .release .proceed
        ({ state with rundown := state.rundown.release }.setPc thread .idle)

inductive MonitorCase : ThreadPc → Choice → DeviceState → Prop
  | wait : MonitorCase .monitorWait .proceed (state.setPc thread .monitorMark)
  | mark :
      MonitorCase .monitorMark .proceed
        ({ state with hardRemoveDevice := true }.setPc thread .monitorSignal)
  | signal :
      MonitorCase .monitorSignal .proceed
        ({ state with deviceRemovalEvent := true }.setPc thread .monitorRundown)
  | rundown :
      MonitorCase .monitorRundown .proceed
        ({ state with rundown := state.rundown.startWait }.setPc thread .monitorRundownWait)
  | released (released : state.rundown.released) :
      MonitorCase .monitorRundownWait .proceed
        (state.setPc thread (.drain .pending false false))
  | poolEmpty (empty : state.queues.srbElementPool = []) :
      MonitorCase .monitorDrainPool .proceed (state.setPc thread .monitorFree)
  | poolHead (element : ElementId) (rest : List ElementId)
      (pool : state.queues.srbElementPool = element :: rest) :
      MonitorCase .monitorDrainPool .proceed
        ({ state with queues.srbElementPool := rest }.setPc thread (.monitorFreeElement element))
  | freeElement (element : ElementId) :
      MonitorCase (.monitorFreeElement element) .proceed
        ((state.setElement element none).setPc thread .monitorDrainPool)
  | free :
      MonitorCase .monitorFree .proceed ({ state with freed := true }.setPc thread .monitorDone)

/-- The group of steps a thread takes its next one from. -/
inductive DeviceCase (choice : Choice) (after : DeviceState) : Prop
  | begins (here : state.threads thread = .idle)
      (taken : beginStep props state thread choice = some after)
  | startIo (taken : startIoStep props state thread (state.threads thread) choice = some after)
  | fetch (taken : fetchStep props state thread (state.threads thread) choice = some after)
  | response (taken : responseStep state thread (state.threads thread) choice = some after)
  | drain (taken : drainStep state thread (state.threads thread) choice = some after)
  | completion (taken : completionStep state thread (state.threads thread) choice = some after)
  | monitor (taken : monitorStep state thread (state.threads thread) choice = some after)

end Cases

section Steps

variable {props : WnbdProperties} {state after : DeviceState} {thread : ThreadId}
variable {pc : ThreadPc} {choice : Choice}

theorem startAllocStep_cases {srb : SrbId} {range : ElementRange}
    (taken : startAllocStep state thread srb range choice = some after) :
    AllocCase state thread srb range choice after := by
  unfold startAllocStep at taken
  cases pool : state.queues.srbElementPool with
  | nil =>
      rw [pool] at taken
      cases choice with
      | allocation address =>
          cases address with
          | none =>
              cases taken
              exact .fails pool
          | some element =>
              obtain ⟨unused, ⟨⟩⟩ := Option.ite_none_right_eq_some.mp taken
              exact .direct element pool unused
      | _ => cases taken
  | cons element rest =>
      rw [pool] at taken
      cases choice with
      | proceed =>
          cases taken
          exact .pooled element rest pool
      | _ => cases taken

theorem startIoStep_cases (taken : startIoStep props state thread pc choice = some after) :
    StartIoCase props state thread pc choice after := by
  cases pc with
  | startAlloc srb range => exact .alloc srb range choice after taken
  | startCheck srb =>
      cases choice with
      | proceed =>
          by_cases removing : state.hardRemoveDevice = true
          · simp only [startIoStep, if_pos removing] at taken
            cases taken
            exact .noDevice srb removing
          · simp only [startIoStep, if_neg removing] at taken
            cases taken
            exact .check srb (Bool.eq_false_of_not_eq_true removing)
      | _ => cases taken
  | startHandle srb | startSignal | startRefused srb | startReport srb =>
      cases choice with
      | proceed =>
          cases taken
          constructor
      | _ => cases taken
  | startFill srb range element =>
      cases choice with
      | proceed =>
          obtain ⟨value, stored, rfl⟩ := Option.map_eq_some_iff.mp taken
          exact .fill srb range element value stored
      | _ => cases taken
  | startInsert element =>
      cases choice with
      | proceed =>
          obtain ⟨value, stored, carries⟩ := Option.bind_eq_some_iff.mp taken
          obtain ⟨srb, carried, rfl⟩ := Option.map_eq_some_iff.mp carries
          exact .insert element value srb stored carried
      | _ => cases taken
  | _ => cases taken

theorem fetchStep_cases (taken : fetchStep props state thread pc choice = some after) :
    FetchCase props state thread pc choice after := by
  cases pc with
  | fetchTest bufferSize | fetchAlerted | fetchSubmit element =>
      cases choice with
      | proceed =>
          cases taken
          constructor
      | _ => cases taken
  | fetchWait bufferSize =>
      cases choice with
      | wait result =>
          cases result with
          | deviceEvent =>
              obtain ⟨signaled, ⟨⟩⟩ := Option.ite_none_right_eq_some.mp taken
              exact .woken bufferSize signaled
          | removalEvent =>
              obtain ⟨signaled, ⟨⟩⟩ := Option.ite_none_right_eq_some.mp taken
              exact .removed bufferSize signaled
          | alerted =>
              cases taken
              exact .interrupted bufferSize
      | _ => cases taken
  | fetchPop bufferSize =>
      cases choice with
      | proceed =>
          cases head : state.queues.pendingReqList with
          | nil =>
              simp only [fetchStep, head] at taken
              cases taken
              exact .popNone bufferSize head
          | cons element rest =>
              simp only [fetchStep, head] at taken
              cases taken
              exact .pop bufferSize element rest head
      | _ => cases taken
  | fetchCheck bufferSize popped =>
      cases choice with
      | proceed =>
          by_cases removing : state.hardRemoveDevice = true
          · simp only [fetchStep, if_pos removing] at taken
            cases taken
            exact .drop bufferSize popped removing
          · have serving := Bool.eq_false_of_not_eq_true removing
            simp only [fetchStep, if_neg removing] at taken
            cases popped with
            | none =>
                cases taken
                exact .retry bufferSize serving
            | some element =>
                cases taken
                exact .keep bufferSize element serving
      | _ => cases taken
  | fetchPrepare bufferSize element =>
      cases choice with
      | fetchFaults elsewhere faults =>
          obtain ⟨value, stored, carries⟩ := Option.bind_eq_some_iff.mp taken
          obtain ⟨srb, carried, rfl⟩ := Option.map_eq_some_iff.mp carries
          exact .prepare bufferSize element elsewhere faults value srb stored carried
      | _ => cases taken
  | _ => cases taken

theorem responseStep_cases (taken : responseStep state thread pc choice = some after) :
    ResponseCase state thread pc choice after := by
  cases pc with
  | responseTake command =>
      cases choice with
      | proceed =>
          cases found : state.queues.findSubmittedByTag command.requestHandle with
          | none =>
              simp only [responseStep, found] at taken
              cases taken
              exact .unknown command found
          | some element =>
              simp only [responseStep, found] at taken
              cases taken
              exact .take command element found
      | _ => cases taken
  | responseApply command element =>
      cases choice with
      | responseFaults faults =>
          obtain ⟨value, stored, carries⟩ := Option.bind_eq_some_iff.mp taken
          obtain ⟨srb, carried, rfl⟩ := Option.map_eq_some_iff.mp carries
          exact .apply command element faults value srb stored carried
      | _ => cases taken
  | _ => cases taken

theorem drainStep_cases (taken : drainStep state thread pc choice = some after) :
    DrainCase state thread pc choice after := by
  cases pc with
  | drain list checkStaleConn staleConnDetected =>
      cases choice with
      | proceed =>
          cases list with
          | pending =>
              cases head : state.queues.pendingReqList with
              | nil =>
                  simp only [drainStep, head] at taken
                  cases taken
                  exact .pendingNone checkStaleConn staleConnDetected head
              | cons element rest =>
                  simp only [drainStep, head] at taken
                  cases taken
                  exact .pending checkStaleConn staleConnDetected element rest head
          | submitted =>
              cases head : state.queues.submittedReqList with
              | nil =>
                  simp only [drainStep, head] at taken
                  cases taken
                  exact .submittedNone checkStaleConn staleConnDetected head
              | cons element rest =>
                  simp only [drainStep, head] at taken
                  cases taken
                  exact .submitted checkStaleConn staleConnDetected element rest head
      | _ => cases taken
  | abort list checkStaleConn staleConnDetected element =>
      cases choice with
      | staleConnection detected =>
          obtain ⟨value, stored, carries⟩ := Option.bind_eq_some_iff.mp taken
          obtain ⟨srb, carried, rfl⟩ := Option.map_eq_some_iff.mp carries
          exact .abort list checkStaleConn staleConnDetected element detected value srb stored
            carried
      | _ => cases taken
  | disconnectMark list checkStaleConn | disconnectSignal list checkStaleConn =>
      cases choice with
      | proceed =>
          cases taken
          constructor
      | _ => cases taken
  | _ => cases taken

theorem completionStep_cases (taken : completionStep state thread pc choice = some after) :
    CompletionCase state thread pc choice after := by
  cases pc with
  | complete element resume =>
      cases choice with
      | proceed =>
          obtain ⟨value, stored, carries⟩ := Option.bind_eq_some_iff.mp taken
          obtain ⟨srb, carried, rfl⟩ := Option.map_eq_some_iff.mp carries
          exact .complete element resume value srb stored carried
      | _ => cases taken
  | free element resume =>
      cases choice with
      | proceed =>
          obtain ⟨value, stored, rfl⟩ := Option.map_eq_some_iff.mp taken
          exact .free element resume value stored
      | _ => cases taken
  | removeSignal | release =>
      cases choice with
      | proceed =>
          cases taken
          constructor
      | _ => cases taken
  | _ => cases taken

theorem monitorStep_cases (taken : monitorStep state thread pc choice = some after) :
    MonitorCase state thread pc choice after := by
  cases pc with
  | monitorWait | monitorMark | monitorSignal | monitorRundown | monitorFreeElement element
  | monitorFree =>
      cases choice with
      | proceed =>
          cases taken
          constructor
      | _ => cases taken
  | monitorRundownWait =>
      cases choice with
      | proceed =>
          obtain ⟨released, ⟨⟩⟩ := Option.ite_none_right_eq_some.mp taken
          exact .released released
      | _ => cases taken
  | monitorDrainPool =>
      cases choice with
      | proceed =>
          cases pool : state.queues.srbElementPool with
          | nil =>
              simp only [monitorStep, pool] at taken
              cases taken
              exact .poolEmpty pool
          | cons element rest =>
              simp only [monitorStep, pool] at taken
              cases taken
              exact .poolHead element rest pool
      | _ => cases taken
  | _ => cases taken

theorem deviceNext_cases (taken : deviceNext props state (thread, choice) = some after) :
    DeviceCase props state thread choice after := by
  simp only [deviceNext] at taken
  cases here : state.threads thread with
  | idle => exact .begins here (by rw [here] at taken; exact taken)
  | startCheck | startHandle | startAlloc | startFill | startInsert | startSignal | startRefused
  | startReport => exact .startIo (by rw [here] at taken ⊢; exact taken)
  | fetchTest | fetchWait | fetchAlerted | fetchPop | fetchCheck | fetchPrepare | fetchSubmit =>
      exact .fetch (by rw [here] at taken ⊢; exact taken)
  | responseTake | responseApply => exact .response (by rw [here] at taken ⊢; exact taken)
  | drain | abort | disconnectMark | disconnectSignal =>
      exact .drain (by rw [here] at taken ⊢; exact taken)
  | complete | free | removeSignal | release =>
      exact .completion (by rw [here] at taken ⊢; exact taken)
  | monitorWait | monitorMark | monitorSignal | monitorRundown | monitorRundownWait
  | monitorDrainPool | monitorFreeElement | monitorFree =>
      exact .monitor (by rw [here] at taken ⊢; exact taken)
  | monitorDone =>
      rw [here] at taken
      cases taken

end Steps

end Wnbd.Device
