import Wnbd.EndToEnd.DemuxCases

/-!
# The driver of both mapping models

The byte model and the message model of a mapping have the same driver: what a fetch, a
response or an abort does to its queues and its dispatchers is the same in both
(`demuxNext_driverOf`).
-/

set_option autoImplicit false

namespace Wnbd.EndToEnd

open Wnbd.Scsi Wnbd.Dispatch Wnbd.Nbd

/-- The driver of a state, with the client side of another. -/
def DemuxState.driverOf (state : DemuxState) (client : MappingState) : MappingState :=
  { client with
    pendingReqList := state.pendingReqList
    submittedReqList := state.submittedReqList
    requestHandle := state.requestHandle
    completed := state.completed
    dispatchers := state.dispatchers }

section

variable (mapping : NbdMapping) (state : DemuxState) (client : MappingState)

@[simp] theorem driverOf_pendingReqList :
    (state.driverOf client).pendingReqList = state.pendingReqList := rfl

@[simp] theorem driverOf_submittedReqList :
    (state.driverOf client).submittedReqList = state.submittedReqList := rfl

theorem fetchHead_driverOf (index : Nat) (status : NtStatus) (faults : FetchFaults) :
    fetchHead mapping (state.driverOf client) index status faults =
      (fetchPending mapping state index status faults).map (·.driverOf client) := by
  have queues : (state.driverOf client).pendingReqList = state.pendingReqList := rfl
  unfold fetchHead fetchPending
  cases queue : state.pendingReqList with
  | nil =>
      rw [queue] at queues
      rw [queues]
      rfl
  | cons request rest =>
      rw [queue] at queues
      rw [queues]
      dsimp only
      cases verdict : (fetchElement mapping.props dispatcherBufferSize
          ((state.driverOf client).requestHandle + 1) request.range request.srb faults).verdict with
      | submit _ | bufferTooSmall | invalid | lockFailed _ | noSrbBuffer =>
          change (fetchElement mapping.props dispatcherBufferSize (state.requestHandle + 1)
            request.range request.srb faults).verdict = _ at verdict
          rw [verdict]
          rfl

theorem wnbdHandleResponse_driverOf (command : SendRspCommand) (faults : ResponseFaults) :
    wnbdHandleResponse (state.driverOf client) command faults =
      ((handleResponse state command faults).2.driverOf client,
        (handleResponse state command faults).1) := by
  unfold wnbdHandleResponse handleResponse
  simp only [MappingState.findSubmitted, DemuxState.findSubmitted, driverOf_submittedReqList]
  cases state.submittedReqList.find? fun request => request.tag == command.requestHandle with
  | none => rfl
  | some request =>
      dsimp only
      split
      · rfl
      · rfl

theorem drainPending_driverOf :
    drainPending (state.driverOf client) = (abortPending state).map (·.driverOf client) := by
  unfold drainPending abortPending
  simp only [driverOf_pendingReqList]
  cases state.pendingReqList with
  | nil => rfl
  | cons request rest => rfl

theorem drainSubmitted_driverOf :
    drainSubmitted (state.driverOf client) = (abortSubmitted state).map (·.driverOf client) := by
  unfold drainSubmitted abortSubmitted
  simp only [driverOf_submittedReqList]
  cases state.submittedReqList with
  | nil => rfl
  | cons request rest => rfl

/-- The action of the message model for an action of the driver alone. -/
def driverAction : DemuxAction → Option MappingAction
  | .pend srbId srb => some (.pend srbId srb)
  | .fetch index faults => some (.fetch index faults)
  | .fetchElsewhere => some .fetchElsewhere
  | .abortPending => some .drainPending
  | .abortSubmitted => some .drainSubmitted
  | _ => none

/-- On a disk of the created size the driver takes the same steps in both models. -/
theorem demuxNext_driverOf {mapping : NbdMapping} {state after : DemuxState}
    (client : MappingState) (action : DemuxAction) (performed : MappingAction)
    (unsized : state.resized = none) (driver : driverAction action = some performed)
    (taken : demuxNext mapping state action = some after) :
    mappingNext mapping (state.driverOf client) performed = some (after.driverOf client) := by
  have props : state.props mapping = mapping.props := by
    rw [DemuxState.props, unsized]
    rfl
  cases demuxNext_cases taken with
  | pend srbId srb range accepted =>
      cases driver
      rw [props] at accepted
      rw [mappingNext, accepted]
      rfl
  | fetch index faults status _ here _ fetches =>
      cases driver
      have same : (state.driverOf client).dispatchers index = .fetching status := here
      rw [mappingNext, same]
      dsimp only
      rw [fetchHead_driverOf, fetches]
      rfl
  | fetchElsewhere =>
      cases driver
      rfl
  | abortPending =>
      cases driver
      have drains : abortPending state = some _ := taken
      rw [mappingNext, drainPending_driverOf, drains]
      rfl
  | abortSubmitted =>
      cases driver
      have drains : abortSubmitted state = some _ := taken
      rw [mappingNext, drainSubmitted_driverOf, drains]
      rfl
  | _ => cases driver

end

end Wnbd.EndToEnd
