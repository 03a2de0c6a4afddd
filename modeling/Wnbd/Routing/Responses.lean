import Wnbd.Dispatch.BufferBounds
import Wnbd.Routing.Steps

/-!
# Where a response goes

A response completes the one request that is awaited under its handle on its connection,
while the device can be looked up, and is refused in every other case.  Addresses and
names of earlier mappings may be in use again.
-/

set_option autoImplicit false

namespace Wnbd.Routing

open Wnbd.Scsi Wnbd.Dispatch Wnbd.Device Wnbd.Adapter AdapterState DeviceQueues RoutingState

/-- The device of the connection can be looked up by its process, and awaits the handle. -/
structure Answers (state : RoutingState) (connectionId : UInt64) (requestorPid : UInt32)
    (requestHandle : UInt64) (device : DeviceId) (srb : SrbId) : Prop where
  registered : device ∈ state.adapter.deviceList
  running : ∃ value, state.adapter.devices device = some value ∧
    value.connectionId = connectionId ∧ value.rundownProtection.waiting = false ∧
      value.properties.pid = requestorPid
  awaiting : Awaiting state.history connectionId requestHandle srb

/-- The buffer arguments are valid and both buffers can be mapped, where data is read. -/
def BuffersUsable (command : SendRspCommand) (faults : ResponseFaults) (srb : Srb) : Prop :=
  (isReadSrb srb || isPerResInSrb srb) = true →
    (command.hasBuffer = true ∨ command.dataBufferSize = 0) ∧ faults.storResult = 0 ∧
      (command.hasBuffer = true → faults.lockStatus = 0)

structure Completes (state after : RoutingState) (command : SendRspCommand)
    (faults : ResponseFaults) (device : DeviceId) (srb : SrbId) : Prop where
  reported : after.ledger.reported = state.ledger.reported ++ [srb]
  success : (after.ledger.srbs srb).srbStatus = srbStatusSuccess ↔
    command.status.scsiStatus = 0 ∧ BuffersUsable command faults (state.ledger.srbs srb)
  removed : ∃ element ∈ (state.queues device).submittedReqList, ∃ stored,
    (state.queues device).heap element = some stored ∧ stored.tag = command.requestHandle ∧
      stored.srb = some srb ∧ after.queues device =
        { (state.queues device).unlinkSubmitted element with
          heap := Function.update (state.queues device).heap element none }
  otherSrbs : ∀ other, other ≠ srb → after.ledger.srbs other = state.ledger.srbs other
  otherQueues : ∀ other, other ≠ device → after.queues other = state.queues other
  adapter : after.adapter = state.adapter

/-! ## The SRB -/

theorem setSrbStatus_fails (srb : Srb) (status : WnbdStatus) :
    (setSrbStatus srb status).srbStatus ≠ srbStatusSuccess := by
  unfold setSrbStatus
  split
  · change srbStatusError ||| srbStatusAutosenseValid ≠ srbStatusSuccess
    decide
  · change srbStatusError ≠ srbStatusSuccess
    decide

theorem reportStatus_success_iff (dataLength : UInt32) (srb : Srb) (command : SendRspCommand) :
    (reportStatus dataLength srb command).srbStatus = srbStatusSuccess ↔
      command.status.scsiStatus = 0 := by
  rw [reportStatus]
  split
  case isTrue failed => exact iff_of_false (setSrbStatus_fails _ _) failed
  case isFalse succeeded => exact iff_of_true rfl (not_not.mp succeeded)

theorem applyResponse_success_iff (range : ElementRange) (srb : Srb) (command : SendRspCommand)
    (faults : ResponseFaults) (hasCommand : srb.cdb.isSome = true) :
    (applyResponse range false srb command faults).srb.srbStatus = srbStatusSuccess ↔
      command.status.scsiStatus = 0 ∧ BuffersUsable command faults srb := by
  have present : srb.cdb.isNone = false := by
    rw [Option.isNone_eq_false_iff]
    exact hasCommand
  have internal : (srb.setSrbStatus srbStatusInternalError).srbStatus ≠ srbStatusSuccess := by
    change srbStatusInternalError ≠ srbStatusSuccess
    decide
  rw [applyResponse, BuffersUsable]
  split
  case isTrue missing =>
    rw [present] at missing
    exact absurd missing.2 Bool.false_ne_true
  case isFalse =>
    split
    case isTrue unmapped =>
      exact iff_of_false internal fun both => unmapped.2.2 (both.2 unmapped.2.1).2.1
    case isFalse mapped =>
      split
      case isTrue carries =>
        split
        case isTrue nullBuffer =>
          refine iff_of_false internal fun both => ?_
          rcases (both.2 carries.2).1 with has | zero
          · exact nullBuffer.1 has
          · rw [zero] at nullBuffer
            exact absurd nullBuffer.2 (by decide)
        case isFalse valid =>
          split
          case isTrue unlocked =>
            exact iff_of_false internal fun both =>
              unlocked.2 ((both.2 carries.2).2.2 unlocked.1)
          case isFalse locked =>
            refine (reportStatus_success_iff _ _ _).trans (and_iff_left fun _ => ⟨?_, ?_, ?_⟩).symm
            · by_contra invalid
              rw [not_or] at invalid
              exact valid ⟨invalid.1, UInt32.pos_iff_ne_zero.mpr invalid.2⟩
            · by_contra nonzero
              exact mapped ⟨Bool.false_ne_true, carries.2, nonzero⟩
            · intro has
              by_contra nonzero
              exact locked ⟨has, nonzero⟩
      case isFalse plain =>
        refine (reportStatus_success_iff _ _ _).trans (and_iff_left_of_imp fun zero isRead => ?_).symm
        exact absurd ⟨zero, isRead⟩ plain

/-! ## The call -/

section Response

variable {state : RoutingState}

/-- The call with an element in hand. -/
theorem sendRsp_answers (inv : RoutingInv state) (connectionId : UInt64) (requestorPid : UInt32)
    (command : SendRspCommand) (faults : ResponseFaults) (device : DeviceId) (srb : SrbId)
    (answers : Answers state connectionId requestorPid command.requestHandle device srb) :
    ∃ element ∈ (state.queues device).submittedReqList, ∃ stored,
      (state.queues device).heap element = some stored ∧ stored.tag = command.requestHandle ∧
        stored.srb = some srb ∧
        (sendRsp state connectionId requestorPid command faults).2 =
          (finishElement (state.setQueues device ((state.queues device).unlinkSubmitted element))
            device element false srb
            (applyResponse stored.range false (state.ledger.srbs srb) command faults).srb).log
              (.removed (state.adapter.connectionIdOf device) stored.tag) := by
  obtain ⟨member, ⟨value, present, rfl, running, owner⟩, awaiting⟩ := answers
  rw [← connectionIdOf_eq present, inv.awaits device member] at awaiting
  have userspace : value.properties.flags.useKernelNbd = false := Bool.eq_false_iff.mpr fun kernel =>
    inv.kernel device member value present kernel _ _ awaiting
  obtain ⟨element, listed, stored, heap, tagged, carries⟩ := awaiting
  have found := (findDevice_connId_iff inv.registry _ _ _).mpr ⟨member, present, rfl, running⟩
  have first := ((inv.queues device).find_iff _ _).mpr ⟨listed, stored, heap, tagged⟩
  obtain ⟨known, other, held⟩ := (inv.queues device).submitted_holds listed
  obtain rfl : stored = known := Option.some.inj (heap.symm.trans held.heap)
  refine ⟨element, listed, stored, heap, tagged, carries, ?_⟩
  have allowed : ¬ (value.properties.pid ≠ requestorPid ∨
      value.properties.flags.useKernelNbd = true) := by
    rw [userspace]
    exact fun denied => denied.elim (· owner) Bool.false_ne_true
  obtain ⟨elementSrb, range, tag, aborted, completed, pooled⟩ := stored
  obtain rfl : elementSrb = some srb := carries
  obtain rfl : aborted = false := held.aborted
  obtain rfl : completed = false := held.completed
  rw [sendRsp, found]
  dsimp only
  rw [wnbdHandleResponse]
  dsimp only
  rw [if_neg allowed, first]
  dsimp only
  rw [heap, connectionIdOf_eq present]
  rfl

theorem statuses_fail : statusInvalidHandle ≠ statusSuccess ∧ statusAccessDenied ≠ statusSuccess ∧
    statusNotFound ≠ statusSuccess := by
  decide

/-- Every other call is refused. -/
theorem sendRsp_refused (inv : RoutingInv state) (connectionId : UInt64) (requestorPid : UInt32)
    (command : SendRspCommand) (faults : ResponseFaults)
    (nothing : ¬ ∃ device srb,
      Answers state connectionId requestorPid command.requestHandle device srb) :
    (sendRsp state connectionId requestorPid command faults).1 ≠ statusSuccess ∧
      (sendRsp state connectionId requestorPid command faults).2 = state := by
  rw [sendRsp]
  cases found : findDevice state.adapter (.connId connectionId) with
  | none => exact ⟨statuses_fail.1, rfl⟩
  | some located =>
    obtain ⟨device, value⟩ := located
    obtain ⟨member, present, matched, running⟩ :=
      (findDevice_connId_iff inv.registry _ _ _).mp found
    dsimp only
    rw [wnbdHandleResponse]
    dsimp only
    split
    case isTrue => exact ⟨statuses_fail.2.1, rfl⟩
    case isFalse allowed =>
      cases first : (state.queues device).findSubmittedByTag command.requestHandle with
      | none => exact ⟨statuses_fail.2.2, rfl⟩
      | some element =>
        obtain ⟨listed, stored, heap, tagged⟩ := ((inv.queues device).find_iff _ _).mp first
        obtain ⟨known, srb, held⟩ := (inv.queues device).submitted_holds listed
        obtain rfl : stored = known := Option.some.inj (heap.symm.trans held.heap)
        have owner : value.properties.pid = requestorPid :=
          not_not.mp fun other => allowed (Or.inl other)
        have awaited : Awaiting state.history connectionId command.requestHandle srb := by
          rw [← matched, ← connectionIdOf_eq present, inv.awaits device member]
          exact ⟨element, listed, stored, heap, tagged, held.carries⟩
        exact absurd ⟨device, srb, member, ⟨value, present, matched, running, owner⟩, awaited⟩
          nothing

theorem sendRsp_inv (inv : RoutingInv state) (connectionId : UInt64) (requestorPid : UInt32)
    (command : SendRspCommand) (faults : ResponseFaults) :
    RoutingInv (sendRsp state connectionId requestorPid command faults).2 := by
  by_cases answered : ∃ device srb,
      Answers state connectionId requestorPid command.requestHandle device srb
  · obtain ⟨device, srb, answers⟩ := answered
    obtain ⟨element, listed, stored, heap, _, _, after⟩ :=
      sendRsp_answers inv connectionId requestorPid command faults device srb answers
    rw [after]
    have on := finishElement_on state
      (state.setQueues device ((state.queues device).unlinkSubmitted element)) device element false
      srb (applyResponse stored.range false (state.ledger.srbs srb) command faults).srb rfl rfl rfl
      (fun other different => Function.update_of_ne different _ _) (Nat.le_refl _)
      (applyResponse_command ..)
    refine inv.finishSubmitted answers.registered
      ⟨on.adapter, on.allocated, on.ledger, on.queues, on.handle⟩ element listed stored
      heap (finishElement_unlinked ..) ?_
    exact congrArg (· ++ _) (finishElement_history ..)
  · rw [(sendRsp_refused inv connectionId requestorPid command faults answered).2]
    exact inv

end Response

/-! ## Runs -/

theorem routingNext_inv (state after : RoutingState) (call : RoutingCall)
    (noWrap : NoWrap state call) (inv : RoutingInv state)
    (taken : routingNext state call = some after) : RoutingInv after := by
  cases call with
  | create props faults =>
      cases taken
      exact create_inv inv props faults noWrap
  | startIo key element contents =>
      exact wnbdExecuteScsiFunction_inv inv key element contents taken
  | fetch connectionId requestorPid bufferSize faults =>
      exact fetchTurn_inv inv connectionId requestorPid bufferSize faults noWrap taken
  | respond connectionId requestorPid command faults =>
      cases taken
      exact sendRsp_inv inv connectionId requestorPid command faults
  | drain key list =>
      obtain ⟨⟨device, value⟩, found, drained⟩ := Option.bind_eq_some_iff.mp taken
      obtain ⟨member, present, _⟩ := findDevice_sound inv.registry key device value found
      dsimp only at drained
      rw [← connectionIdOf_eq present] at drained
      exact drainHead_inv inv device member list drained
  | disconnect key async =>
      cases taken
      exact disconnect_inv inv key async
  | monitorRundown device => exact monitorRundown_inv inv device taken
  | monitorDrain device list => exact monitorDrain_inv inv device list taken
  | monitorUnlink device => exact monitorUnlink_inv inv device taken

theorem routingInv_of_path {state : RoutingState}
    (path : StepSystem.Path routingNext NoWrap .initial state) : RoutingInv state :=
  path.invariant RoutingInv routingInv_initial
    fun state call after noWrap inv taken => routingNext_inv state after call noWrap inv taken

theorem sendRsp_completes {state : RoutingState} (inv : RoutingInv state) (connectionId : UInt64)
    (requestorPid : UInt32) (command : SendRspCommand) (faults : ResponseFaults)
    (device : DeviceId) (srb : SrbId)
    (answers : Answers state connectionId requestorPid command.requestHandle device srb) :
    Completes state (sendRsp state connectionId requestorPid command faults).2 command faults
      device srb := by
  obtain ⟨element, listed, stored, heap, tagged, carries, after⟩ :=
    sendRsp_answers inv connectionId requestorPid command faults device srb answers
  have hasCommand : (state.ledger.srbs srb).cdb.isSome = true :=
    (inv.queues device).commands stored.tag srb ⟨element, listed, stored, heap, rfl, carries⟩
  rw [after]
  refine ⟨rfl, ?_, ⟨element, listed, stored, heap, tagged, carries,
    finishElement_unlinked ..⟩, ?_, ?_, rfl⟩
  · rw [← applyResponse_success_iff stored.range _ command faults hasCommand]
    change (Function.update state.ledger.srbs srb _ srb).srbStatus = _ ↔ _
    rw [Function.update_self]
  · exact fun other different => Function.update_of_ne different _ _
  · exact fun other different => (Function.update_of_ne different _ _).trans
      (Function.update_of_ne different _ _)

/-- A response completes an SRB exactly when its connection awaits its handle. -/
theorem response_routing (state : RoutingState)
    (path : StepSystem.Path routingNext NoWrap .initial state) (connectionId : UInt64)
    (requestorPid : UInt32) (command : SendRspCommand) (faults : ResponseFaults) :
    ((sendRsp state connectionId requestorPid command faults).2.ledger.reported ≠
        state.ledger.reported ↔
      ∃ device srb, Answers state connectionId requestorPid command.requestHandle device srb) ∧
      (∀ device srb, Answers state connectionId requestorPid command.requestHandle device srb →
        Completes state (sendRsp state connectionId requestorPid command faults).2 command faults
          device srb) ∧
      ((¬ ∃ device srb,
          Answers state connectionId requestorPid command.requestHandle device srb) →
        (sendRsp state connectionId requestorPid command faults).1 ≠ statusSuccess ∧
          (sendRsp state connectionId requestorPid command faults).2 = state) := by
  have inv := routingInv_of_path path
  refine ⟨⟨?_, ?_⟩, sendRsp_completes inv connectionId requestorPid command faults,
    sendRsp_refused inv connectionId requestorPid command faults⟩
  · intro changed
    by_contra nothing
    rw [(sendRsp_refused inv connectionId requestorPid command faults nothing).2] at changed
    exact changed rfl
  · rintro ⟨device, srb, answers⟩ same
    rw [(sendRsp_completes inv connectionId requestorPid command faults device srb answers).reported]
      at same
    have lengths := congrArg List.length same
    rw [List.length_append, List.length_singleton] at lengths
    exact absurd lengths (Nat.succ_ne_self _)

/-! ## A late reply after a remap -/

def mapAndWrite (connectionId : UInt64) : List RoutingCall :=
  [.create diskProps ⟨false, false, false⟩,
    .startIo (.connId connectionId) (some 0) (write10Srb 1 512),
    .fetch connectionId 4 4096 ⟨0, 0⟩]

/-- The disk is removed with a write in flight, and its name and address are used again. -/
def remapped : List RoutingCall :=
  mapAndWrite 2 ++ [.disconnect (.connId 2) true, .monitorRundown 0, .monitorDrain 0 .submitted,
    .monitorUnlink 0] ++ mapAndWrite 3

def writeDone (requestHandle : UInt64) : SendRspCommand :=
  { successfulResponse with requestHandle }

/-- The late reply for the first write, under the id of either disk, does not reach the
second, which only its own reply completes. -/
theorem response_routing_of_remap :
    ∃ state, StepSystem.Path routingNext NoWrap .initial state ∧
      Completes state (sendRsp state 3 4 (writeDone 2) ⟨0, 0⟩).2 (writeDone 2) ⟨0, 0⟩ 1 1 ∧
      (sendRsp state 2 4 (writeDone 1) ⟨0, 0⟩).2 = state ∧
      (sendRsp state 3 4 (writeDone 1) ⟨0, 0⟩).2 = state := by
  have allowed : StepSystem.AllAllowed routingNext NoWrap .initial remapped := by
    decide +kernel
  have enabled : (StepSystem.run routingNext .initial remapped).isSome = true := by
    decide +kernel
  obtain ⟨state, ran⟩ := Option.isSome_iff_exists.mp enabled
  have listed : state.adapter.deviceList = [1] :=
    StepSystem.field_of_run (·.adapter.deviceList) _ _ _ _ ran (by decide +kernel)
  have logged : state.history = [.submitted 2 1 0, .removed 2 1, .submitted 3 2 1] :=
    StepSystem.field_of_run (·.history) _ _ _ _ ran (by decide +kernel)
  have present : (state.adapter.devices 1).map (fun value => (value.connectionId,
      value.rundownProtection.waiting, value.properties.pid)) = some (3, false, 4) :=
    StepSystem.field_of_run (fun state => (state.adapter.devices 1).map fun value =>
      (value.connectionId, value.rundownProtection.waiting, value.properties.pid)) _ _ _ _ ran
      (by decide +kernel)
  obtain ⟨value, stored, known⟩ := Option.map_eq_some_iff.mp present
  simp only [Prod.mk.injEq] at known
  have path := StepSystem.path_of_run _ _ _ allowed ran
  refine ⟨state, path, ?_, ?_, ?_⟩
  · refine (response_routing state path 3 4 (writeDone 2) ⟨0, 0⟩).2.1 1 1
      ⟨?_, ⟨value, stored, known⟩, ?_⟩
    · rw [listed]
      exact List.mem_singleton.mpr rfl
    · rw [logged]
      decide
  · refine ((response_routing state path 2 4 (writeDone 1) ⟨0, 0⟩).2.2 ?_).2
    rintro ⟨device, srb, _, _, awaiting⟩
    rw [logged] at awaiting
    exact awaiting.2 (by decide)
  · refine ((response_routing state path 3 4 (writeDone 1) ⟨0, 0⟩).2.2 ?_).2
    rintro ⟨device, srb, _, _, awaiting⟩
    rw [logged] at awaiting
    simp [Awaiting, writeDone] at awaiting

end Wnbd.Routing
