import Wnbd.EndToEnd.Mapping
import Wnbd.Foundation.Placement

/-!
# Where a request is while the mapping works

A request handle is with one dispatcher, with the server or with the reply
worker.  `MappingInv` says so and relates these places to the submitted list and
to `PendingRequests`; it survives every step that is `Punctual`.
-/

set_option autoImplicit false

namespace Wnbd.EndToEnd

open Wnbd.Scsi Wnbd.Dispatch Wnbd.Nbd Placement MappingState

/-! ## Places -/

inductive HandlePlace
  | dispatcher (index : Nat)
  | wire
  | worker
deriving DecidableEq

def DispatcherPc.handle : DispatcherPc → Option UInt64
  | .handling request _ => some request.requestHandle
  | .sending sent => some sent.info.requestHandle
  | .fetching _ | .removing => none

def WorkerPc.handle : WorkerPc → Option UInt64
  | .responding command => some command.requestHandle
  | .reading | .stopped => none

def handles (state : MappingState) : HandlePlace → List UInt64
  | .dispatcher index => (state.dispatchers index).handle.toList
  | .wire => state.wire.map (·.handle)
  | .worker => state.worker.handle.toList

/-! ## Steps on time -/

/-- Storport issues no read or write above the advertised maximum. -/
def withinMaximum (mapping : NbdMapping) (srb : Srb) : Bool :=
  match srb.cdb, acceptedRange mapping.props (srb.setSrbStatus srbStatusAborted) with
  | some cdb, some range =>
      decide (scsiOpToWnbdReqType (cdb.asByte 0) = .read ∨
          scsiOpToWnbdReqType (cdb.asByte 0) = .write →
        range.dataLength ≤ wnbdDefaultMaxTransferLength)
  | _, _ => true

/-- No buffer lock or mapping fails, no transfer exceeds the maximum, and the
tag counter does not wrap. -/
def Undisturbed (mapping : NbdMapping) (state : MappingState) : MappingAction → Prop
  | .pend _ srb => withinMaximum mapping srb = true
  | .fetch _ faults => faults = ⟨0, 0⟩ ∧ state.requestHandle.toNat + 1 < 2 ^ 64
  | .fetchElsewhere => state.requestHandle.toNat + 1 < 2 ^ 64
  | .respond faults => faults = ⟨0, 0⟩
  | _ => True

/-- No response reaches the driver after its request was aborted, unless the
daemon already ignores errors. -/
def InTime (state : MappingState) : MappingAction → Prop
  | .respond _ =>
      match state.worker with
      | .responding command => state.terminateInProgress = true ∨
          (state.findSubmitted command.requestHandle).isSome = true
      | _ => True
  | _ => True

def Punctual (mapping : NbdMapping) (state : MappingState) (action : MappingAction) : Prop :=
  Undisturbed mapping state action ∧ InTime state action

instance (mapping : NbdMapping) (state : MappingState) (action : MappingAction) :
    Decidable (Undisturbed mapping state action) := by
  cases action <;> unfold Undisturbed <;> infer_instance

instance (state : MappingState) (action : MappingAction) : Decidable (InTime state action) := by
  cases action <;> unfold InTime <;> first | infer_instance | (dsimp only; split <;> infer_instance)

instance (mapping : NbdMapping) (state : MappingState) (action : MappingAction) :
    Decidable (Punctual mapping state action) :=
  inferInstanceAs (Decidable (_ ∧ _))

/-! ## Invariant -/

/-- A request whose read or write fits a dispatcher's buffer. -/
def Fits (request : QueuedRequest) : Prop :=
  ∀ cdb, request.srb.cdb = some cdb →
    scsiOpToWnbdReqType (cdb.asByte 0) = .read ∨ scsiOpToWnbdReqType (cdb.asByte 0) = .write →
    request.range.dataLength ≤ wnbdDefaultMaxTransferLength

structure MappingInv (mapping : NbdMapping) (state : MappingState) : Prop where
  exclusive : Exclusive (handles state)
  placedKnown : ∀ place handle, handle ∈ handles state place →
    handle.toNat ≤ state.requestHandle.toNat
  submittedKnown : ∀ request ∈ state.submittedReqList,
    request.tag.toNat ≤ state.requestHandle.toNat
  entriesKnown : ∀ handle, state.pendingRequests handle ≠ none →
    handle.toNat ≤ state.requestHandle.toNat
  submittedOnce : (state.submittedReqList.map (·.tag)).Nodup
  onItsWay : ∀ request ∈ state.submittedReqList, ∃ place, request.tag ∈ handles state place
  handling : ∀ index request payload, state.dispatchers index = .handling request payload →
    state.pendingRequests request.requestHandle = none ∧ ∀ buffer, ∃ sent,
      wnbdHandleRequest mapping.props request payload buffer = some sent ∧
        SentFor request.requestHandle sent
  sending : ∀ index sent, state.dispatchers index = .sending sent →
    state.pendingRequests sent.info.requestHandle ≠ none ∧ SentFor sent.info.requestHandle sent
  wireEntry : ∀ header ∈ state.wire, state.pendingRequests header.handle ≠ none
  entryFits : ∀ handle info, state.pendingRequests handle = some info →
    info.requestType = .read → info.length ≤ preallocatedRBuffSz
  pendingFits : ∀ request ∈ state.pendingReqList, Fits request
  submittedCdb : ∀ request ∈ state.submittedReqList, request.srb.cdb ≠ none
  working : state.worker ≠ .stopped
  buffered : ∀ command, state.worker = .responding command →
    command.hasBuffer = false → command.dataBufferSize = 0
  dispatching : ∀ index, state.dispatchers index ≠ .removing ∧
    ∀ status, state.dispatchers index = .fetching status → status = statusSuccess

theorem mappingInv_initial (mapping : NbdMapping) : MappingInv mapping .initial where
  exclusive := ⟨fun place => by cases place <;> exact List.nodup_nil,
    fun place _ _ member => by cases place <;> cases member⟩
  placedKnown place _ member := by cases place <;> cases member
  submittedKnown _ member := by cases member
  entriesKnown _ entry := absurd rfl entry
  submittedOnce := List.nodup_nil
  onItsWay _ member := by cases member
  handling _ _ _ pc := by cases pc
  sending _ _ pc := by cases pc
  wireEntry _ member := by cases member
  entryFits _ _ entry := by cases entry
  pendingFits _ member := by cases member
  submittedCdb _ member := by cases member
  working := by decide
  buffered _ pc := by cases pc
  dispatching _ := by
    refine ⟨fun pc => ?_, fun status pc => ?_⟩
    · cases pc
    · exact (DispatcherPc.fetching.inj pc).symm

/-! ## Dispatchers change hands -/

section Dispatcher

variable (state : MappingState) (index : Nat) (pc : DispatcherPc)

theorem handles_dispatcher_of_ne (place : HandlePlace) (other : place ≠ .dispatcher index) :
    handles (state.setDispatcher index pc) place = handles state place := by
  cases place with
  | dispatcher found =>
      have different : found ≠ index := fun same => other (by rw [same])
      simp [handles, setDispatcher, Function.update_of_ne different]
  | wire | worker => rfl

theorem puts_dispatcher (handle : UInt64) (empty : (state.dispatchers index).handle = none)
    (full : pc.handle = some handle) :
    Puts (handles state) (handles (state.setDispatcher index pc)) handle (.dispatcher index) where
  here := by simp [handles, setDispatcher, full, empty]
  others place other := handles_dispatcher_of_ne state index pc place other

theorem takes_dispatcher (handle : UInt64)
    (full : (state.dispatchers index).handle = some handle) (empty : pc.handle = none) :
    Puts (handles (state.setDispatcher index pc)) (handles state) handle (.dispatcher index) where
  here := by simp [handles, setDispatcher, full, empty]
  others place other := (handles_dispatcher_of_ne state index pc place other).symm

theorem handles_setDispatcher (same : pc.handle = (state.dispatchers index).handle)
    (place : HandlePlace) :
    handles (state.setDispatcher index pc) place = handles state place := by
  by_cases own : place = .dispatcher index
  · subst own
    simp [handles, setDispatcher, same]
  · exact handles_dispatcher_of_ne state index pc place own

theorem setDispatcher_cases (found : Nat) (value : DispatcherPc)
    (here : (state.setDispatcher index pc).dispatchers found = value) :
    (found = index ∧ value = pc) ∨ (found ≠ index ∧ state.dispatchers found = value) := by
  by_cases own : found = index
  · subst own
    simp only [setDispatcher, Function.update_self] at here
    exact Or.inl ⟨rfl, here.symm⟩
  · simp only [setDispatcher, Function.update_of_ne own] at here
    exact Or.inr ⟨own, here⟩

end Dispatcher

end Wnbd.EndToEnd
