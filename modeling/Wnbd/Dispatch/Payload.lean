import Wnbd.Dispatch.FetchAtomic
import Wnbd.Foundation.TracedBuffer

/-!
# The payload a fetch declares

A fetched write, UNMAP or PERSISTENT RESERVE OUT tells the handler how many bytes
of the user buffer are its payload; the call has written some of them.
`own_payload_iff` says for which inputs these are the same bytes, and the SRB's: a
request left over from an earlier turn declares bytes nobody wrote, the length in a
PERSISTENT RESERVE OUT CDB may exceed what is copied, and what is copied may exceed
the data buffer of the SRB.
-/

set_option autoImplicit false

namespace Wnbd.Dispatch

open BigEndian CLayout TracedBuffer Wnbd.Scsi FetchRound

/-! ## What is declared and what is written -/

/-- The bytes of the user buffer a handler reads for a request. -/
def declaredLength (props : WnbdProperties) (request : WnbdIoRequest) : Nat :=
  match request.requestType, request.cmd with
  | .write, .write _ blockCount _ => blockCount.toNat * props.blockSize.toNat
  | .unmap, .unmap count => count.toNat * wnbdUnmapDescriptorSize.toNat
  | .persistResOut, .persistResOut _ _ _ parameterListLength => parameterListLength.toNat
  | _, _ => 0

def unmapDescriptorBytes (blockAddress : UInt64) (blockCount : UInt32) : Nat → UInt8 :=
  store (store (fun _ => 0) ⟨0, 8⟩ (leBytes blockAddress.toNat)) ⟨8, 4⟩ (leBytes blockCount.toNat)

namespace FetchPayload

def length : FetchPayload → Nat
  | .untouched => 0
  | .unmapDescriptor _ _ => wnbdUnmapDescriptorSize.toNat
  | .srbBytes count => count.toNat

/-- The bytes the fetch writes; `srbMemory` is the memory from the SRB's data buffer on. -/
def bytes (srbMemory : Nat → UInt8) : FetchPayload → Nat → UInt8
  | .unmapDescriptor blockAddress blockCount => unmapDescriptorBytes blockAddress blockCount
  | .untouched | .srbBytes _ => srbMemory

def write (payload : FetchPayload) (srbMemory : Nat → UInt8) (buffer : Memory) : Memory :=
  store buffer ⟨0, payload.length⟩ (payload.bytes srbMemory)

theorem write_untouched (srbMemory : Nat → UInt8) (buffer : Memory) :
    FetchPayload.untouched.write srbMemory buffer = buffer := by
  funext offset
  rw [write, store, if_neg]
  intro inside
  have past : offset < 0 + 0 := inside.2
  omega

end FetchPayload

/-- The bytes of the data buffer of the SRB at the head of the queue. -/
def FetchRound.srbLength (round : FetchRound) : Nat :=
  match round.popped with
  | some element => element.srb.dataTransferLength.toNat
  | none => 0

/-- A round, with the memory from the data buffer of its SRB on; only the first
`DataTransferLength` bytes are the SRB's. -/
structure PayloadRound where
  round : FetchRound
  srbMemory : Nat → UInt8

/-- `dispatchLoop` with what the call does to the user buffer. -/
def payloadLoop (props : WnbdProperties) (bufferSize : UInt32) :
    List PayloadRound → Bool → NtStatus → WnbdIoRequest → Memory →
      Option (DispatchResult × Memory)
  | [], _, _, _, _ => none
  | ⟨round, srbMemory⟩ :: rest, hardRemove, status, request, buffer =>
      match dispatchTurn props bufferSize round hardRemove status request with
      | .returns result payload => some (result, payload.write srbMemory buffer)
      | .goesOn hardRemove status request =>
          payloadLoop props bufferSize rest hardRemove status request buffer

def wnbdDispatchPayload (props : WnbdProperties) (requestorPid bufferSize : UInt32)
    (initial : WnbdIoRequest) (rounds : List PayloadRound) (buffer : Memory) :
    Option (DispatchResult × Memory) :=
  if props.pid ≠ requestorPid ∨ props.flags.useKernelNbd then
    some (⟨statusAccessDenied, initial, [], false, false⟩, buffer)
  else payloadLoop props bufferSize rounds false statusSuccess initial buffer

/-- The buffer does not matter for what the call returns. -/
theorem payloadLoop_result (props : WnbdProperties) (bufferSize : UInt32)
    (rounds : List PayloadRound) (hardRemove : Bool) (status : NtStatus) (request : WnbdIoRequest)
    (buffer : Memory) :
    (payloadLoop props bufferSize rounds hardRemove status request buffer).map Prod.fst =
      dispatchLoop props bufferSize (rounds.map (·.round)) hardRemove status request := by
  induction rounds generalizing hardRemove status request with
  | nil => rfl
  | cons first rest hypothesis =>
      rw [List.map_cons, dispatchLoop_cons, payloadLoop]
      cases dispatchTurn props bufferSize first.round hardRemove status request with
      | returns result payload => rfl
      | goesOn hardRemove status request => exact hypothesis hardRemove status request

/-! ## Declared lengths by the inputs -/

namespace FetchRound

def parameterListLength (round : FetchRound) : Nat :=
  match round.popped.bind (·.srb.cdb) with
  | some cdb => (UInt16.ofNat (ofBytes [cdb.asByte 7, cdb.asByte 8])).toNat
  | none => 0

def declared (props : WnbdProperties) (round : FetchRound) : Nat :=
  match round.requestType with
  | .write => (round.lockLength / props.blockSize).toNat * props.blockSize.toNat
  | .unmap => wnbdUnmapDescriptorSize.toNat
  | .persistResOut => round.parameterListLength
  | _ => 0

end FetchRound

theorem fetchElement_declared (props : WnbdProperties) (bufferSize : UInt32) (round : FetchRound)
    (element : PendingElement) (popped : round.popped = some element)
    (valid : round.Validates props) :
    declaredLength props (fetchElement props bufferSize round.tag element.range element.srb
      round.faults).request = round.declared props := by
  obtain ⟨other, otherPopped, isValid⟩ := valid
  cases popped.symm.trans otherPopped
  cases found : element.srb.cdb with
  | none =>
      rw [found] at isValid
      cases isValid
  | some cdb =>
      rw [found] at isValid
      have kind : round.requestType = scsiOpToWnbdReqType (cdb.asByte 0) := by
        simp [FetchRound.requestType, popped, found]
      have list : round.parameterListLength =
          (UInt16.ofNat (ofBytes [cdb.asByte 7, cdb.asByte 8])).toNat := by
        simp [FetchRound.parameterListLength, popped, found]
      rw [FetchRound.declared, list, FetchRound.lockLength, kind, popped]
      simp only [fetchElement, Srb.setDataTransferLength_cdb, found, isValid, if_true,
        declaredLength]
      cases scsiOpToWnbdReqType (cdb.asByte 0) with
      | unmap => exact Nat.one_mul _
      | write | persistResOut | read | flush | persistResIn | unknown | disconnect => rfl

def PayloadRound.bytes (props : WnbdProperties) (payload : PayloadRound) : Nat → UInt8 :=
  match payload.round.popped, payload.round.requestType with
  | some element, .unmap =>
      unmapDescriptorBytes (element.range.startingLbn / props.blockSize.toUInt64)
        (element.range.dataLength / props.blockSize)
  | _, _ => payload.srbMemory

/-- A submitted element has as many bytes written as it needs locked: its own. -/
theorem payload_written (props : WnbdProperties) (bufferSize : UInt32) (round : FetchRound)
    (element : PendingElement) (popped : round.popped = some element)
    (valid : round.Validates props) (payload : FetchPayload)
    (submits : (fetchElement props bufferSize round.tag element.range element.srb
      round.faults).verdict = .submit payload) :
    payload.length = round.lockLength.toNat ∧
      ∀ srbMemory, payload.bytes srbMemory = PayloadRound.bytes props ⟨round, srbMemory⟩ := by
  rw [fetchElement_verdict props bufferSize round element popped valid,
    fetchVerdict_lockLength props bufferSize round element popped] at submits
  by_cases small : round.lockLength > bufferSize
  · rw [if_pos small] at submits
    cases submits
  rw [if_neg small] at submits
  by_cases empty : round.lockLength = 0
  · rw [if_pos empty] at submits
    cases submits
    refine ⟨by rw [empty]; rfl, fun srbMemory => ?_⟩
    rw [FetchRound.lockLength, popped] at empty
    rw [PayloadRound.bytes, popped]
    cases kind : round.requestType with
    | unmap =>
        rw [kind] at empty
        cases empty
    | write | persistResOut | read | flush | persistResIn | unknown | disconnect => rfl
  rw [if_neg empty] at submits
  by_cases failed : round.faults.lockStatus ≠ 0
  · rw [if_pos failed] at submits
    cases submits
  rw [if_neg failed] at submits
  by_cases unmap : round.requestType = .unmap
  · rw [if_pos unmap] at submits
    cases submits
    refine ⟨?_, fun srbMemory => ?_⟩
    · rw [FetchRound.lockLength, popped, unmap]
      rfl
    · rw [PayloadRound.bytes, popped, unmap]
      rfl
  rw [if_neg unmap] at submits
  by_cases stor : round.faults.storResult ≠ 0
  · rw [if_pos stor] at submits
    cases submits
  rw [if_neg stor] at submits
  cases submits
  have length : round.lockLength = element.range.dataLength := by
    rw [FetchRound.lockLength, popped] at empty ⊢
    cases kind : round.requestType with
    | write | persistResOut => rfl
    | unmap => exact absurd kind unmap
    | read | flush | persistResIn | unknown | disconnect =>
        rw [kind] at empty
        exact absurd rfl empty
  refine ⟨by rw [length]; rfl, fun srbMemory => ?_⟩
  rw [PayloadRound.bytes, popped]
  cases kind : round.requestType with
  | unmap => exact absurd kind unmap
  | write | persistResOut | read | flush | persistResIn | unknown | disconnect => rfl

/-- The bytes the fetch writes that are the request's own: of the data it copies those
in the SRB's buffer, and the descriptor it fills in. -/
def FetchRound.ownLength (round : FetchRound) : Nat :=
  match round.requestType with
  | .unmap => round.lockLength.toNat
  | _ => min round.lockLength.toNat round.srbLength

theorem ownLength_le (round : FetchRound) : round.ownLength ≤ round.lockLength.toNat := by
  unfold FetchRound.ownLength
  split
  · exact Nat.le_refl _
  · exact Nat.min_le_left _ _

/-! ## Own payloads -/

/-- The same SRBs with the same data, whatever the memory behind their buffers holds. -/
def SameSrbs (rounds others : List PayloadRound) : Prop :=
  List.Forall₂ (fun round other => round.round = other.round ∧
    ∀ index, index < round.round.srbLength → round.srbMemory index = other.srbMemory index)
    rounds others

theorem SameSrbs.refl (rounds : List PayloadRound) : SameSrbs rounds rounds :=
  List.forall₂_same.mpr fun _ _ => ⟨rfl, fun _ _ => rfl⟩

theorem SameSrbs.rounds {rounds others : List PayloadRound} (same : SameSrbs rounds others) :
    rounds.map (·.round) = others.map (·.round) := by
  induction same with
  | nil => rfl
  | cons first _ hypothesis => rw [List.map_cons, List.map_cons, first.1, hypothesis]

/-- The bytes a request declares do not depend on what the buffer or the memory behind
the SRBs held, and are those of the element with its handle. -/
structure OwnPayload (props : WnbdProperties) (rounds : List PayloadRound)
    (request : WnbdIoRequest) (after : List PayloadRound → Memory → Memory) : Prop where
  independent : ∀ others, SameSrbs rounds others → ∀ old other index,
    index < declaredLength props request → after rounds old index = after others other index
  own : 0 < declaredLength props request → ∃ served ∈ rounds, served.round.Takes ∧
    served.round.tag = request.requestHandle ∧ ∀ old index,
      index < declaredLength props request → after rounds old index = served.bytes props index

section Exits

variable {props : WnbdProperties} {rounds : List PayloadRound} {request : WnbdIoRequest}
  {after : List PayloadRound → Memory → Memory}

theorem ownPayload_of_nothing (nothing : declaredLength props request = 0) :
    OwnPayload props rounds request after where
  independent _ _ _ _ index small := absurd small (by rw [nothing]; exact Nat.not_lt_zero index)
  own some := absurd some (by rw [nothing]; exact Nat.lt_irrefl 0)

/-- Two buffers that differ everywhere still differ where nothing was written. -/
theorem store_dependent {length declared : Nat} (bytes : Nat → UInt8) (short : length < declared) :
    ¬ ∀ (old other : Memory) (index : Nat), index < declared →
      store old ⟨0, length⟩ bytes index = store other ⟨0, length⟩ bytes index := by
  intro same
  have outside : ¬ ((⟨0, length⟩ : Region).offset ≤ length ∧
      length < (⟨0, length⟩ : Region).stop) := fun both => by
    have inside : length < 0 + length := both.2
    omega
  have equal := same (fun _ => 0) (fun _ => 1) length short
  rw [store, store, if_neg outside, if_neg outside] at equal
  cases equal

theorem store_inside {length index : Nat} (old : Memory) (bytes : Nat → UInt8)
    (inside : index < length) : store old ⟨0, length⟩ bytes index = bytes index := by
  have place : (⟨0, length⟩ : Region).offset ≤ index ∧ index < (⟨0, length⟩ : Region).stop :=
    ⟨Nat.zero_le _, by rw [Region.stop, Nat.zero_add]; exact inside⟩
  rw [store, if_pos place]
  rfl

end Exits

/-! ## Inputs that leak -/

section Leaks

variable (props : WnbdProperties) (bufferSize : UInt32)

/-- `Status` is clear and the request declares bytes after these rounds: those of
the last element taken, which could not be mapped, or those of the caller's record. -/
def DeclaresAfter (status : NtStatus) (request : WnbdIoRequest) (earlier : List FetchRound) :
    Prop :=
  LastMatch (fun round => round.Unmapped props bufferSize ∧ 0 < round.declared props) Takes
      earlier ∨
    ((∀ round ∈ earlier, ¬ round.Takes) ∧ status = statusSuccess ∧
      0 < declaredLength props request)

/-- A request that declares more than is copied for it, or than its SRB has, is handed
over, the flag stays clear, and no `error` is left in `Status`. -/
structure SubmitsShort (error : Prop) (last : FetchRound) : Prop where
  wait : last.wait = .deviceEvent
  check : last.raisedBeforeCheck = false
  move : last.raisedBeforeMove = false
  exit : last.raisedBeforeExit = false
  submits : last.Submits props bufferSize
  short : last.ownLength < last.declared props
  noError : last.LocksBuffer props bufferSize ∨ ¬ error

/-- The inputs on which the caller is told to read bytes this call did not write, or not
from the SRB. -/
def LeaksPayload (initial : WnbdIoRequest) (rounds : List FetchRound) : Prop :=
  Reaches (Retries props bufferSize) (fun earlier last => last.raisedBeforeTop = false ∧
    (LeavesStale (DeclaresAfter props bufferSize statusSuccess initial earlier) last ∨
      SubmitsShort props bufferSize (StaleError props bufferSize earlier) last)) rounds

def LeaksFrom (status : NtStatus) (request : WnbdIoRequest) (rounds : List FetchRound) : Prop :=
  Reaches (Retries props bufferSize) (fun earlier last => last.raisedBeforeTop = false ∧
    (LeavesStale (DeclaresAfter props bufferSize status request earlier) last ∨
      SubmitsShort props bufferSize (ErrorAfter props bufferSize status earlier) last)) rounds

/-- What leaks in the round the call ends in. -/
def LeakyRound (status : NtStatus) (request : WnbdIoRequest) (round : FetchRound) : Prop :=
  round.raisedBeforeTop = false ∧
    (LeavesStale (status = statusSuccess ∧ 0 < declaredLength props request) round ∨
      SubmitsShort props bufferSize (status ≠ statusSuccess) round)

theorem declaresAfter_cons (round : FetchRound) (earlier : List FetchRound) (status : NtStatus)
    (request : WnbdIoRequest) (retries : round.Retries props bufferSize) :
    DeclaresAfter props bufferSize status request (round :: earlier) ↔
      DeclaresAfter props bufferSize (afterRound props bufferSize round status request).1
        (afterRound props bufferSize round status request).2 earlier := by
  unfold DeclaresAfter
  rw [LastMatch.cons, List.forall_mem_cons, or_assoc]
  refine or_congr_right ?_
  cases popped : round.popped with
  | none =>
      have idle : ¬ round.Takes := by simp [Takes, popped]
      have noUnmapped : ¬ round.Unmapped props bufferSize := fun unmapped =>
        idle (takes_of_locks props bufferSize round unmapped.1)
      simp [afterRound, popped, idle, noUnmapped]
  | some element =>
      have takes : round.Takes := by simp [Takes, popped]
      have taken := fetchElement_taken props bufferSize round element popped
      have declares := fetchElement_declared props bufferSize round element popped
      simp only [afterRound, popped, takes, not_true_eq_false, false_and, or_false]
      cases taken with
      | invalid refused verdict request =>
          have noUnmapped : ¬ round.Unmapped props bufferSize := fun unmapped =>
            refused unmapped.1.1
          rw [request]
          simp [noUnmapped, WnbdIoRequest.zero, declaredLength]
      | tooSmall verdict unserved valid =>
          exact absurd (retries_locks props bufferSize round retries takes valid) unserved.2
      | lockFailed fails verdict =>
          have noUnmapped : ¬ round.Unmapped props bufferSize := fun unmapped =>
            fails.2 unmapped.2.1
          rw [verdict]
          simp [FetchVerdict.status, noUnmapped, fails.2, statusSuccess]
      | unmapped unmapped verdict isIo =>
          rw [verdict, declares unmapped.1.1]
          simp [FetchVerdict.status, unmapped, and_comm]
      | submits submits payload verdict status isIo handle =>
          exact absurd submits (retries_not_submits props bufferSize round retries)

theorem leaksFrom_cons (status : NtStatus) (request : WnbdIoRequest) (round : FetchRound)
    (rounds : List FetchRound) :
    LeaksFrom props bufferSize status request (round :: rounds) ↔
      LeakyRound props bufferSize status request round ∨
        (round.Retries props bufferSize ∧ LeaksFrom props bufferSize
          (afterRound props bufferSize round status request).1
          (afterRound props bufferSize round status request).2 rounds) := by
  have requestNow : DeclaresAfter props bufferSize status request [] ↔
      (status = statusSuccess ∧ 0 < declaredLength props request) := by
    simp [DeclaresAfter, LastMatch.nil]
  have errorNow : ErrorAfter props bufferSize status [] ↔ status ≠ statusSuccess := by
    simp [ErrorAfter, StaleError, LastMatch.nil]
  refine (Reaches.cons round rounds).trans (or_congr ?_ (and_congr_right fun retries => ?_))
  · rw [propext requestNow, propext errorNow]
    rfl
  · refine Reaches.congr fun earlier last => ?_
    rw [propext (declaresAfter_cons props bufferSize round earlier status request retries),
      propext (errorAfter_cons props bufferSize round earlier status request retries)]

theorem leaky_not_retries (status : NtStatus) (request : WnbdIoRequest) (round : FetchRound)
    (leaky : LeakyRound props bufferSize status request round) :
    ¬ round.Retries props bufferSize := by
  intro retries
  rcases leaky.2 with stale | short
  · exact stale.wait retries.wait
  · exact retries_not_submits props bufferSize round retries short.submits

end Leaks

/-! ## The loop -/

/-- The payload is the request's own, or the inputs leak and it is not. -/
structure Judged (props : WnbdProperties) (rounds : List PayloadRound) (result : DispatchResult)
    (after : List PayloadRound → Memory → Memory) (leaks : Prop) : Prop where
  sound : ¬ leaks → result.status = statusSuccess →
    OwnPayload props rounds result.request after
  leaky : leaks → result.status = statusSuccess ∧
    ¬ ∀ others, SameSrbs rounds others → ∀ old other index,
      index < declaredLength props result.request → after rounds old index = after others other index

section Judgements

variable {props : WnbdProperties} {bufferSize : UInt32} {rounds : List PayloadRound}
  {result : DispatchResult} {after : List PayloadRound → Memory → Memory}

theorem Judged.of_nothing {leaks : Prop} (nothing : declaredLength props result.request = 0)
    (sound : ¬ leaks) : Judged props rounds result after leaks where
  sound _ _ := ownPayload_of_nothing nothing
  leaky holds := absurd holds sound

theorem payloadLoop_raised (status : NtStatus) (request : WnbdIoRequest) (buffer written : Memory)
    (returned : payloadLoop props bufferSize rounds true status request buffer =
      some (result, written)) : declaredLength props result.request = 0 := by
  cases rounds with
  | nil => cases returned
  | cons first rest =>
      simp only [payloadLoop, dispatchTurn, Bool.true_or, if_true] at returned
      have same : dispatchExit true status request [] false = result :=
        congrArg Prod.fst (Option.some.inj returned)
      rw [← same]
      rfl

/-- The call returns what it has, and wrote nothing. -/
theorem judged_unwritten (status : NtStatus) (request : WnbdIoRequest) (raised : Bool)
    {leaks : Prop}
    (unwritten : ∀ buffer, after rounds buffer = buffer)
    (leaksIff : leaks ↔ raised = false ∧ status = statusSuccess ∧
      0 < declaredLength props request) :
    Judged props rounds (dispatchExit raised status request [] false) after leaks := by
  cases raised with
  | true => exact .of_nothing rfl fun holds => by cases (leaksIff.mp holds).1
  | false =>
      refine ⟨fun sound success => ownPayload_of_nothing ?_, fun holds => ?_⟩
      · by_contra declares
        exact sound (leaksIff.mpr ⟨rfl, success, Nat.pos_of_ne_zero declares⟩)
      · obtain ⟨-, success, declares⟩ := leaksIff.mp holds
        refine ⟨success, fun same => ?_⟩
        have equal := same rounds (.refl rounds) (fun _ => 0) (fun _ => 1) 0 declares
        rw [unwritten, unwritten] at equal
        cases equal

/-- Of the request's own bytes the memory behind the SRB's buffer has none. -/
theorem bytes_of_own (first : PayloadRound) (srbMemory : Nat → UInt8) (index : Nat)
    (own : index < first.round.ownLength)
    (agrees : ∀ index, index < first.round.srbLength → first.srbMemory index = srbMemory index) :
    first.bytes props index = PayloadRound.bytes props ⟨first.round, srbMemory⟩ index := by
  unfold PayloadRound.bytes
  cases popped : first.round.popped with
  | none =>
      have nothing : first.round.ownLength ≤ 0 := by
        have empty : first.round.lockLength = 0 := by simp [FetchRound.lockLength, popped]
        have bound := ownLength_le first.round
        rw [empty] at bound
        exact bound
      omega
  | some element =>
      rw [FetchRound.ownLength] at own
      cases kind : first.round.requestType with
      | unmap => rfl
      | write | persistResOut | read | flush | persistResIn | unknown | disconnect =>
          rw [kind] at own
          exact agrees index (own.trans_le (Nat.min_le_right _ _))

/-- Behind the end of the SRB's buffer the fetch copies whatever the memory holds there. -/
theorem bytes_dependent (first : PayloadRound) (index : Nat)
    (copied : index < first.round.lockLength.toNat) (foreign : first.round.ownLength ≤ index) :
    ∃ srbMemory : Nat → UInt8,
      (∀ index, index < first.round.srbLength → first.srbMemory index = srbMemory index) ∧
      first.bytes props index ≠ PayloadRound.bytes props ⟨first.round, srbMemory⟩ index := by
  have plain : ∀ srbMemory, PayloadRound.bytes props ⟨first.round, srbMemory⟩ = srbMemory := by
    intro srbMemory
    rw [PayloadRound.bytes]
    split
    · rename_i unmap
      rw [FetchRound.ownLength, unmap] at foreign
      exact absurd copied (Nat.not_lt.mpr foreign)
    · rfl
  have behind : first.round.srbLength ≤ index := by
    rw [FetchRound.ownLength] at foreign
    split at foreign
    · omega
    · omega
  refine ⟨Function.update first.srbMemory index (first.srbMemory index + 1), ?_, ?_⟩
  · intro other inside
    have apart : other ≠ index := by omega
    rw [Function.update_of_ne apart]
  · rw [plain first.srbMemory, plain, Function.update_self]
    intro same
    simp at same

theorem judged_submits (first : PayloadRound) (status : NtStatus) (request : WnbdIoRequest)
    (raised atMove : Bool) (payload : FetchPayload) (moved : List MovedElement) {leaks : Prop}
    (written : ∀ srbMemory others, SameSrbs (first :: rounds) (⟨first.round, srbMemory⟩ :: others) →
      ∀ buffer, after (⟨first.round, srbMemory⟩ :: others) buffer =
        payload.write srbMemory buffer)
    (takes : first.round.Takes) (handle : request.requestHandle = first.round.tag)
    (declares : declaredLength props request = first.round.declared props)
    (payloadOf : payload.length = first.round.lockLength.toNat ∧
      ∀ srbMemory, payload.bytes srbMemory = PayloadRound.bytes props ⟨first.round, srbMemory⟩)
    (leaksIff : leaks ↔ raised = false ∧ status = statusSuccess ∧
      first.round.ownLength < first.round.declared props) :
    Judged props (first :: rounds) (dispatchExit raised status request moved atMove) after leaks := by
  cases raised with
  | true => exact .of_nothing rfl fun holds => by cases (leaksIff.mp holds).1
  | false =>
  have inside : ∀ srbMemory others, SameSrbs (first :: rounds) (⟨first.round, srbMemory⟩ :: others) →
      ∀ {index : Nat}, index < first.round.lockLength.toNat → ∀ buffer,
        after (⟨first.round, srbMemory⟩ :: others) buffer index =
          PayloadRound.bytes props ⟨first.round, srbMemory⟩ index := by
    intro srbMemory others same index small buffer
    rw [written srbMemory others same, FetchPayload.write, payloadOf.2,
      store_inside _ _ (payloadOf.1 ▸ small)]
  have here : ∀ {index : Nat}, index < first.round.lockLength.toNat → ∀ buffer,
      after (first :: rounds) buffer index = first.bytes props index :=
    inside first.srbMemory rounds (.refl _)
  refine ⟨fun sound success => ?_, fun holds => ?_⟩
  · have enough : declaredLength props request ≤ first.round.ownLength := by
      rw [declares]
      by_contra short
      exact sound (leaksIff.mpr ⟨rfl, success, Nat.lt_of_not_le short⟩)
    have copied := enough.trans (ownLength_le first.round)
    refine ⟨fun others same old other index small => ?_, fun _ =>
      ⟨first, List.mem_cons_self, takes, handle.symm, fun old index small => ?_⟩⟩
    · cases same with
      | @cons _ second _ rest head tail =>
          obtain ⟨secondRound, srbMemory⟩ := second
          obtain ⟨rfl, agrees⟩ := head
          have there := inside srbMemory rest (.cons ⟨rfl, agrees⟩ tail) (small.trans_le copied)
          rw [here (small.trans_le copied) old, there other]
          exact bytes_of_own first srbMemory index (small.trans_le enough) agrees
    · exact here (small.trans_le copied) old
  · obtain ⟨-, success, short⟩ := leaksIff.mp holds
    refine ⟨success, fun same => ?_⟩
    by_cases uncopied : first.round.lockLength.toNat < first.round.declared props
    case pos =>
      rw [← payloadOf.1] at uncopied
      refine store_dependent (payload.bytes first.srbMemory) uncopied fun old other index small => ?_
      have equal := same (first :: rounds) (.refl _) old other index (declares ▸ small)
      rw [written first.srbMemory rounds (.refl _), written first.srbMemory rounds (.refl _)] at equal
      exact equal
    case neg =>
      have inLock := short.trans_le (Nat.not_lt.mp uncopied)
      obtain ⟨srbMemory, agrees, differs⟩ := @bytes_dependent props first
        first.round.ownLength inLock (Nat.le_refl _)
      have others : SameSrbs (first :: rounds) (⟨first.round, srbMemory⟩ :: rounds) :=
        .cons ⟨rfl, agrees⟩ (SameSrbs.refl rounds)
      have equal := same _ others (fun _ => 0) (fun _ => 0) first.round.ownLength
        (declares ▸ short)
      rw [here inLock, inside srbMemory rounds others inLock] at equal
      exact differs equal

/-- The turn the call ends in: its own fault is the only one. -/
theorem turn_judged (first : PayloadRound) (status : NtStatus) (request : WnbdIoRequest)
    {payload : FetchPayload}
    (ends : TurnEnds props bufferSize first.round status request (.returns result payload))
    (written : ∀ srbMemory others, SameSrbs (first :: rounds) (⟨first.round, srbMemory⟩ :: others) →
      ∀ buffer, after (⟨first.round, srbMemory⟩ :: others) buffer =
        payload.write srbMemory buffer) :
    ¬ first.round.Retries props bufferSize ∧ Judged props (first :: rounds) result after
      (LeakyRound props bufferSize status request first.round) := by
  cases ends with
  | raised quits =>
      refine ⟨fun retries => ?_, .of_nothing rfl ?_⟩
      · rcases quits with raised | ⟨_, raised⟩
        · rw [retries.top] at raised
          cases raised
        · rw [retries.check] at raised
          cases raised
      · rintro ⟨top, stale | short⟩
        · rcases quits with raised | ⟨wait, _⟩
          · rw [top] at raised
            cases raised
          · exact stale.wait wait
        · rcases quits with raised | ⟨_, raised⟩
          · rw [top] at raised
            cases raised
          · rw [short.check] at raised
            cases raised
  | waits top wait =>
      refine ⟨fun retries => wait retries.wait, judged_unwritten status request _ ?_ ?_⟩
      · intro buffer
        exact (written first.srbMemory rounds (.refl _) buffer).trans
          (FetchPayload.write_untouched _ _)
      · rw [Bool.or_eq_false_iff, Bool.or_eq_false_iff]
        constructor
        · rintro ⟨_, stale | short⟩
          · exact ⟨⟨⟨stale.check, stale.move⟩, stale.exit⟩, stale.stale⟩
          · exact absurd short.wait wait
        · rintro ⟨⟨⟨check, move⟩, exit⟩, stale⟩
          exact ⟨top, Or.inl ⟨wait, check, move, exit, stale⟩⟩
  | tooSmall past takes valid unserved partly =>
      refine ⟨fun retries => unserved.2 (retries_locks props bufferSize _ retries takes valid), ?_⟩
      refine ⟨fun _ success => ?_, fun leaky => ?_⟩
      · cases raised : first.round.raisedBeforeMove || first.round.raisedBeforeExit with
        | true => exact ownPayload_of_nothing rfl
        | false =>
            rw [raised] at success
            have failed : statusBufferTooSmall ≠ statusSuccess := by decide
            exact absurd success failed
      · rcases leaky.2 with stale | short
        · exact absurd past.wait stale.wait
        · exact absurd short.submits unserved.1
  | submits past submits element popped payload verdict now locked isIo handle =>
      refine ⟨fun retries => retries_not_submits props bufferSize _ retries submits, ?_⟩
      refine judged_submits first _ _ _ _ payload _ written (by simp [Takes, popped]) handle
        (fetchElement_declared props bufferSize _ element popped submits.1)
        (payload_written props bufferSize _ element popped submits.1 payload verdict) ?_
      rw [Bool.or_eq_false_iff]
      constructor
      · rintro ⟨_, stale | short⟩
        · exact absurd past.wait stale.wait
        · refine ⟨⟨short.move, short.exit⟩, ?_, short.short⟩
          rcases locked with ⟨success, _⟩ | ⟨kept, free⟩
          · exact success
          · rw [kept]
            exact not_not.mp (short.noError.resolve_left free)
      · rintro ⟨⟨move, exit⟩, success, short⟩
        refine ⟨past.top, Or.inr ⟨past.wait, past.check, move, exit, submits, short, ?_⟩⟩
        rcases locked with ⟨_, locks⟩ | ⟨kept, _⟩
        · exact Or.inl locks
        · rw [← kept]
          exact Or.inr (not_not.mpr success)

theorem Judged.cons {leaks : Prop} (first : PayloadRound)
    (judged : Judged props rounds result (fun others => after (first :: others)) leaks)
    (ignored : ∀ srbMemory others, SameSrbs rounds others →
      SameSrbs (first :: rounds) (⟨first.round, srbMemory⟩ :: others) → ∀ buffer,
        after (⟨first.round, srbMemory⟩ :: others) buffer = after (first :: others) buffer) :
    Judged props (first :: rounds) result after leaks := by
  refine ⟨fun sound success => ?_, fun holds => ?_⟩
  · have own := judged.sound sound success
    refine ⟨fun others same old other index small => ?_, fun some => ?_⟩
    · cases same with
      | @cons _ second _ rest head tail =>
          obtain ⟨secondRound, srbMemory⟩ := second
          obtain ⟨rfl, agrees⟩ := head
          rw [ignored srbMemory rest tail (.cons ⟨rfl, agrees⟩ tail)]
          exact own.independent rest tail old other index small
    · obtain ⟨served, member, holds⟩ := own.own some
      exact ⟨served, List.mem_cons_of_mem first member, holds⟩
  · obtain ⟨success, dependent⟩ := judged.leaky holds
    refine ⟨success, fun same => dependent fun others agree => ?_⟩
    exact same (first :: others) (.cons ⟨rfl, fun _ _ => rfl⟩ agree)

theorem Judged.congr {leaks other : Prop} (judged : Judged props rounds result after leaks)
    (same : other ↔ leaks) : Judged props rounds result after other := by
  rw [propext same]
  exact judged

theorem payloadLoop_judged (status : NtStatus) (request : WnbdIoRequest)
    (returned : ∀ others, SameSrbs rounds others → ∀ buffer,
      payloadLoop props bufferSize others false status request buffer =
        some (result, after others buffer)) :
    Judged props rounds result after
      (LeaksFrom props bufferSize status request (rounds.map (·.round))) := by
  induction rounds generalizing after status request with
  | nil => cases returned [] (.refl []) fun _ => 0
  | cons first rest hypothesis =>
      rw [List.map_cons]
      have last : ¬ first.round.Retries props bufferSize →
          (LeaksFrom props bufferSize status request (first.round :: rest.map (·.round)) ↔
            LeakyRound props bufferSize status request first.round) := fun ends =>
        (leaksFrom_cons props bufferSize status request first.round _).trans
          (or_iff_left fun both => ends both.1)
      have ends := dispatchTurn_ends props bufferSize first.round status request
      have turned : ∀ srbMemory others,
          SameSrbs (first :: rest) (⟨first.round, srbMemory⟩ :: others) → ∀ buffer,
            (match dispatchTurn props bufferSize first.round false status request with
              | .returns result payload => some (result, payload.write srbMemory buffer)
              | .goesOn hardRemove status request =>
                  payloadLoop props bufferSize others hardRemove status request buffer) =
              some (result, after (⟨first.round, srbMemory⟩ :: others) buffer) :=
        fun srbMemory others same buffer => returned _ same buffer
      generalize dispatchTurn props bufferSize first.round false status request = turn
        at ends turned
      cases turn with
      | returns value payload =>
          dsimp only at turned
          have whole := turned first.srbMemory rest (.refl _) fun _ => 0
          have same : value = result := congrArg Prod.fst (Option.some.inj whole)
          have written : ∀ srbMemory others,
              SameSrbs (first :: rest) (⟨first.round, srbMemory⟩ :: others) → ∀ buffer,
                after (⟨first.round, srbMemory⟩ :: others) buffer =
                  payload.write srbMemory buffer := fun srbMemory others agree buffer =>
            (congrArg Prod.snd (Option.some.inj (turned srbMemory others agree buffer))).symm
          subst same
          obtain ⟨quits, judged⟩ := turn_judged first status request ends written
          exact judged.congr (last quits)
      | goesOn hardRemove nextStatus nextRequest =>
          dsimp only at turned
          cases ends with
          | goesOn past unserved =>
          cases move : first.round.raisedBeforeMove with
          | true =>
              -- With the flag raised the next test ends the call.
              rw [move] at turned
              have empty := payloadLoop_raised _ _ _ _ (turned first.srbMemory rest (.refl _)
                fun _ => 0)
              refine .of_nothing empty ?_
              rw [last fun retries => by rw [retries.move] at move; cases move]
              rintro ⟨_, stale | short⟩
              · exact stale.wait past.wait
              · rw [short.move] at move
                cases move
          | false =>
              rw [move] at turned
              have retries : first.round.Retries props bufferSize :=
                ⟨past.wait, past.top, past.check, move, unserved⟩
              have tail : ∀ others, SameSrbs rest others →
                  SameSrbs (first :: rest) (first :: others) := fun others agree =>
                .cons ⟨rfl, fun _ _ => rfl⟩ agree
              have judged := hypothesis _ _ fun others agree buffer =>
                turned first.srbMemory others (tail others agree) buffer
              refine (judged.cons first fun srbMemory others agree same buffer => ?_).congr ?_
              · have here := turned srbMemory others same buffer
                rw [turned first.srbMemory others (tail others agree) buffer] at here
                exact (congrArg Prod.snd (Option.some.inj here)).symm
              · rw [leaksFrom_cons, or_iff_right fun leaky =>
                  leaky_not_retries props bufferSize status request first.round leaky retries]
                exact and_iff_right retries

end Judgements

/-! ## Main result -/

def fetchedBuffer (props : WnbdProperties) (requestorPid bufferSize : UInt32)
    (initial : WnbdIoRequest) (rounds : List PayloadRound) (buffer : Memory) : Memory :=
  ((wnbdDispatchPayload props requestorPid bufferSize initial rounds buffer).map Prod.snd).getD
    buffer

/-- A successful fetch has written all bytes its request declares, from the SRB
it was made for, exactly on the inputs that do not leak. -/
theorem own_payload_iff (props : WnbdProperties) (requestorPid bufferSize : UInt32)
    (initial : WnbdIoRequest) (rounds : List PayloadRound) (result : DispatchResult)
    (returned : wnbdDispatchRequest props requestorPid bufferSize initial
      (rounds.map (·.round)) = some result) :
    (result.status = statusSuccess → OwnPayload props rounds result.request
        (fetchedBuffer props requestorPid bufferSize initial)) ↔
      Refused props requestorPid ∨
        ¬ LeaksPayload props bufferSize initial (rounds.map (·.round)) := by
  unfold wnbdDispatchRequest at returned
  split at returned
  case isTrue refused =>
    cases returned
    have denied : statusAccessDenied ≠ statusSuccess := by decide
    exact iff_of_true (fun success => absurd success denied) (Or.inl refused)
  case isFalse accepted =>
    rw [show (Refused props requestorPid ∨ _) ↔ _ from or_iff_right accepted]
    have ran : ∀ others, SameSrbs rounds others → ∀ buffer,
        payloadLoop props bufferSize others false statusSuccess initial buffer =
          some (result, fetchedBuffer props requestorPid bufferSize initial others buffer) := by
      intro others same buffer
      rw [same.rounds] at returned
      have projected := (payloadLoop_result props bufferSize others false statusSuccess initial
        buffer).trans returned
      obtain ⟨pair, ran, fst⟩ := Option.map_eq_some_iff.mp projected
      rw [fetchedBuffer, wnbdDispatchPayload, if_neg accepted, ran, ← fst]
      rfl
    have judged := payloadLoop_judged statusSuccess initial ran
    have error : ∀ earlier, ErrorAfter props bufferSize statusSuccess earlier ↔
        StaleError props bufferSize earlier := by
      simp [ErrorAfter]
    have same : LeaksFrom props bufferSize statusSuccess initial (rounds.map (·.round)) ↔
        LeaksPayload props bufferSize initial (rounds.map (·.round)) := by
      refine Reaches.congr fun earlier last => ?_
      rw [propext (error earlier)]
    rw [same] at judged
    refine ⟨fun own leaks => ?_, judged.sound⟩
    obtain ⟨success, dependent⟩ := judged.leaky leaks
    exact dependent (own success).independent

/-! ## A parameter list longer than its data -/

def payloadRounds (rounds : List FetchRound) : List PayloadRound :=
  rounds.map fun round => ⟨round, fun _ => 7⟩

/-- All 512 bytes of a one-block write are written, and are the SRB's. -/
theorem own_payload_one_write :
    OwnPayload diskProps (payloadRounds [oneBlockRound scsiopWrite 1 0])
        ⟨1, .write, .write 0 1 false⟩ (fetchedBuffer diskProps 4 4096 .zero) ∧
      ¬ LeaksPayload diskProps 4096 .zero [oneBlockRound scsiopWrite 1 0] := by
  have written : ∀ (srbMemory : Nat → UInt8) (old : Memory) (index : Nat), index < 512 →
      fetchedBuffer diskProps 4 4096 .zero [⟨oneBlockRound scsiopWrite 1 0, srbMemory⟩] old
        index = srbMemory index := fun _ _ index small => if_pos ⟨Nat.zero_le index, small⟩
  have own : OwnPayload diskProps (payloadRounds [oneBlockRound scsiopWrite 1 0])
      ⟨1, .write, .write 0 1 false⟩ (fetchedBuffer diskProps 4 4096 .zero) :=
    { independent := by
        intro others same old other index small
        cases same with
        | @cons _ second _ rest head tail =>
            obtain ⟨secondRound, srbMemory⟩ := second
            obtain ⟨rfl, agrees⟩ := head
            cases tail
            exact (written _ old index small).trans
              ((agrees index small).trans (written srbMemory other index small).symm)
      own := fun _ => ⟨⟨oneBlockRound scsiopWrite 1 0, fun _ => 7⟩, List.mem_cons_self, rfl, rfl,
        fun old index small => written _ old index small⟩ }
  refine ⟨own, ?_⟩
  rcases (own_payload_iff diskProps 4 4096 .zero (payloadRounds [oneBlockRound scsiopWrite 1 0])
    ⟨statusSuccess, ⟨1, .write, .write 0 1 false⟩, [⟨1, .write⟩], false, false⟩
    (by decide)).mp fun _ => own with refused | clean
  · exact absurd refused (by unfold Refused; decide)
  · exact clean

/-- PERSISTENT RESERVE OUT with a list of 24 bytes, and 8 bytes behind the SRB. -/
def shortReserveRound : FetchRound :=
  { oneBlockRound scsiopWrite 1 0 with
    popped := some
      { range := ⟨0, 8, false⟩
        srb := { write10Srb 1 8 with
          cdb := some #v[scsiopPersistentReserveOut, 0, 0, 0, 0, 0, 0, 0, 24, 0, 0, 0, 0, 0, 0,
            0] } } }

/-- The handler is given 24 bytes; the ninth is what the buffer held before. -/
theorem parameter_list_leaks :
    wnbdDispatchRequest diskProps 4 4096 .zero [shortReserveRound] =
        some ⟨statusSuccess, ⟨1, .persistResOut, .persistResOut 0 0 0 24⟩, [⟨1, .persistResOut⟩],
          false, false⟩ ∧
      ¬ OwnPayload diskProps (payloadRounds [shortReserveRound])
        ⟨1, .persistResOut, .persistResOut 0 0 0 24⟩ (fetchedBuffer diskProps 4 4096 .zero) := by
  refine ⟨by decide, fun own => ?_⟩
  have same := own.independent _ (.refl _) (fun _ => 0) (fun _ => 1) 8 (by decide)
  revert same
  decide

/-- A WRITE of two blocks is queued although its SRB carries 512 bytes: the second
block the handler is given is memory behind the SRB's buffer. -/
def shortWriteRound : FetchRound :=
  { oneBlockRound scsiopWrite 1 0 with
    popped := some { range := ⟨0, 1024, false⟩, srb := write10Srb 2 512 } }

example : ¬ OwnPayload diskProps (payloadRounds [shortWriteRound])
    ⟨1, .write, .write 0 2 false⟩ (fetchedBuffer diskProps 4 4096 .zero) := by
  intro own
  have others : SameSrbs (payloadRounds [shortWriteRound])
      [⟨shortWriteRound, fun index => if index < 512 then 7 else 0⟩] := by
    refine .cons ⟨rfl, fun index inside => ?_⟩ .nil
    have small : index < 512 := inside
    exact (if_pos small).symm
  have same := own.independent _ others (fun _ => 0) (fun _ => 0) 512 (by decide)
  revert same
  decide

end Wnbd.Dispatch
