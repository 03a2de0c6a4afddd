import Wnbd.Client.Map
import Wnbd.EndToEnd.DemuxDriver
import Wnbd.EndToEnd.LateReply
import Wnbd.Nbd.Issued

/-!
# What a mapping asks of its server

The user's arguments and the server's transmission flags permit some requests.  The driver
admits commands by the properties of the disk, the fetch validates them again, and the
daemon sends what it fetched.  `wire_confined` says that nothing else reaches `SendExact`,
whatever the applications, the connection and the callers of `Shutdown` do; but a resize of
the disk, which the driver does not check, widens the range.
-/

set_option autoImplicit false

namespace Wnbd.EndToEnd

open Wnbd.Scsi Wnbd.Dispatch Wnbd.Nbd Wnbd.Client DaemonState StepSystem

/-! ## Policies -/

/-- What may be asked of the server: changes or only reads, which optional commands, and
how many bytes there are. -/
structure WirePolicy where
  readOnly : Bool
  flush : Bool
  trim : Bool
  fua : Bool
  size : Nat

structure WirePolicy.Within (policy wider : WirePolicy) : Prop where
  readOnly : wider.readOnly = true → policy.readOnly = true
  flush : policy.flush = true → wider.flush = true
  trim : policy.trim = true → wider.trim = true
  fua : policy.fua = true → wider.fua = true
  size : policy.size ≤ wider.size

def WirePolicy.resized (policy : WirePolicy) (size : Nat) : WirePolicy := { policy with size }

def requestCommand (type : UInt32) : UInt32 := type &&& 0xFFFF

def requestFlags (type : UInt32) : UInt32 := type &&& 0xFFFF0000

structure PermittedType (policy : WirePolicy) (type : UInt32) : Prop where
  command : requestCommand type ∈ [nbdCmdRead, nbdCmdWrite, nbdCmdFlush, nbdCmdTrim]
  changes : requestCommand type ≠ nbdCmdRead → policy.readOnly = false
  flush : requestCommand type = nbdCmdFlush → policy.flush = true
  trim : requestCommand type = nbdCmdTrim → policy.trim = true
  flags : requestFlags type ≠ 0 →
    requestFlags type = nbdCmdFlagFua ∧ requestCommand type = nbdCmdWrite ∧ policy.fua = true

/-- A request for what there is. -/
structure Permitted (policy : WirePolicy) (header : NbdHeader) : Prop where
  type : PermittedType policy header.type
  inside : header.offset.toNat + header.length.toNat ≤ policy.size

theorem PermittedType.mono {policy wider : WirePolicy} {type : UInt32}
    (permitted : PermittedType policy type) (within : policy.Within wider) :
    PermittedType wider type where
  command := permitted.command
  changes other := by
    have changeable := permitted.changes other
    cases readOnly : wider.readOnly with
    | false => rfl
    | true => exact absurd (within.readOnly readOnly) (by rw [changeable]; decide)
  flush same := within.flush (permitted.flush same)
  trim same := within.trim (permitted.trim same)
  flags asked := by
    obtain ⟨fua, write, supported⟩ := permitted.flags asked
    exact ⟨fua, write, within.fua supported⟩

theorem Permitted.mono {policy wider : WirePolicy} {header : NbdHeader}
    (permitted : Permitted policy header) (within : policy.Within wider) :
    Permitted wider header :=
  ⟨permitted.type.mono within, permitted.inside.trans within.size⟩

section

variable {policy : WirePolicy}

theorem permitted_read : PermittedType policy nbdCmdRead := by
  refine ⟨by decide, fun other => ?_, fun same => ?_, fun same => ?_, fun asked => ?_⟩
  · exact absurd other (by decide)
  · exact absurd same (by decide)
  · exact absurd same (by decide)
  · exact absurd asked (by decide)

theorem permitted_write (writable : policy.readOnly = false) (forceUnitAccess : Bool)
    (supported : forceUnitAccess = true → policy.fua = true) :
    PermittedType policy (nbdCmdWrite ||| if forceUnitAccess then nbdCmdFlagFua else 0) := by
  cases forceUnitAccess with
  | true =>
      refine ⟨by decide, fun _ => writable, fun same => ?_, fun same => ?_, fun _ => ?_⟩
      · exact absurd same (by decide)
      · exact absurd same (by decide)
      · exact ⟨by decide, by decide, supported rfl⟩
  | false =>
      refine ⟨by decide, fun _ => writable, fun same => ?_, fun same => ?_, fun asked => ?_⟩
      · exact absurd same (by decide)
      · exact absurd same (by decide)
      · exact absurd asked (by decide)

theorem permitted_flush (writable : policy.readOnly = false) (supported : policy.flush = true) :
    PermittedType policy nbdCmdFlush := by
  refine ⟨by decide, fun _ => writable, fun _ => supported, fun same => ?_, fun asked => ?_⟩
  · exact absurd same (by decide)
  · exact absurd asked (by decide)

theorem permitted_trim (writable : policy.readOnly = false) (supported : policy.trim = true) :
    PermittedType policy nbdCmdTrim := by
  refine ⟨by decide, fun _ => writable, fun same => ?_, fun _ => supported, fun asked => ?_⟩
  · exact absurd same (by decide)
  · exact absurd asked (by decide)

end

def PermittedFrame (policy : WirePolicy) (frame : List UInt8) : Prop :=
  ∃ header, decodeHeader frame = some header ∧ Permitted policy header ∧
    frame.length = nbdRequestSize + header.payloadLength

/-- What the properties of the disk permit. -/
def propsPolicy (props : WnbdProperties) : WirePolicy :=
  { readOnly := props.flags.readOnly
    flush := props.flags.flushSupported
    trim := props.flags.unmapSupported
    fua := props.flags.fuaSupported
    size := props.blockCount.toNat * 512 }

def agreedPolicy (arguments : MapArguments) : Option (UInt64 × UInt16) → WirePolicy
  | none =>
      { readOnly := arguments.readOnly
        flush := false
        trim := false
        fua := false
        size := arguments.diskSize.toNat }
  | some (size, flags) =>
      { readOnly := arguments.readOnly || checkNbdFlag flags nbdFlagReadOnly
        flush := checkNbdFlag flags nbdFlagSendFlush
        trim := checkNbdFlag flags nbdFlagSendTrim
        fua := checkNbdFlag flags nbdFlagSendFua
        size := size.toNat }

/-! ## From a command to a frame -/

/-- A block range inside the disk is a byte range inside it, also where the bytes wrap. -/
theorem blockRange_inside (address : UInt64) (count : UInt32) (blocks : UInt64)
    (noWrap : address ≤ address + count.toUInt64) (inside : address + count.toUInt64 ≤ blocks) :
    (address * (512 : UInt32).toUInt64).toNat + (count * 512).toNat ≤ blocks.toNat * 512 := by
  have wide : (512 : UInt32).toUInt64.toNat = 512 := rfl
  have block : (512 : UInt32).toNat = 512 := rfl
  have addressBound := address.toNat_lt
  have countBound := count.toNat_lt
  rw [UInt64.le_iff_toNat_le, UInt64.toNat_add, UInt32.toNat_toUInt64] at noWrap
  rw [UInt64.le_iff_toNat_le, UInt64.toNat_add, UInt32.toNat_toUInt64] at inside
  rw [UInt64.toNat_mul, UInt32.toNat_mul, wide, block]
  have product := Nat.mod_le (count.toNat * 512) (2 ^ 32)
  have start := Nat.mod_le (address.toNat * 512) (2 ^ 64)
  omega

section

variable {props : WnbdProperties} {srb : Srb} {range : ElementRange}

/-- The range of every accepted command but a persistent reservation. -/
theorem accepted_inside (block : props.blockSize = 512)
    (accepted : acceptedRange props srb = some range) (cdb : Cdb) (found : srb.cdb = some cdb)
    (handled : scsiOpToWnbdReqType (cdb.asByte 0) ≠ .persistResIn ∧
      scsiOpToWnbdReqType (cdb.asByte 0) ≠ .persistResOut) :
    range.startingLbn.toNat + range.dataLength.toNat ≤ props.blockCount.toNat * 512 := by
  obtain ⟨actual, actualFound, kind⟩ := acceptedRange_cases props srb range accepted
  cases found.symm.trans actualFound
  rcases kind with ranged | ⟨buffer, unmap⟩ | reserve
  · rw [ranged.queued, block]
    exact blockRange_inside _ _ _ ranged.noWrap ranged.inside
  · rw [unmap.queued, block]
    exact blockRange_inside _ _ _ unmap.noWrap unmap.inside
  · have opcode := reserve.opcode
    simp only [List.mem_cons, List.not_mem_nil, or_false] at opcode
    rcases opcode with isIn | isOut
    · rw [isIn] at handled
      exact absurd rfl handled.1
    · rw [isOut] at handled
      exact absurd rfl handled.2

/-- Dividing by the block size and multiplying again only shortens the range. -/
theorem blocks_inside (blockSize : UInt32) (size : Nat) (start : UInt64) (length : UInt32)
    (inside : start.toNat + length.toNat ≤ size) :
    (start / blockSize.toUInt64 * blockSize.toUInt64).toNat +
      (length / blockSize * blockSize).toNat ≤ size := by
  have startLe : (start / blockSize.toUInt64 * blockSize.toUInt64).toNat ≤ start.toNat := by
    rw [UInt64.toNat_mul, UInt64.toNat_div]
    exact (Nat.mod_le _ _).trans (Nat.div_mul_le_self _ _)
  have lengthLe : (length / blockSize * blockSize).toNat ≤ length.toNat := by
    rw [UInt32.toNat_mul, UInt32.toNat_div]
    exact (Nat.mod_le _ _).trans (Nat.div_mul_le_self _ _)
  omega

theorem decodeHeader_request (offset : UInt64) (length : UInt32) (handle : UInt64)
    (type : UInt32) :
    decodeHeader (nbdRequest offset length handle type) = some ⟨type, handle, offset, length⟩ := by
  have decoded := decodeHeader_encode offset length handle type []
  rwa [List.append_nil] at decoded

def InsideRange (size : Nat) (srb : Srb) (range : ElementRange) : Prop :=
  ∀ cdb, srb.cdb = some cdb → scsiOpToWnbdReqType (cdb.asByte 0) ≠ .persistResIn ∧
    scsiOpToWnbdReqType (cdb.asByte 0) ≠ .persistResOut →
      range.startingLbn.toNat + range.dataLength.toNat ≤ size

theorem fetched_header {size : Nat} (ranged : InsideRange size srb range)
    (bufferSize : UInt32) (tag : UInt64)
    (faults : FetchFaults) (payload : FetchPayload) (buffer : Nat → UInt8) (call : HandlerCall)
    (submitted : (fetchElement props bufferSize tag range srb faults).verdict = .submit payload)
    (called : handlerCall props (fetchElement props bufferSize tag range srb faults).request
      payload buffer = some call) :
    ∃ header, decodeHeader (call.sent props.blockSize).frame = some header ∧
      Permitted ((propsPolicy props).resized size) header := by
  unfold fetchElement at submitted called
  simp only [Srb.setDataTransferLength_cdb] at submitted called
  cases found : srb.cdb with
  | none => simp [found] at submitted
  | some cdb =>
      simp only [found] at submitted called
      split at submitted
      case isFalse => cases submitted
      case isTrue valid =>
        rw [if_pos valid] at called
        dsimp only at submitted called
        have inside := ranged cdb found
        unfold validateScsiRequest at valid
        cases kind : scsiOpToWnbdReqType (cdb.asByte 0) with
        | read =>
            rw [kind] at called inside
            cases called
            exact ⟨_, decodeHeader_request _ _ _ _, permitted_read,
              blocks_inside _ _ _ _ (inside ⟨by decide, by decide⟩)⟩
        | write =>
            simp only [kind, Bool.not_eq_true'] at valid
            rw [kind] at called inside
            cases called
            exact ⟨_, decodeHeader_encode _ _ _ _ _,
              permitted_write valid _ fun asked => (Bool.and_eq_true_iff.mp asked).2,
              blocks_inside _ _ _ _ (inside ⟨by decide, by decide⟩)⟩
        | flush =>
            simp only [kind, Bool.and_eq_true, Bool.not_eq_true'] at valid
            rw [kind] at called
            simp only [fetchCommand, handlerCall, valid.2, if_true] at called
            cases called
            exact ⟨_, decodeHeader_request _ _ _ _, permitted_flush valid.1 valid.2, Nat.zero_le _⟩
        | unmap =>
            simp only [kind, Bool.and_eq_true, Bool.not_eq_true'] at valid
            rw [kind] at called inside
            simp only [kind, fetchVerdict] at submitted
            split_ifs at submitted
            cases submitted
            simp only [fetchCommand, handlerCall, valid.2, if_true] at called
            cases called
            exact ⟨_, decodeHeader_request _ _ _ _, permitted_trim valid.1 valid.2,
              blocks_inside _ _ _ _ (inside ⟨by decide, by decide⟩)⟩
        | persistResIn | persistResOut =>
            rw [kind] at called
            cases called
        | unknown | disconnect => simp [kind] at valid

theorem fetched_permitted {size : Nat} (ranged : InsideRange size srb range)
    (bufferSize : UInt32) (tag : UInt64)
    (faults : FetchFaults) (payload : FetchPayload) (buffer : Nat → UInt8) (call : HandlerCall)
    (submitted : (fetchElement props bufferSize tag range srb faults).verdict = .submit payload)
    (called : handlerCall props (fetchElement props bufferSize tag range srb faults).request
      payload buffer = some call) :
    PermittedFrame ((propsPolicy props).resized size) (call.sent props.blockSize).frame := by
  obtain ⟨header, decoded, permitted⟩ :=
    fetched_header ranged bufferSize tag faults payload buffer call submitted called
  have framed : DaemonFrame props.blockSize (call.sent props.blockSize).frame :=
    Or.inr ⟨call, rfl⟩
  obtain ⟨same, sameDecoded, size⟩ := framed.whole
  obtain rfl : header = same := Option.some.inj (decoded.symm.trans sameDecoded)
  exact ⟨header, decoded, permitted, size⟩

end

/-! ## Runs -/

/-- The disk never had more than `size` bytes, what is queued was accepted, and what is
fetched may be sent. -/
structure ConfinedInv (mapping : NbdMapping) (size : Nat) (state : DemuxState) : Prop where
  sized : (state.props mapping).blockCount.toNat * 512 ≤ size
  queued : ∀ request ∈ state.pendingReqList, InsideRange size request.srb request.range
  handling : ∀ index request payload, state.dispatchers index = .handling request payload →
    ∀ buffer call, handlerCall mapping.props request payload buffer = some call →
      PermittedFrame ((propsPolicy mapping.props).resized size) (call.sent mapping.props.blockSize).frame
  daemon : IssuesOnly (PermittedFrame ((propsPolicy mapping.props).resized size)) state.daemon

theorem confinedInv_initial (mapping : NbdMapping) (size : Nat)
    (sized : mapping.props.blockCount.toNat * 512 ≤ size) : ConfinedInv mapping size .initial where
  sized := sized
  queued _ member := by cases member
  handling _ _ _ here := by cases here
  daemon := issuesOnly_initial _

section

variable {mapping : NbdMapping} {size : Nat} {state after : DemuxState}

theorem ConfinedInv.daemonMoves (inv : ConfinedInv mapping size state) (after : DemuxState)
    (resized : after.resized = state.resized)
    (queued : after.pendingReqList = state.pendingReqList)
    (dispatchers : after.dispatchers = state.dispatchers)
    (daemon : IssuesOnly (PermittedFrame ((propsPolicy mapping.props).resized size)) after.daemon) :
    ConfinedInv mapping size after where
  sized := by
    rw [DemuxState.props, resized]
    exact inv.sized
  queued := queued ▸ inv.queued
  handling := dispatchers ▸ inv.handling
  daemon := daemon

theorem ConfinedInv.daemonStep (inv : ConfinedInv mapping size state) (thread : ThreadId)
    (choice : Choice)
    (called : ∀ call, choice = .request call →
      PermittedFrame ((propsPolicy mapping.props).resized size)
        (call.sent mapping.props.blockSize).frame)
    (stepped : daemonStep mapping state thread choice = some after) :
    ConfinedInv mapping size after := by
  obtain ⟨daemon, taken, rfl⟩ := Option.map_eq_some_iff.mp stepped
  exact inv.daemonMoves _ rfl rfl rfl (inv.daemon.threadStep called taken)

/-- A dispatcher goes on, and no longer has the request it had. -/
theorem ConfinedInv.setDispatcher (inv : ConfinedInv mapping size state) (index : Nat)
    (pc : DispatcherPc)
    (fetched : ∀ request payload, pc = .handling request payload →
      ∀ buffer call, handlerCall mapping.props request payload buffer = some call →
        PermittedFrame ((propsPolicy mapping.props).resized size)
        (call.sent mapping.props.blockSize).frame) :
    ConfinedInv mapping size (state.setDispatcher index pc) where
  sized := inv.sized
  queued := inv.queued
  handling found request payload here := by
    by_cases own : found = index
    · rw [own] at here
      exact fetched request payload ((Function.update_self _ _ _).symm.trans here)
    · exact inv.handling found request payload
        ((Function.update_of_ne own _ _).symm.trans here)
  daemon := inv.daemon

theorem ConfinedInv.fetchPending (inv : ConfinedInv mapping size state) (index : Nat)
    (status : NtStatus) (faults : FetchFaults)
    (taken : fetchPending mapping state index status faults = some after) :
    ConfinedInv mapping size after := by
  have popped : ∀ (request : QueuedRequest) (rest : List QueuedRequest) (other : DemuxState),
      state.pendingReqList = request :: rest → other.resized = state.resized →
      other.pendingReqList = rest → other.dispatchers = state.dispatchers →
      other.daemon = state.daemon → ConfinedInv mapping size other := by
    intro request rest other queue resized queued dispatchers daemon
    refine ⟨?_, fun found member => ?_, dispatchers ▸ inv.handling, daemon ▸ inv.daemon⟩
    · rw [DemuxState.props, resized]
      exact inv.sized
    rw [queued] at member
    exact inv.queued found (by rw [queue]; exact List.mem_cons_of_mem _ member)
  cases fetchPending_cases taken with
  | submitted request rest element payload queue makes submitted =>
      have accepted := inv.queued request (by rw [queue]; exact List.mem_cons_self)
      refine ConfinedInv.setDispatcher ?_ index _ ?_
      · exact popped request rest _ queue rfl rfl rfl rfl
      intro found fetchedPayload here buffer call called
      split_ifs at here
      cases here
      subst makes
      exact fetched_permitted accepted dispatcherBufferSize (state.requestHandle + 1)
        faults payload buffer call submitted called
  | refused request rest element pc queue _ _ goesOn =>
      refine ConfinedInv.setDispatcher ?_ index _ ?_
      · exact popped request rest _ queue rfl rfl rfl rfl
      intro found fetchedPayload here
      rcases goesOn with ⟨_, rfl⟩ | ⟨_, rfl⟩
      · cases here
      · cases here

theorem handleResponse_keeps (command : SendRspCommand) (faults : ResponseFaults) :
    (handleResponse state command faults).2.resized = state.resized ∧
      (handleResponse state command faults).2.pendingReqList = state.pendingReqList ∧
      (handleResponse state command faults).2.dispatchers = state.dispatchers ∧
      (handleResponse state command faults).2.daemon = state.daemon := by
  unfold handleResponse
  split
  · exact ⟨rfl, rfl, rfl, rfl⟩
  · dsimp only
    split <;> exact ⟨rfl, rfl, rfl, rfl⟩

theorem ConfinedInv.answered (inv : ConfinedInv mapping size state) (command : SendRspCommand)
    (faults : ResponseFaults) : ConfinedInv mapping size (handleResponse state command faults).2 := by
  obtain ⟨resized, queued, dispatchers, daemon⟩ := @handleResponse_keeps state command faults
  exact inv.daemonMoves _ resized queued dispatchers (by rw [daemon]; exact inv.daemon)

/-- Every step keeps the invariant, whatever fails, while the disk stays within `size`. -/
theorem ConfinedInv.step (inv : ConfinedInv mapping size state)
    (block : mapping.props.blockSize = 512) (action : DemuxAction)
    (within : ∀ blockCount, action = .setDiskSize blockCount → blockCount.toNat * 512 ≤ size)
    (taken : demuxNext mapping state action = some after) : ConfinedInv mapping size after := by
  cases demuxNext_cases taken with
  | diskCreated => exact inv.daemonMoves _ rfl rfl rfl (inv.daemon.congr rfl rfl)
  | pend srbId srb range accepted =>
      refine ⟨inv.sized, fun request member => ?_, inv.handling, inv.daemon⟩
      rcases List.mem_append.mp member with before | now
      · exact inv.queued request before
      · rw [List.mem_singleton.mp now]
        intro cdb found handled
        have blockNow : (state.props mapping).blockSize = 512 := block
        exact (accepted_inside blockNow accepted cdb found handled).trans inv.sized
  | fetch index faults status _ _ _ fetches => exact inv.fetchPending index status faults fetches
  | handle index buffer request payload call handled here called stepped =>
      have sent : ConfinedInv mapping size handled :=
        inv.daemonStep (.dispatcher index) (.request call)
          (fun other same => by
            cases same
            exact inv.handling index request payload here buffer call called) stepped
      exact sent.setDispatcher index _ fun _ _ same => by cases same
  | daemon thread choice _ own stepped =>
      refine inv.daemonStep thread choice ?_ stepped
      rintro call rfl
      cases own
  | respond faults code response _ _ stepped =>
      exact (inv.answered response.command faults).daemonStep .worker _
        (fun _ same => by cases same) stepped
  | respondPending _ stepped =>
      exact inv.daemonStep .worker _ (fun _ same => by cases same) stepped
  | completePending index faults response daemon _ delivered =>
      obtain ⟨again, _, rfl⟩ := Option.map_eq_some_iff.mp delivered
      have answered := inv.answered response.command faults
      exact answered.daemonMoves _ rfl rfl rfl (answered.daemon.congr rfl rfl)
  | serverReads => exact inv.daemonMoves _ rfl rfl rfl inv.daemon
  | serverAnswers => exact inv.daemonMoves _ rfl rfl rfl (inv.daemon.congr rfl rfl)
  | fetchElsewhere => exact inv.daemonMoves _ rfl rfl rfl inv.daemon
  | abortPending request rest queue =>
      refine ⟨inv.sized, fun found member => ?_, inv.handling, inv.daemon⟩
      exact inv.queued found (by rw [queue]; exact List.mem_cons_of_mem request member)
  | abortSubmitted => exact inv.daemonMoves _ rfl rfl rfl inv.daemon
  | setDiskSize blockCount =>
      exact ⟨within blockCount rfl, inv.queued, inv.handling, inv.daemon⟩

/-- More bytes than any block count gives a disk. -/
def anySize : Nat := 2 ^ 64 * 512

theorem blockCount_anySize (blockCount : UInt64) : blockCount.toNat * 512 ≤ anySize :=
  Nat.mul_le_mul_right 512 (Nat.le_of_lt blockCount.toNat_lt)

theorem ConfinedInv.whole (confined : ConfinedInv mapping size state) (frame : List UInt8)
    (issued : frame ∈ state.daemon.issued) : WholeFrame frame := by
  rcases confined.daemon.issued frame issued with rfl | ⟨header, decoded, _, size⟩
  · exact @DaemonFrame.whole 512 _ (Or.inl rfl)
  · exact ⟨header, decoded, size⟩

end

/-- The daemon's tests are those of the driver. -/
theorem startsWith_accepted {props : WnbdProperties} {faults : StartFaults}
    {daemon : StartedDaemon} {said : Option (UInt64 × UInt16)}
    (starts : StartsWith props faults daemon said) : geometryAccepted daemon.props = true := by
  have counted := starts.counted
  have block : daemon.props.blockSize = 512 := by
    rw [starts.created]
    cases said <;> exact starts.ready.blockSize
  rw [checkBlockCount, block] at counted
  split_ifs at counted with outside
  · cases counted
  · rw [not_or] at outside
    simpa [geometryAccepted, block] using outside

/-- The disk is created with no more than the user and the server agreed on. -/
theorem agreed_within (arguments : MapArguments) (pid : UInt32) (faults : StartFaults)
    (daemon : StartedDaemon) (said : Option (UInt64 × UInt16))
    (starts : StartsWith (mapProps arguments pid) faults daemon said) :
    (propsPolicy daemon.props).Within (agreedPolicy arguments said) := by
  have block := starts.ready.blockSize
  have wide : (512 : UInt32).toUInt64.toNat = 512 := rfl
  rw [starts.created]
  cases said with
  | none =>
      have none : ∀ flag, checkNbdFlag 0 flag = false := fun flag => by simp [checkNbdFlag]
      refine ⟨?_, ?_, ?_, ?_, ?_⟩
      · intro readOnly
        change arguments.readOnly = true at readOnly
        simp [propsPolicy, saidProps, mergeFlags, prepareProps, mapProps, readOnly]
      · simp [propsPolicy, saidProps, mergeFlags, prepareProps, mapProps, none]
      · simp [propsPolicy, saidProps, mergeFlags, prepareProps, mapProps, none]
      · simp [propsPolicy, saidProps, mergeFlags, prepareProps, mapProps, none]
      · change (mapProps arguments pid).blockCount.toNat * 512 ≤ arguments.diskSize.toNat
        by_cases given : arguments.blockSize = 0
        · have count : (mapProps arguments pid).blockCount = 0 := if_neg (not_not.mpr given)
          rw [count]
          exact Nat.zero_le _
        · have own : arguments.blockSize = 512 := by
            rw [prepareProps] at block
            exact (if_neg given).symm.trans block
          have count : (mapProps arguments pid).blockCount =
              arguments.diskSize / arguments.blockSize.toUInt64 := if_pos given
          rw [count, own, UInt64.toNat_div, wide]
          exact Nat.div_mul_le_self _ _
  | some found =>
      obtain ⟨size, flags⟩ := found
      refine ⟨?_, ?_, ?_, ?_, ?_⟩
      · exact id
      · exact id
      · exact id
      · exact id
      · change (size / (prepareProps (mapProps arguments pid)).blockSize.toUInt64).toNat * 512 ≤ _
        rw [block, UInt64.toNat_div, wide]
        exact Nat.div_mul_le_self _ _

/-- Every frame of every run of a mapping is the disconnect request, or asks for what the
user's arguments and the server's transmission flags permit; the range is inside the export
and, if the disk is resized, the sizes it is given. -/
theorem wire_confined (arguments : MapArguments) (pid wsaStartup : UInt32)
    (props : WnbdProperties) (nbdProps : NbdProperties)
    (mapped : cmdMap arguments pid wsaStartup = .ok (props, nbdProps)) (faults : StartFaults)
    (connection finish : Connection) (daemon : StartedDaemon)
    (started : tryStart props nbdProps faults connection = .ok (daemon, finish))
    (mapping : NbdMapping) (created : mapping.props = daemon.props) :
    (∃ said, ServerSaid nbdProps connection.unread said) ∧
      ∀ said, ServerSaid nbdProps connection.unread said → ∀ actions state,
        run (demuxNext mapping) .initial actions = some state →
        ∀ size, (agreedPolicy arguments said).size ≤ size →
        (∀ blockCount, .setDiskSize blockCount ∈ actions → blockCount.toNat * 512 ≤ size) →
        ∀ frame ∈ state.daemon.issued, frame = nbdDisconnectFrame ∨
          PermittedFrame ((agreedPolicy arguments said).resized size) frame := by
  refine ⟨serverSaid_of_started started, ?_⟩
  intro said heard actions state ran size agreed resizes frame issued
  obtain ⟨_, rfl, rfl⟩ := cmdMap_ok mapped
  have starts := startsWith_of_said started said heard
  have within := agreed_within arguments pid faults daemon said starts
  have accepted : geometryAccepted mapping.props = true := by
    rw [created]
    exact startsWith_accepted starts
  have block := ((geometryAccepted_iff mapping.props).mp accepted).1
  have sized : mapping.props.blockCount.toNat * 512 ≤ size := by
    rw [created]
    exact within.size.trans agreed
  have inv : ConfinedInv mapping size state := by
    refine invariant_of_actions _ actions (fun before after action member inv taken => ?_) _ _
      (confinedInv_initial mapping size sized) ran
    apply inv.step block action _ taken
    rintro blockCount rfl
    exact resizes blockCount member
  rcases inv.daemon.issued frame issued with disconnect | ⟨header, decoded, permitted, whole⟩
  · exact Or.inl disconnect
  · rw [created] at permitted
    have wider : ((propsPolicy daemon.props).resized size).Within
        ((agreedPolicy arguments said).resized size) :=
      ⟨within.readOnly, within.flush, within.trim, within.fua, Nat.le_refl size⟩
    exact Or.inr ⟨header, decoded, permitted.mono wider, whole⟩

/-- "wnbd-client map a localhost --port 10809". -/
def mapLocalhost : MapArguments :=
  { instanceName := [0x61]
    hostName := [0x6C, 0x6F, 0x63, 0x61, 0x6C, 0x68, 0x6F, 0x73, 0x74]
    portNumber := 10809
    exportName := []
    diskSize := 0
    blockSize := 0
    skipNegotiation := false
    readOnly := false }

def limitedMapping : NbdMapping :=
  { props := createdProps limitedProps limitedResult
    noPersistRes := rfl }

/-- The disk grows to two MiB; a write waits for `SendLock` and takes it. -/
def issueWriteRun : List DemuxAction :=
  [.diskCreated, .setDiskSize 4096, .pend 0 (write10Srb 1 512), .fetch 0 ⟨0, 0⟩, .handle 0 fun _ => 7,
    .daemon (.dispatcher 0) .proceed]

theorem wire_confined_write : ∃ state frame,
    run (demuxNext limitedMapping) .initial issueWriteRun = some state ∧
      frame ∈ state.daemon.issued ∧ frame ≠ nbdDisconnectFrame ∧
      PermittedFrame ((agreedPolicy mapLocalhost (some (1048576, 1))).resized 2097152) frame := by
  obtain ⟨finish, started⟩ := limitedServer_starts
  have sizes : limitedServer.sizes = some (1048576, 1) := by
    decide +kernel
  have props : mapProps mapLocalhost 4 = limitedProps := by
    decide +kernel
  have exported : (mapNbdProps mapLocalhost).exportName = [0x61] := by
    decide +kernel
  have checked : checkArguments mapLocalhost = 0 := by
    decide
  have mapped : cmdMap mapLocalhost 4 0 = .ok (limitedProps, ⟨[0x61], false⟩) := by
    rw [cmdMap, if_neg (not_not.mpr checked), if_neg (by decide), props, ← exported]
    rfl
  have ran : (run (demuxNext limitedMapping) .initial issueWriteRun).map
      (fun state => state.daemon.issued.map List.length) = some [540] := by
    decide +kernel
  obtain ⟨state, reached, lengths⟩ := Option.map_eq_some_iff.mp ran
  obtain ⟨frame, issued, long⟩ := List.map_eq_singleton_iff.mp lengths
  have member : frame ∈ state.daemon.issued := by
    rw [issued]
    exact List.mem_singleton_self frame
  have other : frame ≠ nbdDisconnectFrame := by
    rintro rfl
    exact absurd long (by decide +kernel)
  have said : ServerSaid ⟨[0x61], false⟩ limitedServer.encode (some (1048576, 1)) :=
    .transcript limitedServer [] 1048576 1 rfl limitedServer_valid (List.append_nil _).symm sizes
  have resizes : ∀ blockCount, .setDiskSize blockCount ∈ issueWriteRun →
      blockCount.toNat * 512 ≤ 2097152 := by
    intro blockCount member
    have grown : blockCount = 4096 := by simpa [issueWriteRun] using member
    rw [grown]
    decide
  have confined := (wire_confined mapLocalhost 4 0 limitedProps ⟨[0x61], false⟩ mapped ⟨true, 0, 0⟩
    ⟨limitedServer.encode, [], []⟩ finish _ started limitedMapping rfl).2 _ said issueWriteRun state
    reached 2097152 (by decide) resizes frame member
  exact ⟨state, frame, reached, member, other, confined.resolve_left other⟩

end Wnbd.EndToEnd
