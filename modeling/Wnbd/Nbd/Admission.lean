import Wnbd.Nbd.Daemon
import Wnbd.Nbd.Grammar
import Wnbd.Nbd.Reply

/-!
# Admission of a server

`NbdDaemon::TryStart` up to the call of `WnbdCreate`: the fixed block size, the
negotiation, and the tests of the server's block sizes and of the disk size.
`block_sizes_honoured` says what the tests give for every later transfer.
-/

set_option autoImplicit false

namespace Wnbd.Nbd

open ExactParser Wnbd.Scsi Wnbd.Dispatch

def errorNotEnoughMemory : UInt32 := 8

def wnbdDefaultBlockSize : UInt32 := 512

def nbdFlagHasFlags : UInt16 := 1
def nbdFlagReadOnly : UInt16 := 2
def nbdFlagSendFlush : UInt16 := 4
def nbdFlagSendFua : UInt16 := 8
def nbdFlagSendTrim : UInt16 := 32

def checkNbdFlag (nbdFlags flag : UInt16) : Bool :=
  nbdFlags &&& nbdFlagHasFlags ≠ 0 && nbdFlags &&& flag ≠ 0

/-! ## TryStart -/

/-- The part of `WnbdProps` that is not in `WnbdProperties`. -/
structure NbdProperties where
  exportName : List UInt8
  skipNegotiation : Bool

structure StartFaults where
  allocated : Bool
  connectNbdServer : UInt32
  setTcpFlags : UInt32

/-- `WnbdProps` as `WnbdCreate` gets them, and what the server said. -/
structure StartedDaemon where
  props : WnbdProperties
  negotiated : Option Negotiated

def prepareProps (props : WnbdProperties) : WnbdProperties :=
  { props with
    flags := { props.flags with persistResSupported := false }
    blockSize := if props.blockSize = 0 then wnbdDefaultBlockSize else props.blockSize }

def checkBlockSizeInfo (blockSize : UInt32) (info : NbdBlockSizeInfo) : UInt32 :=
  if info.received then
    if info.minimum > blockSize then errorNotSupported
    else if info.minimum ≠ 0 ∧ blockSize % info.minimum ≠ 0 then errorNotSupported
    else if info.maximum ≠ 0 ∧ info.maximum < wnbdDefaultMaxTransferLength then errorNotSupported
    else 0
  else 0

/-- `DiskSize` and `NbdFlags` are zero before the negotiation, the block sizes too. -/
def beforeNegotiation : Negotiated :=
  { size := 0, flags := 0, blockSizeInfo := some ⟨0, 0, 0, false⟩, seenExport := false }

def negotiateProps (props : WnbdProperties) (exportName : List UInt8) :
    Exchange (WnbdProperties × Negotiated) := do
  let negotiated ← nbdNegotiate exportName nbdFlagFixedNewstyle beforeNegotiation
  let code := checkBlockSizeInfo props.blockSize
    (negotiated.blockSizeInfo.getD ⟨0, 0, 0, false⟩)
  if code ≠ 0 then throw code
  else pure ({ props with blockCount := negotiated.size / props.blockSize.toUInt64 }, negotiated)

def mergeFlags (props : WnbdProperties) (nbdFlags : UInt16) : WnbdProperties :=
  { props with
    flags := { props.flags with
      readOnly := props.flags.readOnly || checkNbdFlag nbdFlags nbdFlagReadOnly
      unmapSupported := props.flags.unmapSupported || checkNbdFlag nbdFlags nbdFlagSendTrim
      flushSupported := props.flags.flushSupported || checkNbdFlag nbdFlags nbdFlagSendFlush
      fuaSupported := props.flags.fuaSupported || checkNbdFlag nbdFlags nbdFlagSendFua } }

/-- The test of the block count, the last one before the disk is created. -/
def checkBlockCount (props : WnbdProperties) : UInt32 :=
  if props.blockCount = 0 ∨ props.blockCount > ullongMax / props.blockSize.toUInt64 then
    errorInvalidParameter
  else 0

def finishStart (props : WnbdProperties) (negotiated : Option Negotiated) :
    Exchange StartedDaemon := do
  let merged := mergeFlags props ((negotiated.map (·.flags)).getD 0)
  let code := checkBlockCount merged
  if code ≠ 0 then throw code else pure ⟨merged, negotiated⟩

def tryStart (props : WnbdProperties) (nbdProps : NbdProperties) (faults : StartFaults) :
    Exchange StartedDaemon :=
  let prepared := prepareProps props
  if prepared.blockSize ≠ 512 then throw errorInvalidParameter
  else if ¬ faults.allocated then throw errorNotEnoughMemory
  else if faults.connectNbdServer ≠ 0 then throw faults.connectNbdServer
  else if faults.setTcpFlags ≠ 0 then throw faults.setTcpFlags
  else if nbdProps.skipNegotiation then finishStart prepared none
  else do
    let (created, negotiated) ← negotiateProps prepared nbdProps.exportName
    finishStart created (some negotiated)

/-! ## A start that succeeds -/

section Start

variable {props : WnbdProperties} {nbdProps : NbdProperties} {faults : StartFaults}
  {start finish : Connection} {daemon : StartedDaemon}

theorem finishStart_iff {negotiated : Option Negotiated} :
    Succeeds (finishStart props negotiated) start daemon finish ↔
      checkBlockCount (mergeFlags props ((negotiated.map (·.flags)).getD 0)) = 0 ∧
        daemon = ⟨mergeFlags props ((negotiated.map (·.flags)).getD 0), negotiated⟩ ∧
        start = finish := by
  rw [finishStart, succeeds_reject, not_not, succeeds_pure]
  exact and_congr_right fun _ => and_congr_left fun _ => eq_comm

theorem negotiateProps_iff {exportName : List UInt8} {found : WnbdProperties × Negotiated} :
    Succeeds (negotiateProps props exportName) start found finish ↔
      ∃ negotiated, Succeeds (nbdNegotiate exportName nbdFlagFixedNewstyle beforeNegotiation) start
          negotiated finish ∧
        checkBlockSizeInfo props.blockSize
          (negotiated.blockSizeInfo.getD ⟨0, 0, 0, false⟩) = 0 ∧
        found = ({ props with blockCount := negotiated.size / props.blockSize.toUInt64 },
          negotiated) := by
  rw [negotiateProps, succeeds_bind]
  constructor
  · rintro ⟨negotiated, middle, ran, rest⟩
    rw [succeeds_reject, not_not, succeeds_pure] at rest
    obtain ⟨accepted, same, rfl⟩ := rest
    exact ⟨negotiated, ran, accepted, same.symm⟩
  · rintro ⟨negotiated, ran, accepted, same⟩
    refine ⟨negotiated, finish, ran, ?_⟩
    rw [succeeds_reject, not_not, succeeds_pure]
    exact ⟨accepted, same.symm, rfl⟩

/-- The tests and calls in front of the negotiation pass. -/
structure Ready (props : WnbdProperties) (faults : StartFaults) : Prop where
  blockSize : (prepareProps props).blockSize = 512
  allocated : faults.allocated = true
  connected : faults.connectNbdServer = 0
  tcpFlags : faults.setTcpFlags = 0

def createdProps (props : WnbdProperties) (negotiated : Negotiated) : WnbdProperties :=
  mergeFlags
    { prepareProps props with
      blockCount := negotiated.size / (prepareProps props).blockSize.toUInt64 }
    negotiated.flags

theorem tryStart_iff (negotiates : nbdProps.skipNegotiation = false) :
    Succeeds (tryStart props nbdProps faults) start daemon finish ↔
      Ready props faults ∧ ∃ negotiated,
        Succeeds (nbdNegotiate nbdProps.exportName nbdFlagFixedNewstyle beforeNegotiation) start
          negotiated finish ∧
        checkBlockSizeInfo (prepareProps props).blockSize
          (negotiated.blockSizeInfo.getD ⟨0, 0, 0, false⟩) = 0 ∧
        checkBlockCount (createdProps props negotiated) = 0 ∧
        daemon = ⟨createdProps props negotiated, some negotiated⟩ := by
  simp only [tryStart, negotiates, Bool.false_eq_true, if_false]
  rw [succeeds_reject, succeeds_reject, succeeds_reject, succeeds_reject, succeeds_bind]
  simp only [not_not]
  constructor
  · rintro ⟨blockSize, allocated, connected, tcpFlags, ⟨created, negotiated⟩, middle, ran, rest⟩
    obtain ⟨_, ranNegotiate, accepted, same⟩ := negotiateProps_iff.mp ran
    cases same
    obtain ⟨counted, sameDaemon, rfl⟩ := finishStart_iff.mp rest
    exact ⟨⟨blockSize, allocated, connected, tcpFlags⟩, negotiated, ranNegotiate, accepted,
      counted, sameDaemon⟩
  · rintro ⟨ready, negotiated, ranNegotiate, accepted, counted, rfl⟩
    refine ⟨ready.blockSize, ready.allocated, ready.connected, ready.tcpFlags,
      (_, negotiated), finish, negotiateProps_iff.mpr ⟨negotiated, ranNegotiate, accepted, rfl⟩, ?_⟩
    exact finishStart_iff.mpr ⟨counted, rfl, rfl⟩

end Start

/-- What the tests say of the server's block sizes. -/
theorem checkBlockSizeInfo_eq_zero (info : NbdBlockSizeInfo) (received : info.received = true)
    (accepted : checkBlockSizeInfo 512 info = 0) :
    (info.minimum ≠ 0 → info.minimum.toNat ∣ 512) ∧
      (info.maximum ≠ 0 → wnbdDefaultMaxTransferLength.toNat ≤ info.maximum.toNat) := by
  rw [checkBlockSizeInfo, if_pos received] at accepted
  split at accepted
  case isTrue => exact absurd accepted (by decide)
  case isFalse =>
    split at accepted
    case isTrue => exact absurd accepted (by decide)
    case isFalse divides =>
      split at accepted
      case isTrue => exact absurd accepted (by decide)
      case isFalse large =>
        constructor
        · intro nonzero
          have remainder : 512 % info.minimum = 0 :=
            not_not.mp fun other => divides ⟨nonzero, other⟩
          refine Nat.dvd_of_mod_eq_zero ?_
          have counted := congrArg UInt32.toNat remainder
          rwa [UInt32.toNat_mod] at counted
        · intro nonzero
          exact UInt32.le_iff_toNat_le.mp
            (UInt32.not_lt.mp fun small => large ⟨nonzero, small⟩)

/-! ## Transfers -/

def Transfers (request : WnbdIoRequest) (blockAddress : UInt64) (blockCount : UInt32) : Prop :=
  ∃ forceUnitAccess,
    (request.requestType = .read ∧
      request.cmd = .read blockAddress blockCount forceUnitAccess) ∨
    (request.requestType = .write ∧
      request.cmd = .write blockAddress blockCount forceUnitAccess)

theorem transfer_header (props : WnbdProperties) (request : WnbdIoRequest)
    (payload : FetchPayload) (buffer : Nat → UInt8) (blockAddress : UInt64) (blockCount : UInt32)
    (transfers : Transfers request blockAddress blockCount) :
    ∃ sent header, wnbdHandleRequest props request payload buffer = some sent ∧
      decodeHeader sent.frame = some header ∧
      header.offset = blockAddress * props.blockSize.toUInt64 ∧
      header.length = blockCount * props.blockSize := by
  obtain ⟨forceUnitAccess, ⟨isRead, cmd⟩ | ⟨isWrite, cmd⟩⟩ := transfers
  · have header := decodeHeader_encode (blockAddress * props.blockSize.toUInt64)
      (blockCount * props.blockSize) request.requestHandle nbdCmdRead []
    rw [List.append_nil] at header
    refine ⟨nbdDaemonRead props.blockSize request.requestHandle blockAddress blockCount, _, ?_,
      header, rfl, rfl⟩
    simp only [wnbdHandleRequest, isRead, cmd]
  · have header := decodeHeader_encode (blockAddress * props.blockSize.toUInt64)
      (blockCount * props.blockSize) request.requestHandle
      (nbdCmdWrite ||| if forceUnitAccess then nbdCmdFlagFua else 0)
      ((List.range (blockCount * props.blockSize).toNat).map buffer)
    refine ⟨nbdDaemonWrite props.blockSize request.requestHandle buffer blockAddress blockCount
      forceUnitAccess, _, ?_, header, rfl, rfl⟩
    simp only [wnbdHandleRequest, isWrite, cmd]

/-- A request inside the server's block sizes and the export. -/
structure Honours (info : Option NbdBlockSizeInfo) (size : UInt64) (header : NbdHeader) :
    Prop where
  minimum : ∀ sizes, info = some sizes → sizes.minimum ≠ 0 →
    sizes.minimum.toNat ∣ header.offset.toNat ∧ sizes.minimum.toNat ∣ header.length.toNat
  maximum : ∀ sizes, info = some sizes → sizes.maximum ≠ 0 →
    header.length.toNat ≤ sizes.maximum.toNat
  inExport : header.offset.toNat + header.length.toNat ≤ size.toNat

theorem transfer_bytes (blockAddress : UInt64) (blockCount : UInt32) (size : UInt64)
    (inside : blockAddress.toNat + blockCount.toNat ≤ size.toNat / 512)
    (short : blockCount.toNat * 512 ≤ wnbdDefaultMaxTransferLength.toNat) :
    (blockAddress * (512 : UInt32).toUInt64).toNat = blockAddress.toNat * 512 ∧
      (blockCount * 512).toNat = blockCount.toNat * 512 := by
  have sizeBound := size.toNat_lt
  have limit : wnbdDefaultMaxTransferLength.toNat = 2097152 := rfl
  have wideBlock : (512 : UInt32).toUInt64.toNat = 512 := rfl
  have block : (512 : UInt32).toNat = 512 := rfl
  constructor
  · rw [UInt64.toNat_mul, wideBlock, Nat.mod_eq_of_lt]
    omega
  · rw [UInt32.toNat_mul, block, Nat.mod_eq_of_lt]
    omega

/-- What a start says of the transcript it read. -/
theorem tryStart_transcript {props : WnbdProperties} {nbdProps : NbdProperties}
    {faults : StartFaults} {connection finish : Connection} {daemon : StartedDaemon}
    (negotiates : nbdProps.skipNegotiation = false)
    (started : Succeeds (tryStart props nbdProps faults) connection daemon finish)
    (transcript : Transcript) (valid : transcript.Valid) (rest : List UInt8)
    (stream : connection.unread = transcript.encode ++ rest) :
    ∃ negotiated : Negotiated, transcript.sizes = some (negotiated.size, negotiated.flags) ∧
      negotiated.blockSizeInfo = some ((blockSizes transcript.replies).getLast?.getD
        ⟨0, 0, 0, false⟩) ∧
      checkBlockSizeInfo 512 (negotiated.blockSizeInfo.getD ⟨0, 0, 0, false⟩) = 0 ∧
      daemon.props.blockSize = 512 ∧
      daemon.props.blockCount = negotiated.size / (512 : UInt32).toUInt64 := by
  obtain ⟨ready, negotiated, ran, accepted, _, rfl⟩ := (tryStart_iff negotiates).mp started
  obtain ⟨_, complete⟩ := nbdNegotiate_exact nbdProps.exportName beforeNegotiation
  obtain ⟨_, sameRun, _⟩ := complete connection transcript.encode _ rest
    ((negotiationWord_iff 0 0 ⟨0, 0, 0, false⟩ _ _).mpr ⟨transcript, valid, rfl, rfl⟩) stream
  obtain ⟨sizes, infos⟩ := transcript_result 0 0 ⟨0, 0, 0, false⟩ transcript valid
  have same : negotiated = transcript.ending.result
      (transcript.replies.foldl absorb ⟨0, 0, some ⟨0, 0, 0, false⟩, false⟩) := by
    have both := ran.symm.trans sameRun
    exact (Prod.mk.inj (Except.ok.inj both)).1
  rw [← same] at sizes infos
  have blockSize : (createdProps props negotiated).blockSize = 512 := ready.blockSize
  rw [ready.blockSize] at accepted
  refine ⟨negotiated, sizes.symm, infos, accepted, blockSize, ?_⟩
  change negotiated.size / (prepareProps props).blockSize.toUInt64 = _
  rw [ready.blockSize]

/-- The block sizes that were sent last are the ones that count. -/
theorem blockSizes_received (replies : List NbdHandshakeRpl) (sizes : NbdBlockSizeInfo)
    (last : (blockSizes replies).getLast? = some sizes) : sizes.received = true := by
  have member := List.mem_of_getLast? last
  obtain ⟨reply, _, found⟩ := List.mem_filterMap.mp member
  rw [blockSizeOf] at found
  split at found
  · cases found
    rfl
  · cases found

/-- After a start that succeeded, every transfer inside the created disk and of at most
2 MiB keeps to the block sizes and the export size of the server. -/
theorem block_sizes_honoured (props : WnbdProperties) (nbdProps : NbdProperties)
    (faults : StartFaults) (connection finish : Connection) (daemon : StartedDaemon)
    (negotiates : nbdProps.skipNegotiation = false)
    (started : tryStart props nbdProps faults connection = .ok (daemon, finish))
    (transcript : Transcript) (valid : transcript.Valid) (rest : List UInt8)
    (stream : connection.unread = transcript.encode ++ rest) (size : UInt64) (flags : UInt16)
    (sizes : transcript.sizes = some (size, flags)) (request : WnbdIoRequest)
    (payload : FetchPayload) (buffer : Nat → UInt8) (blockAddress : UInt64)
    (blockCount : UInt32) (transfers : Transfers request blockAddress blockCount)
    (inside : blockAddress.toNat + blockCount.toNat ≤ daemon.props.blockCount.toNat)
    (short : blockCount.toNat * daemon.props.blockSize.toNat ≤
      wnbdDefaultMaxTransferLength.toNat) :
    ∃ sent header, wnbdHandleRequest daemon.props request payload buffer = some sent ∧
      decodeHeader sent.frame = some header ∧
      Honours (blockSizes transcript.replies).getLast? size header := by
  obtain ⟨negotiated, sizesFound, infos, accepted, blockSize, blocks⟩ :=
    tryStart_transcript negotiates started transcript valid rest stream
  obtain ⟨sent, header, handled, decoded, offset, length⟩ :=
    transfer_header daemon.props request payload buffer blockAddress blockCount transfers
  cases sizes.symm.trans sizesFound
  rw [blockSize] at offset length short
  rw [blocks, UInt64.toNat_div] at inside
  obtain ⟨offsetBytes, lengthBytes⟩ :=
    transfer_bytes blockAddress blockCount negotiated.size inside short
  rw [← offset] at offsetBytes
  rw [← length] at lengthBytes
  have limits : ∀ sizes, (blockSizes transcript.replies).getLast? = some sizes →
      (sizes.minimum ≠ 0 → sizes.minimum.toNat ∣ 512) ∧
        (sizes.maximum ≠ 0 → wnbdDefaultMaxTransferLength.toNat ≤ sizes.maximum.toNat) := by
    intro sizes last
    rw [infos, last] at accepted
    exact checkBlockSizeInfo_eq_zero sizes (blockSizes_received _ _ last) accepted
  refine ⟨sent, header, handled, decoded, ⟨?_, ?_, ?_⟩⟩
  · intro sizes last nonzero
    have divides := (limits sizes last).1 nonzero
    rw [offsetBytes, lengthBytes]
    exact ⟨Nat.dvd_mul_left_of_dvd divides _, Nat.dvd_mul_left_of_dvd divides _⟩
  · intro sizes last nonzero
    rw [lengthBytes]
    exact Nat.le_trans short ((limits sizes last).2 nonzero)
  · rw [offsetBytes, lengthBytes]
    change _ ≤ negotiated.size.toNat / 512 at inside
    omega

/-- A server with an export of 1 MiB and block sizes of 512, 4096 and 32 MiB. -/
def limitedServer : Transcript :=
  { gFlags := 3
    replies :=
      [⟨nbdOptGo, nbdRepInfo, [0, 0, 0, 0, 0, 0, 0, 0x10, 0, 0, 0, 1]⟩,
        ⟨nbdOptGo, nbdRepInfo, [0, 3, 0, 0, 2, 0, 0, 0, 0x10, 0, 2, 0, 0, 0]⟩]
    ending := .ack nbdOptGo }

def limitedProps : WnbdProperties :=
  { instanceName := [0x61]
    flags := ⟨false, false, false, false, false, false⟩
    blockCount := 0, blockSize := 0, pid := 4 }

def limitedResult : Negotiated := ⟨1048576, 1, some ⟨512, 4096, 33554432, true⟩, true⟩

theorem limitedServer_valid : limitedServer.Valid := by
  have exported : exports limitedServer.replies ≠ [] := by
    decide +kernel
  refine ⟨by decide, ?_, exported⟩
  intro reply member
  simp only [limitedServer, List.mem_cons, List.not_mem_nil, or_false] at member
  rcases member with rfl | rfl
  · exact ⟨⟨by decide, by decide, by decide, by decide, by decide⟩, by decide⟩
  · exact ⟨⟨by decide, by decide, by decide, by decide, by decide⟩, by decide⟩

theorem limitedServer_result : limitedResult = limitedServer.ending.result
    (limitedServer.replies.foldl absorb ⟨0, 0, some ⟨0, 0, 0, false⟩, false⟩) := by
  decide +kernel

theorem limitedServer_starts :
    ∃ finish, tryStart limitedProps ⟨[0x61], false⟩ ⟨true, 0, 0⟩ ⟨limitedServer.encode, [], []⟩ =
      .ok (⟨createdProps limitedProps limitedResult, some limitedResult⟩, finish) := by
  obtain ⟨_, complete⟩ := nbdNegotiate_exact [0x61] beforeNegotiation
  obtain ⟨finish, ran, _⟩ := complete ⟨limitedServer.encode, [], []⟩ limitedServer.encode
    limitedResult [] ((negotiationWord_iff 0 0 ⟨0, 0, 0, false⟩ _ _).mpr
      ⟨limitedServer, limitedServer_valid, rfl, limitedServer_result⟩) (List.append_nil _).symm
  refine ⟨finish, (tryStart_iff rfl).mpr ⟨⟨?_, rfl, rfl, rfl⟩, limitedResult, ran, ?_, ?_, rfl⟩⟩
  · decide +kernel
  · decide +kernel
  · decide +kernel

theorem block_sizes_honoured_read :
    ∃ daemon finish sent header,
      tryStart limitedProps ⟨[0x61], false⟩ ⟨true, 0, 0⟩ ⟨limitedServer.encode, [], []⟩ =
        .ok (daemon, finish) ∧
      wnbdHandleRequest daemon.props ⟨7, .read, .read 2040 8 false⟩ .untouched (fun _ => 0) =
        some sent ∧
      decodeHeader sent.frame = some header ∧
      Honours (blockSizes limitedServer.replies).getLast? 1048576 header := by
  obtain ⟨finish, started⟩ := limitedServer_starts
  have sizes : limitedServer.sizes = some (1048576, 1) := by
    decide +kernel
  obtain ⟨sent, header, handled, decoded, honours⟩ := block_sizes_honoured limitedProps
    ⟨[0x61], false⟩ ⟨true, 0, 0⟩ ⟨limitedServer.encode, [], []⟩ finish _ rfl started limitedServer
    limitedServer_valid [] (List.append_nil _).symm 1048576 1 sizes
    ⟨7, .read, .read 2040 8 false⟩ .untouched (fun _ => 0) 2040 8 ⟨false, Or.inl ⟨rfl, rfl⟩⟩
    (by decide +kernel) (by decide +kernel)
  exact ⟨_, finish, sent, header, started, handled, decoded, honours⟩

end Wnbd.Nbd
