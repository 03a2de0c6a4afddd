import Wnbd.Nbd.Admission

/-!
# Mapping an NBD export

`CmdMap` of the client, up to the call of `WnbdRunNbdDaemon`: the tests of the arguments
and the properties the daemon starts with.  What the server said in front of the
transmission phase, with the arguments, decides what the daemon is created with.
-/

set_option autoImplicit false

namespace Wnbd.Client

open Wnbd.Scsi Wnbd.Nbd ExactParser

def wnbdMaxNameLength : Nat := 256
def wnbdMaxOwnerLength : Nat := 16

/-- `WNBD_CLI_OWNER_NAME`, "wnbd-client". -/
def wnbdCliOwnerName : List UInt8 :=
  [0x77, 0x6E, 0x62, 0x64, 0x2D, 0x63, 0x6C, 0x69, 0x65, 0x6E, 0x74]

structure MapArguments where
  instanceName : List UInt8
  hostName : List UInt8
  portNumber : UInt32
  exportName : List UInt8
  diskSize : UInt64
  blockSize : UInt32
  skipNegotiation : Bool
  readOnly : Bool

def copyString (string : List UInt8) (length : Nat) : List UInt8 :=
  string.take length ++ List.replicate (length - string.length) 0

/-- The string a `char` pointer to these bytes stands for. -/
def cString (bytes : List UInt8) : List UInt8 := bytes.takeWhile (· ≠ 0)

def checkArguments (arguments : MapArguments) : UInt32 :=
  if arguments.portNumber = 0 then errorInvalidParameter
  else if arguments.portNumber > 65353 then errorInvalidParameter
  else if arguments.skipNegotiation ∧ ¬ (arguments.blockSize ≠ 0 ∧ arguments.diskSize ≠ 0) then
    errorInvalidParameter
  else if arguments.instanceName = [] then errorInvalidParameter
  else if arguments.hostName = [] then errorInvalidParameter
  else 0

/-- `WNBD_PROPERTIES` of the mapping.  A name without its NUL goes on in the next array:
behind the instance name lie the serial number, a copy of it, and the owner. -/
def mapProps (arguments : MapArguments) (pid : UInt32) : WnbdProperties :=
  { instanceName := cString (copyString arguments.instanceName wnbdMaxNameLength ++
      copyString arguments.instanceName wnbdMaxNameLength ++
      copyString wnbdCliOwnerName wnbdMaxOwnerLength)
    flags :=
      { readOnly := arguments.readOnly
        flushSupported := false
        fuaSupported := false
        unmapSupported := false
        useKernelNbd := false
        persistResSupported := false }
    blockCount :=
      if arguments.blockSize ≠ 0 then arguments.diskSize / arguments.blockSize.toUInt64 else 0
    blockSize := arguments.blockSize
    pid }

/-- Behind the export name lie the flags, with `SkipNegotiation` in the first byte. -/
def mapNbdProps (arguments : MapArguments) : NbdProperties :=
  let exportName :=
    if arguments.exportName = [] then arguments.instanceName else arguments.exportName
  { exportName := cString (copyString exportName wnbdMaxNameLength ++
      [if arguments.skipNegotiation then 1 else 0, 0])
    skipNegotiation := arguments.skipNegotiation }

/-- `CmdMap` with the result of `WSAStartup`: what `WnbdRunNbdDaemon` is called with. -/
def cmdMap (arguments : MapArguments) (pid wsaStartup : UInt32) :
    Except UInt32 (WnbdProperties × NbdProperties) :=
  if checkArguments arguments ≠ 0 then .error (checkArguments arguments)
  else if wsaStartup ≠ 0 then .error wsaStartup
  else .ok (mapProps arguments pid, mapNbdProps arguments)

theorem cmdMap_ok {arguments : MapArguments} {pid wsaStartup : UInt32} {props : WnbdProperties}
    {nbdProps : NbdProperties} (mapped : cmdMap arguments pid wsaStartup = .ok (props, nbdProps)) :
    checkArguments arguments = 0 ∧ props = mapProps arguments pid ∧
      nbdProps = mapNbdProps arguments := by
  unfold cmdMap at mapped
  split_ifs at mapped with rejected failed
  cases mapped
  exact ⟨not_not.mp rejected, rfl, rfl⟩

/-! ## What the server said -/

/-- The export size and the transmission flags in front of the transmission phase. -/
inductive ServerSaid (nbdProps : NbdProperties) (stream : List UInt8) :
    Option (UInt64 × UInt16) → Prop
  | nothing (skips : nbdProps.skipNegotiation = true) : ServerSaid nbdProps stream none
  | transcript (transcript : Transcript) (rest : List UInt8) (size : UInt64) (flags : UInt16)
      (negotiates : nbdProps.skipNegotiation = false) (valid : transcript.Valid)
      (arrived : stream = transcript.encode ++ rest)
      (sizes : transcript.sizes = some (size, flags)) :
      ServerSaid nbdProps stream (some (size, flags))

section

variable {props : WnbdProperties} {nbdProps : NbdProperties} {faults : StartFaults}
  {connection finish : Connection} {daemon : StartedDaemon}

theorem tryStart_skipped (skips : nbdProps.skipNegotiation = true)
    (started : tryStart props nbdProps faults connection = .ok (daemon, finish)) :
    Ready props faults ∧ checkBlockCount (mergeFlags (prepareProps props) 0) = 0 ∧
      daemon.props = mergeFlags (prepareProps props) 0 := by
  have succeeded : Succeeds (tryStart props nbdProps faults) connection daemon finish := started
  simp only [tryStart, skips, if_true] at succeeded
  rw [succeeds_reject, succeeds_reject, succeeds_reject, succeeds_reject] at succeeded
  simp only [not_not] at succeeded
  obtain ⟨blockSize, allocated, connected, tcpFlags, finished⟩ := succeeded
  obtain ⟨counted, same, _⟩ := finishStart_iff.mp finished
  exact ⟨⟨blockSize, allocated, connected, tcpFlags⟩, counted, congrArg StartedDaemon.props same⟩

def saidProps (props : WnbdProperties) : Option (UInt64 × UInt16) → WnbdProperties
  | none => mergeFlags (prepareProps props) 0
  | some (size, flags) => mergeFlags
      { prepareProps props with blockCount := size / (prepareProps props).blockSize.toUInt64 } flags

/-- The daemon starts with what the server said, and with nothing else. -/
structure StartsWith (props : WnbdProperties) (faults : StartFaults) (daemon : StartedDaemon)
    (said : Option (UInt64 × UInt16)) : Prop where
  ready : Ready props faults
  counted : checkBlockCount daemon.props = 0
  created : daemon.props = saidProps props said

theorem negotiated_transcript {negotiated : Negotiated}
    (ran : Succeeds (nbdNegotiate nbdProps.exportName nbdFlagFixedNewstyle beforeNegotiation)
      connection negotiated finish) (transcript : Transcript) (valid : transcript.Valid)
    (rest : List UInt8) (arrived : connection.unread = transcript.encode ++ rest) :
    transcript.sizes = some (negotiated.size, negotiated.flags) := by
  obtain ⟨_, complete⟩ := nbdNegotiate_exact nbdProps.exportName beforeNegotiation
  obtain ⟨_, sameRun, _⟩ := complete connection transcript.encode _ rest
    ((negotiationWord_iff 0 0 ⟨0, 0, 0, false⟩ _ _).mpr ⟨transcript, valid, rfl, rfl⟩) arrived
  obtain ⟨sizes, _⟩ := transcript_result 0 0 ⟨0, 0, 0, false⟩ transcript valid
  have same : negotiated = transcript.ending.result
      (transcript.replies.foldl absorb ⟨0, 0, some ⟨0, 0, 0, false⟩, false⟩) :=
    (Prod.mk.inj (Except.ok.inj (ran.symm.trans sameRun))).1
  rw [← same] at sizes
  exact sizes.symm

/-- Whatever the stream says in front of the transmission phase is what the daemon takes. -/
theorem startsWith_of_said (started : tryStart props nbdProps faults connection =
      .ok (daemon, finish)) (said : Option (UInt64 × UInt16))
    (heard : ServerSaid nbdProps connection.unread said) :
    StartsWith props faults daemon said := by
  cases heard with
  | nothing skips =>
      obtain ⟨ready, counted, same⟩ := tryStart_skipped skips started
      exact ⟨ready, by rw [same]; exact counted, same⟩
  | transcript transcript rest size flags negotiates valid arrived sizes =>
      obtain ⟨ready, negotiated, ran, _, counted, rfl⟩ := (tryStart_iff negotiates).mp started
      cases sizes.symm.trans (negotiated_transcript ran transcript valid rest arrived)
      exact ⟨ready, counted, rfl⟩

/-- A daemon that started was told what to start with. -/
theorem serverSaid_of_started (started : tryStart props nbdProps faults connection =
      .ok (daemon, finish)) : ∃ said, ServerSaid nbdProps connection.unread said := by
  cases skips : nbdProps.skipNegotiation with
  | true => exact ⟨none, .nothing skips⟩
  | false =>
      obtain ⟨_, negotiated, ran, _, _, rfl⟩ := (tryStart_iff skips).mp started
      obtain ⟨sound, _⟩ := nbdNegotiate_exact nbdProps.exportName beforeNegotiation
      obtain ⟨word, grammar, arrived⟩ := sound connection negotiated finish ran
      obtain ⟨transcript, valid, rfl, _⟩ :=
        (negotiationWord_iff 0 0 ⟨0, 0, 0, false⟩ _ _).mp grammar
      have sizes := negotiated_transcript ran transcript valid finish.unread arrived
      exact ⟨_, .transcript transcript finish.unread _ _ skips valid arrived sizes⟩

end

end Wnbd.Client
