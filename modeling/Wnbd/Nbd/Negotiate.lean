import Wnbd.Foundation.BigEndian
import Wnbd.Nbd.Socket

/-!
# Fixed newstyle negotiation

`NbdNegotiate` with the readers and parsers it calls.  The connection has every
byte the server sends; the loop over the option replies ends because each reply
takes bytes off it.
-/

set_option autoImplicit false

namespace Wnbd.Nbd

open BigEndian ExactParser

def initPasswd : List UInt8 := [0x4E, 0x42, 0x44, 0x4D, 0x41, 0x47, 0x49, 0x43]
def clientMagic : UInt64 := 0x00420281861253
def optionMagic : UInt64 := 0x49484156454F5054
def replyMagic : UInt64 := 0x3e889045565a9

def nbdOptExportName : UInt32 := 1
def nbdOptGo : UInt32 := 7

def nbdRepAck : UInt32 := 1
def nbdRepInfo : UInt32 := 3
def nbdRepFlagError : UInt32 := 0x80000000
def nbdRepErrUnsup : UInt32 := 1 ||| nbdRepFlagError
def nbdRepErrPolicy : UInt32 := 2 ||| nbdRepFlagError
def nbdRepErrBlockSizeReqd : UInt32 := 8 ||| nbdRepFlagError

def nbdFlagFixedNewstyle : UInt32 := 1
def nbdFlagNoZeroes : UInt16 := 2

def nbdInfoExport : UInt16 := 0
def nbdInfoBlockSize : UInt16 := 3

/-- The big-endian number in a field of a received structure. -/
def field (bytes : List UInt8) (offset width : Nat) : Nat :=
  ofBytes ((bytes.drop offset).take width)

/-! ## Requests -/

def nbdSendHandshakeRequest (option : UInt32) (datasize : Nat) (data : List UInt8) :
    Exchange Unit := do
  sendExact (toBytes 8 optionMagic.toNat ++ toBytes 4 option.toNat ++ toBytes 4 datasize)
  sendExact data

def nbdSendInfoRequest (options : UInt32) (requests : List UInt16) (exportName : List UInt8) :
    Exchange Unit := do
  nbdSendHandshakeRequest options (4 + exportName.length + 2 + requests.length * 2) []
  sendExact (toBytes 4 exportName.length)
  sendExact exportName
  sendExact (toBytes 2 requests.length)
  sendExact (requests.flatMap fun request => toBytes 2 request.toNat)

/-! ## Replies -/

structure NbdHandshakeRpl where
  option : UInt32
  replyType : UInt32
  data : List UInt8
deriving DecidableEq, Repr

/-- A reply with another magic, or one that is cut short, is no reply. -/
def nbdReadHandshakeReply : Exchange NbdHandshakeRpl := do
  let header ← recvExact 20
  if UInt64.ofNat (field header 0 8) ≠ replyMagic then throw errorGenFailure
  else do
    let data ← recvExact (UInt32.ofNat (field header 16 4)).toNat
    pure
      { option := UInt32.ofNat (field header 8 4)
        replyType := UInt32.ofNat (field header 12 4)
        data }

structure NbdBlockSizeInfo where
  minimum : UInt32
  preferred : UInt32
  maximum : UInt32
  received : Bool
deriving DecidableEq, Repr

/-- The out parameters of the negotiation and `SeenExport`. -/
structure Negotiated where
  size : UInt64
  flags : UInt16
  /-- None for a NULL pointer. -/
  blockSizeInfo : Option NbdBlockSizeInfo
  seenExport : Bool
deriving DecidableEq, Repr

def nbdParseSizes (data : List UInt8) : UInt64 × UInt16 :=
  (UInt64.ofNat (field data 0 8), UInt16.ofNat (field data 8 2))

/-- The information type in front of an info reply's payload. -/
def infoType (data : List UInt8) : UInt16 := UInt16.ofNat (field data 0 2)

def nbdParseOptGoReply (replyType : UInt32) (data : List UInt8) (negotiated : Negotiated) :
    Except UInt32 Negotiated :=
  if replyType = nbdRepAck then
    if data.length ≠ 0 then .error errorBadFormat
    else if negotiated.seenExport then .ok negotiated
    else .error errorBadFormat
  else if replyType ≠ nbdRepInfo then .ok negotiated
  else if data.length < 2 then .error errorBadFormat
  else if infoType data ≠ nbdInfoExport then .ok negotiated
  else if data.length ≠ 12 then .error errorBadFormat
  else
    let (size, flags) := nbdParseSizes (data.drop 2)
    .ok { negotiated with size, flags, seenExport := true }

def nbdParseInfoBlockSize (replyType : UInt32) (data : List UInt8)
    (blockSizeInfo : NbdBlockSizeInfo) : Except UInt32 NbdBlockSizeInfo :=
  if replyType ≠ nbdRepInfo then .ok blockSizeInfo
  else if data.length < 2 then .error errorBadFormat
  else if infoType data ≠ nbdInfoBlockSize then .ok blockSizeInfo
  else if data.length ≠ 14 then .error errorBadFormat
  else .ok
    { minimum := UInt32.ofNat (field data 2 4)
      preferred := UInt32.ofNat (field data 6 4)
      maximum := UInt32.ofNat (field data 10 4)
      received := true }

/-- The second parser runs when the caller asked for the block sizes. -/
def parseBlockSizes (replyType : UInt32) (data : List UInt8) (negotiated : Negotiated) :
    Except UInt32 Negotiated :=
  match negotiated.blockSizeInfo with
  | none => .ok negotiated
  | some found =>
      match nbdParseInfoBlockSize replyType data found with
      | .error code => .error code
      | .ok blockSizeInfo => .ok { negotiated with blockSizeInfo := some blockSizeInfo }

/-! ## The negotiation -/

def nbdValidateOptionMagic (magic : UInt64) : UInt32 :=
  if magic = optionMagic then 0
  else if magic = clientMagic then errorNotSupported
  else errorBadFormat

def nbdMaskClientFlags (clientFlags : UInt32) (serverFlags : UInt16) : UInt32 :=
  clientFlags &&& serverFlags.toUInt32

def nbdRequireFixedNewstyle (clientFlags : UInt32) : UInt32 :=
  if clientFlags &&& nbdFlagFixedNewstyle ≠ 0 then 0 else errorNotSupported

def nbdSendOptExportName (exportName : List UInt8) (gFlags : UInt16) (negotiated : Negotiated) :
    Exchange Negotiated := do
  nbdSendHandshakeRequest nbdOptExportName exportName.length exportName
  let buf ← recvExact 10
  let (size, flags) := nbdParseSizes buf
  if gFlags &&& nbdFlagNoZeroes ≠ 0 then pure { negotiated with size, flags }
  else do
    let _ ← recvExact 124
    pure { negotiated with size, flags }

/-- What the loop does with a reply. -/
inductive Round
  | refused (code : UInt32)
  | exportName
  | finished (negotiated : Negotiated)
  | more (negotiated : Negotiated)

def optGoRound (negotiated : Negotiated) (reply : NbdHandshakeRpl) : Round :=
  if reply.replyType &&& nbdRepFlagError ≠ 0 then
    if reply.replyType = nbdRepErrUnsup then .exportName
    else if reply.replyType = nbdRepErrPolicy then .refused errorAccessDenied
    else if reply.replyType = nbdRepErrBlockSizeReqd then .refused errorNotSupported
    else .refused errorAccessDenied
  else
    match nbdParseOptGoReply reply.replyType reply.data negotiated with
    | .error code => .refused code
    | .ok negotiated =>
        match parseBlockSizes reply.replyType reply.data negotiated with
        | .error code => .refused code
        | .ok negotiated =>
            if reply.replyType = nbdRepAck then .finished negotiated else .more negotiated

/-- The greeting up to the server's flags. -/
def nbdReceiveGreeting : Exchange UInt16 := do
  let buf ← recvExact 8
  if buf ≠ initPasswd then throw errorBadFormat
  else do
    let magic ← recvExact 8
    let code := nbdValidateOptionMagic (UInt64.ofNat (ofBytes magic))
    if code ≠ 0 then throw code
    else do
      let gFlags ← recvExact 2
      pure (UInt16.ofNat (ofBytes gFlags))

theorem nbdReadHandshakeReply_shortens {start finish : Connection} {reply : NbdHandshakeRpl}
    (succeeded : nbdReadHandshakeReply start = .ok (reply, finish)) :
    finish.unread.length < start.unread.length := by
  obtain ⟨header, middle, ranHeader, ranRest⟩ := succeeds_bind.mp succeeded
  obtain ⟨⟨_, headerLength, _⟩, headerSplit⟩ := recvExact_sound 20 start middle header ranHeader
  split at ranRest
  · cases ranRest
  obtain ⟨data, last, ranData, finished⟩ := succeeds_bind.mp ranRest
  obtain ⟨_, dataSplit⟩ := recvExact_sound _ middle last data ranData
  obtain ⟨_, same⟩ := succeeds_pure.mp finished
  rw [headerSplit, dataSplit, ← same, List.length_append, List.length_append]
  omega

def nbdNegotiateLoop (exportName : List UInt8) (gFlags : UInt16) (negotiated : Negotiated)
    (connection : Connection) : Except UInt32 (Negotiated × Connection) :=
  match _ : nbdReadHandshakeReply connection with
  | .error _ => .error errorGenFailure
  | .ok (reply, after) =>
      match optGoRound negotiated reply with
      | .refused code => .error code
      | .exportName => nbdSendOptExportName exportName gFlags negotiated after
      | .finished negotiated => .ok (negotiated, after)
      | .more negotiated => nbdNegotiateLoop exportName gFlags negotiated after
termination_by connection.unread.length
decreasing_by exact nbdReadHandshakeReply_shortens ‹_›

def nbdNegotiate (exportName : List UInt8) (clientFlags : UInt32) (negotiated : Negotiated) :
    Exchange Negotiated := do
  let gFlags ← nbdReceiveGreeting
  let clientFlags := nbdMaskClientFlags
    (if gFlags &&& nbdFlagNoZeroes ≠ 0 then clientFlags ||| nbdFlagNoZeroes.toUInt32
      else clientFlags) gFlags
  let code := nbdRequireFixedNewstyle clientFlags
  if code ≠ 0 then throw code
  else do
    sendExact (toBytes 4 clientFlags.toNat)
    nbdSendInfoRequest nbdOptGo [nbdInfoExport, nbdInfoBlockSize] exportName
    nbdNegotiateLoop exportName gFlags { negotiated with seenExport := false }

end Wnbd.Nbd
