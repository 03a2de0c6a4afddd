import Wnbd.Foundation.ByteReader
import Wnbd.Nbd.ExactTransfer
import Wnbd.Nbd.Negotiate
import Wnbd.Nbd.Threads

/-!
# What the client writes is what a server reads

The senders of `nbd_protocol.cpp` piece by piece over `SendExact`, next to readers of
the NBD request and option formats.  A frame is read back with its values, and nothing
of it is left.
-/

set_option autoImplicit false

namespace Wnbd.Nbd.Transfer

open BigEndian ExactParser ByteReader

/-! ## Pieces of a frame -/

/-- A buffer that holds these bytes. -/
def bufferOf (bytes : List UInt8) : Nat → UInt8 := fun index => bytes.getD index 0

/-- The next piece is sent when the pieces before it were. -/
def Sent.andThen (first : Sent) (next : Nat → Sent) : Sent :=
  if first.code ≠ 0 then first
  else
    let second := next first.calls
    ⟨second.code, second.calls, first.bytes ++ second.bytes⟩

def nothingSent (calls : Nat) : Sent := ⟨0, calls, []⟩

/-- `native_to_big` of a `UINT16` on a little-endian host. -/
def nativeToBig (word : UInt16) : UInt16 := word <<< 8 ||| word >>> 8

/-- An array of `UINT16` in memory. -/
def wordsInMemory (words : List UInt16) : Nat → UInt8 :=
  bufferOf (words.flatMap fun word => (toBytes 2 word.toNat).reverse)

section Senders

variable (fd : UInt64) (answers : Answers)

def sendBytes (bytes : List UInt8) (calls : Nat) : Sent :=
  sendExact fd answers (bufferOf bytes) bytes.length calls

def nbdRequest (offset : UInt64) (length : UInt32) (handle : UInt64) (requestType : UInt32)
    (calls : Nat) : Sent :=
  if fd = invalidSocket then ⟨errorInvalidHandle, calls, []⟩
  else sendBytes fd answers (nbdEncodeRequest offset length handle requestType) calls

def nbdSendWrite (offset : UInt64) (length : UInt32) (data : Option (Nat → UInt8))
    (handle : UInt64) (nbdTransmissionFlags : UInt32) (calls : Nat) : Sent :=
  match data with
  | none => ⟨errorInvalidParameter, calls, []⟩
  | some data =>
      if fd = invalidSocket then ⟨errorInvalidHandle, calls, []⟩
      else
        let header := nbdEncodeRequest offset length handle (nbdCmdWrite ||| nbdTransmissionFlags)
        (sendBytes fd answers header calls).andThen fun calls =>
          if length = 0 then nothingSent calls
          else sendExact fd answers data length.toNat calls

/-- The size is a `size_t` and is cut to a `ULONG`. -/
def nbdSendHandshakeRequest (option : UInt32) (datasize : Nat) (data : Option (Nat → UInt8))
    (calls : Nat) : Sent :=
  let request := toBytes 8 optionMagic.toNat ++ toBytes 4 option.toNat ++
    toBytes 4 (UInt32.ofNat datasize).toNat
  (sendBytes fd answers request calls).andThen fun calls =>
    match data with
    | none => nothingSent calls
    | some data => sendExact fd answers data datasize calls

def nbdSendInfoRequest (options : UInt32) (numberOfRequests : UInt16)
    (requests : Option (Nat → UInt8)) (exportName : List UInt8) (calls : Nat) : Sent :=
  let totalLen := 4 + exportName.length + 2 + numberOfRequests.toNat * 2
  (((nbdSendHandshakeRequest fd answers options totalLen none calls).andThen
    (sendBytes fd answers (toBytes 4 (UInt32.ofNat exportName.length).toNat))).andThen
    (sendBytes fd answers exportName)).andThen
    (sendBytes fd answers (toBytes 2 numberOfRequests.toNat)) |>.andThen fun calls =>
      match requests with
      | none => nothingSent calls
      | some requests =>
          if numberOfRequests > 0 then
            sendExact fd answers requests (numberOfRequests.toNat * 2) calls
          else nothingSent calls

/-- The legacy option: what it sent, and the export that it received. -/
structure OptExportName where
  code : UInt32
  sent : Sent
  negotiated : Option (UInt64 × UInt16)

def nbdSendOptExportName (exportName : List UInt8) (gFlags : UInt16) (recvs : Answers)
    (incoming : Nat → UInt8) (calls recvCalls position : Nat) : OptExportName :=
  let sent := nbdSendHandshakeRequest fd answers nbdOptExportName exportName.length
    (some (bufferOf exportName)) calls
  if sent.code ≠ 0 then ⟨sent.code, sent, none⟩
  else
    let buf := recvExact fd recvs incoming 10 recvCalls position fun _ => 0
    if buf.code ≠ 0 then ⟨buf.code, sent, none⟩
    else
      let sizes := nbdParseSizes (bytesFrom buf.buffer 0 10)
      if gFlags &&& nbdFlagNoZeroes ≠ 0 then ⟨0, sent, some sizes⟩
      else
        let temp := recvExact fd recvs incoming 124 buf.calls (position + 10) fun _ => 0
        ⟨temp.code, sent, some sizes⟩

/-- `NbdReadReply` with the bytes it receives. -/
def receiveReply (recvs : Answers) (incoming : Nat → UInt8) (calls position : Nat)
    (buffer : Nat → UInt8) : Except UInt32 NbdReply :=
  let received := recvExact fd recvs incoming nbdReplySize calls position buffer
  if received.code ≠ 0 then .error received.code
  else nbdReadReply (bytesFrom received.buffer 0 nbdReplySize)

end Senders

/-! ## The formats of the specification -/

/-- A request as a server reads it.  The handle is opaque, and only a write has a
payload. -/
structure DecodedRequest where
  flags : Nat
  command : Nat
  handle : List UInt8
  offset : Nat
  length : Nat
  payload : List UInt8
deriving DecidableEq, Repr

def decodeRequest : Reader DecodedRequest := do
  let magic ← number 4
  demand (magic = 0x25609513)
  let type ← number 4
  let handle ← takeBytes 8
  let offset ← number 8
  let length ← number 4
  let payload ← takeBytes (if type % 2 ^ 16 = 1 then length else 0)
  pure ⟨type / 2 ^ 16, type % 2 ^ 16, handle, offset, length, payload⟩

structure DecodedOption where
  option : Nat
  data : List UInt8
deriving DecidableEq, Repr

def decodeOption : Reader DecodedOption := do
  let magic ← number 8
  demand (magic = 0x49484156454F5054)
  let option ← number 4
  let length ← number 4
  let data ← takeBytes length
  pure ⟨option, data⟩

/-- The data of `NBD_OPT_GO` and `NBD_OPT_INFO`. -/
structure DecodedInfo where
  exportName : List UInt8
  requests : List Nat
deriving DecidableEq, Repr

def decodeInfo : Reader DecodedInfo := do
  let nameLength ← number 4
  let exportName ← takeBytes nameLength
  let count ← number 2
  let requests ← numbers 2 count
  pure ⟨exportName, requests⟩

/-! ## Sends that succeed -/

/-- A call with a positive length moves at least one byte. -/
def Moves (answers : Answers) : Prop :=
  ∀ calls length, 0 < length → 0 < (answers calls length).result

theorem bytesFrom_bufferOf (bytes : List UInt8) :
    bytesFrom (bufferOf bytes) 0 bytes.length = bytes := by
  refine List.ext_getElem (bytesFrom_length _ _ _) fun index _ bound => ?_
  simp only [bytesFrom, List.getElem_map, List.getElem_range, Nat.zero_add, bufferOf,
    List.getD_eq_getElem?_getD, List.getElem?_eq_getElem bound, Option.getD_some]

theorem sendLoop_all {answers : Answers} (moves : Moves answers) (data : Nat → UInt8)
    (length calls current : Nat) (small : length < 2 ^ 31) :
    (sendLoop answers data length calls current).code = 0 ∧
      (sendLoop answers data length calls current).bytes = bytesFrom data current length := by
  induction length using Nat.strong_induction_on generalizing calls current with
  | _ length hypothesis =>
      by_cases left : length = 0
      · subst left
        rw [sendLoop_zero]
        exact ⟨rfl, rfl⟩
      · have moved : 0 < (next answers length calls).result := by
          refine moves calls _ ?_
          rw [intOf_of_lt length small]
          omega
        have most := (next answers length calls).toNat_le
        obtain ⟨code, bytes⟩ := hypothesis
          (length - (next answers length calls).result.toNat) (by omega) (calls + 1)
          (current + (next answers length calls).result.toNat) (by omega)
        rw [sendLoop_moves answers length calls data current left (not_le.mpr moved)]
        refine ⟨code, ?_⟩
        dsimp only
        rw [bytes, bytesFrom_append]
        congr 1
        omega

section Complete

variable {fd : UInt64} {answers : Answers}

/-- The pieces sent so far. -/
def SentBytes (sent : Sent) (bytes : List UInt8) : Prop := sent.code = 0 ∧ sent.bytes = bytes

theorem SentBytes.andThen {first : Sent} {next : Nat → Sent} {bytes more : List UInt8}
    (sent : SentBytes first bytes) (follows : ∀ calls, SentBytes (next calls) more) :
    SentBytes (first.andThen next) (bytes ++ more) := by
  obtain ⟨code, found⟩ := sent
  obtain ⟨nextCode, nextFound⟩ := follows first.calls
  rw [Sent.andThen, if_neg (not_not.mpr code)]
  refine ⟨nextCode, ?_⟩
  dsimp only
  rw [found, nextFound]

theorem sentBytes_nothing (calls : Nat) : SentBytes (nothingSent calls) [] := ⟨rfl, rfl⟩

theorem sentBytes_sendExact (valid : fd ≠ invalidSocket) (moves : Moves answers)
    (data : Nat → UInt8) (length calls : Nat) (small : length < 2 ^ 31) :
    SentBytes (sendExact fd answers data length calls) (bytesFrom data 0 length) := by
  rw [sendExact, if_neg valid]
  exact sendLoop_all moves data length calls 0 small

theorem sentBytes_sendBytes (valid : fd ≠ invalidSocket) (moves : Moves answers)
    (bytes : List UInt8) (calls : Nat) (small : bytes.length < 2 ^ 31) :
    SentBytes (sendBytes fd answers bytes calls) bytes := by
  have sent := sentBytes_sendExact valid moves (bufferOf bytes) bytes.length calls small
  rwa [bytesFrom_bufferOf] at sent

theorem nbdRequest_sent (valid : fd ≠ invalidSocket) (moves : Moves answers) (offset : UInt64)
    (length : UInt32) (handle : UInt64) (requestType : UInt32) (calls : Nat) :
    SentBytes (nbdRequest fd answers offset length handle requestType calls)
      (nbdEncodeRequest offset length handle requestType) := by
  rw [nbdRequest, if_neg valid]
  refine sentBytes_sendBytes valid moves _ calls ?_
  rw [nbdEncodeRequest_length]
  decide

theorem nbdSendWrite_sent (valid : fd ≠ invalidSocket) (moves : Moves answers) (offset : UInt64)
    (length : UInt32) (data : Nat → UInt8) (handle : UInt64) (flags : UInt32) (calls : Nat)
    (small : length.toNat < 2 ^ 31) :
    SentBytes (nbdSendWrite fd answers offset length (some data) handle flags calls)
      (nbdEncodeRequest offset length handle (nbdCmdWrite ||| flags) ++
        bytesFrom data 0 length.toNat) := by
  simp only [nbdSendWrite, if_neg valid]
  refine (sentBytes_sendBytes valid moves _ calls ?_).andThen fun calls => ?_
  · rw [nbdEncodeRequest_length]
    decide
  · split
    case isTrue empty =>
      rw [empty]
      exact sentBytes_nothing calls
    case isFalse => exact sentBytes_sendExact valid moves data _ calls small

/-- The first call of a payload of 2 GiB or more has a negative length. -/
theorem nbdSendWrite_fails (valid : fd ≠ invalidSocket) (moves : Moves answers) (offset : UInt64)
    (length : UInt32) (data : Nat → UInt8) (handle : UInt64) (flags : UInt32) (calls : Nat)
    (large : 2 ^ 31 ≤ length.toNat) :
    (nbdSendWrite fd answers offset length (some data) handle flags calls).code ≠ 0 := by
  have short : (nbdEncodeRequest offset length handle (nbdCmdWrite ||| flags)).length <
      2 ^ 31 := by
    rw [nbdEncodeRequest_length]
    decide
  have header := sentBytes_sendBytes valid moves _ calls short
  have nonzero : length ≠ 0 := by
    rintro rfl
    exact absurd large (by decide)
  have left : length.toNat ≠ 0 := by omega
  simp only [nbdSendWrite, if_neg valid, Sent.andThen, if_neg (not_not.mpr header.1), if_neg nonzero]
  generalize (sendBytes fd answers _ calls).calls = later
  have bound := length.toNat_lt
  have negative : intOf length.toNat < 0 := by
    rw [intOf, if_neg (by omega)]
    omega
  have failed : (next answers length.toNat later).result = -1 := by
    rcases (next answers length.toNat later).range with failed | ⟨least, most⟩
    · exact failed
    · omega
  rw [sendExact, if_neg valid, sendLoop_stops _ _ _ _ _ left (by rw [failed]; decide)]
  exact failureCode_ne_zero _ _ failed

theorem nbdSendHandshakeRequest_sent (valid : fd ≠ invalidSocket) (moves : Moves answers)
    (option : UInt32) (datasize : Nat) (data : Option (Nat → UInt8)) (calls : Nat)
    (small : data.isSome = true → datasize < 2 ^ 31) :
    SentBytes (nbdSendHandshakeRequest fd answers option datasize data calls)
      (toBytes 8 optionMagic.toNat ++ toBytes 4 option.toNat ++
        toBytes 4 (UInt32.ofNat datasize).toNat ++
          (data.elim [] fun data => bytesFrom data 0 datasize)) := by
  rw [nbdSendHandshakeRequest]
  refine (sentBytes_sendBytes valid moves _ calls (by simp)).andThen fun calls => ?_
  cases data with
  | none => exact sentBytes_nothing calls
  | some data => exact sentBytes_sendExact valid moves data datasize calls (small rfl)

/-- The data of an information request. -/
def infoData (requests : List UInt16) (exportName : List UInt8) : List UInt8 :=
  toBytes 4 exportName.length ++ exportName ++ toBytes 2 requests.length ++
    (requests.map (·.toNat)).flatMap (toBytes 2)

theorem infoData_length (requests : List UInt16) (exportName : List UInt8) :
    (infoData requests exportName).length = 4 + exportName.length + 2 + requests.length * 2 := by
  have words : ((requests.map (·.toNat)).flatMap (toBytes 2)).length = requests.length * 2 := by
    induction requests with
    | nil => rfl
    | cons request requests hypothesis =>
        rw [List.map_cons, List.flatMap_cons, List.length_append, hypothesis, toBytes_length,
          List.length_cons]
        omega
  simp only [infoData, List.length_append, toBytes_length, words]

theorem toBytes_nativeToBig (word : UInt16) :
    (toBytes 2 (nativeToBig word).toNat).reverse = toBytes 2 word.toNat := by
  have bound := word.toNat_lt
  have low : word.toNat <<< 8 % 2 ^ 16 = (word.toNat % 256) <<< 8 := by
    rw [Nat.shiftLeft_eq, Nat.shiftLeft_eq]
    omega
  have swapped : (nativeToBig word).toNat = word.toNat % 256 * 256 + word.toNat / 256 := by
    rw [nativeToBig, UInt16.toNat_or, UInt16.toNat_shiftLeft, UInt16.toNat_shiftRight]
    change word.toNat <<< 8 % 2 ^ 16 ||| word.toNat >>> 8 = _
    rw [low, Nat.shiftRight_eq_div_pow, or_last_byte _ _ (by omega)]
  have bytes : ∀ value, toBytes 2 value =
      [UInt8.ofNat (value / 256), UInt8.ofNat value] := by
    intro value
    simp [toBytes]
  have high : (word.toNat % 256 * 256 + word.toNat / 256) / 256 = word.toNat % 256 := by
    rw [Nat.mul_comm, Nat.mul_add_div (by decide), Nat.div_eq_of_lt (by omega), Nat.add_zero]
  rw [bytes, bytes, swapped, high, List.reverse_cons, List.reverse_singleton, List.singleton_append]
  congr 1
  · rw [← UInt8.toNat_inj, UInt8.toNat_ofNat', UInt8.toNat_ofNat']
    omega
  · congr 1
    rw [← UInt8.toNat_inj, UInt8.toNat_ofNat', UInt8.toNat_ofNat']
    omega

theorem wordsInMemory_nativeToBig (requests : List UInt16) :
    bytesFrom (wordsInMemory (requests.map nativeToBig)) 0 (requests.length * 2) =
      (requests.map (·.toNat)).flatMap (toBytes 2) := by
  have words : (requests.map nativeToBig).flatMap (fun word => (toBytes 2 word.toNat).reverse) =
      (requests.map (·.toNat)).flatMap (toBytes 2) := by
    rw [List.flatMap_map, List.flatMap_map]
    exact List.flatMap_congr fun request _ => toBytes_nativeToBig request
  have sized := infoData_length requests []
  have length : requests.length * 2 = ((requests.map (·.toNat)).flatMap (toBytes 2)).length := by
    simp only [infoData, List.length_append, toBytes_length, List.length_nil] at sized
    omega
  rw [wordsInMemory, words, length, bytesFrom_bufferOf]

/-- The bytes of an option with its data. -/
def optionFrame (option : UInt32) (data : List UInt8) : List UInt8 :=
  toBytes 8 optionMagic.toNat ++ toBytes 4 option.toNat ++ toBytes 4 data.length ++ data

theorem toBytes_size (size : Nat) : toBytes 4 (UInt32.ofNat size).toNat = toBytes 4 size := by
  have split : size = size % 2 ^ 32 + size / 2 ^ 32 * 256 ^ 4 := by
    omega
  rw [UInt32.toNat_ofNat']
  conv_rhs => rw [split, toBytes_add_mul]

theorem nbdSendInfoRequest_sent (valid : fd ≠ invalidSocket) (moves : Moves answers)
    (options : UInt32) (requests : List UInt16) (exportName : List UInt8) (calls : Nat)
    (few : requests.length ≤ 65535) (short : exportName.length < 2 ^ 31) :
    SentBytes (nbdSendInfoRequest fd answers options (UInt16.ofNat requests.length)
        (some (wordsInMemory (requests.map nativeToBig))) exportName calls)
      (optionFrame options (infoData requests exportName)) := by
  have count : (UInt16.ofNat requests.length).toNat = requests.length := by
    rw [UInt16.toNat_ofNat']
    exact Nat.mod_eq_of_lt (by omega)
  have pieces := (((nbdSendHandshakeRequest_sent valid moves options
    (4 + exportName.length + 2 + requests.length * 2) none calls (fun some => by cases some)).andThen
    fun calls => sentBytes_sendBytes valid moves
      (toBytes 4 (UInt32.ofNat exportName.length).toNat) calls (by simp)).andThen
    fun calls => sentBytes_sendBytes valid moves exportName calls short).andThen
    fun calls => sentBytes_sendBytes valid moves (toBytes 2 requests.length) calls (by simp)
  have last : ∀ calls, SentBytes
      (if UInt16.ofNat requests.length > 0 then
        sendExact fd answers (wordsInMemory (requests.map nativeToBig)) (requests.length * 2) calls
      else nothingSent calls) ((requests.map (·.toNat)).flatMap (toBytes 2)) := by
    intro calls
    split
    case isTrue =>
      rw [← wordsInMemory_nativeToBig]
      exact sentBytes_sendExact valid moves _ _ calls (by omega)
    case isFalse none =>
      have empty : requests = [] := by
        rw [gt_iff_lt, UInt16.lt_iff_toNat_lt, count] at none
        exact List.length_eq_zero_iff.mp (Nat.le_zero.mp (not_lt.mp none))
      rw [empty]
      exact sentBytes_nothing calls
  have whole := pieces.andThen last
  rw [nbdSendInfoRequest, count]
  convert whole using 1
  rw [optionFrame, infoData_length]
  simp only [infoData, toBytes_size, Option.elim_none, List.append_nil, List.append_assoc]

theorem nbdSendOptExportName_sent (valid : fd ≠ invalidSocket) (moves : Moves answers)
    (exportName : List UInt8) (gFlags : UInt16) (recvs : Answers) (incoming : Nat → UInt8)
    (calls recvCalls position : Nat) (short : exportName.length < 2 ^ 31) :
    SentBytes (nbdSendOptExportName fd answers exportName gFlags recvs incoming calls recvCalls
        position).sent (optionFrame nbdOptExportName exportName) := by
  have sent := nbdSendHandshakeRequest_sent valid moves nbdOptExportName exportName.length
    (some (bufferOf exportName)) calls fun _ => short
  rw [Option.elim_some, bytesFrom_bufferOf, toBytes_size] at sent
  have same : (nbdSendOptExportName fd answers exportName gFlags recvs incoming calls recvCalls
      position).sent = nbdSendHandshakeRequest fd answers nbdOptExportName exportName.length
        (some (bufferOf exportName)) calls := by
    simp only [nbdSendOptExportName]
    split_ifs <;> rfl
  rw [same]
  exact sent

end Complete

/-! ## Reading the frames back -/

theorem decodeRequest_encode (offset : UInt64) (length : UInt32) (handle : UInt64)
    (requestType : UInt32) (payload : List UInt8)
    (announced : payload.length = if requestType.toNat % 2 ^ 16 = 1 then length.toNat else 0) :
    Succeeds decodeRequest (nbdEncodeRequest offset length handle requestType ++ payload)
      ⟨requestType.toNat / 2 ^ 16, requestType.toNat % 2 ^ 16, hostBytes handle, offset.toNat,
        length.toNat, payload⟩ [] := by
  have cookie := takeBytes_front (hostBytes handle)
    (toBytes 8 offset.toNat ++ (toBytes 4 length.toNat ++ payload))
  rw [hostBytes_length] at cookie
  have last := takeBytes_front payload []
  rw [announced, List.append_nil] at last
  simp only [nbdEncodeRequest, List.append_assoc]
  refine succeeds_bind.mpr ⟨_, _, number_front 4 _ nbdRequestMagic.toNat_lt _, ?_⟩
  refine succeeds_bind.mpr ⟨(), _, demand_succeeds.mpr ⟨rfl, rfl⟩, ?_⟩
  refine succeeds_bind.mpr ⟨_, _, number_front 4 _ requestType.toNat_lt _, ?_⟩
  refine succeeds_bind.mpr ⟨_, _, cookie, ?_⟩
  refine succeeds_bind.mpr ⟨_, _, number_front 8 _ offset.toNat_lt _, ?_⟩
  refine succeeds_bind.mpr ⟨_, _, number_front 4 _ length.toNat_lt _, ?_⟩
  exact succeeds_bind.mpr ⟨_, _, last, succeeds_pure.mpr ⟨rfl, rfl⟩⟩

theorem decodeOption_frame (option : UInt32) (data : List UInt8) (short : data.length < 2 ^ 32) :
    Succeeds decodeOption (optionFrame option data) ⟨option.toNat, data⟩ [] := by
  have last := takeBytes_front data []
  rw [List.append_nil] at last
  simp only [optionFrame, List.append_assoc]
  refine succeeds_bind.mpr ⟨_, _, number_front 8 _ optionMagic.toNat_lt _, ?_⟩
  refine succeeds_bind.mpr ⟨(), _, demand_succeeds.mpr ⟨rfl, rfl⟩, ?_⟩
  refine succeeds_bind.mpr ⟨_, _, number_front 4 _ option.toNat_lt _, ?_⟩
  refine succeeds_bind.mpr ⟨_, _, number_front 4 _ short _, ?_⟩
  exact succeeds_bind.mpr ⟨_, _, last, succeeds_pure.mpr ⟨rfl, rfl⟩⟩

theorem decodeInfo_data (requests : List UInt16) (exportName : List UInt8)
    (few : requests.length ≤ 65535) (short : exportName.length < 2 ^ 31) :
    Succeeds decodeInfo (infoData requests exportName)
      ⟨exportName, requests.map (·.toNat)⟩ [] := by
  have words := numbers_front 2 (requests.map (·.toNat)) (fun value member => by
    obtain ⟨request, _, rfl⟩ := List.mem_map.mp member
    exact request.toNat_lt) []
  rw [List.length_map, List.append_nil] at words
  simp only [infoData, List.append_assoc]
  refine succeeds_bind.mpr ⟨_, _, number_front 4 _ (by omega) _, ?_⟩
  refine succeeds_bind.mpr ⟨_, _, takeBytes_front exportName _, ?_⟩
  refine succeeds_bind.mpr ⟨_, _, number_front 2 _ (by omega) _, ?_⟩
  exact succeeds_bind.mpr ⟨_, _, words, succeeds_pure.mpr ⟨rfl, rfl⟩⟩

/-! ## Replies -/

theorem recvLoop_all {answers : Answers} (moves : Moves answers) (incoming : Nat → UInt8)
    (length calls position current : Nat) (buffer : Nat → UInt8) (small : length < 2 ^ 31) :
    (recvLoop answers incoming length calls position current buffer).code = 0 := by
  induction length using Nat.strong_induction_on generalizing calls position current buffer with
  | _ length hypothesis =>
      by_cases left : length = 0
      · subst left
        rw [recvLoop_zero]
      · have moved : 0 < (next answers length calls).result := by
          refine moves calls _ ?_
          rw [intOf_of_lt length small]
          omega
        rw [recvLoop_moves answers length calls incoming position current buffer left moved]
        exact hypothesis _ (by omega) _ _ _ _ (by omega)

theorem recvExact_all {fd : UInt64} {answers : Answers} (valid : fd ≠ invalidSocket)
    (moves : Moves answers) (incoming : Nat → UInt8) (length calls position : Nat)
    (buffer : Nat → UInt8) (small : length < 2 ^ 31) :
    (recvExact fd answers incoming length calls position buffer).code = 0 ∧
      bytesFrom (recvExact fd answers incoming length calls position buffer).buffer 0 length =
        bytesFrom incoming position length := by
  have received := (recvExact_iff fd answers incoming length calls position buffer).mpr
    fun invalid => absurd invalid valid
  have code : (recvExact fd answers incoming length calls position buffer).code = 0 := by
    rw [recvExact, if_neg valid]
    exact recvLoop_all moves incoming length calls position 0 buffer small
  refine ⟨code, ?_⟩
  rw [received.filled, received.code.mp code]
  refine List.map_congr_left fun index member => ?_
  have bound := List.mem_range.mp member
  rw [fill, if_pos (by omega)]
  congr 1
  omega

/-- An echoed handle is the handle that was sent. -/
theorem receiveReply_echo {fd : UInt64} {recvs : Answers} (valid : fd ≠ invalidSocket)
    (moves : Moves recvs) (handle : UInt64) (error : List UInt8) (width : error.length = 4)
    (incoming : Nat → UInt8) (calls position : Nat) (buffer : Nat → UInt8)
    (arrives : bytesFrom incoming position nbdReplySize =
      toBytes 4 nbdReplyMagic.toNat ++ (error ++ hostBytes handle)) :
    receiveReply fd recvs incoming calls position buffer =
      .ok ⟨UInt32.ofNat (ofBytes error), handle⟩ := by
  obtain ⟨code, bytes⟩ := recvExact_all valid moves incoming nbdReplySize calls position buffer
    (by decide)
  have magic : ofBytes (toBytes 4 nbdReplyMagic.toNat) = nbdReplyMagic.toNat :=
    ofBytes_toBytes_of_lt 4 _ nbdReplyMagic.toNat_lt
  simp only [receiveReply, code, ne_eq, not_true_eq_false, if_false]
  rw [bytes, arrives, nbdReadReply, splitAt_field 4 _ _ (toBytes_length _ _)]
  dsimp only
  rw [splitAt_field 4 _ _ width, if_neg (not_not.mpr magic), hostBytes, List.reverse_reverse,
    ofBytes_word64]

/-! ## Round trips -/

/-- What a server reads of everything the client writes, from the call number on. -/
structure RoundTrips (fd : UInt64) (answers : Answers) (calls : Nat) : Prop where
  /-- `NbdRequest` sends no payload, so the request must not announce one. -/
  request : ∀ offset length handle requestType,
    requestType.toNat % 2 ^ 16 ≠ nbdCmdWrite.toNat ∨ length = 0 →
    (nbdRequest fd answers offset length handle requestType calls).code = 0 ∧
    Succeeds decodeRequest (nbdRequest fd answers offset length handle requestType calls).bytes
      ⟨requestType.toNat / 2 ^ 16, requestType.toNat % 2 ^ 16, hostBytes handle, offset.toNat,
        length.toNat, []⟩ []
  write : ∀ offset length data handle (fua : Bool),
    let sent := nbdSendWrite fd answers offset length (some data) handle
      (if fua then nbdCmdFlagFua else 0) calls
    (sent.code = 0 ↔ length.toNat < 2 ^ 31) ∧
    (sent.code = 0 → Succeeds decodeRequest sent.bytes
      ⟨fua.toNat, nbdCmdWrite.toNat, hostBytes handle, offset.toNat, length.toNat,
        bytesFrom data 0 length.toNat⟩ [])
  info : ∀ options (requests : List UInt16) (exportName : List UInt8),
    requests.length ≤ 65535 → exportName.length < 2 ^ 31 →
    let sent := nbdSendInfoRequest fd answers options (UInt16.ofNat requests.length)
      (some (wordsInMemory (requests.map nativeToBig))) exportName calls
    sent.code = 0 ∧ ∃ data, Succeeds decodeOption sent.bytes ⟨options.toNat, data⟩ [] ∧
      Succeeds decodeInfo data ⟨exportName, requests.map (·.toNat)⟩ []
  exportName : ∀ (exportName : List UInt8) gFlags recvs incoming recvCalls position,
    exportName.length < 2 ^ 31 →
    let sent := (nbdSendOptExportName fd answers exportName gFlags recvs incoming calls recvCalls
      position).sent
    sent.code = 0 ∧ Succeeds decodeOption sent.bytes ⟨nbdOptExportName.toNat, exportName⟩ []
  echo : ∀ recvs, Moves recvs → ∀ handle (error : List UInt8) incoming recvCalls position buffer,
    error.length = 4 →
    bytesFrom incoming position nbdReplySize =
      toBytes 4 nbdReplyMagic.toNat ++ (error ++ hostBytes handle) →
    receiveReply fd recvs incoming recvCalls position buffer =
      .ok ⟨UInt32.ofNat (ofBytes error), handle⟩

theorem write_type (fua : Bool) :
    (nbdCmdWrite ||| if fua then nbdCmdFlagFua else 0).toNat / 2 ^ 16 = fua.toNat ∧
      (nbdCmdWrite ||| if fua then nbdCmdFlagFua else 0).toNat % 2 ^ 16 = nbdCmdWrite.toNat := by
  cases fua with
  | false => decide
  | true => decide

/-- As long as each `send` and `recv` moves something, the server reads back what the client
encodes. -/
theorem nbd_encoding_round_trips (fd : UInt64) (answers : Answers) (calls : Nat)
    (valid : fd ≠ invalidSocket) (moves : Moves answers) : RoundTrips fd answers calls where
  request := by
    intro offset length handle requestType bare
    obtain ⟨code, bytes⟩ := nbdRequest_sent valid moves offset length handle requestType calls
    have announced : ([] : List UInt8).length =
        if requestType.toNat % 2 ^ 16 = 1 then length.toNat else 0 := by
      split
      case isTrue write =>
        rw [bare.resolve_left (not_not.mpr write)]
        rfl
      case isFalse => rfl
    have decoded := decodeRequest_encode offset length handle requestType [] announced
    rw [List.append_nil] at decoded
    exact ⟨code, bytes ▸ decoded⟩
  write := by
    intro offset length data handle fua
    obtain ⟨flags, command⟩ := write_type fua
    have whole : length.toNat < 2 ^ 31 → _ :=
      nbdSendWrite_sent valid moves offset length data handle
        (if fua then nbdCmdFlagFua else 0) calls
    have succeeds : (nbdSendWrite fd answers offset length (some data) handle
        (if fua then nbdCmdFlagFua else 0) calls).code = 0 ↔ length.toNat < 2 ^ 31 := by
      constructor
      · intro code
        by_contra large
        exact nbdSendWrite_fails valid moves offset length data handle _ calls (not_lt.mp large)
          code
      · exact fun small => (whole small).1
    refine ⟨succeeds, fun code => ?_⟩
    have announced : (bytesFrom data 0 length.toNat).length =
        if (nbdCmdWrite ||| if fua then nbdCmdFlagFua else 0).toNat % 2 ^ 16 = 1 then length.toNat
        else 0 := by
      rw [bytesFrom_length, command]
      rfl
    have decoded := decodeRequest_encode offset length handle
      (nbdCmdWrite ||| if fua then nbdCmdFlagFua else 0) _ announced
    rw [flags, command] at decoded
    rw [(whole (succeeds.mp code)).2]
    exact decoded
  info := by
    intro options requests exportName few short
    obtain ⟨code, bytes⟩ :=
      nbdSendInfoRequest_sent valid moves options requests exportName calls few short
    have sized := infoData_length requests exportName
    refine ⟨code, infoData requests exportName, ?_,
      decodeInfo_data requests exportName few short⟩
    rw [bytes]
    exact decodeOption_frame options _ (by omega)
  exportName := by
    intro exportName gFlags recvs incoming recvCalls position short
    obtain ⟨code, bytes⟩ := nbdSendOptExportName_sent valid moves exportName gFlags recvs incoming
      calls recvCalls position short
    refine ⟨code, ?_⟩
    rw [bytes]
    exact decodeOption_frame nbdOptExportName exportName (by omega)
  echo := by
    intro recvs received handle error incoming recvCalls position buffer width arrives
    exact receiveReply_echo valid received handle error width incoming recvCalls position buffer
      arrives

/-- Every call moves all it is given; a negative length fails. -/
def allAtOnce : Answers := fun calls length =>
  if nonnegative : 0 ≤ length then ⟨length, 0, Or.inr ⟨nonnegative, Int.le_refl length⟩⟩
  else staleAnswers calls length

theorem allAtOnce_moves : Moves allAtOnce := by
  intro calls length positive
  rw [allAtOnce, dif_pos (le_of_lt positive)]
  exact positive

theorem nbd_encoding_round_trips_of_allAtOnce :
    (4 : UInt64) ≠ invalidSocket ∧ RoundTrips 4 allAtOnce 0 :=
  ⟨by decide, nbd_encoding_round_trips 4 allAtOnce 0 (by decide) allAtOnce_moves⟩

/-- A write that `NbdRequest` sends announces a byte that does not follow. -/
theorem nbdRequest_write_incomplete : ¬ ∃ decoded rest,
    Succeeds decodeRequest (nbdRequest 4 allAtOnce 0 1 0 nbdCmdWrite 0).bytes decoded rest := by
  rintro ⟨decoded, rest, succeeded⟩
  have valid : (4 : UInt64) ≠ invalidSocket := by decide
  rw [(nbdRequest_sent valid allAtOnce_moves 0 1 0 nbdCmdWrite 0).2] at succeeded
  have fails : decodeRequest (nbdEncodeRequest 0 1 0 nbdCmdWrite) = .error () := by
    decide +kernel
  cases fails.symm.trans succeeded

end Wnbd.Nbd.Transfer
