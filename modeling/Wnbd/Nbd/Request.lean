import Wnbd.Foundation.BigEndian

/-!
# NBD request frames

`NbdEncodeRequest` and the two senders, as the bytes they hand to the socket,
next to a decoder of the NBD request header.  The handle is stored in the
memory order of the host, the other fields big-endian.
-/

set_option autoImplicit false

namespace Wnbd.Nbd

open BigEndian

def nbdRequestMagic : UInt32 := 0x25609513

def nbdCmdRead : UInt32 := 0
def nbdCmdWrite : UInt32 := 1
def nbdCmdDisc : UInt32 := 2
def nbdCmdFlush : UInt32 := 3
def nbdCmdTrim : UInt32 := 4

/-- `NBD_CMD_FLAG_FUA`, in the upper half of the type field. -/
def nbdCmdFlagFua : UInt32 := 0x10000

/-- The header fields of a request as the server reads them. -/
structure NbdHeader where
  type : UInt32
  handle : UInt64
  offset : UInt64
  length : UInt32
deriving DecidableEq, Repr

/-- The 8 bytes of a 64 bit value in host memory. -/
def hostBytes (value : UInt64) : List UInt8 := (toBytes 8 value.toNat).reverse

def nbdEncodeRequest (offset : UInt64) (length : UInt32) (handle : UInt64)
    (requestType : UInt32) : List UInt8 :=
  toBytes 4 nbdRequestMagic.toNat ++ toBytes 4 requestType.toNat ++ hostBytes handle ++
    toBytes 8 offset.toNat ++ toBytes 4 length.toNat

/-- `NbdRequest`: a header and nothing else. -/
def nbdRequest (offset : UInt64) (length : UInt32) (handle : UInt64)
    (requestType : UInt32) : List UInt8 :=
  nbdEncodeRequest offset length handle requestType

/-- `NbdSendWrite`: the header, then `length` bytes of the data buffer. -/
def nbdSendWrite (offset : UInt64) (length : UInt32) (data : Nat → UInt8) (handle : UInt64)
    (nbdTransmissionFlags : UInt32) : List UInt8 :=
  nbdEncodeRequest offset length handle (nbdCmdWrite ||| nbdTransmissionFlags) ++
    (List.range length.toNat).map data

/-- The header at the front of a byte string, read by the NBD specification:
magic, type, opaque handle, offset, length. -/
def decodeHeader (bytes : List UInt8) : Option NbdHeader :=
  let (magic, afterMagic) := bytes.splitAt 4
  let (type, afterType) := afterMagic.splitAt 4
  let (handle, afterHandle) := afterType.splitAt 8
  let (offset, afterOffset) := afterHandle.splitAt 8
  let length := afterOffset.take 4
  if length.length = 4 ∧ ofBytes magic = nbdRequestMagic.toNat then
    some
      { type := UInt32.ofNat (ofBytes type)
        handle := UInt64.ofNat (ofBytes handle.reverse)
        offset := UInt64.ofNat (ofBytes offset)
        length := UInt32.ofNat (ofBytes length) }
  else none

@[simp] theorem hostBytes_length (value : UInt64) : (hostBytes value).length = 8 := by
  simp [hostBytes]

@[simp] theorem nbdEncodeRequest_length (offset : UInt64) (length : UInt32) (handle : UInt64)
    (requestType : UInt32) : (nbdEncodeRequest offset length handle requestType).length = 28 := by
  simp [nbdEncodeRequest]

theorem ofBytes_word32 (value : UInt32) :
    UInt32.ofNat (ofBytes (toBytes 4 value.toNat)) = value := by
  rw [ofBytes_toBytes_of_lt 4 value.toNat value.toNat_lt, UInt32.ofNat_toNat]

theorem ofBytes_word64 (value : UInt64) :
    UInt64.ofNat (ofBytes (toBytes 8 value.toNat)) = value := by
  rw [ofBytes_toBytes_of_lt 8 value.toNat value.toNat_lt, UInt64.ofNat_toNat]

theorem splitAt_field (width : Nat) (field rest : List UInt8) (exact : field.length = width) :
    (field ++ rest).splitAt width = (field, rest) := by
  rw [List.splitAt_eq, List.take_left' exact, List.drop_left' exact]

theorem decodeHeader_encode (offset : UInt64) (length : UInt32) (handle : UInt64)
    (requestType : UInt32) (rest : List UInt8) :
    decodeHeader (nbdEncodeRequest offset length handle requestType ++ rest) =
      some { type := requestType, handle, offset, length } := by
  have magic : ofBytes (toBytes 4 nbdRequestMagic.toNat) = nbdRequestMagic.toNat :=
    ofBytes_toBytes_of_lt 4 _ nbdRequestMagic.toNat_lt
  have lengthField : (toBytes 4 length.toNat ++ rest).take 4 = toBytes 4 length.toNat :=
    List.take_left' (by simp)
  simp only [decodeHeader, nbdEncodeRequest, List.append_assoc]
  rw [splitAt_field 4 _ _ (by simp)]
  simp only
  rw [splitAt_field 4 _ _ (by simp)]
  simp only
  rw [splitAt_field 8 _ _ (by simp)]
  simp only
  rw [splitAt_field 8 _ _ (by simp)]
  simp only [lengthField, toBytes_length, magic, and_self, if_true, hostBytes,
    List.reverse_reverse, ofBytes_word32, ofBytes_word64]

end Wnbd.Nbd
