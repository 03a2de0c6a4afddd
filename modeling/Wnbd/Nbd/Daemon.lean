import Wnbd.Nbd.Request
import Wnbd.Dispatch.Element

/-!
# The NBD daemon's request handlers

`NbdDaemon::Read`, `Write`, `Flush` and `Unmap`: the entry each one adds to
`PendingRequests` and the bytes it hands to the socket.  `wnbdHandleRequest` is
the switch in libwnbd that calls them for a fetched request; requests without
an NBD handler are answered without the server.
-/

set_option autoImplicit false

namespace Wnbd.Nbd

open Wnbd.Scsi Wnbd.Dispatch

structure PendingRequestInfo where
  requestHandle : UInt64
  requestType : WnbdRequestType
  length : UInt32
deriving DecidableEq, Repr

structure SentRequest where
  info : PendingRequestInfo
  frame : List UInt8

def nbdDaemonRead (blockSize : UInt32) (requestHandle : UInt64) (blockAddress : UInt64)
    (blockCount : UInt32) : SentRequest :=
  { info := ⟨requestHandle, .read, blockCount * blockSize⟩
    frame := nbdRequest (blockAddress * blockSize.toUInt64) (blockCount * blockSize) requestHandle
      nbdCmdRead }

def nbdDaemonWrite (blockSize : UInt32) (requestHandle : UInt64) (buffer : Nat → UInt8)
    (blockAddress : UInt64) (blockCount : UInt32) (forceUnitAccess : Bool) : SentRequest :=
  { info := ⟨requestHandle, .write, blockCount * blockSize⟩
    frame := nbdSendWrite (blockAddress * blockSize.toUInt64) (blockCount * blockSize) buffer
      requestHandle (if forceUnitAccess then nbdCmdFlagFua else 0) }

def nbdDaemonFlush (blockSize : UInt32) (requestHandle : UInt64) (blockCount : UInt32) :
    SentRequest :=
  { info := ⟨requestHandle, .flush, blockCount * blockSize⟩
    frame := nbdRequest 0 0 requestHandle nbdCmdFlush }

def nbdDaemonUnmap (blockSize : UInt32) (requestHandle : UInt64) (blockAddress : UInt64)
    (blockCount : UInt32) : SentRequest :=
  { info := ⟨requestHandle, .unmap, blockCount * blockSize⟩
    frame := nbdRequest (blockAddress * blockSize.toUInt64) (blockCount * blockSize) requestHandle
      nbdCmdTrim }

/-- `WnbdHandleRequest` with the NBD daemon's interface.  `buffer` is the fetch
buffer; the unmap handler reads the descriptor the fetch left in it.  The anchor
bit is never set, and one descriptor is both the count sent and the maximum the
daemon registers, so those two checks pass. -/
def wnbdHandleRequest (props : WnbdProperties) (request : WnbdIoRequest) (payload : FetchPayload)
    (buffer : Nat → UInt8) : Option SentRequest :=
  match request.requestType, request.cmd, payload with
  | .read, .read blockAddress blockCount _, _ =>
      some (nbdDaemonRead props.blockSize request.requestHandle blockAddress blockCount)
  | .write, .write blockAddress blockCount forceUnitAccess, _ =>
      some (nbdDaemonWrite props.blockSize request.requestHandle buffer blockAddress blockCount
        forceUnitAccess)
  | .flush, .flush _ blockCount, _ =>
      if props.flags.flushSupported then
        some (nbdDaemonFlush props.blockSize request.requestHandle blockCount)
      else none
  | .unmap, .unmap _, .unmapDescriptor blockAddress blockCount =>
      if props.flags.unmapSupported then
        some (nbdDaemonUnmap props.blockSize request.requestHandle blockAddress blockCount)
      else none
  | _, _, _ => none

end Wnbd.Nbd
