import Wnbd.Foundation.CLayout

/-!
# The records of the IOCTL interface

The types of `wnbd_ioctl.h` as field lists, in the order of the header.  A
region such as `removeInstanceName` is the place of a field in the system
buffer.  Pointers have 8 bytes, an enumeration has 4.  The sizes are those the
header asserts (`wnbd_assert_sz_eq`).
-/

set_option autoImplicit false

namespace Wnbd.Ioctl

open CLayout CLayout.Region

def wnbdMaxNameLength : Nat := 256
def wnbdMaxOwnerLength : Nat := 16
def wnbdMaxOptNameLength : Nat := 64
def wnbdMaxVersionStrLength : Nat := 128
def wnbdNaaIdLength : Nat := 16

def byte : CType := scalar 1
def wchar : CType := scalar 2
def ushort : CType := scalar 2
def uint32 : CType := scalar 4
def uint64 : CType := scalar 8
def enum : CType := scalar 4

def pointer : CType := scalar 8

/-! ## Devices -/

def nbdConnectionProperties : CType :=
  record [array byte wnbdMaxNameLength, uint32, array byte wnbdMaxNameLength, uint32,
    array byte 32]

/-- `InstanceName`, `SerialNumber`, `Owner`, `Flags`, `BlockCount`, `BlockSize`,
`MaxUnmapDescCount`, `Pid`, `NbdProperties`, `NaaIdentifier`, `Reserved`. -/
def wnbdPropertiesFields : List CType :=
  [array byte wnbdMaxNameLength, array byte wnbdMaxNameLength, array byte wnbdMaxOwnerLength,
    uint32, uint64, uint32, uint32, uint32, nbdConnectionProperties, array byte wnbdNaaIdLength,
    array byte 240]

def wnbdProperties : CType := record wnbdPropertiesFields

/-- `Properties`, `ConnectionFlags`, `BusNumber`, `TargetId`, `Lun`,
`ConnectionId`, `DiskNumber`, `PNPDeviceID`, `Reserved`. -/
def wnbdConnectionInfoFields : List CType :=
  [wnbdProperties, uint32, ushort, ushort, ushort, uint64, uint32,
    array wchar wnbdMaxNameLength, array byte 124]

def wnbdConnectionInfo : CType := record wnbdConnectionInfoFields

def wnbdConnectionListFields : List CType := [uint32, uint32, array wnbdConnectionInfo 1]

def wnbdConnectionList : CType := record wnbdConnectionListFields

/-- Twelve counters and timestamps, and `Reserved`. -/
def wnbdDrvStats : CType := record [array uint64 12, array uint64 12]

def wnbdVersionFields : List CType :=
  [uint32, uint32, uint32, array byte wnbdMaxVersionStrLength, array byte 256]

def wnbdVersion : CType := record wnbdVersionFields

/-! ## Requests and responses -/

/-- `BlockAddress`, `BlockCount`, and the word of `ForceUnitAccess`. -/
def transferCmdFields : List CType := [uint64, uint32, uint32]

/-- `Count`, and the word of `Anchor`. -/
def unmapCmdFields : List CType := [uint32, uint32]

def persistResInCmdFields : List CType := [byte, ushort]

/-- `ServiceAction`, the byte of `Scope` and `Type`, `ParameterListLength`. -/
def persistResOutCmdFields : List CType := [byte, byte, ushort]

def requestCmd : CType :=
  union [record transferCmdFields, record unmapCmdFields, record persistResInCmdFields,
    record persistResOutCmdFields]

def wnbdIoRequestFields : List CType := [uint64, enum, requestCmd, array byte 32]

def wnbdIoRequest : CType := record wnbdIoRequestFields

/-- `ScsiStatus`, `SenseKey`, `ASC`, `ASCQ`, `Information`, `ReservedCSI`,
`ReservedSKS`, and the word of `ReservedFRU` and `InformationValid`. -/
def wnbdStatusFields : List CType := [byte, byte, byte, byte, uint64, uint64, uint32, uint32]

def wnbdIoResponseFields : List CType := [uint64, enum, record wnbdStatusFields, array byte 32]

/-! ## Options -/

def wnbdOptionValueFields : List CType :=
  [enum, union [byte, uint64, array wchar wnbdMaxNameLength], array byte 64]

def wnbdOptionValue : CType := record wnbdOptionValueFields

def wnbdOptionFields : List CType :=
  [array wchar wnbdMaxOptNameLength, enum, wnbdOptionValue, wnbdOptionValue, array byte 64]

def wnbdOption : CType := record wnbdOptionFields

def wnbdOptionListFields : List CType := [uint32, uint32, array wnbdOption 1]

def wnbdOptionList : CType := record wnbdOptionListFields

/-! ## Commands -/

def wnbdIoctlBaseCommand : CType := record [uint32]

def wnbdIoctlCreateCommandFields : List CType := [uint32, wnbdProperties, array byte 32]

def wnbdIoctlCreateCommand : CType := record wnbdIoctlCreateCommandFields

def wnbdIoctlRemoveCommandFields : List CType :=
  [uint32, array byte wnbdMaxNameLength, record [uint32, array byte 80], array byte 32]

def wnbdIoctlRemoveCommand : CType := record wnbdIoctlRemoveCommandFields

/-- `WNBD_IOCTL_STATS_COMMAND` and `WNBD_IOCTL_SHOW_COMMAND`: `IoControlCode`,
`InstanceName`, `Reserved`. -/
def wnbdIoctlNameCommandFields : List CType :=
  [uint32, array byte wnbdMaxNameLength, array byte 32]

def wnbdIoctlStatsCommand : CType := record wnbdIoctlNameCommandFields

def wnbdIoctlShowCommand : CType := record wnbdIoctlNameCommandFields

def wnbdIoctlFetchReqCommandFields : List CType :=
  [uint32, wnbdIoRequest, uint64, pointer, uint32, array byte 32]

def wnbdIoctlFetchReqCommand : CType := record wnbdIoctlFetchReqCommandFields

def wnbdIoctlSetSizeCommandFields : List CType := [uint32, uint64, uint64, array byte 32]

def wnbdIoctlSetSizeCommand : CType := record wnbdIoctlSetSizeCommandFields

def wnbdIoctlSendRspCommandFields : List CType :=
  [uint32, record wnbdIoResponseFields, uint64, pointer, uint32, array byte 32]

def wnbdIoctlSendRspCommand : CType := record wnbdIoctlSendRspCommandFields

/-- `WNBD_IOCTL_GET_DRV_OPT_COMMAND` and `WNBD_IOCTL_RESET_DRV_OPT_COMMAND`:
`IoControlCode`, `Name`, `Persistent`, `Reserved`. -/
def wnbdIoctlDrvOptCommandFields : List CType :=
  [uint32, array wchar wnbdMaxNameLength, byte, array byte 32]

def wnbdIoctlGetDrvOptCommand : CType := record wnbdIoctlDrvOptCommandFields

def wnbdIoctlResetDrvOptCommand : CType := record wnbdIoctlDrvOptCommandFields

def wnbdIoctlSetDrvOptCommandFields : List CType :=
  [uint32, array wchar wnbdMaxNameLength, wnbdOptionValue, byte, array byte 32]

def wnbdIoctlSetDrvOptCommand : CType := record wnbdIoctlSetDrvOptCommandFields

def wnbdIoctlListDrvOptCommandFields : List CType := [uint32, byte, array byte 32]

def wnbdIoctlListDrvOptCommand : CType := record wnbdIoctlListDrvOptCommandFields

/-- The `WNBD_ASSERT_SZ_EQ` lines of the header. -/
theorem wnbd_assert_sz_eq :
    [nbdConnectionProperties, wnbdProperties, wnbdConnectionInfo, wnbdConnectionList,
        wnbdDrvStats, wnbdIoRequest, record wnbdStatusFields, record wnbdIoResponseFields,
        wnbdOptionValue, wnbdOption, wnbdOptionList, wnbdIoctlBaseCommand, wnbdIoctlCreateCommand,
        wnbdIoctlRemoveCommand, wnbdIoctlStatsCommand, wnbdIoctlShowCommand,
        wnbdIoctlFetchReqCommand, wnbdIoctlSetSizeCommand, wnbdIoctlSendRspCommand,
        wnbdIoctlGetDrvOptCommand, wnbdIoctlSetDrvOptCommand, wnbdIoctlResetDrvOptCommand,
        wnbdIoctlListDrvOptCommand, wnbdVersion].map (·.size) =
      [552, 1368, 2032, 2040, 192, 64, 32, 80, 584, 1368, 1376, 4, 1408, 376, 292, 292, 128, 56,
        144, 552, 1144, 552, 40, 396] := by
  decide

end Wnbd.Ioctl
