import Mathlib.Data.Nat.Notation

/-!
# What the driver takes from the Windows headers

Pointers and handles, status codes, and the two attribute structures a miniport hands to
NDIS. Constants whose values the repository does not contain are fields of `NdisHeaders`,
a parameter of everything built on it, as are the sizes and addresses the compiler fixes.
Enumerations that stand in memory are kept as the integers they are, so that a field
nobody wrote can hold any bit pattern.
-/

namespace VirtualAX25

/-- A `void*`. Address `0` is the null pointer. -/
abbrev Pointer := ℕ

/-- `nullptr` -/
abbrev nullptr : Pointer := 0

/-- `NDIS_HANDLE`, a `void*` for every kind of handle. -/
abbrev NdisHandle := Pointer

/-- `NDIS_STATUS` -/
abbrev NdisStatus := UInt32

/-- `NET_IFINDEX` -/
abbrev NetIfIndex := UInt32

/-! ## Status codes -/

def ndisStatusSuccess : NdisStatus := 0
def ndisStatusFailure : NdisStatus := 0xC0000001
def ndisStatusResources : NdisStatus := 0xC000009A
def ndisStatusNotAccepted : NdisStatus := 0x00010003
def statusNotImplemented : NdisStatus := 0xC0000002
def statusInvalidParameter : NdisStatus := 0xC000000D
def statusNoMemory : NdisStatus := 0xC0000017
def statusInvalidParameter1 : NdisStatus := 0xC00000EF
def statusInvalidParameter2 : NdisStatus := 0xC00000F0
def statusInvalidAddress : NdisStatus := 0xC0000141

/-- `NT_SUCCESS` : the status is nonnegative as a signed integer. -/
def ntSuccess (status : NdisStatus) : Bool :=
  status < 0x80000000

def ndisSendFlagsDispatchLevel : UInt32 := 1
def ndisSendCompleteFlagsDispatchLevel : UInt32 := 1

/-! ## Names whose values are not in the repository -/

/-- The OIDs the adapter lists. -/
inductive Oid
  | genHardwareStatus | genTransmitBufferSpace | genReceiveBufferSpace
  | genTransmitBlockSize | genReceiveBlockSize | genVendorId | genVendorDescription
  | genVendorDriverVersion | genCurrentPacketFilter | genCurrentLookahead
  | genDriverVersion | genMaximumTotalSize | genXmitOk | genRcvOk | genStatistics
  | genTransmitQueueLength | genLinkParameters | genInterruptModeration
  | genMediaSupported | genMediaInUse | genMaximumSendPackets | genXmitError
  | genRcvError | genRcvNoBuffer | permanentAddress8023 | currentAddress8023
  | multicastList8023 | maximumListSize8023 | rcvErrorAlignment8023
  | xmitOneCollision8023 | xmitMoreCollisions8023 | xmitDeferred8023
  | xmitMaxCollisions8023 | rcvOverrun8023 | xmitUnderrun8023
  | xmitHeartbeatFailure8023 | xmitTimesCrsLost8023 | xmitLateCollisions8023
  | pnpCapabilities | receiveFilterAllocateQueue
  | receiveFilterQueueAllocationComplete | receiveFilterFreeQueue
  | receiveFilterClearFilter | receiveFilterSetFilter

/-- The bit flags the attributes are built from. -/
inductive NdisFlag
  | miniportAttributesNdisWdm | miniportAttributesSurpriseRemoveOk
  | macOptionCopyLookaheadData | macOptionTransfersNotPend | macOptionNoLoopback
  | macOption8021pPriority | macOption8021qVlan
  | packetTypeDirected | packetTypeMulticast | packetTypeAllMulticast
  | packetTypeBroadcast | packetTypePromiscuous
  | statisticsDirectedFramesRcv | statisticsMulticastFramesRcv
  | statisticsBroadcastFramesRcv | statisticsBytesRcv | statisticsRcvDiscards
  | statisticsRcvError | statisticsDirectedFramesXmit | statisticsMulticastFramesXmit
  | statisticsBroadcastFramesXmit | statisticsBytesXmit | statisticsXmitError
  | statisticsXmitDiscards | statisticsDirectedBytesRcv | statisticsMulticastBytesRcv
  | statisticsBroadcastBytesRcv | statisticsDirectedBytesXmit
  | statisticsMulticastBytesXmit | statisticsBroadcastBytesXmit
  | linkStateXmitLinkSpeedAutoNegotiated | linkStateRcvLinkSpeedAutoNegotiated
  | linkStateDuplexAutoNegotiated

/-- The NDIS structures that start with an object header. -/
inductive NdisObject
  | miniportDriverCharacteristics
  | adapterRegistrationAttributes
  | adapterGeneralAttributes

/-- `NDIS_OBJECT_HEADER` -/
structure NdisObjectHeader where
  type : UInt8
  revision : UInt8
  size : UInt16

/-- The constants of the Windows headers and of the compiled image. -/
structure NdisHeaders where
  oid : Oid → UInt32
  flag : NdisFlag → UInt32
  /-- Type, revision and size of each structure, at the revision the driver uses. -/
  header : NdisObject → NdisObjectHeader
  ndisPauseFunctionsUnsupported : UInt32
  ndisMiniportMajorVersion : UInt8
  ndisMiniportMinorVersion : UInt8
  sizeofMiniport : ℕ
  sizeofAX25Adapter : ℕ
  /-- Offset of `supportedOids` in an `AX25Adapter`. -/
  offsetofSupportedOids : ℕ
  /-- Address of the static `powerManagementCapabilities`. -/
  powerManagementCapabilities : Pointer

/-- The constants for NDIS 6.20 on x64, with the static data at `0x140006000`. -/
def ndis620 : NdisHeaders where
  oid
    | .genHardwareStatus => 0x00010102
    | .genTransmitBufferSpace => 0x00010108
    | .genReceiveBufferSpace => 0x00010109
    | .genTransmitBlockSize => 0x0001010A
    | .genReceiveBlockSize => 0x0001010B
    | .genVendorId => 0x0001010C
    | .genVendorDescription => 0x0001010D
    | .genVendorDriverVersion => 0x00010116
    | .genCurrentPacketFilter => 0x0001010E
    | .genCurrentLookahead => 0x0001010F
    | .genDriverVersion => 0x00010110
    | .genMaximumTotalSize => 0x00010111
    | .genXmitOk => 0x00020101
    | .genRcvOk => 0x00020102
    | .genStatistics => 0x00020106
    | .genTransmitQueueLength => 0x0002020E
    | .genLinkParameters => 0x00010208
    | .genInterruptModeration => 0x00010209
    | .genMediaSupported => 0x00010103
    | .genMediaInUse => 0x00010104
    | .genMaximumSendPackets => 0x00010115
    | .genXmitError => 0x00020103
    | .genRcvError => 0x00020104
    | .genRcvNoBuffer => 0x00020105
    | .permanentAddress8023 => 0x01010101
    | .currentAddress8023 => 0x01010102
    | .multicastList8023 => 0x01010103
    | .maximumListSize8023 => 0x01010104
    | .rcvErrorAlignment8023 => 0x01020101
    | .xmitOneCollision8023 => 0x01020102
    | .xmitMoreCollisions8023 => 0x01020103
    | .xmitDeferred8023 => 0x01020201
    | .xmitMaxCollisions8023 => 0x01020202
    | .rcvOverrun8023 => 0x01020203
    | .xmitUnderrun8023 => 0x01020204
    | .xmitHeartbeatFailure8023 => 0x01020205
    | .xmitTimesCrsLost8023 => 0x01020206
    | .xmitLateCollisions8023 => 0x01020207
    | .pnpCapabilities => 0xFD010100
    | .receiveFilterAllocateQueue => 0x00010223
    | .receiveFilterQueueAllocationComplete => 0x0001022B
    | .receiveFilterFreeQueue => 0x00010224
    | .receiveFilterClearFilter => 0x00010228
    | .receiveFilterSetFilter => 0x00010227
  flag
    | .miniportAttributesNdisWdm => 0x00000002
    | .miniportAttributesSurpriseRemoveOk => 0x00000004
    | .macOptionCopyLookaheadData => 0x00000001
    | .macOptionTransfersNotPend => 0x00000004
    | .macOptionNoLoopback => 0x00000008
    | .macOption8021pPriority => 0x00000040
    | .macOption8021qVlan => 0x00000200
    | .packetTypeDirected => 0x00000001
    | .packetTypeMulticast => 0x00000002
    | .packetTypeAllMulticast => 0x00000004
    | .packetTypeBroadcast => 0x00000008
    | .packetTypePromiscuous => 0x00000020
    | .statisticsDirectedFramesRcv => 0x00000001
    | .statisticsMulticastFramesRcv => 0x00000002
    | .statisticsBroadcastFramesRcv => 0x00000004
    | .statisticsBytesRcv => 0x00000008
    | .statisticsRcvDiscards => 0x00000010
    | .statisticsRcvError => 0x00000020
    | .statisticsDirectedFramesXmit => 0x00000040
    | .statisticsMulticastFramesXmit => 0x00000080
    | .statisticsBroadcastFramesXmit => 0x00000100
    | .statisticsBytesXmit => 0x00000200
    | .statisticsXmitError => 0x00000400
    | .statisticsXmitDiscards => 0x00008000
    | .statisticsDirectedBytesRcv => 0x00010000
    | .statisticsMulticastBytesRcv => 0x00020000
    | .statisticsBroadcastBytesRcv => 0x00040000
    | .statisticsDirectedBytesXmit => 0x00080000
    | .statisticsMulticastBytesXmit => 0x00100000
    | .statisticsBroadcastBytesXmit => 0x00200000
    | .linkStateXmitLinkSpeedAutoNegotiated => 0x00000001
    | .linkStateRcvLinkSpeedAutoNegotiated => 0x00000002
    | .linkStateDuplexAutoNegotiated => 0x00000004
  header
    | .miniportDriverCharacteristics => { type := 0x8A, revision := 2, size := 152 }
    | .adapterRegistrationAttributes => { type := 0x9E, revision := 1, size := 28 }
    | .adapterGeneralAttributes => { type := 0x9F, revision := 2, size := 224 }
  ndisPauseFunctionsUnsupported := 0
  ndisMiniportMajorVersion := 6
  ndisMiniportMinorVersion := 20
  sizeofMiniport := 272
  sizeofAX25Adapter := 1872
  offsetofSupportedOids := 1176
  powerManagementCapabilities := 0x140006000

/-! ## Constants of the attributes that the test headers give -/

def ndisMedium8023 : UInt32 := 0
def ndisPhysicalMediumWirelessWan : UInt32 := 8
def mediaConnectStateDisconnected : UInt32 := 2
def mediaDuplexStateHalf : UInt32 := 1
def netIfAccessBroadcast : UInt32 := 2
def netIfDirectionSendReceive : UInt32 := 0
def netIfConnectionDedicated : UInt32 := 1
def ifTypeEthernetCsmacd : UInt32 := 6
def ndisInterfaceInternal : UInt32 := 0
def ndisMaxPhysAddressLength : ℕ := 32

/-! ## The attribute structures -/

/-- `NDIS_MINIPORT_ADAPTER_REGISTRATION_ATTRIBUTES` -/
structure RegistrationAttributes where
  header : NdisObjectHeader
  miniportAdapterContext : NdisHandle
  attributeFlags : UInt32
  checkForHangTimeInSeconds : UInt32
  interfaceType : UInt32

/-- `NDIS_MINIPORT_ADAPTER_GENERAL_ATTRIBUTES` -/
structure GeneralAttributes where
  header : NdisObjectHeader
  flags : UInt32
  mediaType : UInt32
  physicalMediumType : UInt32
  mtuSize : UInt32
  maxXmitLinkSpeed : UInt64
  xmitLinkSpeed : UInt64
  maxRcvLinkSpeed : UInt64
  rcvLinkSpeed : UInt64
  mediaConnectState : UInt32
  mediaDuplexState : UInt32
  lookaheadSize : UInt32
  powerManagementCapabilities : Pointer
  macOptions : UInt32
  supportedPacketFilters : UInt32
  maxMulticastListSize : UInt32
  macAddressLength : UInt16
  permanentMacAddress : Vector UInt8 ndisMaxPhysAddressLength
  currentMacAddress : Vector UInt8 ndisMaxPhysAddressLength
  recvScaleCapabilities : Pointer
  accessType : UInt32
  directionType : UInt32
  connectionType : UInt32
  ifType : UInt32
  ifConnectorPresent : UInt8
  supportedStatistics : UInt32
  supportedPauseFunctions : UInt32
  dataBackFillSize : UInt32
  contextBackFillSize : UInt32
  supportedOidList : Pointer
  supportedOidListLength : UInt32
  autoNegotiationFlags : UInt32
  powerManagementCapabilitiesEx : Pointer

/-- What `NdisMSetMiniportAttributes` is called with : one member of the union. -/
inductive AdapterAttributes
  | registration (attributes : RegistrationAttributes)
  | general (attributes : GeneralAttributes)

/-- `NDIS_MINIPORT_INIT_PARAMETERS`, the field the driver reads. -/
structure InitParameters where
  ifIndex : NetIfIndex

end VirtualAX25
