import VirtualAX25.Ndis
import Mathlib.Data.Vector.Basic

/-!
# The adapter object

`AX25Adapter` with the fields the driver writes. Its constructor runs in a block of
memory that holds whatever was there before, so `construct` takes the old contents and
overwrites them statement by statement; a field without a statement keeps its old
value.

Left out : the two MTU buffers, which nothing reads or writes yet, and the contents of
the DPC object, which only the kernel touches.
-/

namespace VirtualAX25

/-! ## Memory -/

/-- `RtlZeroMemory` on an array of `n` bytes. -/
def rtlZeroMemory (n : ℕ) : Vector UInt8 n :=
  Vector.replicate n 0

/-- `memcpy` of the bytes `src` to the start of `dst`. -/
def memcpy {n : ℕ} (dst : Vector UInt8 n) (src : List UInt8) : Vector UInt8 n :=
  Vector.ofFn fun i => (src[i.val]?).getD dst[i]

/-- The bytes of a 64-bit integer in memory, least significant first. -/
def bytesOfUInt64 (x : UInt64) : List UInt8 :=
  (List.range 8).map fun i => (x >>> (8 * i).toUInt64).toUInt8

/-- `AX25_CREATE_TAG` of a string of four characters. -/
def ax25CreateTag (c₀ c₁ c₂ c₃ : Char) : UInt32 :=
  c₀.val ||| c₁.val <<< 8 ||| c₂.val <<< 16 ||| c₃.val <<< 24

namespace AX25Adapter

/-! ## Constants of the class -/

def ax25AdapterTag : UInt32 := ax25CreateTag 'a' 'x' 'A' 'X'
def defaultMtuSizeBytes : UInt32 := 512
def defaultXmitBitsPerSecond : UInt64 := 1200
def maxXmitBitsPerSecond : UInt64 := 9600
def defaultRcvBitsPerSecond : UInt64 := defaultXmitBitsPerSecond
def maxRcvBitsPerSecond : UInt64 := maxXmitBitsPerSecond
def maxMulticastGroups : ℕ := 16
def oidListLength : ℕ := 44

/-- `KG7UDH-0`, one character a byte. -/
def defaultMacAddress : UInt64 :=
  'K'.val.toUInt64 ||| 'G'.val.toUInt64 <<< 8 ||| '7'.val.toUInt64 <<< 16 |||
    'U'.val.toUInt64 <<< 24 ||| 'D'.val.toUInt64 <<< 32 ||| 'H'.val.toUInt64 <<< 40 |||
    (0 : UInt64) <<< 48

/-- The OIDs every adapter supports. -/
def oidList : List Oid :=
  [.genHardwareStatus, .genTransmitBufferSpace, .genReceiveBufferSpace,
    .genTransmitBlockSize, .genReceiveBlockSize, .genVendorId, .genVendorDescription,
    .genVendorDriverVersion, .genCurrentPacketFilter, .genCurrentLookahead,
    .genDriverVersion, .genMaximumTotalSize, .genXmitOk, .genRcvOk, .genStatistics,
    .genTransmitQueueLength, .genLinkParameters, .genInterruptModeration,
    .genMediaSupported, .genMediaInUse, .genMaximumSendPackets, .genXmitError,
    .genRcvError, .genRcvNoBuffer, .permanentAddress8023, .currentAddress8023,
    .multicastList8023, .maximumListSize8023, .rcvErrorAlignment8023,
    .xmitOneCollision8023, .xmitMoreCollisions8023, .xmitDeferred8023,
    .xmitMaxCollisions8023, .rcvOverrun8023, .xmitUnderrun8023,
    .xmitHeartbeatFailure8023, .xmitTimesCrsLost8023, .xmitLateCollisions8023,
    .pnpCapabilities, .receiveFilterAllocateQueue,
    .receiveFilterQueueAllocationComplete, .receiveFilterFreeQueue,
    .receiveFilterClearFilter, .receiveFilterSetFilter]

/-- The `static_assert` on `OID_LIST_LENGTH`. -/
theorem length_oidList : oidList.length = oidListLength :=
  rfl

/-- `AX25Adapter::State` -/
inductive State
  | halted
  | initializing
  | paused
  | restarting
  | running
  | pausing
  | shutdown
  deriving DecidableEq, Repr

end AX25Adapter

open AX25Adapter

/-- An `AX25Adapter` in memory. -/
structure AX25Adapter where
  state : State
  currentVlan : Int
  currentPacketFilterMode : UInt32
  joinedMulticastGroups : Vector UInt64 maxMulticastGroups
  supportedOids : Vector UInt32 oidListLength
  generalAttributes : GeneralAttributes
  registrationAttributes : RegistrationAttributes
  driverHandle : NdisHandle

namespace AX25Adapter

/-- A block of zero bytes. -/
def zeroBlock : AX25Adapter where
  state := .halted
  currentVlan := 0
  currentPacketFilterMode := 0
  joinedMulticastGroups := Vector.replicate _ 0
  supportedOids := Vector.replicate _ 0
  generalAttributes :=
    { header := { type := 0, revision := 0, size := 0 }
      flags := 0, mediaType := 0, physicalMediumType := 0, mtuSize := 0
      maxXmitLinkSpeed := 0, xmitLinkSpeed := 0, maxRcvLinkSpeed := 0, rcvLinkSpeed := 0
      mediaConnectState := 0, mediaDuplexState := 0, lookaheadSize := 0
      powerManagementCapabilities := 0, macOptions := 0, supportedPacketFilters := 0
      maxMulticastListSize := 0, macAddressLength := 0
      permanentMacAddress := rtlZeroMemory _, currentMacAddress := rtlZeroMemory _
      recvScaleCapabilities := 0, accessType := 0, directionType := 0, connectionType := 0
      ifType := 0, ifConnectorPresent := 0, supportedStatistics := 0
      supportedPauseFunctions := 0, dataBackFillSize := 0, contextBackFillSize := 0
      supportedOidList := 0, supportedOidListLength := 0, autoNegotiationFlags := 0
      powerManagementCapabilitiesEx := 0 }
  registrationAttributes :=
    { header := { type := 0, revision := 0, size := 0 }
      miniportAdapterContext := 0, attributeFlags := 0, checkForHangTimeInSeconds := 0
      interfaceType := 0 }
  driverHandle := 0

variable (hdr : NdisHeaders)

/-! ## The attribute initialisers -/

/-- `AX25Adapter::initializeRegistrationAttributes` -/
def initializeRegistrationAttributes (this : Pointer) (a : AX25Adapter) : AX25Adapter :=
  { a with
    registrationAttributes :=
      { a.registrationAttributes with
        header := hdr.header .adapterRegistrationAttributes
        miniportAdapterContext := this
        attributeFlags :=
          hdr.flag .miniportAttributesNdisWdm ||| hdr.flag .miniportAttributesSurpriseRemoveOk
        checkForHangTimeInSeconds := 0
        interfaceType := ndisInterfaceInternal } }

/-- `AX25Adapter::initializeGeneralAttributes`. There is no statement for `flags`,
`powerManagementCapabilities` and `macAddressLength`. -/
def initializeGeneralAttributes (this : Pointer) (a : AX25Adapter) : AX25Adapter :=
  { a with
    generalAttributes :=
      { a.generalAttributes with
        header := hdr.header .adapterGeneralAttributes
        mediaType := ndisMedium8023
        physicalMediumType := ndisPhysicalMediumWirelessWan
        mtuSize := defaultMtuSizeBytes
        maxXmitLinkSpeed := maxXmitBitsPerSecond
        xmitLinkSpeed := defaultXmitBitsPerSecond
        maxRcvLinkSpeed := maxRcvBitsPerSecond
        rcvLinkSpeed := defaultRcvBitsPerSecond
        -- the size of the inbound buffer, which has one byte for each of the MTU
        lookaheadSize := defaultMtuSizeBytes
        mediaConnectState := mediaConnectStateDisconnected
        mediaDuplexState := mediaDuplexStateHalf
        macOptions :=
          hdr.flag .macOptionCopyLookaheadData ||| hdr.flag .macOptionTransfersNotPend |||
            hdr.flag .macOptionNoLoopback ||| hdr.flag .macOption8021pPriority |||
            hdr.flag .macOption8021qVlan
        supportedPacketFilters :=
          hdr.flag .packetTypeDirected ||| hdr.flag .packetTypeMulticast |||
            hdr.flag .packetTypeAllMulticast ||| hdr.flag .packetTypeBroadcast |||
            hdr.flag .packetTypePromiscuous
        maxMulticastListSize := maxMulticastGroups.toUInt32
        currentMacAddress := memcpy (rtlZeroMemory _) (bytesOfUInt64 defaultMacAddress)
        permanentMacAddress := memcpy (rtlZeroMemory _) (bytesOfUInt64 defaultMacAddress)
        recvScaleCapabilities := nullptr
        accessType := netIfAccessBroadcast
        directionType := netIfDirectionSendReceive
        connectionType := netIfConnectionDedicated
        ifType := ifTypeEthernetCsmacd
        ifConnectorPresent := 1
        supportedStatistics :=
          hdr.flag .statisticsDirectedFramesRcv ||| hdr.flag .statisticsMulticastFramesRcv |||
            hdr.flag .statisticsBroadcastFramesRcv ||| hdr.flag .statisticsBytesRcv |||
            hdr.flag .statisticsRcvDiscards ||| hdr.flag .statisticsRcvError |||
            hdr.flag .statisticsDirectedFramesXmit |||
            hdr.flag .statisticsMulticastFramesXmit |||
            hdr.flag .statisticsBroadcastFramesXmit ||| hdr.flag .statisticsBytesXmit |||
            hdr.flag .statisticsXmitError ||| hdr.flag .statisticsXmitDiscards |||
            hdr.flag .statisticsDirectedBytesRcv ||| hdr.flag .statisticsMulticastBytesRcv |||
            hdr.flag .statisticsBroadcastBytesRcv ||| hdr.flag .statisticsDirectedBytesXmit |||
            hdr.flag .statisticsMulticastBytesXmit ||| hdr.flag .statisticsBroadcastBytesXmit
        supportedPauseFunctions := hdr.ndisPauseFunctionsUnsupported
        dataBackFillSize := 0
        contextBackFillSize := 0
        supportedOidList := this + hdr.offsetofSupportedOids
        supportedOidListLength := (4 * oidListLength).toUInt32
        autoNegotiationFlags :=
          hdr.flag .linkStateXmitLinkSpeedAutoNegotiated |||
            hdr.flag .linkStateRcvLinkSpeedAutoNegotiated |||
            hdr.flag .linkStateDuplexAutoNegotiated
        powerManagementCapabilitiesEx := hdr.powerManagementCapabilities } }

/-! ## The constructor -/

/-- `RtlCopyMemory` of the whole list of OIDs. -/
def supportedOidCodes : Vector UInt32 oidListLength :=
  ⟨(oidList.map hdr.oid).toArray, by simp [length_oidList]⟩

/-- `AX25Adapter::AX25Adapter` at the address `this`, over the old contents `memory` of
the block. -/
def construct (this : Pointer) (driverHandle : NdisHandle) (memory : AX25Adapter) :
    AX25Adapter :=
  let a : AX25Adapter :=
    { memory with
      state := .initializing
      currentVlan := 0
      currentPacketFilterMode := 0
      joinedMulticastGroups := Vector.replicate _ 0
      driverHandle := driverHandle }
  let a := initializeRegistrationAttributes hdr this a
  let a := initializeGeneralAttributes hdr this a
  let a := { a with supportedOids := supportedOidCodes hdr }
  { a with state := .paused }

end AX25Adapter

end VirtualAX25
