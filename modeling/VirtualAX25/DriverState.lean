import VirtualAX25.AX25Adapter
import VirtualAX25.Heap

/-!
# The state of the driver

The driver's state is the static `Miniport::activeContext`, the live `Miniport` objects,
the live adapter blocks, and a log of what crossed the driver's boundary : its calls to
the kernel, to NDIS and to the tracing library with their answers, the births and deaths
of `Miniport` objects, and the entry points that returned. The log is newest first. Trace
messages are left out.

The outside answers calls as it likes; the answers of one entry are its arguments here
(`InitAnswers`, `EntryAnswers`, `RegisterAnswers`). `Op` lists the entries.
-/

namespace VirtualAX25

/-! ## The `Miniport` object -/

/-- `Miniport::Adapter`, a slot of the table. -/
structure Miniport.Adapter where
  adapter : Pointer
  adapterNumber : NetIfIndex
  inUse : Bool

/-- `Miniport` -/
structure Miniport where
  miniportDriverHandle : NdisHandle
  driverObject : Pointer
  adapters : Fin 16 → Miniport.Adapter

/-! ## Answers from outside -/

/-- What `NdisAllocateMemoryWithTagPriority` returns : an address, and the bytes that
stand there. -/
structure AdapterBlock where
  address : Pointer
  contents : AX25Adapter

/-- The answers to the calls of one adapter initialisation. -/
structure InitAnswers where
  block : AdapterBlock
  /-- Status of the call with the registration attributes. -/
  registration : NdisStatus
  /-- Status of the call with the general attributes. -/
  general : NdisStatus

/-- `ExAllocatePoolWithTagPriority` returns, or raises as it is asked to. -/
inductive PoolAnswer
  | returned (address : Pointer)
  | raised (status : NdisStatus)

/-- The address the caller gets, null if the call raised. -/
def PoolAnswer.address : PoolAnswer → Pointer
  | .returned address => address
  | .raised _ => nullptr

/-- What `NdisMRegisterMiniportDriver` returns, and stores through its last argument. -/
structure RegisterAnswers where
  status : NdisStatus
  handle : NdisHandle

/-- The answers to the calls of `DriverEntry`. -/
structure EntryAnswers where
  pool : PoolAnswer
  register : RegisterAnswers

/-! ## Entries -/

/-- The callbacks the driver implements, with their arguments. A chain of
`NET_BUFFER_LIST`s is the list of its elements in order, and empty for `nullptr`. -/
inductive Callback
  | initializeEx (ndisMiniportHandle miniportDriverContext : NdisHandle)
      (miniportInitParameters : Option InitParameters) (answers : InitAnswers)
  | haltEx (miniportAdapterContext : NdisHandle) (haltAction : UInt32)
  | driverUnload (driverObject : Pointer)
  | pause (miniportAdapterContext : NdisHandle) (pauseParameters : Pointer)
  | restart (miniportAdapterContext : NdisHandle) (miniportRestartParameters : Pointer)
  | oidRequest (miniportAdapterContext : NdisHandle) (oidRequest : Pointer)
  | sendNetBufferLists (miniportAdapterContext : NdisHandle) (netBufferList : List Pointer)
      (portNumber sendFlags : UInt32)
  | returnNetBufferLists (miniportAdapterContext : NdisHandle) (netBufferLists : List Pointer)
      (returnFlags : UInt32)

/-- The ways into the driver's code : the driver entry point, the callbacks, and the
members of `Miniport` that run on their own in some of the results. -/
inductive Op
  | driverEntry (driverObject registryPath : Pointer) (answers : EntryAnswers)
  | constructMiniport (this : Pointer)
  | destroyMiniport (this : Pointer)
  | registerWithNdis (this driverObject registryPath : Pointer) (answers : RegisterAnswers)
  | miniportInitializeEx (this : Pointer) (initParameters : Option InitParameters)
      (answers : InitAnswers)
  | callback (c : Callback)

/-! ## The log -/

/-- The callback functions `RegisterWithNdis` hands out. -/
inductive Handler
  | miniportInitializeExCallback
  | miniportHaltExCallback
  | miniportDriverUnloadCallback
  | miniportPauseCallback
  | miniportRestartCallback
  | miniportOidRequestCallback
  | miniportSendNetBufferListsCallback
  | miniportReturnNetBufferListsCallback
  | miniportCancelSendCallback
  | miniportCheckForHangExCallback
  | miniportResetExCallback
  | miniportDevicePnpEventNotifyCallback
  | miniportShutdownExCallback
  | miniportCancelOidRequestCallback

/-- `NDIS_MINIPORT_DRIVER_CHARACTERISTICS` -/
structure DriverCharacteristics where
  header : NdisObjectHeader
  majorNdisVersion : UInt8
  minorNdisVersion : UInt8
  majorDriverVersion : UInt8
  minorDriverVersion : UInt8
  flags : UInt32
  setOptionsHandler : Option Handler
  initializeHandlerEx : Option Handler
  haltHandlerEx : Option Handler
  unloadHandler : Option Handler
  pauseHandler : Option Handler
  restartHandler : Option Handler
  oidRequestHandler : Option Handler
  sendNetBufferListsHandler : Option Handler
  returnNetBufferListsHandler : Option Handler
  cancelSendHandler : Option Handler
  checkForHangHandlerEx : Option Handler
  resetHandlerEx : Option Handler
  devicePnPEventNotifyHandler : Option Handler
  shutdownHandlerEx : Option Handler
  cancelOidRequestHandler : Option Handler
  directOidRequestHandler : Option Handler
  cancelDirectOidRequestHandler : Option Handler

/-- Codes of `NdisWriteErrorLogEntry`. -/
inductive NdisErrorCode
  | outOfResources
  | driverFailure

/-- What crosses the boundary of the driver. -/
inductive Event
  | wppInitTracing (driverObject registryPath : Pointer)
  | wppCleanup (driverObject : Pointer)
  | exAllocatePoolWithTagPriority (size : ℕ) (tag : UInt32) (answer : PoolAnswer)
  | exFreePoolWithTag (pointer : Pointer) (tag : UInt32)
  | ndisMRegisterMiniportDriver (driverObject registryPath miniportDriverContext : Pointer)
      (characteristics : DriverCharacteristics) (answers : RegisterAnswers)
  /-- The driver has no statement that makes this call. -/
  | ndisMDeregisterMiniportDriver (handle : NdisHandle)
  | ndisAllocateMemoryWithTagPriority (handle : NdisHandle) (length : ℕ) (tag : UInt32)
      (address : Pointer)
  | ndisFreeMemoryWithTagPriority (handle : NdisHandle) (address : Pointer) (tag : UInt32)
  | ndisMSetMiniportAttributes (handle : NdisHandle) (attributes : AdapterAttributes)
      (status : NdisStatus)
  | keInitializeDpc (deferredContext : Pointer)
  | ndisWriteErrorLogEntry (handle : NdisHandle) (code : NdisErrorCode) (values : List UInt32)
  | markNetBufferListWithFailure (netBufferLists : List Pointer) (status : NdisStatus)
  | ndisMSendNetBufferListsComplete (handle : NdisHandle) (netBufferLists : List Pointer)
      (flags : UInt32)
  /-- The constructor of `Miniport` ran at `this`. -/
  | constructed (this : Pointer)
  /-- The destructor of `Miniport` was called at `this`. -/
  | destroyed (this : Pointer)
  /-- An entry returned, with its status unless it is `void`. -/
  | returned (op : Op) (status : Option NdisStatus)

/-! ## The driver -/

/-- The driver's memory, and its log. -/
structure Driver where
  activeContext : Pointer
  miniports : Heap Miniport
  adapters : Heap AX25Adapter
  log : List Event

namespace Driver

/-- The driver as it is loaded. -/
def initial : Driver where
  activeContext := nullptr
  miniports := Heap.empty
  adapters := Heap.empty
  log := []

variable (d : Driver)

/-- Add an event to the log. -/
def record (e : Event) : Driver :=
  { d with log := e :: d.log }

/-- Write the adapter at `p`. -/
def storeAdapter (p : Pointer) (a : AX25Adapter) : Driver :=
  { d with adapters := d.adapters.store p a }

/-- Write the miniport at `p`. -/
def storeMiniport (p : Pointer) (m : Miniport) : Driver :=
  { d with miniports := d.miniports.store p m }

variable (e : Event) (p : Pointer) (a : AX25Adapter)

@[simp] theorem record_activeContext : (d.record e).activeContext = d.activeContext :=
  rfl

@[simp] theorem record_miniports : (d.record e).miniports = d.miniports :=
  rfl

@[simp] theorem record_adapters : (d.record e).adapters = d.adapters :=
  rfl

@[simp] theorem record_log : (d.record e).log = e :: d.log :=
  rfl

@[simp] theorem storeAdapter_adapters :
    (d.storeAdapter p a).adapters = d.adapters.store p a :=
  rfl

@[simp] theorem storeAdapter_log : (d.storeAdapter p a).log = d.log :=
  rfl

end Driver

end VirtualAX25
