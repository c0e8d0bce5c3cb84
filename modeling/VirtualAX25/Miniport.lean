import VirtualAX25.AdapterLife
import Mathlib.Data.Fin.Basic
import Mathlib.Data.List.FinRange
import Mathlib.Logic.Function.Basic

/-!
# The miniport

The members of `Miniport` and its callbacks. A member reads `this` through its pointer;
a callback checks the pointers it checks in the source and no others.
-/

namespace VirtualAX25

namespace Miniport

variable (hdr : NdisHeaders) (d : Driver)

/-- `Miniport::MINIPORT_TAG` -/
def miniportTag : UInt32 := ax25CreateTag 'a' 'x' 'M' 'P'

/-- `Miniport::findFirstMatchingAdapter` -/
def findFirstMatchingAdapter (m : Miniport) (criterion : Miniport.Adapter → Bool) :
    Option (Fin 16) :=
  Fin.find? fun i => criterion (m.adapters i)

/-! ## Construction and destruction -/

/-- The table after `RtlZeroMemory`. -/
def zeroTable : Fin 16 → Miniport.Adapter :=
  fun _ => { adapter := nullptr, adapterNumber := 0, inUse := false }

/-- `Miniport::Miniport` at the address `this`. The assertion on `activeContext` is not
part of a release build. -/
def construct (this : Pointer) : Driver :=
  { d with
    activeContext := this
    miniports := d.miniports.store this
      { miniportDriverHandle := nullptr, driverObject := nullptr, adapters := zeroTable }
    log := .constructed this :: d.log }

/-- `Miniport::operator new` -/
def operatorNew (size : ℕ) (answer : PoolAnswer) : Pointer × Driver :=
  if size ≠ hdr.sizeofMiniport then (nullptr, d)
  else
    let d := d.record (.exAllocatePoolWithTagPriority size miniportTag answer)
    match answer with
    | .returned memory => (memory, d)
    | .raised _ => (nullptr, d)

/-- The expression `new Miniport()`. -/
def new (answer : PoolAnswer) : Pointer × Driver :=
  let r := operatorNew hdr d hdr.sizeofMiniport answer
  if r.1 = nullptr then r else (r.1, construct r.2 r.1)

/-- The loop of `~Miniport` over the slots `is` of the table. It also writes `false` to
the `inUse` of each slot it leaves, in the object that is going away. -/
def destroyAdapters (adapters : Fin 16 → Miniport.Adapter) :
    Driver → List (Fin 16) → Except Fault Driver
  | d, [] => .ok d
  | d, i :: is =>
    if (adapters i).inUse then
      (AX25Adapter.destroy d (adapters i).adapter).bind fun d => destroyAdapters adapters d is
    else destroyAdapters adapters d is

/-- `Miniport::~Miniport`. The lifetime of the object ends when its destructor is called;
the loop works on the members it left. -/
def destructor (this : Pointer) : Except Fault Driver :=
  (d.miniports.deref this).bind fun m =>
    let d := { d with miniports := d.miniports.erase this, log := .destroyed this :: d.log }
    let d := if this ≠ d.activeContext then d else { d with activeContext := nullptr }
    destroyAdapters m.adapters d (List.finRange 16)

/-- `Miniport::operator delete` -/
def operatorDelete (pointer : Pointer) : Driver :=
  if pointer ≠ nullptr then d.record (.exFreePoolWithTag pointer miniportTag) else d

/-- The expression `delete pointer`. -/
def delete (pointer : Pointer) : Except Fault Driver :=
  if pointer = nullptr then .ok d
  else (destructor d pointer).bind fun d => .ok (operatorDelete d pointer)

/-! ## Registration -/

/-- The characteristics `RegisterWithNdis` zeroes and fills in. -/
def characteristics : DriverCharacteristics where
  header := hdr.header .miniportDriverCharacteristics
  majorNdisVersion := hdr.ndisMiniportMajorVersion
  minorNdisVersion := hdr.ndisMiniportMinorVersion
  majorDriverVersion := 0
  minorDriverVersion := 1
  flags := 0
  setOptionsHandler := none
  initializeHandlerEx := some .miniportInitializeExCallback
  haltHandlerEx := some .miniportHaltExCallback
  unloadHandler := some .miniportDriverUnloadCallback
  pauseHandler := some .miniportPauseCallback
  restartHandler := some .miniportRestartCallback
  oidRequestHandler := some .miniportOidRequestCallback
  sendNetBufferListsHandler := some .miniportSendNetBufferListsCallback
  returnNetBufferListsHandler := some .miniportReturnNetBufferListsCallback
  cancelSendHandler := some .miniportCancelSendCallback
  checkForHangHandlerEx := some .miniportCheckForHangExCallback
  resetHandlerEx := some .miniportResetExCallback
  devicePnPEventNotifyHandler := some .miniportDevicePnpEventNotifyCallback
  shutdownHandlerEx := some .miniportShutdownExCallback
  cancelOidRequestHandler := some .miniportCancelOidRequestCallback
  directOidRequestHandler := none
  cancelDirectOidRequestHandler := none

/-- `Miniport::RegisterWithNdis` -/
def registerWithNdis (this object registryPath : Pointer) (answers : RegisterAnswers) :
    Except Fault (NdisStatus × Driver) :=
  (d.miniports.deref this).bind fun m =>
    let d := d.record (.ndisMRegisterMiniportDriver object registryPath this
      (characteristics hdr) answers)
    let m :=
      if ntSuccess answers.status then
        { m with miniportDriverHandle := answers.handle, driverObject := object }
      else { m with miniportDriverHandle := nullptr, driverObject := nullptr }
    .ok (answers.status, d.storeMiniport this m)

/-! ## Initialisation -/

/-- Write a slot of the table. -/
def setSlot (m : Miniport) (i : Fin 16) (slot : Miniport.Adapter) : Miniport :=
  { m with adapters := Function.update m.adapters i slot }

/-- `Miniport::miniportInitializeEx`. The three fields of the slot are written at once :
nothing reads them before the last. -/
def miniportInitializeEx (this : Pointer) (initParameters : Option InitParameters)
    (answers : InitAnswers) : Except Fault (NdisStatus × Driver) :=
  (d.miniports.deref this).bind fun m =>
    match m.findFirstMatchingAdapter fun adapter => adapter.inUse == false with
    | none =>
      .ok (ndisStatusResources,
        d.record (.ndisWriteErrorLogEntry m.miniportDriverHandle .outOfResources [16]))
    | some i =>
      match initParameters with
      | none => .error .nullPointer
      | some parameters =>
        let r := AX25Adapter.new hdr d m.miniportDriverHandle m.miniportDriverHandle
          answers.block
        let d := r.2.storeMiniport this (m.setSlot i
          { adapter := r.1, adapterNumber := parameters.ifIndex, inUse := true })
        if r.1 = nullptr then
          .ok (ndisStatusResources,
            d.record (.ndisWriteErrorLogEntry m.miniportDriverHandle .outOfResources []))
        else AX25Adapter.setMiniportAttributes d r.1 answers.registration answers.general

/-- `Miniport::miniportInitializeExCallback` -/
def miniportInitializeExCallback (ndisMiniportHandle miniportDriverContext : NdisHandle)
    (miniportInitParameters : Option InitParameters) (answers : InitAnswers) :
    Except Fault (NdisStatus × Driver) :=
  if miniportDriverContext = nullptr then .ok (statusInvalidParameter2, d)
  else (d.miniports.deref miniportDriverContext).bind fun context =>
    if ndisMiniportHandle ≠ context.miniportDriverHandle then .ok (statusInvalidParameter1, d)
    else miniportInitializeEx hdr d miniportDriverContext miniportInitParameters answers

/-! ## The other callbacks -/

/-- `Miniport::miniportHaltExCallback` -/
def miniportHaltExCallback (miniportAdapterContext : NdisHandle) (_haltAction : UInt32) :
    Except Fault Driver :=
  AX25Adapter.destroy d miniportAdapterContext

/-- `Miniport::miniportDriverUnloadCallback` -/
def miniportDriverUnloadCallback (_driverObject : Pointer) : Except Fault Driver :=
  delete d d.activeContext

/-- `Miniport::miniportPauseCallback` -/
def miniportPauseCallback (miniportAdapterContext : NdisHandle) (_pauseParameters : Pointer) :
    Except Fault (NdisStatus × Driver) :=
  if miniportAdapterContext = nullptr then .ok (statusInvalidParameter, d)
  else AX25Adapter.pause d miniportAdapterContext

/-- `Miniport::miniportRestartCallback` -/
def miniportRestartCallback (miniportAdapterContext : NdisHandle)
    (miniportRestartParameters : Pointer) : Except Fault (NdisStatus × Driver) :=
  if miniportAdapterContext = nullptr then .ok (statusInvalidParameter1, d)
  else if miniportRestartParameters = nullptr then .ok (statusInvalidParameter2, d)
  else AX25Adapter.restart d miniportAdapterContext

/-- `Miniport::miniportOidRequestCallback` -/
def miniportOidRequestCallback (miniportAdapterContext : NdisHandle) (oidRequest : Pointer) :
    Except Fault (NdisStatus × Driver) :=
  if miniportAdapterContext = nullptr then .ok (statusInvalidParameter1, d)
  else if oidRequest = nullptr then .ok (statusInvalidParameter2, d)
  else AX25Adapter.handleOidRequest d miniportAdapterContext

/-- The completion flags of a send refused for its null context. -/
def completeFlags (sendFlags : UInt32) : UInt32 :=
  if sendFlags &&& ndisSendFlagsDispatchLevel ≠ 0 then ndisSendCompleteFlagsDispatchLevel else 0

/-- `Miniport::miniportSendNetBufferListsCallback` -/
def miniportSendNetBufferListsCallback (miniportAdapterContext : NdisHandle)
    (netBufferList : List Pointer) (_portNumber sendFlags : UInt32) : Except Fault Driver :=
  if miniportAdapterContext = nullptr then
    let d := d.record (.markNetBufferListWithFailure netBufferList ndisStatusFailure)
    (d.miniports.deref d.activeContext).bind fun m =>
      .ok (d.record (.ndisMSendNetBufferListsComplete m.miniportDriverHandle netBufferList
        (completeFlags sendFlags)))
  else if netBufferList = [] then .ok d
  else AX25Adapter.sendNetBufferLists d miniportAdapterContext netBufferList sendFlags

/-- `AX25_CRITICAL_ERROR_NDIS_LEAK_BUFFER_LISTS` -/
def ax25CriticalErrorNdisLeakBufferLists : UInt32 := 0x00001000

/-- `Miniport::miniportReturnNetBufferListsCallback` -/
def miniportReturnNetBufferListsCallback (miniportAdapterContext : NdisHandle)
    (netBufferLists : List Pointer) (returnFlags : UInt32) : Except Fault Driver :=
  if miniportAdapterContext = nullptr then
    (d.miniports.deref d.activeContext).bind fun m =>
      .ok (d.record (.ndisWriteErrorLogEntry m.miniportDriverHandle .driverFailure
        [ax25CriticalErrorNdisLeakBufferLists]))
  else if netBufferLists = [] then .ok d
  else AX25Adapter.returnNetBufferLists d miniportAdapterContext netBufferLists returnFlags

end Miniport

end VirtualAX25
