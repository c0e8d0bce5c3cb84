import VirtualAX25.DriverState
import VirtualAX25.Run

/-!
# What an adapter does

The members of `AX25Adapter` that touch memory or call out : its allocation functions,
`SetMiniportAttributes`, `Destroy`, and the requests the callbacks pass on. Each reads
`this` through its pointer and faults if no adapter lives there.
-/

namespace VirtualAX25

namespace AX25Adapter

variable (hdr : NdisHeaders) (d : Driver)

/-! ## Allocation -/

/-- `NdisAllocateMemoryWithTagPriority`, answered with `block`. -/
def ndisAllocateMemoryWithTagPriority (handle : NdisHandle) (length : ℕ) (tag : UInt32)
    (block : AdapterBlock) : Pointer × Driver :=
  (block.address,
    (d.storeAdapter block.address block.contents).record
      (.ndisAllocateMemoryWithTagPriority handle length tag block.address))

/-- `NdisFreeMemoryWithTagPriority` -/
def ndisFreeMemoryWithTagPriority (handle : NdisHandle) (address : Pointer) (tag : UInt32) :
    Driver :=
  { d.record (.ndisFreeMemoryWithTagPriority handle address tag) with
    adapters := d.adapters.erase address }

/-- `AX25Adapter::operator new` -/
def operatorNew (size : ℕ) (driverHandle : NdisHandle) (block : AdapterBlock) :
    Pointer × Driver :=
  if size ≠ hdr.sizeofAX25Adapter then (nullptr, d)
  else if driverHandle = nullptr then (nullptr, d)
  else ndisAllocateMemoryWithTagPriority d driverHandle size ax25AdapterTag block

/-- The expression `new(handle) AX25Adapter(driverHandle)`. The constructor runs only on
memory that was allocated. -/
def new (handle driverHandle : NdisHandle) (block : AdapterBlock) : Pointer × Driver :=
  let r := operatorNew hdr d hdr.sizeofAX25Adapter handle block
  if r.1 = nullptr then r
  else (r.1, (r.2.storeAdapter r.1 (construct hdr r.1 driverHandle block.contents)).record
    (.keInitializeDpc r.1))

/-- `AX25Adapter::operator delete`, which reads the handle from the bytes the destructor
left. -/
def operatorDelete (pointer : Pointer) : Except Fault Driver :=
  if pointer = nullptr then .ok d
  else (d.adapters.deref pointer).bind fun thisAdapter =>
    if thisAdapter.driverHandle = nullptr then .ok d
    else .ok (ndisFreeMemoryWithTagPriority d thisAdapter.driverHandle pointer ax25AdapterTag)

/-- `AX25Adapter::Destroy`. The call is virtual, so it reads `this`; the destructor is
trivial. -/
def destroy (this : Pointer) : Except Fault Driver :=
  (d.adapters.deref this).bind fun _ => operatorDelete d this

/-! ## Requests -/

/-- `AX25Adapter::SetMiniportAttributes` -/
def setMiniportAttributes (this : Pointer) (registration general : NdisStatus) :
    Except Fault (NdisStatus × Driver) :=
  (d.adapters.deref this).bind fun a =>
    if a.driverHandle = nullptr then .ok (statusInvalidAddress, d)
    else
      let d := d.record (.ndisMSetMiniportAttributes a.driverHandle
        (.registration a.registrationAttributes) registration)
      if registration ≠ ndisStatusSuccess then .ok (registration, d)
      else .ok (general, d.record (.ndisMSetMiniportAttributes a.driverHandle
        (.general a.generalAttributes) general))

/-- `AX25Adapter::Pause` -/
def pause (this : Pointer) : Except Fault (NdisStatus × Driver) :=
  (d.adapters.deref this).bind fun a =>
    .ok (ndisStatusSuccess, d.storeAdapter this { a with state := .paused })

/-- `AX25Adapter::Restart` -/
def restart (this : Pointer) : Except Fault (NdisStatus × Driver) :=
  (d.adapters.deref this).bind fun a =>
    .ok (ndisStatusSuccess, d.storeAdapter this { a with state := .running })

/-- `AX25Adapter::HandleOidRequest` -/
def handleOidRequest (this : Pointer) : Except Fault (NdisStatus × Driver) :=
  (d.adapters.deref this).bind fun a =>
    if a.state = .halted then .ok (ndisStatusNotAccepted, d)
    else .ok (statusNotImplemented, d)

/-- `AX25Adapter::SendNetBufferLists`. The body is a comment : the chain is neither
queued nor completed. -/
def sendNetBufferLists (this : Pointer) (_netBufferList : List Pointer) (_sendFlags : UInt32) :
    Except Fault Driver :=
  (d.adapters.deref this).bind fun _ => .ok d

/-- `AX25Adapter::ReturnNetBufferLists`. The body is a comment. The repository defines it
without its class name; it is taken as the member the class declares. -/
def returnNetBufferLists (this : Pointer) (_netBufferLists : List Pointer)
    (_returnFlags : UInt32) : Except Fault Driver :=
  (d.adapters.deref this).bind fun _ => .ok d

/-! ## What they compute -/

variable {hdr d} {handle driverHandle : NdisHandle} {block : AdapterBlock} {p : Pointer}
  {a : AX25Adapter}

/-- `new` refuses the null handle without calling the allocator. -/
theorem new_of_null_handle : new hdr d nullptr driverHandle block = (nullptr, d) := by
  simp [new, operatorNew]

/-- `new` returns null when the allocator does. -/
theorem new_of_null_block (hh : handle ≠ nullptr) (hb : block.address = nullptr) :
    new hdr d handle driverHandle block =
      (nullptr, d.record (.ndisAllocateMemoryWithTagPriority handle hdr.sizeofAX25Adapter
        ax25AdapterTag nullptr)) := by
  have hstore : d.storeAdapter nullptr block.contents = d := by
    simp [Driver.storeAdapter, Heap.store]
  simp [new, operatorNew, ndisAllocateMemoryWithTagPriority, hh, hb, hstore]

/-- The driver after an adapter was built in `block`. -/
def built (hdr : NdisHeaders) (d : Driver) (handle driverHandle : NdisHandle)
    (block : AdapterBlock) : Driver where
  activeContext := d.activeContext
  miniports := d.miniports
  adapters := d.adapters.store block.address
    (construct hdr block.address driverHandle block.contents)
  log := .keInitializeDpc block.address ::
    .ndisAllocateMemoryWithTagPriority handle hdr.sizeofAX25Adapter ax25AdapterTag
      block.address :: d.log

theorem new_of_block (hh : handle ≠ nullptr) (hb : block.address ≠ nullptr) :
    new hdr d handle driverHandle block =
      (block.address, built hdr d handle driverHandle block) := by
  simp [new, operatorNew, ndisAllocateMemoryWithTagPriority, hh, hb, built, Driver.record,
    Driver.storeAdapter]

/-- The status of `SetMiniportAttributes` on a live adapter. -/
def attributesStatus (registration general : NdisStatus) : NdisStatus :=
  if registration = ndisStatusSuccess then general else registration

theorem attributesStatus_eq_success_iff {registration general : NdisStatus} :
    attributesStatus registration general = ndisStatusSuccess ↔
      registration = ndisStatusSuccess ∧ general = ndisStatusSuccess := by
  unfold attributesStatus
  split_ifs with h <;> simp [h]

/-- The calls of `SetMiniportAttributes`, newest first. -/
def attributeCalls (a : AX25Adapter) (registration general : NdisStatus) : List Event :=
  if registration = ndisStatusSuccess then
    [.ndisMSetMiniportAttributes a.driverHandle (.general a.generalAttributes) general,
      .ndisMSetMiniportAttributes a.driverHandle (.registration a.registrationAttributes)
        registration]
  else
    [.ndisMSetMiniportAttributes a.driverHandle (.registration a.registrationAttributes)
      registration]

/-- `SetMiniportAttributes` only calls out. -/
theorem setMiniportAttributes_of_lookup (ha : d.adapters.lookup p = some a)
    (hh : a.driverHandle ≠ nullptr) (registration general : NdisStatus) :
    setMiniportAttributes d p registration general =
      .ok (attributesStatus registration general,
        { d with log := attributeCalls a registration general ++ d.log }) := by
  simp only [setMiniportAttributes, Heap.deref_of_lookup ha, Except.bind, if_neg hh,
    attributesStatus, attributeCalls]
  by_cases hr : registration = ndisStatusSuccess <;> simp [hr, Driver.record]

/-- `Destroy` frees the block with the handle it reads there. -/
theorem destroy_of_lookup (ha : d.adapters.lookup p = some a) (hh : a.driverHandle ≠ nullptr) :
    destroy d p = .ok (ndisFreeMemoryWithTagPriority d a.driverHandle p ax25AdapterTag) := by
  have hp := Heap.ne_null_of_lookup ha
  simp only [destroy, operatorDelete, Heap.deref_of_lookup ha, Except.bind, if_neg hp, if_neg hh]

theorem destroy_of_null_handle (ha : d.adapters.lookup p = some a)
    (hh : a.driverHandle = nullptr) : destroy d p = .ok d := by
  have hp := Heap.ne_null_of_lookup ha
  simp only [destroy, operatorDelete, Heap.deref_of_lookup ha, Except.bind, if_neg hp, if_pos hh]

/-- `Destroy` completes on live adapters only. It frees the block, unless the handle it
reads there is null. -/
theorem destroy_cases {d' : Driver} (h : destroy d p = .ok d') :
    ∃ a, d.adapters.lookup p = some a ∧
      ((a.driverHandle = nullptr ∧ d' = d) ∨
        (a.driverHandle ≠ nullptr ∧
          d' = ndisFreeMemoryWithTagPriority d a.driverHandle p ax25AdapterTag)) := by
  obtain ⟨a, ha, -⟩ := Runs.bind_eq_ok.mp h
  rw [Heap.deref_eq_ok_iff] at ha
  refine ⟨a, ha, ?_⟩
  by_cases hh : a.driverHandle = nullptr
  · rw [destroy_of_null_handle ha hh] at h
    exact Or.inl ⟨hh, (Except.ok.inj h).symm⟩
  · rw [destroy_of_lookup ha hh] at h
    exact Or.inr ⟨hh, (Except.ok.inj h).symm⟩

theorem destroy_eq_error_iff {e : Fault} :
    destroy d p = .error e ↔ d.adapters.deref p = .error e := by
  cases hd : d.adapters.deref p with
  | error f => simp [destroy, hd, Except.bind]
  | ok a =>
    have ha := Heap.deref_eq_ok_iff.mp hd
    by_cases hh : a.driverHandle = nullptr
    · simp [destroy_of_null_handle ha hh]
    · simp [destroy_of_lookup ha hh]

end AX25Adapter

end VirtualAX25
