import VirtualAX25.Entry

/-!
# What an entry can do

One description for each member with branches. `miniportInitializeEx` on a live `Miniport`
either finds the table full, or claims the first free slot and then builds an adapter or
is refused one (`miniportInitializeEx_cases`). The destructor takes its object out of the
live ones and destroys the adapters of the slots in use, in order
(`destructor_of_lookup`); what each `Destroy` preserves, its loop preserves
(`destroyAdapters_invariant`). Later modules use these and do not unfold the members
again.
-/

namespace VirtualAX25

namespace Miniport

variable {hdr : NdisHeaders} {d d' : Driver} {m : Miniport} {i : Fin 16} {this : Pointer}
  {parameters : InitParameters} {answers : InitAnswers}

/-! ## The table -/

/-- Every slot is in use. -/
def Full (m : Miniport) : Prop :=
  ∀ i, (m.adapters i).inUse = true

/-- `i` is the first slot not in use. -/
def FirstFree (m : Miniport) (i : Fin 16) : Prop :=
  (m.adapters i).inUse = false ∧ ∀ j < i, (m.adapters j).inUse = true

theorem find_eq_none_iff :
    m.findFirstMatchingAdapter (fun adapter => adapter.inUse == false) = none ↔ m.Full := by
  simp [findFirstMatchingAdapter, Full]

theorem find_eq_some_iff :
    m.findFirstMatchingAdapter (fun adapter => adapter.inUse == false) = some i ↔
      m.FirstFree i := by
  simp only [findFirstMatchingAdapter, FirstFree, Fin.find?_eq_some_iff]
  simp

theorem full_or_firstFree (m : Miniport) : m.Full ∨ ∃ i, m.FirstFree i := by
  cases h : m.findFirstMatchingAdapter fun adapter => adapter.inUse == false with
  | none => exact Or.inl (find_eq_none_iff.mp h)
  | some i => exact Or.inr ⟨i, find_eq_some_iff.mp h⟩

theorem FirstFree.not_full (hi : m.FirstFree i) : ¬m.Full := by
  intro hf
  have h := hf i
  rw [hi.1] at h
  cases h

theorem FirstFree.unique {j : Fin 16} (hi : m.FirstFree i) (hj : m.FirstFree j) : i = j :=
  Option.some.inj ((find_eq_some_iff.mpr hi).symm.trans (find_eq_some_iff.mpr hj))

section SetSlot

variable (m : Miniport) (i : Fin 16) (slot : Miniport.Adapter)

@[simp] theorem setSlot_self : (m.setSlot i slot).adapters i = slot := by
  simp [setSlot]

theorem setSlot_of_ne {j : Fin 16} (hj : j ≠ i) :
    (m.setSlot i slot).adapters j = m.adapters j := by
  simp [setSlot, hj]

@[simp] theorem setSlot_miniportDriverHandle :
    (m.setSlot i slot).miniportDriverHandle = m.miniportDriverHandle :=
  rfl

@[simp] theorem setSlot_driverObject : (m.setSlot i slot).driverObject = m.driverObject :=
  rfl

end SetSlot

/-! ## `miniportInitializeEx` -/

/-- The slot a successful or a refused initialisation leaves, holding `adapter`. -/
def claimed (adapter : Pointer) (parameters : InitParameters) : Miniport.Adapter :=
  { adapter := adapter, adapterNumber := parameters.ifIndex, inUse := true }

/-- The driver after a refusal for want of slots. -/
def withoutSlot (d : Driver) (m : Miniport) : Driver :=
  d.record (.ndisWriteErrorLogEntry m.miniportDriverHandle .outOfResources [16])

/-- The calls of an `operator new` that returned null. -/
def refusedCalls (hdr : NdisHeaders) (m : Miniport) : List Event :=
  if m.miniportDriverHandle = nullptr then []
  else [.ndisAllocateMemoryWithTagPriority m.miniportDriverHandle hdr.sizeofAX25Adapter
    AX25Adapter.ax25AdapterTag nullptr]

/-- The driver after `operator new` returned null. -/
def withoutAdapter (hdr : NdisHeaders) (d : Driver) (this : Pointer) (m : Miniport) (i : Fin 16)
    (parameters : InitParameters) : Driver where
  activeContext := d.activeContext
  miniports := d.miniports.store this (m.setSlot i (claimed nullptr parameters))
  adapters := d.adapters
  log := .ndisWriteErrorLogEntry m.miniportDriverHandle .outOfResources [] ::
    (refusedCalls hdr m ++ d.log)

/-- The adapter an initialisation builds. -/
def newAdapter (hdr : NdisHeaders) (m : Miniport) (answers : InitAnswers) : AX25Adapter :=
  AX25Adapter.construct hdr answers.block.address m.miniportDriverHandle answers.block.contents

/-- The driver after an adapter was built and its attributes were handed over. -/
def withAdapter (hdr : NdisHeaders) (d : Driver) (this : Pointer) (m : Miniport) (i : Fin 16)
    (parameters : InitParameters) (answers : InitAnswers) : Driver where
  activeContext := d.activeContext
  miniports := d.miniports.store this (m.setSlot i (claimed answers.block.address parameters))
  adapters := d.adapters.store answers.block.address (newAdapter hdr m answers)
  log := AX25Adapter.attributeCalls (newAdapter hdr m answers) answers.registration
      answers.general ++
    .keInitializeDpc answers.block.address ::
    .ndisAllocateMemoryWithTagPriority m.miniportDriverHandle hdr.sizeofAX25Adapter
      AX25Adapter.ax25AdapterTag answers.block.address :: d.log

/-- `AX25Adapter::operator new` gets no block : the handle is null, or the allocator
returns null. -/
def Refused (m : Miniport) (answers : InitAnswers) : Prop :=
  m.miniportDriverHandle = nullptr ∨ answers.block.address = nullptr

instance : Decidable m.Full :=
  inferInstanceAs (Decidable (∀ i, (m.adapters i).inUse = true))

instance : Decidable (m.Refused answers) :=
  inferInstanceAs (Decidable (_ ∨ _))

theorem miniportInitializeEx_full (hm : d.miniports.lookup this = some m) (hf : m.Full)
    (parameters : Option InitParameters) :
    miniportInitializeEx hdr d this parameters answers =
      .ok (ndisStatusResources, withoutSlot d m) := by
  simp only [miniportInitializeEx, Heap.deref_of_lookup hm, Except.bind, find_eq_none_iff.mpr hf,
    withoutSlot]

theorem miniportInitializeEx_none (hm : d.miniports.lookup this = some m) (hi : m.FirstFree i) :
    miniportInitializeEx hdr d this none answers = .error .nullPointer := by
  simp only [miniportInitializeEx, Heap.deref_of_lookup hm, Except.bind, find_eq_some_iff.mpr hi]

theorem miniportInitializeEx_refused (hm : d.miniports.lookup this = some m)
    (hi : m.FirstFree i) (hr : m.Refused answers) :
    miniportInitializeEx hdr d this (some parameters) answers =
      .ok (ndisStatusResources, withoutAdapter hdr d this m i parameters) := by
  simp only [miniportInitializeEx, Heap.deref_of_lookup hm, Except.bind, find_eq_some_iff.mpr hi]
  by_cases hh : m.miniportDriverHandle = nullptr
  · rw [hh, AX25Adapter.new_of_null_handle]
    simp [withoutAdapter, refusedCalls, hh, Driver.record, Driver.storeMiniport, claimed]
  · rw [AX25Adapter.new_of_null_block hh (hr.resolve_left hh)]
    simp [withoutAdapter, refusedCalls, hh, Driver.record, Driver.storeMiniport, claimed]

theorem miniportInitializeEx_built (hm : d.miniports.lookup this = some m)
    (hi : m.FirstFree i) (hr : ¬m.Refused answers) :
    miniportInitializeEx hdr d this (some parameters) answers =
      .ok (AX25Adapter.attributesStatus answers.registration answers.general,
        withAdapter hdr d this m i parameters answers) := by
  obtain ⟨hh, hb⟩ := not_or.mp hr
  simp only [miniportInitializeEx, Heap.deref_of_lookup hm, Except.bind, find_eq_some_iff.mpr hi,
    AX25Adapter.new_of_block hh hb, if_neg hb]
  have hlookup : ((AX25Adapter.built hdr d m.miniportDriverHandle m.miniportDriverHandle
      answers.block).storeMiniport this (m.setSlot i (claimed answers.block.address
        parameters))).adapters.lookup answers.block.address =
      some (newAdapter hdr m answers) :=
    Heap.lookup_store_self _ hb
  exact AX25Adapter.setMiniportAttributes_of_lookup hlookup hh _ _

/-- What `miniportInitializeEx` does on the `Miniport` `m` when it does not fault. -/
theorem miniportInitializeEx_of_lookup {initParameters : Option InitParameters}
    {status : NdisStatus} (hm : d.miniports.lookup this = some m)
    (h : miniportInitializeEx hdr d this initParameters answers = .ok (status, d')) :
    (m.Full ∧ status = ndisStatusResources ∧ d' = withoutSlot d m) ∨
      ∃ i parameters, m.FirstFree i ∧ initParameters = some parameters ∧
        ((m.Refused answers ∧ status = ndisStatusResources ∧
          d' = withoutAdapter hdr d this m i parameters) ∨
        (¬m.Refused answers ∧
          status = AX25Adapter.attributesStatus answers.registration answers.general ∧
          d' = withAdapter hdr d this m i parameters answers)) := by
  rcases m.full_or_firstFree with hf | ⟨i, hi⟩
  · rw [miniportInitializeEx_full hm hf] at h
    obtain ⟨rfl, rfl⟩ := Prod.mk.inj (Except.ok.inj h)
    exact Or.inl ⟨hf, rfl, rfl⟩
  · cases initParameters with
    | none =>
      rw [miniportInitializeEx_none hm hi] at h
      cases h
    | some parameters =>
      refine Or.inr ⟨i, parameters, hi, rfl, ?_⟩
      by_cases hr : m.Refused answers
      · rw [miniportInitializeEx_refused hm hi hr] at h
        obtain ⟨rfl, rfl⟩ := Prod.mk.inj (Except.ok.inj h)
        exact Or.inl ⟨hr, rfl, rfl⟩
      · rw [miniportInitializeEx_built hm hi hr] at h
        obtain ⟨rfl, rfl⟩ := Prod.mk.inj (Except.ok.inj h)
        exact Or.inr ⟨hr, rfl, rfl⟩

/-- What `miniportInitializeEx` does when it does not fault. -/
theorem miniportInitializeEx_cases {initParameters : Option InitParameters} {status : NdisStatus}
    (h : miniportInitializeEx hdr d this initParameters answers = .ok (status, d')) :
    ∃ m, d.miniports.lookup this = some m ∧
      ((m.Full ∧ status = ndisStatusResources ∧ d' = withoutSlot d m) ∨
      ∃ i parameters, m.FirstFree i ∧ initParameters = some parameters ∧
        ((m.Refused answers ∧ status = ndisStatusResources ∧
          d' = withoutAdapter hdr d this m i parameters) ∨
        (¬m.Refused answers ∧
          status = AX25Adapter.attributesStatus answers.registration answers.general ∧
          d' = withAdapter hdr d this m i parameters answers))) := by
  obtain ⟨m, hm, -⟩ := Runs.bind_eq_ok.mp h
  rw [Heap.deref_eq_ok_iff] at hm
  exact ⟨m, hm, miniportInitializeEx_of_lookup hm h⟩

/-- With valid parameters it does not fault on a live `Miniport`. -/
theorem miniportInitializeEx_completes (hdr : NdisHeaders)
    (hm : d.miniports.lookup this = some m) (parameters : InitParameters)
    (answers : InitAnswers) :
    ∃ status d', miniportInitializeEx hdr d this (some parameters) answers =
      .ok (status, d') := by
  rcases m.full_or_firstFree with hf | ⟨i, hi⟩
  · exact ⟨_, _, miniportInitializeEx_full hm hf _⟩
  · by_cases hr : m.Refused answers
    · exact ⟨_, _, miniportInitializeEx_refused hm hi hr⟩
    · exact ⟨_, _, miniportInitializeEx_built hm hi hr⟩

/-! ## The callback of initialisation -/

theorem miniportInitializeExCallback_of_lookup {handle context : NdisHandle}
    {initParameters : Option InitParameters} (hm : d.miniports.lookup context = some m) :
    miniportInitializeExCallback hdr d handle context initParameters answers =
      if handle ≠ m.miniportDriverHandle then .ok (statusInvalidParameter1, d)
      else miniportInitializeEx hdr d context initParameters answers := by
  rw [miniportInitializeExCallback, if_neg (Heap.ne_null_of_lookup hm), Heap.deref_of_lookup hm]
  rfl

/-- The callback runs the member when its context is a live `Miniport` registered under
the handle it is given, and returns an error otherwise. -/
theorem miniportInitializeExCallback_cases {handle context : NdisHandle}
    {initParameters : Option InitParameters} {status : NdisStatus}
    (h : miniportInitializeExCallback hdr d handle context initParameters answers =
      .ok (status, d')) :
    (d' = d ∧ (status = statusInvalidParameter1 ∨ status = statusInvalidParameter2)) ∨
      ∃ m, d.miniports.lookup context = some m ∧ handle = m.miniportDriverHandle ∧
        miniportInitializeEx hdr d context initParameters answers = .ok (status, d') := by
  unfold miniportInitializeExCallback at h
  split_ifs at h with hc
  · obtain ⟨rfl, rfl⟩ := Prod.mk.inj (Except.ok.inj h)
    exact Or.inl ⟨rfl, Or.inr rfl⟩
  · obtain ⟨m, hm, h⟩ := Runs.bind_eq_ok.mp h
    rw [Heap.deref_eq_ok_iff] at hm
    split_ifs at h with hh
    · obtain ⟨rfl, rfl⟩ := Prod.mk.inj (Except.ok.inj h)
      exact Or.inl ⟨rfl, Or.inl rfl⟩
    · exact Or.inr ⟨m, hm, not_not.mp hh, h⟩

/-! ## The callbacks of an adapter -/

section Callbacks

variable {context : NdisHandle} {a : AX25Adapter} {pauseParameters restartParameters : Pointer}
  {lists : List Pointer} {port flags : UInt32}

theorem miniportPauseCallback_of_lookup (ha : d.adapters.lookup context = some a) :
    miniportPauseCallback d context pauseParameters =
      .ok (ndisStatusSuccess, d.storeAdapter context { a with state := .paused }) := by
  rw [miniportPauseCallback, if_neg (Heap.ne_null_of_lookup ha), AX25Adapter.pause,
    Heap.deref_of_lookup ha]
  rfl

theorem miniportRestartCallback_of_lookup (ha : d.adapters.lookup context = some a)
    (hr : restartParameters ≠ nullptr) :
    miniportRestartCallback d context restartParameters =
      .ok (ndisStatusSuccess, d.storeAdapter context { a with state := .running }) := by
  rw [miniportRestartCallback, if_neg (Heap.ne_null_of_lookup ha), if_neg hr, AX25Adapter.restart,
    Heap.deref_of_lookup ha]
  rfl

/-- Without parameters no adapter is restarted. -/
theorem miniportRestartCallback_of_null (hc : context ≠ nullptr) :
    miniportRestartCallback d context nullptr = .ok (statusInvalidParameter2, d) := by
  rw [miniportRestartCallback, if_neg hc, if_pos rfl]

/-- A send to an adapter does nothing. -/
theorem miniportSendNetBufferListsCallback_of_lookup (ha : d.adapters.lookup context = some a) :
    miniportSendNetBufferListsCallback d context lists port flags = .ok d := by
  rw [miniportSendNetBufferListsCallback, if_neg (Heap.ne_null_of_lookup ha),
    AX25Adapter.sendNetBufferLists, Heap.deref_of_lookup ha]
  exact ite_self _

/-- A send without a context hands the chain back. -/
theorem miniportSendNetBufferListsCallback_of_null
    (hm : d.miniports.lookup d.activeContext = some m) :
    miniportSendNetBufferListsCallback d nullptr lists port flags =
      .ok ((d.record (.markNetBufferListWithFailure lists ndisStatusFailure)).record
        (.ndisMSendNetBufferListsComplete m.miniportDriverHandle lists (completeFlags flags))) := by
  rw [miniportSendNetBufferListsCallback, if_pos rfl]
  simp only [Driver.record_miniports, Driver.record_activeContext, Heap.deref_of_lookup hm,
    Except.bind]

/-- A return to an adapter does nothing. -/
theorem miniportReturnNetBufferListsCallback_of_lookup (ha : d.adapters.lookup context = some a) :
    miniportReturnNetBufferListsCallback d context lists flags = .ok d := by
  rw [miniportReturnNetBufferListsCallback, if_neg (Heap.ne_null_of_lookup ha),
    AX25Adapter.returnNetBufferLists, Heap.deref_of_lookup ha]
  exact ite_self _

/-- A return without a context is written to the error log. -/
theorem miniportReturnNetBufferListsCallback_of_null
    (hm : d.miniports.lookup d.activeContext = some m) :
    miniportReturnNetBufferListsCallback d nullptr lists flags =
      .ok (d.record (.ndisWriteErrorLogEntry m.miniportDriverHandle .driverFailure
        [ax25CriticalErrorNdisLeakBufferLists])) := by
  rw [miniportReturnNetBufferListsCallback, if_pos rfl, Heap.deref_of_lookup hm]
  rfl

/-- Without an active context there is nobody to hand the chain back to. -/
theorem miniportSendNetBufferListsCallback_of_inactive (hc : d.activeContext = nullptr) :
    miniportSendNetBufferListsCallback d nullptr lists port flags = .error .nullPointer := by
  rw [miniportSendNetBufferListsCallback, if_pos rfl]
  simp only [Driver.record_miniports, Driver.record_activeContext, hc, Heap.deref_null, Except.bind]

theorem miniportReturnNetBufferListsCallback_of_inactive (hc : d.activeContext = nullptr) :
    miniportReturnNetBufferListsCallback d nullptr lists flags = .error .nullPointer := by
  rw [miniportReturnNetBufferListsCallback, if_pos rfl, hc, Heap.deref_null]
  rfl

end Callbacks

/-! ## Destruction -/

/-- The driver while the destructor at `this` runs its loop. -/
def dying (d : Driver) (this : Pointer) : Driver where
  activeContext := if this = d.activeContext then nullptr else d.activeContext
  miniports := d.miniports.erase this
  adapters := d.adapters
  log := .destroyed this :: d.log

theorem destructor_of_lookup (hm : d.miniports.lookup this = some m) :
    destructor d this = destroyAdapters m.adapters (dying d this) (List.finRange 16) := by
  simp only [destructor, Heap.deref_of_lookup hm, Except.bind, dying]
  by_cases hc : this = d.activeContext <;> simp [hc]

theorem destructor_eq_ok (h : destructor d this = .ok d') :
    ∃ m, d.miniports.lookup this = some m ∧
      destroyAdapters m.adapters (dying d this) (List.finRange 16) = .ok d' := by
  obtain ⟨m, hm, -⟩ := Runs.bind_eq_ok.mp h
  rw [Heap.deref_eq_ok_iff] at hm
  exact ⟨m, hm, destructor_of_lookup hm ▸ h⟩

variable {adapters : Fin 16 → Miniport.Adapter}

/-- Slots not in use are passed over. -/
theorem destroyAdapters_of_unused : ∀ {is : List (Fin 16)} {d : Driver},
    (∀ i ∈ is, (adapters i).inUse = false) → destroyAdapters adapters d is = .ok d
  | [], _, _ => rfl
  | i :: is, d, h => by
    have hi := h i (by simp)
    simp only [destroyAdapters, hi]
    exact destroyAdapters_of_unused fun j hj => h j (List.mem_cons_of_mem _ hj)

/-- What `Destroy` preserves, the loop preserves. -/
theorem destroyAdapters_invariant {Inv : Driver → Prop}
    (hdestroy : ∀ d p d', Inv d → AX25Adapter.destroy d p = .ok d' → Inv d') :
    ∀ {is : List (Fin 16)} {d d' : Driver}, destroyAdapters adapters d is = .ok d' →
      Inv d → Inv d'
  | [], _, _, h, hd => by
    obtain rfl := Except.ok.inj h
    exact hd
  | i :: is, d, d', h, hd => by
    rw [destroyAdapters] at h
    split_ifs at h with hi
    · obtain ⟨d₁, h₁, h⟩ := Runs.bind_eq_ok.mp h
      exact destroyAdapters_invariant hdestroy h (hdestroy _ _ _ hd h₁)
    · exact destroyAdapters_invariant hdestroy h hd

end Miniport

/-! ## `DriverEntry` -/

/-- The driver after `DriverEntry` got no memory. -/
def withoutMemory (hdr : NdisHeaders) (d : Driver) (driverObject registryPath : Pointer)
    (answers : EntryAnswers) : Driver :=
  (d.record (.wppInitTracing driverObject registryPath)).record
    (.exAllocatePoolWithTagPriority hdr.sizeofMiniport Miniport.miniportTag answers.pool)

/-- The miniport after its registration was answered. -/
def registeredMiniport (driverObject : Pointer) (answers : RegisterAnswers) : Miniport where
  miniportDriverHandle := if ntSuccess answers.status then answers.handle else nullptr
  driverObject := if ntSuccess answers.status then driverObject else nullptr
  adapters := Miniport.zeroTable

/-- The driver after `DriverEntry` called to register, when its memory is at `p`. -/
def withMiniport (hdr : NdisHeaders) (d : Driver) (driverObject registryPath p : Pointer)
    (answers : EntryAnswers) : Driver where
  activeContext := p
  miniports := d.miniports.store p (registeredMiniport driverObject answers.register)
  adapters := d.adapters
  log :=
    .ndisMRegisterMiniportDriver driverObject registryPath p (Miniport.characteristics hdr)
        answers.register ::
      .constructed p ::
      .exAllocatePoolWithTagPriority hdr.sizeofMiniport Miniport.miniportTag answers.pool ::
      .wppInitTracing driverObject registryPath :: d.log

/-- `DriverEntry` gets memory and is registered. -/
def EntryAnswers.Succeed (answers : EntryAnswers) : Prop :=
  answers.pool.address ≠ nullptr ∧ ntSuccess answers.register.status = true

section Entry

variable {hdr : NdisHeaders} {d : Driver} {driverObject registryPath : Pointer}
  {answers : EntryAnswers}

/-- A block the pool returned is fresh. -/
theorem PoolAnswer.not_live_of_fresh {pool : PoolAnswer} (hf : pool.Fresh d)
    (hp : pool.address ≠ nullptr) : ¬d.miniports.Live pool.address := by
  cases pool with
  | returned address => exact hf
  | raised status => exact absurd rfl hp

/-- Before the first entry the pool has nothing to mind. -/
theorem PoolAnswer.fresh_initial : ∀ pool : PoolAnswer, pool.Fresh .initial
  | .returned _ => Heap.not_live_empty _
  | .raised _ => trivial

theorem driverEntry_of_null (hp : answers.pool.address = nullptr) :
    driverEntry hdr d driverObject registryPath answers =
      .ok (statusNoMemory, withoutMemory hdr d driverObject registryPath answers) := by
  cases ha : answers.pool with
  | returned p =>
    have h0 : p = nullptr := by simpa [ha, PoolAnswer.address] using hp
    simp [driverEntry, Miniport.new, Miniport.operatorNew, withoutMemory, ha, h0]
  | raised status =>
    simp [driverEntry, Miniport.new, Miniport.operatorNew, withoutMemory, ha]

theorem driverEntry_of_memory (hp : answers.pool.address ≠ nullptr) :
    driverEntry hdr d driverObject registryPath answers =
      .ok (answers.register.status,
        if ntSuccess answers.register.status then
          withMiniport hdr d driverObject registryPath answers.pool.address answers
        else (withMiniport hdr d driverObject registryPath answers.pool.address answers).record
          (.wppCleanup driverObject)) := by
  cases ha : answers.pool with
  | raised status => simp [ha, PoolAnswer.address] at hp
  | returned p =>
    have h0 : p ≠ nullptr := by simpa [ha, PoolAnswer.address] using hp
    have hstore : ∀ m : Miniport,
        (d.miniports.store p m).deref p = .ok m := fun m =>
      Heap.deref_of_lookup (Heap.lookup_store_self _ h0)
    by_cases hs : ntSuccess answers.register.status = true
    · simp [driverEntry, Miniport.new, Miniport.operatorNew, Miniport.construct,
        Miniport.registerWithNdis, withMiniport, registeredMiniport, ha, h0, hs, hstore,
        Except.bind, PoolAnswer.address, Driver.record, Driver.storeMiniport]
    · simp [driverEntry, Miniport.new, Miniport.operatorNew, Miniport.construct,
        Miniport.registerWithNdis, withMiniport, registeredMiniport, ha, h0, hs, hstore,
        Except.bind, PoolAnswer.address, Driver.record, Driver.storeMiniport]

end Entry

/-! ## Entries -/

theorem withStatus_eq_ok {r : Except Fault (NdisStatus × Driver)} {status : Option NdisStatus}
    {d' : Driver} :
    withStatus r = .ok (status, d') ↔ ∃ s, status = some s ∧ r = .ok (s, d') := by
  cases r with
  | error e => simp [withStatus, Except.map]
  | ok r =>
    obtain ⟨s, d₁⟩ := r
    simp [withStatus, Except.map, eq_comm]

theorem noStatus_eq_ok {r : Except Fault Driver} {status : Option NdisStatus} {d' : Driver} :
    noStatus r = .ok (status, d') ↔ status = none ∧ r = .ok d' := by
  cases r <;> simp [noStatus, Except.map, eq_comm]

theorem withStatus_eq_error {r : Except Fault (NdisStatus × Driver)} {e : Fault} :
    withStatus r = .error e ↔ r = .error e := by
  cases r <;> simp [withStatus, Except.map]

theorem noStatus_eq_error {r : Except Fault Driver} {e : Fault} :
    noStatus r = .error e ↔ r = .error e := by
  cases r <;> simp [noStatus, Except.map]

variable {hdr : NdisHeaders} {d d' : Driver} {op : Op}

theorem step_eq_ok : step hdr d op = .ok d' ↔
    ∃ status d₁, op.call hdr d = .ok (status, d₁) ∧ d' = d₁.record (.returned op status) := by
  unfold step
  cases op.call hdr d with
  | error e => simp [Except.map]
  | ok r =>
    obtain ⟨status, d₁⟩ := r
    simp [Except.map, eq_comm]

theorem step_of_call {status : Option NdisStatus} {d₁ : Driver}
    (h : op.call hdr d = .ok (status, d₁)) :
    step hdr d op = .ok (d₁.record (.returned op status)) :=
  step_eq_ok.mpr ⟨status, d₁, h, rfl⟩

/-! ### Single entries as steps -/

theorem step_miniportInitializeEx {this : Pointer} {parameters : Option InitParameters}
    {answers : InitAnswers} {status : NdisStatus} {d₁ : Driver}
    (h : Miniport.miniportInitializeEx hdr d this parameters answers = .ok (status, d₁)) :
    step hdr d (.miniportInitializeEx this parameters answers) =
      .ok (d₁.record (.returned (.miniportInitializeEx this parameters answers) (some status))) :=
  step_of_call (withStatus_eq_ok.mpr ⟨status, rfl, h⟩)

/-- The driver after a halt of the adapter at `p`, which held `handle`. -/
def halted (d : Driver) (handle : NdisHandle) (p : Pointer) (action : UInt32) : Driver :=
  (AX25Adapter.ndisFreeMemoryWithTagPriority d handle p AX25Adapter.ax25AdapterTag).record
    (.returned (.callback (.haltEx p action)) none)

theorem step_halt {p : Pointer} {a : AX25Adapter} {action : UInt32}
    (ha : d.adapters.lookup p = some a) (hh : a.driverHandle ≠ nullptr) :
    step hdr d (.callback (.haltEx p action)) = .ok (halted d a.driverHandle p action) :=
  step_of_call (noStatus_eq_ok.mpr ⟨rfl, AX25Adapter.destroy_of_lookup ha hh⟩)

section Entry

variable {driverObject registryPath : Pointer} {answers : EntryAnswers}

theorem step_driverEntry_null (hp : answers.pool.address = nullptr) :
    step hdr d (.driverEntry driverObject registryPath answers) =
      .ok ((withoutMemory hdr d driverObject registryPath answers).record
        (.returned (.driverEntry driverObject registryPath answers) (some statusNoMemory))) :=
  step_of_call (withStatus_eq_ok.mpr ⟨_, rfl, driverEntry_of_null hp⟩)

theorem step_driverEntry_failed (hp : answers.pool.address ≠ nullptr)
    (hs : ntSuccess answers.register.status = false) :
    step hdr d (.driverEntry driverObject registryPath answers) =
      .ok (((withMiniport hdr d driverObject registryPath answers.pool.address answers).record
        (.wppCleanup driverObject)).record
        (.returned (.driverEntry driverObject registryPath answers)
          (some answers.register.status))) := by
  have hentry := @driverEntry_of_memory hdr d driverObject registryPath answers hp
  rw [if_neg (by simp [hs])] at hentry
  exact step_of_call (withStatus_eq_ok.mpr ⟨_, rfl, hentry⟩)

theorem step_driverEntry_succeeded (h : answers.Succeed) :
    step hdr d (.driverEntry driverObject registryPath answers) =
      .ok ((withMiniport hdr d driverObject registryPath answers.pool.address answers).record
        (.returned (.driverEntry driverObject registryPath answers)
          (some answers.register.status))) := by
  have hentry := @driverEntry_of_memory hdr d driverObject registryPath answers h.1
  rw [if_pos h.2] at hentry
  exact step_of_call (withStatus_eq_ok.mpr ⟨_, rfl, hentry⟩)

end Entry

end VirtualAX25
