import VirtualAX25.Table
import VirtualAX25.Service

/-!
# The driver seen as the service

`Driver.view` sees a driver as the service : a `Miniport` as a board with the entries of
its slots in use, an adapter as a port, and each event without what only the headers fix.
From a `Sound` driver every valid entry looks as it is answered by the service, faults
included (`call_refines`).

A driver is sound if its adapters hold what the log says (`Recorded`) and the slots in use
come before the others in every table (`Packed`). The first makes the null handle of
`operator delete` and the `Halted` answer dead branches; the second makes the search for
the first free slot an append.
-/

namespace VirtualAX25

open Service

/-! ## The view -/

/-- The event, as far as the service goes. -/
def Event.action : Event → Action
  | .wppInitTracing object path => .startTracing object path
  | .wppCleanup object => .stopTracing object
  | .exAllocatePoolWithTagPriority _ _ answer => .takePool answer
  | .exFreePoolWithTag pointer _ => .givePool pointer
  | .ndisMRegisterMiniportDriver object path context _ answers =>
    .register object path context answers
  | .ndisMDeregisterMiniportDriver handle => .deregister handle
  | .ndisAllocateMemoryWithTagPriority handle _ _ address => .take handle address
  | .ndisFreeMemoryWithTagPriority handle address _ => .give handle address
  | .ndisMSetMiniportAttributes handle (.registration attributes) status =>
    .setRegistration handle attributes.miniportAdapterContext status
  | .ndisMSetMiniportAttributes handle (.general _) status => .setGeneral handle status
  | .keInitializeDpc context => .initialiseDpc context
  | .ndisWriteErrorLogEntry handle code values => .report handle code values
  | .markNetBufferListWithFailure lists status => .mark lists status
  | .ndisMSendNetBufferListsComplete handle lists flags => .complete handle lists flags
  | .constructed this => .constructed this
  | .destroyed this => .destroyed this
  | .returned op status => .returned op.forget status

/-- An adapter as a port. -/
def AX25Adapter.port (a : AX25Adapter) : Port where
  handle := a.driverHandle
  running := a.state = .running

/-- A `Miniport` as a board. -/
def Miniport.board (m : Miniport) : Board where
  handle := m.miniportDriverHandle
  object := m.driverObject
  claims := m.entries
  length_le := m.length_entries_le

/-- The memory of a driver as the service sees it : the active context, the boards of the live
miniports and the ports of the live adapters. The rest of what an adapter holds is left out. -/
def Driver.memory (d : Driver) : Memory where
  active := d.activeContext
  boards := Option.map Miniport.board ∘ d.miniports.lookup
  ports := Option.map AX25Adapter.port ∘ d.adapters.lookup

/-- A driver as the service sees it : its memory, and its calls without the lengths, tags and
characteristics and without the attributes, but for the adapter context. -/
def Driver.view (d : Driver) : Service where
  memory := d.memory
  trace := d.log.map Event.action

/-- The slots in use come before the others. -/
def Miniport.Packed (m : Miniport) : Prop :=
  ∀ i j, i ≤ j → (m.adapters j).inUse = true → (m.adapters i).inUse = true

/-- Every table is packed. -/
def AllPacked (h : Heap Miniport) : Prop :=
  ∀ this m, h.lookup this = some m → m.Packed

/-- The tables are packed, and the adapters are as recorded. -/
structure Sound (d : Driver) : Prop where
  recorded : Recorded d
  packed : AllPacked d.miniports

variable {hdr : NdisHeaders} {d d' : Driver} {m : Miniport} {i : Fin 16} {this p : Pointer}
  {parameters : InitParameters} {answers : InitAnswers}

/-! ## Tables -/

namespace Miniport

theorem packed_of_zeroTable (hm : m.adapters = zeroTable) : m.Packed := by
  intro i j _ hj
  rw [hm] at hj
  cases hj

/-- Claiming the first free slot keeps a table packed. -/
theorem Packed.setSlot (hm : m.Packed) (hi : m.FirstFree i) (p : Pointer)
    (parameters : InitParameters) : (m.setSlot i (claimed p parameters)).Packed := by
  intro j k hjk hk
  by_cases hj : j = i
  · subst hj
    simp [claimed]
  · rw [setSlot_of_ne _ _ _ hj]
    rcases lt_or_gt_of_ne hj with hlt | hgt
    · exact hi.2 j hlt
    · have hki : k ≠ i := (hgt.trans_le hjk).ne'
      rw [setSlot_of_ne _ _ _ hki] at hk
      exact hm j k hjk hk

/-- In a packed table the first free slot comes after all entries. -/
theorem entries_setSlot_packed (hm : m.Packed) (hi : m.FirstFree i) (p : Pointer)
    (parameters : InitParameters) :
    (m.setSlot i (claimed p parameters)).entries = m.entries ++ [(parameters.ifIndex, p)] := by
  refine Slots.contents_update_of_last hi.entry_eq_none (fun j hj => ?_)
    (entry_claimed p parameters)
  have hfree : (m.adapters j).inUse ≠ true := fun hj' => by
    have h := hm i j hj.le hj'
    rw [hi.1] at h
    cases h
  simp [Adapter.entry, hfree]

theorem board_setSlot (hm : m.Packed) (hi : m.FirstFree i) (p : Pointer)
    (parameters : InitParameters) :
    (m.setSlot i (claimed p parameters)).board = m.board.claim parameters p := by
  have hlt : m.board.claims.length < 16 := length_entries_of_firstFree hi
  simp only [Board.claim, dif_pos hlt]
  simp only [board, entries_setSlot_packed hm hi, setSlot_miniportDriverHandle,
    setSlot_driverObject]

theorem entries_of_zeroTable (hm : m.adapters = zeroTable) : m.entries = [] := by
  rw [entries, hm]
  rfl

/-- A `Miniport` just registered. -/
theorem board_of_zeroTable {object : Pointer} {answers : RegisterAnswers}
    (hm : m.adapters = zeroTable)
    (hh : m.miniportDriverHandle = if ntSuccess answers.status then answers.handle else nullptr)
    (ho : m.driverObject = if ntSuccess answers.status then object else nullptr) :
    m.board = Board.empty.register object answers := by
  simp [board, Board.register, Board.empty, entries_of_zeroTable hm, hh, ho]

/-- A `Miniport` that is not registered. -/
theorem board_of_construct (hm : m.adapters = zeroTable) (hh : m.miniportDriverHandle = nullptr)
    (ho : m.driverObject = nullptr) : m.board = .empty := by
  simp [board, Board.empty, entries_of_zeroTable hm, hh, ho]

end Miniport

/-! ## Reading and writing -/

theorem read_boards (d : Driver) (this : Pointer) :
    Heap.read d.memory.boards this = (d.miniports.deref this).map Miniport.board :=
  (Heap.map_read _ _ _).symm

theorem read_ports (d : Driver) (p : Pointer) :
    Heap.read d.memory.ports p = (d.adapters.deref p).map AX25Adapter.port :=
  (Heap.map_read _ _ _).symm

theorem boards_store (h : Heap Miniport) (hp : this ≠ nullptr) (m : Miniport) :
    Option.map Miniport.board ∘ (h.store this m).lookup =
      Function.update (Option.map Miniport.board ∘ h.lookup) this (some m.board) := by
  rw [Heap.lookup_store h hp, Function.comp_update]
  rfl

theorem boards_erase (h : Heap Miniport) (this : Pointer) :
    Option.map Miniport.board ∘ (h.erase this).lookup =
      Function.update (Option.map Miniport.board ∘ h.lookup) this none := by
  rw [Heap.lookup_erase, Function.comp_update]
  rfl

theorem ports_store (h : Heap AX25Adapter) (hp : p ≠ nullptr) (a : AX25Adapter) :
    Option.map AX25Adapter.port ∘ (h.store p a).lookup =
      Function.update (Option.map AX25Adapter.port ∘ h.lookup) p (some a.port) := by
  rw [Heap.lookup_store h hp, Function.comp_update]
  rfl

theorem ports_erase (h : Heap AX25Adapter) (p : Pointer) :
    Option.map AX25Adapter.port ∘ (h.erase p).lookup =
      Function.update (Option.map AX25Adapter.port ∘ h.lookup) p none := by
  rw [Heap.lookup_erase, Function.comp_update]
  rfl

/-! ## Members -/

/-- A reply, after what was seen before. -/
def Service.Reply.after (trace : List Action) (r : Reply) : Option NdisStatus × Service :=
  (r.status, { memory := r.memory, trace := r.calls ++ trace })

/-- What is seen of a result. -/
def seen (r : Option NdisStatus × Driver) : Option NdisStatus × Service :=
  (r.1, r.2.view)

/-- The result `r` of an entry on `d` looks like the reply `r'`. -/
def LooksLike (d : Driver) (r : Except Fault (Option NdisStatus × Driver))
    (r' : Except Fault Reply) : Prop :=
  r.map seen = r'.map (Reply.after d.view.trace)

theorem LooksLike.ok {status : Option NdisStatus} {r : Reply} (hstatus : r.status = status)
    (hmemory : r.memory = d'.memory) (htrace : r.calls ++ d.view.trace = d'.view.trace) :
    LooksLike d (.ok (status, d')) (.ok r) := by
  simp only [LooksLike, Except.map, seen, Reply.after, hstatus, hmemory, htrace]
  rfl

theorem LooksLike.of_error {e : Fault} {r' : Except Fault Reply} (h : LooksLike d (.error e) r') :
    r' = .error e := by
  cases r' with
  | error e' => exact congrArg _ (Except.error.inj h).symm
  | ok r => cases h

theorem LooksLike.of_ok {status : Option NdisStatus} {r' : Except Fault Reply}
    (h : LooksLike d (.ok (status, d')) r') :
    ∃ r, r' = .ok r ∧ r.status = status ∧ r.memory = d'.memory ∧
      r.calls ++ d.view.trace = d'.view.trace := by
  cases r' with
  | error e => cases h
  | ok r =>
    obtain ⟨hstatus, hview⟩ := Prod.mk.inj (Except.ok.inj h)
    obtain ⟨hmemory, htrace⟩ := Service.mk.inj hview
    exact ⟨r, rfl, hstatus.symm, hmemory.symm, htrace.symm⟩

theorem memory_free (d : Driver) (handle : NdisHandle) (p : Pointer) (tag : UInt32) :
    (AX25Adapter.ndisFreeMemoryWithTagPriority d handle p tag).memory =
      d.memory.setPort p none := by
  simp only [Memory.setPort, Driver.memory, AX25Adapter.ndisFreeMemoryWithTagPriority, ports_erase]
  rfl

/-- `Destroy` is a halt. -/
theorem destroy_refines (hd : Recorded d) (p : Pointer) :
    LooksLike d (noStatus (AX25Adapter.destroy d p)) (d.memory.halt p) := by
  rw [Memory.halt, read_ports]
  cases hderef : d.adapters.deref p with
  | error e =>
    rw [AX25Adapter.destroy_eq_error_iff.mpr hderef]
    rfl
  | ok a =>
    have ha := Heap.deref_eq_ok_iff.mp hderef
    rw [AX25Adapter.destroy_of_lookup ha (hd p a ha).handle]
    exact .ok rfl (memory_free d _ p _).symm rfl

/-- The loop of the destructor halts the adapters its slots point to. -/
theorem destroyAdapters_refines {adapters : Fin 16 → Miniport.Adapter} :
    ∀ {is : List (Fin 16)} {d : Driver}, Recorded d → ∀ (calls trace : List Action),
      d.view.trace = calls ++ trace →
      (noStatus (Miniport.destroyAdapters adapters d is)).map seen =
        (d.memory.haltAll calls (Miniport.pointersAt adapters is)).map (Reply.after trace)
  | [], d, _, calls, trace, htrace => by
    have hview : d.view = { memory := d.memory, trace := calls ++ trace } :=
      congrArg (Service.mk d.memory) htrace
    exact congrArg (fun s => Except.ok (none, s)) hview
  | i :: is, d, hd, calls, trace, htrace => by
    cases hi : (adapters i).inUse with
    | false =>
      rw [Miniport.pointersAt_cons_of_unused hi, ← destroyAdapters_refines hd calls trace htrace,
        Miniport.destroyAdapters, hi]
      rfl
    | true =>
      rw [Miniport.pointersAt_cons_of_inUse hi, Miniport.destroyAdapters, hi, if_pos rfl,
        Memory.haltAll, Memory.halt, read_ports]
      cases hderef : d.adapters.deref (adapters i).adapter with
      | error e =>
        rw [AX25Adapter.destroy_eq_error_iff.mpr hderef]
        rfl
      | ok a =>
        have ha := Heap.deref_eq_ok_iff.mp hderef
        rw [AX25Adapter.destroy_of_lookup ha (hd _ a ha).handle]
        have hfree := hd.free a.driverHandle (adapters i).adapter AX25Adapter.ax25AdapterTag
        have ih := @destroyAdapters_refines adapters is _ hfree
          (.give a.driverHandle (adapters i).adapter :: calls) trace
          (congrArg (List.cons _) htrace)
        rw [memory_free] at ih
        exact ih

theorem memory_dying (d : Driver) (this : Pointer) :
    (Miniport.dying d this).memory = d.memory.without this := by
  simp only [Memory.without, Memory.setBoard, Driver.memory, Miniport.dying, boards_erase]
  rfl

/-- The destructor. -/
theorem destructor_refines (hd : Recorded d) (this : Pointer) :
    LooksLike d (noStatus (Miniport.destructor d this)) (d.memory.destroy this) := by
  rw [Memory.destroy, read_boards]
  cases hderef : d.miniports.deref this with
  | error e =>
    rw [Miniport.destructor, hderef]
    rfl
  | ok m =>
    rw [Miniport.destructor_of_lookup (Heap.deref_eq_ok_iff.mp hderef)]
    have hloop := @destroyAdapters_refines m.adapters (List.finRange 16) _ (hd.dying this)
      [.destroyed this] d.view.trace rfl
    rw [memory_dying] at hloop
    exact hloop

/-- The unload callback. -/
theorem unload_refines (hd : Recorded d) (object : Pointer) :
    LooksLike d (noStatus (Miniport.miniportDriverUnloadCallback d object)) d.memory.unload := by
  have hdestroy := destructor_refines hd d.activeContext
  unfold Miniport.miniportDriverUnloadCallback Miniport.delete Memory.unload
  by_cases hc : d.activeContext = nullptr
  · have hc' : d.memory.active = nullptr := hc
    rw [if_pos hc, if_pos hc']
    exact .ok rfl rfl rfl
  · have hc' : d.memory.active ≠ nullptr := hc
    rw [if_neg hc, if_neg hc']
    change LooksLike d _ ((d.memory.destroy d.activeContext).map _)
    cases hd₁ : Miniport.destructor d d.activeContext with
    | error e =>
      rw [hd₁] at hdestroy
      rw [hdestroy.of_error]
      rfl
    | ok d₁ =>
      rw [hd₁] at hdestroy
      obtain ⟨r, hr, hstatus, hmemory, htrace⟩ := LooksLike.of_ok hdestroy
      rw [hr]
      simp only [Except.bind, Miniport.operatorDelete, if_pos hc]
      exact .ok hstatus hmemory (congrArg (List.cons _) htrace)

/-- `RegisterWithNdis` -/
theorem register_refines (hdr : NdisHeaders) (d : Driver) (this object path : Pointer)
    (answers : RegisterAnswers) :
    LooksLike d (withStatus (Miniport.registerWithNdis hdr d this object path answers))
      (d.memory.register this object path answers) := by
  rw [Memory.register, read_boards, Miniport.registerWithNdis]
  cases hderef : d.miniports.deref this with
  | error e => rfl
  | ok m =>
    have h0 := Heap.ne_null_of_lookup (Heap.deref_eq_ok_iff.mp hderef)
    have hboard : m.board.register object answers =
        (if ntSuccess answers.status then
          { m with miniportDriverHandle := answers.handle, driverObject := object }
        else { m with miniportDriverHandle := nullptr, driverObject := nullptr }).board := by
      unfold Board.register
      split_ifs <;> rfl
    refine .ok rfl ?_ rfl
    simp only [Memory.setBoard, Driver.memory, Driver.storeMiniport, Driver.record_miniports,
      boards_store _ h0, hboard]
    rfl

/-- `DriverEntry` -/
theorem driverEntry_refines (hdr : NdisHeaders) (d : Driver) (object path : Pointer)
    (answers : EntryAnswers) :
    LooksLike d (withStatus (driverEntry hdr d object path answers))
      (.ok (d.memory.load object path answers)) := by
  by_cases hp : answers.pool.address = nullptr
  · rw [driverEntry_of_null hp, Memory.load, if_pos hp]
    exact .ok rfl rfl rfl
  · have hboard : (registeredMiniport object answers.register).board =
        Board.empty.register object answers.register := Miniport.board_of_zeroTable rfl rfl rfl
    have hmemory : (d.memory.start answers.pool.address
        (Board.empty.register object answers.register)) =
        (withMiniport hdr d object path answers.pool.address answers).memory := by
      simp only [Memory.start, Memory.setBoard, Driver.memory, withMiniport, boards_store _ hp,
        hboard]
    rw [driverEntry_of_memory hp, Memory.load, if_neg hp]
    by_cases hs : ntSuccess answers.register.status = true
    · rw [if_pos hs, if_pos hs]
      exact .ok rfl hmemory rfl
    · rw [if_neg hs, if_neg hs]
      exact .ok rfl hmemory rfl

/-! ### Initialisation -/

theorem length_claims_of_full (hf : m.Full) : m.board.claims.length = 16 :=
  Miniport.length_entries_of_full hf

theorem length_claims_of_firstFree (hi : m.FirstFree i) : m.board.claims.length ≠ 16 :=
  (Miniport.length_entries_of_firstFree hi).ne

/-- The service finds the claims at an end when the search finds no slot. -/
theorem initialise_of_full (hm : d.miniports.lookup this = some m) (hf : m.Full)
    (parameters : Option InitParameters) :
    d.memory.initialise this parameters answers =
      .ok (d.memory.same (some ndisStatusResources)
        [.report m.miniportDriverHandle .outOfResources [16]]) := by
  rw [Memory.initialise, read_boards, Heap.deref_of_lookup hm]
  simp only [Except.map, Except.bind, if_pos (length_claims_of_full hf)]
  rfl

theorem initialise_of_none (hm : d.miniports.lookup this = some m) (hi : m.FirstFree i) :
    d.memory.initialise this none answers = .error .nullPointer := by
  rw [Memory.initialise, read_boards, Heap.deref_of_lookup hm]
  simp only [Except.map, Except.bind, if_neg (length_claims_of_firstFree hi)]

theorem memory_withoutAdapter (hm : d.miniports.lookup this = some m) (hp : m.Packed)
    (hi : m.FirstFree i) :
    (Miniport.withoutAdapter hdr d this m i parameters).memory =
      d.memory.setBoard this (some (m.board.claim parameters nullptr)) := by
  simp only [Memory.setBoard, Driver.memory, Miniport.withoutAdapter,
    boards_store _ (Heap.ne_null_of_lookup hm), Miniport.board_setSlot hp hi]

theorem memory_withAdapter (hm : d.miniports.lookup this = some m) (hp : m.Packed)
    (hi : m.FirstFree i) (hr : ¬m.Refused answers) :
    (Miniport.withAdapter hdr d this m i parameters answers).memory =
      (d.memory.setBoard this (some (m.board.claim parameters answers.block.address))).setPort
        answers.block.address (some { handle := m.miniportDriverHandle, running := false }) := by
  simp only [Memory.setBoard, Memory.setPort, Driver.memory, Miniport.withAdapter,
    boards_store _ (Heap.ne_null_of_lookup hm), ports_store _ (not_or.mp hr).2,
    Miniport.board_setSlot hp hi]
  rfl

theorem initialise_refines (hdr : NdisHeaders) (hd : Sound d) (this : Pointer)
    (initParameters : Option InitParameters) (answers : InitAnswers) :
    LooksLike d (withStatus (Miniport.miniportInitializeEx hdr d this initParameters answers))
      (d.memory.initialise this initParameters answers) := by
  cases hderef : d.miniports.deref this with
  | error e =>
    rw [Memory.initialise, read_boards, Miniport.miniportInitializeEx, hderef]
    rfl
  | ok m =>
    have hm := Heap.deref_eq_ok_iff.mp hderef
    rcases m.full_or_firstFree with hf | ⟨i, hi⟩
    · rw [Miniport.miniportInitializeEx_full hm hf, initialise_of_full hm hf]
      exact .ok rfl rfl rfl
    · cases initParameters with
      | none =>
        rw [Miniport.miniportInitializeEx_none hm hi, initialise_of_none hm hi]
        rfl
      | some parameters =>
        have hpacked := hd.packed this m hm
        rw [Memory.initialise, read_boards, hderef]
        simp only [Except.map, Except.bind, if_neg (length_claims_of_firstFree hi)]
        by_cases hr : m.Refused answers
        · have hr' : m.board.handle = nullptr ∨ answers.block.address = nullptr := hr
          rw [Miniport.miniportInitializeEx_refused hm hi hr, if_pos hr']
          refine .ok rfl (memory_withoutAdapter hm hpacked hi).symm ?_
          by_cases hh : m.miniportDriverHandle = nullptr <;>
            simp [Miniport.withoutAdapter, Miniport.refusedCalls, Driver.view, Miniport.board, hh,
              Event.action]
        · have hr' : ¬(m.board.handle = nullptr ∨ answers.block.address = nullptr) := hr
          rw [Miniport.miniportInitializeEx_built hm hi hr, if_neg hr']
          refine .ok rfl (memory_withAdapter hm hpacked hi hr).symm ?_
          simp only [Miniport.withAdapter, AX25Adapter.attributeCalls, Memory.describe,
            Driver.view]
          split_ifs <;> simp [Event.action, Miniport.board, Miniport.newAdapter,
            AX25Adapter.construct, AX25Adapter.initializeGeneralAttributes,
            AX25Adapter.initializeRegistrationAttributes]

/-- The initialisation callback. -/
theorem initializeEx_refines (hdr : NdisHeaders) (hd : Sound d) (handle context : NdisHandle)
    (initParameters : Option InitParameters) (answers : InitAnswers) :
    LooksLike d (withStatus (Miniport.miniportInitializeExCallback hdr d handle context
      initParameters answers)) (d.memory.announce handle context initParameters answers) := by
  unfold Miniport.miniportInitializeExCallback Memory.announce
  by_cases h0 : context = nullptr
  · rw [if_pos h0, if_pos h0]
    exact .ok rfl rfl rfl
  · rw [if_neg h0, if_neg h0, read_boards]
    cases hderef : d.miniports.deref context with
    | error e => rfl
    | ok m =>
      by_cases hh : handle = m.miniportDriverHandle
      · have hinit := initialise_refines hdr hd context initParameters answers
        simpa [Except.map, Except.bind, hh, Miniport.board] using hinit
      · simp only [Except.map, Except.bind, Miniport.board, ne_eq, hh, not_false_eq_true, if_true]
        exact .ok rfl rfl rfl

/-! ### The other callbacks -/

/-- A member that sets the state of an adapter. -/
theorem setState_refines (d : Driver) (p : Pointer) (s : AX25Adapter.State) :
    LooksLike d (withStatus ((d.adapters.deref p).bind fun a =>
      .ok (ndisStatusSuccess, d.storeAdapter p { a with state := s })))
      (d.memory.setRunning p (s = .running)) := by
  rw [Memory.setRunning, read_ports]
  cases hderef : d.adapters.deref p with
  | error e => rfl
  | ok a =>
    have h0 := Heap.ne_null_of_lookup (Heap.deref_eq_ok_iff.mp hderef)
    refine .ok rfl ?_ rfl
    simp only [Memory.setPort, Driver.memory, Driver.storeAdapter, ports_store _ h0]
    rfl

theorem pause_refines (d : Driver) (context parameters : Pointer) :
    LooksLike d (withStatus (Miniport.miniportPauseCallback d context parameters))
      (d.memory.pause context) := by
  unfold Miniport.miniportPauseCallback Memory.pause
  split_ifs with h0
  · exact .ok rfl rfl rfl
  · exact setState_refines d context .paused

theorem restart_refines (d : Driver) (context parameters : Pointer) :
    LooksLike d (withStatus (Miniport.miniportRestartCallback d context parameters))
      (d.memory.restart context parameters) := by
  unfold Miniport.miniportRestartCallback Memory.restart
  split_ifs with h0 hp
  · exact .ok rfl rfl rfl
  · exact .ok rfl rfl rfl
  · exact setState_refines d context .running

/-- A live adapter is never found `Halted`. -/
theorem oidRequest_refines (hd : Recorded d) (context request : Pointer) :
    LooksLike d (withStatus (Miniport.miniportOidRequestCallback d context request))
      (d.memory.request context request) := by
  unfold Miniport.miniportOidRequestCallback Memory.request
  split_ifs with h0 hr
  · exact .ok rfl rfl rfl
  · exact .ok rfl rfl rfl
  · rw [read_ports]
    cases hderef : d.adapters.deref context with
    | error e =>
      rw [AX25Adapter.handleOidRequest, hderef]
      rfl
    | ok a =>
      have ha := Heap.deref_eq_ok_iff.mp hderef
      have hstate : a.state ≠ .halted := by
        rw [(hd context a ha).state]
        rcases lastAccepted_cases context d.log with h | h <;> simp [h]
      rw [handleOidRequest_of_lookup ha hstate]
      exact .ok rfl rfl rfl

/-- A callback that only reads its adapter. -/
theorem read_refines {r : Except Fault Driver} (hc : d.adapters.Live p) (hr : r = .ok d) :
    LooksLike d (noStatus r)
      ((Heap.read d.memory.ports p).bind fun _ => .ok (d.memory.same none [])) := by
  obtain ⟨a, ha⟩ := d.adapters.live_iff.mp hc
  rw [hr, read_ports, Heap.deref_of_lookup ha]
  exact .ok rfl rfl rfl

theorem read_active (d : Driver) :
    Heap.read d.memory.boards d.memory.active =
      (d.miniports.deref d.activeContext).map Miniport.board :=
  read_boards d d.activeContext

theorem send_refines {context : Pointer} (hc : context = nullptr ∨ d.adapters.Live context)
    (lists : List Pointer) (port flags : UInt32) :
    LooksLike d
      (noStatus (Miniport.miniportSendNetBufferListsCallback d context lists port flags))
      (d.memory.send context lists flags) := by
  by_cases h0 : context = nullptr
  · rw [Memory.send, if_pos h0, Miniport.miniportSendNetBufferListsCallback, if_pos h0,
      read_active]
    simp only [Driver.record_miniports, Driver.record_activeContext]
    cases d.miniports.deref d.activeContext with
    | error e => rfl
    | ok m => exact .ok rfl rfl rfl
  · have hlive := hc.resolve_left h0
    obtain ⟨a, ha⟩ := d.adapters.live_iff.mp hlive
    rw [Memory.send, if_neg h0]
    exact read_refines hlive (Miniport.miniportSendNetBufferListsCallback_of_lookup ha)

theorem return_refines {context : Pointer} (hc : context = nullptr ∨ d.adapters.Live context)
    (lists : List Pointer) (flags : UInt32) :
    LooksLike d (noStatus (Miniport.miniportReturnNetBufferListsCallback d context lists flags))
      (d.memory.takeBack context) := by
  by_cases h0 : context = nullptr
  · rw [Memory.takeBack, if_pos h0, Miniport.miniportReturnNetBufferListsCallback, if_pos h0,
      read_active]
    cases d.miniports.deref d.activeContext with
    | error e => rfl
    | ok m => exact .ok rfl rfl rfl
  · have hlive := hc.resolve_left h0
    obtain ⟨a, ha⟩ := d.adapters.live_iff.mp hlive
    rw [Memory.takeBack, if_neg h0]
    exact read_refines hlive (Miniport.miniportReturnNetBufferListsCallback_of_lookup ha)

/-! ## Entries -/

theorem callback_refines (hdr : NdisHeaders) (hd : Sound d) {c : Callback} (hv : c.Valid d) :
    LooksLike d (c.call hdr d) (c.forget.reply d.memory) := by
  cases c with
  | initializeEx handle context parameters answers =>
    exact initializeEx_refines hdr hd handle context parameters answers
  | haltEx context action => exact destroy_refines hd.recorded context
  | driverUnload object => exact unload_refines hd.recorded object
  | pause context parameters => exact pause_refines d context parameters
  | restart context parameters => exact restart_refines d context parameters
  | oidRequest context request => exact oidRequest_refines hd.recorded context request
  | sendNetBufferLists context lists port flags => exact send_refines hv lists port flags
  | returnNetBufferLists context lists flags => exact return_refines hv lists flags

/-- A valid entry looks as the service answers it. -/
theorem call_refines (hdr : NdisHeaders) (hd : Sound d) {op : Op} (hv : op.Valid d) :
    LooksLike d (op.call hdr d) (op.forget.reply d.memory) := by
  cases op with
  | driverEntry object path answers => exact driverEntry_refines hdr d object path answers
  | constructMiniport this =>
    refine .ok rfl ?_ rfl
    simp only [Memory.start, Memory.setBoard, Driver.memory, Miniport.construct,
      boards_store _ hv.1, Miniport.board_of_construct]
  | destroyMiniport this => exact destructor_refines hd.recorded this
  | registerWithNdis this object path answers =>
    exact register_refines hdr d this object path answers
  | miniportInitializeEx this parameters answers =>
    exact initialise_refines hdr hd this parameters answers
  | callback c => exact callback_refines hdr hd hv

theorem step_refines (hdr : NdisHeaders) (hd : Sound d) {op : Op} (hv : op.Valid d) :
    (step hdr d op).map Driver.view = Service.step d.view op.forget := by
  have hcall := call_refines hdr hd hv
  unfold step Service.step
  change _ = Except.map _ (op.forget.reply d.memory)
  cases hr : op.call hdr d with
  | error e =>
    rw [hr] at hcall
    rw [hcall.of_error]
    rfl
  | ok r =>
    obtain ⟨status, d₁⟩ := r
    rw [hr] at hcall
    obtain ⟨r, hr', hstatus, hmemory, htrace⟩ := hcall.of_ok
    rw [hr']
    simp only [Except.map, hstatus, hmemory, htrace]
    rfl

end VirtualAX25
