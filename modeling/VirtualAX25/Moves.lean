import VirtualAX25.Steps

/-!
# Moves

An entry that completes is a sequence of moves : it logs something, builds or frees an
adapter, sets the state of one, or constructs, updates or starts to destroy a `Miniport`
(`step_moves`). A move touches one part of the driver, so an invariant of all runs is
proved by cases on `Move`, once for all entries.

`step_frame` is about single adapters : an entry that does not set the state of the
adapter at `p` leaves it as it is, or dead.
-/

namespace VirtualAX25

/-! ## Events -/

/-- The adapter whose state an accepted pause or restart sets, and the state. -/
def Event.accepted : Event → Option (Pointer × AX25Adapter.State)
  | .returned (.callback (.pause context _)) (some status) =>
    if status = ndisStatusSuccess then some (context, .paused) else none
  | .returned (.callback (.restart context _)) (some status) =>
    if status = ndisStatusSuccess then some (context, .running) else none
  | _ => none

/-- Events that come without a change of memory. -/
def Event.Quiet : Event → Prop
  | .ndisAllocateMemoryWithTagPriority _ _ _ address => address = nullptr
  | .ndisFreeMemoryWithTagPriority _ _ _ => False
  | .constructed _ => False
  | .destroyed _ => False
  | .returned op status => (Event.returned op status).accepted = none
  | _ => True

/-! ## Moves -/

/-- What is written of a live `Miniport` : its handle and driver object, or its first free
slot, which is claimed. -/
inductive Miniport.Writes (m : Miniport) : Miniport → Prop
  | registration (m' : Miniport) (htable : m'.adapters = m.adapters) : m.Writes m'
  | slot (i : Fin 16) (hi : m.FirstFree i) (p : Pointer) (parameters : InitParameters) :
      m.Writes (m.setSlot i (Miniport.claimed p parameters))

/-- The moves of the driver. -/
inductive Move (hdr : NdisHeaders) (d : Driver) : Driver → Prop
  /-- Log an event. -/
  | quiet (e : Event) (he : e.Quiet) : Move hdr d (d.record e)
  /-- Allocate a block and construct an adapter there. -/
  | build (handle : NdisHandle) (block : AdapterBlock) (hh : handle ≠ nullptr)
      (hb : block.address ≠ nullptr) (hf : block.Fresh d) :
      Move hdr d (AX25Adapter.built hdr d handle handle block)
  /-- Free an adapter with the handle it holds. -/
  | free (p : Pointer) (a : AX25Adapter) (ha : d.adapters.lookup p = some a)
      (hh : a.driverHandle ≠ nullptr) :
      Move hdr d (AX25Adapter.ndisFreeMemoryWithTagPriority d a.driverHandle p
        AX25Adapter.ax25AdapterTag)
  /-- Set the state of an adapter, and return. -/
  | setState (p : Pointer) (a : AX25Adapter) (s : AX25Adapter.State) (op : Op)
      (status : Option NdisStatus) (ha : d.adapters.lookup p = some a)
      (he : (Event.returned op status).accepted = some (p, s)) :
      Move hdr d ((d.storeAdapter p { a with state := s }).record (.returned op status))
  /-- Construct a `Miniport` in fresh memory. -/
  | construct (this : Pointer) (h0 : this ≠ nullptr) (hf : ¬d.miniports.Live this) :
      Move hdr d (Miniport.construct d this)
  /-- Write a live `Miniport`. -/
  | update (this : Pointer) (m m' : Miniport) (hm : d.miniports.lookup this = some m)
      (hw : m.Writes m') : Move hdr d (d.storeMiniport this m')
  /-- Start to destroy a live `Miniport`. -/
  | dying (this : Pointer) (m : Miniport) (hm : d.miniports.lookup this = some m) :
      Move hdr d (Miniport.dying d this)

/-- Any number of moves. -/
abbrev Moves (hdr : NdisHeaders) : Driver → Driver → Prop :=
  Relation.ReflTransGen (Move hdr)

variable {hdr : NdisHeaders} {d d' : Driver} {p this : Pointer} {op : Op}

theorem moves_quiet {e : Event} (he : e.Quiet) : Moves hdr d (d.record e) :=
  .single (.quiet e he)

theorem Moves.quiet (h : Moves hdr d d') {e : Event} (he : e.Quiet) :
    Moves hdr d (d'.record e) :=
  h.tail (.quiet e he)

theorem Moves.update {m m' : Miniport} (h : Moves hdr d d')
    (hm : d'.miniports.lookup this = some m) (hw : m.Writes m') :
    Moves hdr d (d'.storeMiniport this m') :=
  h.tail (.update this m m' hm hw)

/-- Log a list of events, the last first. -/
theorem Moves.quiets (h : Moves hdr d d') : ∀ {es : List Event}, (∀ e ∈ es, e.Quiet) →
    Moves hdr d { d' with log := es ++ d'.log }
  | [], _ => h
  | e :: _, he =>
    (h.quiets fun e' he' => he e' (List.mem_cons_of_mem _ he')).quiet (he e List.mem_cons_self)

theorem quiet_attributeCalls (a : AX25Adapter) (registration general : NdisStatus) :
    ∀ e ∈ AX25Adapter.attributeCalls a registration general, e.Quiet := by
  intro e he
  unfold AX25Adapter.attributeCalls at he
  split_ifs at he <;> simp only [List.mem_cons, List.not_mem_nil, or_false] at he
  · rcases he with rfl | rfl <;> trivial
  · rw [he]
    trivial

/-! ## What the members do in moves -/

theorem moves_destroy (h : AX25Adapter.destroy d p = .ok d') : Moves hdr d d' := by
  obtain ⟨a, ha, ⟨-, rfl⟩ | ⟨hh, rfl⟩⟩ := AX25Adapter.destroy_cases h
  · exact .refl
  · exact .single (.free p a ha hh)

theorem moves_destructor (h : Miniport.destructor d this = .ok d') : Moves hdr d d' := by
  obtain ⟨m, hm, h⟩ := Miniport.destructor_eq_ok h
  exact Miniport.destroyAdapters_invariant (fun _ _ _ h₁ h₂ => h₁.trans (moves_destroy h₂)) h
    (.single (.dying this m hm))

theorem moves_delete (h : Miniport.delete d this = .ok d') : Moves hdr d d' := by
  unfold Miniport.delete at h
  split_ifs at h with h0
  · obtain rfl := Except.ok.inj h
    exact .refl
  · obtain ⟨d₁, h₁, h⟩ := Runs.bind_eq_ok.mp h
    obtain rfl := Except.ok.inj h
    rw [Miniport.operatorDelete, if_pos h0]
    exact (moves_destructor h₁).quiet trivial

theorem quiet_register (hdr : NdisHeaders) (object path context : Pointer)
    (answers : RegisterAnswers) :
    (Event.ndisMRegisterMiniportDriver object path context (Miniport.characteristics hdr)
      answers).Quiet :=
  trivial

theorem moves_registerWithNdis {object path : Pointer} {answers : RegisterAnswers}
    {status : NdisStatus}
    (h : Miniport.registerWithNdis hdr d this object path answers = .ok (status, d')) :
    Moves hdr d d' := by
  obtain ⟨m, hm, h⟩ := Runs.bind_eq_ok.mp h
  obtain ⟨rfl, rfl⟩ := Prod.mk.inj (Except.ok.inj h)
  have hlookup := Heap.deref_eq_ok_iff.mp hm
  refine (moves_quiet (quiet_register hdr object path this answers)).update hlookup ?_
  split_ifs <;> exact .registration _ rfl

theorem moves_miniportInitializeEx {parameters : Option InitParameters} {answers : InitAnswers}
    {status : NdisStatus} (hf : answers.block.Fresh d)
    (h : Miniport.miniportInitializeEx hdr d this parameters answers = .ok (status, d')) :
    Moves hdr d d' := by
  obtain ⟨m, hm, ⟨-, -, rfl⟩ | ⟨i, parameters, hi, -, ⟨-, -, rfl⟩ | ⟨hr, -, rfl⟩⟩⟩ :=
    Miniport.miniportInitializeEx_cases h
  · exact moves_quiet trivial
  · have hcalls : ∀ e ∈ Miniport.refusedCalls hdr m, e.Quiet := by
      intro e he
      unfold Miniport.refusedCalls at he
      split_ifs at he with hh
      · cases he
      · rw [List.mem_singleton.mp he]
        rfl
    have hslot : Moves hdr d (d.storeMiniport this
        (m.setSlot i (Miniport.claimed nullptr parameters))) :=
      .single (.update this m _ hm (.slot i hi _ _))
    exact (hslot.quiets hcalls).quiet trivial
  · obtain ⟨hh, hb⟩ := not_or.mp hr
    have hbuilt : Moves hdr d (AX25Adapter.built hdr d m.miniportDriverHandle
        m.miniportDriverHandle answers.block) :=
      .single (.build _ _ hh hb hf)
    have hslot := hbuilt.update hm (.slot i hi answers.block.address parameters)
    exact hslot.quiets (quiet_attributeCalls _ _ _)

theorem moves_withoutMemory {object path : Pointer} {answers : EntryAnswers} :
    Moves hdr d (withoutMemory hdr d object path answers) := by
  have htrace : Moves hdr d (d.record (.wppInitTracing object path)) := moves_quiet trivial
  exact htrace.quiet trivial

theorem moves_driverEntry {object path : Pointer} {answers : EntryAnswers} {status : NdisStatus}
    (hf : answers.pool.Fresh d)
    (h : driverEntry hdr d object path answers = .ok (status, d')) : Moves hdr d d' := by
  by_cases hp : answers.pool.address = nullptr
  · rw [driverEntry_of_null hp] at h
    obtain ⟨-, rfl⟩ := Prod.mk.inj (Except.ok.inj h)
    exact moves_withoutMemory
  · rw [driverEntry_of_memory hp] at h
    obtain ⟨-, rfl⟩ := Prod.mk.inj (Except.ok.inj h)
    have hfresh := PoolAnswer.not_live_of_fresh hf hp
    have hconstruct : Moves hdr d (Miniport.construct
        (withoutMemory hdr d object path answers) answers.pool.address) :=
      moves_withoutMemory.tail (.construct _ hp hfresh)
    have hregister := (hconstruct.quiet
      (quiet_register hdr object path answers.pool.address answers.register)).update
      (Heap.lookup_store_self _ hp)
      (.registration (registeredMiniport object answers.register) rfl)
    have hwith : Moves hdr d (withMiniport hdr d object path answers.pool.address answers) := by
      simpa [withMiniport, Miniport.construct, withoutMemory, Driver.storeMiniport,
        Driver.record] using hregister
    split_ifs
    · exact hwith
    · exact hwith.quiet trivial

/-! ## Entries in moves -/

/-- A member that only sets the state of the adapter at `p`, and its return. -/
theorem moves_setState {s : AX25Adapter.State} {status : NdisStatus}
    (h : (d.adapters.deref p).bind (fun a => Except.ok (ndisStatusSuccess,
      d.storeAdapter p { a with state := s })) = .ok (status, d'))
    (he : (Event.returned op (some ndisStatusSuccess)).accepted = some (p, s)) :
    Moves hdr d (d'.record (.returned op (some status))) := by
  obtain ⟨a, ha, h⟩ := Runs.bind_eq_ok.mp h
  obtain ⟨rfl, rfl⟩ := Prod.mk.inj (Except.ok.inj h)
  exact .single (.setState p a s op _ (Heap.deref_eq_ok_iff.mp ha) he)

/-- `Pause` and `Restart` are rejected with the statuses of invalid parameters. -/
theorem accepted_of_invalid {status : NdisStatus} (hs : status ≠ ndisStatusSuccess) :
    (Event.returned op (some status)).accepted = none := by
  unfold Event.accepted
  split
  · exact if_neg (by simp_all)
  · exact if_neg (by simp_all)
  · rfl

theorem moves_pause {context parameters : Pointer} {status : NdisStatus}
    (h : Miniport.miniportPauseCallback d context parameters = .ok (status, d')) :
    Moves hdr d (d'.record (.returned (.callback (.pause context parameters)) (some status))) := by
  unfold Miniport.miniportPauseCallback at h
  split_ifs at h with hc
  · obtain ⟨rfl, rfl⟩ := Prod.mk.inj (Except.ok.inj h)
    exact moves_quiet (accepted_of_invalid (by decide))
  · exact moves_setState h rfl

theorem moves_restart {context parameters : Pointer} {status : NdisStatus}
    (h : Miniport.miniportRestartCallback d context parameters = .ok (status, d')) :
    Moves hdr d (d'.record
      (.returned (.callback (.restart context parameters)) (some status))) := by
  unfold Miniport.miniportRestartCallback at h
  split_ifs at h with hc hp
  · obtain ⟨rfl, rfl⟩ := Prod.mk.inj (Except.ok.inj h)
    exact moves_quiet (accepted_of_invalid (by decide))
  · obtain ⟨rfl, rfl⟩ := Prod.mk.inj (Except.ok.inj h)
    exact moves_quiet (accepted_of_invalid (by decide))
  · exact moves_setState h rfl

/-- The OID request callback only reads. -/
theorem oidRequest_unchanged {context request : Pointer} {status : NdisStatus}
    (h : Miniport.miniportOidRequestCallback d context request = .ok (status, d')) : d' = d := by
  unfold Miniport.miniportOidRequestCallback AX25Adapter.handleOidRequest at h
  split_ifs at h
  · exact (Prod.mk.inj (Except.ok.inj h)).2.symm
  · exact (Prod.mk.inj (Except.ok.inj h)).2.symm
  · obtain ⟨a, -, h⟩ := Runs.bind_eq_ok.mp h
    split_ifs at h
    · exact (Prod.mk.inj (Except.ok.inj h)).2.symm
    · exact (Prod.mk.inj (Except.ok.inj h)).2.symm

/-- What the send callback logs. -/
def sendCalls (d : Driver) (context : Pointer) (lists : List Pointer) (flags : UInt32) :
    List Event :=
  if context = nullptr then
    match d.miniports.lookup d.activeContext with
    | some m => [.ndisMSendNetBufferListsComplete m.miniportDriverHandle lists
        (Miniport.completeFlags flags), .markNetBufferListWithFailure lists ndisStatusFailure]
    | none => []
  else []

/-- The send callback only calls out. -/
theorem send_eq_ok {context : Pointer} {lists : List Pointer} {port flags : UInt32}
    (h : Miniport.miniportSendNetBufferListsCallback d context lists port flags = .ok d') :
    d' = { d with log := sendCalls d context lists flags ++ d.log } := by
  unfold Miniport.miniportSendNetBufferListsCallback AX25Adapter.sendNetBufferLists at h
  unfold sendCalls
  split_ifs at h ⊢ with hc hl
  · obtain ⟨m, hm, h⟩ := Runs.bind_eq_ok.mp h
    have hm' : d.miniports.lookup d.activeContext = some m := Heap.deref_eq_ok_iff.mp hm
    obtain rfl := Except.ok.inj h
    rw [hm']
    rfl
  · exact (Except.ok.inj h).symm
  · obtain ⟨a, -, h⟩ := Runs.bind_eq_ok.mp h
    exact (Except.ok.inj h).symm

/-- What the return callback logs. -/
def returnCalls (d : Driver) (context : Pointer) : List Event :=
  if context = nullptr then
    match d.miniports.lookup d.activeContext with
    | some m => [.ndisWriteErrorLogEntry m.miniportDriverHandle .driverFailure
        [Miniport.ax25CriticalErrorNdisLeakBufferLists]]
    | none => []
  else []

/-- The return callback only calls out. -/
theorem return_eq_ok {context : Pointer} {lists : List Pointer} {flags : UInt32}
    (h : Miniport.miniportReturnNetBufferListsCallback d context lists flags = .ok d') :
    d' = { d with log := returnCalls d context ++ d.log } := by
  unfold Miniport.miniportReturnNetBufferListsCallback AX25Adapter.returnNetBufferLists at h
  unfold returnCalls
  split_ifs at h ⊢ with hc hl
  · obtain ⟨m, hm, h⟩ := Runs.bind_eq_ok.mp h
    have hm' : d.miniports.lookup d.activeContext = some m := Heap.deref_eq_ok_iff.mp hm
    obtain rfl := Except.ok.inj h
    rw [hm']
    rfl
  · exact (Except.ok.inj h).symm
  · obtain ⟨a, -, h⟩ := Runs.bind_eq_ok.mp h
    exact (Except.ok.inj h).symm

theorem quiet_sendCalls (d : Driver) (context : Pointer) (lists : List Pointer) (flags : UInt32) :
    ∀ e ∈ sendCalls d context lists flags, e.Quiet := by
  intro e he
  unfold sendCalls at he
  split at he
  · split at he
    · rcases List.mem_pair.mp he with rfl | rfl <;> trivial
    · cases he
  · cases he

theorem quiet_returnCalls (d : Driver) (context : Pointer) :
    ∀ e ∈ returnCalls d context, e.Quiet := by
  intro e he
  unfold returnCalls at he
  split at he
  · split at he
    · rw [List.mem_singleton.mp he]
      trivial
    · cases he
  · cases he

/-- A callback that completes, and its return, is a sequence of moves. -/
theorem callback_moves {c : Callback} {status : Option NdisStatus} (hv : c.Valid d)
    (hcall : c.call hdr d = .ok (status, d')) :
    Moves hdr d (d'.record (.returned (.callback c) status)) := by
  cases c with
  | initializeEx handle context parameters answers =>
    obtain ⟨s, rfl, h⟩ := withStatus_eq_ok.mp hcall
    rcases Miniport.miniportInitializeExCallback_cases h with ⟨rfl, -⟩ | ⟨m, -, -, h⟩
    · exact moves_quiet rfl
    · exact (moves_miniportInitializeEx hv.2 h).quiet rfl
  | haltEx context action =>
    obtain ⟨rfl, h⟩ := noStatus_eq_ok.mp hcall
    exact (moves_destroy h).quiet rfl
  | driverUnload object =>
    obtain ⟨rfl, h⟩ := noStatus_eq_ok.mp hcall
    exact (moves_delete h).quiet rfl
  | pause context parameters =>
    obtain ⟨s, rfl, h⟩ := withStatus_eq_ok.mp hcall
    exact moves_pause h
  | restart context parameters =>
    obtain ⟨s, rfl, h⟩ := withStatus_eq_ok.mp hcall
    exact moves_restart h
  | oidRequest context request =>
    obtain ⟨s, rfl, h⟩ := withStatus_eq_ok.mp hcall
    rw [oidRequest_unchanged h]
    exact moves_quiet rfl
  | sendNetBufferLists context lists port flags =>
    obtain ⟨rfl, h⟩ := noStatus_eq_ok.mp hcall
    rw [send_eq_ok h]
    exact (Moves.quiets .refl (quiet_sendCalls d context lists flags)).quiet rfl
  | returnNetBufferLists context lists flags =>
    obtain ⟨rfl, h⟩ := noStatus_eq_ok.mp hcall
    rw [return_eq_ok h]
    exact (Moves.quiets .refl (quiet_returnCalls d context)).quiet rfl

/-- An entry that completes is a sequence of moves. -/
theorem step_moves (hv : op.Valid d) (h : step hdr d op = .ok d') : Moves hdr d d' := by
  obtain ⟨status, d₁, hcall, rfl⟩ := step_eq_ok.mp h
  cases op with
  | driverEntry object path answers =>
    obtain ⟨s, rfl, hm⟩ := withStatus_eq_ok.mp hcall
    exact (moves_driverEntry hv hm).quiet rfl
  | constructMiniport this =>
    obtain ⟨rfl, rfl⟩ := Prod.mk.inj (Except.ok.inj hcall)
    have hconstruct : Moves hdr d (Miniport.construct d this) :=
      .single (.construct this hv.1 hv.2)
    exact hconstruct.quiet rfl
  | destroyMiniport this =>
    obtain ⟨rfl, hm⟩ := noStatus_eq_ok.mp hcall
    exact (moves_destructor hm).quiet rfl
  | registerWithNdis this object path answers =>
    obtain ⟨s, rfl, hm⟩ := withStatus_eq_ok.mp hcall
    exact (moves_registerWithNdis hm).quiet rfl
  | miniportInitializeEx this parameters answers =>
    obtain ⟨s, rfl, hm⟩ := withStatus_eq_ok.mp hcall
    exact (moves_miniportInitializeEx hv.2.2 hm).quiet rfl
  | callback c => exact callback_moves hv hcall

theorem step_invariant {Inv : Driver → Prop} (hmove : ∀ d d', Inv d → Move hdr d d' → Inv d')
    (hv : op.Valid d) (h : step hdr d op = .ok d') (hd : Inv d) : Inv d' :=
  Runs.invariant_of_reflTransGen hmove (step_moves hv h) hd

/-- An invariant of the moves holds at every boundary of every valid run. -/
theorem invariant_of_moves {Inv : Driver → Prop}
    (hmove : ∀ d d', Inv d → Move hdr d d' → Inv d') {ops : List Op} {t : Driver}
    (hd : Runs.Visits (step hdr) d ops t)
    (hv : Runs.Along (step hdr) (fun d op => op.Valid d) d ops) (hi : Inv d) : Inv t :=
  hd.invariant_of_moves (fun _ _ _ => step_moves) hmove hv hi

/-! ## Single adapters -/

/-- The entry sets the state of the adapter at `p`. -/
def Op.Sets (p : Pointer) : Op → Prop
  | .callback (.pause context _) => context = p
  | .callback (.restart context parameters) => context = p ∧ parameters ≠ nullptr
  | _ => False

/-- The adapter at `p` is as before, or dead. -/
def Kept (p : Pointer) (d d' : Driver) : Prop :=
  d'.adapters.lookup p = d.adapters.lookup p ∨ d'.adapters.lookup p = none

theorem Kept.of_adapters (h : d'.adapters = d.adapters) : Kept p d d' :=
  Or.inl (by rw [h])

theorem Kept.trans {d₁ : Driver} (h : Kept p d d₁) (h₁ : Kept p d₁ d') : Kept p d d' := by
  rcases h₁ with h₁ | h₁
  · rcases h with h | h
    · exact Or.inl (h₁.trans h)
    · exact Or.inr (h₁.trans h)
  · exact Or.inr h₁

theorem kept_destroy {q : Pointer} (h : AX25Adapter.destroy d q = .ok d') : Kept p d d' := by
  obtain ⟨a, -, ⟨-, rfl⟩ | ⟨-, rfl⟩⟩ := AX25Adapter.destroy_cases h
  · exact .of_adapters rfl
  · by_cases hp : p = q
    · subst hp
      exact Or.inr (Heap.lookup_erase_self _)
    · exact Or.inl (Heap.lookup_erase_of_ne _ hp)

theorem kept_destructor (h : Miniport.destructor d this = .ok d') : Kept p d d' := by
  obtain ⟨m, -, h⟩ := Miniport.destructor_eq_ok h
  exact Miniport.destroyAdapters_invariant (fun _ _ _ h₁ h₂ => h₁.trans (kept_destroy h₂)) h
    (Kept.of_adapters rfl)

theorem kept_miniportInitializeEx {parameters : Option InitParameters} {answers : InitAnswers}
    {status : NdisStatus} (hl : d.adapters.Live p) (hf : answers.block.Fresh d)
    (h : Miniport.miniportInitializeEx hdr d this parameters answers = .ok (status, d')) :
    Kept p d d' := by
  obtain ⟨m, -, ⟨-, -, rfl⟩ | ⟨i, parameters, -, -, ⟨-, -, rfl⟩ | ⟨-, -, rfl⟩⟩⟩ :=
    Miniport.miniportInitializeEx_cases h
  · exact .of_adapters rfl
  · exact .of_adapters rfl
  · have hp : p ≠ answers.block.address := by
      rintro rfl
      exact hf hl
    exact Or.inl (Heap.lookup_store_of_ne _ hp)

/-- A member that sets the state of the adapter at `q` leaves the others alone. -/
theorem kept_setState {q : Pointer} {s : AX25Adapter.State} {status : NdisStatus} (hq : p ≠ q)
    (h : (d.adapters.deref q).bind (fun a => Except.ok (ndisStatusSuccess,
      d.storeAdapter q { a with state := s })) = .ok (status, d')) : Kept p d d' := by
  obtain ⟨a, -, h⟩ := Runs.bind_eq_ok.mp h
  obtain ⟨-, rfl⟩ := Prod.mk.inj (Except.ok.inj h)
  exact Or.inl (Heap.lookup_store_of_ne _ hq)

theorem kept_callback {c : Callback} {status : Option NdisStatus} (hv : c.Valid d)
    (hl : d.adapters.Live p) (hs : ¬(Op.callback c).Sets p)
    (hcall : c.call hdr d = .ok (status, d')) : Kept p d d' := by
  cases c with
  | initializeEx handle context parameters answers =>
    obtain ⟨s, rfl, h⟩ := withStatus_eq_ok.mp hcall
    rcases Miniport.miniportInitializeExCallback_cases h with ⟨rfl, -⟩ | ⟨m, -, -, h⟩
    · exact .of_adapters rfl
    · exact kept_miniportInitializeEx hl hv.2 h
  | haltEx context action => exact kept_destroy (noStatus_eq_ok.mp hcall).2
  | driverUnload object =>
    have h' := (noStatus_eq_ok.mp hcall).2
    unfold Miniport.miniportDriverUnloadCallback Miniport.delete Miniport.operatorDelete at h'
    split_ifs at h' with h0
    · exact .of_adapters (by rw [← Except.ok.inj h'])
    · obtain ⟨d₁, h₁, h'⟩ := Runs.bind_eq_ok.mp h'
      exact (kept_destructor h₁).trans (.of_adapters (by rw [← Except.ok.inj h']; rfl))
  | pause context parameters =>
    obtain ⟨s, rfl, h⟩ := withStatus_eq_ok.mp hcall
    unfold Miniport.miniportPauseCallback at h
    split_ifs at h
    · exact .of_adapters (by rw [← (Prod.mk.inj (Except.ok.inj h)).2])
    · exact kept_setState (fun hp => hs hp.symm) h
  | restart context parameters =>
    obtain ⟨s, rfl, h⟩ := withStatus_eq_ok.mp hcall
    unfold Miniport.miniportRestartCallback at h
    split_ifs at h with hc hparameters
    · exact .of_adapters (by rw [← (Prod.mk.inj (Except.ok.inj h)).2])
    · exact .of_adapters (by rw [← (Prod.mk.inj (Except.ok.inj h)).2])
    · exact kept_setState (fun hp => hs ⟨hp.symm, hparameters⟩) h
  | oidRequest context request =>
    obtain ⟨s, rfl, h⟩ := withStatus_eq_ok.mp hcall
    exact .of_adapters (by rw [oidRequest_unchanged h])
  | sendNetBufferLists context lists port flags =>
    exact .of_adapters (by rw [send_eq_ok (noStatus_eq_ok.mp hcall).2])
  | returnNetBufferLists context lists flags =>
    exact .of_adapters (by rw [return_eq_ok (noStatus_eq_ok.mp hcall).2])

/-- An entry that does not set the state of a live adapter leaves the adapter as it is, or
dead. -/
theorem step_frame (hv : op.Valid d) (hl : d.adapters.Live p) (hs : ¬op.Sets p)
    (h : step hdr d op = .ok d') : Kept p d d' := by
  obtain ⟨status, d₁, hcall, rfl⟩ := step_eq_ok.mp h
  refine Kept.trans ?_ (.of_adapters (Driver.record_adapters _ _))
  cases op with
  | driverEntry object path answers =>
    obtain ⟨s, rfl, hm⟩ := withStatus_eq_ok.mp hcall
    by_cases hp : answers.pool.address = nullptr
    · rw [driverEntry_of_null hp] at hm
      exact .of_adapters (by rw [← (Prod.mk.inj (Except.ok.inj hm)).2]; rfl)
    · rw [driverEntry_of_memory hp] at hm
      refine .of_adapters ?_
      rw [← (Prod.mk.inj (Except.ok.inj hm)).2]
      split_ifs <;> rfl
  | constructMiniport this =>
    exact .of_adapters (by rw [← (Prod.mk.inj (Except.ok.inj hcall)).2]; rfl)
  | destroyMiniport this => exact kept_destructor (noStatus_eq_ok.mp hcall).2
  | registerWithNdis this object path answers =>
    obtain ⟨s, rfl, hm⟩ := withStatus_eq_ok.mp hcall
    obtain ⟨m, -, hm⟩ := Runs.bind_eq_ok.mp hm
    exact .of_adapters (by rw [← (Prod.mk.inj (Except.ok.inj hm)).2]; rfl)
  | miniportInitializeEx this parameters answers =>
    obtain ⟨s, rfl, hm⟩ := withStatus_eq_ok.mp hcall
    exact kept_miniportInitializeEx hl hv.2.2 hm
  | callback c => exact kept_callback hv hl hs hcall

end VirtualAX25
