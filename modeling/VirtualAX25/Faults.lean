import VirtualAX25.Isolation
import VirtualAX25.ActiveContext

/-!
# Where the driver faults

An entry is safe if no pointer it leaves unchecked is null, and the table it sweeps, if any,
holds distinct live adapters (`Op.Safe`). A valid run completes exactly if all its entries
are safe (`completes_iff_safe`).

Nothing but the sweep of a table can come upon a dangling pointer, and then a slot in use of
this table holds an address where an adapter was halted (`halted_of_dangling`).
-/

namespace VirtualAX25

open Miniport

/-! ## Safe entries -/

/-- If a `Miniport` is live at `this`, its slots in use hold distinct live adapters. -/
def Driver.Sweeps (d : Driver) (this : Pointer) : Prop :=
  ∀ m, d.miniports.lookup this = some m → m.Valid d

/-- No pointer the callback leaves unchecked is null, and what it sweeps is valid. -/
def Callback.Safe (d : Driver) : Callback → Prop
  | .initializeEx handle context parameters _ => parameters = none →
    ∀ m, d.miniports.lookup context = some m → handle = m.miniportDriverHandle → m.Full
  | .haltEx context _ => context ≠ nullptr
  | .driverUnload _ => d.Sweeps d.activeContext
  | .sendNetBufferLists context _ _ _ => context = nullptr → d.activeContext ≠ nullptr
  | .returnNetBufferLists context _ _ => context = nullptr → d.activeContext ≠ nullptr
  | .pause .. | .restart .. | .oidRequest .. => True

/-- No pointer the entry leaves unchecked is null, and what it sweeps is valid. -/
def Op.Safe (d : Driver) : Op → Prop
  | .destroyMiniport this => d.Sweeps this
  | .callback c => c.Safe d
  | .driverEntry .. | .constructMiniport _ | .registerWithNdis .. | .miniportInitializeEx .. => True

/-- The entry destroys the `Miniport` at `this`. -/
def Op.Destroys (d : Driver) (this : Pointer) : Op → Prop
  | .destroyMiniport this' => this' = this
  | .callback (.driverUnload _) => d.activeContext = this
  | _ => False

/-- The fault is a null pointer, or what the sweep of a table the entry destroys comes to. -/
def Op.CanFault (d : Driver) (op : Op) (e : Fault) : Prop :=
  e = .nullPointer ∨ ∃ this m, op.Destroys d this ∧ d.miniports.lookup this = some m ∧
    d.adapters.eraseAll m.pointers = .error e

variable {hdr : NdisHeaders} {d d' : Driver} {op : Op} {c : Callback} {this p : Pointer}
  {m : Miniport} {ops : List Op}

/-- The call completes if the entry is safe, and faults as it can if it is not. -/
def Outcome {α : Type} (d : Driver) (op : Op) (r : Except Fault α) : Prop :=
  (op.Safe d ∧ ∃ x, r = .ok x) ∨ (¬op.Safe d ∧ ∃ e, r = .error e ∧ op.CanFault d e)

theorem Outcome.ok {α : Type} {r : Except Fault α} {x : α} (h : r = .ok x) (hs : op.Safe d) :
    Outcome d op r :=
  Or.inl ⟨hs, x, h⟩

theorem Outcome.null {α : Type} {r : Except Fault α} (h : r = .error .nullPointer)
    (hs : ¬op.Safe d) : Outcome d op r :=
  Or.inr ⟨hs, _, h, Or.inl rfl⟩

theorem Outcome.map {α β : Type} {r : Except Fault α} (h : Outcome d op r) (f : α → β) :
    Outcome d op (r.map f) := by
  rcases h with ⟨hs, x, rfl⟩ | ⟨hs, e, rfl, he⟩
  · exact Or.inl ⟨hs, _, rfl⟩
  · exact Or.inr ⟨hs, e, rfl, he⟩

/-! ## Entries -/

/-- The sweep of a table that is destroyed. -/
theorem outcome_of_sweep {r : Except Fault Driver} (hm : d.miniports.lookup this = some m)
    (hop : op.Destroys d this) (hsafe : op.Safe d ↔ m.Valid d)
    (hok : (∃ d', r = .ok d') ↔ m.Valid d)
    (herror : ∀ e, r = .error e ↔ d.adapters.eraseAll m.pointers = .error e) : Outcome d op r := by
  by_cases hvalid : m.Valid d
  · obtain ⟨d', h⟩ := hok.mpr hvalid
    exact .ok h (hsafe.mpr hvalid)
  · refine Or.inr ⟨fun hs => hvalid (hsafe.mp hs), ?_⟩
    cases h : r with
    | error e => exact ⟨e, rfl, Or.inr ⟨this, m, hop, hm, (herror e).mp h⟩⟩
    | ok d' => exact absurd (hok.mp ⟨d', h⟩) hvalid

theorem sweeps_iff (hm : d.miniports.lookup this = some m) : d.Sweeps this ↔ m.Valid d := by
  simp [Driver.Sweeps, hm]

theorem outcome_destroy (hrec : Recorded d) (hm : d.miniports.lookup this = some m) :
    Outcome d (.destroyMiniport this) (destructor d this) := by
  refine outcome_of_sweep hm rfl (sweeps_iff hm) (destructor_completes_iff hrec hm) fun e => ?_
  rw [← sweep_adapters hrec this m, destructor_of_lookup hm]
  cases destroyAdapters m.adapters (dying d this) (List.finRange 16) <;> simp [Except.map]

theorem outcome_unload (hrec : Recorded d)
    (hcontext : d.activeContext = nullptr ∨ d.miniports.Live d.activeContext) (object : Pointer) :
    Outcome d (.callback (.driverUnload object)) (miniportDriverUnloadCallback d object) := by
  by_cases h0 : d.activeContext = nullptr
  · refine .ok (unload_of_null h0 object) fun m hm => ?_
    rw [h0, Heap.lookup_null] at hm
    cases hm
  · obtain ⟨m, hm⟩ := d.miniports.live_iff.mp (hcontext.resolve_left h0)
    exact outcome_of_sweep hm rfl (sweeps_iff hm) (delete_completes_iff hrec hm) fun e =>
      delete_eq_error_iff hrec hm

theorem outcome_initializeEx {handle context : NdisHandle} {initParameters : Option InitParameters}
    {answers : InitAnswers} (hc : context = nullptr ∨ d.miniports.Live context) :
    Outcome d (.callback (.initializeEx handle context initParameters answers))
      (miniportInitializeExCallback hdr d handle context initParameters answers) := by
  rcases hc with rfl | hl
  · refine .ok rfl fun _ m hm => ?_
    rw [Heap.lookup_null] at hm
    cases hm
  · obtain ⟨m, hm⟩ := d.miniports.live_iff.mp hl
    have hsafe : (Op.callback (.initializeEx handle context initParameters answers)).Safe d ↔
        (initParameters = none → handle = m.miniportDriverHandle → m.Full) := by
      simp [Op.Safe, Callback.Safe, hm]
    rw [miniportInitializeExCallback_of_lookup hm]
    split_ifs with hh
    · exact .ok rfl (hsafe.mpr fun _ h => absurd h hh)
    · cases initParameters with
      | some parameters =>
        obtain ⟨status, d', h⟩ := miniportInitializeEx_completes hdr hm parameters answers
        exact .ok h (hsafe.mpr fun hnone => nomatch hnone)
      | none =>
        rcases m.full_or_firstFree with hf | ⟨i, hi⟩
        · exact .ok (miniportInitializeEx_full hm hf _) (hsafe.mpr fun _ _ => hf)
        · refine .null (miniportInitializeEx_none hm hi) fun hs => ?_
          exact hi.not_full (hsafe.mp hs rfl (not_not.mp hh))

theorem outcome_halt (hrec : Recorded d) {context : NdisHandle} {action : UInt32}
    (hc : context = nullptr ∨ d.adapters.Live context) :
    Outcome d (.callback (.haltEx context action)) (miniportHaltExCallback d context action) := by
  rcases hc with rfl | hl
  · exact .null (AX25Adapter.destroy_eq_error_iff.mpr (Heap.deref_null _)) fun hs => hs rfl
  · obtain ⟨a, ha⟩ := d.adapters.live_iff.mp hl
    exact .ok (AX25Adapter.destroy_of_lookup ha (hrec _ _ ha).handle) hl.ne_null

theorem outcome_send (hcontext : d.activeContext = nullptr ∨ d.miniports.Live d.activeContext)
    {context : NdisHandle} {lists : List Pointer} {port flags : UInt32}
    (hc : context = nullptr ∨ d.adapters.Live context) :
    Outcome d (.callback (.sendNetBufferLists context lists port flags))
      (miniportSendNetBufferListsCallback d context lists port flags) := by
  rcases hc with rfl | hl
  · by_cases h0 : d.activeContext = nullptr
    · exact .null (miniportSendNetBufferListsCallback_of_inactive h0) fun hs => hs rfl h0
    · obtain ⟨m, hm⟩ := d.miniports.live_iff.mp (hcontext.resolve_left h0)
      exact .ok (miniportSendNetBufferListsCallback_of_null hm) fun _ => h0
  · obtain ⟨a, ha⟩ := d.adapters.live_iff.mp hl
    exact .ok (miniportSendNetBufferListsCallback_of_lookup ha) fun h => absurd h hl.ne_null

theorem outcome_return (hcontext : d.activeContext = nullptr ∨ d.miniports.Live d.activeContext)
    {context : NdisHandle} {lists : List Pointer} {flags : UInt32}
    (hc : context = nullptr ∨ d.adapters.Live context) :
    Outcome d (.callback (.returnNetBufferLists context lists flags))
      (miniportReturnNetBufferListsCallback d context lists flags) := by
  rcases hc with rfl | hl
  · by_cases h0 : d.activeContext = nullptr
    · exact .null (miniportReturnNetBufferListsCallback_of_inactive h0) fun hs => hs rfl h0
    · obtain ⟨m, hm⟩ := d.miniports.live_iff.mp (hcontext.resolve_left h0)
      exact .ok (miniportReturnNetBufferListsCallback_of_null hm) fun _ => h0
  · obtain ⟨a, ha⟩ := d.adapters.live_iff.mp hl
    exact .ok (miniportReturnNetBufferListsCallback_of_lookup ha) fun h => absurd h hl.ne_null

theorem outcome_restart {context : NdisHandle} {parameters : Pointer}
    (hc : context = nullptr ∨ d.adapters.Live context) :
    Outcome d (.callback (.restart context parameters))
      (miniportRestartCallback d context parameters) := by
  rcases hc with rfl | hl
  · exact .ok rfl trivial
  · by_cases hp : parameters = nullptr
    · subst hp
      exact .ok (miniportRestartCallback_of_null hl.ne_null) trivial
    · obtain ⟨a, ha⟩ := d.adapters.live_iff.mp hl
      exact .ok (miniportRestartCallback_of_lookup ha hp) trivial

theorem outcome_oidRequest {context : NdisHandle} {request : Pointer}
    (hc : context = nullptr ∨ d.adapters.Live context) :
    Outcome d (.callback (.oidRequest context request))
      (miniportOidRequestCallback d context request) := by
  rcases hc with rfl | hl
  · exact .ok rfl trivial
  · obtain ⟨a, ha⟩ := d.adapters.live_iff.mp hl
    rw [miniportOidRequestCallback, if_neg hl.ne_null, AX25Adapter.handleOidRequest,
      Heap.deref_of_lookup ha, Except.bind]
    split_ifs
    · exact .ok rfl trivial
    · exact .ok rfl trivial
    · exact .ok rfl trivial

theorem outcome_of_callback (hrec : Recorded d)
    (hcontext : d.activeContext = nullptr ∨ d.miniports.Live d.activeContext) (hv : c.Valid d) :
    Outcome d (.callback c) (c.call hdr d) := by
  cases c with
  | initializeEx handle context parameters answers => exact (outcome_initializeEx hv.1).map _
  | haltEx context action => exact (outcome_halt hrec hv).map _
  | driverUnload object => exact (outcome_unload hrec hcontext object).map _
  | pause context parameters =>
    refine Outcome.map ?_ _
    rcases hv with rfl | hl
    · exact .ok rfl trivial
    · obtain ⟨a, ha⟩ := d.adapters.live_iff.mp hl
      exact .ok (miniportPauseCallback_of_lookup ha) trivial
  | restart context parameters => exact (outcome_restart hv).map _
  | oidRequest context request => exact (outcome_oidRequest hv).map _
  | sendNetBufferLists context lists port flags => exact (outcome_send hcontext hv).map _
  | returnNetBufferLists context lists flags => exact (outcome_return hcontext hv).map _

/-- A valid entry completes if it is safe, and faults if it is not. -/
theorem outcome_of_valid (hrec : Recorded d)
    (hcontext : d.activeContext = nullptr ∨ d.miniports.Live d.activeContext) (hv : op.Valid d) :
    Outcome d op (step hdr d op) := by
  refine Outcome.map ?_ _
  cases op with
  | driverEntry object path answers =>
    refine Outcome.map ?_ _
    by_cases hp : answers.pool.address = nullptr
    · exact .ok (driverEntry_of_null hp) trivial
    · exact .ok (driverEntry_of_memory hp) trivial
  | constructMiniport this => exact .ok rfl trivial
  | destroyMiniport this =>
    obtain ⟨m, hm⟩ := d.miniports.live_iff.mp hv
    exact (outcome_destroy hrec hm).map _
  | registerWithNdis this object path answers =>
    obtain ⟨m, hm⟩ := d.miniports.live_iff.mp hv
    refine Outcome.map ?_ _
    rw [registerWithNdis, Heap.deref_of_lookup hm]
    exact .ok rfl trivial
  | miniportInitializeEx this parameters answers =>
    obtain ⟨hl, hparameters, -⟩ := hv
    obtain ⟨m, hm⟩ := d.miniports.live_iff.mp hl
    obtain ⟨parameters, rfl⟩ := Option.isSome_iff_exists.mp hparameters
    obtain ⟨status, d', h⟩ := miniportInitializeEx_completes hdr hm parameters answers
    exact .ok (withStatus_eq_ok.mpr ⟨status, rfl, h⟩) trivial
  | callback c => exact outcome_of_callback hrec hcontext hv

/-! ## Runs -/

/-- What the outcome of an entry depends on : the adapters are as recorded, and the context is
valid. -/
structure Accounted (d : Driver) : Prop where
  recorded : Recorded d
  tracked : Tracked d

theorem accounted_initial : Accounted .initial where
  recorded := recorded_initial
  tracked := rfl

theorem Accounted.step (hd : Accounted d) (hv : op.Valid d)
    (h : VirtualAX25.step hdr d op = .ok d') : Accounted d' where
  recorded := step_invariant (fun _ _ => Recorded.move) hv h hd.recorded
  tracked := step_invariant (fun _ _ => Tracked.move) hv h hd.tracked

theorem Accounted.outcome (hd : Accounted d) (hdr : NdisHeaders) (hv : op.Valid d) :
    Outcome d op (VirtualAX25.step hdr d op) := by
  refine outcome_of_valid hd.recorded ?_ hv
  rw [hd.tracked]
  exact expectedContext_valid d

/-- A valid run completes exactly if every entry it comes to is safe. -/
theorem completes_iff_safe (hdr : NdisHeaders) (ops : List Op)
    (hv : Runs.Along (step hdr) (fun d op => op.Valid d) .initial ops) :
    (∃ d, Runs.run (step hdr) .initial ops = .ok d) ↔
      Runs.Along (step hdr) (fun d op => op.Safe d) .initial ops := by
  refine Runs.run_completes_iff (fun d op hd hop hs => ?_) (fun d op hd hop hs => ?_) hv
    accounted_initial
  · rcases hd.outcome hdr hop with ⟨-, d', h⟩ | ⟨hnot, -⟩
    · exact ⟨d', h, hd.step hop h⟩
    · exact absurd hs hnot
  · rcases hd.outcome hdr hop with ⟨hsafe, -⟩ | ⟨-, e, h, -⟩
    · exact absurd hsafe hs
    · exact ⟨e, h⟩

theorem not_safe_unloadAfterHalt :
    ¬Runs.Along (step ndis620) (fun d op => op.Safe d) .initial unloadAfterHalt := by
  have hfault : Runs.run (step ndis620) .initial unloadAfterHalt = .error .danglingPointer := rfl
  intro hsafe
  obtain ⟨d, hrun⟩ := (completes_iff_safe ndis620 unloadAfterHalt (by decide)).mpr hsafe
  rw [hfault] at hrun
  cases hrun

/-- If a valid run comes upon a dangling pointer, the entry that does destroys a `Miniport`. A
slot in use of its table holds an address where no adapter is live, or that another slot holds
as well, and an adapter was halted there before. -/
theorem halted_of_dangling (hdr : NdisHeaders) (ops : List Op)
    (hv : Runs.Along (step hdr) (fun d op => op.Valid d) .initial ops)
    (h : Runs.run (step hdr) .initial ops = .error .danglingPointer) :
    ∃ pre op post d this m p, ops = pre ++ op :: post ∧
      Runs.run (step hdr) .initial pre = .ok d ∧ step hdr d op = .error .danglingPointer ∧
      op.Destroys d this ∧ d.miniports.lookup this = some m ∧ p ∈ m.pointers ∧ p ≠ nullptr ∧
      (d.adapters.Live p → 1 < m.pointers.count p) ∧ ∃ op' ∈ pre, op'.HaltsAt p := by
  obtain ⟨pre, op, post, d, rfl, hpre, hrun, hop, hstep⟩ := Runs.exists_of_run_eq_error hv h
  have hd : Accounted d :=
    ⟨recorded_of_visits hpre (.end hrun), tracked_of_visits hpre (.end hrun)⟩
  have hfault : op.CanFault d .danglingPointer := by
    rcases hd.outcome hdr hop with ⟨-, d', h'⟩ | ⟨-, e, h', he⟩
    · rw [hstep] at h'
      cases h'
    · rw [hstep] at h'
      rwa [Except.error.inj h']
  obtain ⟨this, m, hdestroys, hm, hsweep⟩ := hfault.resolve_left fun he => nomatch he
  obtain ⟨p, hp, h0, hcount⟩ := Heap.of_eraseAll_eq_dangling hsweep
  refine ⟨pre, op, post, d, this, m, p, rfl, hrun, hstep, hdestroys, hm, hp, h0, hcount, ?_⟩
  by_contra hhalts
  have hexclusive := exclusive_of_run hpre hrun h0 fun op' hop' hhalt =>
    hhalts ⟨op', hop', hhalt⟩
  have hlive := (isSome_ports d p).mp
    (hexclusive.up this ((claimsOn_ne_zero_iff d p this).mpr ⟨m, hm, hp⟩))
  have honce := hexclusive.once this
  have htwice := hcount hlive
  rw [claimsOn_memory hm] at honce
  omega

theorem halted_in_unloadAfterHalt :
    ∃ pre op post d p, unloadAfterHalt = pre ++ op :: post ∧
      Runs.run (step ndis620) .initial pre = .ok d ∧
      step ndis620 d op = .error .danglingPointer ∧ p ≠ nullptr ∧ ∃ op' ∈ pre, op'.HaltsAt p := by
  obtain ⟨pre, op, post, d, this, m, p, hops, hrun, hstep, -, -, -, h0, -, hhalts⟩ :=
    halted_of_dangling ndis620 unloadAfterHalt (by decide) rfl
  exact ⟨pre, op, post, d, p, hops, hrun, hstep, h0, hhalts⟩

end VirtualAX25
