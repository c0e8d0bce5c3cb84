import VirtualAX25.Steps
import VirtualAX25.Ledger

/-!
# The load and unload cycle

Three resources are taken in `DriverEntry` : a pool block for the `Miniport`, the tracing
session, and the registration with NDIS. They are accounted for in ledgers over the log.
A call of `DriverEntry` that fails and a return of the unload callback are exits; at an
exit everything should have been given back (`Released`).

No exit gives everything back. An allocation failure leaves tracing on
(`exchanged_of_null`), a registration failure leaves the `Miniport` in the pool and in
`activeContext` (`exchanged_of_failed`), and an unload stops neither tracing nor the
registration (`exchanged_of_unload`). So a run is balanced exactly when it reaches no exit
and loads at most once (`balanced_iff_no_exit`).
-/

namespace VirtualAX25

/-! ## Ledgers -/

/-- Pool blocks tagged for a `Miniport`. -/
def poolLedger : Ledger Event Pointer where
  takes
    | .exAllocatePoolWithTagPriority _ _ (.returned address) =>
      if address = nullptr then [] else [address]
    | _ => []
  gives
    | .exFreePoolWithTag pointer _ => [pointer]
    | _ => []

/-- The tracing session. -/
def tracingLedger : Ledger Event Unit where
  takes
    | .wppInitTracing _ _ => [()]
    | _ => []
  gives
    | .wppCleanup _ => [()]
    | _ => []

/-- Registrations with NDIS, by handle. -/
def registrationLedger : Ledger Event NdisHandle where
  takes
    | .ndisMRegisterMiniportDriver _ _ _ _ answers =>
      if ntSuccess answers.status then [answers.handle] else []
    | _ => []
  gives
    | .ndisMDeregisterMiniportDriver handle => [handle]
    | _ => []

/-! ## Runs and what is asked of them -/

/-- `DriverEntry` and the unload callback. -/
def Op.IsLoad : Op → Prop
  | .driverEntry _ _ _ => True
  | .callback (.driverUnload _) => True
  | _ => False

/-- Some `DriverEntry` has returned a success status. -/
def Driver.Loaded (d : Driver) : Prop :=
  ∃ object path answers status,
    Event.returned (.driverEntry object path answers) (some status) ∈ d.log ∧
      ntSuccess status = true

/-- The pool hands out fresh memory, and an unload follows a successful `DriverEntry`. -/
def LoadValid (d : Driver) (op : Op) : Prop :=
  op.IsLoad ∧ op.Valid d ∧ ∀ object, op = .callback (.driverUnload object) → d.Loaded

/-- A failed `DriverEntry` or an unload returned. -/
def Event.IsExit : Event → Prop
  | .returned (.driverEntry _ _ _) (some status) => ntSuccess status = false
  | .returned (.callback (.driverUnload _)) _ => True
  | _ => False

/-- The last thing that happened is an exit. -/
def Driver.AtExit (d : Driver) : Prop :=
  match d.log with
  | [] => False
  | e :: _ => e.IsExit

/-- Everything taken was given back. The ledgers run over all cycles so far : if the
exits before this one gave everything back, they are those of this cycle. -/
structure Released (d : Driver) : Prop where
  pool : poolLedger.Settled d.log
  context : d.activeContext = nullptr
  tracing : tracingLedger.Settled d.log
  registration : registrationLedger.Settled d.log

/-- At most one `Miniport` is live, and at an exit everything was given back. -/
def Balanced (d : Driver) : Prop :=
  d.miniports.addresses.length ≤ 1 ∧ (d.AtExit → Released d)

/-! ## Unloading -/

/-- The driver after an unload with no adapter in the table. -/
def unloaded (d : Driver) : Driver :=
  if d.activeContext = nullptr then d
  else Miniport.operatorDelete (Miniport.dying d d.activeContext) d.activeContext

variable {hdr : NdisHeaders} {d d' : Driver} {op : Op} {driverObject registryPath : Pointer}
  {answers : EntryAnswers}

theorem unload_of_unused (hcontext : d.activeContext = nullptr ∨ d.miniports.Live d.activeContext)
    (hunused : ∀ p m, d.miniports.lookup p = some m → ∀ i, (m.adapters i).inUse = false) :
    Miniport.miniportDriverUnloadCallback d driverObject = .ok (unloaded d) := by
  unfold Miniport.miniportDriverUnloadCallback Miniport.delete unloaded
  by_cases hc : d.activeContext = nullptr
  · rw [if_pos hc, if_pos hc]
  · obtain ⟨m, hm⟩ := d.miniports.live_iff.mp (hcontext.resolve_left hc)
    rw [if_neg hc, if_neg hc, Miniport.destructor_of_lookup hm,
      Miniport.destroyAdapters_of_unused fun i _ => hunused _ m hm i]
    rfl

theorem lookup_unloaded {p : Pointer} {m : Miniport}
    (h : (unloaded d).miniports.lookup p = some m) : d.miniports.lookup p = some m := by
  unfold unloaded Miniport.operatorDelete at h
  split_ifs at h with hc
  · exact h
  · have hp : p ≠ d.activeContext := by
      rintro rfl
      simp [Miniport.dying] at h
    simpa [Miniport.dying, Heap.lookup_erase_of_ne _ hp] using h

theorem activeContext_unloaded (d : Driver) : (unloaded d).activeContext = nullptr := by
  unfold unloaded
  split_ifs with hc
  · exact hc
  · simp [Miniport.operatorDelete, hc, Miniport.dying]

/-! ## The invariant of load runs -/

/-- Tables stay empty and `activeContext` valid; tracing was started at least as often as
it was stopped, and more often once the driver is loaded; no exit gave everything back. -/
structure LoadInv (d : Driver) : Prop where
  context : d.activeContext = nullptr ∨ d.miniports.Live d.activeContext
  unused : ∀ p m, d.miniports.lookup p = some m → ∀ i, (m.adapters i).inUse = false
  given_le : tracingLedger.given d.log () ≤ tracingLedger.taken d.log ()
  given_lt : d.Loaded → tracingLedger.given d.log () < tracingLedger.taken d.log ()
  exits : d.AtExit → ¬Released d

theorem loadInv_initial : LoadInv .initial where
  context := Or.inl rfl
  unused p m h := by simp [Driver.initial] at h
  given_le := le_refl _
  given_lt := by
    rintro ⟨object, path, answers, status, h, -⟩
    simp [Driver.initial] at h
  exits h := absurd h id

/-- Nothing but the return of a successful `DriverEntry` loads the driver. -/
theorem loaded_cons {e : Event} {log : List Event} (hlog : d'.log = e :: log)
    (he : ∀ object path answers status,
      e = .returned (.driverEntry object path answers) (some status) → ntSuccess status = false)
    (h : d'.Loaded) : ∃ object path answers status,
      Event.returned (.driverEntry object path answers) (some status) ∈ log ∧
        ntSuccess status = true := by
  obtain ⟨object, path, answers, status, hmem, hs⟩ := h
  rw [hlog] at hmem
  rcases List.mem_cons.mp hmem with heq | hmem
  · rw [he _ _ _ _ heq.symm] at hs
    cases hs
  · exact ⟨object, path, answers, status, hmem, hs⟩

theorem step_unload (hd : LoadInv d) :
    step hdr d (.callback (.driverUnload driverObject)) =
      .ok ((unloaded d).record (.returned (.callback (.driverUnload driverObject)) none)) :=
  step_of_call (noStatus_eq_ok.mpr ⟨rfl, unload_of_unused hd.context hd.unused⟩)

/-- Whatever the answers, a registered or failing `Miniport` starts with an unused
table. -/
theorem unused_withMiniport (hd : LoadInv d) {p : Pointer} (hp : p ≠ nullptr) :
    ∀ q m, (withMiniport hdr d driverObject registryPath p answers).miniports.lookup q =
      some m → ∀ i, (m.adapters i).inUse = false := by
  intro q m hq i
  by_cases hqp : q = p
  · subst hqp
    rw [withMiniport, Heap.lookup_store_self _ hp] at hq
    obtain rfl := Option.some.inj hq
    rfl
  · rw [withMiniport, Heap.lookup_store_of_ne _ hqp] at hq
    exact hd.unused q m hq i

/-! ## What an entry takes and gives back -/

/-- Units of the three resources. -/
structure Resources where
  pool : List Pointer := []
  tracing : List Unit := []
  registration : List NdisHandle := []

/-- From `d` to `d'` the driver took `taken`, and gave `given` back. -/
structure Exchanged (d d' : Driver) (taken given : Resources) : Prop where
  pool : poolLedger.Moved d.log d'.log taken.pool given.pool
  tracing : tracingLedger.Moved d.log d'.log taken.tracing given.tracing
  registration : registrationLedger.Moved d.log d'.log taken.registration given.registration

theorem poolLedger_takes_answer (size : ℕ) (tag : UInt32) : ∀ answer : PoolAnswer,
    poolLedger.takes (.exAllocatePoolWithTagPriority size tag answer) =
      if answer.address = nullptr then [] else [answer.address]
  | .returned _ => rfl
  | .raised _ => (if_pos rfl).symm

/-- A load that gets no memory leaves tracing started. -/
theorem exchanged_of_null (hp : answers.pool.address = nullptr)
    (h : step hdr d (.driverEntry driverObject registryPath answers) = .ok d') :
    Exchanged d d' { tracing := [()] } {} := by
  rw [step_driverEntry_null hp] at h
  obtain rfl := Except.ok.inj h
  have hpool := poolLedger_takes_answer hdr.sizeofMiniport Miniport.miniportTag answers.pool
  rw [if_pos hp] at hpool
  exact
    { pool := .of_append [_, _, _] rfl (congrArg (· ++ []) hpool) rfl
      tracing := .of_append [_, _, _] rfl rfl rfl
      registration := .of_append [_, _, _] rfl rfl rfl }

/-- A load that is not registered stops tracing, and leaves its `Miniport` in the pool. -/
theorem exchanged_of_failed (hp : answers.pool.address ≠ nullptr)
    (hs : ntSuccess answers.register.status = false)
    (h : step hdr d (.driverEntry driverObject registryPath answers) = .ok d') :
    Exchanged d d' { pool := [answers.pool.address], tracing := [()] } { tracing := [()] } := by
  rw [step_driverEntry_failed hp hs] at h
  obtain rfl := Except.ok.inj h
  have hpool := poolLedger_takes_answer hdr.sizeofMiniport Miniport.miniportTag answers.pool
  rw [if_neg hp] at hpool
  have hregister : registrationLedger.takes (.ndisMRegisterMiniportDriver driverObject registryPath
      answers.pool.address (Miniport.characteristics hdr) answers.register) = [] :=
    if_neg (Bool.eq_false_iff.mp hs)
  exact
    { pool := .of_append [_, _, _, _, _, _] rfl (congrArg (· ++ []) hpool) rfl
      tracing := .of_append [_, _, _, _, _, _] rfl rfl rfl
      registration := .of_append [_, _, _, _, _, _] rfl (congrArg (· ++ []) hregister) rfl }

/-- A load that succeeds has a `Miniport`, tracing and a registration. -/
theorem exchanged_of_succeeded (hs : answers.Succeed)
    (h : step hdr d (.driverEntry driverObject registryPath answers) = .ok d') :
    Exchanged d d'
      { pool := [answers.pool.address], tracing := [()]
        registration := [answers.register.handle] } {} := by
  rw [step_driverEntry_succeeded hs] at h
  obtain rfl := Except.ok.inj h
  have hpool := poolLedger_takes_answer hdr.sizeofMiniport Miniport.miniportTag answers.pool
  rw [if_neg hs.1] at hpool
  have hregister : registrationLedger.takes (.ndisMRegisterMiniportDriver driverObject registryPath
      answers.pool.address (Miniport.characteristics hdr) answers.register) =
      [answers.register.handle] := if_pos hs.2
  exact
    { pool := .of_append [_, _, _, _, _] rfl (congrArg (· ++ []) hpool) rfl
      tracing := .of_append [_, _, _, _, _] rfl rfl rfl
      registration := .of_append [_, _, _, _, _] rfl (congrArg (· ++ []) hregister) rfl }

/-- An unload gives back the active `Miniport` and nothing else. -/
theorem exchanged_of_unload (hd : LoadInv d)
    (h : step hdr d (.callback (.driverUnload driverObject)) = .ok d') :
    Exchanged d d' {} { pool := if d.activeContext = nullptr then [] else [d.activeContext] } := by
  rw [step_unload hd] at h
  obtain rfl := Except.ok.inj h
  by_cases hc : d.activeContext = nullptr
  · rw [if_pos hc, unloaded, if_pos hc]
    exact
      { pool := .of_append [_] rfl rfl rfl
        tracing := .of_append [_] rfl rfl rfl
        registration := .of_append [_] rfl rfl rfl }
  · rw [if_neg hc, unloaded, if_neg hc, Miniport.operatorDelete, if_pos hc]
    exact
      { pool := .of_append [_, _, _] rfl rfl rfl
        tracing := .of_append [_, _, _] rfl rfl rfl
        registration := .of_append [_, _, _] rfl rfl rfl }

/-! ## The step lemma -/

/-- While tracing is on, the invariant is about the rest of the driver only. -/
theorem LoadInv.of_lt (hcontext : d.activeContext = nullptr ∨ d.miniports.Live d.activeContext)
    (hunused : ∀ p m, d.miniports.lookup p = some m → ∀ i, (m.adapters i).inUse = false)
    (hlt : tracingLedger.given d.log () < tracingLedger.taken d.log ()) : LoadInv d where
  context := hcontext
  unused := hunused
  given_le := hlt.le
  given_lt _ := hlt
  exits _ hr := absurd (hr.tracing ()) hlt.ne'

/-- A `DriverEntry` completes and keeps the invariant, and is an exit unless it
succeeds. -/
theorem LoadInv.step_driverEntry (hd : LoadInv d) :
    ∃ d', step hdr d (.driverEntry driverObject registryPath answers) = .ok d' ∧ LoadInv d' ∧
      (d'.AtExit ∨ answers.Succeed) := by
  have hle := hd.given_le
  by_cases hp : answers.pool.address = nullptr
  · have h := @step_driverEntry_null hdr d driverObject registryPath answers hp
    have htaken := (exchanged_of_null hp h).tracing.taken ()
    have hgiven := (exchanged_of_null hp h).tracing.given ()
    simp only [List.count_singleton_self, List.count_nil] at htaken hgiven
    exact ⟨_, h, .of_lt hd.context hd.unused (by omega), Or.inl rfl⟩
  · have hcontext : ∀ m, (d.miniports.store answers.pool.address m).Live answers.pool.address :=
      fun m => (Heap.live_store hp).mpr (Or.inl rfl)
    have hunused := @unused_withMiniport hdr d driverObject registryPath answers hd _ hp
    cases hs : ntSuccess answers.register.status with
    | true =>
      have h := @step_driverEntry_succeeded hdr d driverObject registryPath answers ⟨hp, hs⟩
      have htaken := (exchanged_of_succeeded ⟨hp, hs⟩ h).tracing.taken ()
      have hgiven := (exchanged_of_succeeded ⟨hp, hs⟩ h).tracing.given ()
      simp only [List.count_singleton_self, List.count_nil] at htaken hgiven
      exact ⟨_, h, .of_lt (Or.inr (hcontext _)) hunused (by omega), Or.inr ⟨hp, hs⟩⟩
    | false =>
      have h := @step_driverEntry_failed hdr d driverObject registryPath answers hp hs
      have htaken := (exchanged_of_failed hp hs h).tracing.taken ()
      have hgiven := (exchanged_of_failed hp hs h).tracing.given ()
      simp only [List.count_singleton_self] at htaken hgiven
      refine ⟨_, h, ?_, Or.inl hs⟩
      exact
        { context := Or.inr (hcontext _)
          unused := hunused
          given_le := by omega
          given_lt := fun hloaded => by
            obtain ⟨o, q, a, s, hmem, hss⟩ := loaded_cons rfl
              (fun _ _ _ _ heq => by cases heq; exact hs) hloaded
            have hlt := hd.given_lt ⟨o, q, a, s, by simpa [withMiniport] using hmem, hss⟩
            omega
          exits := fun _ hr => hp hr.context }

/-- An unload of a loaded driver completes and keeps the invariant. -/
theorem LoadInv.step_driverUnload (hd : LoadInv d) (hloaded : d.Loaded) :
    ∃ d', step hdr d (.callback (.driverUnload driverObject)) = .ok d' ∧ LoadInv d' ∧
      d'.AtExit := by
  have h := @step_unload hdr d driverObject hd
  have hlt := hd.given_lt hloaded
  have htaken := (exchanged_of_unload hd h).tracing.taken ()
  have hgiven := (exchanged_of_unload hd h).tracing.given ()
  simp only [List.count_nil] at htaken hgiven
  exact ⟨_, h, .of_lt (Or.inl (activeContext_unloaded d))
    (fun p m hm => hd.unused p m (lookup_unloaded hm)) (by omega), trivial⟩

/-- The step lemma : a load step completes and keeps the invariant, and one that is not
an exit is a `DriverEntry` that succeeds. -/
theorem LoadInv.step (hd : LoadInv d) (hv : LoadValid d op) :
    ∃ d', VirtualAX25.step hdr d op = .ok d' ∧ LoadInv d' ∧
      (d'.AtExit ∨ ∃ driverObject registryPath answers,
        op = .driverEntry driverObject registryPath answers ∧ answers.Succeed) := by
  obtain ⟨hload, -, hunload⟩ := hv
  cases op with
  | driverEntry object path answers =>
    obtain ⟨d', h, hd', hexit | hs⟩ := hd.step_driverEntry
    · exact ⟨d', h, hd', Or.inl hexit⟩
    · exact ⟨d', h, hd', Or.inr ⟨_, _, _, rfl, hs⟩⟩
  | callback c =>
    cases c with
    | driverUnload object =>
      obtain ⟨d', h, hd', hexit⟩ := hd.step_driverUnload (hunload object rfl)
      exact ⟨d', h, hd', Or.inl hexit⟩
    | _ => exact absurd hload id
  | _ => exact absurd hload id

/-! ## Runs -/

/-- A load that succeeds has one `Miniport` more. -/
theorem addresses_of_succeeded (hs : answers.Succeed) (hf : answers.pool.Fresh d)
    (h : step hdr d (.driverEntry driverObject registryPath answers) = .ok d') :
    d'.miniports.addresses = answers.pool.address :: d.miniports.addresses := by
  rw [step_driverEntry_succeeded hs] at h
  obtain rfl := Except.ok.inj h
  exact Heap.addresses_store_of_not_live hs.1 (PoolAnswer.not_live_of_fresh hf hs.1)

/-- If a run is balanced, its first entry is a `DriverEntry` that succeeds. -/
theorem succeeds_of_balanced {ops : List Op} (hd : LoadInv d) (hv : LoadValid d op)
    (hall : ∀ t, Runs.Visits (step hdr) d (op :: ops) t → Balanced t) :
    ∃ object path answers, op = .driverEntry object path answers ∧ answers.Succeed := by
  obtain ⟨d', h, hd', hexit | hs⟩ := hd.step hv
  · have hbalanced := hall d' (Or.inr ⟨d', h, Runs.Visits.start ops d'⟩)
    exact absurd (hbalanced.2 hexit) (hd'.exits hexit)
  · exact hs

/-- If a run is balanced, it has at most one entry : a second would have to be a load that
succeeds, and two objects would be live. -/
theorem single_of_balanced {ops : List Op} (hd : LoadInv d)
    (hv : Runs.Along (step hdr) LoadValid d ops)
    (hall : ∀ t, Runs.Visits (step hdr) d ops t → Balanced t) :
    ops = [] ∨ ∃ driverObject registryPath answers,
      ops = [.driverEntry driverObject registryPath answers] ∧ answers.Succeed := by
  cases ops with
  | nil => exact Or.inl rfl
  | cons op ops =>
    obtain ⟨object, path, answers, rfl, hs⟩ := succeeds_of_balanced hd hv.1 hall
    refine Or.inr ⟨object, path, answers, ?_, hs⟩
    cases ops with
    | nil => rfl
    | cons op₂ ops =>
      exfalso
      obtain ⟨d₁, h₁, hd₁, -⟩ := @LoadInv.step hdr _ _ hd hv.1
      have hv₂ := hv.2 d₁ h₁
      have hall₂ : ∀ t, Runs.Visits (step hdr) d₁ (op₂ :: ops) t → Balanced t :=
        fun t ht => hall t (Or.inr ⟨d₁, h₁, ht⟩)
      obtain ⟨object₂, path₂, answers₂, rfl, hs₂⟩ := succeeds_of_balanced hd₁ hv₂.1 hall₂
      obtain ⟨d₂, h₂, -⟩ := @LoadInv.step hdr _ _ hd₁ hv₂.1
      have hle := (hall₂ d₂ (Or.inr ⟨d₂, h₂, Runs.Visits.start ops d₂⟩)).1
      rw [addresses_of_succeeded hs₂ hv₂.1.2.1 h₂, addresses_of_succeeded hs hv.1.2.1 h₁] at hle
      simp at hle

/-- One load that succeeds is balanced : it reaches no exit. -/
theorem balanced_of_single (hs : answers.Succeed) (hd : Runs.Visits (step hdr) .initial
    [.driverEntry driverObject registryPath answers] d) : Balanced d := by
  rcases hd with rfl | ⟨d', h, rfl⟩
  · exact ⟨Nat.zero_le _, fun h => absurd h id⟩
  · have haddresses := addresses_of_succeeded hs (PoolAnswer.fresh_initial answers.pool) h
    rw [step_driverEntry_succeeded hs] at h
    obtain rfl := Except.ok.inj h
    refine ⟨haddresses ▸ Nat.le_refl 1, fun hexit => ?_⟩
    have hfailed : ntSuccess answers.register.status = false := hexit
    rw [hs.2] at hfailed
    cases hfailed

/-- A sequence of `DriverEntry` and unload calls keeps at most one `Miniport` live and
gives everything back at every exit exactly when it has no exit : it is empty, or one
`DriverEntry` that succeeds. -/
theorem balanced_iff_no_exit (hdr : NdisHeaders) (ops : List Op)
    (hv : Runs.Along (step hdr) LoadValid .initial ops) :
    (∀ d, Runs.Visits (step hdr) .initial ops d → Balanced d) ↔
      ops = [] ∨ ∃ driverObject registryPath answers,
        ops = [.driverEntry driverObject registryPath answers] ∧ answers.Succeed := by
  refine ⟨single_of_balanced loadInv_initial hv, ?_⟩
  rintro (rfl | ⟨object, path, answers, rfl, hs⟩) d hd
  · obtain rfl := hd
    exact ⟨Nat.zero_le _, fun h => absurd h id⟩
  · exact balanced_of_single hs hd

theorem balanced_of_load :
    ∃ d, Runs.run (step ndis620) .initial [load] = .ok d ∧ d.miniports.Live d.activeContext ∧
      Balanced d :=
  ⟨_, rfl, by decide, (balanced_iff_no_exit ndis620 [load]
    ⟨⟨trivial, Heap.not_live_empty _, fun _ h => nomatch h⟩, fun _ _ => trivial⟩).mpr
    (Or.inr ⟨_, _, _, rfl, by decide, rfl⟩) _ (Runs.Visits.end rfl)⟩

/-- A load that NDIS refuses to register. -/
def refusedLoad : Op :=
  .driverEntry 0x100 0x200
    { pool := .returned 0x1000, register := { status := ndisStatusFailure, handle := nullptr } }

/-- A refused load returns with its `Miniport` live and in `activeContext`; a load and an
unload return with tracing started and the registration held. -/
theorem not_balanced_after_exits :
    (Runs.Along (step ndis620) LoadValid .initial [refusedLoad] ∧
      ∃ d, Runs.run (step ndis620) .initial [refusedLoad] = .ok d ∧ ¬Balanced d ∧
        d.activeContext = 0x1000 ∧ d.miniports.Live 0x1000) ∧
    (Runs.Along (step ndis620) LoadValid .initial [load, .callback (.driverUnload 0x100)] ∧
      ∃ d, Runs.run (step ndis620) .initial [load, .callback (.driverUnload 0x100)] = .ok d ∧
        ¬Balanced d ∧ tracingLedger.taken d.log () = 1 ∧ tracingLedger.given d.log () = 0 ∧
        registrationLedger.taken d.log 0x2000 = 1 ∧
        registrationLedger.given d.log 0x2000 = 0) := by
  refine ⟨⟨⟨⟨trivial, Heap.not_live_empty _, fun _ h => nomatch h⟩, fun _ _ => trivial⟩,
    _, rfl, fun hb => ?_, rfl, by decide⟩, ?_, _, rfl, fun hb => ?_, rfl, rfl, rfl, rfl⟩
  · exact absurd (hb.2 rfl).context (by decide)
  · have hload : step ndis620 .initial load = .ok _ := rfl
    rw [Runs.along_cons_of_ok hload]
    refine ⟨⟨trivial, Heap.not_live_empty _, fun _ h => nomatch h⟩, ⟨trivial, trivial, ?_⟩,
      fun _ _ => trivial⟩
    exact fun _ _ => ⟨_, _, _, _, List.mem_cons_self, rfl⟩
  · exact absurd ((hb.2 trivial).tracing ()) (by decide)

end VirtualAX25
