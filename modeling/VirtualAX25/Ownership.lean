import VirtualAX25.Table

/-!
# Who frees an adapter

Adapters are freed in two places : the halt callback frees its own, and the destructor of
`Miniport` sweeps the slots in use. A cycle loads the driver, brings adapters up and
halts them in any order, and unloads.

The live adapters are always among the pointers of the slots in use, and `Cycle` counts
the slots that hold no live adapter : one more for each halt, which leaves its slot in
use, and one more for each initialisation refused a block, whose slot holds null
(`Cycle.step`). The sweep completes exactly when that count is zero
(`Cycle.valid_iff`), so a cycle frees every block once exactly when it never halts and no
initialisation that finds a slot is refused a block (`freedOnce_iff_keeps`).
-/

namespace VirtualAX25

open Miniport

/-! ## Cycles -/

/-- An initialisation that was answered with the block at `p` returned success. -/
def Event.initialises (p : Pointer) : Event → Bool
  | .returned (.miniportInitializeEx _ _ answers) (some status) =>
    answers.block.address == p && status == ndisStatusSuccess
  | _ => false

/-- The adapter at `p` is live, and its initialisation returned success. -/
def Initialised (d : Driver) (p : Pointer) : Prop :=
  d.adapters.Live p ∧ (sinceAllocation p d.log).any (Event.initialises p) = true

instance (d : Driver) (p : Pointer) : Decidable (Initialised d p) :=
  inferInstanceAs (Decidable (_ ∧ _))

/-- Between load and unload : initialisations of the `Miniport` with any answers, and halts
of live adapters whose initialisation succeeded. -/
def CycleValid (this : Pointer) (d : Driver) : Op → Prop
  | .miniportInitializeEx this' parameters answers =>
    this' = this ∧ parameters.isSome ∧ answers.block.Fresh d
  | .callback (.haltEx p _) => Initialised d p
  | _ => False

instance (this : Pointer) (d : Driver) : (op : Op) → Decidable (CycleValid this d op)
  | .miniportInitializeEx .. => inferInstanceAs (Decidable (_ ∧ _))
  | .callback (.haltEx p _) => inferInstanceAs (Decidable (Initialised d p))
  | .callback (.initializeEx ..) | .callback (.driverUnload _) | .callback (.pause ..)
  | .callback (.restart ..) | .callback (.oidRequest ..) | .callback (.sendNetBufferLists ..)
  | .callback (.returnNetBufferLists ..) | .driverEntry .. | .constructMiniport _
  | .destroyMiniport _ | .registerWithNdis .. => isFalse id

/-- The entry is no halt, and an initialisation that finds a free slot gets a block. -/
def Keeps (d : Driver) : Op → Prop
  | .miniportInitializeEx this _ answers =>
    ∀ m ∈ d.miniports.lookup this, m.Full ∨ ¬m.Refused answers
  | .callback (.haltEx _ _) => False
  | _ => True

instance (d : Driver) : (op : Op) → Decidable (Keeps d op)
  | .miniportInitializeEx .. => inferInstanceAs (Decidable (∀ m ∈ d.miniports.lookup _, _))
  | .callback (.haltEx ..) => isFalse id
  | .callback (.initializeEx ..) | .callback (.driverUnload _) | .callback (.pause ..)
  | .callback (.restart ..) | .callback (.oidRequest ..) | .callback (.sendNetBufferLists ..)
  | .callback (.returnNetBufferLists ..) | .driverEntry .. | .constructMiniport _
  | .destroyMiniport _ | .registerWithNdis .. => isTrue trivial

/-- The run completes, and every block was freed as often as it was allocated. -/
def FreedOnce (hdr : NdisHeaders) (ops : List Op) : Prop :=
  ∃ d, Runs.run (step hdr) .initial ops = .ok d ∧ adapterLedger.Settled d.log ∧
    d.adapters.addresses = []

variable {hdr : NdisHeaders} {d d' : Driver} {this p : Pointer} {op : Op} {m : Miniport}
  {lost : ℕ}

/-! ## The invariant -/

/-- The live adapters are among the pointers of the slots in use, and `lost` of the slots
are left over. -/
structure Covers (d : Driver) (m : Miniport) (lost : ℕ) : Prop where
  live : ∀ p, d.adapters.Live p → p ∈ m.pointers
  count : m.pointers.length = d.adapters.addresses.length + lost

/-- The sweep of the table finds distinct live adapters exactly when no slot is left
over. -/
theorem Covers.valid_iff (h : Covers d m lost) : m.Valid d ↔ lost = 0 := by
  have hcount := h.count
  constructor
  · intro hv
    have hle := (List.subperm_of_subset hv.1 hv.2).length_le
    omega
  · intro hlost
    have hsub := List.subperm_of_subset d.adapters.nodup_addresses h.live
    have hperm : d.adapters.addresses.Perm m.pointers :=
      hsub.perm_of_length_le (by omega)
    exact ⟨hperm.nodup d.adapters.nodup_addresses, fun p hp => hperm.symm.subset hp⟩

/-- The driver between load and unload. -/
structure Cycle (this : Pointer) (lost : ℕ) (d : Driver) : Prop where
  recorded : Recorded d
  conserved : Conserved d
  context : d.activeContext = this
  table : ∃ m, d.miniports.lookup this = some m ∧ Covers d m lost

/-- The part of the invariant about the table is enough for a step : the rest is kept by
every entry. -/
theorem Cycle.of_step (h : Cycle this lost d) (hv : op.Valid d) (hstep : step hdr d op = .ok d')
    {lost' : ℕ} (hcontext : d'.activeContext = d.activeContext)
    (htable : ∃ m, d'.miniports.lookup this = some m ∧ Covers d' m lost') :
    Cycle this lost' d' where
  recorded := step_invariant (fun _ _ => Recorded.move) hv hstep h.recorded
  conserved := step_invariant (fun _ _ => Conserved.move) hv hstep h.conserved
  context := hcontext.trans h.context
  table := htable

theorem Covers.refused {i : Fin 16} (h : Covers d m lost) (hi : m.FirstFree i)
    (parameters : InitParameters) :
    Covers d (m.setSlot i (claimed nullptr parameters)) (lost + 1) where
  live p hp := (pointers_setSlot hi nullptr parameters).symm.subset
    (List.mem_cons_of_mem _ (h.live p hp))
  count := by
    have hlength := (pointers_setSlot hi nullptr parameters).length_eq
    have hcount := h.count
    rw [List.length_cons] at hlength
    omega

theorem Covers.built {i : Fin 16} (h : Covers d m lost) (hi : m.FirstFree i)
    {address : Pointer} (parameters : InitParameters) (h0 : address ≠ nullptr)
    (hf : ¬d.adapters.Live address) {a : AX25Adapter}
    (hd' : d'.adapters = d.adapters.store address a) :
    Covers d' (m.setSlot i (claimed address parameters)) lost where
  live p hp := by
    rw [hd', Heap.live_store h0] at hp
    refine (pointers_setSlot hi address parameters).symm.subset ?_
    rcases hp with rfl | hp
    · exact List.mem_cons_self
    · exact List.mem_cons_of_mem _ (h.live p hp)
  count := by
    have hlength := (pointers_setSlot hi address parameters).length_eq
    have hcount := h.count
    rw [List.length_cons] at hlength
    rw [hlength, hd', Heap.addresses_store_of_not_live h0 hf, List.length_cons]
    omega

theorem Covers.halted (h : Covers d m lost) (hp : d.adapters.Live p)
    (hd' : d'.adapters = d.adapters.erase p) : Covers d' m (lost + 1) where
  live q hq := by
    rw [hd', Heap.live_erase] at hq
    exact h.live q hq.2
  count := by
    have hcount := h.count
    have herase := Heap.length_addresses_erase hp
    rw [hd']
    omega

/-- An initialisation leaves a slot over exactly if it claims one and gets no block. -/
theorem Cycle.initialise {parameters : InitParameters} {answers : InitAnswers}
    (hd : Cycle this lost d) (hf : answers.block.Fresh d)
    (hop : op = .miniportInitializeEx this (some parameters) answers) :
    ∃ d', VirtualAX25.step hdr d op = .ok d' ∧
      ((Keeps d op ∧ Cycle this lost d') ∨ (¬Keeps d op ∧ Cycle this (lost + 1) d')) := by
  subst hop
  obtain ⟨m, hm, hcovers⟩ := hd.table
  have h0 := Heap.ne_null_of_lookup hm
  have hvalid : (Op.miniportInitializeEx this (some parameters) answers).Valid d :=
    ⟨Heap.live_of_lookup hm, rfl, hf⟩
  have hkeeps : Keeps d (.miniportInitializeEx this (some parameters) answers) ↔
      m.Full ∨ ¬m.Refused answers := by
    simp [Keeps, hm]
  rw [hkeeps]
  rcases m.full_or_firstFree with hfull | ⟨i, hi⟩
  · have hstep : VirtualAX25.step hdr d (.miniportInitializeEx this (some parameters) answers) =
        .ok _ := step_miniportInitializeEx (miniportInitializeEx_full hm hfull _)
    have htable := hd.of_step hvalid hstep rfl ⟨m, hm, hcovers.live, hcovers.count⟩
    exact ⟨_, hstep, Or.inl ⟨Or.inl hfull, htable⟩⟩
  · by_cases hr : m.Refused answers
    · have hstep : VirtualAX25.step hdr d (.miniportInitializeEx this (some parameters)
          answers) = .ok _ := step_miniportInitializeEx (miniportInitializeEx_refused hm hi hr)
      have hrefused := hcovers.refused hi parameters
      have htable := hd.of_step hvalid hstep rfl
        ⟨_, Heap.lookup_store_self _ h0, hrefused.live, hrefused.count⟩
      exact ⟨_, hstep, Or.inr ⟨not_or.mpr ⟨hi.not_full, not_not.mpr hr⟩, htable⟩⟩
    · have hstep : VirtualAX25.step hdr d (.miniportInitializeEx this (some parameters)
          answers) = .ok _ := step_miniportInitializeEx (miniportInitializeEx_built hm hi hr)
      have htable := hd.of_step hvalid hstep rfl
        ⟨_, Heap.lookup_store_self _ h0, hcovers.built hi parameters (not_or.mp hr).2 hf rfl⟩
      exact ⟨_, hstep, Or.inl ⟨Or.inr hr, htable⟩⟩

/-- A halt leaves the slot of its adapter over. -/
theorem Cycle.halt {action : UInt32} (hd : Cycle this lost d) (hp : d.adapters.Live p) :
    ∃ d', VirtualAX25.step hdr d (.callback (.haltEx p action)) = .ok d' ∧
      Cycle this (lost + 1) d' := by
  obtain ⟨a, ha⟩ := d.adapters.live_iff.mp hp
  obtain ⟨m, hm, hcovers⟩ := hd.table
  have hvalid : (Op.callback (.haltEx p action)).Valid d := Or.inr hp
  have hstep : VirtualAX25.step hdr d (.callback (.haltEx p action)) = .ok _ :=
    step_halt ha (hd.recorded p a ha).handle
  exact ⟨_, hstep, hd.of_step hvalid hstep rfl ⟨m, hm, hcovers.halted hp rfl⟩⟩

/-- The step lemma : an entry of a cycle completes, and one slot more is left over exactly
if the entry does not keep the table. -/
theorem Cycle.step (hd : Cycle this lost d) (hv : CycleValid this d op) :
    ∃ d', VirtualAX25.step hdr d op = .ok d' ∧
      ((Keeps d op ∧ Cycle this lost d') ∨ (¬Keeps d op ∧ Cycle this (lost + 1) d')) := by
  cases op with
  | miniportInitializeEx this' parameters answers =>
    obtain ⟨rfl, hparameters, hf⟩ := hv
    obtain ⟨parameters, rfl⟩ := Option.isSome_iff_exists.mp hparameters
    exact hd.initialise hf rfl
  | callback c =>
    cases c with
    | haltEx p action =>
      obtain ⟨d', h, hd'⟩ := @Cycle.halt hdr d this p lost action hd hv.1
      exact ⟨d', h, Or.inr ⟨id, hd'⟩⟩
    | _ => exact absurd hv id
  | _ => exact absurd hv id

/-- The run lemma : no slot is left over after a run exactly if none was before and every
entry kept the table. -/
theorem Cycle.run : ∀ {ops : List Op} {lost : ℕ} {d : Driver}, Cycle this lost d →
    Runs.Along (VirtualAX25.step hdr) (CycleValid this) d ops →
    ∃ d' lost', Runs.run (VirtualAX25.step hdr) d ops = .ok d' ∧ Cycle this lost' d' ∧
      (lost' = 0 ↔ lost = 0 ∧ Runs.Along (VirtualAX25.step hdr) Keeps d ops)
  | [], lost, d, hd, _ => ⟨d, lost, rfl, hd, by simp [Runs.Along]⟩
  | op :: ops, lost, d, hd, hv => by
    obtain ⟨d₁, h₁, hcases⟩ := @Cycle.step hdr d this op lost hd hv.1
    rw [Runs.along_cons_of_ok h₁] at hv ⊢
    rcases hcases with ⟨hkeeps, hd₁⟩ | ⟨hkeeps, hd₁⟩
    · obtain ⟨d', lost', h', hd', hlost⟩ := hd₁.run hv.2
      refine ⟨d', lost', Runs.run_cons_ok.mpr ⟨d₁, h₁, h'⟩, hd', hlost.trans ?_⟩
      simp [hkeeps]
    · obtain ⟨d', lost', h', hd', hlost⟩ := hd₁.run hv.2
      refine ⟨d', lost', Runs.run_cons_ok.mpr ⟨d₁, h₁, h'⟩, hd', hlost.trans ?_⟩
      simp [hkeeps]

/-! ## Load and unload -/

section Ends

variable {object path : Pointer} {answers : EntryAnswers}

/-- A successful load starts a cycle with an empty table. -/
theorem cycle_of_load (hs : answers.Succeed)
    (h : step hdr .initial (.driverEntry object path answers) = .ok d) :
    Cycle answers.pool.address 0 d := by
  have hvalid : (Op.driverEntry object path answers).Valid .initial :=
    PoolAnswer.fresh_initial answers.pool
  have hrec := step_invariant (fun _ _ => Recorded.move) hvalid h recorded_initial
  have hcon := step_invariant (fun _ _ => Conserved.move) hvalid h conserved_initial
  rw [step_driverEntry_succeeded hs] at h
  obtain rfl := Except.ok.inj h
  have htable : (registeredMiniport object answers.register).pointers = [] :=
    pointers_of_zeroTable rfl
  exact
    { recorded := hrec
      conserved := hcon
      context := rfl
      table := ⟨_, Heap.lookup_store_self _ hs.1,
        { live := fun p hp => absurd hp (Heap.not_live_empty p)
          count := by rw [htable]; rfl }⟩ }

theorem step_unload_iff (hc : d.activeContext = this) :
    step hdr d (.callback (.driverUnload object)) = .ok d' ↔
      ∃ d₁, delete d this = .ok d₁ ∧
        d' = d₁.record (.returned (.callback (.driverUnload object)) none) := by
  subst hc
  rw [step_eq_ok]
  constructor
  · rintro ⟨status, d₁, hcall, rfl⟩
    obtain ⟨rfl, h⟩ := noStatus_eq_ok.mp hcall
    exact ⟨d₁, h, rfl⟩
  · rintro ⟨d₁, h, rfl⟩
    exact ⟨none, d₁, noStatus_eq_ok.mpr ⟨rfl, h⟩, rfl⟩

/-- The unload at the end of a cycle completes exactly if no slot is left over, and then
no adapter is live. -/
theorem Cycle.unload (hd : Cycle this lost d) :
    (∃ d', VirtualAX25.step hdr d (.callback (.driverUnload object)) = .ok d' ∧
      adapterLedger.Settled d'.log ∧ d'.adapters.addresses = []) ↔ lost = 0 := by
  obtain ⟨m, hm, hcovers⟩ := hd.table
  rw [← hcovers.valid_iff, ← delete_completes_iff hd.recorded hm]
  constructor
  · rintro ⟨d', h, -⟩
    obtain ⟨d₁, h₁, -⟩ := (step_unload_iff hd.context).mp h
    exact ⟨d₁, h₁⟩
  · rintro ⟨d₁, h₁⟩
    have hstep : VirtualAX25.step hdr d (.callback (.driverUnload object)) = .ok _ :=
      (step_unload_iff hd.context).mpr ⟨d₁, h₁, rfl⟩
    obtain ⟨-, -, hlookup⟩ := delete_leaves hd.recorded hm h₁
    have hnone : d₁.adapters.addresses = [] := by
      rw [List.eq_nil_iff_forall_not_mem]
      intro p hp
      obtain ⟨a, ha⟩ := d₁.adapters.live_iff.mp hp
      rw [hlookup p] at ha
      split_ifs at ha with hmem
      exact hmem (hcovers.live p (Heap.live_of_lookup ha))
    have hvalid : (Op.callback (.driverUnload object)).Valid d := trivial
    have hcon := step_invariant (fun _ _ => Conserved.move) hvalid hstep hd.conserved
    exact ⟨_, hstep, hcon.settled_iff.mpr hnone, hnone⟩

end Ends

/-- A cycle completes, with every block freed as often as it was allocated, exactly when
it has no halt and every initialisation that finds a free slot gets a block. -/
theorem freedOnce_iff_keeps (hdr : NdisHeaders) (object path object' : Pointer)
    (answers : EntryAnswers) (hs : answers.Succeed) (d₀ : Driver)
    (h₀ : step hdr .initial (.driverEntry object path answers) = .ok d₀) (ops : List Op)
    (hv : Runs.Along (step hdr) (CycleValid answers.pool.address) d₀ ops) :
    FreedOnce hdr (.driverEntry object path answers ::
        (ops ++ [.callback (.driverUnload object')])) ↔
      Runs.Along (step hdr) Keeps d₀ ops := by
  obtain ⟨d, lost, hrun, hd, hlost⟩ := (cycle_of_load hs h₀).run hv
  have hend : ∀ d', Runs.run (step hdr) .initial (.driverEntry object path answers ::
      (ops ++ [.callback (.driverUnload object')])) = .ok d' ↔
      step hdr d (.callback (.driverUnload object')) = .ok d' := by
    intro d'
    rw [Runs.run_cons_of_ok h₀, Runs.run_append, hrun]
    cases h : step hdr d (.callback (.driverUnload object')) <;>
      simp [Except.bind, Runs.run, h]
  calc FreedOnce hdr _
      ↔ ∃ d', step hdr d (.callback (.driverUnload object')) = .ok d' ∧
          adapterLedger.Settled d'.log ∧ d'.adapters.addresses = [] :=
        exists_congr fun d' => and_congr_left fun _ => hend d'
    _ ↔ lost = 0 := hd.unload
    _ ↔ Runs.Along (step hdr) Keeps d₀ ops := hlost.trans (and_iff_right rfl)

/-- Two adapters come up, and the driver is unloaded. -/
theorem freedOnce_without_halt :
    FreedOnce ndis620 [load, bringUp 1 0x3000, bringUp 2 0x4000,
      .callback (.driverUnload 0x100)] := by
  have h₀ : step ndis620 .initial load = .ok _ := rfl
  exact (freedOnce_iff_keeps ndis620 0x100 0x200 0x100 _ ⟨by decide, rfl⟩ _ h₀
    [bringUp 1 0x3000, bringUp 2 0x4000] (by decide)).mpr (by decide)

/-- An adapter comes up and is halted. The unload then destroys it again, through the slot
the halt left in use. -/
theorem not_freedOnce_after_halt :
    ∃ d₀, step ndis620 .initial load = .ok d₀ ∧
      Runs.Along (step ndis620) (CycleValid 0x1000) d₀ [bringUp 1 0x3000, halt 0x3000] ∧
      Runs.run (step ndis620) .initial
        [load, bringUp 1 0x3000, halt 0x3000, .callback (.driverUnload 0x100)] =
          .error .danglingPointer ∧
      ¬FreedOnce ndis620
        [load, bringUp 1 0x3000, halt 0x3000, .callback (.driverUnload 0x100)] := by
  have hfault : Runs.run (step ndis620) .initial
      [load, bringUp 1 0x3000, halt 0x3000, .callback (.driverUnload 0x100)] =
        .error .danglingPointer := rfl
  refine ⟨_, rfl, by decide, hfault, ?_⟩
  rintro ⟨d, hrun, -⟩
  rw [hfault] at hrun
  cases hrun

end VirtualAX25
