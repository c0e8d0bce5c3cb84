import VirtualAX25.Table

/-!
# The table as a map of interfaces

The table is meant to be a map from interface numbers to live adapters, with room for 16.
`interfaces` is that map, read off the log : an initialisation that returned success
inserts its interface, a halt removes it. `Refines` says that the table holds the map,
that the map has the live adapters, and that an initialisation is refused only if the map
is full.

Initialisations keep this (`Refines.of_built`). A halt removes the adapter from the map
and from memory, but not from the table (`not_refines_of_halt`). So a run refines the map
at every boundary exactly when no adapter is halted in it (`refines_iff_no_halt`).
-/

namespace VirtualAX25

open Miniport

/-! ## The map -/

/-- What the return of an entry does to the interfaces. -/
def Event.onInterfaces (e : Event) (f : BoundedMap 16 NetIfIndex Pointer) :
    BoundedMap 16 NetIfIndex Pointer :=
  match e with
  | .returned (.miniportInitializeEx _ (some parameters) answers) (some status) =>
    if status = ndisStatusSuccess then f.insert parameters.ifIndex answers.block.address else f
  | .returned (.callback (.haltEx p _)) _ => f.remove p
  | _ => f

/-- The adapters initialised and not yet halted, by interface number. -/
def interfaces (log : List Event) : BoundedMap 16 NetIfIndex Pointer :=
  log.foldr Event.onInterfaces .empty

/-! ## Runs -/

/-- Allocation and attribute calls succeed if they are reached. -/
def Supplied (m : Miniport) (answers : InitAnswers) : Prop :=
  (m.Full ∨ ¬m.Refused answers) ∧ answers.registration = ndisStatusSuccess ∧
    answers.general = ndisStatusSuccess

instance (m : Miniport) (answers : InitAnswers) : Decidable (Supplied m answers) :=
  inferInstanceAs (Decidable (_ ∧ _))

/-- Initialisations whose calls succeed, each with an interface number no live adapter has,
and halts of live adapters. -/
def InterfaceValid (this : Pointer) (d : Driver) : Op → Prop
  | .miniportInitializeEx this' (some parameters) answers =>
    this' = this ∧ answers.block.Fresh d ∧ parameters.ifIndex ∉ (interfaces d.log).keys ∧
      ∀ m ∈ d.miniports.lookup this, Supplied m answers
  | .callback (.haltEx p _) => d.adapters.Live p
  | _ => False

instance (this : Pointer) (d : Driver) : (op : Op) → Decidable (InterfaceValid this d op)
  | .miniportInitializeEx _ (some _) _ => inferInstanceAs (Decidable (_ ∧ _))
  | .callback (.haltEx p _) => inferInstanceAs (Decidable (d.adapters.Live p))
  | .miniportInitializeEx _ none _ | .callback (.initializeEx ..) | .callback (.driverUnload _)
  | .callback (.pause ..) | .callback (.restart ..) | .callback (.oidRequest ..)
  | .callback (.sendNetBufferLists ..) | .callback (.returnNetBufferLists ..)
  | .driverEntry .. | .constructMiniport _ | .destroyMiniport _ | .registerWithNdis .. =>
    isFalse id

/-- The entry is a halt. -/
def Op.IsHalt : Op → Prop
  | .callback (.haltEx _ _) => True
  | _ => False

/-- The table `m` holds the interfaces, and they are the live adapters. -/
structure RefinesAt (hdr : NdisHeaders) (this : Pointer) (d : Driver) (m : Miniport) : Prop where
  holds : Slots.Holds Adapter.entry m.adapters (interfaces d.log)
  live : ∀ p, d.adapters.Live p ↔ p ∈ (interfaces d.log).values
  distinct : ∀ i j, (m.adapters i).inUse = true → (m.adapters j).inUse = true →
    (m.adapters i).adapter = (m.adapters j).adapter ∨
      (m.adapters i).adapterNumber = (m.adapters j).adapterNumber → i = j
  refused : ∀ parameters answers d', Supplied m answers →
    miniportInitializeEx hdr d this (some parameters) answers = .ok (ndisStatusResources, d') →
      (interfaces d.log).entries.length = 16

/-- The table of the `Miniport` at `this` refines the map of interfaces. -/
def Refines (hdr : NdisHeaders) (this : Pointer) (d : Driver) : Prop :=
  ∃ m, d.miniports.lookup this = some m ∧ RefinesAt hdr this d m

variable {hdr : NdisHeaders} {d d' : Driver} {this p : Pointer} {op : Op} {m : Miniport}

theorem Miniport.Adapter.entry_of_inUse {slot : Miniport.Adapter} (h : slot.inUse = true) :
    slot.entry = some (slot.adapterNumber, slot.adapter) := by
  rw [Adapter.entry, if_pos h]

/-- A table that holds the interfaces has no duplicates, and is refused an interface only
when it is full. -/
theorem RefinesAt.of_holds (hm : d.miniports.lookup this = some m)
    (holds : Slots.Holds Adapter.entry m.adapters (interfaces d.log))
    (live : ∀ p, d.adapters.Live p ↔ p ∈ (interfaces d.log).values) :
    RefinesAt hdr this d m where
  holds := holds
  live := live
  distinct i j hi hj h := holds.eq_of_entry (Adapter.entry_of_inUse hi)
    (Adapter.entry_of_inUse hj) h
  refused parameters answers d' hs h := by
    rcases miniportInitializeEx_of_lookup hm h with
      ⟨hf, -, -⟩ | ⟨i, -, hi, -, ⟨hr, -, -⟩ | ⟨-, hstatus, -⟩⟩
    · exact holds.length_of_full hf.isSome_entry
    · exact absurd hr (hs.1.resolve_left hi.not_full)
    · rw [hs.2.1, hs.2.2] at hstatus
      exact absurd hstatus (by decide)

/-! ## Initialisations -/

/-- The calls of an initialisation do not change the interfaces until it returns. -/
theorem interfaces_withAdapter {i : Fin 16} {parameters : InitParameters} {answers : InitAnswers}
    (hs : Supplied m answers) :
    interfaces (withAdapter hdr d this m i parameters answers).log = interfaces d.log := by
  simp [withAdapter, AX25Adapter.attributeCalls, hs.2.1, interfaces, Event.onInterfaces]

/-- An initialisation that builds an adapter keeps the refinement. -/
theorem Refines.of_built (h : RefinesAt hdr this d m) (hm : d.miniports.lookup this = some m)
    {i : Fin 16} (hi : m.FirstFree i) {parameters : InitParameters} {answers : InitAnswers}
    (hs : Supplied m answers) (hf : answers.block.Fresh d)
    (hk : parameters.ifIndex ∉ (interfaces d.log).keys)
    (hd' : d' = (withAdapter hdr d this m i parameters answers).record
      (.returned (.miniportInitializeEx this (some parameters) answers)
        (some (AX25Adapter.attributesStatus answers.registration answers.general)))) :
    Refines hdr this d' := by
  have h0 : answers.block.address ≠ nullptr :=
    (not_or.mp (hs.1.resolve_left hi.not_full)).2
  have hv : answers.block.address ∉ (interfaces d.log).values := by
    rw [← h.live]
    exact hf
  have hroom : (interfaces d.log).entries.length < 16 :=
    h.holds.length_eq ▸ Slots.length_contents_of_free hi.entry_eq_none
  have hinterfaces : interfaces d'.log =
      (interfaces d.log).insert parameters.ifIndex answers.block.address := by
    have hreturn : interfaces d'.log = (interfaces (withAdapter hdr d this m i parameters
        answers).log).insert parameters.ifIndex answers.block.address := by
      rw [hd', hs.2.1, hs.2.2]
      rfl
    rw [hreturn, interfaces_withAdapter hs]
  have hlookup : d'.miniports.lookup this =
      some (m.setSlot i (claimed answers.block.address parameters)) := by
    rw [hd']
    exact Heap.lookup_store_self _ (Heap.ne_null_of_lookup hm)
  refine ⟨_, hlookup, .of_holds hlookup ?_ fun p => ?_⟩
  · rw [hinterfaces]
    exact h.holds.insert hi.entry_eq_none (entry_claimed _ _) hk hv
  · have hlive : d'.adapters.Live p ↔ p = answers.block.address ∨ d.adapters.Live p := by
      rw [hd']
      exact Heap.live_store h0
    rw [hlive, h.live, hinterfaces, BoundedMap.values_insert _ hk hv hroom, List.mem_cons]

/-- An initialisation that finds the table full changes nothing. -/
theorem Refines.of_full (h : RefinesAt hdr this d m) (hm : d.miniports.lookup this = some m)
    {parameters : InitParameters} {answers : InitAnswers}
    (hd' : d' = (withoutSlot d m).record
      (.returned (.miniportInitializeEx this (some parameters) answers)
        (some ndisStatusResources))) : Refines hdr this d' := by
  have hinterfaces : interfaces d'.log = interfaces d.log := by
    rw [hd']
    rfl
  have hlookup : d'.miniports.lookup this = some m := by
    rw [hd']
    exact hm
  refine ⟨m, hlookup, .of_holds hlookup ?_ fun p => ?_⟩
  · rw [hinterfaces]
    exact h.holds
  · rw [hinterfaces, ← h.live, hd']
    rfl

/-- The step lemma : an initialisation completes and keeps the refinement. -/
theorem Refines.step (h : Refines hdr this d) (hv : InterfaceValid this d op)
    (hop : ¬op.IsHalt) : ∃ d', VirtualAX25.step hdr d op = .ok d' ∧ Refines hdr this d' := by
  obtain ⟨m, hm, hat⟩ := h
  cases op with
  | miniportInitializeEx this' parameters answers =>
    cases parameters with
    | none => exact absurd hv id
    | some parameters =>
      obtain ⟨rfl, hf, hk, hs⟩ := hv
      rcases m.full_or_firstFree with hfull | ⟨i, hi⟩
      · exact ⟨_, step_miniportInitializeEx (miniportInitializeEx_full hm hfull _),
          .of_full hat hm rfl⟩
      · have hr := (hs m hm).1.resolve_left hi.not_full
        exact ⟨_, step_miniportInitializeEx (miniportInitializeEx_built hm hi hr),
          .of_built hat hm hi (hs m hm) hf hk rfl⟩
  | callback c =>
    cases c with
    | haltEx p action => exact absurd trivial hop
    | _ => exact absurd hv id
  | _ => exact absurd hv id

/-! ## Halts -/

/-- A halt leaves a stale entry in the table. -/
theorem not_refines_of_halt {action : UInt32} {handle : NdisHandle} (h : Refines hdr this d)
    (hp : d.adapters.Live p) : ¬Refines hdr this (halted d handle p action) := by
  obtain ⟨m, hm, hat⟩ := h
  rintro ⟨m', hm', hat'⟩
  obtain rfl := Option.some.inj (hm.symm.trans hm')
  exact hat.holds.not_remove ((hat.live p).mp hp) hat'.holds

/-- Between two states that refine the map there was no halt. -/
theorem not_isHalt_of_refines (hrec : Recorded d) (hv : InterfaceValid this d op)
    (hd : Refines hdr this d)
    (hafter : ∀ d', VirtualAX25.step hdr d op = .ok d' → Refines hdr this d') : ¬op.IsHalt := by
  intro hhalt
  unfold Op.IsHalt at hhalt
  split at hhalt
  · rename_i p action
    have hp : d.adapters.Live p := hv
    obtain ⟨a, ha⟩ := d.adapters.live_iff.mp hp
    exact not_refines_of_halt hd hp (hafter _ (step_halt ha (hrec p a ha).handle))
  · exact hhalt

theorem InterfaceValid.op_valid (hv : InterfaceValid this d op) (hl : d.miniports.Live this) :
    op.Valid d := by
  unfold InterfaceValid at hv
  split at hv
  · exact ⟨hv.1 ▸ hl, rfl, hv.2.1⟩
  · exact Or.inr hv
  · exact absurd hv id

/-! ## Runs of the loaded driver -/

/-- A successful load leaves an empty table and no interfaces. -/
theorem refines_of_load {object path : Pointer} {answers : EntryAnswers}
    (hs : answers.Succeed)
    (h : step hdr .initial (.driverEntry object path answers) = .ok d) :
    Recorded d ∧ Refines hdr answers.pool.address d := by
  have hvalid : (Op.driverEntry object path answers).Valid .initial :=
    PoolAnswer.fresh_initial answers.pool
  have hrec := step_invariant (fun _ _ => Recorded.move) hvalid h recorded_initial
  rw [step_driverEntry_succeeded hs] at h
  obtain rfl := Except.ok.inj h
  have hlookup : (withMiniport hdr .initial object path answers.pool.address
      answers).miniports.lookup answers.pool.address =
      some (registeredMiniport object answers.register) := Heap.lookup_store_self _ hs.1
  refine ⟨hrec, _, hlookup, .of_holds hlookup (.empty fun _ => rfl) fun p => ?_⟩
  exact iff_of_false (Heap.not_live_empty p) List.not_mem_nil

/-- After a successful load, a run of initialisations whose calls succeed and of halts
refines the map of interfaces at every boundary exactly when it has no halt. -/
theorem refines_iff_no_halt (hdr : NdisHeaders) (object path : Pointer) (answers : EntryAnswers)
    (hs : answers.Succeed) (d₀ : Driver)
    (h₀ : step hdr .initial (.driverEntry object path answers) = .ok d₀) (ops : List Op)
    (hv : Runs.Along (step hdr) (InterfaceValid answers.pool.address) d₀ ops) :
    (∀ d, Runs.Visits (step hdr) d₀ ops d → Refines hdr answers.pool.address d) ↔
      ∀ op ∈ ops, ¬op.IsHalt := by
  obtain ⟨hrec, hrefines⟩ := refines_of_load hs h₀
  constructor
  · refine Runs.forall_mem_of_visits (fun d op hrec hop hd hafter => ?_) hv hrec
    have hhalt := not_isHalt_of_refines hrec hop hd hafter
    obtain ⟨d', h, -⟩ := hd.step hop hhalt
    obtain ⟨m, hm, -⟩ := hd
    have hvalid := hop.op_valid (Heap.live_of_lookup hm)
    exact ⟨hhalt, d', h, step_invariant (fun _ _ => Recorded.move) hvalid h hrec⟩
  · intro hops d hd
    refine hd.invariant (fun d op d' hd hop h => ?_)
      (hv.and (Runs.along_of_forall d₀ hops)) hrefines
    obtain ⟨d₁, h₁, hd₁⟩ := hd.step hop.1 hop.2
    obtain rfl := Except.ok.inj (h.symm.trans h₁)
    exact hd₁

theorem refines_two_interfaces :
    ∃ d₀ d, step ndis620 .initial load = .ok d₀ ∧
      Runs.run (step ndis620) d₀ [bringUp 1 0x3000, bringUp 2 0x4000] = .ok d ∧
      Refines ndis620 0x1000 d ∧ (interfaces d.log).entries = [(2, 0x4000), (1, 0x3000)] := by
  have h₀ : step ndis620 .initial load = .ok _ := rfl
  have hrefines := (refines_iff_no_halt ndis620 0x100 0x200 loadAnswers ⟨by decide, rfl⟩ _ h₀
    [bringUp 1 0x3000, bringUp 2 0x4000] (by decide)).mpr (by simp [bringUp, Op.IsHalt])
  exact ⟨_, _, h₀, rfl, hrefines _ (.end rfl), rfl⟩

/-- An adapter comes up and is halted. No interface is left, but its slot is in use and
points to the dead adapter. -/
theorem not_refines_after_halt :
    ∃ d₀ d m, step ndis620 .initial load = .ok d₀ ∧
      Runs.Along (step ndis620) (InterfaceValid 0x1000) d₀ [bringUp 1 0x3000, halt 0x3000] ∧
      Runs.run (step ndis620) d₀ [bringUp 1 0x3000, halt 0x3000] = .ok d ∧
      (interfaces d.log).entries = [] ∧ d.miniports.lookup 0x1000 = some m ∧
      m.entries = [(1, 0x3000)] ∧ ¬d.adapters.Live 0x3000 ∧ ¬Refines ndis620 0x1000 d := by
  refine ⟨_, _, _, rfl, by decide, rfl, rfl, rfl, rfl, by decide, fun h => ?_⟩
  obtain ⟨m, hm, hat⟩ := h
  obtain rfl := Option.some.inj hm
  exact absurd hat.holds.length_eq (by decide)

end VirtualAX25
