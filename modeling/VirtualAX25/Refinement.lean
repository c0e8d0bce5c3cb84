import VirtualAX25.View
import VirtualAX25.Effects
import VirtualAX25.Simulation

/-!
# The driver refines the service

Sound drivers stay sound, so the driver simulates the service (`simulates`) : a valid run
faults where the run of the service does, and looks like it at the end (`run_refines`).
The service knows neither the constants of the headers nor the old contents of blocks, so
nothing it sees of the driver depends on them (`run_of_forget`).
-/

namespace VirtualAX25

open Service

variable {hdr : NdisHeaders} {d d' : Driver} {m : Miniport} {this p : Pointer}

/-! ## Sound drivers -/

theorem AllPacked.store {h : Heap Miniport} (hh : AllPacked h) (hp : this ≠ nullptr)
    (hm : m.Packed) : AllPacked (h.store this m) := by
  intro q m' hq
  rw [Heap.lookup_store h hp, Function.update_apply] at hq
  split_ifs at hq
  · rwa [← Option.some.inj hq]
  · exact hh q m' hq

theorem AllPacked.erase {h : Heap Miniport} (hh : AllPacked h) (this : Pointer) :
    AllPacked (h.erase this) := by
  intro q m' hq
  rw [Heap.lookup_erase, Function.update_apply] at hq
  split_ifs at hq
  exact hh q m' hq

theorem Miniport.Packed.writes {m' : Miniport} (hm : m.Packed) (h : m.Writes m') : m'.Packed := by
  cases h with
  | registration m' htable =>
    intro i j hij hj
    rw [htable] at hj ⊢
    exact hm i j hij hj
  | slot i hi p parameters => exact hm.setSlot hi p parameters

/-- No move leaves a gap among the slots in use. -/
theorem AllPacked.move (hd : AllPacked d.miniports) (h : Move hdr d d') :
    AllPacked d'.miniports := by
  cases h with
  | quiet e he => exact hd
  | build handle block hh hb hf => exact hd
  | free p a ha hh => exact hd
  | setState p a s op status ha he => exact hd
  | construct this h0 hf => exact hd.store h0 (Miniport.packed_of_zeroTable rfl)
  | update this m m' hm hw => exact hd.store (Heap.ne_null_of_lookup hm) ((hd this m hm).writes hw)
  | dying this m hm => exact hd.erase this

theorem Sound.move (hd : Sound d) (h : Move hdr d d') : Sound d' where
  recorded := hd.recorded.move h
  packed := hd.packed.move h

theorem sound_initial : Sound .initial where
  recorded := recorded_initial
  packed := fun this m hm => by simp [Driver.initial] at hm

theorem Sound.step {op : Op} (hd : Sound d) (hv : op.Valid d) (h : step hdr d op = .ok d') :
    Sound d' :=
  step_invariant (fun _ _ => Sound.move) hv h hd

theorem sound_of_visits {ops : List Op}
    (hv : Runs.Along (VirtualAX25.step hdr) (fun d op => op.Valid d) .initial ops)
    (hd : Runs.Visits (VirtualAX25.step hdr) .initial ops d) : Sound d :=
  invariant_of_moves (fun _ _ => Sound.move) hd hv sound_initial

/-! ## Runs -/

/-- The driver is the service seen through `view`. -/
theorem simulates (hdr : NdisHeaders) :
    Runs.Simulates (step hdr) Service.step (fun d op => op.Valid d) Sound Driver.view
      Op.forget where
  kept _ _ _ hd hv h := hd.step hv h
  commutes _ _ hd hv := step_refines hdr hd hv

theorem isSome_boards (d : Driver) (this : Pointer) :
    (d.memory.boards this).isSome ↔ d.miniports.Live this := by
  simp [Driver.memory, Heap.live_iff, Option.isSome_iff_exists]

theorem isSome_ports (d : Driver) (p : Pointer) :
    (d.memory.ports p).isSome ↔ d.adapters.Live p := by
  simp [Driver.memory, Heap.live_iff, Option.isSome_iff_exists]

theorem callback_valid_iff (d : Driver) (c : Callback) :
    c.Valid d ↔ c.forget.ValidIn d.memory := by
  cases c <;> simp only [Callback.Valid, Callback.forget, Callback.ValidIn, AdapterBlock.Fresh,
    isSome_boards, isSome_ports, InitAnswers.forget]

/-- What the outside keeps to can be read off the view. -/
theorem valid_iff (d : Driver) (op : Op) : op.Valid d ↔ op.forget.ValidIn d.memory := by
  cases op with
  | driverEntry object path answers =>
    simp only [Op.Valid, Op.forget, Op.ValidIn, isSome_boards]
    cases answers.pool with
    | returned address => exact Iff.rfl
    | raised status => exact iff_of_true trivial fun h => h.ne_null rfl
  | callback c => exact callback_valid_iff d c
  | _ => simp only [Op.Valid, Op.forget, Op.ValidIn, AdapterBlock.Fresh, isSome_boards,
      isSome_ports, InitAnswers.forget]

/-- A run from a sound driver is valid exactly if it is valid of its view. -/
theorem along_view (hdr : NdisHeaders) (hd : Sound d) (ops : List Op) :
    Runs.Along (step hdr) (fun d op => op.Valid d) d ops ↔
      Runs.Along Service.step (fun s op => op.ValidIn s.memory) d.view (ops.map Op.forget) :=
  (simulates hdr).along_iff (fun d op _ => valid_iff d op) hd

theorem along_iff (hdr : NdisHeaders) (ops : List Op) :
    Runs.Along (step hdr) (fun d op => op.Valid d) .initial ops ↔
      Runs.Along Service.step (fun s op => op.ValidIn s.memory) Driver.initial.view
        (ops.map Op.forget) :=
  along_view hdr sound_initial ops

@[simp] theorem view_initial : Driver.initial.view = Service.initial := by
  simp [Driver.view, Driver.memory, Driver.initial, Service.initial, Memory.empty,
    Function.comp_def]

/-- The driver refines the service : in every valid run it faults where the service does, and
looks like the service at the end. -/
theorem run_refines (hdr : NdisHeaders) (ops : List Op)
    (hv : Runs.Along (step hdr) (fun d op => op.Valid d) .initial ops) :
    (Runs.run (step hdr) .initial ops).map Driver.view =
      Runs.run Service.step Service.initial (ops.map Op.forget) := by
  rw [← view_initial]
  exact (simulates hdr).run hv sound_initial

/-- An adapter comes up, runs, is halted, and then the unload comes upon it. -/
def unloadAfterHalt : List Op :=
  [load, bringUp 1 0x3000, .callback (.restart 0x3000 0x500), halt 0x3000,
    .callback (.driverUnload 0x100)]

theorem run_refines_unloadAfterHalt :
    Runs.run (step ndis620) .initial unloadAfterHalt = .error .danglingPointer ∧
      (Runs.run (step ndis620) .initial unloadAfterHalt).map Driver.view =
        Runs.run Service.step Service.initial (unloadAfterHalt.map Op.forget) :=
  ⟨rfl, run_refines ndis620 unloadAfterHalt (by decide)⟩

/-! ## Invariants -/

/-- The service after the answer `r` to an entry. -/
def Service.answered (s : Service) (op : Op) (r : Reply) : Service where
  memory := r.memory
  trace := .returned op r.status :: (r.calls ++ s.trace)

/-- A step of the service is an effect. -/
theorem answered_of_step {s s' : Service} {op : Op} (hv : op.ValidIn s.memory)
    (h : Service.step s op = .ok s') : ∃ r, Effect s.memory op r ∧ s' = s.answered op r := by
  unfold Service.step at h
  cases hr : op.reply s.memory with
  | error e =>
    rw [hr] at h
    cases h
  | ok r =>
    rw [hr] at h
    exact ⟨r, effect_of_reply hv hr, (Except.ok.inj h).symm⟩

/-- What the effects of entries that meet `C` keep holds of every view of a run of such
entries. -/
theorem view_invariant_of {J : Service → Prop} {C : Op → Prop}
    (heffect : ∀ s op r, J s → C op → Effect s.memory op r → J (s.answered op r))
    (h0 : J .initial) {ops : List Op} (hops : ∀ op ∈ ops, C op.forget)
    (hv : Runs.Along (step hdr) (fun d op => op.Valid d) .initial ops)
    (hd : Runs.Visits (step hdr) .initial ops d) : J d.view := by
  have hstep : ∀ (s : Service) (op : Op) (s' : Service), J s → op.ValidIn s.memory → C op →
      Service.step s op = .ok s' → J s' := by
    intro s op s' hs hvalid hop h
    obtain ⟨r, hr, rfl⟩ := answered_of_step hvalid h
    exact heffect s op r hs hop hr
  have hinitial : J Driver.initial.view := by rwa [view_initial]
  exact (simulates hdr).invariant (fun d op _ => valid_iff d op) hstep hd hv hops sound_initial
    hinitial

/-- What every effect keeps holds of every view. -/
theorem view_invariant {J : Service → Prop}
    (heffect : ∀ s op r, J s → Effect s.memory op r → J (s.answered op r)) (h0 : J .initial)
    {ops : List Op} (hv : Runs.Along (step hdr) (fun d op => op.Valid d) .initial ops)
    (hd : Runs.Visits (step hdr) .initial ops d) : J d.view :=
  view_invariant_of (fun s op r hs (_ : True) => heffect s op r hs) h0 (fun _ _ => trivial) hv hd

/-- If the calls of every reply show what its entry adds to what is observed, the log of a run
shows what its entries add, in their order. -/
theorem observed_of_replies {α : Type*} {observe : Action → Option α} {adds : Op → Option α}
    (hreply : ∀ (m : Memory) (op : Op) (r : Reply), op.ValidIn m → op.reply m = .ok r →
      r.calls.filterMap observe = (adds op).toList)
    (hreturned : ∀ op status, observe (.returned op status) = none)
    (hforget : ∀ op : Op, adds op.forget = adds op) {ops : List Op}
    (hv : Runs.Along (step hdr) (fun d op => op.Valid d) .initial ops)
    (hrun : Runs.run (step hdr) .initial ops = .ok d) :
    d.log.reverse.filterMap (observe ∘ Event.action) = ops.filterMap adds := by
  have hstep : ∀ (s : Service) (op : Op) (s' : Service), op.ValidIn s.memory →
      Service.step s op = .ok s' → s'.trace.reverse.filterMap observe =
        s.trace.reverse.filterMap observe ++ (adds op).toList := by
    intro s op s' hop h
    obtain ⟨r, hr, rfl⟩ := Runs.map_eq_ok.mp h
    have hcalls : r.calls.reverse.filterMap observe = (adds op).toList := by
      rw [List.filterMap_reverse, hreply s.memory op r hop hr]
      cases adds op <;> rfl
    simp [hcalls, hreturned]
  have hservice : Runs.run Service.step Driver.initial.view (ops.map Op.forget) = .ok d.view := by
    rw [← (simulates hdr).run hv sound_initial, hrun]
    rfl
  have hobserved := Runs.observed_of_run hstep ((along_iff hdr ops).mp hv) hservice
  simpa [Driver.view, Driver.initial, List.filterMap_eq_flatMap_toList, List.flatMap_map,
    Function.comp_def, hforget, ← List.map_reverse] using hobserved

/-! ## What does not matter -/

/-- Neither the constants of the headers nor the old contents of blocks have a part in what
the service sees of the driver : two runs that differ in nothing else are valid together,
fault together, and look the same. What the view leaves out can depend on them : lengths and
codes on the constants, and the fields of the general attributes that nobody writes, `flags`,
`powerManagementCapabilities` and `macAddressLength`, on the old contents. -/
theorem run_of_forget (hdr hdr' : NdisHeaders) (ops ops' : List Op)
    (hops : ops.map Op.forget = ops'.map Op.forget)
    (hv : Runs.Along (step hdr) (fun d op => op.Valid d) .initial ops) :
    Runs.Along (step hdr') (fun d op => op.Valid d) .initial ops' ∧
      (Runs.run (step hdr) .initial ops).map Driver.view =
        (Runs.run (step hdr') .initial ops').map Driver.view := by
  have hv' : Runs.Along (step hdr') (fun d op => op.Valid d) .initial ops' := by
    rw [along_iff] at hv ⊢
    rwa [← hops]
  exact ⟨hv', (simulates hdr).run_congr (simulates hdr') hv hv' sound_initial sound_initial rfl
    hops⟩

/-- An initialisation in a block of stale bytes, which name another state and handle. -/
def bringUpStale (ifIndex : NetIfIndex) (address : Pointer) : Op :=
  .miniportInitializeEx 0x1000 (some { ifIndex := ifIndex })
    { block :=
        { address := address
          contents := { AX25Adapter.zeroBlock with state := .running, driverHandle := 0x666 } }
      registration := ndisStatusSuccess
      general := ndisStatusSuccess }

theorem run_of_stale :
    (Runs.run (step ndis620) .initial [load, bringUp 1 0x3000, halt 0x3000]).map Driver.view =
      (Runs.run (step { ndis620 with sizeofAX25Adapter := 4096 }) .initial
        [load, bringUpStale 1 0x3000, halt 0x3000]).map Driver.view :=
  (run_of_forget ndis620 { ndis620 with sizeofAX25Adapter := 4096 } _ _ rfl (by decide)).2

end VirtualAX25
