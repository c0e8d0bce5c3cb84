import VirtualAX25.ActiveContext
import VirtualAX25.Refinement

/-!
# The history of a miniport

What a live `Miniport` holds is read off what could be seen of the driver. Its handle and
driver object are those of its last registration since it was constructed, if that
succeeded, and null otherwise (`registration`). Its entries are the first sixteen of the
initialisations that reached it since then, in their order, those that got no adapter
included with a null pointer (`claimsMade`). Halts, pauses and whatever happens to other
miniports leave no mark on either.

So a slot in use is never written again while its `Miniport` lives (`slots_kept`), and the
table is full from the sixteenth initialisation on (`entries_of_visits`).

The constructions in the log are those of the entries, in their order
(`constructions_of_run`). So `activeContext` can be read off the entries of a run and the live
objects (`activeContext_of_run`).
-/

namespace VirtualAX25

open Service

namespace Service

/-! ## Reading the trace -/

/-- What the action says of the registration of the miniport at `this`. -/
def Action.registrationAt (this : Pointer) : Action → Option (NdisHandle × Pointer)
  | .constructed this' => if this' = this then some (nullptr, nullptr) else none
  | .register object _ context answers =>
    if context = this then
      some (if ntSuccess answers.status then (answers.handle, object) else (nullptr, nullptr))
    else none
  | _ => none

/-- Handle and driver object of the last registration of the miniport at `this` since it was
constructed, null if it failed or there was none. -/
def registration (this : Pointer) (trace : List Action) : NdisHandle × Pointer :=
  (trace.findSome? (Action.registrationAt this)).getD (nullptr, nullptr)

/-- The claim the entry makes on the miniport at `this`, which is registered under `handle`. -/
def claimOf (this : Pointer) (handle : NdisHandle) (op : Op) : List (NetIfIndex × Pointer) :=
  (op.reaches this handle).toList.map fun r =>
    (r.1.ifIndex, if handle = nullptr then nullptr else r.2.block.address)

/-- The claims made on the miniport at `this` since it was constructed, the oldest first. -/
def claimsMade (this : Pointer) : List Action → List (NetIfIndex × Pointer)
  | [] => []
  | .constructed this' :: trace => if this' = this then [] else claimsMade this trace
  | .returned op _ :: trace =>
    claimsMade this trace ++ claimOf this (registration this trace).1 op
  | _ :: trace => claimsMade this trace

/-- The action neither constructs nor registers the miniport at `this`, nor is it a return. -/
def Action.Neutral (this : Pointer) : Action → Prop
  | .constructed this' => this' ≠ this
  | .register _ _ context _ => context ≠ this
  | .returned .. => False
  | _ => True

variable {this p : Pointer} {a : Action} {calls trace : List Action} {op : Op}
  {status : Option NdisStatus} {m : Memory} {b : Board}

theorem Action.Idle.neutral (ha : a.Idle) : a.Neutral this := by
  cases a <;> simp_all [Action.Idle, Action.Neutral]

theorem neutral_idle (hcalls : ∀ a ∈ calls, a.Idle) : ∀ a ∈ calls, a.Neutral this :=
  fun a ha => (hcalls a ha).neutral

theorem neutral_gives {ps : List Pointer} : ∀ a ∈ m.gives ps, a.Neutral this := by
  intro a ha
  obtain ⟨p, -, hp⟩ := List.mem_filterMap.mp (List.mem_reverse.mp ha)
  obtain ⟨port, -, rfl⟩ := Option.map_eq_some_iff.mp hp
  trivial

theorem neutral_describe {handle : NdisHandle} {registration general : NdisStatus} :
    ∀ a ∈ Memory.describe handle p registration general, a.Neutral this := by
  intro a ha
  unfold Memory.describe at ha
  split_ifs at ha <;> simp at ha
  · rcases ha with rfl | rfl <;> trivial
  · rw [ha]
    trivial

/-- The calls that bring an adapter up. -/
theorem neutral_built {handle : NdisHandle} {registration general : NdisStatus} :
    ∀ a ∈ Memory.describe handle p registration general ++
      [Action.initialiseDpc p, Action.take handle p], a.Neutral this :=
  List.forall_mem_append.mpr ⟨neutral_describe, by simp [Action.Neutral]⟩

/-- The calls that destroy a miniport. -/
theorem neutral_destroyed (hcalls : ∀ a ∈ calls, a.Idle) {ps : List Pointer} {q : Pointer} :
    ∀ a ∈ calls ++ (m.gives ps ++ [Action.destroyed q]), a.Neutral this :=
  List.forall_mem_append.mpr
    ⟨neutral_idle hcalls, List.forall_mem_append.mpr ⟨neutral_gives, by simp [Action.Neutral]⟩⟩

theorem registration_cons (ha : a.registrationAt this = none) :
    registration this (a :: trace) = registration this trace := by
  simp [registration, ha]

theorem registration_append (hcalls : ∀ a ∈ calls, a.Neutral this) :
    registration this (calls ++ trace) = registration this trace := by
  have hnone : calls.findSome? (Action.registrationAt this) = none := by
    refine List.findSome?_eq_none_iff.mpr fun a ha => ?_
    have hneutral := hcalls a ha
    cases a <;> simp_all [Action.Neutral, Action.registrationAt]
  rw [registration, List.findSome?_append, hnone]
  rfl

theorem registration_register (object path : Pointer) (answers : RegisterAnswers) :
    registration this (.register object path this answers :: trace) =
      if ntSuccess answers.status then (answers.handle, object) else (nullptr, nullptr) := by
  simp [registration, Action.registrationAt]

theorem registration_constructed :
    registration this (.constructed this :: trace) = (nullptr, nullptr) := by
  simp [registration, Action.registrationAt]

theorem claimsMade_append (hcalls : ∀ a ∈ calls, a.Neutral this) :
    claimsMade this (calls ++ trace) = claimsMade this trace := by
  induction calls with
  | nil => rfl
  | cons a calls ih =>
    have ih := ih fun a' ha' => hcalls a' (List.mem_cons_of_mem _ ha')
    have hneutral := hcalls a List.mem_cons_self
    cases a with
    | constructed this' => rw [List.cons_append, claimsMade, if_neg hneutral, ih]
    | returned op status => exact absurd hneutral id
    | _ => exact ih

/-! ## The invariant -/

/-- The board at `this` is what the trace says. -/
structure Recalled (this : Pointer) (b : Board) (trace : List Action) : Prop where
  registration : (b.handle, b.object) = registration this trace
  claims : b.claims = (claimsMade this trace).take 16

theorem Recalled.handle (h : Recalled this b trace) :
    (Service.registration this trace).1 = b.handle :=
  congrArg Prod.fst h.registration.symm

theorem claimOf_of_none {handle : NdisHandle} (hreach : op.reaches this handle = none) :
    claimOf this handle op = [] := by
  simp [claimOf, hreach]

/-- An entry that does not touch the board, and makes no claim there is room for. -/
theorem Recalled.kept (h : Recalled this b trace) (hcalls : ∀ a ∈ calls, a.Neutral this)
    (hfull : (op.reaches this b.handle).isSome → b.claims.length = 16) :
    Recalled this b (.returned op status :: (calls ++ trace)) where
  registration := by rw [registration_cons rfl, registration_append hcalls, h.registration]
  claims := by
    rw [claimsMade, registration_append hcalls, claimsMade_append hcalls, h.handle, h.claims]
    cases hreach : op.reaches this b.handle with
    | none => rw [claimOf_of_none hreach, List.append_nil]
    | some r =>
      have hlength := hfull (by simp [hreach])
      rw [h.claims, List.length_take] at hlength
      rw [List.take_append_of_le_length (by omega)]

/-- An entry that makes a claim. -/
theorem Recalled.claim (h : Recalled this b trace) (hcalls : ∀ a ∈ calls, a.Neutral this)
    {parameters : InitParameters} {answers : InitAnswers}
    (hreach : op.reaches this b.handle = some (parameters, answers)) (hroom : b.claims.length < 16)
    (hp : p = if b.handle = nullptr then nullptr else answers.block.address) :
    Recalled this (b.claim parameters p) (.returned op status :: (calls ++ trace)) where
  registration := by
    rw [registration_cons rfl, registration_append hcalls, ← h.registration, Board.handle_claim,
      Board.object_claim]
  claims := by
    have hlength := hroom
    rw [h.claims, List.length_take] at hlength
    have hshort : b.claims = claimsMade this trace := by
      rw [h.claims, List.take_of_length_le (by omega)]
    rw [claimsMade, registration_append hcalls, claimsMade_append hcalls, h.handle, claimOf, hreach,
      b.claims_claim _ _ hroom, ← hshort, hp]
    exact (List.take_of_length_le (by simp; omega)).symm

theorem recalled_constructed : Recalled this .empty (.constructed this :: trace) where
  registration := registration_constructed.symm
  claims := by simp [claimsMade, Board.empty]

theorem Recalled.registered (h : Recalled this b trace) (object path : Pointer)
    (answers : RegisterAnswers) :
    Recalled this (b.register object answers) (.register object path this answers :: trace) where
  registration := by
    rw [registration_register, Board.register]
    split_ifs <;> rfl
  claims := h.claims

/-- Every board is what the trace says. -/
def AllRecalled (s : Service) : Prop :=
  ∀ this b, s.memory.boards this = some b → Recalled this b s.trace

variable {s : Service} {r : Reply} {parameters : InitParameters} {answers : InitAnswers}

/-- No board changes, and the entry makes no claim there is room for. -/
theorem AllRecalled.same (hs : AllRecalled s) (hboards : r.memory.boards = s.memory.boards)
    (hcalls : ∀ this, ∀ a ∈ r.calls, a.Neutral this)
    (hfull : ∀ this b, s.memory.boards this = some b → (op.reaches this b.handle).isSome →
      b.claims.length = 16) : AllRecalled (s.answered op r) := by
  intro q c hc
  have hc' : s.memory.boards q = some c := hboards ▸ hc
  exact (hs q c hc').kept (hcalls q) (hfull q c hc')

/-- The board at `this` changes, and the entry is no business of the others. -/
theorem AllRecalled.update {c : Option Board} (hs : AllRecalled s)
    (hboards : r.memory.boards = Function.update s.memory.boards this c)
    (hself : ∀ b, c = some b → Recalled this b (s.answered op r).trace)
    (hcalls : ∀ q, q ≠ this → ∀ a ∈ r.calls, a.Neutral q)
    (hother : ∀ q handle, q ≠ this → op.reaches q handle = none) :
    AllRecalled (s.answered op r) := by
  intro q b hb
  have hb' : Function.update s.memory.boards this c q = some b := hboards ▸ hb
  rw [Function.update_apply] at hb'
  split_ifs at hb' with hq
  · subst hq
    exact hself b hb'
  · exact (hs q b hb').kept (hcalls q hq) fun h => by simp [hother q b.handle hq] at h

/-- An entry that makes no claim returns. -/
theorem Recalled.returned (h : Recalled this b trace)
    (hop : ∀ handle, op.reaches this handle = none) (hcalls : ∀ a ∈ calls, a.Neutral this) :
    Recalled this b (.returned op status :: (calls ++ trace)) :=
  h.kept hcalls fun hreach => by simp [hop b.handle] at hreach

theorem AllRecalled.load (hs : AllRecalled s) (object path : Pointer) (entry : EntryAnswers)
    (hcalls : ∀ a ∈ calls, a.Idle) :
    AllRecalled (s.answered (.driverEntry object path entry)
      { status := some entry.register.status
        calls := calls ++
          [.register object path entry.pool.address entry.register,
            .constructed entry.pool.address, .takePool entry.pool, .startTracing object path]
        memory := s.memory.start entry.pool.address
          (Board.empty.register object entry.register) }) := by
  refine hs.update rfl (fun b hb => ?_) (fun q hq => ?_) fun _ _ _ => rfl
  · obtain rfl := Option.some.inj hb
    simp only [Service.answered, List.append_assoc]
    exact (recalled_constructed.registered object path entry.register).returned (fun _ => rfl)
      (neutral_idle hcalls)
  · refine List.forall_mem_append.mpr ⟨neutral_idle hcalls, ?_⟩
    simpa [Action.Neutral] using Ne.symm hq

theorem AllRecalled.register (hs : AllRecalled s) (object path : Pointer)
    (answers : RegisterAnswers) (hb : s.memory.boards this = some b) :
    AllRecalled (s.answered (.registerWithNdis this object path answers)
      { status := some answers.status
        calls := [.register object path this answers]
        memory := s.memory.setBoard this (some (b.register object answers)) }) := by
  refine hs.update rfl (fun c hc => ?_) (fun q hq => ?_) fun _ _ _ => rfl
  · obtain rfl := Option.some.inj hc
    exact @Recalled.returned this [] _ _ _ _ ((hs this b hb).registered object path answers)
      (fun _ => rfl) (by simp)
  · simpa [Action.Neutral] using Ne.symm hq

/-- A claim is made, with or without a port. -/
theorem AllRecalled.claim (hs : AllRecalled s) (hb : s.memory.boards this = some b)
    (hroom : b.claims.length < 16) (hreach : op.reaches this b.handle = some (parameters, answers))
    (hother : ∀ q handle, q ≠ this → op.reaches q handle = none)
    (hp : p = if b.handle = nullptr then nullptr else answers.block.address)
    (hcalls : ∀ q, ∀ a ∈ r.calls, a.Neutral q)
    (hboards : r.memory.boards = Function.update s.memory.boards this
      (some (b.claim parameters p))) : AllRecalled (s.answered op r) := by
  refine hs.update hboards (fun c hc => ?_) (fun q _ => hcalls q) hother
  obtain rfl := Option.some.inj hc
  exact (hs this b hb).claim (hcalls this) hreach hroom hp

theorem AllRecalled.effect (hs : AllRecalled s) (h : Effect s.memory op r) :
    AllRecalled (s.answered op r) := by
  cases h with
  | same op status calls hcalls hfull hsend =>
    exact hs.same rfl (fun _ => neutral_idle hcalls) hfull
  | send lists port flags b hb =>
    exact hs.same rfl (by simp [Memory.same, Action.Neutral]) fun _ _ _ h => by
      simp [Op.reaches] at h
  | construct this h0 hfresh =>
    refine hs.update rfl (fun b hb => ?_) (fun q hq => ?_) fun _ _ _ => rfl
    · obtain rfl := Option.some.inj hb
      exact @Recalled.returned this [] _ _ _ _ recalled_constructed (fun _ => rfl) (by simp)
    · simpa [Action.Neutral] using Ne.symm hq
  | load object path answers calls h0 hfresh hcalls => exact hs.load object path answers hcalls
  | register this object path answers b hb => exact hs.register object path answers hb
  | refuse op this b parameters answers calls hb hroom hreach hother hrefused hcalls =>
    refine hs.claim hb hroom hreach hother ?_ (fun _ => neutral_idle hcalls) rfl
    rcases hrefused with h | h <;> simp [h]
  | build op this b parameters answers hb hroom hreach hother hh h0 hfresh =>
    exact hs.claim hb hroom hreach hother (if_neg hh).symm (fun _ => neutral_built) rfl
  | halt p action port h0 hp =>
    exact hs.same rfl (by simp [Action.Neutral]) fun _ _ _ h => by simp [Op.reaches] at h
  | setRunning c p port running h0 hp hop =>
    exact hs.same rfl (by simp) fun _ _ _ h => by simp [hop.reaches] at h
  | destroy op this b calls hb hhalts hop hcalls =>
    exact hs.update rfl (fun c hc => by cases hc) (fun _ _ => neutral_destroyed hcalls)
      fun q handle _ => hop.reaches q handle

theorem allRecalled_initial : AllRecalled .initial := by
  intro this b hb
  simp [Service.initial, Memory.empty] at hb

/-- Claims are only added, as long as the miniport is not constructed again. -/
theorem claimsMade_grows : ∀ {fresh : List Action}, Action.constructed this ∉ fresh →
    claimsMade this trace <+: claimsMade this (fresh ++ trace)
  | [], _ => List.prefix_refl _
  | a :: fresh, h => by
    have ih := @claimsMade_grows fresh fun hmem => h (List.mem_cons_of_mem _ hmem)
    cases a with
    | constructed this' =>
      have hne : this' ≠ this := by
        rintro rfl
        exact h List.mem_cons_self
      rwa [List.cons_append, claimsMade, if_neg hne]
    | returned op status => exact ih.trans (List.prefix_append _ _)
    | _ => exact ih

end Service

variable {hdr : NdisHeaders} {d d' : Driver} {this : Pointer} {m m' : Miniport}

theorem recalled_of_visits {ops : List Op}
    (hv : Runs.Along (step hdr) (fun d op => op.Valid d) .initial ops)
    (hd : Runs.Visits (step hdr) .initial ops d) (hm : d.miniports.lookup this = some m) :
    Recalled this m.board d.view.trace := by
  have hall : AllRecalled d.view :=
    view_invariant (fun _ _ _ => AllRecalled.effect) allRecalled_initial hv hd
  refine hall this m.board ?_
  simp [Driver.view, Driver.memory, hm]

/-! ## Registrations -/

/-- In every run a live `Miniport` holds the handle and the driver object of its last
registration since it was constructed, if that succeeded, and null otherwise. With a null
handle it brings up no adapter. -/
theorem registration_of_visits (hdr : NdisHeaders) (ops : List Op)
    (hv : Runs.Along (step hdr) (fun d op => op.Valid d) .initial ops) {d : Driver}
    (hd : Runs.Visits (step hdr) .initial ops d) (this : Pointer) (m : Miniport)
    (hm : d.miniports.lookup this = some m) :
    (m.miniportDriverHandle, m.driverObject) = registration this d.view.trace ∧
      ((registration this d.view.trace).1 = nullptr →
        ∀ parameters answers status d',
          Miniport.miniportInitializeEx hdr d this parameters answers = .ok (status, d') →
            status = ndisStatusResources ∧ d'.adapters = d.adapters) := by
  have hregistration := (recalled_of_visits hv hd hm).registration
  refine ⟨hregistration, fun hnull parameters answers status d' h => ?_⟩
  have hh : m.miniportDriverHandle = nullptr := by
    rw [← hregistration] at hnull
    exact hnull
  rcases Miniport.miniportInitializeEx_of_lookup hm h with
    ⟨-, rfl, rfl⟩ | ⟨i, p, -, -, ⟨-, rfl, rfl⟩ | ⟨hr, -, -⟩⟩
  · exact ⟨rfl, rfl⟩
  · exact ⟨rfl, rfl⟩
  · exact absurd (Or.inl hh) hr

/-- A registration fails, another succeeds. -/
def registerAgain : List Op :=
  [load, .registerWithNdis 0x1000 0x100 0x200 { status := ndisStatusFailure, handle := 0x2222 },
    .registerWithNdis 0x1000 0x104 0x204 { status := ndisStatusSuccess, handle := 0x3333 }]

theorem registration_of_registerAgain :
    ∃ d m, Runs.run (step ndis620) .initial registerAgain = .ok d ∧
      d.miniports.lookup 0x1000 = some m ∧
      (m.miniportDriverHandle, m.driverObject) = registration 0x1000 d.view.trace ∧
      registration 0x1000 d.view.trace = (0x3333, 0x104) := by
  have hrun : Runs.run (step ndis620) .initial registerAgain = .ok _ := rfl
  exact ⟨_, _, hrun, rfl,
    (registration_of_visits ndis620 registerAgain (by decide) (.end hrun) 0x1000 _ rfl).1, rfl⟩

/-! ## Claims -/

/-- In every run the entries of a live `Miniport` are the first sixteen of the claims made
since it was constructed, in their order, and its table is full exactly if there were
sixteen. From then on every initialisation that returns does so for want of a slot. -/
theorem entries_of_visits (hdr : NdisHeaders) (ops : List Op)
    (hv : Runs.Along (step hdr) (fun d op => op.Valid d) .initial ops) {d : Driver}
    (hd : Runs.Visits (step hdr) .initial ops d) (this : Pointer) (m : Miniport)
    (hm : d.miniports.lookup this = some m) :
    m.entries = (claimsMade this d.view.trace).take 16 ∧
      (m.Full ↔ 16 ≤ (claimsMade this d.view.trace).length) ∧
      (16 ≤ (claimsMade this d.view.trace).length → ∀ parameters answers,
        Miniport.miniportInitializeEx hdr d this parameters answers =
          .ok (ndisStatusResources, Miniport.withoutSlot d m)) := by
  have hentries : m.entries = (claimsMade this d.view.trace).take 16 :=
    (recalled_of_visits hv hd hm).claims
  have hfull : m.Full ↔ 16 ≤ (claimsMade this d.view.trace).length := by
    rw [Miniport.full_iff_length, hentries, List.length_take]
    omega
  exact ⟨hentries, hfull, fun hlength parameters _ =>
    Miniport.miniportInitializeEx_full hm (hfull.mpr hlength) parameters⟩

/-- An adapter comes up and goes down, again and again. -/
def upAndDown (n : ℕ) : List Op :=
  (List.range n).flatMap fun i => [bringUp i.toUInt32 0x3000, halt 0x3000]

/-- After sixteen adapters came up and went down, none is live and the table is full. -/
theorem entries_of_upAndDown :
    ∃ d m, Runs.run (step ndis620) .initial (load :: upAndDown 16) = .ok d ∧
      d.miniports.lookup 0x1000 = some m ∧ d.adapters.addresses = [] ∧ m.Full := by
  have hrun : Runs.run (step ndis620) .initial (load :: upAndDown 16) = .ok _ := rfl
  have hentries := entries_of_visits ndis620 (load :: upAndDown 16) (by decide) (.end hrun) 0x1000
    _ rfl
  exact ⟨_, _, hrun, rfl, rfl, hentries.2.1.mpr (by decide)⟩

/-! ## Slots -/

namespace Miniport

/-- In a packed table the slot `i` holds the entry `i`. -/
theorem Packed.getElem?_entries (hm : m.Packed) (i : Fin 16) :
    m.entries[i.val]? = (m.adapters i).entry := by
  refine Slots.getElem?_contents (fun i j hlt hj => ?_) i
  have hinUse : (m.adapters j).inUse = true := by
    by_contra h
    simp [Adapter.entry, h] at hj
  simp [Adapter.entry, hm i j hlt.le hinUse]

/-- A slot in use is what its entry says. -/
theorem Adapter.eq_of_entry {slot slot' : Miniport.Adapter} (h : slot.inUse = true)
    (hentry : slot'.entry = slot.entry) : slot' = slot := by
  obtain ⟨p, n, u⟩ := slot
  obtain ⟨p', n', u'⟩ := slot'
  simp_all [entry]

/-- If the entries of one table are the first of another, its slots in use are the same
there. -/
theorem Packed.slots_of_entries (hm : m.Packed) (hm' : m'.Packed) (h : m.entries <+: m'.entries)
    {i : Fin 16} (hi : (m.adapters i).inUse = true) : m'.adapters i = m.adapters i := by
  refine Adapter.eq_of_entry hi ?_
  obtain ⟨rest, hrest⟩ := h
  have hentry : (m.adapters i).entry = some ((m.adapters i).adapterNumber,
      (m.adapters i).adapter) := by simp [Adapter.entry, hi]
  have hget := hm.getElem?_entries i
  rw [hentry] at hget
  rw [← hm'.getElem?_entries, ← hrest, hentry, List.getElem?_append_left, hget]
  exact (List.getElem?_eq_some_iff.mp hget).1

end Miniport

theorem constructed_notMem_map {fresh : List Event} (h : Event.constructed this ∉ fresh) :
    Action.constructed this ∉ fresh.map Event.action := by
  intro hmem
  obtain ⟨e, he, haction⟩ := List.mem_map.mp hmem
  cases e with
  | constructed this' =>
    obtain rfl := Action.constructed.inj haction
    exact h he
  | ndisMSetMiniportAttributes handle attributes status => cases attributes <;> cases haction
  | _ => cases haction

/-- A slot in use keeps its contents as long as its `Miniport` lives, whatever happens : it is
neither given back nor written again. -/
theorem slots_kept (hdr : NdisHeaders) (ops ops' : List Op)
    (hv : Runs.Along (step hdr) (fun d op => op.Valid d) .initial (ops ++ ops')) {d d' : Driver}
    (hd : Runs.run (step hdr) .initial ops = .ok d) (hd' : Runs.Visits (step hdr) d ops' d')
    (fresh : List Event) (hlog : d'.log = fresh ++ d.log) (this : Pointer)
    (hfresh : Event.constructed this ∉ fresh) (m m' : Miniport)
    (hm : d.miniports.lookup this = some m) (hm' : d'.miniports.lookup this = some m')
    (i : Fin 16) (hi : (m.adapters i).inUse = true) : m'.adapters i = m.adapters i := by
  have hvisits : Runs.Visits (step hdr) .initial (ops ++ ops') d :=
    Runs.visits_iff_prefix.mpr ⟨ops, ops', rfl, hd⟩
  have hvisits' : Runs.Visits (step hdr) .initial (ops ++ ops') d' := by
    obtain ⟨pre, post, rfl, hpre⟩ := Runs.visits_iff_prefix.mp hd'
    refine Runs.visits_iff_prefix.mpr ⟨ops ++ pre, post, (List.append_assoc _ _ _).symm, ?_⟩
    rw [Runs.run_append, hd]
    exact hpre
  have htrace : d'.view.trace = fresh.map Event.action ++ d.view.trace := by
    simp [Driver.view, hlog]
  obtain ⟨rest, hrest⟩ := @claimsMade_grows this d.view.trace _ (constructed_notMem_map hfresh)
  have hentries : m.entries <+: m'.entries := by
    have h : m.entries = (claimsMade this d.view.trace).take 16 :=
      (recalled_of_visits hv hvisits hm).claims
    have h' : m'.entries = (claimsMade this d'.view.trace).take 16 :=
      (recalled_of_visits hv hvisits' hm').claims
    rw [h, h', htrace, ← hrest, List.take_append]
    exact List.prefix_append _ _
  exact ((sound_of_visits hv hvisits).packed this m hm).slots_of_entries
    ((sound_of_visits hv hvisits').packed this m' hm') hentries hi

theorem slots_kept_after_halt :
    ∃ d d' m m', Runs.run (step ndis620) .initial [load, bringUp 1 0x3000] = .ok d ∧
      Runs.run (step ndis620) d [halt 0x3000, bringUp 2 0x3000] = .ok d' ∧
      d.miniports.lookup 0x1000 = some m ∧ d'.miniports.lookup 0x1000 = some m' ∧
      m'.adapters 0 = m.adapters 0 := by
  obtain ⟨d, d', m, m', fresh, hrun, hrun', hm, hm', hlog, hfresh, hi⟩ :
      ∃ d d' m m' fresh, Runs.run (step ndis620) .initial [load, bringUp 1 0x3000] = .ok d ∧
        Runs.run (step ndis620) d [halt 0x3000, bringUp 2 0x3000] = .ok d' ∧
        d.miniports.lookup 0x1000 = some m ∧ d'.miniports.lookup 0x1000 = some m' ∧
        d'.log = fresh ++ d.log ∧ Event.constructed 0x1000 ∉ fresh ∧
        (m.adapters 0).inUse = true :=
    ⟨_, _, _, _, [_, _, _, _, _, _, _], rfl, rfl, rfl, rfl, rfl, by simp, rfl⟩
  exact ⟨d, d', m, m', hrun, hrun', hm, hm', slots_kept ndis620 _ _ (by decide) hrun (.end hrun')
    fresh hlog 0x1000 hfresh m m' hm hm' 0 hi⟩

/-! ## Constructions -/

/-- Where the entry constructs a `Miniport`, if it does. -/
def Op.constructs : Op → Option Pointer
  | .driverEntry _ _ answers =>
    if answers.pool.address = nullptr then none else some answers.pool.address
  | .constructMiniport this => some this
  | _ => none

namespace Service

/-- The address, if the action is the construction of a miniport. -/
def Action.constructedAt : Action → Option Pointer
  | .constructed this => some this
  | _ => none

variable {m : Memory} {op : Op} {r : Reply} {calls : List Action}

theorem constructions_of_neutral (hcalls : ∀ this, ∀ a ∈ calls, a.Neutral this) :
    calls.filterMap Action.constructedAt = [] := by
  refine List.filterMap_eq_nil_iff.mpr fun a ha => ?_
  cases a with
  | constructed this => exact absurd rfl (hcalls this _ ha)
  | _ => rfl

theorem constructions_of_effect (h : Effect m op r) (hop : op.constructs = none) :
    r.calls.filterMap Action.constructedAt = [] := by
  cases h with
  | same op status calls hcalls hfull hsend =>
    exact constructions_of_neutral fun _ => neutral_idle hcalls
  | construct this h0 hfresh => cases hop
  | load object path answers calls h0 hfresh hcalls => simp [Op.constructs, h0] at hop
  | refuse op this b parameters answers calls hb hroom hreach hother hrefused hcalls =>
    exact constructions_of_neutral fun _ => neutral_idle hcalls
  | build op this b parameters answers hb hroom hreach hother hh h0 hfresh =>
    exact constructions_of_neutral fun _ => neutral_built
  | destroy op this b calls hb hhalts hop' hcalls =>
    exact constructions_of_neutral fun _ => neutral_destroyed hcalls
  | send | register | halt | setRunning => rfl

/-- An entry logs the construction it makes, and no other. -/
theorem constructions_of_reply (hv : op.ValidIn m) (h : op.reply m = .ok r) :
    r.calls.filterMap Action.constructedAt = op.constructs.toList := by
  cases hop : op.constructs with
  | none => exact constructions_of_effect (effect_of_reply hv h) hop
  | some this =>
    cases op with
    | driverEntry object path answers =>
      obtain rfl := Except.ok.inj h
      by_cases h0 : answers.pool.address = nullptr
      · simp [Op.constructs, h0] at hop
      · rw [Op.constructs, if_neg h0] at hop
        rw [Memory.load, if_neg h0, ← hop]
        split_ifs <;> rfl
    | constructMiniport this' =>
      obtain rfl := Except.ok.inj h
      obtain rfl := Option.some.inj hop
      rfl
    | _ => cases hop

end Service

theorem constructedAt_action (e : Event) : e.action.constructedAt = e.constructedAt := by
  cases e with
  | ndisMSetMiniportAttributes handle attributes status => cases attributes <;> rfl
  | _ => rfl

theorem constructs_forget (op : Op) : op.forget.constructs = op.constructs := by
  cases op <;> rfl

/-- In every run the constructions in the log are those of its entries, in their order. -/
theorem constructions_of_run {ops : List Op}
    (hv : Runs.Along (step hdr) (fun d op => op.Valid d) .initial ops)
    (hrun : Runs.run (step hdr) .initial ops = .ok d) :
    d.log.reverse.filterMap Event.constructedAt = ops.filterMap Op.constructs := by
  have hobserved := observed_of_replies (fun _ _ _ => constructions_of_reply) (fun _ _ => rfl)
    constructs_forget hv hrun
  simpa [Function.comp_def, constructedAt_action] using hobserved

/-- So `activeContext` is where the last entry that constructs a `Miniport` does so, if that is
live, and null otherwise. -/
theorem activeContext_of_run {ops : List Op}
    (hv : Runs.Along (step hdr) (fun d op => op.Valid d) .initial ops)
    (hrun : Runs.run (step hdr) .initial ops = .ok d) :
    d.activeContext = ((ops.filterMap Op.constructs).getLast?.filter fun this =>
      d.miniports.Live this).getD nullptr := by
  have hlast : lastConstructed d.log = (ops.filterMap Op.constructs).getLast? := by
    rw [← constructions_of_run hv hrun, List.getLast?_filterMap, List.reverse_reverse]
    rfl
  have htracked : d.activeContext = d.expectedContext := tracked_of_visits hv (.end hrun)
  rw [htracked, Driver.expectedContext, hlast]
  cases (ops.filterMap Op.constructs).getLast? with
  | none => rfl
  | some this => by_cases hlive : d.miniports.Live this <;> simp [Option.filter, hlive]

end VirtualAX25
