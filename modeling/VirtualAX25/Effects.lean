import VirtualAX25.Service
import VirtualAX25.Run

/-!
# What an entry of the service can do

Every answer has one of ten effects on the memory, each with the calls it makes
(`effect_of_reply`) : nothing, a completed send, a board that starts, registers, or goes
away with the ports it claims, a port that comes up with a claim or a claim without one, a
port that goes down, or starts or stops running. The invariants of the service are proved
by cases on `Effect`.

`haltAll_eq_ok_iff` is about the loop : it completes exactly if the pointers are distinct
and each is one of a port, and then it removes these ports.
-/

namespace VirtualAX25

namespace Service

/-! ## Calls -/

/-- Calls that take, give and tell nothing that lasts. -/
def Action.Idle : Action → Prop
  | .startTracing .. | .stopTracing _ | .takePool _ | .givePool _ | .report .. => True
  | .take _ block => block = nullptr
  | _ => False

namespace Memory

variable (m : Memory)

/-- The call that frees the block of the port at `p`, if there is one. -/
def giveAt (p : Pointer) : Option Action :=
  (m.ports p).map fun port => .give port.handle p

/-- The calls that free the blocks of the ports at `ps`, the newest first. -/
def gives (ps : List Pointer) : List Action :=
  (ps.filterMap m.giveAt).reverse

/-- The memory without the ports at `ps`. -/
def removePorts (ps : List Pointer) : Memory :=
  { m with ports := fun p => if p ∈ ps then none else m.ports p }

@[simp] theorem removePorts_boards (ps : List Pointer) : (m.removePorts ps).boards = m.boards :=
  rfl

@[simp] theorem removePorts_nil : m.removePorts [] = m := by
  simp [removePorts]

theorem removePorts_setPort (p : Pointer) (ps : List Pointer) :
    (m.setPort p none).removePorts ps = m.removePorts (p :: ps) := by
  simp only [removePorts, setPort]
  congr 1
  ext1 q
  by_cases hq : q = p <;> simp [hq]

/-! ## The loop -/

/-- There is a port at each of the pointers `ps`, and they are distinct. -/
structure Halts (ps : List Pointer) : Prop where
  nodup : ps.Nodup
  ports : ∀ p ∈ ps, p ≠ nullptr ∧ (m.ports p).isSome

theorem halts_nil : m.Halts [] :=
  ⟨List.nodup_nil, by simp⟩

theorem halts_cons {p : Pointer} {ps : List Pointer} {port : Port} (h0 : p ≠ nullptr)
    (hp : m.ports p = some port) : m.Halts (p :: ps) ↔ (m.setPort p none).Halts ps := by
  constructor
  · rintro ⟨hnd, hports⟩
    obtain ⟨hmem, hnd⟩ := List.nodup_cons.mp hnd
    refine ⟨hnd, fun q hq => ?_⟩
    have hne : q ≠ p := by
      rintro rfl
      exact hmem hq
    simpa [hne] using hports q (List.mem_cons_of_mem _ hq)
  · rintro ⟨hnd, hports⟩
    have hmem : p ∉ ps := fun hmem => by simpa using hports p hmem
    refine ⟨List.nodup_cons.mpr ⟨hmem, hnd⟩, fun q hq => ?_⟩
    rcases List.mem_cons.mp hq with rfl | hq'
    · simp [h0, hp]
    · have hne : q ≠ p := by
        rintro rfl
        exact hmem hq'
      simpa [hne] using hports q hq'

theorem gives_cons {p : Pointer} {ps : List Pointer} {port : Port} (hp : m.ports p = some port)
    (hmem : p ∉ ps) :
    m.gives (p :: ps) = (m.setPort p none).gives ps ++ [.give port.handle p] := by
  have hrest : ps.filterMap m.giveAt = ps.filterMap (m.setPort p none).giveAt := by
    refine List.filterMap_congr fun q hq => ?_
    have hne : q ≠ p := by
      rintro rfl
      exact hmem hq
    simp [giveAt, hne]
  simp [gives, giveAt, hp, ← hrest]

variable {m}

theorem halt_eq_ok_iff {p : Pointer} {r : Reply} :
    m.halt p = .ok r ↔ p ≠ nullptr ∧ ∃ port, m.ports p = some port ∧
      r = { status := none, calls := [.give port.handle p], memory := m.setPort p none } := by
  rw [halt, Runs.bind_eq_ok]
  constructor
  · rintro ⟨port, hread, h⟩
    obtain ⟨h0, hp⟩ := Heap.read_eq_ok_iff.mp hread
    exact ⟨h0, port, hp, (Except.ok.inj h).symm⟩
  · rintro ⟨h0, port, hp, rfl⟩
    exact ⟨port, Heap.read_eq_ok_iff.mpr ⟨h0, hp⟩, rfl⟩

/-- The loop removes the ports it is given, and completes exactly if they are there. -/
theorem haltAll_eq_ok_iff : ∀ {ps : List Pointer} {m : Memory} {calls : List Action} {r : Reply},
    m.haltAll calls ps = .ok r ↔ m.Halts ps ∧
      r = { status := none, calls := m.gives ps ++ calls, memory := m.removePorts ps }
  | [], m, calls, r => by
    simp [haltAll, halts_nil, gives, eq_comm]
  | p :: ps, m, calls, r => by
    rw [haltAll, Runs.bind_eq_ok]
    constructor
    · rintro ⟨r₁, h₁, h⟩
      obtain ⟨h0, port, hp, rfl⟩ := halt_eq_ok_iff.mp h₁
      obtain ⟨hhalts, rfl⟩ := haltAll_eq_ok_iff.mp h
      have hhalts' := (m.halts_cons h0 hp).mpr hhalts
      refine ⟨hhalts', ?_⟩
      rw [m.gives_cons hp (List.nodup_cons.mp hhalts'.nodup).1, m.removePorts_setPort]
      simp
    · rintro ⟨hhalts, rfl⟩
      obtain ⟨h0, hsome⟩ := hhalts.ports p List.mem_cons_self
      obtain ⟨port, hp⟩ := Option.isSome_iff_exists.mp hsome
      refine ⟨_, halt_eq_ok_iff.mpr ⟨h0, port, hp, rfl⟩, haltAll_eq_ok_iff.mpr
        ⟨(m.halts_cons h0 hp).mp hhalts, ?_⟩⟩
      rw [m.gives_cons hp (List.nodup_cons.mp hhalts.nodup).1, m.removePorts_setPort]
      simp

end Memory

end Service

open Service

/-! ## Effects -/

/-- The parameters and answers, if the entry brings an adapter up on the miniport at `this`,
which was registered under `handle`. -/
def Op.reaches (this : Pointer) (handle : NdisHandle) : Op → Option (InitParameters × InitAnswers)
  | .miniportInitializeEx this' parameters answers =>
    if this' = this then parameters.map fun p => (p, answers) else none
  | .callback (.initializeEx handle' context parameters answers) =>
    if context ≠ nullptr ∧ context = this ∧ handle' = handle then
      parameters.map fun p => (p, answers)
    else none
  | _ => none

/-- The chain and the flags, if the entry is a send without a context. -/
def Op.nullSend : Op → Option (List Pointer × UInt32)
  | .callback (.sendNetBufferLists context lists _ flags) =>
    if context = nullptr then some (lists, flags) else none
  | _ => none

/-- The entry brings no adapter up, and is no send without a context. -/
structure Op.Plain (op : Op) : Prop where
  reaches : ∀ this handle, op.reaches this handle = none
  nullSend : op.nullSend = none

/-- The effects an answered entry can have on the memory `m`. -/
inductive Effect (m : Memory) : Op → Reply → Prop
  /-- Nothing : there is no miniport to reach, or no room on it. -/
  | same (op : Op) (status : Option NdisStatus) (calls : List Action)
      (hcalls : ∀ a ∈ calls, a.Idle)
      (hfull : ∀ this b, m.boards this = some b → (op.reaches this b.handle).isSome →
        b.claims.length = 16)
      (hsend : op.nullSend = none) : Effect m op (m.same status calls)
  /-- A chain sent without a context comes back. -/
  | send (lists : List Pointer) (port flags : UInt32) (b : Board)
      (hb : m.boards m.active = some b) :
      Effect m (.callback (.sendNetBufferLists nullptr lists port flags))
        (m.same none [.complete b.handle lists (Miniport.completeFlags flags),
          .mark lists ndisStatusFailure])
  /-- A miniport starts. -/
  | construct (this : Pointer) (h0 : this ≠ nullptr) (hfresh : m.boards this = none) :
      Effect m (.constructMiniport this)
        { status := none, calls := [.constructed this], memory := m.start this .empty }
  /-- A miniport starts and registers. -/
  | load (object path : Pointer) (answers : EntryAnswers) (calls : List Action)
      (h0 : answers.pool.address ≠ nullptr) (hfresh : m.boards answers.pool.address = none)
      (hcalls : ∀ a ∈ calls, a.Idle) :
      Effect m (.driverEntry object path answers)
        { status := some answers.register.status
          calls := calls ++
            [.register object path answers.pool.address answers.register,
              .constructed answers.pool.address, .takePool answers.pool,
              .startTracing object path]
          memory := m.start answers.pool.address (Board.empty.register object answers.register) }
  /-- A miniport registers. -/
  | register (this object path : Pointer) (answers : RegisterAnswers) (b : Board)
      (hb : m.boards this = some b) :
      Effect m (.registerWithNdis this object path answers)
        { status := some answers.status
          calls := [.register object path this answers]
          memory := m.setBoard this (some (b.register object answers)) }
  /-- A claim is made, for nothing. -/
  | refuse (op : Op) (this : Pointer) (b : Board) (parameters : InitParameters)
      (answers : InitAnswers) (calls : List Action) (hb : m.boards this = some b)
      (hroom : b.claims.length < 16)
      (hreach : op.reaches this b.handle = some (parameters, answers))
      (hother : ∀ this' handle, this' ≠ this → op.reaches this' handle = none)
      (hrefused : b.handle = nullptr ∨ answers.block.address = nullptr)
      (hcalls : ∀ a ∈ calls, a.Idle) :
      Effect m op
        { status := some ndisStatusResources
          calls := calls
          memory := m.setBoard this (some (b.claim parameters nullptr)) }
  /-- A claim is made, for the port that comes up. -/
  | build (op : Op) (this : Pointer) (b : Board) (parameters : InitParameters)
      (answers : InitAnswers) (hb : m.boards this = some b) (hroom : b.claims.length < 16)
      (hreach : op.reaches this b.handle = some (parameters, answers))
      (hother : ∀ this' handle, this' ≠ this → op.reaches this' handle = none)
      (hh : b.handle ≠ nullptr) (h0 : answers.block.address ≠ nullptr)
      (hfresh : m.ports answers.block.address = none) :
      Effect m op
        { status := some (AX25Adapter.attributesStatus answers.registration answers.general)
          calls := Memory.describe b.handle answers.block.address answers.registration
              answers.general ++
            [.initialiseDpc answers.block.address, .take b.handle answers.block.address]
          memory := (m.setBoard this (some (b.claim parameters answers.block.address))).setPort
            answers.block.address (some { handle := b.handle, running := false }) }
  /-- A port goes down. -/
  | halt (p : Pointer) (action : UInt32) (port : Port) (h0 : p ≠ nullptr)
      (hp : m.ports p = some port) :
      Effect m (.callback (.haltEx p action))
        { status := none, calls := [.give port.handle p], memory := m.setPort p none }
  /-- A port starts or stops running. -/
  | setRunning (c : Callback) (p : Pointer) (port : Port) (running : Bool) (h0 : p ≠ nullptr)
      (hp : m.ports p = some port) (hop : (Op.callback c).Plain) :
      Effect m (.callback c)
        { status := some ndisStatusSuccess
          calls := []
          memory := m.setPort p (some { port with running := running }) }
  /-- A miniport goes away, and the ports it claims go down. -/
  | destroy (op : Op) (this : Pointer) (b : Board) (calls : List Action)
      (hb : m.boards this = some b) (hhalts : m.Halts b.pointers) (hop : op.Plain)
      (hcalls : ∀ a ∈ calls, a.Idle) :
      Effect m op
        { status := none
          calls := calls ++ (m.gives b.pointers ++ [.destroyed this])
          memory := (m.without this).removePorts b.pointers }

variable {m : Memory} {op : Op} {r : Reply} {this : Pointer}

/-- An entry that reaches no miniport and leaves things as they are. -/
theorem Effect.of_plain (hop : op.Plain) (status : Option NdisStatus) {calls : List Action}
    (hcalls : ∀ a ∈ calls, a.Idle) : Effect m op (m.same status calls) :=
  .same op status calls hcalls (fun this b _ hreach => by simp [hop.reaches] at hreach)
    hop.nullSend

/-- Bringing up an adapter on the one miniport the entry reaches. -/
theorem effect_of_initialise {parameters : Option InitParameters} {answers : InitAnswers}
    (hreach : ∀ b, m.boards this = some b →
      op.reaches this b.handle = parameters.map fun p => (p, answers))
    (hother : ∀ this' handle, this' ≠ this → op.reaches this' handle = none)
    (hsend : op.nullSend = none) (hfresh : ¬(m.ports answers.block.address).isSome)
    (h : m.initialise this parameters answers = .ok r) : Effect m op r := by
  obtain ⟨b, hread, h⟩ := Runs.bind_eq_ok.mp h
  obtain ⟨-, hb⟩ := Heap.read_eq_ok_iff.mp hread
  have hle := b.length_le
  by_cases hlen : b.claims.length = 16
  · rw [if_pos hlen] at h
    obtain rfl := Except.ok.inj h
    refine .same op _ _ (by simp [Action.Idle]) (fun this' b' hb' hsome => ?_) hsend
    by_cases hthis : this' = this
    · subst hthis
      rw [← Option.some.inj (hb.symm.trans hb')]
      exact hlen
    · simp [hother this' _ hthis] at hsome
  · rw [if_neg hlen] at h
    cases parameters with
    | none => cases h
    | some parameters =>
      have hroom : b.claims.length < 16 := by omega
      by_cases hrefused : b.handle = nullptr ∨ answers.block.address = nullptr
      · simp only [if_pos hrefused] at h
        obtain rfl := Except.ok.inj h
        refine .refuse op this b parameters answers _ hb hroom (hreach b hb) hother hrefused ?_
        split_ifs <;> simp [Action.Idle]
      · simp only [if_neg hrefused] at h
        obtain ⟨hh, h0⟩ := not_or.mp hrefused
        obtain rfl := Except.ok.inj h
        exact .build op this b parameters answers hb hroom (hreach b hb) hother hh h0
          (Option.not_isSome_iff_eq_none.mp hfresh)

/-- A port starts or stops running. -/
theorem effect_of_setRunning {c : Callback} {p : Pointer} {running : Bool}
    (hop : (Op.callback c).Plain) (h : m.setRunning p running = .ok r) :
    Effect m (.callback c) r := by
  obtain ⟨port, hread, h⟩ := Runs.bind_eq_ok.mp h
  obtain ⟨h0, hp⟩ := Heap.read_eq_ok_iff.mp hread
  obtain rfl := Except.ok.inj h
  exact .setRunning c p port running h0 hp hop

theorem effect_of_destroy (hop : op.Plain) (h : m.destroy this = .ok r) : Effect m op r := by
  obtain ⟨b, hread, h⟩ := Runs.bind_eq_ok.mp h
  obtain ⟨-, hb⟩ := Heap.read_eq_ok_iff.mp hread
  obtain ⟨hhalts, rfl⟩ := Memory.haltAll_eq_ok_iff.mp h
  exact .destroy op this b [] hb ⟨hhalts.nodup, hhalts.ports⟩ hop (by simp)

theorem effect_of_unload {object : Pointer} (h : m.unload = .ok r) :
    Effect m (.callback (.driverUnload object)) r := by
  have hop : (Op.callback (.driverUnload object)).Plain := ⟨fun _ _ => rfl, rfl⟩
  unfold Memory.unload at h
  split_ifs at h with hactive
  · obtain rfl := Except.ok.inj h
    exact .of_plain hop none (by simp)
  · cases hdestroy : m.destroy m.active with
    | error e =>
      rw [hdestroy] at h
      cases h
    | ok r₁ =>
      rw [hdestroy] at h
      obtain rfl := Except.ok.inj h
      obtain ⟨b, hread, hall⟩ := Runs.bind_eq_ok.mp hdestroy
      obtain ⟨-, hb⟩ := Heap.read_eq_ok_iff.mp hread
      obtain ⟨hhalts, rfl⟩ := Memory.haltAll_eq_ok_iff.mp hall
      exact .destroy _ m.active b [.givePool m.active] hb ⟨hhalts.nodup, hhalts.ports⟩ hop
        (by simp [Action.Idle])

/-- A callback that only reads its adapter. -/
theorem effect_of_read {c : Callback} {p : Pointer} {status : Option NdisStatus}
    (hop : (Op.callback c).Plain)
    (h : ((Heap.read m.ports p).bind fun _ => .ok (m.same status [])) = .ok r) :
    Effect m (.callback c) r := by
  obtain ⟨port, -, h⟩ := Runs.bind_eq_ok.mp h
  obtain rfl := Except.ok.inj h
  exact .of_plain hop status (by simp)

theorem effect_of_announce {handle context : NdisHandle} {parameters : Option InitParameters}
    {answers : InitAnswers} (hfresh : ¬(m.ports answers.block.address).isSome)
    (h : m.announce handle context parameters answers = .ok r) :
    Effect m (.callback (.initializeEx handle context parameters answers)) r := by
  unfold Memory.announce at h
  split_ifs at h with h0
  · obtain rfl := Except.ok.inj h
    exact .of_plain ⟨fun _ _ => by simp [Op.reaches, h0], rfl⟩ _ (by simp)
  · obtain ⟨b, hread, h⟩ := Runs.bind_eq_ok.mp h
    obtain ⟨-, hb⟩ := Heap.read_eq_ok_iff.mp hread
    split_ifs at h with hh
    · obtain rfl := Except.ok.inj h
      refine .same _ _ _ (by simp) (fun this b' hb' hsome => ?_) rfl
      by_cases hthis : context = this
      · subst hthis
        obtain rfl := Option.some.inj (hb.symm.trans hb')
        simp [Op.reaches, hh] at hsome
      · simp [Op.reaches, hthis] at hsome
    · refine effect_of_initialise (fun b' hb' => ?_) (fun this' handle' hne => ?_) rfl hfresh h
      · obtain rfl := Option.some.inj (hb.symm.trans hb')
        simp [Op.reaches, h0, not_not.mp hh]
      · simp [Op.reaches, hne.symm]

theorem effect_of_pause {context parameters : Pointer} (h : m.pause context = .ok r) :
    Effect m (.callback (.pause context parameters)) r := by
  have hop : (Op.callback (.pause context parameters)).Plain := ⟨fun _ _ => rfl, rfl⟩
  unfold Memory.pause at h
  split_ifs at h
  · obtain rfl := Except.ok.inj h
    exact .of_plain hop _ (by simp)
  · exact effect_of_setRunning hop h

theorem effect_of_restart {context parameters : Pointer}
    (h : m.restart context parameters = .ok r) :
    Effect m (.callback (.restart context parameters)) r := by
  have hop : (Op.callback (.restart context parameters)).Plain := ⟨fun _ _ => rfl, rfl⟩
  unfold Memory.restart at h
  split_ifs at h
  · obtain rfl := Except.ok.inj h
    exact .of_plain hop _ (by simp)
  · obtain rfl := Except.ok.inj h
    exact .of_plain hop _ (by simp)
  · exact effect_of_setRunning hop h

theorem effect_of_request {context request : Pointer} (h : m.request context request = .ok r) :
    Effect m (.callback (.oidRequest context request)) r := by
  have hop : (Op.callback (.oidRequest context request)).Plain := ⟨fun _ _ => rfl, rfl⟩
  unfold Memory.request at h
  split_ifs at h
  · obtain rfl := Except.ok.inj h
    exact .of_plain hop _ (by simp)
  · obtain rfl := Except.ok.inj h
    exact .of_plain hop _ (by simp)
  · exact effect_of_read hop h

theorem effect_of_send {context : Pointer} {lists : List Pointer} {port flags : UInt32}
    (h : m.send context lists flags = .ok r) :
    Effect m (.callback (.sendNetBufferLists context lists port flags)) r := by
  unfold Memory.send at h
  split_ifs at h with h0
  · subst h0
    obtain ⟨b, hread, h⟩ := Runs.bind_eq_ok.mp h
    obtain rfl := Except.ok.inj h
    exact .send lists port flags b (Heap.read_eq_ok_iff.mp hread).2
  · exact effect_of_read ⟨fun _ _ => rfl, by simp [Op.nullSend, h0]⟩ h

theorem effect_of_takeBack {context : Pointer} {lists : List Pointer} {flags : UInt32}
    (h : m.takeBack context = .ok r) :
    Effect m (.callback (.returnNetBufferLists context lists flags)) r := by
  have hop : (Op.callback (.returnNetBufferLists context lists flags)).Plain :=
    ⟨fun _ _ => rfl, rfl⟩
  unfold Memory.takeBack at h
  split_ifs at h
  · obtain ⟨b, -, h⟩ := Runs.bind_eq_ok.mp h
    obtain rfl := Except.ok.inj h
    exact .of_plain hop none (by simp [Action.Idle])
  · exact effect_of_read hop h

theorem effect_of_callback {c : Callback} (hv : c.ValidIn m) (h : c.reply m = .ok r) :
    Effect m (.callback c) r := by
  cases c with
  | initializeEx handle context parameters answers => exact effect_of_announce hv.2 h
  | haltEx context action =>
    obtain ⟨h0, port, hp, rfl⟩ := Memory.halt_eq_ok_iff.mp h
    exact .halt context action port h0 hp
  | driverUnload object => exact effect_of_unload h
  | pause context parameters => exact effect_of_pause h
  | restart context parameters => exact effect_of_restart h
  | oidRequest context request => exact effect_of_request h
  | sendNetBufferLists context lists port flags => exact effect_of_send h
  | returnNetBufferLists context lists flags => exact effect_of_takeBack h

/-- What an answered entry does is one of the effects. -/
theorem effect_of_reply (hv : op.ValidIn m) (h : op.reply m = .ok r) : Effect m op r := by
  cases op with
  | driverEntry object path answers =>
    obtain rfl := Except.ok.inj h
    by_cases h0 : answers.pool.address = nullptr
    · rw [Memory.load, if_pos h0]
      exact .of_plain ⟨fun _ _ => rfl, rfl⟩ _ (by simp [Action.Idle])
    · rw [Memory.load, if_neg h0]
      refine .load object path answers _ h0 (Option.not_isSome_iff_eq_none.mp hv) ?_
      split_ifs <;> simp [Action.Idle]
  | constructMiniport this =>
    obtain rfl := Except.ok.inj h
    exact .construct this hv.1 (Option.not_isSome_iff_eq_none.mp hv.2)
  | destroyMiniport this => exact effect_of_destroy ⟨fun _ _ => rfl, rfl⟩ h
  | registerWithNdis this object path answers =>
    obtain ⟨b, hread, h⟩ := Runs.bind_eq_ok.mp h
    obtain rfl := Except.ok.inj h
    exact .register this object path answers b (Heap.read_eq_ok_iff.mp hread).2
  | miniportInitializeEx this parameters answers =>
    refine effect_of_initialise (fun b _ => ?_) (fun this' handle hne => ?_) rfl hv.2.2 h
    · simp [Op.reaches]
    · simp [Op.reaches, hne.symm]
  | callback c => exact effect_of_callback hv h

end VirtualAX25
