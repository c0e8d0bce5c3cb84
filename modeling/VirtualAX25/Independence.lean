import VirtualAX25.Refinement
import VirtualAX25.Interleaving

/-!
# Callbacks of different adapters

The callbacks that are given an adapter read and write that adapter only (`reply_local`),
and those that are given none read what none of them writes. So the adapters are cells, and
the callbacks between two initialisations can be interleaved in any valid way : to the
service what happens to every adapter is the same, and so is what is left
(`interleavings_agree`).
-/

namespace VirtualAX25

open Service

/-! ## What a callback is given -/

/-- The adapter the callback is given, if it is one of those that are given an adapter. -/
def Callback.context : Callback → Option NdisHandle
  | .haltEx context _ | .pause context _ | .restart context _ | .oidRequest context _
  | .sendNetBufferLists context _ _ _ | .returnNetBufferLists context _ _ => some context
  | .initializeEx .. | .driverUnload _ => none

/-- The adapter the entry is given, if it is a callback that is given an adapter. -/
def Op.context : Op → Option Pointer
  | .callback c => c.context
  | _ => none

namespace Service

/-- The adapter the action is about, null for the chains and reports of callbacks that are
given none. -/
def Action.context : Action → Option Pointer
  | .give _ block => some block
  | .mark .. | .complete .. | .report .. => some nullptr
  | .returned op _ => op.context
  | _ => none

variable {m : Memory} {c : Callback} {op : Op} {r : Reply} {p : Pointer} {s : Service}

namespace Memory

/-- The memory with the same port everywhere. -/
def only (m : Memory) (port : Option Port) : Memory :=
  { m with ports := fun _ => port }

end Memory

/-- The reply, put back into the memory `m`. -/
def Reply.backIn (m : Memory) (p : Pointer) (r : Reply) : Reply :=
  { r with memory := m.setPort p (r.memory.ports p) }

theorem same_backIn (status : Option NdisStatus) (calls : List Action) :
    m.same status calls = ((m.only (m.ports p)).same status calls).backIn m p := by
  simp [Reply.backIn, Memory.same, Memory.only, Memory.setPort_self]

/-- Reading the port, and going on with what is there. -/
theorem local_of_read {k k' : Port → Reply} (h : ∀ port, k port = (k' port).backIn m p) :
    ((Heap.read m.ports p).bind fun port => .ok (k port)) =
      ((Heap.read (m.only (m.ports p)).ports p).bind fun port => .ok (k' port)).map
        (Reply.backIn m p) := by
  have hread : Heap.read (m.only (m.ports p)).ports p = Heap.read m.ports p := rfl
  rw [hread]
  cases Heap.read m.ports p with
  | error e => rfl
  | ok port => exact congrArg Except.ok (h port)

/-- Reading a board, and calling out. -/
theorem local_of_board {q : Pointer} (status : Option NdisStatus) (calls : Board → List Action) :
    ((Heap.read m.boards q).bind fun b => .ok (m.same status (calls b))) =
      ((Heap.read (m.only (m.ports p)).boards q).bind fun b =>
        .ok ((m.only (m.ports p)).same status (calls b))).map (Reply.backIn m p) := by
  have hread : Heap.read (m.only (m.ports p)).boards q = Heap.read m.boards q := rfl
  rw [hread]
  cases Heap.read m.boards q with
  | error e => rfl
  | ok b => exact congrArg Except.ok (same_backIn status (calls b))

theorem local_of_setRunning (running : Bool) :
    m.setRunning p running = ((m.only (m.ports p)).setRunning p running).map (Reply.backIn m p) :=
  local_of_read fun port => by simp [Reply.backIn, Memory.only]

/-- A callback reads and writes the adapter it is given, and no other. -/
theorem reply_local (hc : c.context = some p) :
    c.reply m = (c.reply (m.only (m.ports p))).map (Reply.backIn m p) := by
  have hsame : ∀ status calls, (Except.ok (m.same status calls) : Except Fault Reply) =
      (Except.ok ((m.only (m.ports p)).same status calls)).map (Reply.backIn m p) :=
    fun status calls => congrArg Except.ok (same_backIn status calls)
  cases c with
  | initializeEx handle context parameters answers => cases hc
  | driverUnload object => cases hc
  | haltEx context action =>
    obtain rfl := Option.some.inj hc
    exact local_of_read fun port => by simp [Reply.backIn, Memory.only, Memory.setPort]
  | pause context parameters =>
    obtain rfl := Option.some.inj hc
    simp only [Callback.reply, Memory.pause]
    split_ifs
    · exact hsame _ _
    · exact local_of_setRunning false
  | restart context parameters =>
    obtain rfl := Option.some.inj hc
    simp only [Callback.reply, Memory.restart]
    split_ifs
    · exact hsame _ _
    · exact hsame _ _
    · exact local_of_setRunning true
  | oidRequest context request =>
    obtain rfl := Option.some.inj hc
    simp only [Callback.reply, Memory.request]
    split_ifs
    · exact hsame _ _
    · exact hsame _ _
    · exact local_of_read fun _ => same_backIn _ _
  | sendNetBufferLists context lists port flags =>
    obtain rfl := Option.some.inj hc
    simp only [Callback.reply, Memory.send]
    split_ifs
    · exact local_of_board _ _
    · exact local_of_read fun _ => same_backIn _ _
  | returnNetBufferLists context lists flags =>
    obtain rfl := Option.some.inj hc
    simp only [Callback.reply, Memory.takeBack]
    split_ifs
    · exact local_of_board _ _
    · exact local_of_read fun _ => same_backIn _ _

theorem context_of_setRunning {running : Bool} (h : m.setRunning p running = .ok r) :
    ∀ a ∈ r.calls, a.context = some p := by
  obtain ⟨port, -, h⟩ := Runs.bind_eq_ok.mp h
  rw [← Except.ok.inj h]
  simp

theorem context_of_same {status : Option NdisStatus} {calls : List Action}
    (hcalls : ∀ a ∈ calls, a.context = some p)
    (h : (Except.ok (m.same status calls) : Except Fault Reply) = .ok r) :
    ∀ a ∈ r.calls, a.context = some p := by
  rwa [← Except.ok.inj h]

/-- The calls of a callback are about the adapter it is given. -/
theorem context_of_reply (hc : c.context = some p) (h : c.reply m = .ok r) :
    ∀ a ∈ r.calls, a.context = some p := by
  have hnone : ∀ a ∈ ([] : List Action), a.context = some p := by simp
  cases c with
  | initializeEx handle context parameters answers => cases hc
  | driverUnload object => cases hc
  | haltEx context action =>
    obtain rfl := Option.some.inj hc
    obtain ⟨-, port, -, rfl⟩ := Memory.halt_eq_ok_iff.mp h
    simp [Action.context]
  | pause context parameters =>
    obtain rfl := Option.some.inj hc
    simp only [Callback.reply, Memory.pause] at h
    split_ifs at h
    · exact context_of_same hnone h
    · exact context_of_setRunning h
  | restart context parameters =>
    obtain rfl := Option.some.inj hc
    simp only [Callback.reply, Memory.restart] at h
    split_ifs at h
    · exact context_of_same hnone h
    · exact context_of_same hnone h
    · exact context_of_setRunning h
  | oidRequest context request =>
    obtain rfl := Option.some.inj hc
    simp only [Callback.reply, Memory.request] at h
    split_ifs at h
    · exact context_of_same hnone h
    · exact context_of_same hnone h
    · obtain ⟨port, -, h⟩ := Runs.bind_eq_ok.mp h
      exact context_of_same hnone h
  | sendNetBufferLists context lists port flags =>
    obtain rfl := Option.some.inj hc
    simp only [Callback.reply, Memory.send] at h
    split_ifs at h with h0
    · obtain ⟨b, -, h⟩ := Runs.bind_eq_ok.mp h
      exact context_of_same (by simp [Action.context, h0]) h
    · obtain ⟨port, -, h⟩ := Runs.bind_eq_ok.mp h
      exact context_of_same hnone h
  | returnNetBufferLists context lists flags =>
    obtain rfl := Option.some.inj hc
    simp only [Callback.reply, Memory.takeBack] at h
    split_ifs at h with h0
    · obtain ⟨b, -, h⟩ := Runs.bind_eq_ok.mp h
      exact context_of_same (by simp [Action.context, h0]) h
    · obtain ⟨port, -, h⟩ := Runs.bind_eq_ok.mp h
      exact context_of_same hnone h

/-! ## Cells -/

/-- An adapter, or nothing, and what was seen of it, the newest first. -/
structure Cell where
  port : Option Port
  trace : List Action

/-- The service as a system of cells. -/
def toCells (s : Service) (k : Option Pointer) : Cell where
  port := k.bind s.memory.ports
  trace := s.trace.filter fun a => a.context = k

/-- Answer a callback out of the cell of its adapter. -/
def answerIn (active : Pointer) (boards : Pointer → Option Board) (cell : Cell) (op : Op) :
    Except Fault Cell :=
  (op.reply { active := active, boards := boards, ports := fun _ => cell.port }).map fun r =>
    { port := op.context.bind r.memory.ports
      trace := .returned op r.status :: (r.calls ++ cell.trace) }

theorem context_returned (op : Op) (status : Option NdisStatus) :
    (Action.returned op status).context = op.context :=
  rfl

/-- What an answer out of a cell is in the service. -/
theorem toCells_answered {status : Option NdisStatus} {calls : List Action} {port : Option Port}
    (hop : op.context = some p) (hcalls : ∀ a ∈ calls, a.context = some p) :
    toCells
        { memory := s.memory.setPort p port
          trace := .returned op status :: (calls ++ s.trace) } =
      Function.update (toCells s) (some p)
        { port := port
          trace := .returned op status :: (calls ++ (toCells s (some p)).trace) } := by
  ext1 k
  by_cases hk : k = some p
  · subst hk
    have hall : calls.filter (fun a => a.context = some p) = calls :=
      List.filter_eq_self.mpr fun a ha => by simpa using hcalls a ha
    simp only [toCells, List.filter_cons, List.filter_append, hall, context_returned, hop,
      Function.update_self]
    simp
  · have hnone : calls.filter (fun a => a.context = k) = [] :=
      List.filter_eq_nil_iff.mpr fun a ha => by simpa [hcalls a ha] using Ne.symm hk
    have hport : k.bind (s.memory.setPort p port).ports = k.bind s.memory.ports := by
      cases k with
      | none => rfl
      | some q =>
        have hq : q ≠ p := fun h => hk (congrArg some h)
        simp [hq]
    simp only [toCells, List.filter_cons, List.filter_append, hnone, hport, context_returned, hop,
      Function.update_of_ne hk, Ne.symm hk]
    simp

/-- A callback is answered out of the cell of its adapter. -/
theorem step_cells (hop : op.context = some p) :
    (step s op).map toCells =
      Runs.cells Op.context (answerIn s.memory.active s.memory.boards) (toCells s) op := by
  cases op with
  | callback c =>
    have hc : c.context = some p := hop
    have honly : answerIn s.memory.active s.memory.boards (toCells s (some p)) (.callback c) =
        (c.reply (s.memory.only (s.memory.ports p))).map fun r =>
          { port := (Op.callback c).context.bind r.memory.ports
            trace :=
              .returned (.callback c) r.status :: (r.calls ++ (toCells s (some p)).trace) } :=
      rfl
    rw [Runs.cells, hop, honly, hop, step]
    change ((c.reply s.memory).map _).map _ = _
    rw [reply_local hc]
    cases hr : c.reply (s.memory.only (s.memory.ports p)) with
    | error e => rfl
    | ok r =>
      have hcalls : ∀ a ∈ r.calls, a.context = some p := context_of_reply hc hr
      exact congrArg Except.ok (toCells_answered hop hcalls)
  | _ => cases hop

/-- Callbacks that are given an adapter leave the miniports alone. -/
theorem miniports_of_step {s' : Service} (hop : op.context = some p) (h : step s op = .ok s') :
    s'.memory.active = s.memory.active ∧ s'.memory.boards = s.memory.boards := by
  cases op with
  | callback c =>
    have hc : c.context = some p := hop
    rw [step] at h
    change (c.reply s.memory).map _ = _ at h
    rw [reply_local hc] at h
    cases hr : c.reply (s.memory.only (s.memory.ports p)) with
    | error e =>
      rw [hr] at h
      cases h
    | ok r =>
      rw [hr] at h
      rw [← Except.ok.inj h]
      exact ⟨rfl, rfl⟩
  | _ => cases hop

/-- As long as the miniports stay as they are, the service is a system of cells. -/
theorem simulates_cells (active : Pointer) (boards : Pointer → Option Board) :
    Runs.Simulates step (Runs.cells Op.context (answerIn active boards))
      (fun _ op => op.context.isSome)
      (fun s => s.memory.active = active ∧ s.memory.boards = boards) toCells id where
  kept s op s' hs hop h := by
    obtain ⟨p, hp⟩ := Option.isSome_iff_exists.mp hop
    obtain ⟨hactive, hboards⟩ := miniports_of_step hp h
    exact ⟨hactive.trans hs.1, hboards.trans hs.2⟩
  commutes s op hs hop := by
    obtain ⟨p, hp⟩ := Option.isSome_iff_exists.mp hop
    rw [step_cells hp, hs.1, hs.2]
    rfl

end Service

/-! ## Interleavings -/

variable {hdr : NdisHeaders} {d d' : Driver} {ops : List Op}

theorem context_forget (op : Op) : op.forget.context = op.context := by
  cases op with
  | callback c => cases c <;> rfl
  | _ => rfl

theorem contexts_forget (hops : ∀ op ∈ ops, op.context.isSome) :
    ∀ op ∈ ops.map Op.forget, op.context.isSome := by
  simpa [context_forget] using hops

/-- The driver, for callbacks that are given an adapter, is a system of cells. -/
theorem run_cells (hd : Sound d) (hops : ∀ op ∈ ops, op.context.isSome)
    (hv : Runs.Along (step hdr) (fun d op => op.Valid d) d ops) :
    (Runs.run (step hdr) d ops).map (fun d' => toCells d'.view) =
      Runs.run (Runs.cells Op.context (answerIn d.memory.active d.memory.boards))
        (toCells d.view) (ops.map Op.forget) := by
  have hcells := (simulates_cells d.memory.active d.memory.boards).run
    (Runs.along_of_forall d.view (contexts_forget hops)) ⟨rfl, rfl⟩
  rw [List.map_id] at hcells
  rw [← hcells, ← (simulates hdr).run hv hd]
  cases Runs.run (step hdr) d ops <;> rfl

theorem miniports_of_run (hd : Sound d) (hops : ∀ op ∈ ops, op.context.isSome)
    (hv : Runs.Along (step hdr) (fun d op => op.Valid d) d ops)
    (hrun : Runs.run (step hdr) d ops = .ok d') :
    d'.memory.active = d.memory.active ∧ d'.memory.boards = d.memory.boards := by
  have hservice : Runs.run Service.step d.view (ops.map Op.forget) = .ok d'.view := by
    rw [← (simulates hdr).run hv hd, hrun]
    rfl
  exact (Runs.Visits.end hservice).invariant (simulates_cells d.memory.active d.memory.boards).kept
    (Runs.along_of_forall d.view (contexts_forget hops)) ⟨rfl, rfl⟩

theorem run_cells_ok (hd : Sound d) (hops : ∀ op ∈ ops, op.context.isSome)
    (hv : Runs.Along (step hdr) (fun d op => op.Valid d) d ops)
    (hrun : Runs.run (step hdr) d ops = .ok d') :
    Runs.run (Runs.cells Op.context (answerIn d.memory.active d.memory.boards)) (toCells d.view)
      (ops.map Op.forget) = .ok (toCells d'.view) := by
  rw [← run_cells hd hops hv, hrun]
  rfl

theorem addressed_forget (k : Option Pointer) (ops : List Op) :
    Runs.addressed Op.context k (ops.map Op.forget) =
      (Runs.addressed Op.context k ops).map Op.forget := by
  simp [Runs.addressed, List.filter_map, Function.comp_def, context_forget]

section Interleaving

variable {cs cs' : List Op} {d₁ d₂ : Driver}

theorem contexts_of_same (hcs : ∀ op ∈ cs, op.context.isSome)
    (hsame : ∀ k, Runs.addressed Op.context k cs = Runs.addressed Op.context k cs') :
    ∀ op ∈ cs', op.context.isSome := by
  intro op hop
  by_contra hnone
  have hmem : op ∈ Runs.addressed Op.context none cs' := by
    simpa [Runs.addressed, hop] using hnone
  rw [← hsame] at hmem
  exact hnone (hcs op (List.mem_filter.mp hmem).1)

/-- An interleaving completes if another does, and leaves the same in every cell. -/
theorem completes_of_same (hd : Sound d) (hcs : ∀ op ∈ cs, op.context.isSome)
    (hsame : ∀ k, Runs.addressed Op.context k cs = Runs.addressed Op.context k cs')
    (hvalid : Runs.Along (step hdr) (fun d op => op.Valid d) d cs)
    (hvalid' : Runs.Along (step hdr) (fun d op => op.Valid d) d cs')
    (h : Runs.run (step hdr) d cs = .ok d₁) :
    ∃ d₂, Runs.run (step hdr) d cs' = .ok d₂ ∧ toCells d₂.view = toCells d₁.view := by
  have hforget : ∀ k, Runs.addressed Op.context k (cs.map Op.forget) =
      Runs.addressed Op.context k (cs'.map Op.forget) := fun k => by
    rw [addressed_forget, addressed_forget, hsame]
  have hcells := (Runs.run_cells_congr hforget).mp (run_cells_ok hd hcs hvalid h)
  rw [← run_cells hd (contexts_of_same hcs hsame) hvalid'] at hcells
  cases hrun : Runs.run (step hdr) d cs' with
  | error e =>
    rw [hrun] at hcells
    cases hcells
  | ok d₂ =>
    rw [hrun] at hcells
    exact ⟨d₂, rfl, Except.ok.inj hcells⟩

end Interleaving

/-- From any state of a run, two valid interleavings of the same callbacks look the same to the
service : both complete or neither does, they leave it the same memory, and the calls about
each adapter and what its callbacks returned are the same, in the same order. -/
theorem interleavings_agree (hdr : NdisHeaders) (ops : List Op)
    (hv : Runs.Along (step hdr) (fun d op => op.Valid d) .initial ops) {d : Driver}
    (hd : Runs.Visits (step hdr) .initial ops d) (cs cs' : List Op)
    (hcs : ∀ op ∈ cs, op.context.isSome)
    (hsame : ∀ k, Runs.addressed Op.context k cs = Runs.addressed Op.context k cs')
    (hvalid : Runs.Along (step hdr) (fun d op => op.Valid d) d cs)
    (hvalid' : Runs.Along (step hdr) (fun d op => op.Valid d) d cs') :
    ((∃ d₁, Runs.run (step hdr) d cs = .ok d₁) ↔ ∃ d₂, Runs.run (step hdr) d cs' = .ok d₂) ∧
      ∀ d₁ d₂, Runs.run (step hdr) d cs = .ok d₁ → Runs.run (step hdr) d cs' = .ok d₂ →
        d₁.memory = d₂.memory ∧
          ∀ p, d₁.view.trace.filter (fun a => a.context = some p) =
            d₂.view.trace.filter fun a => a.context = some p := by
  have hsound := sound_of_visits hv hd
  have hcs' := contexts_of_same hcs hsame
  refine ⟨⟨fun ⟨d₁, h⟩ => ?_, fun ⟨d₂, h⟩ => ?_⟩, fun d₁ d₂ h₁ h₂ => ?_⟩
  · obtain ⟨d₂, h₂, -⟩ := completes_of_same hsound hcs hsame hvalid hvalid' h
    exact ⟨d₂, h₂⟩
  · obtain ⟨d₁, h₁, -⟩ := completes_of_same hsound hcs' (fun k => (hsame k).symm) hvalid' hvalid h
    exact ⟨d₁, h₁⟩
  · obtain ⟨d₃, h₃, hcells⟩ := completes_of_same hsound hcs hsame hvalid hvalid' h₁
    obtain rfl := Except.ok.inj (h₂.symm.trans h₃)
    obtain ⟨hactive₁, hboards₁⟩ := miniports_of_run hsound hcs hvalid h₁
    obtain ⟨hactive₂, hboards₂⟩ := miniports_of_run hsound hcs' hvalid' h₂
    have hports : d₁.memory.ports = d₂.memory.ports := by
      ext1 p
      exact (congrArg Cell.port (congrFun hcells (some p))).symm
    refine ⟨?_, fun p => (congrArg Cell.trace (congrFun hcells (some p))).symm⟩
    calc d₁.memory = ⟨d₁.memory.active, d₁.memory.boards, d₁.memory.ports⟩ := rfl
      _ = ⟨d₂.memory.active, d₂.memory.boards, d₂.memory.ports⟩ := by
        rw [hactive₁, hactive₂, hboards₁, hboards₂, hports]

/-! ### Two orders -/

/-- Two adapters are up. -/
def twoAdapters : List Op :=
  [load, bringUp 1 0x3000, bringUp 2 0x4000]

/-- One adapter is restarted, the other halted, and the first paused. -/
def haltBetween : List Op :=
  [.callback (.restart 0x3000 0x500), halt 0x4000, .callback (.pause 0x3000 0x600)]

/-- One adapter is restarted and paused, and the other is halted. -/
def haltAfter : List Op :=
  [.callback (.restart 0x3000 0x500), .callback (.pause 0x3000 0x600), halt 0x4000]

theorem addressed_haltBetween (k : Option Pointer) :
    Runs.addressed Op.context k haltBetween = Runs.addressed Op.context k haltAfter := by
  by_cases h₃ : some 0x3000 = k
  · subst h₃
    rfl
  · by_cases h₄ : some 0x4000 = k
    · subst h₄
      rfl
    · simp [Runs.addressed, haltBetween, haltAfter, halt, Op.context, Callback.context, h₃, h₄]

theorem agree_of_haltBetween :
    ∃ d d₁ d₂, Runs.run (step ndis620) .initial twoAdapters = .ok d ∧
      Runs.run (step ndis620) d haltBetween = .ok d₁ ∧
      Runs.run (step ndis620) d haltAfter = .ok d₂ ∧ d₁.memory = d₂.memory := by
  obtain ⟨d, d₁, d₂, hrun, h₁, h₂, hvalid, hvalid'⟩ :
      ∃ d d₁ d₂, Runs.run (step ndis620) .initial twoAdapters = .ok d ∧
        Runs.run (step ndis620) d haltBetween = .ok d₁ ∧
        Runs.run (step ndis620) d haltAfter = .ok d₂ ∧
        Runs.Along (step ndis620) (fun d op => op.Valid d) d haltBetween ∧
        Runs.Along (step ndis620) (fun d op => op.Valid d) d haltAfter :=
    ⟨_, _, _, rfl, rfl, rfl, by decide, by decide⟩
  exact ⟨d, d₁, d₂, hrun, h₁, h₂, ((interleavings_agree ndis620 twoAdapters (by decide) (.end hrun)
    haltBetween haltAfter (by decide) addressed_haltBetween hvalid hvalid').2 d₁ d₂ h₁ h₂).1⟩

end VirtualAX25
