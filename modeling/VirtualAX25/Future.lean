import VirtualAX25.Isolation
import VirtualAX25.ActiveContext

/-!
# What the future depends on

The service answers an entry out of its memory, and what it did before stays behind what it
does next (`simulates_after`). So drivers whose memory is the same to the service have the
same future to it (`same_future`). Once no `Miniport` is live the memory is empty
(`memory_eq_empty`), and the driver goes on as if it had just been loaded : runs that end so
can follow one another (`runs_follow`).

Whether an adapter runs has no part in any answer (`reply_quiet`), so a run can do without its
pauses and restarts (`states_inert`).
-/

namespace VirtualAX25

open Service

/-! ## Behind the trace -/

namespace Service

/-- The service in the memory `m`, before anything is seen of it. -/
def ofMemory (m : Memory) : Service where
  memory := m
  trace := []

/-- The service, after what was seen in `old`. -/
def after (old : List Action) (s : Service) : Service :=
  { s with trace := s.trace ++ old }

@[simp] theorem after_memory (old : List Action) (s : Service) :
    (s.after old).memory = s.memory :=
  rfl

/-- What was seen before has no part in a step. -/
theorem simulates_after (old : List Action) :
    Runs.Simulates step step (fun s op => op.ValidIn s.memory) (fun _ => True) (after old) id where
  kept _ _ _ _ _ _ := trivial
  commutes s op _ _ := by
    unfold step
    rw [after_memory, id]
    cases op.reply s.memory with
    | error e => rfl
    | ok r => simp [Except.map, after]

end Service

variable {hdr hdr' : NdisHeaders} {d d' : Driver} {ops : List Op}

theorem after_ofMemory (d : Driver) : (ofMemory d.memory).after d.view.trace = d.view :=
  rfl

/-- What a sound driver does next is what the service does in its memory. -/
theorem future_of_sound (hdr : NdisHeaders) (hd : Sound d) (next : List Op) :
    (Runs.Along (step hdr) (fun d op => op.Valid d) d next ↔
      Runs.Along Service.step (fun s op => op.ValidIn s.memory) (ofMemory d.memory)
        (next.map Op.forget)) ∧
      (Runs.Along (step hdr) (fun d op => op.Valid d) d next →
        (Runs.run (step hdr) d next).map Driver.view =
          (Runs.run Service.step (ofMemory d.memory) (next.map Op.forget)).map
            (after d.view.trace)) := by
  have hvalid : Runs.Along (step hdr) (fun d op => op.Valid d) d next ↔
      Runs.Along Service.step (fun s op => op.ValidIn s.memory) (ofMemory d.memory)
        (next.map Op.forget) := by
    rw [along_view hdr hd, (simulates_after d.view.trace).along_iff (s := ofMemory d.memory)
      (Q := fun s op => op.ValidIn s.memory) (fun _ _ _ => Iff.rfl) trivial, List.map_id,
      after_ofMemory]
  refine ⟨hvalid, fun hv => ?_⟩
  have hafter := (simulates_after d.view.trace).run (hvalid.mp hv) trivial
  rw [(simulates hdr).run hv hd, hafter, List.map_id, after_ofMemory]

/-- A store that leaves the port of an adapter as it is leaves the memory. -/
theorem memory_of_port {p : Pointer} {a a' : AX25Adapter} (ha : d.adapters.lookup p = some a)
    (hport : a'.port = a.port) : (d.storeAdapter p a').memory = d.memory := by
  have hports : Option.map AX25Adapter.port ∘ (d.adapters.store p a').lookup =
      Option.map AX25Adapter.port ∘ d.adapters.lookup := by
    rw [ports_store d.adapters (Heap.ne_null_of_lookup ha), hport]
    exact Function.update_eq_self_iff.mpr (by simp [ha])
  simp only [Driver.memory, Driver.storeAdapter, hports]

/-- Drivers whose memory is the same to the service have the same future to it : the same
continuations are valid, they fault alike, and otherwise look the same and leave the same
memory. What the view leaves out can differ, as in `run_of_forget`. -/
theorem same_future (hdr hdr' : NdisHeaders) (ops ops' : List Op)
    (hv : Runs.Along (step hdr) (fun d op => op.Valid d) .initial ops)
    (hv' : Runs.Along (step hdr') (fun d op => op.Valid d) .initial ops') {d d' : Driver}
    (hd : Runs.Visits (step hdr) .initial ops d) (hd' : Runs.Visits (step hdr') .initial ops' d')
    (hmemory : d.memory = d'.memory) (next next' : List Op)
    (hnext : next.map Op.forget = next'.map Op.forget) :
    (Runs.Along (step hdr) (fun d op => op.Valid d) d next ↔
      Runs.Along (step hdr') (fun d op => op.Valid d) d' next') ∧
      (Runs.Along (step hdr) (fun d op => op.Valid d) d next →
        ∃ r : Except Fault Service,
          (Runs.run (step hdr) d next).map Driver.view = r.map (after d.view.trace) ∧
            (Runs.run (step hdr') d' next').map Driver.view = r.map (after d'.view.trace)) := by
  obtain ⟨hvalid, hrun⟩ := future_of_sound hdr (sound_of_visits hv hd) next
  obtain ⟨hvalid', hrun'⟩ := future_of_sound hdr' (sound_of_visits hv' hd') next'
  rw [← hmemory, ← hnext] at hvalid' hrun'
  exact ⟨hvalid.trans hvalid'.symm, fun h =>
    ⟨_, hrun h, hrun' (hvalid'.mpr (hvalid.mp h))⟩⟩

/-- An adapter that came up, and one that was also paused. -/
theorem future_of_paused :
    ∃ d d', Runs.run (step ndis620) .initial [load, bringUp 1 0x3000] = .ok d ∧
      Runs.run (step ndis620) .initial
        [load, bringUp 1 0x3000, .callback (.pause 0x3000 0x500)] = .ok d' ∧
      (Runs.Along (step ndis620) (fun d op => op.Valid d) d [halt 0x3000] ↔
        Runs.Along (step ndis620) (fun d op => op.Valid d) d' [halt 0x3000]) := by
  obtain ⟨d, d', a, a', hrun, hrun', ha, hport, hmemory⟩ : ∃ d d' a a',
      Runs.run (step ndis620) .initial [load, bringUp 1 0x3000] = .ok d ∧
        Runs.run (step ndis620) .initial
          [load, bringUp 1 0x3000, .callback (.pause 0x3000 0x500)] = .ok d' ∧
        d.adapters.lookup 0x3000 = some a ∧ a'.port = a.port ∧
        d'.memory = (d.storeAdapter 0x3000 a').memory :=
    ⟨_, _, _, _, rfl, rfl, rfl, rfl, rfl⟩
  rw [memory_of_port ha hport] at hmemory
  exact ⟨d, d', hrun, hrun', (same_future ndis620 ndis620 _ _ (by decide) (by decide) (.end hrun)
    (.end hrun') hmemory.symm [halt 0x3000] [halt 0x3000] rfl).1⟩

/-! ## Starting over -/

/-- Once no `Miniport` is live there is nothing in memory. -/
theorem memory_eq_empty (hv : Runs.Along (step hdr) (fun d op => op.Valid d) .initial ops)
    (hd : Runs.Visits (step hdr) .initial ops d) (hnone : ∀ this, ¬d.miniports.Live this) :
    d.memory = .empty := by
  have hminiports : ∀ this, d.miniports.lookup this = none := fun this =>
    (d.miniports.not_live_iff).mp (hnone this)
  have hadapters : ∀ p, d.adapters.lookup p = none := fun p => by
    refine (d.adapters.not_live_iff).mp fun hp => ?_
    obtain ⟨this, m, hm, -⟩ := claimed_of_live hv hd hp
    exact hnone this (Heap.live_of_lookup hm)
  have hactive : d.activeContext = nullptr :=
    (context_valid_of_visits hv hd).resolve_right (hnone _)
  simp [Driver.memory, Memory.empty, Function.comp_def, hminiports, hadapters, hactive]

/-- To the service a driver without a `Miniport` goes on as if it had just been loaded. -/
theorem as_new (hv : Runs.Along (step hdr) (fun d op => op.Valid d) .initial ops)
    (hd : Runs.Visits (step hdr) .initial ops d) (hnone : ∀ this, ¬d.miniports.Live this)
    {next : List Op} (hnext : Runs.Along (step hdr) (fun d op => op.Valid d) .initial next) :
    Runs.Along (step hdr) (fun d op => op.Valid d) d next ∧
      (Runs.run (step hdr) d next).map Driver.view =
        ((Runs.run (step hdr) .initial next).map Driver.view).map (after d.view.trace) := by
  obtain ⟨hvalid, hrun⟩ := future_of_sound hdr (sound_of_visits hv hd) next
  rw [memory_eq_empty hv hd hnone] at hvalid hrun
  have hv' := hvalid.mpr ((along_iff hdr next).mp hnext)
  have hinitial : Driver.initial.view = ofMemory .empty := view_initial
  exact ⟨hv', by rw [hrun hv', (simulates hdr).run hnext sound_initial, hinitial]⟩

/-- What is seen of a run, if it completes. -/
def traceOf (hdr : NdisHeaders) (ops : List Op) : List Action :=
  match Runs.run (step hdr) .initial ops with
  | .ok d => d.view.trace
  | .error _ => []

theorem traceOf_of_run (hrun : Runs.run (step hdr) .initial ops = .ok d) :
    traceOf hdr ops = d.view.trace := by
  rw [traceOf, hrun]

theorem map_after_nil (r : Except Fault Service) : r.map (after []) = r := by
  cases r with
  | error e => rfl
  | ok s => simp [Except.map, after]

theorem map_after_after (r : Except Fault Service) (old older : List Action) :
    (r.map (after old)).map (after older) = r.map (after (old ++ older)) := by
  cases r with
  | error e => rfl
  | ok s => simp [Except.map, after]

/-- Valid runs that leave no `Miniport` live can follow one another, and then any valid run :
to the service it does what it does in a driver just loaded, faults included. -/
theorem runs_follow (hdr : NdisHeaders) (last : List Op)
    (hlast : Runs.Along (step hdr) (fun d op => op.Valid d) .initial last) :
    ∀ runs : List (List Op),
      (∀ ops ∈ runs, Runs.Along (step hdr) (fun d op => op.Valid d) .initial ops ∧
        ∃ d, Runs.run (step hdr) .initial ops = .ok d ∧ ∀ this, ¬d.miniports.Live this) →
      Runs.Along (step hdr) (fun d op => op.Valid d) .initial (runs.flatten ++ last) ∧
        (Runs.run (step hdr) .initial (runs.flatten ++ last)).map Driver.view =
          ((Runs.run (step hdr) .initial last).map Driver.view).map
            (after (runs.reverse.flatMap (traceOf hdr)))
  | [], _ => ⟨hlast, (map_after_nil _).symm⟩
  | ops :: runs, hruns => by
    obtain ⟨hv, d, hrun, hnone⟩ := hruns ops List.mem_cons_self
    obtain ⟨hnext, hview⟩ := runs_follow hdr last hlast runs fun ops' hops' =>
      hruns ops' (List.mem_cons_of_mem ops hops')
    obtain ⟨hvalid, hafter⟩ := as_new hv (.end hrun) hnone hnext
    have htrace : (ops :: runs).reverse.flatMap (traceOf hdr) =
        runs.reverse.flatMap (traceOf hdr) ++ d.view.trace := by
      simp [← traceOf_of_run hrun]
    rw [List.flatten_cons, List.append_assoc]
    refine ⟨Runs.along_append.mpr ⟨hv, fun d' hrun' => ?_⟩, ?_⟩
    · rwa [← Except.ok.inj (hrun.symm.trans hrun')]
    · rw [Runs.run_append, hrun, htrace, ← map_after_after, ← hview]
      exact hafter

theorem follow_of_upAndUnload :
    (Runs.run (step ndis620) .initial ([upAndUnload, upAndUnload].flatten ++ [load])).map
        Driver.view =
      ((Runs.run (step ndis620) .initial [load]).map Driver.view).map
        (after ([upAndUnload, upAndUnload].reverse.flatMap (traceOf ndis620))) := by
  obtain ⟨d, hrun, hnone⟩ : ∃ d, Runs.run (step ndis620) .initial upAndUnload = .ok d ∧
      d.miniports.addresses = [] := ⟨_, rfl, rfl⟩
  refine (runs_follow ndis620 [load] (by decide) [upAndUnload, upAndUnload] fun ops hops => ?_).2
  obtain rfl : ops = upAndUnload := by simpa using hops
  exact ⟨by decide, d, hrun, fun this => by simp [Heap.Live, hnone]⟩

/-! ## The state of an adapter -/

/-- The entry is a pause or a restart. -/
def Op.setsState : Op → Bool
  | .callback (.pause ..) | .callback (.restart ..) => true
  | _ => false

namespace Service

/-- The action is the return of a pause or of a restart. -/
def Action.setsState : Action → Bool
  | .returned op _ => op.setsState
  | _ => false

/-- The port, as if it did not run. -/
def Port.quiet (port : Port) : Port :=
  { port with running := false }

/-- The memory, as if no adapter ran. -/
def Memory.quiet (m : Memory) : Memory :=
  { m with ports := Option.map Port.quiet ∘ m.ports }

/-- The calls that are not the return of a pause or of a restart. -/
def quietCalls (calls : List Action) : List Action :=
  calls.filter fun a => !a.setsState

theorem quietCalls_append (calls calls' : List Action) :
    quietCalls (calls ++ calls') = quietCalls calls ++ quietCalls calls' :=
  List.filter_append ..

/-- The reply, as if no adapter ran. -/
def Reply.quiet (r : Reply) : Reply where
  status := r.status
  calls := quietCalls r.calls
  memory := r.memory.quiet

/-- The service, as if no adapter had been paused or restarted. -/
def quiet (s : Service) : Service where
  memory := s.memory.quiet
  trace := quietCalls s.trace

variable {m : Memory} {p : Pointer}

namespace Memory

@[simp] theorem quiet_active : m.quiet.active = m.active :=
  rfl

@[simp] theorem quiet_boards : m.quiet.boards = m.boards :=
  rfl

@[simp] theorem quiet_setBoard (b : Option Board) :
    (m.setBoard p b).quiet = m.quiet.setBoard p b :=
  rfl

@[simp] theorem quiet_setPort (port : Option Port) :
    (m.setPort p port).quiet = m.quiet.setPort p (port.map Port.quiet) := by
  simp [quiet, setPort, Function.comp_update]

end Memory

/-- Reading a port, and going on with what is there. -/
theorem quiet_of_port {k k' : Port → Except Fault Reply}
    (h : ∀ port, (k port).map Reply.quiet = k' port.quiet) :
    ((Heap.read m.ports p).bind k).map Reply.quiet = (Heap.read m.quiet.ports p).bind k' := by
  have hread : Heap.read m.quiet.ports p = (Heap.read m.ports p).map Port.quiet :=
    (Heap.map_read Port.quiet m.ports p).symm
  rw [hread]
  cases Heap.read m.ports p with
  | error e => rfl
  | ok port => exact h port

/-- Reading a board, and going on with what is there. -/
theorem quiet_of_board {k k' : Board → Except Fault Reply}
    (h : ∀ b, (k b).map Reply.quiet = k' b) :
    ((Heap.read m.boards p).bind k).map Reply.quiet = (Heap.read m.quiet.boards p).bind k' := by
  rw [Memory.quiet_boards]
  cases Heap.read m.boards p with
  | error e => rfl
  | ok b => exact h b

theorem quiet_same (status : Option NdisStatus) {calls : List Action}
    (hcalls : quietCalls calls = calls) :
    (Except.ok (m.same status calls) : Except Fault Reply).map Reply.quiet =
      .ok (m.quiet.same status calls) := by
  simp [Except.map, Reply.quiet, Memory.same, hcalls]

theorem halt_quiet : (m.halt p).map Reply.quiet = m.quiet.halt p :=
  quiet_of_port fun port => by simp [Except.map, Reply.quiet, quietCalls, Action.setsState,
    Port.quiet]

theorem haltAll_quiet : ∀ (ps : List Pointer) (m : Memory) (calls : List Action),
    (m.haltAll calls ps).map Reply.quiet = m.quiet.haltAll (quietCalls calls) ps
  | [], _, _ => rfl
  | p :: ps, m, calls => by
    rw [Memory.haltAll, Memory.haltAll, ← halt_quiet]
    cases m.halt p with
    | error e => rfl
    | ok r =>
      have ih := haltAll_quiet ps r.memory (r.calls ++ calls)
      rw [quietCalls_append] at ih
      exact ih

theorem destroy_quiet (this : Pointer) :
    (m.destroy this).map Reply.quiet = m.quiet.destroy this :=
  quiet_of_board fun b => haltAll_quiet b.pointers (m.without this) [.destroyed this]

theorem unload_quiet : m.unload.map Reply.quiet = m.quiet.unload := by
  unfold Memory.unload
  rw [Memory.quiet_active, ← destroy_quiet]
  split_ifs
  · rfl
  · cases m.destroy m.active <;> rfl

theorem describe_quiet (handle : NdisHandle) (p : Pointer) (registration general : NdisStatus) :
    quietCalls (Memory.describe handle p registration general) =
      Memory.describe handle p registration general := by
  unfold Memory.describe
  split_ifs <;> rfl

theorem initialise_quiet (this : Pointer) (parameters : Option InitParameters)
    (answers : InitAnswers) :
    (m.initialise this parameters answers).map Reply.quiet =
      m.quiet.initialise this parameters answers := by
  refine quiet_of_board fun b => ?_
  by_cases hfull : b.claims.length = 16
  · rw [if_pos hfull, if_pos hfull]
    rfl
  · rw [if_neg hfull, if_neg hfull]
    cases parameters with
    | none => rfl
    | some parameters =>
      by_cases hnull : b.handle = nullptr ∨ answers.block.address = nullptr
      · simp only [if_pos hnull]
        split_ifs <;> rfl
      · have hcalls : ∀ registration general,
            quietCalls (Memory.describe b.handle answers.block.address registration general ++
              [.initialiseDpc answers.block.address, .take b.handle answers.block.address]) =
            Memory.describe b.handle answers.block.address registration general ++
              [.initialiseDpc answers.block.address, .take b.handle answers.block.address] := by
          intro registration general
          rw [quietCalls_append, describe_quiet]
          rfl
        simp [hnull, Except.map, Reply.quiet, hcalls, Port.quiet]

theorem announce_quiet (handle context : NdisHandle) (parameters : Option InitParameters)
    (answers : InitAnswers) :
    (m.announce handle context parameters answers).map Reply.quiet =
      m.quiet.announce handle context parameters answers := by
  unfold Memory.announce
  split_ifs
  · exact quiet_same _ rfl
  · refine quiet_of_board fun b => ?_
    split_ifs
    · exact quiet_same _ rfl
    · exact initialise_quiet _ _ _

theorem load_quiet (object path : Pointer) (answers : EntryAnswers) :
    (m.load object path answers).quiet = m.quiet.load object path answers := by
  unfold Memory.load
  split_ifs <;> rfl

/-- Whether adapters run has no part in the answer to a callback, pauses and restarts apart. -/
theorem callback_quiet {c : Callback} (hc : (Op.callback c).setsState = false) :
    (c.reply m).map Reply.quiet = c.reply m.quiet := by
  cases c with
  | initializeEx handle context parameters answers => exact announce_quiet _ _ _ _
  | haltEx context action => exact halt_quiet
  | driverUnload object => exact unload_quiet
  | pause context parameters => cases hc
  | restart context parameters => cases hc
  | oidRequest context request =>
    simp only [Callback.reply, Memory.request]
    split_ifs
    · exact quiet_same _ rfl
    · exact quiet_same _ rfl
    · exact quiet_of_port fun _ => quiet_same _ rfl
  | sendNetBufferLists context lists port flags =>
    simp only [Callback.reply, Memory.send]
    split_ifs
    · exact quiet_of_board fun _ => quiet_same _ rfl
    · exact quiet_of_port fun _ => quiet_same _ rfl
  | returnNetBufferLists context lists flags =>
    simp only [Callback.reply, Memory.takeBack]
    split_ifs
    · exact quiet_of_board fun _ => quiet_same _ rfl
    · exact quiet_of_port fun _ => quiet_same _ rfl

theorem reply_quiet {op : Op} (hop : op.setsState = false) :
    (op.reply m).map Reply.quiet = op.reply m.quiet := by
  cases op with
  | driverEntry object path answers => exact congrArg Except.ok (load_quiet object path answers)
  | constructMiniport this => rfl
  | destroyMiniport this => exact destroy_quiet this
  | registerWithNdis this object path answers => exact quiet_of_board fun _ => rfl
  | miniportInitializeEx this parameters answers => exact initialise_quiet _ _ _
  | callback c => exact callback_quiet hop

theorem setRunning_quiet (running : Bool) (h0 : p ≠ nullptr) (hp : (m.ports p).isSome) :
    ∃ r, m.setRunning p running = .ok r ∧ r.calls = [] ∧ r.memory.quiet = m.quiet := by
  obtain ⟨port, hport⟩ := Option.isSome_iff_exists.mp hp
  rw [Memory.setRunning, Heap.read_eq_ok_iff.mpr ⟨h0, hport⟩]
  refine ⟨_, rfl, rfl, ?_⟩
  have hself : Option.map Port.quiet (some { port with running := running }) =
      m.quiet.ports p := by
    simp [Memory.quiet, hport, Port.quiet]
  rw [Memory.quiet_setPort, hself, Memory.setPort_self]

/-- A pause or a restart calls nothing, and changes nothing but whether the adapter runs. -/
theorem reply_of_setsState {op : Op} (hop : op.setsState = true) (hv : op.ValidIn m) :
    ∃ r, op.reply m = .ok r ∧ r.calls = [] ∧ r.memory.quiet = m.quiet := by
  cases op with
  | callback c =>
    cases c with
    | pause context parameters =>
      simp only [Op.reply, Callback.reply, Memory.pause]
      split_ifs with h0
      · exact ⟨_, rfl, rfl, rfl⟩
      · exact setRunning_quiet false h0 (hv.resolve_left h0)
    | restart context parameters =>
      simp only [Op.reply, Callback.reply, Memory.restart]
      split_ifs with h0
      · exact ⟨_, rfl, rfl, rfl⟩
      · exact ⟨_, rfl, rfl, rfl⟩
      · exact setRunning_quiet true h0 (hv.resolve_left h0)
    | _ => cases hop
  | _ => cases hop

theorem callback_validIn_quiet (c : Callback) : c.ValidIn m.quiet ↔ c.ValidIn m := by
  cases c <;> simp [Callback.ValidIn, Memory.quiet]

theorem validIn_quiet (op : Op) : op.ValidIn m.quiet ↔ op.ValidIn m := by
  cases op with
  | callback c => exact callback_validIn_quiet c
  | _ => simp [Op.ValidIn, Memory.quiet]

/-- Without its pauses and restarts a run looks as if no adapter ran. -/
theorem stutters_quiet :
    Runs.Stutters step step (fun s op => op.ValidIn s.memory) quiet
      (Option.guard fun op => !op.setsState) where
  commutes s op k _ hk := by
    obtain ⟨rfl, hop⟩ := Option.guard_eq_some_iff.mp hk
    rw [Bool.not_eq_true'] at hop
    unfold step
    rw [quiet, ← reply_quiet hop]
    cases op.reply s.memory with
    | error e => rfl
    | ok r => simp [Except.map, quiet, Reply.quiet, quietCalls, Action.setsState, hop]
  silent s op hv hk := by
    have hop : op.setsState = true := by simpa [Option.guard] using hk
    obtain ⟨r, hr, hcalls, hmemory⟩ := reply_of_setsState hop hv
    simp [step, hr, Except.map, quiet, hcalls, hmemory, quietCalls, Action.setsState, hop]

end Service

theorem setsState_forget (op : Op) : op.forget.setsState = op.setsState := by
  cases op with
  | callback c => cases c <;> rfl
  | _ => rfl

/-- A run is valid without its pauses and restarts, and does the same to the service, faults
included : but for the returns of the pauses and restarts it looks the same, and in the end it
leaves the same memory but for which adapters run. -/
theorem states_inert (hdr : NdisHeaders) (ops : List Op)
    (hv : Runs.Along (step hdr) (fun d op => op.Valid d) .initial ops) :
    Runs.Along (step hdr) (fun d op => op.Valid d) .initial
        (ops.filter fun op => !op.setsState) ∧
      (Runs.run (step hdr) .initial (ops.filter fun op => !op.setsState)).map Driver.view =
        ((Runs.run (step hdr) .initial ops).map Driver.view).map Service.quiet := by
  have hservice := (along_iff hdr ops).mp hv
  have hlabels : (ops.map Op.forget).filterMap (Option.guard fun op => !op.setsState) =
      (ops.filter fun op => !op.setsState).map Op.forget := by
    rw [List.filterMap_eq_filter, List.filter_map]
    simp [Function.comp_def, setsState_forget]
  have hinitial : Driver.initial.view.quiet = Driver.initial.view := by
    rw [view_initial]
    rfl
  have hrest := stutters_quiet.along (Q := fun s op => op.ValidIn s.memory) ?_ hservice
  · rw [hlabels, hinitial] at hrest
    have hv' := (along_iff hdr _).mpr hrest
    refine ⟨hv', ?_⟩
    rw [(simulates hdr).run hv' sound_initial, (simulates hdr).run hv sound_initial,
      stutters_quiet.run hservice, hlabels, hinitial]
  · intro s op k hvalid hk
    obtain ⟨rfl, -⟩ := Option.guard_eq_some_iff.mp hk
    exact (validIn_quiet op).mpr hvalid

/-- A chain is sent to a running adapter, and to a paused one, before both are gone. -/
def pausedBetween : List Op :=
  [load, bringUp 1 0x3000, .callback (.restart 0x3000 0x500),
    .callback (.sendNetBufferLists 0x3000 [0x700] 0 0), .callback (.pause 0x3000 0x500),
    .callback (.sendNetBufferLists 0x3000 [0x800] 0 0), .callback (.driverUnload 0x100)]

theorem inert_pausedBetween :
    ((Runs.run (step ndis620) .initial [load, bringUp 1 0x3000,
        .callback (.sendNetBufferLists 0x3000 [0x700] 0 0),
        .callback (.sendNetBufferLists 0x3000 [0x800] 0 0),
        .callback (.driverUnload 0x100)]).map Driver.view) =
      ((Runs.run (step ndis620) .initial pausedBetween).map Driver.view).map Service.quiet :=
  (states_inert ndis620 pausedBetween (by decide)).2

end VirtualAX25
