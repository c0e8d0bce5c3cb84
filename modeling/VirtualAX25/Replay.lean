import VirtualAX25.Refinement

/-!
# Replaying the trace

What the service does can be read as a journal of its memory : a call or a return says what
becomes of the memory (`Action.replay`). The calls of a reply and its return lead from the
memory before it to the one it leaves (`replays_reply`), so at every moment of a run the memory
is the replay of what was seen since the start (`memory_eq_replay`).
-/

namespace VirtualAX25

open Service

namespace Service

namespace Memory

/-- The claim an initialisation made on the miniport at `this`. -/
def claimed (m : Memory) (op : Op) (this : Pointer) : Memory :=
  match m.boards this with
  | none => m
  | some b =>
    match op.reaches this b.handle with
    | none => m
    | some (parameters, answers) =>
      m.setBoard this (some (b.claim parameters
        (if b.handle = nullptr then nullptr else answers.block.address)))

/-- The port at `p`, if there is one, runs or not. -/
def run (m : Memory) (p : Pointer) (running : Bool) : Memory :=
  m.setPort p ((m.ports p).map fun port => { port with running := running })

/-- What the return of an entry says of the memory. -/
def settle (m : Memory) : Op → Memory
  | .miniportInitializeEx this parameters answers =>
    m.claimed (.miniportInitializeEx this parameters answers) this
  | .callback (.initializeEx handle context parameters answers) =>
    m.claimed (.callback (.initializeEx handle context parameters answers)) context
  | .callback (.pause context _) => if context = nullptr then m else m.run context false
  | .callback (.restart context parameters) =>
    if context = nullptr ∨ parameters = nullptr then m else m.run context true
  | _ => m

end Memory

/-- What an action says of the memory. -/
def Action.replay (a : Action) (m : Memory) : Memory :=
  match a with
  | .constructed this => m.start this .empty
  | .register object _ this answers =>
    m.setBoard this ((m.boards this).map fun b => b.register object answers)
  | .destroyed this => m.without this
  | .take handle block =>
    if block = nullptr then m else m.setPort block (some { handle := handle, running := false })
  | .give _ block => m.setPort block none
  | .returned op _ => m.settle op
  | _ => m

/-- Replay the calls, the newest of which comes first. -/
def replay (m : Memory) (calls : List Action) : Memory :=
  calls.foldr Action.replay m

variable {m m' : Memory} {op : Op} {r : Reply} {this p : Pointer} {b : Board}
  {calls calls' : List Action}

theorem replay_append : replay m (calls ++ calls') = replay (replay m calls') calls :=
  List.foldr_append

theorem replay_idle (hcalls : ∀ a ∈ calls, a.Idle) : replay m calls = m := by
  induction calls with
  | nil => rfl
  | cons a calls ih =>
    have ha := hcalls a List.mem_cons_self
    rw [replay, List.foldr_cons, ← replay, ih fun a' ha' => hcalls a' (List.mem_cons_of_mem _ ha')]
    cases a <;> simp_all [Action.Idle, Action.replay]

theorem replay_describe (handle : NdisHandle) (registration general : NdisStatus) :
    replay m (Memory.describe handle p registration general) = m := by
  unfold Memory.describe
  split_ifs <;> rfl

/-- Replaying the calls that free the ports at `ps` removes them. -/
theorem replay_gives : ∀ {ps : List Pointer} {m : Memory},
    (∀ p ∈ ps, m'.ports p = none → m.ports p = none) →
      replay m (m'.gives ps) = m.removePorts ps
  | [], m, _ => by simp [Memory.gives, replay]
  | p :: ps, m, h => by
    have hgives : m'.gives (p :: ps) = m'.gives ps ++ (m'.giveAt p).toList := by
      cases hp : m'.giveAt p <;> simp [Memory.gives, hp]
    have hfirst : replay m (m'.giveAt p).toList = m.setPort p none := by
      cases hp : m'.ports p with
      | none =>
        have hself : m.setPort p (m.ports p) = m := m.setPort_self p
        rw [h p List.mem_cons_self hp] at hself
        simp [Memory.giveAt, hp, replay, hself]
      | some port => simp [Memory.giveAt, hp, replay, Action.replay]
    rw [hgives, replay_append, hfirst, replay_gives, Memory.removePorts_setPort]
    intro q hq hnone
    have hq' := h q (List.mem_cons_of_mem _ hq) hnone
    by_cases hqp : q = p <;> simp [hqp, hq']

/-! ## Replies -/

/-- Replaying the calls of the reply and its return leads from `m` to the memory it leaves. -/
def Replays (m : Memory) (op : Op) (x : Except Fault Reply) : Prop :=
  ∀ r, x = .ok r → (replay m r.calls).settle op = r.memory

theorem replays_ok (h : (replay m r.calls).settle op = r.memory) : Replays m op (.ok r) := by
  intro r' hr
  rwa [← Except.ok.inj hr]

theorem replays_read {α : Type} {f : Pointer → Option α} {k : α → Except Fault Reply}
    (hk : ∀ a, f p = some a → Replays m op (k a)) :
    Replays m op ((Heap.read f p).bind k) := by
  intro r hr
  obtain ⟨a, hread, hr⟩ := Runs.bind_eq_ok.mp hr
  exact hk a (Heap.read_eq_ok_iff.mp hread).2 r hr

/-- An entry that is answered without a call, and says nothing when it returns. -/
theorem replays_same (status : Option NdisStatus) (hcalls : ∀ a ∈ calls, a.Idle)
    (hsettle : m.settle op = m) : Replays m op (.ok (m.same status calls)) :=
  replays_ok (by rw [Memory.same_calls, replay_idle hcalls, hsettle, Memory.same_memory])

theorem claimed_of_reaches {parameters : InitParameters} {answers : InitAnswers}
    (hb : m.boards this = some b) (hreach : op.reaches this b.handle = some (parameters, answers)) :
    m.claimed op this = m.setBoard this (some (b.claim parameters
      (if b.handle = nullptr then nullptr else answers.block.address))) := by
  simp [Memory.claimed, hb, hreach]

theorem claimed_of_none (h : ∀ b, m.boards this = some b → op.reaches this b.handle = none) :
    m.claimed op this = m := by
  unfold Memory.claimed
  cases hb : m.boards this with
  | none => rfl
  | some b => simp [h b hb]

theorem replays_initialise {parameters : Option InitParameters} {answers : InitAnswers}
    (hsettle : ∀ m : Memory, m.settle op = m.claimed op this)
    (hreach : ∀ b, m.boards this = some b →
      op.reaches this b.handle = parameters.map (·, answers)) :
    Replays m op (m.initialise this parameters answers) := by
  refine replays_read fun b hb => ?_
  have hreach := hreach b hb
  cases parameters with
  | none =>
    by_cases hfull : b.claims.length = 16
    · rw [if_pos hfull]
      refine replays_same _ (by simp [Action.Idle]) ((hsettle m).trans ?_)
      exact claimed_of_none fun b' hb' => Option.some.inj (hb.symm.trans hb') ▸ hreach
    · rw [if_neg hfull]
      intro r hr
      cases hr
  | some parameters =>
    have hclaimed := fun {m' : Memory} (hm' : m'.boards this = some b) =>
      (hsettle m').trans (claimed_of_reaches hm' hreach)
    by_cases hfull : b.claims.length = 16
    · rw [if_pos hfull]
      refine replays_same _ (by simp [Action.Idle]) ((hclaimed hb).trans ?_)
      have hself : m.setBoard this (some b) = m := by
        rw [← hb]
        simp [Memory.setBoard]
      simp [Board.claim, hfull, hself]
    rw [if_neg hfull]
    by_cases hnull : b.handle = nullptr ∨ answers.block.address = nullptr
    · simp only [if_pos hnull]
      refine replays_ok ?_
      rw [replay_idle (by split_ifs <;> simp [Action.Idle]), hclaimed hb]
      rcases hnull with h | h <;> simp [h]
    · simp only [if_neg hnull]
      obtain ⟨hh, h0⟩ := not_or.mp hnull
      refine replays_ok ?_
      have htake : replay m [.initialiseDpc answers.block.address,
          .take b.handle answers.block.address] =
          m.setPort answers.block.address (some { handle := b.handle, running := false }) := by
        simp [replay, Action.replay, h0]
      have hboards : (m.setPort answers.block.address
          (some { handle := b.handle, running := false })).boards this = some b := hb
      rw [replay_append, htake, replay_describe, hclaimed hboards, if_neg hh]
      rfl

theorem replays_announce (handle context : NdisHandle) (parameters : Option InitParameters)
    (answers : InitAnswers) :
    Replays m (.callback (.initializeEx handle context parameters answers))
      (m.announce handle context parameters answers) := by
  unfold Memory.announce
  split_ifs with h0
  · exact replays_same _ (by simp) (claimed_of_none fun b _ => by simp [Op.reaches, h0])
  · refine replays_read fun b hb => ?_
    have hboard : ∀ b', m.boards context = some b' → b' = b := fun b' hb' =>
      Option.some.inj (hb'.symm.trans hb)
    split_ifs with hh
    · refine replays_same _ (by simp) (claimed_of_none fun b' hb' => ?_)
      simp [Op.reaches, hboard b' hb', hh]
    · refine replays_initialise (fun _ => rfl) fun b' hb' => ?_
      simp [Op.reaches, h0, hboard b' hb', not_not.mp hh]

/-- A pause or a restart of a port says so when it returns. -/
theorem replays_setRunning {running : Bool} (hsettle : m.settle op = m.run p running) :
    Replays m op (m.setRunning p running) := by
  refine replays_read fun port hp => replays_ok ?_
  simp [replay, hsettle, Memory.run, hp]

theorem replays_destroy (hsettle : ∀ m : Memory, m.settle op = m) :
    Replays m op (m.destroy this) := by
  refine replays_read fun b hb r hr => ?_
  obtain ⟨-, rfl⟩ := Memory.haltAll_eq_ok_iff.mp hr
  have hdestroyed : replay m [.destroyed this] = m.without this := rfl
  rw [hsettle, replay_append, hdestroyed, replay_gives fun _ _ h => h]

theorem replays_unload (object : Pointer) :
    Replays m (.callback (.driverUnload object)) m.unload := by
  have hdestroy : Replays m (.callback (.driverUnload object)) (m.destroy m.active) :=
    replays_destroy fun _ => rfl
  unfold Memory.unload
  split_ifs
  · exact replays_ok rfl
  · intro r hr
    obtain ⟨r', hr', rfl⟩ := Runs.map_eq_ok.mp hr
    exact hdestroy r' hr'

theorem replays_callback (c : Callback) : Replays m (.callback c) (c.reply m) := by
  cases c with
  | initializeEx handle context parameters answers => exact replays_announce _ _ _ _
  | haltEx context action => exact replays_read fun port _ => replays_ok rfl
  | driverUnload object => exact replays_unload object
  | pause context parameters =>
    simp only [Callback.reply, Memory.pause]
    split_ifs with h0
    · exact replays_same _ (by simp) (by simp [Memory.settle, h0])
    · exact replays_setRunning (by simp [Memory.settle, h0])
  | restart context parameters =>
    simp only [Callback.reply, Memory.restart]
    split_ifs with h0 hp
    · exact replays_same _ (by simp) (by simp [Memory.settle, h0])
    · exact replays_same _ (by simp) (by simp [Memory.settle, hp])
    · exact replays_setRunning (by simp [Memory.settle, h0, hp])
  | oidRequest context request =>
    simp only [Callback.reply, Memory.request]
    split_ifs
    · exact replays_ok rfl
    · exact replays_ok rfl
    · exact replays_read fun _ _ => replays_ok rfl
  | sendNetBufferLists context lists port flags =>
    simp only [Callback.reply, Memory.send]
    split_ifs
    · exact replays_read fun _ _ => replays_ok rfl
    · exact replays_read fun _ _ => replays_ok rfl
  | returnNetBufferLists context lists flags =>
    simp only [Callback.reply, Memory.takeBack]
    split_ifs
    · exact replays_read fun _ _ => replays_ok rfl
    · exact replays_read fun _ _ => replays_ok rfl

/-- The calls of a reply and its return lead to the memory it leaves. -/
theorem replays_reply (op : Op) : Replays m op (op.reply m) := by
  cases op with
  | driverEntry object path answers =>
    have hstart : replay m [.register object path answers.pool.address answers.register,
        .constructed answers.pool.address, .takePool answers.pool, .startTracing object path] =
        m.start answers.pool.address (Board.empty.register object answers.register) := by
      simp [replay, Action.replay, Memory.start_setBoard]
    refine replays_ok ?_
    unfold Memory.load
    split_ifs
    · rfl
    · rw [replay_append, hstart]
      rfl
    · rw [replay_append, hstart]
      rfl
  | constructMiniport this => exact replays_ok rfl
  | destroyMiniport this => exact replays_destroy fun _ => rfl
  | registerWithNdis this object path answers =>
    refine replays_read fun b hb => replays_ok ?_
    simp [replay, Action.replay, Memory.settle, hb]
  | miniportInitializeEx this parameters answers =>
    exact replays_initialise (fun _ => rfl) fun b _ => by simp [Op.reaches]
  | callback c => exact replays_callback c

end Service

/-! ## Runs -/

/-- The memory is what replaying the trace gives. -/
def Service.Replayed (s : Service) : Prop :=
  replay .empty s.trace = s.memory

theorem Service.Replayed.step {s s' : Service} {op : Op} (hs : s.Replayed)
    (h : Service.step s op = .ok s') : s'.Replayed := by
  obtain ⟨r, hr, rfl⟩ := Runs.map_eq_ok.mp h
  have hreply := replays_reply op r hr
  rw [← show replay .empty s.trace = s.memory from hs, ← replay_append] at hreply
  exact hreply

/-- At every moment of a run the memory of the driver is what replaying its calls and returns
gives : the log decides which `Miniport` is active, how each is registered and what it claims,
and which adapters are live, under which handles, and whether they run. -/
theorem memory_eq_replay (hdr : NdisHeaders) (ops : List Op)
    (hv : Runs.Along (step hdr) (fun d op => op.Valid d) .initial ops) {d : Driver}
    (hd : Runs.Visits (step hdr) .initial ops d) :
    d.memory = replay .empty (d.log.map Event.action) := by
  have hinitial : Driver.initial.view.Replayed := by
    rw [view_initial]
    rfl
  have hreplayed : d.view.Replayed :=
    (simulates hdr).invariant (Q := fun s op => op.ValidIn s.memory) (J := Service.Replayed)
      (C := fun _ => True) (fun d op _ => valid_iff d op) (fun _ _ _ hs _ _ h => hs.step h) hd hv
      (fun _ _ => trivial) sound_initial hinitial
  exact hreplayed.symm

theorem memory_eq_replay_upAndHalted :
    ∃ d, Runs.run (step ndis620) .initial
        [load, bringUp 1 0x3000, .callback (.restart 0x3000 0x500), bringUp 2 0x4000,
          halt 0x4000] = .ok d ∧
      d.memory = replay .empty (d.log.map Event.action) := by
  have hrun : Runs.run (step ndis620) .initial
      [load, bringUp 1 0x3000, .callback (.restart 0x3000 0x500), bringUp 2 0x4000,
        halt 0x4000] = .ok _ := rfl
  exact ⟨_, hrun, memory_eq_replay ndis620 _ (by decide) (.end hrun)⟩

end VirtualAX25
