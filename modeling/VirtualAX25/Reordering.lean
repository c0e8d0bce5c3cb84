import VirtualAX25.Commutation
import VirtualAX25.Refinement

/-!
# Entries that can be taken in any order

What an entry of the service reads and writes can be told from its arguments (`Op.reads`,
`Op.writes`), at the grain of the active context, the registration and the claims of each
board, and the ports. The destruction of a board and the unload are taken to use everything.
These are footprints of the replies (`footprint`), and validity is decided there as well.

So entries neither of which writes what the other uses are independent : whatever run of the
driver they stand in, neighbours that are independent can be swapped (`reordered_agree`).
-/

namespace VirtualAX25

open Service

namespace Service

/-! ## Places -/

/-- The places of the memory. -/
inductive Place
  | active
  | registration (this : Pointer)
  | claims (this : Pointer)
  | port (p : Pointer)

/-- What stands in a place. -/
inductive Content
  | active (this : Pointer)
  | registration (r : Option (NdisHandle × Pointer))
  | claims (claims : Option (List (NetIfIndex × Pointer)))
  | port (port : Option Port)

/-- What a board is registered with. -/
def Board.registered (b : Board) : NdisHandle × Pointer :=
  (b.handle, b.object)

namespace Memory

/-- What stands in a place of the memory. -/
def content (m : Memory) : Place → Content
  | .active => .active m.active
  | .registration this => .registration ((m.boards this).map Board.registered)
  | .claims this => .claims ((m.boards this).map Board.claims)
  | .port p => .port (m.ports p)

variable {m m' : Memory} {r : Place} {this p : Pointer} {b : Board}

theorem boards_eq (hr : m.content (.registration this) = m'.content (.registration this))
    (hc : m.content (.claims this) = m'.content (.claims this)) :
    m.boards this = m'.boards this := by
  have hr := Content.registration.inj hr
  have hc := Content.claims.inj hc
  cases hm : m.boards this with
  | none => simp_all
  | some b =>
    cases hm' : m'.boards this with
    | none => simp_all
    | some b' =>
      obtain ⟨handle, object, claims, _⟩ := b
      obtain ⟨handle', object', claims', _⟩ := b'
      simp_all [Board.registered]

/-- The memory is what stands in its places. -/
theorem ext_content (h : ∀ r, m.content r = m'.content r) : m = m' := by
  have hactive := Content.active.inj (h .active)
  have hboards : m.boards = m'.boards := funext fun this =>
    boards_eq (h (.registration this)) (h (.claims this))
  have hports : m.ports = m'.ports := funext fun p => Content.port.inj (h (.port p))
  calc m = ⟨m.active, m.boards, m.ports⟩ := rfl
    _ = m' := by rw [hactive, hboards, hports]

theorem content_setPort (port : Option Port) (hr : r ≠ .port p) :
    (m.setPort p port).content r = m.content r := by
  cases r with
  | port q =>
    have hq : q ≠ p := fun h => hr (congrArg Place.port h)
    simp [content, hq]
  | _ => rfl

theorem content_setBoard (c : Option Board) (hr : r ≠ .registration this)
    (hc : r ≠ .claims this) : (m.setBoard this c).content r = m.content r := by
  cases r with
  | registration q =>
    have hq : q ≠ this := fun h => hr (congrArg Place.registration h)
    simp [content, hq]
  | claims q =>
    have hq : q ≠ this := fun h => hc (congrArg Place.claims h)
    simp [content, hq]
  | _ => rfl

/-- A claim changes no registration. -/
theorem content_claim (hb : m.boards this = some b) (parameters : InitParameters)
    (hr : r ≠ .claims this) :
    (m.setBoard this (some (b.claim parameters p))).content r = m.content r := by
  by_cases h : r = .registration this
  · subst h
    simp [content, hb, Board.registered]
  · exact content_setBoard _ h hr

/-- A registration changes no claims. -/
theorem content_register (hb : m.boards this = some b) (object : Pointer)
    (answers : RegisterAnswers) (hr : r ≠ .registration this) :
    (m.setBoard this (some (b.register object answers))).content r = m.content r := by
  by_cases h : r = .claims this
  · subst h
    simp [content, hb, Board.register]
  · exact content_setBoard _ hr h

end Memory

end Service

/-! ## What an entry uses -/

/-- The places a callback reads, besides those it writes. -/
def Callback.reads : Callback → Set Place
  | .initializeEx _ context _ _ => {.registration context}
  | .driverUnload _ => Set.univ
  | .haltEx .. | .pause .. | .restart .. => ∅
  | .oidRequest context _ => {.port context}
  | .sendNetBufferLists context _ _ _ | .returnNetBufferLists context _ _ =>
    if context = nullptr then {.active} ∪ Set.range .registration else {.port context}

/-- The places a callback writes. -/
def Callback.writes : Callback → Set Place
  | .initializeEx _ context _ answers => {.claims context, .port answers.block.address}
  | .driverUnload _ => Set.univ
  | .haltEx context _ | .pause context _ | .restart context _ => {.port context}
  | .oidRequest .. | .sendNetBufferLists .. | .returnNetBufferLists .. => ∅

/-- The places an entry reads, besides those it writes. -/
def Op.reads : Op → Set Place
  | .driverEntry .. | .constructMiniport _ | .registerWithNdis .. => ∅
  | .destroyMiniport _ => Set.univ
  | .miniportInitializeEx this _ _ => {.registration this}
  | .callback c => c.reads

/-- The places an entry writes. -/
def Op.writes : Op → Set Place
  | .driverEntry _ _ answers =>
    {.active, .registration answers.pool.address, .claims answers.pool.address}
  | .constructMiniport this => {.active, .registration this, .claims this}
  | .destroyMiniport _ => Set.univ
  | .registerWithNdis this _ _ _ => {.registration this}
  | .miniportInitializeEx this _ answers => {.claims this, .port answers.block.address}
  | .callback c => c.writes

/-- Neither entry writes what the other uses. -/
def Op.Independent (op op' : Op) : Prop :=
  (∀ r ∈ op.writes, r ∉ op'.reads ∪ op'.writes) ∧ ∀ r ∈ op'.writes, r ∉ op.reads ∪ op.writes

/-! ## Footprints -/

namespace Service

/-- Where two memories agree. -/
abbrev Agree (S : Set Place) (m m' : Memory) : Prop :=
  Runs.AgreeOn Memory.content S m m'

/-- The output of a reply, and the memory it leaves. -/
def Reply.split (r : Reply) : (Option NdisStatus × List Action) × Memory :=
  ((r.status, r.calls), r.memory)

/-- The replies have the same output, and agree on the places in `S`. -/
structure Reply.Alike (S : Set Place) (r r' : Reply) : Prop where
  status : r.status = r'.status
  calls : r.calls = r'.calls
  memory : Agree S r.memory r'.memory

/-- The outcomes are the same fault, or replies that are alike. -/
def SameOutcome (S : Set Place) (x x' : Except Fault Reply) : Prop :=
  match x, x' with
  | .ok r, .ok r' => r.Alike S r'
  | .error e, .error e' => e = e'
  | _, _ => False

/-- The reply changes the places in `S` only. -/
def ChangesOnly (S : Set Place) (m : Memory) (x : Except Fault Reply) : Prop :=
  ∀ r, x = .ok r → ∀ place ∉ S, r.memory.content place = m.content place

variable {m m' : Memory} {S : Set Place} {x x' : Except Fault Reply} {this p : Pointer}

theorem seen_of_sameOutcome (h : SameOutcome S x x') :
    (x.map Reply.split).map (Runs.seenOn Memory.content S) =
      (x'.map Reply.split).map (Runs.seenOn Memory.content S) := by
  cases x with
  | error e =>
    cases x' with
    | error e' => exact congrArg Except.error h
    | ok r' => exact h.elim
  | ok r =>
    cases x' with
    | error e' => exact h.elim
    | ok r' =>
      have hplaces : (fun place : S => r.memory.content place) =
          fun place : S => r'.memory.content place :=
        funext fun place => h.memory place place.2
      simp only [Except.map, Reply.split, Runs.seenOn, h.status, h.calls, hplaces]

theorem sameOutcome_refl (x : Except Fault Reply) : SameOutcome S x x := by
  cases x with
  | error e => exact rfl
  | ok r => exact ⟨rfl, rfl, fun _ _ => rfl⟩

theorem changesOnly_ok {r : Reply} (h : ∀ place ∉ S, r.memory.content place = m.content place) :
    ChangesOnly S m (.ok r) := by
  intro r' hr place hplace
  rw [← Except.ok.inj hr, h place hplace]

theorem changesOnly_same (status : Option NdisStatus) (calls : List Action) :
    ChangesOnly S m (.ok (m.same status calls)) :=
  changesOnly_ok fun _ _ => rfl

theorem changesOnly_univ : ChangesOnly Set.univ m x := fun _ _ _ hplace =>
  (hplace trivial).elim

theorem sameOutcome_same (status : Option NdisStatus) (calls : List Action) (h : Agree S m m') :
    SameOutcome S (.ok (m.same status calls)) (.ok (m'.same status calls)) :=
  ⟨rfl, rfl, h⟩

/-! ### Reading -/

theorem read_congr {α : Type} {f f' : Pointer → Option α} (h : f p = f' p) :
    Heap.read f p = Heap.read f' p := by
  simp only [Heap.read, h]

/-- A reply that reads something on which the memories agree. -/
theorem sameOutcome_read {α : Type} {f f' : Pointer → Option α} {k k' : α → Except Fault Reply}
    (h : f p = f' p) (hk : ∀ a, f p = some a → SameOutcome S (k a) (k' a)) :
    SameOutcome S ((Heap.read f p).bind k) ((Heap.read f' p).bind k') := by
  rw [← read_congr h]
  cases hread : Heap.read f p with
  | error e => exact rfl
  | ok a => exact hk a (Heap.read_eq_ok_iff.mp hread).2

/-- A reply that reads how a board is registered. -/
theorem sameOutcome_registered {k k' : Board → Except Fault Reply}
    (h : m.content (.registration p) = m'.content (.registration p))
    (hk : ∀ b b', m.boards p = some b → m'.boards p = some b' → b.registered = b'.registered →
      SameOutcome S (k b) (k' b')) :
    SameOutcome S ((Heap.read m.boards p).bind k) ((Heap.read m'.boards p).bind k') := by
  have hregistered : (Heap.read m.boards p).map Board.registered =
      (Heap.read m'.boards p).map Board.registered := by
    rw [Heap.map_read, Heap.map_read]
    exact read_congr (Content.registration.inj h)
  cases hread : Heap.read m.boards p with
  | error e =>
    rw [hread] at hregistered
    cases hread' : Heap.read m'.boards p with
    | error e' =>
      rw [hread'] at hregistered
      exact Except.error.inj hregistered
    | ok b' =>
      rw [hread'] at hregistered
      cases hregistered
  | ok b =>
    rw [hread] at hregistered
    obtain ⟨b', hread', hb⟩ := Runs.map_eq_ok.mp hregistered.symm
    rw [hread']
    exact hk b b' (Heap.read_eq_ok_iff.mp hread).2 (Heap.read_eq_ok_iff.mp hread').2 hb.symm

theorem changesOnly_read {α : Type} {f : Pointer → Option α} {k : α → Except Fault Reply}
    (hk : ∀ a, f p = some a → ChangesOnly S m (k a)) :
    ChangesOnly S m ((Heap.read f p).bind k) := by
  intro r hr
  obtain ⟨a, hread, hr⟩ := Runs.bind_eq_ok.mp hr
  exact hk a (Heap.read_eq_ok_iff.mp hread).2 r hr

/-! ### What is left alone -/

theorem changesOnly_setPort (status : Option NdisStatus) (calls : List Action)
    (port : Option Port) :
    ChangesOnly {.port p} m
      (.ok { status := status, calls := calls, memory := m.setPort p port }) :=
  changesOnly_ok fun _ hplace => Memory.content_setPort port hplace

theorem changesOnly_setRunning (running : Bool) :
    ChangesOnly {.port p} m (m.setRunning p running) :=
  changesOnly_read fun _ _ => changesOnly_setPort _ _ _

theorem changesOnly_initialise (this : Pointer) (parameters : Option InitParameters)
    (answers : InitAnswers) :
    ChangesOnly {.claims this, .port answers.block.address} m
      (m.initialise this parameters answers) := by
  refine changesOnly_read fun b hb => ?_
  by_cases hfull : b.claims.length = 16
  · rw [if_pos hfull]
    exact changesOnly_same _ _
  rw [if_neg hfull]
  cases parameters with
  | none => exact fun r hr => nomatch hr
  | some parameters =>
    by_cases hnull : b.handle = nullptr ∨ answers.block.address = nullptr
    · simp only [if_pos hnull]
      refine changesOnly_ok fun place hplace => Memory.content_claim hb parameters ?_
      rintro rfl
      simp at hplace
    · simp only [if_neg hnull]
      refine changesOnly_ok fun place hplace => ?_
      rw [Set.mem_insert_iff, not_or] at hplace
      exact (Memory.content_setPort _ hplace.2).trans
        (Memory.content_claim hb parameters hplace.1)

theorem changesOnly_announce (handle context : NdisHandle) (parameters : Option InitParameters)
    (answers : InitAnswers) :
    ChangesOnly {.claims context, .port answers.block.address} m
      (m.announce handle context parameters answers) := by
  unfold Memory.announce
  split_ifs
  · exact changesOnly_same _ _
  · refine changesOnly_read fun b hb => ?_
    split_ifs
    · exact changesOnly_same _ _
    · exact changesOnly_initialise _ _ _

theorem changesOnly_callback (c : Callback) : ChangesOnly c.writes m (c.reply m) := by
  cases c with
  | initializeEx handle context parameters answers => exact changesOnly_announce _ _ _ _
  | haltEx context action => exact changesOnly_read fun _ _ => changesOnly_setPort _ _ _
  | driverUnload object => exact changesOnly_univ
  | pause context parameters =>
    simp only [Callback.reply, Memory.pause]
    split_ifs
    · exact changesOnly_same _ _
    · exact changesOnly_setRunning false
  | restart context parameters =>
    simp only [Callback.reply, Memory.restart]
    split_ifs
    · exact changesOnly_same _ _
    · exact changesOnly_same _ _
    · exact changesOnly_setRunning true
  | oidRequest context request =>
    simp only [Callback.reply, Memory.request]
    split_ifs
    · exact changesOnly_same _ _
    · exact changesOnly_same _ _
    · exact changesOnly_read fun _ _ => changesOnly_same _ _
  | sendNetBufferLists context lists port flags =>
    simp only [Callback.reply, Memory.send]
    split_ifs
    · exact changesOnly_read fun _ _ => changesOnly_same _ _
    · exact changesOnly_read fun _ _ => changesOnly_same _ _
  | returnNetBufferLists context lists flags =>
    simp only [Callback.reply, Memory.takeBack]
    split_ifs
    · exact changesOnly_read fun _ _ => changesOnly_same _ _
    · exact changesOnly_read fun _ _ => changesOnly_same _ _

theorem content_start {place : Place} (b : Board)
    (hplace : place ∉ ({.active, .registration this, .claims this} : Set Place)) :
    (m.start this b).content place = m.content place := by
  simp only [Set.mem_insert_iff, Set.mem_singleton_iff, not_or] at hplace
  obtain ⟨hactive, hr, hc⟩ := hplace
  cases place with
  | active => exact absurd rfl hactive
  | _ => exact Memory.content_setBoard (some b) hr hc

theorem changesOnly_reply (op : Op) : ChangesOnly op.writes m (op.reply m) := by
  cases op with
  | driverEntry object path answers =>
    simp only [Op.reply, Memory.load]
    split_ifs
    · exact changesOnly_ok fun _ _ => rfl
    all_goals exact changesOnly_ok fun _ hplace => content_start _ hplace
  | constructMiniport this => exact changesOnly_ok fun _ hplace => content_start _ hplace
  | destroyMiniport this => exact changesOnly_univ
  | registerWithNdis this object path answers =>
    exact changesOnly_read fun b hb => changesOnly_ok fun _ hplace =>
      Memory.content_register hb object answers hplace
  | miniportInitializeEx this parameters answers => exact changesOnly_initialise _ _ _
  | callback c => exact changesOnly_callback c

/-! ### What decides a reply -/

theorem agree_setPort (port : Option Port) :
    Agree {.port p} (m.setPort p port) (m'.setPort p port) := by
  rintro place rfl
  simp [Memory.content]

theorem boards_of_agree (hr : .registration this ∈ S) (hc : .claims this ∈ S) (h : Agree S m m') :
    m.boards this = m'.boards this :=
  Memory.boards_eq (h _ hr) (h _ hc)

theorem ports_of_agree (hp : .port p ∈ S) (h : Agree S m m') : m.ports p = m'.ports p :=
  Content.port.inj (h _ hp)

theorem sameOutcome_setRunning (running : Bool) (h : m.ports p = m'.ports p) :
    SameOutcome {.port p} (m.setRunning p running) (m'.setRunning p running) :=
  sameOutcome_read h fun _ _ => ⟨rfl, rfl, agree_setPort _⟩

/-- Boards that are the same at one address are so after the same change there. -/
theorem agree_setBoard (c : Option Board) (hp : m.ports p = m'.ports p) :
    Agree {.claims this, .port p} (m.setBoard this c) (m'.setBoard this c) := by
  rintro place (rfl | rfl)
  · simp [Memory.content]
  · exact congrArg Content.port hp

theorem sameOutcome_initialise (parameters : Option InitParameters) (answers : InitAnswers)
    (hb : m.boards this = m'.boards this)
    (hp : m.ports answers.block.address = m'.ports answers.block.address) :
    SameOutcome {.claims this, .port answers.block.address}
      (m.initialise this parameters answers) (m'.initialise this parameters answers) := by
  have hagree : Agree {.claims this, .port answers.block.address} m m' := by
    rintro place (rfl | rfl)
    · exact congrArg (fun b => Content.claims (b.map Board.claims)) hb
    · exact congrArg Content.port hp
  refine sameOutcome_read hb fun b _ => ?_
  by_cases hfull : b.claims.length = 16
  · rw [if_pos hfull, if_pos hfull]
    exact sameOutcome_same _ _ hagree
  rw [if_neg hfull, if_neg hfull]
  cases parameters with
  | none => exact rfl
  | some parameters =>
    by_cases hnull : b.handle = nullptr ∨ answers.block.address = nullptr
    · simp only [if_pos hnull]
      exact ⟨rfl, rfl, agree_setBoard _ hp⟩
    · simp only [if_neg hnull]
      refine ⟨rfl, rfl, ?_⟩
      rintro place (rfl | rfl)
      · simp [Memory.content]
      · simp [Memory.content]

theorem sameOutcome_announce (handle context : NdisHandle) (parameters : Option InitParameters)
    (answers : InitAnswers)
    (h : Agree ({.registration context} ∪ {.claims context, .port answers.block.address}) m m') :
    SameOutcome {.claims context, .port answers.block.address}
      (m.announce handle context parameters answers)
      (m'.announce handle context parameters answers) := by
  have hb : m.boards context = m'.boards context := boards_of_agree (by simp) (by simp) h
  have hwrites : Agree {.claims context, .port answers.block.address} m m' := fun r hr =>
    h r (Or.inr hr)
  unfold Memory.announce
  split_ifs
  · exact sameOutcome_same _ _ hwrites
  · refine sameOutcome_read hb fun b _ => ?_
    split_ifs
    · exact sameOutcome_same _ _ hwrites
    · exact sameOutcome_initialise _ _ hb (ports_of_agree (by simp) h)

/-- Reading the active board, and calling out under its handle. -/
theorem sameOutcome_active (status : Option NdisStatus) (calls : NdisHandle → List Action)
    (h : Agree ({.active} ∪ Set.range .registration) m m') :
    SameOutcome ∅
      ((Heap.read m.boards m.active).bind fun b => .ok (m.same status (calls b.handle)))
      ((Heap.read m'.boards m'.active).bind fun b => .ok (m'.same status (calls b.handle))) := by
  have hactive : m.active = m'.active := Content.active.inj (h .active (by simp))
  rw [← hactive]
  refine sameOutcome_registered (h _ (by simp)) fun b b' _ _ hregistered => ?_
  rw [(Prod.mk.inj hregistered).1]
  exact sameOutcome_same _ _ fun _ hplace => hplace.elim

theorem sameOutcome_callback (c : Callback) (h : Agree (c.reads ∪ c.writes) m m') :
    SameOutcome c.writes (c.reply m) (c.reply m') := by
  have hwrites : Agree c.writes m m' := fun r hr => h r (Or.inr hr)
  cases c with
  | initializeEx handle context parameters answers => exact sameOutcome_announce _ _ _ _ h
  | haltEx context action =>
    exact sameOutcome_read (ports_of_agree (by simp [Callback.writes]) h) fun _ _ =>
      ⟨rfl, rfl, agree_setPort _⟩
  | driverUnload object =>
    rw [Memory.ext_content fun r => h r (Or.inl trivial)]
    exact sameOutcome_refl _
  | pause context parameters =>
    simp only [Callback.reply, Memory.pause]
    split_ifs
    · exact sameOutcome_same _ _ hwrites
    · exact sameOutcome_setRunning false (ports_of_agree (by simp [Callback.writes]) h)
  | restart context parameters =>
    simp only [Callback.reply, Memory.restart]
    split_ifs
    · exact sameOutcome_same _ _ hwrites
    · exact sameOutcome_same _ _ hwrites
    · exact sameOutcome_setRunning true (ports_of_agree (by simp [Callback.writes]) h)
  | oidRequest context request =>
    simp only [Callback.reply, Memory.request]
    split_ifs
    · exact sameOutcome_same _ _ hwrites
    · exact sameOutcome_same _ _ hwrites
    · exact sameOutcome_read (ports_of_agree (by simp [Callback.reads]) h) fun _ _ =>
        sameOutcome_same _ _ hwrites
  | sendNetBufferLists context lists port flags =>
    simp only [Callback.reply, Memory.send]
    split_ifs with h0
    · simp only [Callback.reads, Callback.writes, if_pos h0, Set.union_empty] at h
      exact sameOutcome_active none (fun handle => [.complete handle lists
        (Miniport.completeFlags flags), .mark lists ndisStatusFailure]) h
    · exact sameOutcome_read (ports_of_agree (by simp [Callback.reads, h0]) h) fun _ _ =>
        sameOutcome_same _ _ hwrites
  | returnNetBufferLists context lists flags =>
    simp only [Callback.reply, Memory.takeBack]
    split_ifs with h0
    · simp only [Callback.reads, Callback.writes, if_pos h0, Set.union_empty] at h
      exact sameOutcome_active none (fun handle => [.report handle .driverFailure
        [Miniport.ax25CriticalErrorNdisLeakBufferLists]]) h
    · exact sameOutcome_read (ports_of_agree (by simp [Callback.reads, h0]) h) fun _ _ =>
        sameOutcome_same _ _ hwrites

theorem agree_start (b : Board) :
    Agree {.active, .registration this, .claims this} (m.start this b) (m'.start this b) := by
  rintro place (rfl | rfl | rfl)
  · rfl
  · simp [Memory.content]
  · simp [Memory.content]

theorem sameOutcome_reply (op : Op) (h : Agree (op.reads ∪ op.writes) m m') :
    SameOutcome op.writes (op.reply m) (op.reply m') := by
  have hwrites : Agree op.writes m m' := fun r hr => h r (Or.inr hr)
  cases op with
  | driverEntry object path answers =>
    simp only [Op.reply, Memory.load]
    split_ifs
    · exact ⟨rfl, rfl, hwrites⟩
    all_goals exact ⟨rfl, rfl, agree_start _⟩
  | constructMiniport this => exact ⟨rfl, rfl, agree_start _⟩
  | destroyMiniport this =>
    rw [Memory.ext_content fun r => h r (Or.inl trivial)]
    exact sameOutcome_refl _
  | registerWithNdis this object path answers =>
    refine sameOutcome_registered (h _ (by simp [Op.writes])) fun b b' _ _ _ => ⟨rfl, rfl, ?_⟩
    rintro place rfl
    simp [Memory.content, Board.registered, Board.register]
  | miniportInitializeEx this parameters answers =>
    exact sameOutcome_initialise _ _
      (boards_of_agree (by simp [Op.reads]) (by simp [Op.writes]) h)
      (ports_of_agree (by simp [Op.writes]) h)
  | callback c => exact sameOutcome_callback c h

/-- An entry as an action on the memory. -/
def answer (op : Op) (m : Memory) :
    Except Fault ((Option NdisStatus × List Action) × Memory) :=
  (op.reply m).map Reply.split

/-- What an entry uses is a footprint. -/
theorem footprint (op : Op) : Runs.Footprint Memory.content (answer op) op.reads op.writes where
  frame m o m' h := by
    obtain ⟨r, hr, hsplit⟩ := Runs.map_eq_ok.mp h
    rw [← (Prod.mk.inj hsplit).2]
    exact changesOnly_reply op r hr
  decided _ _ h := seen_of_sameOutcome (sameOutcome_reply op h)

/-! ## Validity -/

theorem isSome_boards_of_registration
    (h : m.content (.registration this) = m'.content (.registration this)) :
    (m.boards this).isSome ↔ (m'.boards this).isSome := by
  have hsome := congrArg Option.isSome (Content.registration.inj h)
  simpa [Option.isSome_map] using hsome

theorem isSome_ports_of_agree (hp : .port p ∈ S) (h : Agree S m m') :
    (m.ports p).isSome ↔ (m'.ports p).isSome := by
  rw [ports_of_agree hp h]

theorem context_of_agree {context : Pointer} (h : Agree S m m')
    (hS : context ≠ nullptr → .port context ∈ S) :
    (context = nullptr ∨ (m.ports context).isSome) ↔
      (context = nullptr ∨ (m'.ports context).isSome) := by
  by_cases h0 : context = nullptr
  · simp [h0]
  · rw [isSome_ports_of_agree (hS h0) h]

theorem callback_validIn_of_agree (c : Callback) (h : Agree (c.reads ∪ c.writes) m m') :
    c.ValidIn m ↔ c.ValidIn m' := by
  cases c with
  | initializeEx handle context parameters answers =>
    have hb := isSome_boards_of_registration (h (.registration context) (by simp [Callback.reads]))
    have hp := isSome_ports_of_agree (p := answers.block.address) (by simp [Callback.writes]) h
    simp only [Callback.ValidIn, hb, hp]
  | driverUnload object => exact Iff.rfl
  | oidRequest context request => exact context_of_agree h fun _ => by simp [Callback.reads]
  | sendNetBufferLists context lists port flags =>
    exact context_of_agree h fun h0 => by simp [Callback.reads, h0]
  | returnNetBufferLists context lists flags =>
    exact context_of_agree h fun h0 => by simp [Callback.reads, h0]
  | _ => exact context_of_agree h fun _ => by simp [Callback.writes]

/-- Whether an entry is valid is decided by what it uses. -/
theorem validIn_of_agree (op : Op) (h : Agree (op.reads ∪ op.writes) m m') :
    op.ValidIn m ↔ op.ValidIn m' := by
  have hboards : ∀ {this : Pointer}, .registration this ∈ op.reads ∪ op.writes →
      ((m.boards this).isSome ↔ (m'.boards this).isSome) := fun hr =>
    isSome_boards_of_registration (h _ hr)
  cases op with
  | driverEntry object path answers =>
    exact not_congr (hboards (by simp [Op.writes]))
  | constructMiniport this =>
    exact and_congr_right fun _ => not_congr (hboards (by simp [Op.writes]))
  | destroyMiniport this => exact hboards (Or.inl trivial)
  | registerWithNdis this object path answers => exact hboards (by simp [Op.writes])
  | miniportInitializeEx this parameters answers =>
    have hp := isSome_ports_of_agree (p := answers.block.address) (by simp [Op.writes]) h
    simp only [Op.ValidIn, @hboards this (by simp [Op.reads]), hp]
  | callback c => exact callback_validIn_of_agree c h

/-! ## Swaps -/

/-- The same memory, and the same trace in another order. -/
structure Permuted (s s' : Service) : Prop where
  memory : s.memory = s'.memory
  trace : s.trace.Perm s'.trace

theorem answer_of_step {s s' : Service} {op : Op} (h : step s op = .ok s') :
    ∃ o, answer op s.memory = .ok (o, s'.memory) ∧
      s'.trace = .returned op o.1 :: (o.2 ++ s.trace) := by
  obtain ⟨r, hr, rfl⟩ := Runs.map_eq_ok.mp h
  exact ⟨(r.status, r.calls), Runs.map_eq_ok.mpr ⟨r, hr, rfl⟩, rfl⟩

theorem step_of_answer {s : Service} {op : Op} {o : Option NdisStatus × List Action}
    (h : answer op s.memory = .ok (o, m')) :
    step s op = .ok { memory := m', trace := .returned op o.1 :: (o.2 ++ s.trace) } := by
  obtain ⟨r, hr, hsplit⟩ := Runs.map_eq_ok.mp h
  obtain ⟨rfl, rfl⟩ := Prod.mk.inj hsplit
  exact Runs.map_eq_ok.mpr ⟨r, hr, rfl⟩

/-- Independent entries can be swapped. -/
theorem commutes : Runs.Commutes step (fun s op => op.ValidIn s.memory) Op.Independent Permuted
    where
  refl s := ⟨rfl, .refl _⟩
  trans s t u h h' := ⟨h.memory.trans h'.memory, h.trace.trans h'.trace⟩
  kept s t op s' hst hv h := by
    obtain ⟨o, ho, htrace⟩ := answer_of_step h
    rw [hst.memory] at hv ho
    refine ⟨hv, _, step_of_answer ho, rfl, ?_⟩
    rw [htrace]
    exact (hst.trace.append_left _).cons _
  swap s op op' s₁ s₂ hind hv h hv' h' := by
    obtain ⟨o, ho, htrace⟩ := answer_of_step h
    obtain ⟨o', ho', htrace'⟩ := answer_of_step h'
    obtain ⟨m₁, hm₁, hm₂⟩ :=
      (footprint op).comm (fun _ _ => Memory.ext_content) (footprint op') hind.1 hind.2 ho ho'
    have hvalid' : op'.ValidIn s.memory :=
      (validIn_of_agree op' ((footprint op).agreeOn hind.1 ho)).mpr hv'
    have hvalid : op.ValidIn m₁ :=
      (validIn_of_agree op ((footprint op').agreeOn hind.2 hm₁)).mp hv
    refine ⟨hvalid', _, step_of_answer hm₁, hvalid, _, step_of_answer hm₂, rfl, ?_⟩
    rw [htrace', htrace]
    exact List.perm_append_comm_assoc (.returned op' o'.1 :: o'.2) (.returned op o.1 :: o.2)
      s.trace

end Service

/-! ## Runs -/

variable {hdr : NdisHeaders} {d : Driver}

theorem independent_forget {op op' : Op} :
    op.forget.Independent op'.forget ↔ op.Independent op' := by
  have huses : ∀ op : Op, op.forget.reads = op.reads ∧ op.forget.writes = op.writes := by
    intro op
    cases op with
    | callback c => cases c <;> exact ⟨rfl, rfl⟩
    | _ => exact ⟨rfl, rfl⟩
  simp only [Op.Independent, huses]

theorem swaps_forget {ops ops' : List Op}
    (h : Relation.ReflTransGen (Runs.Swap Op.Independent) ops ops') :
    Relation.ReflTransGen (Runs.Swap Op.Independent) (ops.map Op.forget) (ops'.map Op.forget) := by
  refine h.lift (List.map Op.forget) ?_
  rintro _ _ ⟨pre, op, op', post, hind, rfl, rfl⟩
  exact ⟨pre.map Op.forget, op.forget, op'.forget, post.map Op.forget,
    independent_forget.mpr hind, by simp, by simp⟩

/-- From any state of a run, entries that are independent of their neighbours can be taken in
any order : after any number of swaps the run is still valid and completes as before, and to
the service it leaves the same memory, and has made the same calls and returned the same
statuses, in another order. -/
theorem reordered_agree (hdr : NdisHeaders) (ops : List Op)
    (hv : Runs.Along (step hdr) (fun d op => op.Valid d) .initial ops) {d : Driver}
    (hd : Runs.Visits (step hdr) .initial ops d) (next next' : List Op)
    (hswaps : Relation.ReflTransGen (Runs.Swap Op.Independent) next next')
    (hvalid : Runs.Along (step hdr) (fun d op => op.Valid d) d next) {d₁ : Driver}
    (hrun : Runs.run (step hdr) d next = .ok d₁) :
    Runs.Along (step hdr) (fun d op => op.Valid d) d next' ∧
      ∃ d₂, Runs.run (step hdr) d next' = .ok d₂ ∧ d₁.memory = d₂.memory ∧
        d₁.view.trace.Perm d₂.view.trace := by
  have hsound := sound_of_visits hv hd
  have hservice : Runs.run Service.step d.view (next.map Op.forget) = .ok d₁.view := by
    rw [← (simulates hdr).run hvalid hsound, hrun]
    rfl
  obtain ⟨hvalid', s₂, hs₂, hpermuted⟩ :=
    Service.commutes.run_of_swaps (swaps_forget hswaps) ((along_view hdr hsound next).mp hvalid)
      hservice
  have hnext' := (along_view hdr hsound next').mpr hvalid'
  rw [← (simulates hdr).run hnext' hsound] at hs₂
  obtain ⟨d₂, hrun₂, rfl⟩ := Runs.map_eq_ok.mp hs₂
  exact ⟨hnext', d₂, hrun₂, hpermuted.memory, hpermuted.trace⟩

/-! ### An example -/

/-- Two miniports, one of them with an adapter. -/
def twoBoards : List Op :=
  [load, bringUp 1 0x3000, .constructMiniport 0x5000,
    .registerWithNdis 0x5000 0x100 0x200 { status := ndisStatusSuccess, handle := 0x6000 }]

/-- An adapter comes up on the second. -/
def bringUpOther : Op :=
  .miniportInitializeEx 0x5000 (some { ifIndex := 1 })
    { block := { address := 0x4000, contents := AX25Adapter.zeroBlock }
      registration := ndisStatusSuccess
      general := ndisStatusSuccess }

def restartFirst : Op :=
  .callback (.restart 0x3000 0x500)

def sendNowhere : Op :=
  .callback (.sendNetBufferLists nullptr [0x700] 0 0)

theorem swaps_bringUpOther :
    Relation.ReflTransGen (Runs.Swap Op.Independent) [bringUpOther, restartFirst, sendNowhere]
      [sendNowhere, bringUpOther, restartFirst] := by
  have hrestart : restartFirst.Independent sendNowhere := by
    simp [Op.Independent, Op.reads, Op.writes, Callback.reads, Callback.writes, restartFirst,
      sendNowhere]
  have hbringUp : bringUpOther.Independent sendNowhere := by
    simp [Op.Independent, Op.reads, Op.writes, Callback.reads, Callback.writes, bringUpOther,
      sendNowhere]
  exact .trans (.single ⟨[bringUpOther], _, _, [], hrestart, rfl, rfl⟩)
    (.single ⟨[], _, _, [restartFirst], hbringUp, rfl, rfl⟩)

theorem agree_of_bringUpOther :
    ∃ d d₁ d₂, Runs.run (step ndis620) .initial twoBoards = .ok d ∧
      Runs.run (step ndis620) d [bringUpOther, restartFirst, sendNowhere] = .ok d₁ ∧
      Runs.run (step ndis620) d [sendNowhere, bringUpOther, restartFirst] = .ok d₂ ∧
      d₁.memory = d₂.memory := by
  obtain ⟨d, d₁, hrun, hrun₁, hvalid⟩ : ∃ d d₁,
      Runs.run (step ndis620) .initial twoBoards = .ok d ∧
        Runs.run (step ndis620) d [bringUpOther, restartFirst, sendNowhere] = .ok d₁ ∧
        Runs.Along (step ndis620) (fun d op => op.Valid d) d
          [bringUpOther, restartFirst, sendNowhere] := ⟨_, _, rfl, rfl, by decide⟩
  obtain ⟨-, d₂, hrun₂, hmemory, -⟩ := reordered_agree ndis620 twoBoards (by decide) (.end hrun)
    _ _ swaps_bringUpOther hvalid hrun₁
  exact ⟨d, d₁, d₂, hrun, hrun₁, hrun₂, hmemory⟩

end VirtualAX25
