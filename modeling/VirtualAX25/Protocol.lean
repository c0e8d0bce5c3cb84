import VirtualAX25.Refinement

/-!
# The order of the calls

The protocol between the driver and what is outside of it. It knows the live miniports and
the blocks of adapters, each with its handle, and what the driver has to do before anything
else (`Due`). A block that was taken is followed by the initialisation of its DPC, by its
registration attributes, and, if these were accepted, by its general attributes, all under
the handle of a live miniport; a chain marked as failed is completed at once. Nothing is
due when an entry returns.

The calls of every valid run follow the protocol, and it ends with the live miniports and
adapters of the driver (`log_follows`).
-/

namespace VirtualAX25

open Service

namespace Service

/-! ## The protocol -/

/-- What has to come next. -/
inductive Due
  | nothing
  | initialiseDpc (handle : NdisHandle) (block : Pointer)
  | setRegistration (handle : NdisHandle) (block : Pointer)
  | setGeneral (handle : NdisHandle)
  | complete (lists : List Pointer)

/-- The miniports and the blocks, with their handles, and what is due. -/
structure Protocol where
  miniports : Pointer → Option NdisHandle
  blocks : Pointer → Option NdisHandle
  due : Due

namespace Protocol

/-- No miniport and no block. -/
def initial : Protocol where
  miniports := fun _ => none
  blocks := fun _ => none
  due := .nothing

/-- The action is allowed, and leads from one state of the protocol to another. -/
inductive Allows : Protocol → Action → Protocol → Prop
  | idle (s : Protocol) (hs : s.due = .nothing) (a : Action) (ha : a.Idle) : Allows s a s
  | returned (s : Protocol) (hs : s.due = .nothing) (op : Op) (status : Option NdisStatus) :
      Allows s (.returned op status) s
  | constructed (s : Protocol) (hs : s.due = .nothing) (this : Pointer) (h0 : this ≠ nullptr)
      (hfresh : s.miniports this = none) :
      Allows s (.constructed this)
        { s with miniports := Function.update s.miniports this (some nullptr) }
  | register (s : Protocol) (hs : s.due = .nothing) (object path this : Pointer)
      (answers : RegisterAnswers) (hthis : (s.miniports this).isSome) :
      Allows s (.register object path this answers)
        { s with
          miniports := Function.update s.miniports this
            (some (if ntSuccess answers.status then answers.handle else nullptr)) }
  | destroyed (s : Protocol) (hs : s.due = .nothing) (this : Pointer)
      (hthis : (s.miniports this).isSome) :
      Allows s (.destroyed this) { s with miniports := Function.update s.miniports this none }
  | take (s : Protocol) (hs : s.due = .nothing) (this block : Pointer) (handle : NdisHandle)
      (hthis : s.miniports this = some handle) (hh : handle ≠ nullptr) (h0 : block ≠ nullptr)
      (hfresh : s.blocks block = none) :
      Allows s (.take handle block)
        { s with
          blocks := Function.update s.blocks block (some handle)
          due := .initialiseDpc handle block }
  | initialiseDpc (s : Protocol) (handle : NdisHandle) (block : Pointer)
      (hs : s.due = .initialiseDpc handle block) :
      Allows s (.initialiseDpc block) { s with due := .setRegistration handle block }
  | setRegistration (s : Protocol) (handle : NdisHandle) (block : Pointer)
      (hs : s.due = .setRegistration handle block) (status : NdisStatus) :
      Allows s (.setRegistration handle block status)
        { s with due := if status = ndisStatusSuccess then .setGeneral handle else .nothing }
  | setGeneral (s : Protocol) (handle : NdisHandle) (hs : s.due = .setGeneral handle)
      (status : NdisStatus) :
      Allows s (.setGeneral handle status) { s with due := .nothing }
  | give (s : Protocol) (hs : s.due = .nothing) (handle : NdisHandle) (block : Pointer)
      (hblock : s.blocks block = some handle) :
      Allows s (.give handle block) { s with blocks := Function.update s.blocks block none }
  | mark (s : Protocol) (hs : s.due = .nothing) (lists : List Pointer) :
      Allows s (.mark lists ndisStatusFailure) { s with due := .complete lists }
  | complete (s : Protocol) (lists : List Pointer) (hs : s.due = .complete lists)
      (this : Pointer) (handle : NdisHandle) (hthis : s.miniports this = some handle)
      (flags : UInt32) : Allows s (.complete handle lists flags) { s with due := .nothing }

end Protocol

/-- The state of the protocol between two entries. -/
def Memory.protocol (m : Memory) : Protocol where
  miniports := Option.map Board.handle ∘ m.boards
  blocks := Option.map Port.handle ∘ m.ports
  due := .nothing

variable {m m' : Memory} {op : Op} {r : Reply} {this p : Pointer} {b b' : Board} {port : Port}

namespace Memory

theorem protocol_setBoard (c : Option Board) :
    (m.setBoard this c).protocol =
      { m.protocol with
        miniports := Function.update m.protocol.miniports this (c.map Board.handle) } := by
  simp only [protocol, setBoard_boards, setBoard_ports, Function.comp_update]

theorem protocol_setPort (port : Option Port) :
    (m.setPort p port).protocol =
      { m.protocol with
        blocks := Function.update m.protocol.blocks p (port.map Port.handle) } := by
  simp only [protocol, setPort_boards, setPort_ports, Function.comp_update]

/-- A board that keeps its handle is the same to the protocol. -/
theorem protocol_setBoard_of_handle (hb : m.boards this = some b) (hh : b'.handle = b.handle) :
    (m.setBoard this (some b')).protocol = m.protocol := by
  have hsame : Function.update m.protocol.miniports this (some b'.handle) =
      m.protocol.miniports := by
    rw [Function.update_eq_self_iff, hh]
    simp [protocol, hb]
  rw [protocol_setBoard, Option.map_some, hsame]

/-- A port that keeps its handle is the same to the protocol. -/
theorem protocol_setPort_of_handle {port' : Port} (hp : m.ports p = some port)
    (hh : port'.handle = port.handle) : (m.setPort p (some port')).protocol = m.protocol := by
  have hsame : Function.update m.protocol.blocks p (some port'.handle) = m.protocol.blocks := by
    rw [Function.update_eq_self_iff, hh]
    simp [protocol, hp]
  rw [protocol_setPort, Option.map_some, hsame]

end Memory

/-! ## Entries -/

theorem allows_give (hp : m.ports p = some port) :
    Protocol.Allows m.protocol (.give port.handle p) (m.setPort p none).protocol := by
  rw [Memory.protocol_setPort]
  exact .give m.protocol rfl port.handle p (by simp [Memory.protocol, hp])

/-- The loop gives the blocks of the ports back, one after another. -/
theorem follows_gives : ∀ {ps : List Pointer} {m : Memory}, m.Halts ps →
    Runs.Follows Protocol.Allows m.protocol (m.gives ps).reverse (m.removePorts ps).protocol
  | [], m, _ => by
    rw [m.removePorts_nil]
    exact Runs.follows_nil
  | p :: ps, m, h => by
    obtain ⟨h0, hsome⟩ := h.ports p List.mem_cons_self
    obtain ⟨port, hp⟩ := Option.isSome_iff_exists.mp hsome
    have hrest := follows_gives ((m.halts_cons h0 hp).mp h)
    rw [m.gives_cons hp (List.nodup_cons.mp h.nodup).1, ← m.removePorts_setPort,
      List.reverse_append, List.reverse_singleton, List.singleton_append]
    exact .cons (allows_give hp) hrest

theorem allows_constructed (h0 : this ≠ nullptr) (hfresh : m.boards this = none) :
    Protocol.Allows m.protocol (.constructed this) (m.start this .empty).protocol := by
  have hprotocol : (m.start this .empty).protocol = (m.setBoard this (some .empty)).protocol := rfl
  rw [hprotocol, Memory.protocol_setBoard]
  exact .constructed m.protocol rfl this h0 (by simp [Memory.protocol, hfresh])

theorem allows_register (object path : Pointer) (answers : RegisterAnswers)
    (hb : m.boards this = some b) :
    Protocol.Allows m.protocol (.register object path this answers)
      (m.setBoard this (some (b.register object answers))).protocol := by
  rw [Memory.protocol_setBoard]
  exact .register m.protocol rfl object path this answers (by simp [Memory.protocol, hb])

theorem allows_destroyed (hb : m.boards this = some b) :
    Protocol.Allows m.protocol (.destroyed this) (m.without this).protocol := by
  have hwithout : (m.without this).protocol = (m.setBoard this none).protocol := rfl
  rw [hwithout, Memory.protocol_setBoard]
  exact .destroyed m.protocol rfl this (by simp [Memory.protocol, hb])

theorem follows_idle {calls : List Action} (hcalls : ∀ a ∈ calls, a.Idle) :
    Runs.Follows Protocol.Allows m.protocol calls.reverse m.protocol :=
  Runs.follows_idle fun a ha => .idle m.protocol rfl a (hcalls a (List.mem_reverse.mp ha))

/-- The calls that bring an adapter up. -/
theorem follows_describe {s : Protocol} {handle : NdisHandle} (hs : s.due = .nothing)
    (hthis : s.miniports this = some handle) (hh : handle ≠ nullptr) (h0 : p ≠ nullptr)
    (hfresh : s.blocks p = none) (registration general : NdisStatus) :
    Runs.Follows Protocol.Allows s
      (Memory.describe handle p registration general ++
        [Action.initialiseDpc p, Action.take handle p]).reverse
      { s with blocks := Function.update s.blocks p (some handle) } := by
  obtain ⟨miniports, blocks, due⟩ := s
  obtain rfl : due = .nothing := hs
  have htake := Protocol.Allows.take _ rfl this p handle hthis hh h0 hfresh
  have hdpc := Protocol.Allows.initialiseDpc _ handle p
    (rfl : Protocol.due ⟨miniports, Function.update blocks p (some handle), _⟩ = _)
  have hregistration := Protocol.Allows.setRegistration _ handle p
    (rfl : Protocol.due ⟨miniports, Function.update blocks p (some handle), _⟩ = _) registration
  unfold Memory.describe
  split_ifs with hr
  · rw [if_pos hr] at hregistration
    exact .cons htake (.cons hdpc (.cons hregistration
      (Runs.follows_singleton (.setGeneral _ handle rfl general))))
  · rw [if_neg hr] at hregistration
    exact .cons htake (.cons hdpc (Runs.follows_singleton hregistration))

theorem follows_of_effect (h : Effect m op r) :
    Runs.Follows Protocol.Allows m.protocol r.calls.reverse r.memory.protocol := by
  cases h with
  | same op status calls hcalls hfull hsend => exact follows_idle hcalls
  | send lists port flags b hb =>
    exact .cons (.mark _ rfl lists) (Runs.follows_singleton (.complete _ lists rfl m.active b.handle
      (by simp [Memory.protocol, hb]) _))
  | construct this h0 hfresh => exact Runs.follows_singleton (allows_constructed h0 hfresh)
  | load object path answers calls h0 hfresh hcalls =>
    have hbefore : ∀ a ∈ [Action.takePool answers.pool, Action.startTracing object path],
        a.Idle := by simp [Action.Idle]
    have hconstructed := Runs.follows_singleton (allows_constructed h0 hfresh)
    have hempty : (m.start answers.pool.address .empty).boards answers.pool.address =
        some .empty := by simp
    have hregister := Runs.follows_singleton
      (allows_register object path answers.register hempty)
    rw [m.start_setBoard] at hregister
    simpa using (follows_idle hbefore).append (hconstructed.append
      (hregister.append (follows_idle hcalls)))
  | register this object path answers b hb =>
    exact Runs.follows_singleton (allows_register object path answers hb)
  | refuse op this b parameters answers calls hb hroom hreach hother hrefused hcalls =>
    rw [Memory.protocol_setBoard_of_handle hb (b.handle_claim _ _)]
    exact follows_idle hcalls
  | build op this b parameters answers hb hroom hreach hother hh h0 hfresh =>
    have hthis : m.protocol.miniports this = some b.handle := by simp [Memory.protocol, hb]
    have hnone : m.protocol.blocks answers.block.address = none := by
      simp [Memory.protocol, hfresh]
    rw [Memory.protocol_setPort, Memory.protocol_setBoard_of_handle hb (b.handle_claim _ _)]
    exact follows_describe rfl hthis hh h0 hnone answers.registration answers.general
  | halt p action port h0 hp => exact Runs.follows_singleton (allows_give hp)
  | setRunning c p port running h0 hp hop =>
    have hsame : (m.setPort p (some { port with running := running })).protocol = m.protocol :=
      Memory.protocol_setPort_of_handle hp rfl
    rw [hsame]
    exact Runs.follows_nil
  | destroy op this b calls hb hhalts hop hcalls =>
    have hgives : Runs.Follows Protocol.Allows (m.without this).protocol
        (m.gives b.pointers).reverse ((m.without this).removePorts b.pointers).protocol :=
      @follows_gives b.pointers (m.without this) ⟨hhalts.nodup, hhalts.ports⟩
    simpa using (Runs.follows_singleton (allows_destroyed hb)).append
      (hgives.append (follows_idle hcalls))

/-- The trace follows the protocol, up to the memory. -/
def Lawful (s : Service) : Prop :=
  Runs.Follows Protocol.Allows .initial s.trace.reverse s.memory.protocol

theorem Lawful.effect {s : Service} (hs : Lawful s) (h : Effect s.memory op r) :
    Lawful (s.answered op r) := by
  have hreturned : Runs.Follows Protocol.Allows r.memory.protocol [.returned op r.status]
      r.memory.protocol := Runs.follows_singleton (.returned _ rfl op r.status)
  have htrace : (s.answered op r).trace.reverse =
      s.trace.reverse ++ (r.calls.reverse ++ [.returned op r.status]) := by
    simp [answered]
  rw [Lawful, htrace]
  exact hs.append ((follows_of_effect h).append hreturned)

theorem lawful_initial : Lawful .initial :=
  Runs.follows_nil

end Service

/-! ## Runs -/

/-- The live miniports and adapters of a driver, with their handles. -/
def Driver.protocol (d : Driver) : Protocol where
  miniports this := (d.miniports.lookup this).map Miniport.miniportDriverHandle
  blocks p := (d.adapters.lookup p).map AX25Adapter.driverHandle
  due := .nothing

theorem protocol_memory (d : Driver) : d.memory.protocol = d.protocol := by
  simp only [Memory.protocol, Driver.protocol, Driver.memory, Protocol.mk.injEq, and_true]
  constructor <;> ext1 p <;> simp [Function.comp_def, Miniport.board, AX25Adapter.port]

/-- In every run the calls of the driver follow the protocol from its start, and it ends with
the live miniports, the live adapters with the handles they hold, and nothing due. -/
theorem log_follows (hdr : NdisHeaders) (ops : List Op)
    (hv : Runs.Along (step hdr) (fun d op => op.Valid d) .initial ops) {d : Driver}
    (hd : Runs.Visits (step hdr) .initial ops d) :
    Runs.Follows Protocol.Allows .initial (d.log.reverse.map Event.action) d.protocol := by
  have hlawful : Lawful d.view :=
    view_invariant (fun _ _ _ => Lawful.effect) lawful_initial hv hd
  rw [← protocol_memory, List.map_reverse]
  exact hlawful

/-- An adapter comes up. Three chains are sent, one of them to the adapter, which is then
halted. -/
def threeSends : List Op :=
  [load, bringUp 1 0x3000,
    .callback (.sendNetBufferLists nullptr [0x9000, 0x9100] 0 ndisSendFlagsDispatchLevel),
    .callback (.sendNetBufferLists 0x3000 [0xa000] 0 0),
    .callback (.sendNetBufferLists nullptr [0xb000] 0 0), halt 0x3000]

theorem follows_of_threeSends :
    ∃ d, Runs.run (step ndis620) .initial threeSends = .ok d ∧
      Runs.Follows Protocol.Allows .initial (d.log.reverse.map Event.action) d.protocol := by
  have hrun : Runs.run (step ndis620) .initial threeSends = .ok _ := rfl
  exact ⟨_, hrun, log_follows ndis620 threeSends (by decide) (.end hrun)⟩

/-! ## Chains that come back -/

/-- The chain and the flags of a completion. -/
def Event.completed : Event → Option (List Pointer × UInt32)
  | .ndisMSendNetBufferListsComplete _ lists flags => some (lists, flags)
  | _ => none

/-- What a send without a context has to be answered with. -/
def Op.refusedSend (op : Op) : Option (List Pointer × UInt32) :=
  op.nullSend.map fun r => (r.1, Miniport.completeFlags r.2)

namespace Service

/-- The chain and the flags of a completion. -/
def Action.completed : Action → Option (List Pointer × UInt32)
  | .complete _ lists flags => some (lists, flags)
  | _ => none

variable {m : Memory} {op : Op} {r : Reply}

theorem nullSend_of_reaches {this : Pointer} {handle : NdisHandle}
    {x : InitParameters × InitAnswers} (h : op.reaches this handle = some x) :
    op.nullSend = none := by
  cases op with
  | callback c => cases c <;> first | rfl | cases h
  | _ => rfl

theorem completed_idle {calls : List Action} (hcalls : ∀ a ∈ calls, a.Idle) :
    calls.filterMap Action.completed = [] := by
  refine List.filterMap_eq_nil_iff.mpr fun a ha => ?_
  have hidle := hcalls a ha
  cases a <;> first | rfl | cases hidle

theorem completed_gives (ps : List Pointer) : (m.gives ps).filterMap Action.completed = [] := by
  refine List.filterMap_eq_nil_iff.mpr fun a ha => ?_
  obtain ⟨p, -, hp⟩ := List.mem_filterMap.mp (List.mem_reverse.mp ha)
  obtain ⟨port, -, rfl⟩ := Option.map_eq_some_iff.mp hp
  rfl

theorem completed_describe (handle : NdisHandle) (p : Pointer)
    (registration general : NdisStatus) :
    (Memory.describe handle p registration general).filterMap Action.completed = [] := by
  unfold Memory.describe
  split_ifs <;> rfl

/-- An entry completes the chain it was sent without a context, and no other. -/
theorem completed_of_effect (h : Effect m op r) :
    r.calls.filterMap Action.completed = op.refusedSend.toList := by
  cases h with
  | same op status calls hcalls hfull hsend => simp [Op.refusedSend, hsend, completed_idle hcalls]
  | send lists port flags b hb => rfl
  | construct this h0 hfresh => rfl
  | load object path answers calls h0 hfresh hcalls =>
    simp [Op.refusedSend, Op.nullSend, completed_idle hcalls, Action.completed]
  | register this object path answers b hb => rfl
  | refuse op this b parameters answers calls hb hroom hreach hother hrefused hcalls =>
    simp [Op.refusedSend, nullSend_of_reaches hreach, completed_idle hcalls]
  | build op this b parameters answers hb hroom hreach hother hh h0 hfresh =>
    simp [Op.refusedSend, nullSend_of_reaches hreach, completed_describe, Action.completed]
  | halt p action port h0 hp => rfl
  | setRunning c p port running h0 hp hop => simp [Op.refusedSend, hop.nullSend]
  | destroy op this b calls hb hhalts hop hcalls =>
    simp [Op.refusedSend, hop.nullSend, completed_idle hcalls, completed_gives, Action.completed]

end Service

theorem completed_action (e : Event) : e.action.completed = e.completed := by
  cases e with
  | ndisMSetMiniportAttributes handle attributes status => cases attributes <;> rfl
  | _ => rfl

theorem refusedSend_forget (op : Op) : op.forget.refusedSend = op.refusedSend := by
  cases op with
  | callback c => cases c <;> rfl
  | _ => rfl

/-- In every run the chains that come back are those sent without a context : each comes back
once and whole, in the order they were sent in, with the flag of its send. -/
theorem completed_of_run (hdr : NdisHeaders) (ops : List Op)
    (hv : Runs.Along (step hdr) (fun d op => op.Valid d) .initial ops) {d : Driver}
    (hrun : Runs.run (step hdr) .initial ops = .ok d) :
    d.log.reverse.filterMap Event.completed = ops.filterMap Op.refusedSend := by
  have hobserved := observed_of_replies
    (fun m op r hop h => completed_of_effect (effect_of_reply hop h)) (fun _ _ => rfl)
    refusedSend_forget hv hrun
  simpa [Function.comp_def, completed_action] using hobserved

theorem completed_of_threeSends :
    ∃ d, Runs.run (step ndis620) .initial threeSends = .ok d ∧
      d.log.reverse.filterMap Event.completed =
        [([0x9000, 0x9100], ndisSendCompleteFlagsDispatchLevel), ([0xb000], 0)] := by
  have hrun : Runs.run (step ndis620) .initial threeSends = .ok _ := rfl
  exact ⟨_, hrun, completed_of_run ndis620 threeSends (by decide) hrun⟩

end VirtualAX25
