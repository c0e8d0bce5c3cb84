import VirtualAX25.Moves

/-!
# The history of an adapter

What a live adapter holds is read off the log. Its state is what its last accepted pause
or restart asked for since its block was allocated, and `Paused` before the first
(`state_eq_lastAccepted`); a pause of a live adapter is accepted, and so is a restart with
parameters (`step_pause_accepted`, `step_restart_accepted`). Its handle is the one its block
was allocated with (`halt_frees_as_allocated`). State and handle are one invariant of the
moves, `Recorded`.
-/

namespace VirtualAX25

/-! ## Reading the log -/

/-- Handle and tag, if the event allocates the block at `p`. -/
def Event.allocationAt (p : Pointer) : Event → Option (NdisHandle × UInt32)
  | .ndisAllocateMemoryWithTagPriority handle _ tag address =>
    if address = p then some (handle, tag) else none
  | _ => none

/-- The state asked for, if the event is an accepted pause or restart of the adapter at
`p`. -/
def Event.acceptedAt (p : Pointer) (e : Event) : Option AX25Adapter.State :=
  e.accepted.bind fun r => if r.1 = p then some r.2 else none

/-- Handle and tag of the last allocation of the block at `p`. -/
def lastAllocation (p : Pointer) (log : List Event) : Option (NdisHandle × UInt32) :=
  log.findSome? (Event.allocationAt p)

/-- The log since the block at `p` was allocated. -/
def sinceAllocation (p : Pointer) (log : List Event) : List Event :=
  log.takeWhile fun e => (e.allocationAt p).isNone

/-- What the last accepted pause or restart asked for since the block at `p` was
allocated, and `Paused` if there was none. -/
def lastAccepted (p : Pointer) (log : List Event) : AX25Adapter.State :=
  ((sinceAllocation p log).filterMap (Event.acceptedAt p)).headD .paused

variable {hdr : NdisHeaders} {d d' : Driver} {p : Pointer} {e : Event} {log : List Event}

theorem lastAccepted_of_allocation {r : NdisHandle × UInt32} (he : e.allocationAt p = some r) :
    lastAccepted p (e :: log) = .paused := by
  simp [lastAccepted, sinceAllocation, he]

theorem lastAccepted_of_accepted {s : AX25Adapter.State} (he : e.allocationAt p = none)
    (hs : e.acceptedAt p = some s) : lastAccepted p (e :: log) = s := by
  simp [lastAccepted, sinceAllocation, he, hs]

/-- The event is no business of the adapter at `p`. -/
def Event.Idle (p : Pointer) (e : Event) : Prop :=
  e.allocationAt p = none ∧ e.acceptedAt p = none

theorem lastAccepted_of_idle (he : e.Idle p) :
    lastAccepted p (e :: log) = lastAccepted p log := by
  simp [lastAccepted, sinceAllocation, he.1, he.2]

theorem lastAllocation_of_idle (he : e.Idle p) :
    lastAllocation p (e :: log) = lastAllocation p log := by
  simp [lastAllocation, he.1]

theorem lastAllocation_of_allocation {r : NdisHandle × UInt32}
    (he : e.allocationAt p = some r) : lastAllocation p (e :: log) = some r := by
  simp [lastAllocation, he]

theorem Event.Quiet.idle (he : e.Quiet) (hp : p ≠ nullptr) : e.Idle p := by
  cases e with
  | ndisAllocateMemoryWithTagPriority handle length tag address =>
    obtain rfl : address = nullptr := he
    exact ⟨if_neg hp.symm, rfl⟩
  | returned op status =>
    have hnone : (Event.returned op status).accepted = none := he
    refine ⟨rfl, ?_⟩
    rw [Event.acceptedAt, hnone]
    rfl
  | _ => exact ⟨rfl, rfl⟩

theorem idle_allocation {q : Pointer} {handle : NdisHandle} {length : ℕ} {tag : UInt32}
    (hq : p ≠ q) :
    (Event.ndisAllocateMemoryWithTagPriority handle length tag q).Idle p :=
  ⟨if_neg hq.symm, rfl⟩

theorem idle_accepted {q : Pointer} {s : AX25Adapter.State} {op : Op}
    {status : Option NdisStatus} (he : (Event.returned op status).accepted = some (q, s))
    (hq : p ≠ q) : (Event.returned op status).Idle p := by
  refine ⟨rfl, ?_⟩
  rw [Event.acceptedAt, he]
  exact if_neg hq.symm

theorem acceptedAt_of_accepted {s : AX25Adapter.State} (he : e.accepted = some (p, s)) :
    e.acceptedAt p = some s := by
  rw [Event.acceptedAt, he]
  exact if_pos rfl

/-! ## The invariant -/

/-- The adapter holds what the log says of `p`. -/
structure RecordedAt (log : List Event) (p : Pointer) (a : AX25Adapter) : Prop where
  state : a.state = lastAccepted p log
  allocation : lastAllocation p log = some (a.driverHandle, AX25Adapter.ax25AdapterTag)
  handle : a.driverHandle ≠ nullptr

theorem RecordedAt.idle {a : AX25Adapter} (h : RecordedAt log p a) (he : e.Idle p) :
    RecordedAt (e :: log) p a where
  state := h.state.trans (lastAccepted_of_idle he).symm
  allocation := (lastAllocation_of_idle he).trans h.allocation
  handle := h.handle

/-- Every live adapter holds what the log says. -/
def Recorded (d : Driver) : Prop :=
  ∀ p a, d.adapters.lookup p = some a → RecordedAt d.log p a

theorem recorded_initial : Recorded .initial := by
  intro p a ha
  simp [Driver.initial] at ha

/-- An adapter just built is `Paused`, and holds the handle of its allocation. -/
theorem recordedAt_built {handle : NdisHandle} {block : AdapterBlock} (hh : handle ≠ nullptr)
    (d : Driver) :
    RecordedAt (AX25Adapter.built hdr d handle handle block).log block.address
      (AX25Adapter.construct hdr block.address handle block.contents) := by
  have hallocation : (Event.ndisAllocateMemoryWithTagPriority handle hdr.sizeofAX25Adapter
      AX25Adapter.ax25AdapterTag block.address).allocationAt block.address =
      some (handle, AX25Adapter.ax25AdapterTag) := if_pos rfl
  have hdpc : (Event.keInitializeDpc block.address).Idle block.address := ⟨rfl, rfl⟩
  refine RecordedAt.idle ?_ hdpc
  exact
    { state := (lastAccepted_of_allocation hallocation).symm
      allocation := lastAllocation_of_allocation hallocation
      handle := hh }

/-- A free leaves the records of the other adapters. -/
theorem Recorded.free (hd : Recorded d) (handle : NdisHandle) (q : Pointer) (tag : UInt32) :
    Recorded (AX25Adapter.ndisFreeMemoryWithTagPriority d handle q tag) := by
  intro p a ha
  have hp : p ≠ q := by
    rintro rfl
    have hnone := (Heap.lookup_erase_self d.adapters).symm.trans ha
    cases hnone
  have ha' := (Heap.lookup_erase_of_ne _ hp).symm.trans ha
  exact (hd p a ha').idle ⟨rfl, rfl⟩

/-- A `Miniport` that starts to be destroyed leaves the adapters alone. -/
theorem Recorded.dying (hd : Recorded d) (this : Pointer) : Recorded (Miniport.dying d this) :=
  fun p a ha => (hd p a ha).idle ⟨rfl, rfl⟩

/-- Every move keeps the record. -/
theorem Recorded.move (hd : Recorded d) (h : Move hdr d d') : Recorded d' := by
  cases h with
  | quiet e he =>
    intro p a ha
    exact (hd p a ha).idle (he.idle (Heap.ne_null_of_lookup ha))
  | build handle block hh hb hf =>
    intro p a ha
    by_cases hp : p = block.address
    · subst hp
      obtain rfl := Option.some.inj ((Heap.lookup_store_self _ hb).symm.trans ha)
      exact recordedAt_built hh d
    · have ha' := (Heap.lookup_store_of_ne _ hp).symm.trans ha
      exact ((hd p a ha').idle (idle_allocation hp)).idle ⟨rfl, rfl⟩
  | free q b hq hh => exact hd.free _ _ _
  | setState q b s op status hq he =>
    intro p a ha
    by_cases hp : p = q
    · subst hp
      obtain rfl := Option.some.inj
        ((Heap.lookup_store_self _ (Heap.ne_null_of_lookup hq)).symm.trans ha)
      have hold := hd p b hq
      exact
        { state := (lastAccepted_of_accepted rfl (acceptedAt_of_accepted he)).symm
          allocation := hold.allocation
          handle := hold.handle }
    · have ha' := (Heap.lookup_store_of_ne _ hp).symm.trans ha
      exact (hd p a ha').idle (idle_accepted he hp)
  | construct this h0 hf =>
    intro p a ha
    exact (hd p a ha).idle ⟨rfl, rfl⟩
  | update this m m' hm => exact hd
  | dying this m hm => exact hd.dying this

/-- The record holds at every boundary of every valid run. -/
theorem recorded_of_visits {ops : List Op}
    (hv : Runs.Along (step hdr) (fun d op => op.Valid d) .initial ops)
    (hd : Runs.Visits (step hdr) .initial ops d) : Recorded d :=
  invariant_of_moves (fun _ _ => Recorded.move) hd hv recorded_initial

/-! ## States -/

theorem paused_or_running_of_accepted {r : Pointer × AX25Adapter.State} (he : e.accepted = some r) :
    r.2 = .paused ∨ r.2 = .running := by
  unfold Event.accepted at he
  split at he
  · split_ifs at he
    exact Or.inl (by rw [← Option.some.inj he])
  · split_ifs at he
    exact Or.inr (by rw [← Option.some.inj he])
  · cases he

/-- Two of the seven states are ever asked for. -/
theorem lastAccepted_cases (p : Pointer) (log : List Event) :
    lastAccepted p log = .paused ∨ lastAccepted p log = .running := by
  unfold lastAccepted
  cases hl : (sinceAllocation p log).filterMap (Event.acceptedAt p) with
  | nil => exact Or.inl rfl
  | cons s rest =>
    have hs : s ∈ (sinceAllocation p log).filterMap (Event.acceptedAt p) := by
      rw [hl]
      exact List.mem_cons_self
    obtain ⟨e, -, he⟩ := List.mem_filterMap.mp hs
    obtain ⟨r, hr, he⟩ := Option.bind_eq_some_iff.mp he
    split_ifs at he
    obtain rfl := Option.some.inj he
    exact paused_or_running_of_accepted hr

/-- A pause of a live adapter is accepted. -/
theorem step_pause_accepted (hdr : NdisHeaders) {a : AX25Adapter}
    (ha : d.adapters.lookup p = some a) (parameters : Pointer) :
    ∃ d' e, step hdr d (.callback (.pause p parameters)) = .ok d' ∧ d'.log = e :: d.log ∧
      e.acceptedAt p = some .paused :=
  ⟨_, _, step_of_call (withStatus_eq_ok.mpr ⟨_, rfl, Miniport.miniportPauseCallback_of_lookup ha⟩),
    rfl, acceptedAt_of_accepted rfl⟩

/-- A restart of a live adapter is accepted exactly if it has parameters. -/
theorem step_restart_accepted (hdr : NdisHeaders) {a : AX25Adapter}
    (ha : d.adapters.lookup p = some a) (parameters : Pointer) :
    ∃ d' e, step hdr d (.callback (.restart p parameters)) = .ok d' ∧ d'.log = e :: d.log ∧
      e.acceptedAt p = if parameters = nullptr then none else some .running := by
  by_cases hparameters : parameters = nullptr
  · subst hparameters
    refine ⟨_, _, step_of_call (withStatus_eq_ok.mpr ⟨_, rfl,
      Miniport.miniportRestartCallback_of_null (Heap.ne_null_of_lookup ha)⟩), rfl, ?_⟩
    rw [if_pos rfl]
    rfl
  · refine ⟨_, _, step_of_call (withStatus_eq_ok.mpr ⟨_, rfl,
      Miniport.miniportRestartCallback_of_lookup ha hparameters⟩), rfl, ?_⟩
    rw [if_neg hparameters]
    exact acceptedAt_of_accepted rfl

theorem handleOidRequest_of_lookup {a : AX25Adapter} (ha : d.adapters.lookup p = some a)
    (hs : a.state ≠ .halted) :
    AX25Adapter.handleOidRequest d p = .ok (statusNotImplemented, d) := by
  simp only [AX25Adapter.handleOidRequest, Heap.deref_of_lookup ha, Except.bind, if_neg hs]

/-- In every run the state of a live adapter is what the last accepted pause or restart
asked for since its block was allocated. So it is `Paused` or `Running`, an OID request is
never rejected for a halted adapter, and whatever does not set the state of this adapter
leaves it alone. -/
theorem state_eq_lastAccepted (hdr : NdisHeaders) (ops : List Op)
    (hv : Runs.Along (step hdr) (fun d op => op.Valid d) .initial ops) {d : Driver}
    (hd : Runs.Visits (step hdr) .initial ops d) (p : Pointer) (a : AX25Adapter)
    (ha : d.adapters.lookup p = some a) :
    a.state = lastAccepted p d.log ∧ (a.state = .paused ∨ a.state = .running) ∧
      AX25Adapter.handleOidRequest d p = .ok (statusNotImplemented, d) ∧
      ∀ op d' a', op.Valid d → ¬op.Sets p → step hdr d op = .ok d' →
        d'.adapters.lookup p = some a' → a'.state = a.state := by
  have hstate := (recorded_of_visits hv hd p a ha).state
  have hcases : a.state = .paused ∨ a.state = .running := by
    rw [hstate]
    exact lastAccepted_cases p d.log
  refine ⟨hstate, hcases, handleOidRequest_of_lookup ha ?_, ?_⟩
  · rcases hcases with h | h <;> rw [h] <;> decide
  · intro op d' a' hop hs h ha'
    rcases step_frame hop (Heap.live_of_lookup ha) hs h with hk | hk
    · rw [hk, ha] at ha'
      rw [Option.some.inj ha']
    · rw [hk] at ha'
      cases ha'

/-- Two adapters come up. The first is paused and then restarted; the second is restarted,
paused, and restarted again without parameters. -/
def pauseAndRestart : List Op :=
  [load, bringUp 1 0x3000, bringUp 2 0x4000, .callback (.pause 0x3000 0x400),
    .callback (.restart 0x3000 0x500), .callback (.restart 0x4000 0x500),
    .callback (.pause 0x4000 0x400), .callback (.restart 0x4000 nullptr)]

theorem states_of_pauseAndRestart :
    ∃ d a b, Runs.run (step ndis620) .initial pauseAndRestart = .ok d ∧
      d.adapters.lookup 0x3000 = some a ∧ lastAccepted 0x3000 d.log = .running ∧
      a.state = .running ∧ d.adapters.lookup 0x4000 = some b ∧
      lastAccepted 0x4000 d.log = .paused ∧ b.state = .paused := by
  have hrun : Runs.run (step ndis620) .initial pauseAndRestart = .ok _ := rfl
  have hfirst := state_eq_lastAccepted ndis620 pauseAndRestart (by decide) (.end hrun) 0x3000 _ rfl
  have hsecond := state_eq_lastAccepted ndis620 pauseAndRestart (by decide) (.end hrun) 0x4000 _ rfl
  exact ⟨_, _, _, hrun, rfl, rfl, hfirst.1, rfl, rfl, hsecond.1⟩

/-! ## Handles -/

/-- In every run a live adapter holds the handle its block was allocated with, which is
not null. So a halt frees the block once, with the handle, the address and the tag of its
allocation, whatever handle its `Miniport` has by then. -/
theorem halt_frees_as_allocated (hdr : NdisHeaders) (ops : List Op)
    (hv : Runs.Along (step hdr) (fun d op => op.Valid d) .initial ops) {d : Driver}
    (hd : Runs.Visits (step hdr) .initial ops d) (p : Pointer) (a : AX25Adapter)
    (ha : d.adapters.lookup p = some a) :
    ∃ handle tag, lastAllocation p d.log = some (handle, tag) ∧ handle ≠ nullptr ∧
      a.driverHandle = handle ∧
      ∀ action, Miniport.miniportHaltExCallback d p action =
        .ok { d with
          adapters := d.adapters.erase p
          log := .ndisFreeMemoryWithTagPriority handle p tag :: d.log } := by
  have hr := recorded_of_visits hv hd p a ha
  exact ⟨_, _, hr.allocation, hr.handle, rfl, fun _ => AX25Adapter.destroy_of_lookup ha hr.handle⟩

/-- An adapter comes up, and then a failing registration resets the handle of its
`Miniport`. -/
def resetHandle : List Op :=
  [load, bringUp 1 0x3000,
    .registerWithNdis 0x1000 0x100 0x200 { status := ndisStatusFailure, handle := nullptr }]

theorem frees_of_resetHandle :
    ∃ d m, Runs.run (step ndis620) .initial resetHandle = .ok d ∧
      d.miniports.lookup 0x1000 = some m ∧ m.miniportDriverHandle = nullptr ∧
      ∃ handle tag, lastAllocation 0x3000 d.log = some (handle, tag) ∧ handle ≠ nullptr ∧
        Miniport.miniportHaltExCallback d 0x3000 0 =
          .ok { d with
            adapters := d.adapters.erase 0x3000
            log := .ndisFreeMemoryWithTagPriority handle 0x3000 tag :: d.log } := by
  have hrun : Runs.run (step ndis620) .initial resetHandle = .ok _ := rfl
  obtain ⟨handle, tag, hallocation, hh, -, hfree⟩ :=
    halt_frees_as_allocated ndis620 resetHandle (by decide) (.end hrun) 0x3000 _ rfl
  exact ⟨_, _, hrun, rfl, rfl, handle, tag, hallocation, hh, hfree 0⟩

end VirtualAX25
