import VirtualAX25.Refinement
import Mathlib.Algebra.Group.Action.Defs
import Mathlib.Algebra.Order.BigOperators.Group.List
import Mathlib.Algebra.Order.Ring.Nat

/-!
# Which miniport an adapter belongs to

A miniport has a claim on the adapters its slots point to. An entry shifts the claims on a
block in one of four ways (`Shift`) : it leaves them, an adapter comes up with one, is
halted and leaves the claims on it, or goes down with a miniport that has one.

So no adapter is ever without a claim (`Covered`), and no block outlives the last `Miniport`
(`live_claimed`). As long as no halt is made at an address, there is one claim on it, for as
long as the adapter there is up (`Exclusive`) : these adapters belong to one `Miniport` each,
whose destructor leaves those of the others alone (`adapters_parted`). A block that was halted
can be used again, and then there are two claims on it.
-/

namespace VirtualAX25

open Service

/-- The entry halts the adapter at `p`. -/
def Op.HaltsAt (p : Pointer) : Op → Prop
  | .callback (.haltEx q _) => q = p
  | _ => False

namespace Service

variable {m m' : Memory} {this p q : Pointer} {b : Board} {op : Op} {r : Reply}
  {parameters : InitParameters}

/-! ## Claims -/

namespace Board

@[simp] theorem pointers_empty : Board.empty.pointers = [] :=
  rfl

@[simp] theorem pointers_register (b : Board) (object : Pointer) (answers : RegisterAnswers) :
    (b.register object answers).pointers = b.pointers :=
  rfl

theorem pointers_claim (hroom : b.claims.length < 16) :
    (b.claim parameters q).pointers = b.pointers ++ [q] := by
  simp [pointers, b.claims_claim parameters q hroom]

end Board

namespace Memory

/-- How many claims the miniport at `this` has on `p`. -/
def claimsOn (m : Memory) (p this : Pointer) : ℕ :=
  ((m.boards this).map fun b => b.pointers.count p).getD 0

theorem claimsOn_of_board (hb : m.boards this = some b) :
    m.claimsOn p this = b.pointers.count p := by
  simp [claimsOn, hb]

theorem claimsOn_of_none (hb : m.boards this = none) : m.claimsOn p this = 0 := by
  simp [claimsOn, hb]

/-- A board changes. -/
theorem claimsOn_of_update (hboards : m'.boards = Function.update m.boards this (some b)) :
    m'.claimsOn p = Function.update (m.claimsOn p) this (b.pointers.count p) := by
  ext1 q
  simp only [claimsOn, hboards, Function.update_apply]
  split_ifs <;> simp

/-- A board changes, and has as many claims as before. -/
theorem claimsOn_of_count (hboards : m'.boards = Function.update m.boards this (some b))
    (hcount : b.pointers.count p = m.claimsOn p this) : m'.claimsOn p = m.claimsOn p := by
  rw [claimsOn_of_update hboards, hcount, Function.update_eq_self]

/-- A board goes away. -/
theorem claimsOn_of_removed (hboards : m'.boards = Function.update m.boards this none) :
    m'.claimsOn p = Function.update (m.claimsOn p) this 0 := by
  ext1 q
  simp only [claimsOn, hboards, Function.update_apply]
  split_ifs <;> simp

/-- How an entry shifts the claims on a block and the adapter in it. -/
inductive Shift (p : Pointer) (m : Memory) (op : Op) (m' : Memory) : Prop
  | kept (hclaims : m'.claimsOn p = m.claimsOn p)
      (hports : (m'.ports p).isSome = (m.ports p).isSome)
  | built (this : Pointer) (hfresh : m.ports p = none) (hports : (m'.ports p).isSome)
      (hclaims : m'.claimsOn p = Function.update (m.claimsOn p) this (m.claimsOn p this + 1))
  | halted (hop : op.HaltsAt p) (hports : m'.ports p = none)
      (hclaims : m'.claimsOn p = m.claimsOn p)
  | destroyed (this : Pointer)
      (hports : (m'.ports p).isSome ↔ (m.ports p).isSome ∧ m.claimsOn p this = 0)
      (hclaims : m'.claimsOn p = Function.update (m.claimsOn p) this 0)

/-- A port is set that is not the one at `p`, or was there before. -/
theorem isSome_setPort {port : Port} (hq : q = p → (m.ports p).isSome) :
    ((m.setPort q (some port)).ports p).isSome = (m.ports p).isSome := by
  rw [setPort_ports, Function.update_apply]
  split_ifs with h
  · simp [hq h.symm]
  · rfl

theorem shift_of_effect (h0 : p ≠ nullptr) (h : Effect m op r) : Shift p m op r.memory := by
  cases h with
  | same => exact .kept rfl rfl
  | send => exact .kept rfl rfl
  | construct this _ hfresh =>
    exact .kept (claimsOn_of_count rfl (by simp [claimsOn_of_none hfresh])) rfl
  | load object path answers calls _ hfresh hcalls =>
    exact .kept (claimsOn_of_count rfl (by simp [claimsOn_of_none hfresh])) rfl
  | register this object path answers b hb =>
    exact .kept (claimsOn_of_count rfl (by simp [claimsOn_of_board hb])) rfl
  | refuse op this b parameters answers calls hb hroom hreach hother hrefused hcalls =>
    refine .kept (claimsOn_of_count rfl ?_) rfl
    rw [Board.pointers_claim hroom, claimsOn_of_board hb, List.count_append,
      List.count_singleton]
    simp [Ne.symm h0]
  | build op this b parameters answers hb hroom hreach hother hh hq hfresh =>
    by_cases hp : answers.block.address = p
    · subst hp
      refine .built this hfresh (by simp) ?_
      rw [claimsOn_of_update rfl, Board.pointers_claim hroom, claimsOn_of_board hb,
        List.count_append, List.count_singleton_self]
    · refine .kept (claimsOn_of_count rfl ?_) (isSome_setPort fun h => absurd h hp)
      rw [Board.pointers_claim hroom, claimsOn_of_board hb, List.count_append,
        List.count_singleton]
      simp [hp]
  | halt q action port hq hport =>
    by_cases hp : q = p
    · subst hp
      exact .halted rfl (by simp) rfl
    · refine .kept rfl ?_
      rw [setPort_ports, Function.update_of_ne (Ne.symm hp)]
  | setRunning c q port running hq hport hop =>
    refine .kept rfl (isSome_setPort ?_)
    rintro rfl
    simp [hport]
  | destroy op this b calls hb hhalts hop hcalls =>
    refine .destroyed this ?_ (claimsOn_of_removed rfl)
    rw [claimsOn_of_board hb, List.count_eq_zero]
    simp only [removePorts]
    split_ifs with hmem <;> simp [hmem]

/-! ## What holds of the claims -/

/-- Every port has a claim on it. -/
def Covered (m : Memory) : Prop :=
  ∀ p, p ≠ nullptr → (m.ports p).isSome → ∃ this, m.claimsOn p this ≠ 0

theorem Covered.effect (h : m.Covered) (heffect : Effect m op r) : r.memory.Covered := by
  intro p h0 hport
  rcases shift_of_effect h0 heffect with
    ⟨hclaims, hports⟩ | ⟨this, -, -, hclaims⟩ | ⟨-, hports, -⟩ | ⟨this, hports, hclaims⟩
  · rw [hclaims]
    exact h p h0 (hports ▸ hport)
  · exact ⟨this, by simp [hclaims]⟩
  · simp [hports] at hport
  · obtain ⟨hport, hnone⟩ := hports.mp hport
    obtain ⟨q, hq⟩ := h p h0 hport
    have hne : q ≠ this := by
      rintro rfl
      exact hq hnone
    exact ⟨q, by rwa [hclaims, Function.update_of_ne hne]⟩

/-- There is at most one claim on `p`, and if there is one, there is a port. -/
structure Exclusive (m : Memory) (p : Pointer) : Prop where
  up : ∀ this, m.claimsOn p this ≠ 0 → (m.ports p).isSome
  once : ∀ this, m.claimsOn p this ≤ 1
  unique : ∀ this this', m.claimsOn p this ≠ 0 → m.claimsOn p this' ≠ 0 → this = this'

/-- Only a halt leaves a claim on what is not there. -/
theorem Exclusive.effect (h0 : p ≠ nullptr) (h : m.Exclusive p) (hop : ¬op.HaltsAt p)
    (heffect : Effect m op r) : r.memory.Exclusive p := by
  rcases shift_of_effect h0 heffect with
    ⟨hclaims, hports⟩ | ⟨this, hfresh, hports, hclaims⟩ | ⟨hhalt, -, -⟩ | ⟨this, hports, hclaims⟩
  · refine ⟨fun q hq => ?_, ?_, ?_⟩
    · rw [hclaims] at hq
      rw [hports]
      exact h.up q hq
    · rw [hclaims]
      exact h.once
    · rw [hclaims]
      exact h.unique
  · have hnone : ∀ q, m.claimsOn p q = 0 := fun q => by
      by_contra hq
      simpa [hfresh] using h.up q hq
    have honly : ∀ q, r.memory.claimsOn p q = if q = this then 1 else 0 := fun q => by
      rw [hclaims, Function.update_apply, hnone, hnone]
    refine ⟨fun _ _ => hports, fun q => ?_, fun q q' hq hq' => ?_⟩
    · rw [honly]
      split_ifs <;> omega
    · have hthis : ∀ q, r.memory.claimsOn p q ≠ 0 → q = this := by
        intro q hq
        by_contra hne
        exact hq (by rw [honly, if_neg hne])
      rw [hthis q hq, hthis q' hq']
  · exact absurd hhalt hop
  · have hold : ∀ q, r.memory.claimsOn p q ≠ 0 → q ≠ this ∧ m.claimsOn p q ≠ 0 := by
      intro q hq
      rw [hclaims, Function.update_apply] at hq
      split_ifs at hq with hthis
      · exact absurd rfl hq
      · exact ⟨hthis, hq⟩
    refine ⟨fun q hq => ?_, fun q => ?_, fun q q' hq hq' => ?_⟩
    · obtain ⟨hne, hq⟩ := hold q hq
      refine hports.mpr ⟨h.up q hq, ?_⟩
      by_contra hthis
      exact hne (h.unique q this hq hthis)
    · have honce := h.once q
      rw [hclaims, Function.update_apply]
      split_ifs <;> omega
    · exact h.unique q q' (hold q hq).2 (hold q' hq').2

end Memory

end Service

/-! ## Runs -/

variable {hdr : NdisHeaders} {d d' : Driver} {this p : Pointer} {m : Miniport} {ops : List Op}

theorem claimsOn_memory (hm : d.miniports.lookup this = some m) (p : Pointer) :
    d.memory.claimsOn p this = m.pointers.count p := by
  have hb : d.memory.boards this = some m.board := by simp [Driver.memory, hm]
  exact Memory.claimsOn_of_board hb

theorem claimsOn_ne_zero_iff (d : Driver) (p this : Pointer) :
    d.memory.claimsOn p this ≠ 0 ↔
      ∃ m, d.miniports.lookup this = some m ∧ p ∈ m.pointers := by
  cases hm : d.miniports.lookup this with
  | none => simp [Memory.claimsOn, Driver.memory, hm]
  | some m => simp [claimsOn_memory hm, List.count_eq_zero]

theorem claimed_of_live (hv : Runs.Along (step hdr) (fun d op => op.Valid d) .initial ops)
    (hd : Runs.Visits (step hdr) .initial ops d) (hp : d.adapters.Live p) :
    ∃ this m, d.miniports.lookup this = some m ∧ p ∈ m.pointers := by
  have hinitial : Service.initial.memory.Covered := fun p _ hp => by
    simp [Service.initial, Memory.empty] at hp
  have hcovered : (fun s : Service => s.memory.Covered) d.view :=
    view_invariant (fun _ _ _ => Memory.Covered.effect) hinitial hv hd
  obtain ⟨this, hthis⟩ := hcovered p hp.ne_null ((isSome_ports d p).mpr hp)
  exact ⟨this, (claimsOn_ne_zero_iff d p this).mp hthis⟩

/-- In every run each live adapter is in the table of a live `Miniport`. Once no `Miniport` is
live, every block was freed as often as it was allocated. -/
theorem live_claimed (hdr : NdisHeaders) (ops : List Op)
    (hv : Runs.Along (step hdr) (fun d op => op.Valid d) .initial ops) {d : Driver}
    (hd : Runs.Visits (step hdr) .initial ops d) :
    (∀ p, d.adapters.Live p → ∃ this m, d.miniports.lookup this = some m ∧ p ∈ m.pointers) ∧
      ((∀ this, ¬d.miniports.Live this) → adapterLedger.Settled d.log) := by
  refine ⟨fun p => claimed_of_live hv hd, fun hnone => ?_⟩
  rw [(adapterLedger_accounts hv hd).settled_iff, List.eq_nil_iff_forall_not_mem]
  intro p hp
  obtain ⟨this, m, hm, -⟩ := claimed_of_live hv hd hp
  exact hnone this (Heap.live_of_lookup hm)

/-- Two adapters come up, and the driver is unloaded. -/
def upAndUnload : List Op :=
  [load, bringUp 1 0x3000, bringUp 2 0x4000, .callback (.driverUnload 0x100)]

theorem settled_of_upAndUnload :
    ∃ d, Runs.run (step ndis620) .initial upAndUnload = .ok d ∧ adapterLedger.Settled d.log := by
  obtain ⟨d, hrun, hnone⟩ : ∃ d, Runs.run (step ndis620) .initial upAndUnload = .ok d ∧
      d.miniports.addresses = [] := ⟨_, rfl, rfl⟩
  refine ⟨d, hrun, (live_claimed ndis620 upAndUnload (by decide) (.end hrun)).2 fun this => ?_⟩
  simp [Heap.Live, hnone]

/-- The pointers in the table of the `Miniport` at `this`, none if there is no `Miniport`. -/
def Driver.pointersAt (d : Driver) (this : Pointer) : List Pointer :=
  match d.miniports.lookup this with
  | some m => m.pointers
  | none => []

theorem length_pointersAt_le (d : Driver) (this : Pointer) : (d.pointersAt this).length ≤ 16 := by
  unfold Driver.pointersAt
  split
  · exact (List.length_map Prod.snd).trans_le (Miniport.length_entries_le _)
  · simp

/-- There are never more than sixteen live adapters for each live `Miniport`. -/
theorem adapters_le_capacity (hdr : NdisHeaders) (ops : List Op)
    (hv : Runs.Along (step hdr) (fun d op => op.Valid d) .initial ops) {d : Driver}
    (hd : Runs.Visits (step hdr) .initial ops d) :
    d.adapters.addresses.length ≤ d.miniports.addresses.length * 16 := by
  have hsubset : d.adapters.addresses ⊆ d.miniports.addresses.flatMap d.pointersAt := by
    intro p hp
    obtain ⟨this, m, hm, hmem⟩ := claimed_of_live hv hd hp
    refine List.mem_flatMap.mpr ⟨this, Heap.live_of_lookup hm, ?_⟩
    rwa [Driver.pointersAt, hm]
  calc d.adapters.addresses.length
      ≤ (d.miniports.addresses.flatMap d.pointersAt).length :=
        (List.subperm_of_subset d.adapters.nodup_addresses hsubset).length_le
    _ = (d.miniports.addresses.map fun this => (d.pointersAt this).length).sum :=
        List.length_flatMap
    _ ≤ (d.miniports.addresses.map fun this => (d.pointersAt this).length).length • 16 :=
        List.sum_le_card_nsmul _ _ (by simp [length_pointersAt_le])
    _ = d.miniports.addresses.length * 16 := by rw [List.length_map, smul_eq_mul]

/-- Two miniports with an adapter each; a third adapter was halted. -/
def twoMiniports : List Op :=
  [load, bringUp 1 0x3000, .constructMiniport 0x5000,
    .registerWithNdis 0x5000 0x100 0x200 { status := ndisStatusSuccess, handle := 0x6000 },
    .miniportInitializeEx 0x5000 (some { ifIndex := 1 })
      { block := { address := 0x4000, contents := AX25Adapter.zeroBlock }
        registration := ndisStatusSuccess
        general := ndisStatusSuccess },
    .miniportInitializeEx 0x5000 (some { ifIndex := 2 })
      { block := { address := 0x7000, contents := AX25Adapter.zeroBlock }
        registration := ndisStatusSuccess
        general := ndisStatusSuccess },
    halt 0x7000]

theorem capacity_of_twoMiniports :
    ∃ d, Runs.run (step ndis620) .initial twoMiniports = .ok d ∧
      d.adapters.addresses.length ≤ d.miniports.addresses.length * 16 := by
  have hrun : Runs.run (step ndis620) .initial twoMiniports = .ok _ := rfl
  exact ⟨_, hrun, adapters_le_capacity ndis620 twoMiniports (by decide) (.end hrun)⟩

theorem haltsAt_forget (op : Op) : op.forget.HaltsAt p ↔ op.HaltsAt p := by
  cases op with
  | callback c => cases c <;> exact Iff.rfl
  | _ => exact Iff.rfl

theorem exclusive_of_run (hv : Runs.Along (step hdr) (fun d op => op.Valid d) .initial ops)
    (hrun : Runs.run (step hdr) .initial ops = .ok d) (h0 : p ≠ nullptr)
    (hops : ∀ op ∈ ops, ¬op.HaltsAt p) : d.memory.Exclusive p := by
  have hinitial : Service.initial.memory.Exclusive p := by
    constructor <;> simp [Service.initial, Memory.empty, Memory.claimsOn]
  have hforget : ∀ op ∈ ops, ¬op.forget.HaltsAt p := fun op hop => by
    rw [haltsAt_forget]
    exact hops op hop
  change (fun s : Service => s.memory.Exclusive p) d.view
  exact view_invariant_of (fun _ _ _ => Memory.Exclusive.effect h0) hinitial hforget hv (.end hrun)

/-- A table whose claims are exclusive can be swept unless a slot in use holds null. -/
theorem valid_of_exclusive (hm : d.miniports.lookup this = some m)
    (h : ∀ p ∈ m.pointers, p ≠ nullptr → d.memory.Exclusive p) :
    m.Valid d ↔ nullptr ∉ m.pointers := by
  constructor
  · exact fun hvalid hnull => (hvalid.2 nullptr hnull).ne_null rfl
  · intro hnull
    have hexclusive : ∀ p ∈ m.pointers, d.memory.Exclusive p := fun p hp =>
      h p hp fun h0 => hnull (h0 ▸ hp)
    refine ⟨List.nodup_iff_count_le_one.mpr fun p => ?_, fun p hp => ?_⟩
    · by_cases hp : p ∈ m.pointers
      · rw [← claimsOn_memory hm]
        exact (hexclusive p hp).once this
      · rw [List.count_eq_zero_of_not_mem hp]
        omega
    · exact (isSome_ports d p).mp
        ((hexclusive p hp).up this ((claimsOn_ne_zero_iff d p this).mpr ⟨m, hm, hp⟩))

/-- In every run an adapter at an address where no halt was made is live as long as a table has
it, and it is in one slot of one table. A live `Miniport` in whose table there are only such
addresses can be destroyed exactly if no slot in use holds null, and this leaves every other
`Miniport` with its table and its adapters as they were. -/
theorem adapters_parted (hdr : NdisHeaders) (ops : List Op)
    (hv : Runs.Along (step hdr) (fun d op => op.Valid d) .initial ops) {d : Driver}
    (hrun : Runs.run (step hdr) .initial ops = .ok d) (this : Pointer) (m : Miniport)
    (hm : d.miniports.lookup this = some m) :
    (∀ p ∈ m.pointers, p ≠ nullptr → (∀ op ∈ ops, ¬op.HaltsAt p) →
      d.adapters.Live p ∧ m.pointers.count p = 1 ∧
        ∀ this' m', d.miniports.lookup this' = some m' → p ∈ m'.pointers → this' = this) ∧
      ((∀ p ∈ m.pointers, ∀ op ∈ ops, ¬op.HaltsAt p) →
        ((∃ d', Miniport.destructor d this = .ok d') ↔ nullptr ∉ m.pointers) ∧
        ∀ d', Miniport.destructor d this = .ok d' →
          ∀ this' m', this' ≠ this → d.miniports.lookup this' = some m' →
            d'.miniports.lookup this' = some m' ∧
              ∀ p ∈ m'.pointers, d'.adapters.lookup p = d.adapters.lookup p) := by
  have hclaim : ∀ {p : Pointer} {this' : Pointer} {m' : Miniport},
      d.miniports.lookup this' = some m' → p ∈ m'.pointers → d.memory.claimsOn p this' ≠ 0 :=
    fun hm' hp => (claimsOn_ne_zero_iff d _ _).mpr ⟨_, hm', hp⟩
  have hrecorded := recorded_of_visits hv (.end hrun)
  refine ⟨fun p hp h0 hops => ?_, fun hops => ?_⟩
  · have hexclusive := exclusive_of_run hv hrun h0 hops
    refine ⟨(isSome_ports d p).mp (hexclusive.up this (hclaim hm hp)), ?_, fun this' m' hm' hp' =>
      hexclusive.unique this' this (hclaim hm' hp') (hclaim hm hp)⟩
    have honce := hexclusive.once this
    have hpos := hclaim hm hp
    rw [claimsOn_memory hm] at honce hpos
    omega
  · have hexclusive : ∀ p ∈ m.pointers, p ≠ nullptr → d.memory.Exclusive p := fun p hp h0 =>
      exclusive_of_run hv hrun h0 (hops p hp)
    refine ⟨?_, fun d' h this' m' hne hm' => ?_⟩
    · rw [Miniport.destructor_completes_iff hrecorded hm, valid_of_exclusive hm hexclusive]
    · obtain ⟨hminiports, -, hadapters⟩ := Miniport.destructor_leaves hrecorded hm h
      refine ⟨?_, fun p hp => ?_⟩
      · rw [hminiports, Heap.lookup_erase_of_ne _ hne, hm']
      · rw [hadapters]
        split_ifs with hmem
        · have h0 : p = nullptr := by
            by_contra h0
            exact hne ((hexclusive p hmem h0).unique this' this (hclaim hm' hp) (hclaim hm hmem))
          rw [h0, Heap.lookup_null]
        · rfl

/-- The first can be destroyed, and leaves the second as it is. -/
theorem parted_of_twoMiniports :
    ∃ d d' m', Runs.run (step ndis620) .initial twoMiniports = .ok d ∧
      Miniport.destructor d 0x1000 = .ok d' ∧ d.miniports.lookup 0x5000 = some m' ∧
      d'.miniports.lookup 0x5000 = some m' ∧
      d'.adapters.lookup 0x4000 = d.adapters.lookup 0x4000 := by
  obtain ⟨d, m, m', hrun, hm, hm', hpointers, hpointers'⟩ :
      ∃ d m m', Runs.run (step ndis620) .initial twoMiniports = .ok d ∧
        d.miniports.lookup 0x1000 = some m ∧ d.miniports.lookup 0x5000 = some m' ∧
        m.pointers = [0x3000] ∧ m'.pointers = [0x4000, 0x7000] :=
    ⟨_, _, _, rfl, rfl, rfl, rfl, rfl⟩
  obtain ⟨hcompletes, hothers⟩ := (adapters_parted ndis620 twoMiniports (by decide) hrun 0x1000 m
    hm).2 (by simp [hpointers, twoMiniports, Op.HaltsAt, load, bringUp, halt])
  obtain ⟨d', h⟩ := hcompletes.mpr (by simp [hpointers])
  obtain ⟨htable, hkept⟩ := hothers d' h 0x5000 m' (by decide) hm'
  exact ⟨d, d', m', hrun, h, hm', htable, hkept 0x4000 (by simp [hpointers'])⟩

/-- A block that was halted and is used again is in two slots. -/
example : ∃ d m, Runs.run (step ndis620) .initial
      [load, bringUp 1 0x3000, halt 0x3000, bringUp 2 0x3000] = .ok d ∧
    d.miniports.lookup 0x1000 = some m ∧ d.adapters.Live 0x3000 ∧ m.pointers.count 0x3000 = 2 :=
  ⟨_, _, rfl, rfl, by decide, rfl⟩

end VirtualAX25
