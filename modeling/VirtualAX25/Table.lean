import VirtualAX25.AdapterHistory
import VirtualAX25.SlotTable
import VirtualAX25.Ledger

/-!
# The table and the adapters

The entries of a `Miniport` are the interface number and the pointer of each slot in use.
An initialisation that finds a free slot adds one entry, up to order
(`Miniport.entries_setSlot`). The sweep of the destructor frees the adapters the entries
point to one after another (`Miniport.destroyAdapters_adapters`), so it completes exactly
when the pointers are distinct and live (`Miniport.destructor_completes_iff`).

Blocks are conserved in every valid run : each was allocated as often as it was freed,
and once more if it is live (`adapterLedger_accounts`).
-/

namespace VirtualAX25

/-! ## Entries -/

/-- Interface number and pointer, if the slot is in use. -/
def Miniport.Adapter.entry (slot : Miniport.Adapter) : Option (NetIfIndex × Pointer) :=
  if slot.inUse then some (slot.adapterNumber, slot.adapter) else none

namespace Miniport

variable {hdr : NdisHeaders} {d d' : Driver} {m : Miniport} {i : Fin 16} {this : Pointer}
  {parameters : InitParameters} {adapters : Fin 16 → Miniport.Adapter} {is : List (Fin 16)}

/-- The entries of the slots in use, in order. -/
def entries (m : Miniport) : List (NetIfIndex × Pointer) :=
  Slots.contents Adapter.entry m.adapters

/-- The pointers of the slots `is` that are in use. -/
def pointersAt (adapters : Fin 16 → Miniport.Adapter) (is : List (Fin 16)) : List Pointer :=
  (Slots.contentsAt Adapter.entry adapters is).map Prod.snd

/-- The pointers of the slots in use. -/
def pointers (m : Miniport) : List Pointer :=
  pointersAt m.adapters (List.finRange 16)

@[simp] theorem entry_claimed (p : Pointer) (parameters : InitParameters) :
    (claimed p parameters).entry = some (parameters.ifIndex, p) :=
  rfl

theorem FirstFree.entry_eq_none (hi : m.FirstFree i) : (m.adapters i).entry = none := by
  rw [Adapter.entry, hi.1]
  rfl

theorem Full.isSome_entry (hf : m.Full) (i : Fin 16) : (m.adapters i).entry.isSome := by
  rw [Adapter.entry, hf i]
  rfl

theorem length_entries_of_full (hf : m.Full) : m.entries.length = 16 :=
  Slots.length_contents_of_full hf.isSome_entry

theorem length_entries_of_firstFree (hi : m.FirstFree i) : m.entries.length < 16 :=
  Slots.length_contents_of_free hi.entry_eq_none

theorem full_iff_length : m.Full ↔ m.entries.length = 16 := by
  refine ⟨length_entries_of_full, fun hlength => ?_⟩
  rcases m.full_or_firstFree with hf | ⟨i, hi⟩
  · exact hf
  · have hlt := length_entries_of_firstFree hi
    omega

theorem length_entries_le (m : Miniport) : m.entries.length ≤ 16 := by
  rcases m.full_or_firstFree with hf | ⟨i, hi⟩
  · exact (length_entries_of_full hf).le
  · exact (length_entries_of_firstFree hi).le

/-- Claiming a free slot adds its entry. -/
theorem entries_setSlot (hi : m.FirstFree i) (p : Pointer) (parameters : InitParameters) :
    (m.setSlot i (claimed p parameters)).entries.Perm ((parameters.ifIndex, p) :: m.entries) :=
  Slots.contents_update hi.entry_eq_none (entry_claimed p parameters)

theorem pointers_setSlot (hi : m.FirstFree i) (p : Pointer) (parameters : InitParameters) :
    (m.setSlot i (claimed p parameters)).pointers.Perm (p :: m.pointers) :=
  (entries_setSlot hi p parameters).map Prod.snd

theorem pointersAt_cons_of_inUse (hi : (adapters i).inUse = true) :
    pointersAt adapters (i :: is) = (adapters i).adapter :: pointersAt adapters is := by
  simp [pointersAt, Slots.contentsAt, Adapter.entry, hi]

theorem pointersAt_cons_of_unused (hi : (adapters i).inUse = false) :
    pointersAt adapters (i :: is) = pointersAt adapters is := by
  simp [pointersAt, Slots.contentsAt, Adapter.entry, hi]

/-- No slot of a new table is in use. -/
theorem pointers_of_zeroTable (hm : m.adapters = zeroTable) : m.pointers = [] := by
  rw [pointers, hm]
  rfl

/-! ## The sweep -/

/-- The loop of the destructor frees the adapters of the slots in use, one after another,
and faults where that does. -/
theorem destroyAdapters_adapters : ∀ {is : List (Fin 16)} {d : Driver}, Recorded d →
    (destroyAdapters adapters d is).map Driver.adapters =
      d.adapters.eraseAll (pointersAt adapters is)
  | [], d, _ => rfl
  | i :: is, d, hd => by
    cases hi : (adapters i).inUse with
    | false =>
      rw [pointersAt_cons_of_unused hi, ← destroyAdapters_adapters hd, destroyAdapters, hi]
      rfl
    | true =>
      rw [pointersAt_cons_of_inUse hi, destroyAdapters, hi, Heap.eraseAll, if_pos rfl]
      cases hderef : d.adapters.deref (adapters i).adapter with
      | error e =>
        rw [AX25Adapter.destroy_eq_error_iff.mpr hderef]
        rfl
      | ok a =>
        have ha := Heap.deref_eq_ok_iff.mp hderef
        rw [AX25Adapter.destroy_of_lookup ha (hd _ _ ha).handle]
        exact destroyAdapters_adapters (hd.free _ _ _)

/-- The loop touches neither the `Miniport` objects nor `activeContext`. -/
theorem destroyAdapters_frame (h : destroyAdapters adapters d is = .ok d') :
    d'.miniports = d.miniports ∧ d'.activeContext = d.activeContext := by
  have hdestroy : ∀ (d₁ : Driver) (p : Pointer) (d₂ : Driver),
      d₁.miniports = d.miniports ∧ d₁.activeContext = d.activeContext →
      AX25Adapter.destroy d₁ p = .ok d₂ →
      d₂.miniports = d.miniports ∧ d₂.activeContext = d.activeContext := by
    intro d₁ p d₂ h₁ h₂
    obtain ⟨a, -, ⟨-, rfl⟩ | ⟨-, rfl⟩⟩ := AX25Adapter.destroy_cases h₂
    · exact h₁
    · exact h₁
  exact destroyAdapters_invariant hdestroy h ⟨rfl, rfl⟩

/-- The slots in use hold distinct live adapters. -/
def Valid (d : Driver) (m : Miniport) : Prop :=
  m.pointers.Nodup ∧ ∀ p ∈ m.pointers, d.adapters.Live p

theorem sweep_adapters (hd : Recorded d) (this : Pointer) (m : Miniport) :
    (destroyAdapters m.adapters (dying d this) (List.finRange 16)).map Driver.adapters =
      d.adapters.eraseAll m.pointers :=
  destroyAdapters_adapters (hd.dying this)

/-- The destructor completes on a live `Miniport` exactly when the slots in use hold
distinct live adapters. -/
theorem destructor_completes_iff (hd : Recorded d) (hm : d.miniports.lookup this = some m) :
    (∃ d', destructor d this = .ok d') ↔ m.Valid d := by
  have hsweep := sweep_adapters hd this m
  rw [destructor_of_lookup hm, Valid, ← Heap.eraseAll_eq_ok_iff]
  refine Iff.trans ?_ (iff_of_eq (congrArg (fun r => ∃ h, r = .ok h) hsweep))
  cases destroyAdapters m.adapters (dying d this) (List.finRange 16) <;> simp [Except.map]

/-- What a completed destructor leaves. -/
theorem destructor_leaves (hd : Recorded d) (hm : d.miniports.lookup this = some m)
    (h : destructor d this = .ok d') :
    d'.miniports = d.miniports.erase this ∧
      d'.activeContext = (if this = d.activeContext then nullptr else d.activeContext) ∧
      ∀ q, d'.adapters.lookup q = if q ∈ m.pointers then none else d.adapters.lookup q := by
  rw [destructor_of_lookup hm] at h
  obtain ⟨hminiports, hcontext⟩ := destroyAdapters_frame h
  refine ⟨hminiports, hcontext, Heap.lookup_eraseAll ?_⟩
  have hsweep := sweep_adapters hd this m
  rw [h] at hsweep
  exact hsweep.symm

/-- Deleting a live `Miniport` faults where the sweep of its table does. -/
theorem delete_eq_error_iff (hd : Recorded d) (hm : d.miniports.lookup this = some m) {e : Fault} :
    delete d this = .error e ↔ d.adapters.eraseAll m.pointers = .error e := by
  rw [← sweep_adapters hd this m, delete, if_neg (Heap.ne_null_of_lookup hm),
    destructor_of_lookup hm]
  cases destroyAdapters m.adapters (dying d this) (List.finRange 16) <;>
    simp [Except.bind, Except.map]

/-- Deleting a live `Miniport` completes exactly when its table is valid. -/
theorem delete_completes_iff (hd : Recorded d) (hm : d.miniports.lookup this = some m) :
    (∃ d', delete d this = .ok d') ↔ m.Valid d := by
  rw [← destructor_completes_iff hd hm, delete, if_neg (Heap.ne_null_of_lookup hm)]
  cases destructor d this <;> simp [Except.bind]

/-- What a completed delete leaves. -/
theorem delete_leaves (hd : Recorded d) (hm : d.miniports.lookup this = some m)
    (h : delete d this = .ok d') :
    d'.miniports = d.miniports.erase this ∧
      d'.activeContext = (if this = d.activeContext then nullptr else d.activeContext) ∧
      ∀ q, d'.adapters.lookup q = if q ∈ m.pointers then none else d.adapters.lookup q := by
  have h0 := Heap.ne_null_of_lookup hm
  rw [delete, if_neg h0] at h
  obtain ⟨d₁, h₁, h⟩ := Runs.bind_eq_ok.mp h
  have hleaves := destructor_leaves hd hm h₁
  rw [← Except.ok.inj h, operatorDelete, if_pos h0]
  exact hleaves

end Miniport

/-! ## Conservation of blocks -/

/-- Blocks of adapters, by address. -/
def adapterLedger : Ledger Event Pointer where
  takes
    | .ndisAllocateMemoryWithTagPriority _ _ _ address =>
      if address = nullptr then [] else [address]
    | _ => []
  gives
    | .ndisFreeMemoryWithTagPriority _ address _ => [address]
    | _ => []

/-- A live block is held once. -/
def liveCount (d : Driver) (p : Pointer) : ℕ :=
  if d.adapters.Live p then 1 else 0

/-- Blocks are conserved. -/
def Conserved (d : Driver) : Prop :=
  adapterLedger.Accounts d.log (liveCount d)

variable {hdr : NdisHeaders} {d d' : Driver}

theorem adapterLedger_quiet {e : Event} (he : e.Quiet) :
    adapterLedger.takes e = [] ∧ adapterLedger.gives e = [] := by
  cases e with
  | ndisAllocateMemoryWithTagPriority handle length tag address =>
    obtain rfl : address = nullptr := he
    exact ⟨rfl, rfl⟩
  | ndisFreeMemoryWithTagPriority handle address tag => exact absurd he id
  | _ => exact ⟨rfl, rfl⟩

theorem Conserved.move (hd : Conserved d) (h : Move hdr d d') : Conserved d' := by
  cases h with
  | quiet e he => exact hd.idle (adapterLedger_quiet he).1 (adapterLedger_quiet he).2
  | build handle block hh hb hf =>
    have htakes : adapterLedger.takes (.ndisAllocateMemoryWithTagPriority handle
        hdr.sizeofAX25Adapter AX25Adapter.ax25AdapterTag block.address) = [block.address] :=
      if_neg hb
    refine Ledger.Accounts.idle (hd.take rfl fun k => ?_) rfl rfl
    simp only [htakes, liveCount, AX25Adapter.built, Heap.live_store hb, List.count_singleton]
    have hfresh : ¬d.adapters.Live block.address := hf
    by_cases hk : k = block.address
    · subst hk
      simp [hfresh]
    · simp [hk, Ne.symm hk]
  | free p a ha hh =>
    refine hd.give rfl fun k => ?_
    have hgives : adapterLedger.gives (.ndisFreeMemoryWithTagPriority a.driverHandle p
        AX25Adapter.ax25AdapterTag) = [p] := rfl
    simp only [hgives, liveCount, AX25Adapter.ndisFreeMemoryWithTagPriority, Heap.live_erase,
      List.count_singleton]
    by_cases hk : k = p
    · subst hk
      simp [Heap.live_of_lookup ha]
    · simp [hk, Ne.symm hk]
  | setState p a s op status ha he =>
    have hlive : liveCount ((d.storeAdapter p { a with state := s }).record
        (.returned op status)) = liveCount d := by
      funext k
      simp only [liveCount, Driver.record_adapters, Driver.storeAdapter_adapters,
        Heap.live_store_of_live (Heap.live_of_lookup ha)]
    rw [Conserved, hlive]
    exact hd.idle rfl rfl
  | construct this h0 hf => exact hd.idle rfl rfl
  | update this m m' hm => exact hd
  | dying this m hm => exact hd.idle rfl rfl

theorem conserved_initial : Conserved .initial := by
  intro p
  simp [Driver.initial, liveCount]

/-- In every valid run each block was allocated as often as it was freed, and once more if
it is live. -/
theorem adapterLedger_accounts {ops : List Op}
    (hv : Runs.Along (step hdr) (fun d op => op.Valid d) .initial ops)
    (hd : Runs.Visits (step hdr) .initial ops d) : Conserved d :=
  invariant_of_moves (fun _ _ => Conserved.move) hd hv conserved_initial

/-- Every block was freed as often as it was allocated exactly when none is live. -/
theorem Conserved.settled_iff (hd : Conserved d) :
    adapterLedger.Settled d.log ↔ d.adapters.addresses = [] := by
  rw [Ledger.Accounts.settled_iff hd, List.eq_nil_iff_forall_not_mem]
  refine forall_congr' fun p => ?_
  unfold liveCount Heap.Live
  split_ifs with hp <;> simp [hp]

end VirtualAX25
