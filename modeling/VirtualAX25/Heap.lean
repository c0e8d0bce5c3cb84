import Mathlib.Data.List.AList

/-!
# Heaps of typed objects

A heap holds finitely many objects by address. Address `0` is the null pointer and no
object lives there : the structure carries the proof. `Heap.deref` reads through a
pointer and faults on the null pointer and on a pointer to no object. `Heap.eraseAll`
removes the objects at a list of addresses one after another; it completes exactly when
the addresses are distinct and each holds an object (`Heap.eraseAll_eq_ok_iff`), and
`Heap.eraseAll_eq_null_iff` says when it comes to the null pointer.
-/

/-- Undefined behaviour of a program with pointers. -/
inductive Fault
  /-- A member is read or called through the null pointer. -/
  | nullPointer
  /-- A member is read or called through a pointer to no live object. -/
  | danglingPointer
  deriving DecidableEq, Repr

/-- Objects by address, none at the null address. -/
structure Heap (α : Type*) where
  /-- The live objects. -/
  objects : AList fun _ : ℕ => α
  null_notMem : 0 ∉ objects

namespace Heap

variable {α : Type*} (h : Heap α) {p q : ℕ} {a b : α}

/-- The heap with no object. -/
def empty : Heap α :=
  ⟨∅, AList.notMem_empty 0⟩

/-- The object at `p`. -/
def lookup (p : ℕ) : Option α :=
  h.objects.lookup p

/-- Put `a` at `p`. Nothing is put at the null address. -/
def store (p : ℕ) (a : α) : Heap α :=
  if hp : p = 0 then h
  else ⟨h.objects.insert p a, by
    rw [AList.mem_insert, not_or]
    exact ⟨Ne.symm hp, h.null_notMem⟩⟩

/-- Remove the object at `p`. -/
def erase (p : ℕ) : Heap α :=
  ⟨h.objects.erase p, fun h0 => h.null_notMem (AList.mem_erase.mp h0).2⟩

/-- The addresses of the live objects. -/
def addresses : List ℕ :=
  h.objects.keys

/-- An object lives at `p`. -/
def Live (p : ℕ) : Prop :=
  p ∈ h.addresses

instance (p : ℕ) : Decidable (h.Live p) :=
  inferInstanceAs (Decidable (p ∈ h.addresses))

/-- Read through the pointer `p`. -/
def deref (p : ℕ) : Except Fault α :=
  if p = 0 then .error .nullPointer
  else match h.lookup p with
    | some a => .ok a
    | none => .error .danglingPointer

/-! ## Reading after writing -/

@[simp] theorem lookup_empty (p : ℕ) : (empty : Heap α).lookup p = none :=
  AList.lookup_empty p

@[simp] theorem lookup_null : h.lookup 0 = none :=
  AList.lookup_eq_none.mpr h.null_notMem

@[simp] theorem lookup_store_self (hp : p ≠ 0) : (h.store p a).lookup p = some a := by
  rw [store, dif_neg hp]
  exact AList.lookup_insert _

theorem lookup_store_of_ne (hq : q ≠ p) : (h.store p a).lookup q = h.lookup q := by
  unfold store
  split_ifs
  · rfl
  · exact AList.lookup_insert_ne hq

@[simp] theorem lookup_erase_self : (h.erase p).lookup p = none :=
  AList.lookup_erase p _

theorem lookup_erase_of_ne (hq : q ≠ p) : (h.erase p).lookup q = h.lookup q :=
  AList.lookup_erase_ne hq

@[simp] theorem store_store : (h.store p a).store p b = h.store p b := by
  unfold store
  split_ifs with hp
  · rfl
  · congr 1
    exact AList.insert_insert _

theorem live_iff : h.Live p ↔ ∃ a, h.lookup p = some a := by
  rw [← Option.isSome_iff_exists]
  exact AList.lookup_isSome.symm

theorem not_live_iff : ¬h.Live p ↔ h.lookup p = none :=
  AList.lookup_eq_none.symm

variable {h}

theorem live_of_lookup (hl : h.lookup p = some a) : h.Live p :=
  h.live_iff.mpr ⟨a, hl⟩

theorem Live.ne_null (hp : h.Live p) : p ≠ 0 := by
  rintro rfl
  exact h.null_notMem hp

theorem ne_null_of_lookup (hl : h.lookup p = some a) : p ≠ 0 :=
  (live_of_lookup hl).ne_null

@[simp] theorem not_live_empty (p : ℕ) : ¬(empty : Heap α).Live p := by
  rw [not_live_iff, lookup_empty]

theorem live_store (hp : p ≠ 0) : (h.store p a).Live q ↔ q = p ∨ h.Live q := by
  by_cases hq : q = p
  · subst hq
    simp [live_iff, hp]
  · rw [live_iff, live_iff, lookup_store_of_ne h hq]
    simp [hq]

theorem live_erase : (h.erase p).Live q ↔ q ≠ p ∧ h.Live q :=
  AList.mem_erase

/-- Writing over a live object leaves the same addresses live. -/
theorem live_store_of_live (hp : h.Live p) : (h.store p a).Live q ↔ h.Live q := by
  rw [live_store hp.ne_null]
  constructor
  · rintro (rfl | hq)
    · exact hp
    · exact hq
  · exact Or.inr

/-! ## Addresses -/

theorem nodup_addresses (h : Heap α) : h.addresses.Nodup :=
  h.objects.keys_nodup

theorem addresses_erase (h : Heap α) (p : ℕ) : (h.erase p).addresses = h.addresses.erase p :=
  AList.keys_erase p _

theorem addresses_store_of_not_live (hp : p ≠ 0) (hl : ¬h.Live p) :
    (h.store p a).addresses = p :: h.addresses := by
  have herase : h.objects.keys.erase p = h.objects.keys := List.erase_of_not_mem hl
  unfold store
  rw [dif_neg hp]
  exact (AList.keys_insert _).trans (by rw [herase]; rfl)

theorem length_addresses_erase (hp : h.Live p) :
    (h.erase p).addresses.length + 1 = h.addresses.length := by
  have hpos := List.length_pos_of_mem hp
  rw [addresses_erase, List.length_erase_of_mem hp]
  omega

/-! ## Partial functions

A heap as the partial function of its objects. -/

/-- Read the partial function `f` through the pointer `p`. -/
def read (f : ℕ → Option α) (p : ℕ) : Except Fault α :=
  if p = 0 then .error .nullPointer
  else match f p with
    | some a => .ok a
    | none => .error .danglingPointer

theorem map_read {β : Type*} (g : α → β) (f : ℕ → Option α) (p : ℕ) :
    (read f p).map g = read (Option.map g ∘ f) p := by
  unfold read
  split_ifs with hp
  · rfl
  · cases hf : f p <;> simp [hf, Except.map]

theorem read_eq_ok_iff {f : ℕ → Option α} : read f p = .ok a ↔ p ≠ 0 ∧ f p = some a := by
  unfold read
  split_ifs with hp
  · simp [hp]
  · cases f p <;> simp [hp]

/-- Storing updates the function. -/
theorem lookup_store (h : Heap α) (hp : p ≠ 0) (a : α) :
    (h.store p a).lookup = Function.update h.lookup p (some a) := by
  ext1 q
  by_cases hq : q = p
  · subst hq
    simp [hp]
  · simp [lookup_store_of_ne h hq, hq]

theorem lookup_erase (h : Heap α) (p : ℕ) :
    (h.erase p).lookup = Function.update h.lookup p none := by
  ext1 q
  by_cases hq : q = p
  · subst hq
    simp
  · simp [lookup_erase_of_ne h hq, hq]

/-! ## Dereferencing -/

theorem deref_null (h : Heap α) : h.deref 0 = .error .nullPointer :=
  rfl

theorem deref_of_lookup (hl : h.lookup p = some a) : h.deref p = .ok a := by
  rw [deref, if_neg (ne_null_of_lookup hl), hl]

theorem deref_eq_ok_iff : h.deref p = .ok a ↔ h.lookup p = some a := by
  refine ⟨fun hd => ?_, deref_of_lookup⟩
  unfold deref at hd
  split_ifs at hd
  cases hl : h.lookup p with
  | none => simp [hl] at hd
  | some b =>
    rw [hl] at hd
    rw [Except.ok.inj hd]

theorem deref_of_not_live (hp : p ≠ 0) (hl : ¬h.Live p) : h.deref p = .error .danglingPointer := by
  rw [deref, if_neg hp, h.not_live_iff.mp hl]

/-! ## Removing a list of objects -/

/-- Remove the objects at the addresses `ps`, one after another. -/
def eraseAll : Heap α → List ℕ → Except Fault (Heap α)
  | h, [] => .ok h
  | h, p :: ps => (h.deref p).bind fun _ => (h.erase p).eraseAll ps

/-- The removals all find an object exactly when the addresses are distinct and live. -/
theorem eraseAll_eq_ok_iff : ∀ {ps : List ℕ} {h : Heap α},
    (∃ h', h.eraseAll ps = .ok h') ↔ ps.Nodup ∧ ∀ p ∈ ps, h.Live p
  | [], h => by simp [eraseAll]
  | p :: ps, h => by
    by_cases hp : h.Live p
    · obtain ⟨a, ha⟩ := h.live_iff.mp hp
      simp only [eraseAll, deref_of_lookup ha, Except.bind, eraseAll_eq_ok_iff, live_erase,
        List.nodup_cons, List.mem_cons, forall_eq_or_imp, hp, true_and]
      constructor
      · rintro ⟨hnd, hl⟩
        exact ⟨⟨fun hmem => (hl p hmem).1 rfl, hnd⟩, fun q hq => (hl q hq).2⟩
      · rintro ⟨⟨hnot, hnd⟩, hl⟩
        refine ⟨hnd, fun q hq => ⟨?_, hl q hq⟩⟩
        rintro rfl
        exact hnot hq
    · refine iff_of_false ?_ fun hl => hp (hl.2 p (by simp))
      rintro ⟨h', he⟩
      by_cases hp0 : p = 0
      · subst hp0
        simp [eraseAll, deref_null, Except.bind] at he
      · simp [eraseAll, deref_of_not_live hp0 hp, Except.bind] at he

/-- The removals come to the null pointer exactly when all before it find an object. -/
theorem eraseAll_eq_null_iff : ∀ {ps : List ℕ} {h : Heap α},
    h.eraseAll ps = .error .nullPointer ↔
      ∃ pre post, ps = pre ++ 0 :: post ∧ pre.Nodup ∧ ∀ p ∈ pre, h.Live p
  | [], h => by simp [eraseAll]
  | p :: ps, h => by
    by_cases hp0 : p = 0
    · subst hp0
      refine iff_of_true ?_ ⟨[], ps, rfl, List.nodup_nil, by simp⟩
      rw [eraseAll, deref_null]
      rfl
    · by_cases hp : h.Live p
      · obtain ⟨a, ha⟩ := h.live_iff.mp hp
        rw [eraseAll, deref_of_lookup ha]
        refine (@eraseAll_eq_null_iff ps (h.erase p)).trans ⟨?_, ?_⟩
        · rintro ⟨pre, post, rfl, hnd, hl⟩
          refine ⟨p :: pre, post, rfl, List.nodup_cons.mpr ⟨fun hmem => ?_, hnd⟩, ?_⟩
          · exact (live_erase.mp (hl p hmem)).1 rfl
          · exact List.forall_mem_cons.mpr ⟨hp, fun q hq => (live_erase.mp (hl q hq)).2⟩
        · rintro ⟨pre, post, heq, hnd, hl⟩
          cases pre with
          | nil => exact absurd (List.cons.inj heq).1 hp0
          | cons q pre =>
            obtain ⟨rfl, rfl⟩ := List.cons.inj heq
            obtain ⟨hmem, hnd⟩ := List.nodup_cons.mp hnd
            refine ⟨pre, post, rfl, hnd, fun q hq => live_erase.mpr ⟨?_, ?_⟩⟩
            · rintro rfl
              exact hmem hq
            · exact hl q (List.mem_cons_of_mem _ hq)
      · refine iff_of_false ?_ ?_
        · rw [eraseAll, deref_of_not_live hp0 hp]
          simp [Except.bind]
        · rintro ⟨pre, post, heq, -, hl⟩
          cases pre with
          | nil => exact hp0 (List.cons.inj heq).1
          | cons q pre =>
            obtain ⟨rfl, -⟩ := List.cons.inj heq
            exact hp (hl p List.mem_cons_self)

/-- A removal that comes to a dangling pointer finds an address that is not live, or that was
there before. -/
theorem of_eraseAll_eq_dangling : ∀ {ps : List ℕ} {h : Heap α},
    h.eraseAll ps = .error .danglingPointer → ∃ p ∈ ps, p ≠ 0 ∧ (h.Live p → 1 < ps.count p)
  | [], h, he => by cases he
  | p :: ps, h, he => by
    by_cases hp0 : p = 0
    · subst hp0
      cases he
    · by_cases hp : h.Live p
      · obtain ⟨a, ha⟩ := h.live_iff.mp hp
        rw [eraseAll, deref_of_lookup ha] at he
        obtain ⟨q, hq, hq0, hcount⟩ := of_eraseAll_eq_dangling he
        refine ⟨q, List.mem_cons_of_mem _ hq, hq0, fun hlive => ?_⟩
        by_cases hqp : q = p
        · have hpos := List.count_pos_iff.mpr hq
          rw [hqp, List.count_cons_self, ← hqp]
          omega
        · rw [List.count_cons_of_ne (Ne.symm hqp)]
          exact hcount (live_erase.mpr ⟨hqp, hlive⟩)
      · exact ⟨p, List.mem_cons_self, hp0, fun hlive => absurd hlive hp⟩

/-- What is left are the objects at the other addresses. -/
theorem lookup_eraseAll : ∀ {ps : List ℕ} {h h' : Heap α}, h.eraseAll ps = .ok h' → ∀ q,
    h'.lookup q = if q ∈ ps then none else h.lookup q
  | [], h, h', he, q => by
    obtain rfl := Except.ok.inj he
    simp
  | p :: ps, h, h', he, q => by
    rw [eraseAll] at he
    cases hd : h.deref p with
    | error e => simp [hd, Except.bind] at he
    | ok a =>
      rw [hd] at he
      rw [lookup_eraseAll he q]
      by_cases hq : q = p
      · subst hq
        simp
      · simp [hq, lookup_erase_of_ne h hq]

end Heap
