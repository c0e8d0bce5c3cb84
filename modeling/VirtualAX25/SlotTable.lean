import Mathlib.Data.List.FinRange
import Mathlib.Data.List.Nodup
import Mathlib.Data.List.Pairwise
import Mathlib.Logic.Function.Basic

/-!
# Bounded maps and tables of slots

A `BoundedMap n κ ν` is a finite map that is injective and has at most `n` entries; the
structure carries the proofs. A table of `n` slots, each free or with one entry, holds a
bounded map if the entries of its slots are those of the map, in some order
(`Slots.Holds`). Filling a free slot is an insertion (`Slots.Holds.insert`), a full table
holds a map with `n` entries (`Slots.Holds.length_of_full`), and a table that still has
the value of a removed entry does not hold the map any more (`Slots.Holds.not_remove`).
-/

set_option linter.unusedSectionVars false

/-- An injective map with at most `n` entries. -/
structure BoundedMap (n : ℕ) (κ ν : Type*) where
  entries : List (κ × ν)
  nodup_keys : (entries.map Prod.fst).Nodup
  nodup_values : (entries.map Prod.snd).Nodup
  length_le : entries.length ≤ n

namespace BoundedMap

variable {n : ℕ} {κ ν : Type*} [DecidableEq κ] [DecidableEq ν] (f : BoundedMap n κ ν) {k : κ}
  {v w : ν}

def empty : BoundedMap n κ ν :=
  ⟨[], List.nodup_nil, List.nodup_nil, Nat.zero_le _⟩

def keys : List κ :=
  f.entries.map Prod.fst

def values : List ν :=
  f.entries.map Prod.snd

/-- Add an entry, if its key and value are new and there is room. -/
def insert (k : κ) (v : ν) : BoundedMap n κ ν :=
  if h : k ∉ f.keys ∧ v ∉ f.values ∧ f.entries.length < n then
    ⟨(k, v) :: f.entries, List.nodup_cons.mpr ⟨h.1, f.nodup_keys⟩,
      List.nodup_cons.mpr ⟨h.2.1, f.nodup_values⟩, h.2.2⟩
  else f

/-- Remove the entry with the value `v`. -/
def remove (v : ν) : BoundedMap n κ ν :=
  ⟨f.entries.filter fun e => e.2 ≠ v,
    f.nodup_keys.sublist (List.filter_sublist.map _),
    f.nodup_values.sublist (List.filter_sublist.map _),
    (List.length_filter_le _ _).trans f.length_le⟩

@[simp] theorem entries_empty : (empty : BoundedMap n κ ν).entries = [] :=
  rfl

theorem entries_insert (hk : k ∉ f.keys) (hv : v ∉ f.values) (hn : f.entries.length < n) :
    (f.insert k v).entries = (k, v) :: f.entries := by
  rw [insert, dif_pos ⟨hk, hv, hn⟩]

theorem values_insert (hk : k ∉ f.keys) (hv : v ∉ f.values) (hn : f.entries.length < n) :
    (f.insert k v).values = v :: f.values := by
  rw [values, f.entries_insert hk hv hn]
  rfl

theorem notMem_values_remove : v ∉ (f.remove v).values := by
  intro hv
  obtain ⟨e, he, rfl⟩ := List.mem_map.mp hv
  have hne := (List.mem_filter.mp he).2
  simp at hne

end BoundedMap

namespace Slots

variable {n : ℕ} {σ α : Type*} (content : σ → Option α)

/-- The contents of the slots `is` that have one, in order. -/
def contentsAt (table : Fin n → σ) (is : List (Fin n)) : List α :=
  is.filterMap fun i => content (table i)

/-- The contents of a table. -/
def contents (table : Fin n → σ) : List α :=
  contentsAt content table (List.finRange n)

variable {content} {table : Fin n → σ} {i : Fin n} {s : σ} {a : α}

theorem contentsAt_update_of_notMem {is : List (Fin n)} (hi : i ∉ is) :
    contentsAt content (Function.update table i s) is = contentsAt content table is := by
  refine List.filterMap_congr fun j hj => ?_
  have hne : j ≠ i := fun h => hi (h ▸ hj)
  rw [Function.update_of_ne hne]

/-- Filling a free slot adds its content. -/
theorem contentsAt_update : ∀ {is : List (Fin n)}, is.Nodup → i ∈ is →
    content (table i) = none → content s = some a →
    (contentsAt content (Function.update table i s) is).Perm (a :: contentsAt content table is)
  | [], _, hi, _, _ => by cases hi
  | j :: is, hnd, hi, hfree, hs => by
    obtain ⟨hj, hnd⟩ := List.nodup_cons.mp hnd
    by_cases hij : i = j
    · subst hij
      have hrest : contentsAt content (Function.update table i s) is =
          contentsAt content table is := contentsAt_update_of_notMem hj
      simp only [contentsAt, List.filterMap_cons, Function.update_self, hs, hfree] at hrest ⊢
      rw [hrest]
    · have hmem : i ∈ is := (List.mem_cons.mp hi).resolve_left hij
      have ih := contentsAt_update hnd hmem hfree hs
      simp only [contentsAt, List.filterMap_cons, Function.update_of_ne (Ne.symm hij)] at ih ⊢
      cases hc : content (table j) with
      | none => exact ih
      | some b => exact (ih.cons b).trans (List.Perm.swap a b _)

theorem contents_update (hfree : content (table i) = none) (hs : content s = some a) :
    (contents content (Function.update table i s)).Perm (a :: contents content table) :=
  contentsAt_update (List.nodup_finRange n) (List.mem_finRange i) hfree hs

/-- Filling the slot before which all are filled, and after which all are free, adds its
content at the end. -/
theorem contents_update_of_last (hfree : content (table i) = none)
    (hlast : ∀ j, i < j → content (table j) = none) (hs : content s = some a) :
    contents content (Function.update table i s) = contents content table ++ [a] := by
  obtain ⟨pre, post, hsplit⟩ := List.append_of_mem (List.mem_finRange i)
  have hsorted := List.pairwise_lt_finRange n
  rw [hsplit, List.pairwise_append, List.pairwise_cons] at hsorted
  obtain ⟨-, ⟨hpost, -⟩, hpre⟩ := hsorted
  have hpre' : i ∉ pre := fun hi => lt_irrefl i (hpre i hi i List.mem_cons_self)
  have hpost' : i ∉ post := fun hi => lt_irrefl i (hpost i hi)
  have hnil : contentsAt content table post = [] :=
    List.filterMap_eq_nil_iff.mpr fun j hj => hlast j (hpost j hj)
  have hbefore : contentsAt content (Function.update table i s) pre =
      contentsAt content table pre := contentsAt_update_of_notMem hpre'
  have hafter : contentsAt content (Function.update table i s) post =
      contentsAt content table post := contentsAt_update_of_notMem hpost'
  simp only [contentsAt] at hnil hbefore hafter
  simp [contents, contentsAt, hsplit, hbefore, hafter, hnil, hfree, hs]

/-- If no element with an image comes after one without, the images keep their places. -/
theorem getElem?_filterMap_of_pairwise {β γ : Type*} {f : β → Option γ} :
    ∀ {l : List β} (k : ℕ), l.Pairwise (fun a b => (f b).isSome → (f a).isSome) →
      (l.filterMap f)[k]? = l[k]?.bind f
  | [], k, _ => by simp
  | a :: l, k, h => by
    obtain ⟨ha, hl⟩ := List.pairwise_cons.mp h
    cases hfa : f a with
    | none =>
      have hnone : ∀ b ∈ l, f b = none := fun b hb => by
        have hb := ha b hb
        simp_all
      have hnil : l.filterMap f = [] := List.filterMap_eq_nil_iff.mpr hnone
      rw [List.filterMap_cons, hfa, hnil]
      cases k with
      | zero => simp [hfa]
      | succ k =>
        cases hk : l[k]? with
        | none => simp [hk]
        | some b => simp [hk, hnone b (List.mem_of_getElem? hk)]
    | some b =>
      rw [List.filterMap_cons, hfa]
      cases k with
      | zero => simp [hfa]
      | succ k => simpa using getElem?_filterMap_of_pairwise k hl

/-- If no filled slot comes after a free one, the contents stand in the places of their
slots. -/
theorem getElem?_contents
    (h : ∀ i j, i < j → (content (table j)).isSome → (content (table i)).isSome) (i : Fin n) :
    (contents content table)[i.val]? = content (table i) := by
  have hsorted : (List.finRange n).Pairwise fun i j =>
      (content (table j)).isSome → (content (table i)).isSome :=
    (List.pairwise_lt_finRange n).imp fun {i j} hlt => h i j hlt
  rw [contents, contentsAt, getElem?_filterMap_of_pairwise _ hsorted]
  simp

theorem length_contents_of_full (h : ∀ i, (content (table i)).isSome) :
    (contents content table).length = n := by
  have hlength : ∀ is : List (Fin n), (contentsAt content table is).length = is.length := by
    intro is
    induction is with
    | nil => rfl
    | cons i is ih =>
      obtain ⟨b, hb⟩ := Option.isSome_iff_exists.mp (h i)
      simp only [contentsAt, List.filterMap_cons, hb, List.length_cons] at ih ⊢
      rw [ih]
  rw [contents, hlength, List.length_finRange]

theorem length_contents_of_free (hfree : content (table i) = none) :
    (contents content table).length < n := by
  have hle := List.length_filterMap_le (fun j => content (table j)) ((List.finRange n).erase i)
  have hsplit : (contents content table).length =
      (contentsAt content table ((List.finRange n).erase i)).length := by
    have hperm := (List.perm_cons_erase (List.mem_finRange i)).filterMap
      fun j => content (table j)
    rw [contents, contentsAt, hperm.length_eq, List.filterMap_cons, hfree]
    rfl
  rw [List.length_erase_of_mem (List.mem_finRange i), List.length_finRange] at hle
  have hpos := i.pos
  rw [hsplit, contentsAt]
  omega

/-- If what `g` reads off the contents has no duplicates, it tells the slots apart. -/
theorem eq_of_nodup {γ : Type*} {g : α → γ} (hnd : ((contents content table).map g).Nodup)
    {j : Fin n} {b : α} (hi : content (table i) = some a) (hj : content (table j) = some b)
    (hg : g a = g b) : i = j := by
  by_contra hne
  rw [List.Nodup, List.pairwise_map, contents, contentsAt, List.pairwise_filterMap] at hnd
  have : Std.Symm fun i j => ∀ a, content (table i) = some a → ∀ b,
      content (table j) = some b → g a ≠ g b :=
    ⟨fun i j h b hb a ha => (h a ha b hb).symm⟩
  exact hnd.forall (List.mem_finRange i) (List.mem_finRange j) hne a hi b hj hg

/-! ## Tables that hold a bounded map -/

section Holds

variable {κ ν : Type*} [DecidableEq κ] [DecidableEq ν] {entry : σ → Option (κ × ν)}
  {f : BoundedMap n κ ν} {k : κ} {v : ν}

/-- The entries of the slots are those of the map. -/
def Holds (entry : σ → Option (κ × ν)) (table : Fin n → σ) (f : BoundedMap n κ ν) : Prop :=
  (contents entry table).Perm f.entries

theorem Holds.empty (h : ∀ i, entry (table i) = none) : Holds entry table .empty := by
  have hnil : contents entry table = [] := by
    rw [contents, contentsAt, List.filterMap_eq_nil_iff]
    exact fun i _ => h i
  rw [Holds, hnil, BoundedMap.entries_empty]

theorem Holds.insert (h : Holds entry table f) (hfree : entry (table i) = none)
    (hs : entry s = some (k, v)) (hk : k ∉ f.keys) (hv : v ∉ f.values) :
    Holds entry (Function.update table i s) (f.insert k v) := by
  have hroom : f.entries.length < n := h.length_eq ▸ length_contents_of_free hfree
  rw [Holds, f.entries_insert hk hv hroom]
  exact (contents_update hfree hs).trans (h.cons _)

/-- Neither a key nor a value stands in two slots. -/
theorem Holds.eq_of_entry (h : Holds entry table f) {j : Fin n} {e e' : κ × ν}
    (hi : entry (table i) = some e) (hj : entry (table j) = some e')
    (he : e.2 = e'.2 ∨ e.1 = e'.1) : i = j := by
  rcases he with he | he
  · exact eq_of_nodup ((h.map Prod.snd).nodup_iff.mpr f.nodup_values) hi hj he
  · exact eq_of_nodup ((h.map Prod.fst).nodup_iff.mpr f.nodup_keys) hi hj he

theorem Holds.length_of_full (h : Holds entry table f) (hfull : ∀ i, (entry (table i)).isSome) :
    f.entries.length = n :=
  h.length_eq.symm.trans (length_contents_of_full hfull)

/-- A table is stale once a value it has was removed from the map. -/
theorem Holds.not_remove (h : Holds entry table f) (hv : v ∈ f.values) :
    ¬Holds entry table (f.remove v) := by
  intro hremove
  obtain ⟨e, he, rfl⟩ := List.mem_map.mp hv
  have hmem := hremove.subset (h.symm.subset he)
  exact f.notMem_values_remove (List.mem_map_of_mem hmem)

end Holds

end Slots
