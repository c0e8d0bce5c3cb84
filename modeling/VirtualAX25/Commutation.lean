import Mathlib.Data.Set.Basic
import VirtualAX25.Simulation

/-!
# Independent inputs

An action on states has a footprint (`Footprint`) : it changes the places `writes` only, and
what it does is decided by what stands in these and in the places `reads`. If neither of two
actions writes where the other reads or writes, they commute (`Footprint.comm`).

Then two runs do the same if one comes from the other by swaps of neighbours that commute
(`Commutes.run_of_swaps`) : the swapped run is as admissible as the other one, completes with
it, and ends in an equivalent state.
-/

namespace Runs

variable {σ ι ε : Type*}

/-! ## Footprints -/

section Footprint

variable {ρ V ω : Type*} {get : σ → ρ → V}

/-- The states agree on the places in `S`. -/
def AgreeOn (get : σ → ρ → V) (S : Set ρ) (s t : σ) : Prop :=
  ∀ r ∈ S, get s r = get t r

/-- An output, and what stands in the places in `S`. -/
def seenOn (get : σ → ρ → V) (S : Set ρ) (x : ω × σ) : ω × (S → V) :=
  (x.1, fun r => get x.2 r)

/-- The action changes nothing outside of `writes`, and what it does is decided by what stands
in `reads` and `writes`. -/
structure Footprint (get : σ → ρ → V) (act : σ → Except ε (ω × σ)) (reads writes : Set ρ) :
    Prop where
  frame : ∀ s o s', act s = .ok (o, s') → ∀ r ∉ writes, get s' r = get s r
  decided : ∀ s t, AgreeOn get (reads ∪ writes) s t →
    (act s).map (seenOn get writes) = (act t).map (seenOn get writes)

namespace Footprint

variable {act act' : σ → Except ε (ω × σ)} {reads writes reads' writes' : Set ρ}
  {s t s' s₁ s₂ : σ} {o o' : ω}

/-- Where the states agree on the footprint, the action does the same. -/
theorem transfer (h : Footprint get act reads writes)
    (hst : AgreeOn get (reads ∪ writes) s t) (hact : act s = .ok (o, s')) :
    ∃ t', act t = .ok (o, t') ∧ AgreeOn get writes s' t' := by
  have hdecided := h.decided s t hst
  rw [hact] at hdecided
  obtain ⟨⟨o', t'⟩, ht, hseen⟩ := map_eq_ok.mp hdecided.symm
  obtain ⟨rfl, hplaces⟩ := Prod.mk.inj hseen
  exact ⟨t', ht, fun r hr => (congrFun hplaces ⟨r, hr⟩).symm⟩

/-- An action leaves the places alone in which it does not write. -/
theorem agreeOn (h : Footprint get act reads writes) {S : Set ρ} (hS : ∀ r ∈ writes, r ∉ S)
    (hact : act s = .ok (o, s')) : AgreeOn get S s s' := fun r hr =>
  (h.frame s o s' hact r fun hw => hS r hw hr).symm

/-- Actions commute if neither writes in the footprint of the other. -/
theorem comm (hext : ∀ s t : σ, (∀ r, get s r = get t r) → s = t)
    (h : Footprint get act reads writes) (h' : Footprint get act' reads' writes')
    (hd : ∀ r ∈ writes, r ∉ reads' ∪ writes') (hd' : ∀ r ∈ writes', r ∉ reads ∪ writes)
    (hs₁ : act s = .ok (o, s₁)) (hs₂ : act' s₁ = .ok (o', s₂)) :
    ∃ t₁, act' s = .ok (o', t₁) ∧ act t₁ = .ok (o, s₂) := by
  have hs : AgreeOn get (reads' ∪ writes') s₁ s := fun r hr => (h.agreeOn hd hs₁ r hr).symm
  obtain ⟨t₁, ht₁, hwrites'⟩ := h'.transfer hs hs₂
  obtain ⟨t₂, ht₂, hwrites⟩ := h.transfer (h'.agreeOn hd' ht₁) hs₁
  refine ⟨t₁, ht₁, ?_⟩
  rw [ht₂, hext t₂ s₂ fun r => ?_]
  by_cases hr : r ∈ writes
  · have hr' : r ∉ writes' := fun hw => hd r hr (Set.mem_union_right _ hw)
    rw [← hwrites r hr, h'.frame _ _ _ hs₂ r hr']
  · rw [h.frame _ _ _ ht₂ r hr]
    by_cases hr' : r ∈ writes'
    · exact (hwrites' r hr').symm
    · rw [h'.frame _ _ _ ht₁ r hr', h'.frame _ _ _ hs₂ r hr', h.frame _ _ _ hs₁ r hr]

end Footprint

end Footprint

/-! ## Swaps -/

/-- One list comes from the other by a swap of neighbours. -/
def Swap (I : ι → ι → Prop) (is js : List ι) : Prop :=
  ∃ pre i j post, I i j ∧ is = pre ++ i :: j :: post ∧ js = pre ++ j :: i :: post

variable {step : σ → ι → Except ε σ} {P : σ → ι → Prop} {I : ι → ι → Prop} {E : σ → σ → Prop}

/-- Equivalent states have equivalent runs. -/
theorem run_of_equiv
    (hE : ∀ s t i s', E s t → P s i → step s i = .ok s' →
      P t i ∧ ∃ t', step t i = .ok t' ∧ E s' t') :
    ∀ {is : List ι} {s t s' : σ}, E s t → Along step P s is → run step s is = .ok s' →
      Along step P t is ∧ ∃ t', run step t is = .ok t' ∧ E s' t'
  | [], s, t, s', hst, _, hrun => by
    obtain rfl := Except.ok.inj hrun
    exact ⟨trivial, t, rfl, hst⟩
  | i :: is, s, t, s', hst, ha, hrun => by
    obtain ⟨s₁, hs₁, hrun⟩ := run_cons_ok.mp hrun
    obtain ⟨hP, t₁, ht₁, hst₁⟩ := hE s t i s₁ hst ha.1 hs₁
    obtain ⟨ha', t', ht', hst'⟩ := run_of_equiv hE hst₁ (ha.2 s₁ hs₁) hrun
    exact ⟨(along_cons_of_ok ht₁ is).mpr ⟨hP, ha'⟩, t', run_cons_ok.mpr ⟨t₁, ht₁, ht'⟩, hst'⟩

/-- What it takes for a system to do the same after swaps of the inputs `I` relates : `E` is
kept by runs, and the two inputs can be taken the other way round. -/
structure Commutes (step : σ → ι → Except ε σ) (P : σ → ι → Prop) (I : ι → ι → Prop)
    (E : σ → σ → Prop) : Prop where
  refl : ∀ s, E s s
  trans : ∀ s t u, E s t → E t u → E s u
  kept : ∀ s t i s', E s t → P s i → step s i = .ok s' →
    P t i ∧ ∃ t', step t i = .ok t' ∧ E s' t'
  swap : ∀ s i j s₁ s₂, I i j → P s i → step s i = .ok s₁ → P s₁ j → step s₁ j = .ok s₂ →
    P s j ∧ ∃ t₁, step s j = .ok t₁ ∧ P t₁ i ∧ ∃ t₂, step t₁ i = .ok t₂ ∧ E s₂ t₂

namespace Commutes

variable {is js : List ι} {s t : σ}

/-- A swap at the front. -/
theorem run_front (h : Commutes step P I E) {i j : ι} {post : List ι} (hij : I i j)
    (ha : Along step P s (i :: j :: post)) (hrun : run step s (i :: j :: post) = .ok t) :
    Along step P s (j :: i :: post) ∧
      ∃ t', run step s (j :: i :: post) = .ok t' ∧ E t t' := by
  obtain ⟨s₁, hs₁, hrun⟩ := run_cons_ok.mp hrun
  obtain ⟨s₂, hs₂, hrun⟩ := run_cons_ok.mp hrun
  obtain ⟨hi, ha⟩ := (along_cons_of_ok hs₁ _).mp ha
  obtain ⟨hj, ha⟩ := (along_cons_of_ok hs₂ _).mp ha
  obtain ⟨hj', t₁, ht₁, hi', t₂, ht₂, hE⟩ := h.swap s i j s₁ s₂ hij hi hs₁ hj hs₂
  obtain ⟨ha', t', hrun', ht'⟩ := run_of_equiv h.kept hE ha hrun
  refine ⟨(along_cons_of_ok ht₁ _).mpr ⟨hj', (along_cons_of_ok ht₂ _).mpr ⟨hi', ha'⟩⟩, t', ?_, ht'⟩
  rw [run_cons_of_ok ht₁, run_cons_of_ok ht₂, hrun']

theorem run_of_swap (h : Commutes step P I E) (hswap : Swap I is js) (ha : Along step P s is)
    (hrun : run step s is = .ok t) :
    Along step P s js ∧ ∃ t', run step s js = .ok t' ∧ E t t' := by
  obtain ⟨pre, i, j, post, hij, rfl, rfl⟩ := hswap
  rw [run_append] at hrun
  obtain ⟨u, hu, hrun⟩ := bind_eq_ok.mp hrun
  obtain ⟨hpre, ha⟩ := along_append.mp ha
  obtain ⟨ha', t', hrun', ht'⟩ := h.run_front hij (ha u hu) hrun
  refine ⟨along_append.mpr ⟨hpre, fun u' hu' => ?_⟩, t', ?_, ht'⟩
  · rwa [← Except.ok.inj (hu.symm.trans hu')]
  · rw [run_append, hu]
    exact hrun'

/-- After any number of swaps a run is still admissible, and does the same. -/
theorem run_of_swaps (h : Commutes step P I E) (hswaps : Relation.ReflTransGen (Swap I) is js)
    (ha : Along step P s is) (hrun : run step s is = .ok t) :
    Along step P s js ∧ ∃ t', run step s js = .ok t' ∧ E t t' := by
  induction hswaps with
  | refl => exact ⟨ha, t, hrun, h.refl t⟩
  | tail _ hswap ih =>
    obtain ⟨ha', t', hrun', ht'⟩ := ih
    obtain ⟨ha'', t'', hrun'', ht''⟩ := h.run_of_swap hswap ha' hrun'
    exact ⟨ha'', t'', hrun'', h.trans t t' t'' ht' ht''⟩

end Commutes

end Runs
