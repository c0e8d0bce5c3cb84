import VirtualAX25.Run

/-!
# Functional simulations

A machine simulates another through a `view` of its states and a `label` for its inputs :
from a state that satisfies the invariant, viewing the result of a step is the same as
stepping the view, faults included (`Simulates`). Then the same holds of whole runs
(`Simulates.run`), the states of a run are seen at the boundaries of the other machine's
run (`Simulates.visits`), and what that machine keeps invariant holds of every view
(`Simulates.invariant`).

Two machines that simulate a third one look the same in all runs with the same labels
(`Simulates.run_congr`).

In a stuttering simulation (`Stutters`) some inputs have no label : they change nothing that
is seen, and are left out of the other machine's run.
-/

namespace Runs

variable {σ σ' τ ι ι' κ ε : Type*} {step : σ → ι → Except ε σ} {step' : σ' → ι' → Except ε σ'}
  {spec : τ → κ → Except ε τ} {P : σ → ι → Prop} {P' : σ' → ι' → Prop} {Q : τ → κ → Prop}
  {Inv : σ → Prop} {Inv' : σ' → Prop} {view : σ → τ} {view' : σ' → τ} {label : ι → κ}
  {label' : ι' → κ}

/-- On inputs that meet `P`, `step` is `spec` seen through `view` and `label`, and `Inv` is
kept. -/
structure Simulates (step : σ → ι → Except ε σ) (spec : τ → κ → Except ε τ) (P : σ → ι → Prop)
    (Inv : σ → Prop) (view : σ → τ) (label : ι → κ) : Prop where
  kept : ∀ s i s', Inv s → P s i → step s i = .ok s' → Inv s'
  commutes : ∀ s i, Inv s → P s i → (step s i).map view = spec (view s) (label i)

namespace Simulates

theorem step_ok (h : Simulates step spec P Inv view label) {s s' : σ} {i : ι} (hs : Inv s)
    (hP : P s i) (hstep : step s i = .ok s') : spec (view s) (label i) = .ok (view s') := by
  rw [← h.commutes s i hs hP, hstep]
  rfl

/-- Runs look the same, up to the first fault. -/
theorem run (h : Simulates step spec P Inv view label) :
    ∀ {is : List ι} {s : σ}, Along step P s is → Inv s →
      (Runs.run step s is).map view = Runs.run spec (view s) (is.map label)
  | [], _, _, _ => rfl
  | i :: is, s, ha, hs => by
    rw [List.map_cons, Runs.run, Runs.run, ← h.commutes s i hs ha.1]
    cases hstep : step s i with
    | error e => rfl
    | ok s' => exact h.run (ha.2 s' hstep) (h.kept s i s' hs ha.1 hstep)

/-- The states of a run are seen at the boundaries of the other run. -/
theorem visits (h : Simulates step spec P Inv view label) :
    ∀ {is : List ι} {s t : σ}, Along step P s is → Inv s → Visits step s is t →
      Visits spec (view s) (is.map label) (view t)
  | [], _, _, _, _, hv => congrArg view hv
  | i :: is, s, t, ha, hs, hv => by
    rcases hv with rfl | ⟨s', hstep, hv⟩
    · exact Visits.start _ _
    · have hs' := h.kept s i s' hs ha.1 hstep
      exact Or.inr ⟨view s', h.step_ok hs ha.1 hstep, h.visits (ha.2 s' hstep) hs' hv⟩

/-- A condition that can be read off the view holds along both runs or along neither. -/
theorem along_iff (h : Simulates step spec P Inv view label)
    (hPQ : ∀ s i, Inv s → (P s i ↔ Q (view s) (label i))) :
    ∀ {is : List ι} {s : σ}, Inv s →
      (Along step P s is ↔ Along spec Q (view s) (is.map label))
  | [], _, _ => Iff.rfl
  | i :: is, s, hs => by
    rw [List.map_cons, Along, Along, ← hPQ s i hs]
    refine and_congr_right fun hP => ?_
    rw [← h.commutes s i hs hP]
    cases hstep : step s i with
    | error e => simp [Except.map]
    | ok s' =>
      have ih := @along_iff h hPQ is s' (h.kept s i s' hs hP hstep)
      exact ⟨fun ha t ht => Except.ok.inj ht ▸ ih.mp (ha s' rfl),
        fun ha t ht => Except.ok.inj ht ▸ ih.mpr (ha (view s') rfl)⟩

/-- What the other machine keeps invariant on the labels that meet `C` holds of every view. -/
theorem invariant (h : Simulates step spec P Inv view label)
    (hPQ : ∀ s i, Inv s → (P s i ↔ Q (view s) (label i))) {J : τ → Prop} {C : κ → Prop}
    (hstep : ∀ t k t', J t → Q t k → C k → spec t k = .ok t' → J t') {is : List ι} {s t : σ}
    (hv : Visits step s is t) (ha : Along step P s is) (hC : ∀ i ∈ is, C (label i)) (hs : Inv s)
    (hJ : J (view s)) : J (view t) := by
  have hlabels : ∀ k ∈ is.map label, C k := List.forall_mem_map.mpr hC
  exact (h.visits ha hs hv).invariant (fun t k t' ht hk => hstep t k t' ht hk.1 hk.2)
    (((h.along_iff hPQ hs).mp ha).and (along_of_forall (view s) hlabels)) hJ

/-- Two machines that simulate the same one look the same in runs with the same labels. -/
theorem run_congr (h : Simulates step spec P Inv view label)
    (h' : Simulates step' spec P' Inv' view' label') {is : List ι} {is' : List ι'} {s : σ}
    {s' : σ'} (ha : Along step P s is) (ha' : Along step' P' s' is') (hs : Inv s) (hs' : Inv' s')
    (hview : view s = view' s') (hlabel : is.map label = is'.map label') :
    (Runs.run step s is).map view = (Runs.run step' s' is').map view' := by
  rw [h.run ha hs, h'.run ha' hs', hview, hlabel]

end Simulates

/-! ## Stuttering -/

/-- On inputs that meet `P`, `step` is `spec` seen through `view` if the input has a label, and
changes nothing that is seen if it has none. -/
structure Stutters (step : σ → ι → Except ε σ) (spec : τ → κ → Except ε τ) (P : σ → ι → Prop)
    (view : σ → τ) (label : ι → Option κ) : Prop where
  commutes : ∀ s i k, P s i → label i = some k → (step s i).map view = spec (view s) k
  silent : ∀ s i, P s i → label i = none → (step s i).map view = .ok (view s)

theorem map_eq_ok {α β : Type*} {x : Except ε α} {f : α → β} {b : β} :
    x.map f = .ok b ↔ ∃ a, x = .ok a ∧ f a = b := by
  cases x <;> simp [Except.map]

namespace Stutters

variable {label : ι → Option κ}

/-- Runs look the same without the inputs that have no label. -/
theorem run (h : Stutters step spec P view label) :
    ∀ {is : List ι} {s : σ}, Along step P s is →
      (Runs.run step s is).map view = Runs.run spec (view s) (is.filterMap label)
  | [], _, _ => rfl
  | i :: is, s, ha => by
    cases hi : label i with
    | none =>
      obtain ⟨s', hstep, hview⟩ := map_eq_ok.mp (h.silent s i ha.1 hi)
      rw [List.filterMap_cons_none hi, run_cons_of_ok hstep, ← hview]
      exact h.run (ha.2 s' hstep)
    | some k =>
      rw [List.filterMap_cons_some hi, Runs.run, Runs.run, ← h.commutes s i k ha.1 hi]
      cases hstep : step s i with
      | error e => rfl
      | ok s' => exact h.run (ha.2 s' hstep)

/-- A condition on the inputs that have a label holds along the other run, if it does along
this one. -/
theorem along (h : Stutters step spec P view label)
    (hPQ : ∀ s i k, P s i → label i = some k → Q (view s) k) :
    ∀ {is : List ι} {s : σ}, Along step P s is → Along spec Q (view s) (is.filterMap label)
  | [], _, _ => trivial
  | i :: is, s, ha => by
    cases hi : label i with
    | none =>
      obtain ⟨s', hstep, hview⟩ := map_eq_ok.mp (h.silent s i ha.1 hi)
      rw [List.filterMap_cons_none hi, ← hview]
      exact h.along hPQ (ha.2 s' hstep)
    | some k =>
      rw [List.filterMap_cons_some hi]
      refine ⟨hPQ s i k ha.1 hi, fun t ht => ?_⟩
      rw [← h.commutes s i k ha.1 hi] at ht
      obtain ⟨s', hstep, rfl⟩ := map_eq_ok.mp ht
      exact h.along hPQ (ha.2 s' hstep)

end Stutters

end Runs
