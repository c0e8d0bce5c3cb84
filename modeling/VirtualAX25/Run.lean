import Mathlib.Logic.Relation
import Mathlib.Data.List.Basic

/-!
# Runs of a fallible step function

A system is a step function `σ → ι → Except ε σ` : an input takes a state to the next
one, or faults. `run` takes a list of inputs and stops at the first fault. `Along step P`
says that a condition on the inputs holds at every step the run takes, of the state
before it. `Visits step s is t` says that `t` stands at a boundary of the run, before the
first step, between two steps or after the last.

The induction over a run is done here, once : `Visits.invariant` for a property of
states, `Visits.invariant_of_moves` for one that smaller moves preserve, `observed_of_run`
for what the inputs add to what is observed, `run_completes_iff` for the runs that do not
fault, and `forall_mem_of_visits` for what the boundaries say about the inputs.
`visits_iff_prefix` identifies the states visited with the ends of the prefixes.

`Follows rel s as t` is the same for a relation : `rel` allows the labels `as` one after
another, from `s` to `t`.
-/

namespace Runs

variable {σ τ ι ε : Type*}

/-! ## Sequencing -/

theorem bind_eq_ok {α β : Type*} {x : Except ε α} {f : α → Except ε β} {b : β} :
    x.bind f = .ok b ↔ ∃ a, x = .ok a ∧ f a = .ok b := by
  cases x <;> simp [Except.bind]

/-- The state after the inputs `is` from `s`, or the first fault. -/
def run (step : σ → ι → Except ε σ) : σ → List ι → Except ε σ
  | s, [] => .ok s
  | s, i :: is => (step s i).bind fun s' => run step s' is

/-- `P` holds at every step the run takes, of the state before it and the input. -/
def Along (step : σ → ι → Except ε σ) (P : σ → ι → Prop) : σ → List ι → Prop
  | _, [] => True
  | s, i :: is => P s i ∧ ∀ s', step s i = .ok s' → Along step P s' is

/-- `t` stands at a boundary of the run of `is` from `s`. -/
def Visits (step : σ → ι → Except ε σ) : σ → List ι → σ → Prop
  | s, [], t => t = s
  | s, i :: is, t => t = s ∨ ∃ s', step s i = .ok s' ∧ Visits step s' is t

variable {step : σ → ι → Except ε σ} {P Q : σ → ι → Prop}

theorem run_cons_ok {s t : σ} {i : ι} {is : List ι} :
    run step s (i :: is) = .ok t ↔ ∃ s', step s i = .ok s' ∧ run step s' is = .ok t :=
  bind_eq_ok

theorem run_cons_of_ok {s s' : σ} {i : ι} (h : step s i = .ok s') (is : List ι) :
    run step s (i :: is) = run step s' is := by
  rw [run, h]
  rfl

theorem run_append : ∀ (is js : List ι) (s : σ),
    run step s (is ++ js) = (run step s is).bind fun t => run step t js
  | [], _, _ => rfl
  | i :: is, js, s => by
    rw [List.cons_append, run, run]
    cases step s i with
    | error e => rfl
    | ok s' => exact run_append is js s'

/-! ## Conditions along a run -/

theorem along_cons_of_ok {s s' : σ} {i : ι} (h : step s i = .ok s') (is : List ι) :
    Along step P s (i :: is) ↔ P s i ∧ Along step P s' is := by
  refine and_congr_right fun _ => ⟨fun ha => ha s' h, fun ha t ht => ?_⟩
  obtain rfl := Except.ok.inj (h.symm.trans ht)
  exact ha

theorem along_append : ∀ {is js : List ι} {s : σ}, Along step P s (is ++ js) ↔
    Along step P s is ∧ ∀ t, run step s is = .ok t → Along step P t js
  | [], js, s => by
    simp [Along, run]
  | i :: is, js, s => by
    rw [List.cons_append, Along, Along, and_assoc]
    refine and_congr_right fun _ => ?_
    cases hs : step s i with
    | error e => simp [run, hs, Except.bind]
    | ok s' => simp [run_cons_of_ok hs, along_append]

theorem Along.mono (h : ∀ s i, P s i → Q s i) :
    ∀ {is : List ι} {s : σ}, Along step P s is → Along step Q s is
  | [], _, _ => trivial
  | _ :: _, _, ha => ⟨h _ _ ha.1, fun s' hs => (ha.2 s' hs).mono h⟩

theorem Along.and : ∀ {is : List ι} {s : σ}, Along step P s is → Along step Q s is →
    Along step (fun s i => P s i ∧ Q s i) s is
  | [], _, _, _ => trivial
  | _ :: _, _, hp, hq => ⟨⟨hp.1, hq.1⟩, fun s' hs => (hp.2 s' hs).and (hq.2 s' hs)⟩

/-- A condition on the inputs alone holds along every run of inputs that meet it. -/
theorem along_of_forall {p : ι → Prop} :
    ∀ {is : List ι} (s : σ), (∀ i ∈ is, p i) → Along step (fun _ i => p i) s is
  | [], _, _ => trivial
  | _ :: _, _, h =>
    ⟨h _ (by simp), fun s' _ => along_of_forall s' fun i hi => h i (List.mem_cons_of_mem _ hi)⟩

instance decidableAlong [∀ s i, Decidable (P s i)] :
    ∀ (s : σ) (is : List ι), Decidable (Along step P s is)
  | _, [] => isTrue trivial
  | s, i :: is =>
    match h : step s i with
    | .ok s' =>
      have := decidableAlong s' is
      decidable_of_iff _ (along_cons_of_ok h is).symm
    | .error e =>
      decidable_of_iff (P s i) (iff_self_and.mpr fun _ s' hs => by rw [h] at hs; cases hs)

/-! ## Boundaries -/

theorem Visits.start : ∀ (is : List ι) (s : σ), Visits step s is s
  | [], _ => rfl
  | _ :: _, _ => Or.inl rfl

theorem visits_iff_prefix {t : σ} : ∀ {is : List ι} {s : σ},
    Visits step s is t ↔ ∃ pre post, is = pre ++ post ∧ run step s pre = .ok t
  | [], s => by
    constructor
    · rintro rfl
      exact ⟨[], [], rfl, rfl⟩
    · rintro ⟨pre, post, h, hr⟩
      obtain ⟨rfl, rfl⟩ := List.nil_eq_append_iff.mp h
      exact (Except.ok.inj hr).symm
  | i :: is, s => by
    constructor
    · rintro (rfl | ⟨s', hs, hv⟩)
      · exact ⟨[], i :: is, rfl, rfl⟩
      · obtain ⟨pre, post, rfl, hr⟩ := visits_iff_prefix.mp hv
        exact ⟨i :: pre, post, rfl, run_cons_ok.mpr ⟨s', hs, hr⟩⟩
    · rintro ⟨pre, post, h, hr⟩
      cases pre with
      | nil => exact Or.inl (Except.ok.inj hr).symm
      | cons j pre =>
        obtain ⟨rfl, rfl⟩ := List.cons.inj h
        obtain ⟨s', hs, hr⟩ := run_cons_ok.mp hr
        exact Or.inr ⟨s', hs, visits_iff_prefix.mpr ⟨pre, post, rfl, hr⟩⟩

/-- The end of a run is one of its boundaries. -/
theorem Visits.end {is : List ι} {s t : σ} (h : run step s is = .ok t) : Visits step s is t :=
  visits_iff_prefix.mpr ⟨is, [], by simp, h⟩

/-- An invariant holds at every boundary : it holds at the start, and the steps taken
preserve it. -/
theorem Visits.invariant {Inv : σ → Prop}
    (hstep : ∀ s i s', Inv s → P s i → step s i = .ok s' → Inv s') :
    ∀ {is : List ι} {s t : σ}, Visits step s is t → Along step P s is → Inv s → Inv t
  | [], _, _, hv, _, hi => by
    obtain rfl := hv
    exact hi
  | _ :: _, _, _, hv, ha, hi => by
    rcases hv with rfl | ⟨s', hs, hv⟩
    · exact hi
    · exact hv.invariant hstep (ha.2 s' hs) (hstep _ _ s' hi ha.1 hs)

/-- What every move preserves, any number of moves preserves. -/
theorem invariant_of_reflTransGen {Inv : σ → Prop} {Move : σ → σ → Prop}
    (hmove : ∀ s s', Inv s → Move s s' → Inv s') {s t : σ} (h : Relation.ReflTransGen Move s t)
    (hs : Inv s) : Inv t := by
  induction h with
  | refl => exact hs
  | tail _ hm ih => exact hmove _ _ ih hm

/-- An invariant of the small moves a step is made of holds at every boundary. -/
theorem Visits.invariant_of_moves {Inv : σ → Prop} {Move : σ → σ → Prop}
    (hmoves : ∀ s i s', P s i → step s i = .ok s' → Relation.ReflTransGen Move s s')
    (hmove : ∀ s s', Inv s → Move s s' → Inv s') {is : List ι} {s t : σ}
    (hv : Visits step s is t) (ha : Along step P s is) (hi : Inv s) : Inv t := by
  refine hv.invariant (fun s i s' hs hP h => ?_) ha hi
  exact invariant_of_reflTransGen hmove (hmoves s i s' hP h) hs

/-- If every boundary of a run is good, then every input meets what two good boundaries
around it demand. -/
theorem forall_mem_of_visits {Inv Good : σ → Prop} {p : ι → Prop}
    (hstep : ∀ s i, Inv s → P s i → Good s → (∀ s', step s i = .ok s' → Good s') →
      p i ∧ ∃ s', step s i = .ok s' ∧ Inv s') :
    ∀ {is : List ι} {s : σ}, Along step P s is → Inv s → (∀ t, Visits step s is t → Good t) →
      ∀ i ∈ is, p i
  | [], _, _, _, _ => by simp
  | i :: is, s, ha, hi, hgood => by
    have hafter : ∀ s', step s i = .ok s' → Good s' := fun s' hs =>
      hgood s' (Or.inr ⟨s', hs, Visits.start is s'⟩)
    obtain ⟨hp, s', hs, hi'⟩ := hstep s i hi ha.1 (hgood s (Visits.start _ s)) hafter
    refine List.forall_mem_cons.mpr ⟨hp, forall_mem_of_visits hstep (ha.2 s' hs) hi' fun t ht => ?_⟩
    exact hgood t (Or.inr ⟨s', hs, ht⟩)

/-- If each step adds what its input says to what is observed, a run adds what its inputs say. -/
theorem observed_of_run {α : Type*} {observe : σ → List α} {adds : ι → List α}
    (hstep : ∀ s i s', P s i → step s i = .ok s' → observe s' = observe s ++ adds i) :
    ∀ {is : List ι} {s t : σ}, Along step P s is → run step s is = .ok t →
      observe t = observe s ++ is.flatMap adds
  | [], s, t, _, h => by
    obtain rfl := Except.ok.inj h
    simp
  | i :: is, s, t, ha, h => by
    obtain ⟨s', hs, h⟩ := run_cons_ok.mp h
    rw [observed_of_run hstep (ha.2 s' hs) h, hstep s i s' ha.1 hs, List.flatMap_cons,
      List.append_assoc]

/-- If a step from the invariant completes exactly when it is safe, a run completes exactly
when all its steps are. -/
theorem run_completes_iff {Inv : σ → Prop} {Safe : σ → ι → Prop}
    (hsafe : ∀ s i, Inv s → P s i → Safe s i → ∃ s', step s i = .ok s' ∧ Inv s')
    (hfault : ∀ s i, Inv s → P s i → ¬Safe s i → ∃ e, step s i = .error e) :
    ∀ {is : List ι} {s : σ}, Along step P s is → Inv s →
      ((∃ t, run step s is = .ok t) ↔ Along step Safe s is)
  | [], s, _, _ => iff_of_true ⟨s, rfl⟩ trivial
  | i :: is, s, ha, hi => by
    by_cases hs : Safe s i
    · obtain ⟨s', h, hi'⟩ := hsafe s i hi ha.1 hs
      rw [run_cons_of_ok h, along_cons_of_ok h, run_completes_iff hsafe hfault (ha.2 s' h) hi']
      exact (and_iff_right hs).symm
    · obtain ⟨e, h⟩ := hfault s i hi ha.1 hs
      refine iff_of_false ?_ fun hsafe => hs hsafe.1
      rw [run, h]
      exact fun ⟨t, ht⟩ => nomatch ht

/-- A run that faults comes to a step that does. -/
theorem exists_of_run_eq_error {e : ε} : ∀ {is : List ι} {s : σ}, Along step P s is →
    run step s is = .error e → ∃ pre i post t, is = pre ++ i :: post ∧ Along step P s pre ∧
      run step s pre = .ok t ∧ P t i ∧ step t i = .error e
  | [], _, _, h => nomatch h
  | i :: is, s, ha, h => by
    cases hs : step s i with
    | error e' =>
      rw [run, hs] at h
      exact ⟨[], i, is, s, rfl, trivial, rfl, ha.1, by rw [← Except.error.inj h]; exact hs⟩
    | ok s' =>
      rw [run_cons_of_ok hs] at h
      obtain ⟨pre, j, post, t, rfl, hpre, hrun, hP, hstep⟩ :=
        exists_of_run_eq_error (ha.2 s' hs) h
      exact ⟨i :: pre, j, post, t, rfl, (along_cons_of_ok hs pre).mpr ⟨ha.1, hpre⟩,
        run_cons_ok.mpr ⟨s', hs, hrun⟩, hP, hstep⟩

/-! ## Labelled relations -/

/-- `rel` allows the labels `as` one after another, from `s` to `t`. -/
def Follows (rel : σ → ι → σ → Prop) : σ → List ι → σ → Prop
  | s, [], t => t = s
  | s, a :: as, t => ∃ s', rel s a s' ∧ Follows rel s' as t

section Follows

variable {rel : σ → ι → σ → Prop} {s t u : σ} {a : ι} {as bs : List ι}

theorem follows_nil : Follows rel s [] s :=
  rfl

theorem Follows.cons (h : rel s a t) (hs : Follows rel t as u) : Follows rel s (a :: as) u :=
  ⟨t, h, hs⟩

theorem follows_singleton (h : rel s a t) : Follows rel s [a] t :=
  ⟨t, h, rfl⟩

theorem Follows.append : ∀ {as : List ι} {s : σ}, Follows rel s as t → Follows rel t bs u →
    Follows rel s (as ++ bs) u
  | [], _, h, hu => by
    obtain rfl := h
    exact hu
  | _ :: _, _, ⟨s', hs, h⟩, hu => ⟨s', hs, h.append hu⟩

/-- Labels that change nothing can come in any number. -/
theorem follows_idle (h : ∀ a ∈ as, rel s a s) : Follows rel s as s := by
  induction as with
  | nil => rfl
  | cons a as ih =>
    exact ⟨s, h a List.mem_cons_self, ih fun a' ha' => h a' (List.mem_cons_of_mem _ ha')⟩

end Follows

end Runs
