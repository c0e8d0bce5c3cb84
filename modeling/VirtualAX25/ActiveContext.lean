import VirtualAX25.Table

/-!
# The active context

Constructors write `activeContext`, destructors clear it if it is their own object, and
the unload callback deletes what it points to. Objects may overlap and addresses may be
used again. Still, `activeContext` is at every boundary the most recently constructed
`Miniport` if that is live, and null otherwise (`Tracked`, an invariant of the moves). So
it never dangles, and an unload after an unload finds nothing to delete until a `Miniport`
is constructed (`activeContext_tracks`).

Constructions are read off the log, which has those of the entries and no others
(`constructions_of_run`, with the history of a miniport).
-/

namespace VirtualAX25

/-- The address, if the event is the construction of a `Miniport`. -/
def Event.constructedAt : Event → Option Pointer
  | .constructed this => some this
  | _ => none

/-- Where the last construction took place. -/
def lastConstructed (log : List Event) : Option Pointer :=
  log.findSome? Event.constructedAt

/-- The most recently constructed `Miniport` if it is still live, and null otherwise. -/
def Driver.expectedContext (d : Driver) : Pointer :=
  match lastConstructed d.log with
  | some this => if d.miniports.Live this then this else nullptr
  | none => nullptr

/-- `activeContext` is as expected. -/
def Tracked (d : Driver) : Prop :=
  d.activeContext = d.expectedContext

variable {hdr : NdisHeaders} {d d' d₀ : Driver} {this object : Pointer}

/-! ## The invariant -/

theorem lastConstructed_cons_of_none {e : Event} (log : List Event)
    (he : e.constructedAt = none) : lastConstructed (e :: log) = lastConstructed log := by
  simp [lastConstructed, he]

theorem Event.Quiet.constructedAt {e : Event} (he : e.Quiet) : e.constructedAt = none := by
  cases e with
  | constructed this => exact absurd he id
  | _ => rfl

/-- What is expected depends on the last construction and the live objects. -/
theorem expectedContext_congr (d d' : Driver)
    (hlog : lastConstructed d'.log = lastConstructed d.log)
    (hlive : ∀ p, d'.miniports.Live p ↔ d.miniports.Live p) :
    d'.expectedContext = d.expectedContext := by
  unfold Driver.expectedContext
  rw [hlog]
  cases lastConstructed d.log with
  | none => rfl
  | some p => simp only [hlive]

theorem expectedContext_construct (h0 : this ≠ nullptr) :
    (Miniport.construct d this).expectedContext = this := by
  have hlast : lastConstructed (Miniport.construct d this).log = some this := rfl
  have hlive : (Miniport.construct d this).miniports.Live this :=
    (Heap.live_store h0).mpr (Or.inl rfl)
  rw [Driver.expectedContext, hlast]
  exact if_pos hlive

/-- The expectation is dropped with its object. -/
theorem expectedContext_dying (hd : Tracked d) :
    (Miniport.dying d this).activeContext = (Miniport.dying d this).expectedContext := by
  have hd' : d.activeContext = d.expectedContext := hd
  have hlast : lastConstructed (Miniport.dying d this).log = lastConstructed d.log := rfl
  unfold Driver.expectedContext at hd' ⊢
  rw [hlast]
  simp only [Miniport.dying]
  cases hl : lastConstructed d.log with
  | none =>
    rw [hl] at hd'
    simp [hd']
  | some p =>
    rw [hl] at hd'
    simp only [Heap.live_erase] at hd' ⊢
    by_cases hp : d.miniports.Live p
    · rw [if_pos hp] at hd'
      by_cases hthis : p = this
      · simp [hd', hthis]
      · simp [hd', hthis, hp, Ne.symm hthis]
    · rw [if_neg hp] at hd'
      simp [hd', hp]

theorem Tracked.move (hd : Tracked d) (h : Move hdr d d') : Tracked d' := by
  cases h with
  | quiet e he =>
    have hlast := lastConstructed_cons_of_none d.log he.constructedAt
    exact hd.trans (expectedContext_congr d (d.record e) hlast fun _ => Iff.rfl).symm
  | build handle block hh hb hf =>
    exact hd.trans (expectedContext_congr d _ rfl fun _ => Iff.rfl).symm
  | free p a ha hh => exact hd.trans (expectedContext_congr d _ rfl fun _ => Iff.rfl).symm
  | setState p a s op status ha he =>
    exact hd.trans (expectedContext_congr d _ rfl fun _ => Iff.rfl).symm
  | construct this h0 hf => exact (expectedContext_construct h0).symm
  | update this m m' hm =>
    have hlive : ∀ p, (d.storeMiniport this m').miniports.Live p ↔ d.miniports.Live p :=
      fun p => Heap.live_store_of_live (Heap.live_of_lookup hm)
    exact hd.trans (expectedContext_congr d (d.storeMiniport this m') rfl hlive).symm
  | dying this m hm => exact expectedContext_dying hd

/-- What is expected is null or live. -/
theorem expectedContext_valid (d : Driver) :
    d.expectedContext = nullptr ∨ d.miniports.Live d.expectedContext := by
  unfold Driver.expectedContext
  cases lastConstructed d.log with
  | none => exact Or.inl rfl
  | some p =>
    by_cases hp : d.miniports.Live p
    · simp only [if_pos hp]
      exact Or.inr hp
    · exact Or.inl (if_neg hp)

theorem tracked_of_visits {ops : List Op}
    (hv : Runs.Along (step hdr) (fun d op => op.Valid d) .initial ops)
    (hd : Runs.Visits (step hdr) .initial ops d) : Tracked d :=
  invariant_of_moves (fun _ _ => Tracked.move) hd hv rfl

/-- The active context never dangles. -/
theorem context_valid_of_visits {ops : List Op}
    (hv : Runs.Along (step hdr) (fun d op => op.Valid d) .initial ops)
    (hd : Runs.Visits (step hdr) .initial ops d) :
    d.activeContext = nullptr ∨ d.miniports.Live d.activeContext := by
  rw [tracked_of_visits hv hd]
  exact expectedContext_valid d

/-! ## Unloading -/

theorem unload_of_null (hc : d.activeContext = nullptr) (object : Pointer) :
    Miniport.miniportDriverUnloadCallback d object = .ok d := by
  rw [Miniport.miniportDriverUnloadCallback, Miniport.delete, if_pos hc]

/-- An unload completes if the table of the active `Miniport` is valid. -/
theorem unload_completes (hrec : Recorded d)
    (hcontext : d.activeContext = nullptr ∨ d.miniports.Live d.activeContext)
    (htable : ∀ m, d.miniports.lookup d.activeContext = some m → m.Valid d) (object : Pointer) :
    ∃ d', Miniport.miniportDriverUnloadCallback d object = .ok d' := by
  by_cases hc : d.activeContext = nullptr
  · exact ⟨d, unload_of_null hc object⟩
  · obtain ⟨m, hm⟩ := d.miniports.live_iff.mp (hcontext.resolve_left hc)
    exact (Miniport.delete_completes_iff hrec hm).mpr (htable m hm)

/-- An unload leaves no active context. -/
theorem activeContext_of_unload (hrec : Recorded d)
    (hcontext : d.activeContext = nullptr ∨ d.miniports.Live d.activeContext)
    (h : Miniport.miniportDriverUnloadCallback d object = .ok d') :
    d'.activeContext = nullptr := by
  by_cases hc : d.activeContext = nullptr
  · rw [unload_of_null hc] at h
    rw [← Except.ok.inj h]
    exact hc
  · obtain ⟨m, hm⟩ := d.miniports.live_iff.mp (hcontext.resolve_left hc)
    obtain ⟨-, hcleared, -⟩ := Miniport.delete_leaves hrec hm h
    rw [hcleared, if_pos rfl]

/-- Since `d₀` the context stayed null unless a `Miniport` was constructed. -/
def NullSince (d₀ d : Driver) : Prop :=
  ∃ fresh, d.log = fresh ++ d₀.log ∧
    ((∀ this, Event.constructed this ∉ fresh) → d.activeContext = nullptr)

/-- Events are added to the log, and the context stays as it is. -/
theorem NullSince.log (h : NullSince d₀ d) (es : List Event) (hlog : d'.log = es ++ d.log)
    (hcontext : (∀ this, Event.constructed this ∉ es) → d.activeContext = nullptr →
      d'.activeContext = nullptr) : NullSince d₀ d' := by
  obtain ⟨fresh, hfresh, hnull⟩ := h
  refine ⟨es ++ fresh, by rw [hlog, hfresh, List.append_assoc], fun hnone => ?_⟩
  have hes : ∀ this, Event.constructed this ∉ es := fun this hmem =>
    hnone this (List.mem_append_left _ hmem)
  exact hcontext hes (hnull fun this hmem => hnone this (List.mem_append_right _ hmem))

theorem NullSince.move (h : NullSince d₀ d) (hm : Move hdr d d') : NullSince d₀ d' := by
  cases hm with
  | quiet e he => exact h.log [e] rfl fun _ => id
  | build handle block hh hb hf => exact h.log [_, _] rfl fun _ => id
  | free p a ha hh => exact h.log [_] rfl fun _ => id
  | setState p a s op status ha he => exact h.log [_] rfl fun _ => id
  | construct this h0 hf =>
    exact h.log [.constructed this] rfl fun hnone =>
      absurd List.mem_cons_self (hnone this)
  | update this m m' hm => exact h.log [] rfl fun _ => id
  | dying this m hm =>
    refine h.log [.destroyed this] rfl fun _ hnull => ?_
    simp only [Miniport.dying, hnull, ite_self]

/-- Once the context is null, an unload does nothing until a `Miniport` is constructed. -/
theorem step_unload_of_null {ops : List Op} {fresh : List Event}
    (hnull : d₀.activeContext = nullptr)
    (hv : Runs.Along (step hdr) (fun d op => op.Valid d) d₀ ops)
    (hd : Runs.Visits (step hdr) d₀ ops d) (hlog : d.log = fresh ++ d₀.log)
    (hfresh : ∀ this, Event.constructed this ∉ fresh) :
    step hdr d (.callback (.driverUnload object)) =
      .ok (d.record (.returned (.callback (.driverUnload object)) none)) := by
  have hsince : NullSince d₀ d :=
    invariant_of_moves (fun _ _ => NullSince.move) hd hv ⟨[], rfl, fun _ => hnull⟩
  obtain ⟨fresh', hlog', hcontext⟩ := hsince
  obtain rfl := List.append_cancel_right (hlog.symm.trans hlog')
  exact step_of_call (noStatus_eq_ok.mpr ⟨rfl, unload_of_null (hcontext hfresh) object⟩)

/-- In every run `activeContext` is the most recently constructed `Miniport` if that is
live, and null otherwise. An unload finds it null or live, and completes if the table is
valid; then it and every further unload does nothing, until a `Miniport` is
constructed. -/
theorem activeContext_tracks (hdr : NdisHeaders) (ops : List Op)
    (hv : Runs.Along (step hdr) (fun d op => op.Valid d) .initial ops) {d : Driver}
    (hd : Runs.Visits (step hdr) .initial ops d) :
    d.activeContext = d.expectedContext ∧
      (d.activeContext = nullptr ∨ d.miniports.Live d.activeContext) ∧
      ((∀ m, d.miniports.lookup d.activeContext = some m → m.Valid d) →
        ∀ object, ∃ d', step hdr d (.callback (.driverUnload object)) = .ok d') ∧
      ∀ object d', step hdr d (.callback (.driverUnload object)) = .ok d' →
        ∀ ops' d'' fresh, Runs.Along (step hdr) (fun d op => op.Valid d) d' ops' →
          Runs.Visits (step hdr) d' ops' d'' → d''.log = fresh ++ d'.log →
          (∀ this, Event.constructed this ∉ fresh) →
          ∀ object', step hdr d'' (.callback (.driverUnload object')) =
            .ok (d''.record (.returned (.callback (.driverUnload object')) none)) := by
  have hcontext := context_valid_of_visits hv hd
  have hrec := recorded_of_visits hv hd
  refine ⟨tracked_of_visits hv hd, hcontext, fun htable object => ?_, ?_⟩
  · obtain ⟨d', h⟩ := unload_completes hrec hcontext htable object
    exact ⟨_, step_of_call (noStatus_eq_ok.mpr ⟨rfl, h⟩)⟩
  · intro object d' h ops' d'' fresh hv' hd' hlog hfresh object'
    obtain ⟨status, d₁, hcall, rfl⟩ := step_eq_ok.mp h
    have hunload : Miniport.miniportDriverUnloadCallback d object = .ok d₁ :=
      (noStatus_eq_ok.mp hcall).2
    have hnull : (d₁.record (.returned (.callback (.driverUnload object)) status)).activeContext =
        nullptr := by
      rw [Driver.record_activeContext]
      exact activeContext_of_unload hrec hcontext hunload
    exact step_unload_of_null hnull hv' hd' hlog hfresh

/-- Two overlapping objects, the older destroyed last. -/
def overlapping : List Op :=
  [.constructMiniport 0x1000, .constructMiniport 0x5000, .destroyMiniport 0x5000]

theorem tracks_overlapping :
    ∃ d, Runs.run (step ndis620) .initial overlapping = .ok d ∧ d.miniports.Live 0x1000 ∧
      d.activeContext = nullptr ∧ d.expectedContext = nullptr := by
  have hrun : Runs.run (step ndis620) .initial overlapping = .ok _ := rfl
  have htracks := activeContext_tracks ndis620 overlapping (by decide) (.end hrun)
  exact ⟨_, hrun, by decide, rfl, htracks.1.symm⟩

end VirtualAX25
