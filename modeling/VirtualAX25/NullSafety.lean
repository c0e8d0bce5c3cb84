import VirtualAX25.ActiveContext

/-!
# Null pointers

A callback is given a null pointer, or finds one in `activeContext` or in a slot of the
table. `NullHandled` asks that it reads nothing through it, and that a call that lacks a
pointer it needs returns an error or leaves memory alone. `NullSafe` is the exact
condition on the arguments and the state before the call (`nullHandled_iff_nullSafe`, in
every state of every valid run) : five callbacks check all they read, and a halt, an
initialisation, a send, a return and an unload each have a pointer they do not check.
-/

namespace VirtualAX25

open Miniport

/-! ## The property and the condition -/

/-- The call lacks a pointer it needs. -/
def Callback.Lacks (d : Driver) : Callback → Prop
  | .initializeEx _ context parameters _ => context = nullptr ∨ parameters = none
  | .haltEx context _ => context = nullptr
  | .driverUnload _ => d.activeContext = nullptr
  | .pause context _ => context = nullptr
  | .restart context parameters => context = nullptr ∨ parameters = nullptr
  | .oidRequest context request => context = nullptr ∨ request = nullptr
  | .sendNetBufferLists context lists _ _ => context = nullptr ∨ lists = []
  | .returnNetBufferLists context lists _ => context = nullptr ∨ lists = []

/-- The drivers have the same objects in memory. -/
def SameMemory (d d' : Driver) : Prop :=
  d'.activeContext = d.activeContext ∧ d'.miniports = d.miniports ∧ d'.adapters = d.adapters

/-- The call returns an error status, or leaves memory alone. -/
def Callback.Rejected (hdr : NdisHeaders) (d : Driver) (c : Callback) : Prop :=
  ∃ status d', c.call hdr d = .ok (status, d') ∧
    ((∃ s, status = some s ∧ ntSuccess s = false) ∨ SameMemory d d')

/-- The call reads nothing through a null pointer, and it is rejected if it lacks a
pointer it needs. This is about null pointers only : an unload whose sweep faults at a
dangling pointer before it comes to a slot that holds null reads nothing through that slot,
and counts as handled. -/
def NullHandled (hdr : NdisHeaders) (d : Driver) (c : Callback) : Prop :=
  c.call hdr d ≠ .error .nullPointer ∧ (c.Lacks d → c.Rejected hdr d)

/-- The sweep of the table `m` comes to a slot in use that holds null : the slots in use
before it hold distinct live adapters, so it does not fault at one of these. -/
def SweepsNull (d : Driver) (m : Miniport) : Prop :=
  ∃ pre post, m.pointers = pre ++ nullptr :: post ∧ pre.Nodup ∧ ∀ p ∈ pre, d.adapters.Live p

/-- No pointer that the callback leaves unchecked is null, as far as it reads. -/
def NullSafe (d : Driver) : Callback → Prop
  | .initializeEx handle context parameters _ => parameters = none →
    ∀ m, d.miniports.lookup context = some m → handle = m.miniportDriverHandle → m.Full
  | .haltEx context _ => context ≠ nullptr
  | .driverUnload _ => ∀ m, d.miniports.lookup d.activeContext = some m → ¬SweepsNull d m
  | .sendNetBufferLists context _ _ _ => context = nullptr → d.activeContext ≠ nullptr
  | .returnNetBufferLists context _ _ => context = nullptr → d.activeContext ≠ nullptr
  | _ => True

/-! ## One callback after another -/

variable {hdr : NdisHeaders} {d d' : Driver} {c : Callback}

theorem nullHandled_of_ok {status : Option NdisStatus} (h : c.call hdr d = .ok (status, d'))
    (hr : c.Lacks d → (∃ s, status = some s ∧ ntSuccess s = false) ∨ SameMemory d d') :
    NullHandled hdr d c := by
  refine ⟨fun herror => ?_, fun hl => ⟨status, d', h, hr hl⟩⟩
  rw [h] at herror
  cases herror

/-- The call returns an error status. -/
theorem nullHandled_of_error {s : NdisStatus} (h : c.call hdr d = .ok (some s, d'))
    (hs : ntSuccess s = false) : NullHandled hdr d c :=
  nullHandled_of_ok h fun _ => Or.inl ⟨s, rfl, hs⟩

/-- The call leaves memory alone. -/
theorem nullHandled_of_same {status : Option NdisStatus} (h : c.call hdr d = .ok (status, d'))
    (hs : SameMemory d d') : NullHandled hdr d c :=
  nullHandled_of_ok h fun _ => Or.inr hs

/-- The call lacks nothing. -/
theorem nullHandled_of_complete {status : Option NdisStatus}
    (h : c.call hdr d = .ok (status, d')) (hl : ¬c.Lacks d) : NullHandled hdr d c :=
  nullHandled_of_ok h fun hlacks => absurd hlacks hl

theorem not_nullHandled (h : c.call hdr d = .error .nullPointer) : ¬NullHandled hdr d c :=
  fun hn => hn.1 h

theorem sameMemory_refl (d : Driver) : SameMemory d d :=
  ⟨rfl, rfl, rfl⟩

section Callbacks

variable {handle context parameters object : Pointer} {initParameters : Option InitParameters}
  {answers : InitAnswers} {lists : List Pointer} {port flags action : UInt32}

/-- Under the driver's own handle only the parameters are read unchecked, and only for a
free slot. -/
theorem nullHandled_of_registered {m : Miniport} (hm : d.miniports.lookup context = some m) :
    NullHandled hdr d (.initializeEx m.miniportDriverHandle context initParameters answers) ↔
      (initParameters = none → m.Full) := by
  have hcall : miniportInitializeExCallback hdr d m.miniportDriverHandle context initParameters
      answers = miniportInitializeEx hdr d context initParameters answers := by
    rw [miniportInitializeExCallback_of_lookup hm, if_neg (not_not.mpr rfl)]
  rcases m.full_or_firstFree with hf | ⟨i, hi⟩
  · rw [miniportInitializeEx_full hm hf] at hcall
    refine iff_of_true ?_ fun _ => hf
    exact nullHandled_of_error (withStatus_eq_ok.mpr ⟨_, rfl, hcall⟩) (by decide)
  · cases initParameters with
    | none =>
      rw [miniportInitializeEx_none hm hi] at hcall
      refine iff_of_false ?_ fun hsafe => hi.not_full (hsafe rfl)
      exact not_nullHandled (withStatus_eq_error.mpr hcall)
    | some parameters =>
      refine iff_of_true ?_ fun hnone => by cases hnone
      have hlacks : ¬(Callback.initializeEx m.miniportDriverHandle context (some parameters)
          answers).Lacks d := by
        rintro (h | h)
        · exact Heap.ne_null_of_lookup hm h
        · cases h
      by_cases hr : m.Refused answers
      · rw [miniportInitializeEx_refused hm hi hr] at hcall
        exact nullHandled_of_complete (withStatus_eq_ok.mpr ⟨_, rfl, hcall⟩) hlacks
      · rw [miniportInitializeEx_built hm hi hr] at hcall
        exact nullHandled_of_complete (withStatus_eq_ok.mpr ⟨_, rfl, hcall⟩) hlacks

theorem nullHandled_initializeEx (hc : context = nullptr ∨ d.miniports.Live context) :
    NullHandled hdr d (.initializeEx handle context initParameters answers) ↔
      NullSafe d (.initializeEx handle context initParameters answers) := by
  rcases hc with rfl | hl
  · refine iff_of_true ?_ fun _ m hm => ?_
    · exact nullHandled_of_error (withStatus_eq_ok.mpr ⟨_, rfl, rfl⟩) (by decide)
    · rw [Heap.lookup_null] at hm
      cases hm
  obtain ⟨m, hm⟩ := d.miniports.live_iff.mp hl
  have hsafe : NullSafe d (.initializeEx handle context initParameters answers) ↔
      (initParameters = none → handle = m.miniportDriverHandle → m.Full) := by
    refine forall_congr' fun _ => ⟨fun h => h m hm, fun h m' hm' => ?_⟩
    obtain rfl := Option.some.inj (hm.symm.trans hm')
    exact h
  rw [hsafe]
  by_cases hh : handle = m.miniportDriverHandle
  · rw [hh, nullHandled_of_registered hm]
    exact forall_congr' fun _ => ⟨fun h _ => h, fun h => h rfl⟩
  · have hcall : miniportInitializeExCallback hdr d handle context initParameters answers =
        .ok (statusInvalidParameter1, d) := by
      rw [miniportInitializeExCallback_of_lookup hm, if_pos hh]
    refine iff_of_true ?_ fun _ h => absurd h hh
    exact nullHandled_of_error (withStatus_eq_ok.mpr ⟨_, rfl, hcall⟩) (by decide)

theorem nullHandled_haltEx (hrec : Recorded d) (hc : context = nullptr ∨ d.adapters.Live context) :
    NullHandled hdr d (.haltEx context action) ↔ NullSafe d (.haltEx context action) := by
  by_cases h0 : context = nullptr
  · subst h0
    refine iff_of_false (not_nullHandled (noStatus_eq_error.mpr ?_)) fun hsafe => hsafe rfl
    exact AX25Adapter.destroy_eq_error_iff.mpr (Heap.deref_null _)
  · obtain ⟨a, ha⟩ := d.adapters.live_iff.mp (hc.resolve_left h0)
    have hdestroy := AX25Adapter.destroy_of_lookup ha (hrec _ _ ha).handle
    exact iff_of_true (nullHandled_of_complete (noStatus_eq_ok.mpr ⟨rfl, hdestroy⟩) h0) h0

theorem nullHandled_driverUnload (hrec : Recorded d)
    (hcontext : d.activeContext = nullptr ∨ d.miniports.Live d.activeContext) :
    NullHandled hdr d (.driverUnload object) ↔ NullSafe d (.driverUnload object) := by
  by_cases h0 : d.activeContext = nullptr
  · refine iff_of_true ?_ fun m hm => ?_
    · exact nullHandled_of_same (noStatus_eq_ok.mpr ⟨rfl, unload_of_null h0 object⟩)
        (sameMemory_refl d)
    · rw [h0, Heap.lookup_null] at hm
      cases hm
  · obtain ⟨m, hm⟩ := d.miniports.live_iff.mp (hcontext.resolve_left h0)
    have hfault : (Callback.driverUnload object).call hdr d = .error .nullPointer ↔
        SweepsNull d m := by
      rw [SweepsNull, ← Heap.eraseAll_eq_null_iff, ← delete_eq_error_iff hrec hm]
      exact noStatus_eq_error
    constructor
    · intro hn m' hm'
      obtain rfl := Option.some.inj (hm.symm.trans hm')
      exact fun hsweep => hn.1 (hfault.mpr hsweep)
    · exact fun hsafe => ⟨fun herror => hsafe m hm (hfault.mp herror), fun hl => absurd hl h0⟩

theorem nullHandled_pause (hc : context = nullptr ∨ d.adapters.Live context) :
    NullHandled hdr d (.pause context parameters) := by
  by_cases h0 : context = nullptr
  · have hcall : miniportPauseCallback d context parameters = .ok (statusInvalidParameter, d) :=
      if_pos h0
    exact nullHandled_of_error (withStatus_eq_ok.mpr ⟨_, rfl, hcall⟩) (by decide)
  · obtain ⟨a, ha⟩ := d.adapters.live_iff.mp (hc.resolve_left h0)
    exact nullHandled_of_complete
      (withStatus_eq_ok.mpr ⟨_, rfl, miniportPauseCallback_of_lookup ha⟩) h0

theorem nullHandled_restart (hc : context = nullptr ∨ d.adapters.Live context) :
    NullHandled hdr d (.restart context parameters) := by
  by_cases h0 : context = nullptr
  · have hcall : miniportRestartCallback d context parameters =
        .ok (statusInvalidParameter1, d) := if_pos h0
    exact nullHandled_of_error (withStatus_eq_ok.mpr ⟨_, rfl, hcall⟩) (by decide)
  · by_cases hp : parameters = nullptr
    · subst hp
      exact nullHandled_of_error
        (withStatus_eq_ok.mpr ⟨_, rfl, miniportRestartCallback_of_null h0⟩) (by decide)
    · obtain ⟨a, ha⟩ := d.adapters.live_iff.mp (hc.resolve_left h0)
      exact nullHandled_of_complete
        (withStatus_eq_ok.mpr ⟨_, rfl, miniportRestartCallback_of_lookup ha hp⟩)
        (not_or.mpr ⟨h0, hp⟩)

theorem nullHandled_oidRequest (hc : context = nullptr ∨ d.adapters.Live context) :
    NullHandled hdr d (.oidRequest context parameters) := by
  by_cases h0 : context = nullptr
  · have hcall : miniportOidRequestCallback d context parameters =
        .ok (statusInvalidParameter1, d) := if_pos h0
    exact nullHandled_of_error (withStatus_eq_ok.mpr ⟨_, rfl, hcall⟩) (by decide)
  · by_cases hp : parameters = nullptr
    · have hcall : miniportOidRequestCallback d context parameters =
          .ok (statusInvalidParameter2, d) := by
        rw [miniportOidRequestCallback, if_neg h0, if_pos hp]
      exact nullHandled_of_error (withStatus_eq_ok.mpr ⟨_, rfl, hcall⟩) (by decide)
    · obtain ⟨a, ha⟩ := d.adapters.live_iff.mp (hc.resolve_left h0)
      have hcall : ∃ s, miniportOidRequestCallback d context parameters = .ok (s, d) := by
        rw [miniportOidRequestCallback, if_neg h0, if_neg hp, AX25Adapter.handleOidRequest,
          Heap.deref_of_lookup ha, Except.bind]
        split_ifs
        · exact ⟨_, rfl⟩
        · exact ⟨_, rfl⟩
      obtain ⟨s, hcall⟩ := hcall
      exact nullHandled_of_same (withStatus_eq_ok.mpr ⟨_, rfl, hcall⟩) (sameMemory_refl d)

/-- A callback that only calls out, and needs the active `Miniport` when it is given no
context. -/
theorem nullHandled_of_active (hsame : ∀ d', c.call hdr d = .ok (none, d') → SameMemory d d')
    (hactive : (context = nullptr → d.activeContext ≠ nullptr) →
      ∃ d', c.call hdr d = .ok (none, d'))
    (hinactive : context = nullptr → d.activeContext = nullptr →
      c.call hdr d = .error .nullPointer) :
    NullHandled hdr d c ↔ (context = nullptr → d.activeContext ≠ nullptr) := by
  constructor
  · exact fun hn h0 hc => not_nullHandled (hinactive h0 hc) hn
  · intro hsafe
    obtain ⟨d', h⟩ := hactive hsafe
    exact nullHandled_of_same h (hsame d' h)

theorem nullHandled_send (hc : context = nullptr ∨ d.adapters.Live context)
    (hcontext : d.activeContext = nullptr ∨ d.miniports.Live d.activeContext) :
    NullHandled hdr d (.sendNetBufferLists context lists port flags) ↔
      NullSafe d (.sendNetBufferLists context lists port flags) := by
  refine nullHandled_of_active (fun d' h => ?_) (fun hsafe => ?_) fun h0 hactive => ?_
  · rw [send_eq_ok (noStatus_eq_ok.mp h).2]
    exact sameMemory_refl _
  · rcases hc with rfl | hl
    · obtain ⟨m, hm⟩ := d.miniports.live_iff.mp (hcontext.resolve_left (hsafe rfl))
      exact ⟨_, noStatus_eq_ok.mpr ⟨rfl, miniportSendNetBufferListsCallback_of_null hm⟩⟩
    · obtain ⟨a, ha⟩ := d.adapters.live_iff.mp hl
      exact ⟨_, noStatus_eq_ok.mpr ⟨rfl, miniportSendNetBufferListsCallback_of_lookup ha⟩⟩
  · subst h0
    exact noStatus_eq_error.mpr (miniportSendNetBufferListsCallback_of_inactive hactive)

theorem nullHandled_return (hc : context = nullptr ∨ d.adapters.Live context)
    (hcontext : d.activeContext = nullptr ∨ d.miniports.Live d.activeContext) :
    NullHandled hdr d (.returnNetBufferLists context lists flags) ↔
      NullSafe d (.returnNetBufferLists context lists flags) := by
  refine nullHandled_of_active (fun d' h => ?_) (fun hsafe => ?_) fun h0 hactive => ?_
  · rw [return_eq_ok (noStatus_eq_ok.mp h).2]
    exact sameMemory_refl _
  · rcases hc with rfl | hl
    · obtain ⟨m, hm⟩ := d.miniports.live_iff.mp (hcontext.resolve_left (hsafe rfl))
      exact ⟨_, noStatus_eq_ok.mpr ⟨rfl, miniportReturnNetBufferListsCallback_of_null hm⟩⟩
    · obtain ⟨a, ha⟩ := d.adapters.live_iff.mp hl
      exact ⟨_, noStatus_eq_ok.mpr ⟨rfl, miniportReturnNetBufferListsCallback_of_lookup ha⟩⟩
  · subst h0
    exact noStatus_eq_error.mpr (miniportReturnNetBufferListsCallback_of_inactive hactive)

end Callbacks

/-! ## All callbacks -/

/-- In every state of every run a callback reads nothing through a null pointer, and
rejects what it lacks, exactly when no pointer it leaves unchecked is null. -/
theorem nullHandled_iff_nullSafe (hdr : NdisHeaders) (ops : List Op)
    (hv : Runs.Along (step hdr) (fun d op => op.Valid d) .initial ops) {d : Driver}
    (hd : Runs.Visits (step hdr) .initial ops d) (c : Callback) (hc : c.Valid d) :
    NullHandled hdr d c ↔ NullSafe d c := by
  have hrec := recorded_of_visits hv hd
  have hcontext := context_valid_of_visits hv hd
  cases c with
  | initializeEx handle context parameters answers => exact nullHandled_initializeEx hc.1
  | haltEx context action => exact nullHandled_haltEx hrec hc
  | driverUnload object => exact nullHandled_driverUnload hrec hcontext
  | pause context parameters => exact iff_of_true (nullHandled_pause hc) trivial
  | restart context parameters => exact iff_of_true (nullHandled_restart hc) trivial
  | oidRequest context request => exact iff_of_true (nullHandled_oidRequest hc) trivial
  | sendNetBufferLists context lists port flags => exact nullHandled_send hc hcontext
  | returnNetBufferLists context lists flags => exact nullHandled_return hc hcontext

theorem nullHandled_send_when_loaded :
    ∃ d, Runs.run (step ndis620) .initial [load] = .ok d ∧
      NullHandled ndis620 d (.sendNetBufferLists nullptr [0x9000] 0 0) := by
  have hrun : Runs.run (step ndis620) .initial [load] = .ok _ := rfl
  exact ⟨_, hrun, (nullHandled_iff_nullSafe ndis620 [load] (by decide) (.end hrun)
    (.sendNetBufferLists nullptr [0x9000] 0 0) (Or.inl rfl)).mpr fun _ => by decide⟩

/-- An initialisation the allocator refuses. -/
def refusedInit : Op :=
  .miniportInitializeEx 0x1000 (some { ifIndex := 1 })
    { block := { address := nullptr, contents := AX25Adapter.zeroBlock }
      registration := ndisStatusSuccess
      general := ndisStatusSuccess }

/-- Null pointers that are read through : the context of a halt, the parameters of an
initialisation, the slot a refused initialisation left when the driver is unloaded, and
`activeContext` when a list is sent without a context after an unload. -/
theorem not_nullHandled_samples :
    (∃ d, Runs.Along (step ndis620) (fun d op => op.Valid d) .initial [load] ∧
      Runs.run (step ndis620) .initial [load] = .ok d ∧
      ¬NullHandled ndis620 d (.haltEx nullptr 0) ∧
      ¬NullHandled ndis620 d (.initializeEx 0x2000 0x1000 none
        { block := { address := 0x3000, contents := AX25Adapter.zeroBlock }
          registration := ndisStatusSuccess
          general := ndisStatusSuccess })) ∧
    (∃ d, Runs.Along (step ndis620) (fun d op => op.Valid d) .initial [load, refusedInit] ∧
      Runs.run (step ndis620) .initial [load, refusedInit] = .ok d ∧
      ¬NullHandled ndis620 d (.driverUnload 0x100)) ∧
    ∃ d, Runs.Along (step ndis620) (fun d op => op.Valid d) .initial
        [load, .callback (.driverUnload 0x100)] ∧
      Runs.run (step ndis620) .initial [load, .callback (.driverUnload 0x100)] = .ok d ∧
      ¬NullHandled ndis620 d (.sendNetBufferLists nullptr [0x9000] 0 0) :=
  ⟨⟨_, by decide, rfl, not_nullHandled rfl, not_nullHandled rfl⟩,
    ⟨_, by decide, rfl, not_nullHandled rfl⟩, _, by decide, rfl, not_nullHandled rfl⟩

end VirtualAX25
