import VirtualAX25.Table

/-!
# Adapters under handles of their own

NDIS knows the driver by the handle it registered, and announces each adapter under a
handle of its own. The callback of initialisation lets a call pass only if the handle it
is given is the driver's. So no announcement is ever let in (`announce_refused`), and a run
of announcements brings its adapters up exactly when it has none (`broughtUp_iff_nil`).
-/

namespace VirtualAX25

open Miniport

/-- An adapter as NDIS announces it. -/
structure Announcement where
  handle : NdisHandle
  parameters : InitParameters
  answers : InitAnswers

/-- The callback that announces `a` to the `Miniport` at `this`. -/
def announce (this : Pointer) (a : Announcement) : Op :=
  .callback (.initializeEx a.handle this (some a.parameters) a.answers)

/-- The handles of the attribute calls, newest first. -/
def attributeHandles (log : List Event) : List NdisHandle :=
  log.filterMap fun
    | .ndisMSetMiniportAttributes handle _ _ => some handle
    | _ => none

/-- The call returns success, yields an adapter at an address where none was live, and
issues two attribute calls with the adapter's own handle. -/
def BroughtUp (hdr : NdisHeaders) (this : Pointer) (d : Driver) (a : Announcement) : Prop :=
  ∃ d' p adapter,
    miniportInitializeExCallback hdr d a.handle this (some a.parameters) a.answers =
      .ok (ndisStatusSuccess, d') ∧
    ¬d.adapters.Live p ∧ d'.adapters.lookup p = some adapter ∧
    attributeHandles d'.log = a.handle :: a.handle :: attributeHandles d.log

/-- Every announcement of the sequence is brought up. -/
def AllBroughtUp (hdr : NdisHeaders) (this : Pointer) (d : Driver) (as : List Announcement) :
    Prop :=
  ∀ pre a post d', as = pre ++ a :: post →
    Runs.run (step hdr) d (pre.map (announce this)) = .ok d' → BroughtUp hdr this d' a

/-- A sequence of announcements to a registered `Miniport` with room for them, each under
a handle of its own; the allocator and NDIS answer with success. -/
structure Announced (hdr : NdisHeaders) (d : Driver) (this : Pointer) (m : Miniport)
    (as : List Announcement) : Prop where
  miniport : d.miniports.lookup this = some m
  registered : m.miniportDriverHandle ≠ nullptr
  room : m.entries.length + as.length ≤ 16
  nonnull : ∀ a ∈ as, a.handle ≠ nullptr
  distinct : (as.map Announcement.handle).Nodup
  own : ∀ a ∈ as, a.handle ≠ m.miniportDriverHandle
  supplied : ∀ a ∈ as, a.answers.block.address ≠ nullptr ∧
    a.answers.registration = ndisStatusSuccess ∧ a.answers.general = ndisStatusSuccess
  valid : Runs.Along (step hdr) (fun d op => op.Valid d) d (as.map (announce this))

variable {hdr : NdisHeaders} {d : Driver} {this : Pointer} {m : Miniport}

/-- An announcement under another handle than the driver's is refused. -/
theorem announce_refused {a : Announcement} (hm : d.miniports.lookup this = some m)
    (ha : a.handle ≠ m.miniportDriverHandle) :
    miniportInitializeExCallback hdr d a.handle this (some a.parameters) a.answers =
      .ok (statusInvalidParameter1, d) := by
  rw [miniportInitializeExCallback_of_lookup hm, if_pos ha]

/-- Adapters announced under handles of their own are all brought up exactly when there
are none. -/
theorem broughtUp_iff_nil (hdr : NdisHeaders) (d : Driver) (this : Pointer) (m : Miniport)
    (as : List Announcement) (h : Announced hdr d this m as) :
    AllBroughtUp hdr this d as ↔ as = [] := by
  constructor
  · intro hall
    cases as with
    | nil => rfl
    | cons a as =>
      obtain ⟨d', p, adapter, hcall, -⟩ := hall [] a as d rfl rfl
      rw [announce_refused h.miniport (h.own a List.mem_cons_self)] at hcall
      exact absurd (Prod.mk.inj (Except.ok.inj hcall)).1 (by decide)
  · rintro rfl pre a post d' has
    simp at has

/-- An adapter announced under `handle`, in a block of zero bytes at `address`. -/
def announcement (handle : NdisHandle) (ifIndex : NetIfIndex) (address : Pointer) :
    Announcement where
  handle := handle
  parameters := { ifIndex := ifIndex }
  answers :=
    { block := { address := address, contents := AX25Adapter.zeroBlock }
      registration := ndisStatusSuccess
      general := ndisStatusSuccess }

theorem not_broughtUp_pair :
    ∃ d, step ndis620 .initial load = .ok d ∧
      ¬AllBroughtUp ndis620 0x1000 d
        [announcement 0x7000 1 0x3000, announcement 0x8000 2 0x4000] := by
  refine ⟨_, rfl, fun hall => ?_⟩
  have hnil := (broughtUp_iff_nil ndis620 _ 0x1000 (registeredMiniport 0x100 loadAnswers.register)
    [announcement 0x7000 1 0x3000, announcement 0x8000 2 0x4000]
    { miniport := rfl
      registered := by decide
      room := by decide
      nonnull := by decide
      distinct := by decide
      own := by decide
      supplied := by decide
      valid := by decide }).mp hall
  cases hnil

/-- The driver registered under the handle `0x2000` refuses an adapter announced under
`0x7000`. -/
theorem not_broughtUp_first :
    ∃ d m, step ndis620 .initial load = .ok d ∧
      Announced ndis620 d 0x1000 m [announcement 0x7000 1 0x3000] ∧
      miniportInitializeExCallback ndis620 d 0x7000 0x1000 (some { ifIndex := 1 })
        (announcement 0x7000 1 0x3000).answers = .ok (statusInvalidParameter1, d) ∧
      ¬AllBroughtUp ndis620 0x1000 d [announcement 0x7000 1 0x3000] := by
  refine ⟨_, registeredMiniport 0x100 loadAnswers.register, rfl, ?_, rfl, fun h => ?_⟩
  · exact
      { miniport := rfl
        registered := by decide
        room := by decide
        nonnull := by decide
        distinct := by decide
        own := by decide
        supplied := by decide
        valid := by decide }
  · obtain ⟨d', p, adapter, hcall, -⟩ := h [] (announcement 0x7000 1 0x3000) [] _ rfl rfl
    exact absurd (Prod.mk.inj (Except.ok.inj hcall)).1 (by decide)

end VirtualAX25
