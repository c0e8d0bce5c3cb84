import VirtualAX25.Table

/-!
# The whole of an initialisation

`Initialises` says all of what `miniportInitializeEx` does : a full table is left alone;
otherwise only the first free slot is written, and only the new adapter; its attributes
are set in two calls, the second only if the first succeeded; and the status is success
exactly if there was a slot, a block, and both calls succeeded
(`miniportInitializeEx_initialises`).

The slot is claimed before the block is asked for, and no exit gives it or the block back.
So a call leaves the slots in use as they were exactly if the table was full
(`sameSlots_iff`), and no block exactly if it got none (`released_iff`) : one that fails
leaves things as they were only if it found the table full (`atomicOnFailure_iff`).
-/

namespace VirtualAX25

open Miniport

variable {hdr : NdisHeaders} {d d' : Driver} {m : Miniport} {i : Fin 16} {this : Pointer}
  {parameters : InitParameters} {answers : InitAnswers}

/-! ## Attribute calls -/

/-- The arguments and the status of an attribute call. -/
def Event.attributeCall : Event → Option (NdisHandle × AdapterAttributes × NdisStatus)
  | .ndisMSetMiniportAttributes handle attributes status => some (handle, attributes, status)
  | _ => none

/-- The attribute calls among `calls`, oldest first. -/
def attributesSet (calls : List Event) : List (NdisHandle × AdapterAttributes × NdisStatus) :=
  calls.reverse.filterMap Event.attributeCall

/-- The first status that is not success. -/
def firstFailure (sets : List (NdisHandle × AdapterAttributes × NdisStatus)) :
    Option NdisStatus :=
  (sets.map fun set => set.2.2).find? fun status => status ≠ ndisStatusSuccess

namespace Miniport

/-- There is a free slot and a block, and both attribute calls succeed. -/
def Succeeds (m : Miniport) (answers : InitAnswers) : Prop :=
  ¬m.Full ∧ ¬m.Refused answers ∧ answers.registration = ndisStatusSuccess ∧
    answers.general = ndisStatusSuccess

instance (m : Miniport) (answers : InitAnswers) : Decidable (m.Succeeds answers) :=
  inferInstanceAs (Decidable (_ ∧ _))

/-- `miniportInitializeEx` takes `d`, where the `Miniport` at `this` is `m`, to `d'`. It
makes the calls `calls`, newest first, and returns `status`. -/
structure Initialises (d : Driver) (this : Pointer) (m : Miniport) (parameters : InitParameters)
    (answers : InitAnswers) (status : NdisStatus) (calls : List Event) (d' : Driver) : Prop where
  log : d'.log = calls ++ d.log
  /-- A full table is left alone, and its want of slots is all that is told. -/
  full : m.Full →
    calls = [.ndisWriteErrorLogEntry m.miniportDriverHandle .outOfResources [16]] ∧
      d'.adapters = d.adapters ∧ d'.miniports = d.miniports
  /-- Otherwise nothing of the `Miniport` but its first free slot is written. -/
  table : ∀ i, m.FirstFree i → ∃ m', d'.miniports.lookup this = some m' ∧
    m'.miniportDriverHandle = m.miniportDriverHandle ∧ m'.driverObject = m.driverObject ∧
      ∀ j, j ≠ i → m'.adapters j = m.adapters j
  /-- The other objects stay as they are. -/
  miniports : ∀ q, q ≠ this → d'.miniports.lookup q = d.miniports.lookup q
  adapters : ∀ q, q ≠ answers.block.address → d'.adapters.lookup q = d.adapters.lookup q
  context : d'.activeContext = d.activeContext
  /-- A new adapter has its attributes set, the registration attributes first. -/
  attributes : ¬m.Full → ¬m.Refused answers →
    ∃ a, d'.adapters.lookup answers.block.address = some a ∧
      a.registrationAttributes.miniportAdapterContext = answers.block.address ∧
      attributesSet calls =
        (m.miniportDriverHandle, .registration a.registrationAttributes, answers.registration) ::
          if answers.registration = ndisStatusSuccess then
            [(m.miniportDriverHandle, .general a.generalAttributes, answers.general)]
          else []
  /-- Without a block there is no new adapter, and no attributes are set. -/
  noAdapter : m.Full ∨ m.Refused answers → d'.adapters = d.adapters ∧ attributesSet calls = []
  success_iff : status = ndisStatusSuccess ↔ m.Succeeds answers
  /-- A success leaves the slot with a paused adapter. -/
  succeeded : status = ndisStatusSuccess → ∀ i, m.FirstFree i →
    ∃ m' a, d'.miniports.lookup this = some m' ∧
      m'.adapters i =
        { adapter := answers.block.address, adapterNumber := parameters.ifIndex, inUse := true } ∧
      d'.adapters.lookup answers.block.address = some a ∧ a.state = .paused
  /-- A failure is a want of resources, or the first attribute call that did not succeed. -/
  failed : status ≠ ndisStatusSuccess →
    (m.Full ∨ m.Refused answers) ∧ status = ndisStatusResources ∨
      firstFailure (attributesSet calls) = some status

/-! ## The three ways through the call -/

theorem initialises_of_full (hf : m.Full) :
    Initialises d this m parameters answers ndisStatusResources
      [.ndisWriteErrorLogEntry m.miniportDriverHandle .outOfResources [16]]
      (withoutSlot d m) where
  log := rfl
  full _ := ⟨rfl, rfl, rfl⟩
  table i hi := absurd hf hi.not_full
  miniports q _ := rfl
  adapters q _ := rfl
  context := rfl
  attributes hn := absurd hf hn
  noAdapter _ := ⟨rfl, by simp [attributesSet, Event.attributeCall]⟩
  success_iff := by simp [Succeeds, hf, ndisStatusResources, ndisStatusSuccess]
  succeeded h := absurd h (by decide)
  failed _ := Or.inl ⟨Or.inl hf, rfl⟩

theorem lookup_of_stored {m' : Miniport} (hm : d.miniports.lookup this = some m)
    (hd' : d'.miniports = d.miniports.store this m') : d'.miniports.lookup this = some m' := by
  rw [hd']
  exact Heap.lookup_store_self _ (Heap.ne_null_of_lookup hm)

/-- Claiming the slot `i` in the `Miniport` at `this` writes nothing else of it. -/
theorem table_of_claimed (hm : d.miniports.lookup this = some m) (hi : m.FirstFree i)
    (slot : Miniport.Adapter) (hd' : d'.miniports = d.miniports.store this (m.setSlot i slot)) :
    ∀ j, m.FirstFree j → ∃ m', d'.miniports.lookup this = some m' ∧
      m'.miniportDriverHandle = m.miniportDriverHandle ∧ m'.driverObject = m.driverObject ∧
        ∀ k, k ≠ j → m'.adapters k = m.adapters k := by
  intro j hj
  obtain rfl := hi.unique hj
  exact ⟨m.setSlot i slot, lookup_of_stored hm hd', by simp, by simp,
    fun k hk => m.setSlot_of_ne i slot hk⟩

/-- Without an adapter no attributes are set. -/
theorem attributesSet_refused (handle : NdisHandle) :
    attributesSet (.ndisWriteErrorLogEntry handle .outOfResources [] :: refusedCalls hdr m) =
      [] := by
  unfold refusedCalls
  split_ifs <;> simp [attributesSet, Event.attributeCall]

theorem initialises_of_refused (hm : d.miniports.lookup this = some m) (hi : m.FirstFree i)
    (hr : m.Refused answers) :
    Initialises d this m parameters answers ndisStatusResources
      (.ndisWriteErrorLogEntry m.miniportDriverHandle .outOfResources [] :: refusedCalls hdr m)
      (withoutAdapter hdr d this m i parameters) where
  log := rfl
  full hf := absurd hf hi.not_full
  table := table_of_claimed hm hi _ rfl
  miniports q hq := Heap.lookup_store_of_ne _ hq
  adapters q _ := rfl
  context := rfl
  attributes _ hn := absurd hr hn
  noAdapter _ := ⟨rfl, attributesSet_refused m.miniportDriverHandle⟩
  success_iff := by simp [Succeeds, hr, ndisStatusResources, ndisStatusSuccess]
  succeeded h := absurd h (by decide)
  failed _ := Or.inl ⟨Or.inr hr, rfl⟩

/-- The calls of an initialisation that builds an adapter, newest first. -/
def builtCalls (hdr : NdisHeaders) (m : Miniport) (answers : InitAnswers) : List Event :=
  AX25Adapter.attributeCalls (newAdapter hdr m answers) answers.registration answers.general ++
    [.keInitializeDpc answers.block.address,
      .ndisAllocateMemoryWithTagPriority m.miniportDriverHandle hdr.sizeofAX25Adapter
        AX25Adapter.ax25AdapterTag answers.block.address]

theorem withAdapter_log : (withAdapter hdr d this m i parameters answers).log =
    builtCalls hdr m answers ++ d.log := by
  simp [withAdapter, builtCalls]

theorem withAdapter_lookup (hr : ¬m.Refused answers) :
    (withAdapter hdr d this m i parameters answers).adapters.lookup answers.block.address =
      some (newAdapter hdr m answers) :=
  Heap.lookup_store_self _ (not_or.mp hr).2

theorem newAdapter_driverHandle (hdr : NdisHeaders) (m : Miniport) (answers : InitAnswers) :
    (newAdapter hdr m answers).driverHandle = m.miniportDriverHandle :=
  rfl

/-- The two attribute calls on the new adapter, the second if the first succeeded. -/
theorem attributesSet_built (hdr : NdisHeaders) (m : Miniport) (answers : InitAnswers) :
    attributesSet (builtCalls hdr m answers) =
      (m.miniportDriverHandle, .registration (newAdapter hdr m answers).registrationAttributes,
        answers.registration) ::
        if answers.registration = ndisStatusSuccess then
          [(m.miniportDriverHandle, .general (newAdapter hdr m answers).generalAttributes,
            answers.general)]
        else [] := by
  unfold builtCalls AX25Adapter.attributeCalls
  split_ifs <;>
    simp [attributesSet, List.filterMap_cons, Event.attributeCall, newAdapter_driverHandle]

theorem firstFailure_attributes {registration general : NdisStatus} {handle : NdisHandle}
    {x y : AdapterAttributes}
    (h : AX25Adapter.attributesStatus registration general ≠ ndisStatusSuccess) :
    firstFailure ((handle, x, registration) ::
      if registration = ndisStatusSuccess then [(handle, y, general)] else []) =
        some (AX25Adapter.attributesStatus registration general) := by
  unfold AX25Adapter.attributesStatus at h ⊢
  split_ifs at h ⊢ with hr <;> simp [firstFailure, hr, h]

theorem initialises_of_built (hm : d.miniports.lookup this = some m) (hi : m.FirstFree i)
    (hr : ¬m.Refused answers) :
    Initialises d this m parameters answers
      (AX25Adapter.attributesStatus answers.registration answers.general)
      (builtCalls hdr m answers) (withAdapter hdr d this m i parameters answers) where
  log := withAdapter_log
  full hf := absurd hf hi.not_full
  table := table_of_claimed hm hi _ rfl
  miniports q hq := Heap.lookup_store_of_ne _ hq
  adapters q hq := Heap.lookup_store_of_ne _ hq
  context := rfl
  attributes _ _ := ⟨_, withAdapter_lookup hr, rfl, attributesSet_built hdr m answers⟩
  noAdapter hn := absurd hn (not_or.mpr ⟨hi.not_full, hr⟩)
  success_iff := by
    simp [Succeeds, hi.not_full, hr, AX25Adapter.attributesStatus_eq_success_iff]
  succeeded _ j hj := by
    obtain rfl := hi.unique hj
    exact ⟨_, _, lookup_of_stored hm rfl, m.setSlot_self i _, withAdapter_lookup hr, rfl⟩
  failed h := by
    rw [attributesSet_built]
    exact Or.inr (firstFailure_attributes h)

/-- A call that returns does what `Initialises` says. -/
theorem initialises_of_ok {status : NdisStatus} (hm : d.miniports.lookup this = some m)
    (h : miniportInitializeEx hdr d this (some parameters) answers = .ok (status, d')) :
    ∃ calls, Initialises d this m parameters answers status calls d' := by
  rcases miniportInitializeEx_of_lookup hm h with
    ⟨hf, rfl, rfl⟩ | ⟨i, parameters', hi, heq, hcases⟩
  · exact ⟨_, initialises_of_full hf⟩
  · obtain rfl := Option.some.inj heq
    rcases hcases with ⟨hr, rfl, rfl⟩ | ⟨hr, rfl, rfl⟩
    · exact ⟨_, initialises_of_refused hm hi hr⟩
    · exact ⟨_, initialises_of_built hm hi hr⟩

end Miniport

/-- `miniportInitializeEx` on a live `Miniport` with valid parameters returns, whatever its
table, the live adapters and the answers to its calls. It does what `Initialises` says, and
leaves every other live adapter as it is. -/
theorem miniportInitializeEx_initialises (hdr : NdisHeaders) (d : Driver) (this : Pointer)
    (m : Miniport) (hm : d.miniports.lookup this = some m) (parameters : InitParameters)
    (answers : InitAnswers) (hfresh : answers.block.Fresh d) :
    ∃ status calls d',
      miniportInitializeEx hdr d this (some parameters) answers = .ok (status, d') ∧
        Initialises d this m parameters answers status calls d' ∧
          ∀ q a, d.adapters.lookup q = some a → d'.adapters.lookup q = some a := by
  obtain ⟨status, d', h⟩ := miniportInitializeEx_completes hdr hm parameters answers
  obtain ⟨calls, hinit⟩ := initialises_of_ok hm h
  refine ⟨status, calls, d', h, hinit, fun q a ha => ?_⟩
  -- the new block is disjoint from what was live
  have hq : q ≠ answers.block.address := by
    rintro rfl
    exact hfresh (Heap.live_of_lookup ha)
  rw [hinit.adapters q hq, ha]

/-- A block of zero bytes at `0x3000`, and the statuses of the attribute calls. -/
def zeroedAnswers (registration general : NdisStatus) : InitAnswers where
  block := { address := 0x3000, contents := AX25Adapter.zeroBlock }
  registration := registration
  general := general

/-- After a load, with general attributes that NDIS does not accept. -/
theorem initialises_after_load :
    ∃ d m status calls d', step ndis620 .initial load = .ok d ∧
      miniportInitializeEx ndis620 d 0x1000 (some { ifIndex := 1 })
        (zeroedAnswers ndisStatusSuccess ndisStatusFailure) = .ok (status, d') ∧
      Initialises d 0x1000 m { ifIndex := 1 } (zeroedAnswers ndisStatusSuccess ndisStatusFailure)
        status calls d' := by
  obtain ⟨d, m, hload, hm, hfresh⟩ : ∃ d m, step ndis620 .initial load = .ok d ∧
      d.miniports.lookup 0x1000 = some m ∧
      (zeroedAnswers ndisStatusSuccess ndisStatusFailure).block.Fresh d :=
    ⟨_, _, rfl, rfl, by decide⟩
  obtain ⟨status, calls, d', h, hinit, -⟩ := miniportInitializeEx_initialises ndis620 d 0x1000 m
    hm { ifIndex := 1 } (zeroedAnswers ndisStatusSuccess ndisStatusFailure) hfresh
  exact ⟨d, m, status, calls, d', hload, h, hinit⟩

/-! ## Failure -/

namespace Miniport

/-- The slots in use, with their contents. -/
def slotsInUse (m : Miniport) (i : Fin 16) : Option Miniport.Adapter :=
  if (m.adapters i).inUse then some (m.adapters i) else none

/-- The `Miniport` at `this` has the same slots in use, with the same contents. -/
def SameSlots (this : Pointer) (d d' : Driver) : Prop :=
  (d'.miniports.lookup this).map slotsInUse = (d.miniports.lookup this).map slotsInUse

/-- No block allocated between `d` and `d'` is live in `d'`. -/
def Released (d d' : Driver) : Prop :=
  ∃ calls, d'.log = calls ++ d.log ∧
    ∀ p ∈ calls.flatMap adapterLedger.takes, ¬d'.adapters.Live p

/-- A call that does not return success leaves the slots in use as they were, and no block
of its own. -/
def AtomicOnFailure (hdr : NdisHeaders) (d : Driver) (this : Pointer)
    (parameters : InitParameters) (answers : InitAnswers) : Prop :=
  ∀ status d', miniportInitializeEx hdr d this (some parameters) answers = .ok (status, d') →
    status ≠ ndisStatusSuccess → SameSlots this d d' ∧ Released d d'

/-- A claimed slot stays in use. -/
theorem not_sameSlots_of_claimed (hm : d.miniports.lookup this = some m) (hi : m.FirstFree i)
    {p : Pointer}
    (hd' : d'.miniports = d.miniports.store this (m.setSlot i (claimed p parameters))) :
    ¬SameSlots this d d' := by
  intro hsame
  rw [SameSlots, lookup_of_stored hm hd', hm] at hsame
  have hslot := congrFun (Option.some.inj hsame) i
  simp [slotsInUse, claimed, hi.1] at hslot

/-- The slots in use stay the same exactly if there is no free one. -/
theorem sameSlots_iff {status : NdisStatus} (hm : d.miniports.lookup this = some m)
    (h : miniportInitializeEx hdr d this (some parameters) answers = .ok (status, d')) :
    SameSlots this d d' ↔ m.Full := by
  rcases miniportInitializeEx_of_lookup hm h with
    ⟨hf, -, rfl⟩ | ⟨i, parameters', hi, -, ⟨-, -, rfl⟩ | ⟨-, -, rfl⟩⟩
  · exact iff_of_true rfl hf
  · exact iff_of_false (not_sameSlots_of_claimed hm hi rfl) hi.not_full
  · exact iff_of_false (not_sameSlots_of_claimed hm hi rfl) hi.not_full

/-- A block that was built in stays allocated. -/
theorem not_released_of_built (hr : ¬m.Refused answers) :
    ¬Released d (withAdapter hdr d this m i parameters answers) := by
  rintro ⟨calls, hlog, hreleased⟩
  rw [withAdapter_log] at hlog
  obtain rfl := List.append_cancel_right hlog
  refine hreleased answers.block.address ?_ (Heap.live_of_lookup (withAdapter_lookup hr))
  have hb : answers.block.address ≠ nullptr := (not_or.mp hr).2
  simp [builtCalls, adapterLedger, hb]

/-- No block is left exactly if none was obtained. -/
theorem released_iff {status : NdisStatus} (hm : d.miniports.lookup this = some m)
    (h : miniportInitializeEx hdr d this (some parameters) answers = .ok (status, d')) :
    Released d d' ↔ m.Full ∨ m.Refused answers := by
  rcases miniportInitializeEx_of_lookup hm h with
    ⟨hf, -, rfl⟩ | ⟨i, parameters', hi, -, ⟨hr, -, rfl⟩ | ⟨hr, -, rfl⟩⟩
  · refine iff_of_true ⟨[_], rfl, fun p hp => ?_⟩ (Or.inl hf)
    simp [adapterLedger] at hp
  · refine iff_of_true ⟨_ :: refusedCalls hdr m, rfl, fun p hp => ?_⟩ (Or.inr hr)
    unfold refusedCalls at hp
    split_ifs at hp <;> simp [adapterLedger] at hp
  · exact iff_of_false (not_released_of_built hr) (not_or.mpr ⟨hi.not_full, hr⟩)

end Miniport

/-- A call leaves things as they were when it fails exactly if the table is full, or there
is nothing to fail : it gets a block and both attribute calls succeed. -/
theorem atomicOnFailure_iff (hdr : NdisHeaders) (d : Driver) (this : Pointer) (m : Miniport)
    (hm : d.miniports.lookup this = some m) (parameters : InitParameters)
    (answers : InitAnswers) :
    AtomicOnFailure hdr d this parameters answers ↔ m.Full ∨ m.Succeeds answers := by
  constructor
  · intro hatomic
    obtain ⟨status, d', h⟩ := miniportInitializeEx_completes hdr hm parameters answers
    obtain ⟨calls, hinit⟩ := initialises_of_ok hm h
    by_cases hs : status = ndisStatusSuccess
    · exact Or.inr (hinit.success_iff.mp hs)
    · exact Or.inl ((sameSlots_iff hm h).mp (hatomic status d' h hs).1)
  · intro hcases status d' h hs
    obtain ⟨calls, hinit⟩ := initialises_of_ok hm h
    rcases hcases with hf | hsucceeds
    · exact ⟨(sameSlots_iff hm h).mpr hf, (released_iff hm h).mpr (Or.inl hf)⟩
    · exact absurd (hinit.success_iff.mpr hsucceeds) hs

/-- Sixteen adapters come up. -/
def sixteen : List Op :=
  (List.range 16).map fun i => bringUp i.toUInt32 (0x3000 + 0x1000 * i)

/-- A seventeenth initialisation finds the table full. -/
theorem atomicOnFailure_of_sixteen :
    ∃ d, Runs.run (step ndis620) .initial (load :: sixteen) = .ok d ∧
      AtomicOnFailure ndis620 d 0x1000 { ifIndex := 17 }
        (zeroedAnswers ndisStatusFailure ndisStatusFailure) := by
  obtain ⟨d, m, hrun, hm, hf⟩ : ∃ d m,
      Runs.run (step ndis620) .initial (load :: sixteen) = .ok d ∧
        d.miniports.lookup 0x1000 = some m ∧ m.Full := ⟨_, _, rfl, rfl, by decide⟩
  exact ⟨d, hrun, (atomicOnFailure_iff ndis620 d 0x1000 m hm { ifIndex := 17 }
    (zeroedAnswers ndisStatusFailure ndisStatusFailure)).mpr (Or.inl hf)⟩

/-- NDIS does not accept the registration attributes. The first slot is left in use, and
the adapter in its block. -/
theorem not_atomicOnFailure_after_load :
    ∃ d d', step ndis620 .initial load = .ok d ∧
      miniportInitializeEx ndis620 d 0x1000 (some { ifIndex := 1 })
        (zeroedAnswers ndisStatusFailure ndisStatusSuccess) = .ok (ndisStatusFailure, d') ∧
      ¬SameSlots 0x1000 d d' ∧ d'.adapters.Live 0x3000 ∧
      ¬AtomicOnFailure ndis620 d 0x1000 { ifIndex := 1 }
        (zeroedAnswers ndisStatusFailure ndisStatusSuccess) := by
  obtain ⟨d, m, d', hload, hm, h, hfree, hlive⟩ : ∃ d m d',
      step ndis620 .initial load = .ok d ∧ d.miniports.lookup 0x1000 = some m ∧
      miniportInitializeEx ndis620 d 0x1000 (some { ifIndex := 1 })
        (zeroedAnswers ndisStatusFailure ndisStatusSuccess) = .ok (ndisStatusFailure, d') ∧
      ¬m.Full ∧ d'.adapters.Live 0x3000 := ⟨_, _, _, rfl, rfl, rfl, by decide, by decide⟩
  have hslots : ¬SameSlots 0x1000 d d' := fun hsame => hfree ((sameSlots_iff hm h).mp hsame)
  exact ⟨d, d', hload, h, hslots, hlive, fun hatomic => hslots (hatomic _ _ h (by decide)).1⟩

end VirtualAX25
