import VirtualAX25.Moves
import VirtualAX25.Ledger

/-!
# The send path

A `NET_BUFFER_LIST` handed to the send callback belongs to the driver until it is handed
back by `NdisMSendNetBufferListsComplete`. `Conserves` asks that every list sent is held
by the adapter it was sent on or was handed back, for some reading `held` of what an
adapter object holds; that a rejected list is handed back by the time the send returns;
and that a paused adapter holds nothing.

Without a context the callback hands the chain back. With one it passes the chain to
`SendNetBufferLists`, which changes nothing and calls nothing (`step_send_adapter`). So no
reading conserves a chain sent to an adapter, and a run conserves its lists exactly when
it sends none to an adapter (`conserves_iff`).
-/

namespace VirtualAX25

/-! ## The ledger of lists -/

/-- Lists handed to the send callback, and handed back. -/
def sendLedger : Ledger Event Pointer where
  takes
    | .returned (.callback (.sendNetBufferLists _ lists _ _)) _ => lists
    | _ => []
  gives
    | .ndisMSendNetBufferListsComplete _ lists _ => lists
    | _ => []

/-- The lists sent on the adapter at `p`. -/
def sentOn (p : Pointer) (log : List Event) : List Pointer :=
  log.flatMap fun
    | .returned (.callback (.sendNetBufferLists context lists _ _)) _ =>
      if context = p then lists else []
    | _ => []

/-- How often a list is held by the live adapters. -/
def heldCount (held : AX25Adapter → List Pointer) (d : Driver) (k : Pointer) : ℕ :=
  ((d.adapters.addresses.filterMap d.adapters.lookup).flatMap held).count k

/-! ## Runs and what is asked of them -/

/-- Sends, pauses and restarts of live adapters, and sends without a context while the
active `Miniport` is live. -/
def SendValid (d : Driver) : Op → Prop
  | .callback (.sendNetBufferLists context _ _ _) =>
    d.adapters.Live context ∨ (context = nullptr ∧ d.miniports.Live d.activeContext)
  | .callback (.pause context _) => d.adapters.Live context
  | .callback (.restart context _) => d.adapters.Live context
  | _ => False

instance (d : Driver) : (op : Op) → Decidable (SendValid d op)
  | .callback (.sendNetBufferLists ..) => inferInstanceAs (Decidable (_ ∨ _))
  | .callback (.pause context _) => inferInstanceAs (Decidable (d.adapters.Live context))
  | .callback (.restart context _) => inferInstanceAs (Decidable (d.adapters.Live context))
  | .callback (.initializeEx ..) | .callback (.haltEx ..) | .callback (.driverUnload _)
  | .callback (.oidRequest ..) | .callback (.returnNetBufferLists ..) | .driverEntry ..
  | .constructMiniport _ | .destroyMiniport _ | .registerWithNdis ..
  | .miniportInitializeEx .. => isFalse id

/-- The entry sends a chain to an adapter. -/
def Op.SendsToAdapter : Op → Prop
  | .callback (.sendNetBufferLists context lists _ _) => context ≠ nullptr ∧ lists ≠ []
  | _ => False

/-- If the entry is a send that is to be rejected, all its lists are handed back when it
returns. -/
def HandsBack (hdr : NdisHeaders) (d : Driver) (op : Op) : Prop :=
  ∀ context lists port flags d', op = .callback (.sendNetBufferLists context lists port flags) →
    (∀ a, d.adapters.lookup context = some a → a.state ≠ .running) →
    step hdr d op = .ok d' →
    ∀ k, sendLedger.given d'.log k = sendLedger.given d.log k + lists.count k

/-- If the entry is a pause that returns success, the adapter holds nothing then. -/
def Drains (hdr : NdisHeaders) (held : AX25Adapter → List Pointer) (d : Driver) (op : Op) : Prop :=
  ∀ context parameters d' a, op = .callback (.pause context parameters) →
    op.call hdr d = .ok (some ndisStatusSuccess, d') → d'.adapters.lookup context = some a →
    held a = []

/-- With `held` as the reading of what an adapter holds, the run conserves lists. -/
structure Conserves (hdr : NdisHeaders) (d₀ : Driver) (ops : List Op)
    (held : AX25Adapter → List Pointer) : Prop where
  accounts : ∀ d, Runs.Visits (step hdr) d₀ ops d →
    sendLedger.Accounts d.log (heldCount held d)
  own : ∀ d p a, Runs.Visits (step hdr) d₀ ops d → d.adapters.lookup p = some a →
    ∀ k ∈ held a, k ∈ sentOn p d.log
  rejected : Runs.Along (step hdr) (HandsBack hdr) d₀ ops
  paused : Runs.Along (step hdr) (Drains hdr held) d₀ ops

variable {hdr : NdisHeaders} {d d' : Driver} {op : Op} {context : Pointer} {lists : List Pointer}
  {port flags : UInt32} {a : AX25Adapter}

/-! ## Steps -/

/-- A send to an adapter changes nothing and calls nothing. -/
theorem step_send_adapter (ha : d.adapters.lookup context = some a) :
    step hdr d (.callback (.sendNetBufferLists context lists port flags)) =
      .ok (d.record (.returned (.callback (.sendNetBufferLists context lists port flags))
        none)) :=
  step_of_call (noStatus_eq_ok.mpr
    ⟨rfl, Miniport.miniportSendNetBufferListsCallback_of_lookup ha⟩)

/-- A send without a context hands the chain back. -/
theorem step_send_null {m : Miniport} (hm : d.miniports.lookup d.activeContext = some m) :
    step hdr d (.callback (.sendNetBufferLists nullptr lists port flags)) =
      .ok (((d.record (.markNetBufferListWithFailure lists ndisStatusFailure)).record
        (.ndisMSendNetBufferListsComplete m.miniportDriverHandle lists
          (Miniport.completeFlags flags))).record
        (.returned (.callback (.sendNetBufferLists nullptr lists port flags)) none)) :=
  step_of_call (noStatus_eq_ok.mpr ⟨rfl, Miniport.miniportSendNetBufferListsCallback_of_null hm⟩)

/-- The lists the entry sends. -/
def Op.sent : Op → List Pointer
  | .callback (.sendNetBufferLists _ lists _ _) => lists
  | _ => []

/-- The lists the entry hands back. -/
def Op.handedBack : Op → List Pointer
  | .callback (.sendNetBufferLists context lists _ _) => if context = nullptr then lists else []
  | _ => []

theorem Op.handedBack_eq_sent (h : ¬op.SendsToAdapter) : op.handedBack = op.sent := by
  unfold Op.handedBack Op.sent
  split
  · rename_i context lists port flags
    split_ifs with hc
    · rfl
    · by_contra hl
      exact h ⟨hc, Ne.symm hl⟩
  · rfl

/-- The step lemma : an entry completes, and moves what it sends and what it hands back. A
chain sent to an adapter leaves the adapters as they are. -/
theorem send_step (hv : SendValid d op) :
    ∃ d', step hdr d op = .ok d' ∧ sendLedger.Moved d.log d'.log op.sent op.handedBack ∧
      (op.SendsToAdapter → d'.adapters = d.adapters) := by
  cases op with
  | callback c =>
    cases c with
    | sendNetBufferLists context lists port flags =>
      rcases hv with hl | ⟨rfl, hm⟩
      · obtain ⟨a, ha⟩ := d.adapters.live_iff.mp hl
        refine ⟨_, step_send_adapter ha, ⟨fun k => ?_, fun k => ?_⟩, fun _ => rfl⟩
        · simp [sendLedger, Op.sent, Nat.add_comm]
        · simp [sendLedger, Op.handedBack, Heap.ne_null_of_lookup ha]
      · obtain ⟨m, hm⟩ := d.miniports.live_iff.mp hm
        refine ⟨_, step_send_null hm, ⟨fun k => ?_, fun k => ?_⟩, fun _ => rfl⟩
        · simp [sendLedger, Op.sent, Nat.add_comm]
        · simp [sendLedger, Op.handedBack, Nat.add_comm]
    | pause context parameters =>
      obtain ⟨a, ha⟩ := d.adapters.live_iff.mp hv
      have hcall := @Miniport.miniportPauseCallback_of_lookup d context a parameters ha
      exact ⟨_, step_of_call (withStatus_eq_ok.mpr ⟨_, rfl, hcall⟩),
        ⟨fun k => by simp [sendLedger, Op.sent], fun k => by simp [sendLedger, Op.handedBack]⟩,
        fun h => absurd h id⟩
    | restart context parameters =>
      obtain ⟨a, ha⟩ := d.adapters.live_iff.mp hv
      have h0 := Heap.ne_null_of_lookup ha
      have hcall : ∃ status d₁, Miniport.miniportRestartCallback d context parameters =
          .ok (status, d₁) ∧ d₁.log = d.log := by
        by_cases hp : parameters = nullptr
        · subst hp
          exact ⟨_, _, Miniport.miniportRestartCallback_of_null h0, rfl⟩
        · exact ⟨_, _, Miniport.miniportRestartCallback_of_lookup ha hp, rfl⟩
      obtain ⟨status, d₁, hcall, hlog⟩ := hcall
      exact ⟨_, step_of_call (withStatus_eq_ok.mpr ⟨_, rfl, hcall⟩),
        ⟨fun k => by simp [sendLedger, Op.sent, hlog],
          fun k => by simp [sendLedger, Op.handedBack, hlog]⟩,
        fun h => absurd h id⟩
    | _ => exact absurd hv id
  | _ => exact absurd hv id

/-! ## Runs -/

/-- A run that sends no chain to an adapter gives back what it takes. -/
theorem settled_of_visits {ops : List Op} {d₀ : Driver} (h₀ : sendLedger.Settled d₀.log)
    (hv : Runs.Along (step hdr) SendValid d₀ ops) (hops : ∀ op ∈ ops, ¬op.SendsToAdapter)
    (hd : Runs.Visits (step hdr) d₀ ops d) : sendLedger.Settled d.log := by
  have hstep : ∀ (d : Driver) (op : Op) (d' : Driver), sendLedger.Settled d.log →
      SendValid d op ∧ ¬op.SendsToAdapter → step hdr d op = .ok d' →
      sendLedger.Settled d'.log := by
    intro d op d' hsettled hop h k
    obtain ⟨d₁, h₁, hmoved, -⟩ := @send_step hdr _ _ hop.1
    obtain rfl := Except.ok.inj (h.symm.trans h₁)
    have hk := hsettled k
    rw [hmoved.taken, hmoved.given, Op.handedBack_eq_sent hop.2, hk]
  exact hd.invariant hstep (hv.and (Runs.along_of_forall d₀ hops)) h₀

/-- Between two states with balanced accounts no chain was sent to an adapter : its lists
would be neither held nor handed back, whatever an adapter is said to hold. -/
theorem not_sendsToAdapter_of_accounts {held : AX25Adapter → List Pointer}
    (hbefore : sendLedger.Accounts d.log (heldCount held d))
    (hafter : sendLedger.Accounts d'.log (heldCount held d'))
    (hmoved : sendLedger.Moved d.log d'.log op.sent op.handedBack)
    (hadapters : op.SendsToAdapter → d'.adapters = d.adapters) : ¬op.SendsToAdapter := by
  intro hsend
  have hheld : heldCount held d' = heldCount held d := by
    unfold heldCount
    rw [hadapters hsend]
  have hlost : ∀ k ∈ op.sent, k ∈ op.handedBack := by
    intro k hk
    have hb := hbefore k
    have ha := hafter k
    rw [hmoved.taken, hmoved.given, hheld] at ha
    have hpos := List.count_pos_iff.mpr hk
    exact List.count_pos_iff.mp (by omega)
  unfold Op.SendsToAdapter at hsend
  split at hsend
  · rename_i context lists port flags
    obtain ⟨k, hk⟩ := List.exists_mem_of_ne_nil _ hsend.2
    have hmem := hlost k hk
    rw [Op.handedBack, if_neg hsend.1] at hmem
    cases hmem
  · exact hsend

/-- A run whose accounts are balanced at every boundary sends no chain to an adapter. -/
theorem no_send_of_accounts {held : AX25Adapter → List Pointer} {ops : List Op} {d₀ : Driver}
    (hv : Runs.Along (step hdr) SendValid d₀ ops)
    (hall : ∀ d, Runs.Visits (step hdr) d₀ ops d → sendLedger.Accounts d.log (heldCount held d)) :
    ∀ op ∈ ops, ¬op.SendsToAdapter := by
  have hstep : ∀ (d : Driver) (op : Op), True → SendValid d op →
      sendLedger.Accounts d.log (heldCount held d) →
      (∀ d', step hdr d op = .ok d' → sendLedger.Accounts d'.log (heldCount held d')) →
      ¬op.SendsToAdapter ∧ ∃ d', step hdr d op = .ok d' ∧ True := by
    intro d op _ hop hbefore hafter
    obtain ⟨d', h, hmoved, hadapters⟩ := @send_step hdr _ _ hop
    exact ⟨not_sendsToAdapter_of_accounts hbefore (hafter d' h) hmoved hadapters, d', h, trivial⟩
  exact Runs.forall_mem_of_visits hstep hv trivial hall

/-- A run conserves its lists, for some reading of what an adapter holds, exactly when it
sends no chain to an adapter. -/
theorem conserves_iff (hdr : NdisHeaders) (d₀ : Driver) (ops : List Op)
    (h₀ : sendLedger.Settled d₀.log) (hv : Runs.Along (step hdr) SendValid d₀ ops) :
    (∃ held, Conserves hdr d₀ ops held) ↔ ∀ op ∈ ops, ¬op.SendsToAdapter := by
  constructor
  · rintro ⟨held, hc⟩
    exact no_send_of_accounts hv hc.accounts
  · intro hops
    have hboth := hv.and (Runs.along_of_forall d₀ hops)
    refine ⟨fun _ => [], ?_⟩
    exact
      { accounts := fun d hd k => by
          have hsettled := settled_of_visits h₀ hv hops hd k
          have hnone : heldCount (fun _ => []) d k = 0 := by
            rw [heldCount, List.flatMap_eq_nil_iff.mpr fun _ _ => rfl, List.count_nil]
          rw [hnone, hsettled, Nat.add_zero]
        own := fun d p a hd ha k hk => by cases hk
        rejected := hboth.mono fun d op hop => by
          rintro context lists port flags d' rfl hstate h k
          obtain ⟨d₁, h₁, hmoved, -⟩ := @send_step hdr _ _ hop.1
          obtain rfl := Except.ok.inj (h.symm.trans h₁)
          rw [hmoved.given, Op.handedBack_eq_sent hop.2]
          rfl
        paused := hboth.mono fun d op hop => fun _ _ _ _ _ _ _ => rfl }

/-- The driver with one adapter up. -/
def withOneAdapter : List Op :=
  [load, bringUp 1 0x3000]

theorem conserves_without_context :
    ∃ d, Runs.run (step ndis620) .initial withOneAdapter = .ok d ∧
      ∃ held, Conserves ndis620 d [.callback (.restart 0x3000 0x500),
        .callback (.sendNetBufferLists nullptr [0x9000, 0x9100] 0 1)] held := by
  refine ⟨_, rfl, (conserves_iff ndis620 _ _ (fun _ => rfl) (by decide)).mpr ?_⟩
  simp [Op.SendsToAdapter]

/-- A list sent to a running adapter is lost : nothing is called, and memory is as before. -/
theorem not_conserves_send :
    ∃ d₀ d, Runs.run (step ndis620) .initial withOneAdapter = .ok d₀ ∧
      Runs.Along (step ndis620) SendValid d₀ [.callback (.restart 0x3000 0x500),
        .callback (.sendNetBufferLists 0x3000 [0x9000] 0 0)] ∧
      Runs.run (step ndis620) d₀ [.callback (.restart 0x3000 0x500),
        .callback (.sendNetBufferLists 0x3000 [0x9000] 0 0)] = .ok d ∧
      sendLedger.taken d.log 0x9000 = 1 ∧ sendLedger.given d.log 0x9000 = 0 ∧
      ¬∃ held, Conserves ndis620 d₀ [.callback (.restart 0x3000 0x500),
        .callback (.sendNetBufferLists 0x3000 [0x9000] 0 0)] held := by
  refine ⟨_, _, rfl, by decide, rfl, rfl, rfl, ?_⟩
  rintro ⟨held, hc⟩
  exact no_send_of_accounts (by decide) hc.accounts _ (List.mem_cons_of_mem _ List.mem_cons_self)
    ⟨by decide, by decide⟩

end VirtualAX25
