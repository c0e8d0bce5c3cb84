import Mathlib.Data.List.Count

/-!
# Ledgers of taken and given units

A log of events moves units of some resource : an event takes a list of units and gives
a list of units back. A ledger says which. `Accounts log held` is the conservation law :
of each unit, as many were taken as were given back and are held. It is kept by a take
that adds to what is held (`Accounts.take`), by a give that removes from it
(`Accounts.give`), and by events that move nothing (`Accounts.idle`).

`Moved log log' ts gs` says what a stretch of the log moves : from `log` to `log'` the
units `ts` were taken and the units `gs` were given back.

A ledger is settled when every unit taken was given back; with the conservation law
that says nothing is held (`Accounts.settled_iff`).
-/

/-- The units each event takes and gives. -/
structure Ledger (ε κ : Type*) where
  takes : ε → List κ
  gives : ε → List κ

namespace Ledger

variable {ε κ : Type*} [DecidableEq κ] (L : Ledger ε κ)

/-- How often the log takes the unit `k`. -/
def taken (log : List ε) (k : κ) : ℕ :=
  (log.flatMap L.takes).count k

/-- How often the log gives the unit `k` back. -/
def given (log : List ε) (k : κ) : ℕ :=
  (log.flatMap L.gives).count k

/-- Of each unit, as many were taken as were given back and are held. -/
def Accounts (log : List ε) (held : κ → ℕ) : Prop :=
  ∀ k, L.taken log k = L.given log k + held k

/-- Every unit was given back as often as it was taken. -/
def Settled (log : List ε) : Prop :=
  ∀ k, L.taken log k = L.given log k

variable {L} {log : List ε} {e : ε} {held held' : κ → ℕ}

@[simp] theorem taken_nil (k : κ) : L.taken [] k = 0 :=
  rfl

@[simp] theorem given_nil (k : κ) : L.given [] k = 0 :=
  rfl

@[simp] theorem taken_cons (e : ε) (log : List ε) (k : κ) :
    L.taken (e :: log) k = (L.takes e).count k + L.taken log k := by
  simp [taken]

@[simp] theorem given_cons (e : ε) (log : List ε) (k : κ) :
    L.given (e :: log) k = (L.gives e).count k + L.given log k := by
  simp [given]

/-! ## Stretches of the log -/

variable (L) in
/-- From `log` to `log'`, `ts` was taken and `gs` was given back. -/
structure Moved (log log' : List ε) (ts gs : List κ) : Prop where
  taken : ∀ k, L.taken log' k = L.taken log k + ts.count k
  given : ∀ k, L.given log' k = L.given log k + gs.count k

/-- Events added to the log move what they take and give. -/
theorem Moved.of_append {log' : List ε} {ts gs : List κ} (es : List ε)
    (hlog : log' = es ++ log) (ht : es.flatMap L.takes = ts) (hg : es.flatMap L.gives = gs) :
    L.Moved log log' ts gs where
  taken k := by
    rw [hlog, Ledger.taken, List.flatMap_append, List.count_append, ht, Nat.add_comm]
    rfl
  given k := by
    rw [hlog, Ledger.given, List.flatMap_append, List.count_append, hg, Nat.add_comm]
    rfl

/-! ## Accounts -/

/-- An event that moves nothing keeps the account. -/
theorem Accounts.idle (h : L.Accounts log held) (ht : L.takes e = []) (hg : L.gives e = []) :
    L.Accounts (e :: log) held := by
  intro k
  simp [ht, hg, h k]

/-- Units taken are held from then on. -/
theorem Accounts.take (h : L.Accounts log held) (hg : L.gives e = [])
    (hheld : ∀ k, held' k = held k + (L.takes e).count k) : L.Accounts (e :: log) held' := by
  intro k
  simp only [taken_cons, given_cons, hg, List.count_nil, h k, hheld k]
  omega

/-- Units given back are held no more. -/
theorem Accounts.give (h : L.Accounts log held) (ht : L.takes e = [])
    (hheld : ∀ k, held' k + (L.gives e).count k = held k) : L.Accounts (e :: log) held' := by
  intro k
  simp only [taken_cons, given_cons, ht, List.count_nil, h k]
  have := hheld k
  omega

/-- Under the conservation law, everything was given back exactly when nothing is held. -/
theorem Accounts.settled_iff (h : L.Accounts log held) : L.Settled log ↔ ∀ k, held k = 0 := by
  refine forall_congr' fun k => ?_
  have := h k
  omega

end Ledger
