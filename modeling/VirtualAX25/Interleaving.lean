import VirtualAX25.Run

/-!
# Interleavings of independent cells

A system of cells holds a value in each, and an input changes the one it is addressed to,
by a step that reads no other (`cells`). A run of the system is one run in each cell : it
completes with the values `g` exactly if in each cell `k` the inputs addressed to `k`, in
their order, complete with `g k` (`run_cells_eq_ok_iff`). So two interleavings of the same
inputs do the same (`run_cells_congr`).
-/

namespace Runs

variable {κ α ι ε : Type*} [DecidableEq κ] {key : ι → κ} {loc : α → ι → Except ε α}

/-- The inputs addressed to the cell `k`, in order. -/
def addressed (key : ι → κ) (k : κ) (is : List ι) : List ι :=
  is.filter fun i => key i = k

/-- Take a step in the cell the input is addressed to. -/
def cells (key : ι → κ) (loc : α → ι → Except ε α) (f : κ → α) (i : ι) : Except ε (κ → α) :=
  (loc (f (key i)) i).map (Function.update f (key i))

theorem addressed_cons_self (i : ι) (is : List ι) :
    addressed key (key i) (i :: is) = i :: addressed key (key i) is := by
  simp [addressed]

theorem addressed_cons_of_ne {k : κ} {i : ι} (h : key i ≠ k) (is : List ι) :
    addressed key k (i :: is) = addressed key k is := by
  simp [addressed, h]

/-- A run of the cells is a run in each. -/
theorem run_cells_eq_ok_iff {is : List ι} {f g : κ → α} :
    run (cells key loc) f is = .ok g ↔ ∀ k, run loc (f k) (addressed key k is) = .ok (g k) := by
  induction is generalizing f with
  | nil => simp [run, addressed, funext_iff]
  | cons i is ih =>
    cases hi : loc (f (key i)) i with
    | error e =>
      have hstep : cells key loc f i = .error e := by
        rw [cells, hi]
        rfl
      refine iff_of_false ?_ fun h => ?_
      · simp [run, hstep, Except.bind]
      · have hk := h (key i)
        simp [addressed_cons_self, run, hi, Except.bind] at hk
    | ok a =>
      have hstep : cells key loc f i = .ok (Function.update f (key i) a) := by
        rw [cells, hi]
        rfl
      rw [run_cons_of_ok hstep, ih]
      refine forall_congr' fun k => ?_
      by_cases hk : key i = k
      · subst hk
        rw [Function.update_self, addressed_cons_self, run_cons_of_ok hi]
      · rw [Function.update_of_ne (Ne.symm hk), addressed_cons_of_ne hk]

/-- Inputs that are the same in each cell do the same. -/
theorem run_cells_congr {is is' : List ι} (h : ∀ k, addressed key k is = addressed key k is')
    {f g : κ → α} : run (cells key loc) f is = .ok g ↔ run (cells key loc) f is' = .ok g := by
  simp only [run_cells_eq_ok_iff, h]

end Runs
