/-!
# The gate

The routine is not re-entrant and its callbacks carry no context, so at most one solve may be in
flight. A `Gate` is the state that enforces this: a flag shared by all threads and, for each
thread, the solve whose evaluator serves callbacks on that thread.

**Steps.** Entering looks whether the own thread already serves a solve, claims the flag, and
publishes the solve; leaving withdraws it and frees the flag. `Gate.enter?` and `Gate.leave` put
these steps together.

An entry is refused exactly when the thread serves a solve or the flag is claimed
(`enter?_eq_none_iff`), and leaving undoes entering (`leave_of_enter`).
-/

namespace NonlinearFit

/-- A thread of execution. -/
abbrev Thread := Nat

/-- Which solve is in flight. Solves are named by values of `σ`. -/
@[ext]
structure Gate (σ : Type) where
  /-- Whether a solve is in flight on some thread. -/
  claimed : Bool
  /-- The solve that serves callbacks on each thread. -/
  serving : Thread → Option σ

namespace Gate

variable {σ : Type}

/-- No solve in flight. -/
def vacant : Gate σ := ⟨false, fun _ => none⟩

/-! ## Steps -/

/-- Claims the flag if it is free. -/
def claim? (g : Gate σ) : Option (Gate σ) :=
  if g.claimed then none else some { g with claimed := true }

/-- Makes `s` serve callbacks on thread `t`. -/
def publish (g : Gate σ) (t : Thread) (s : σ) : Gate σ :=
  { g with serving := fun t' => if t' = t then some s else g.serving t' }

/-- Makes no solve serve callbacks on thread `t`. -/
def withdraw (g : Gate σ) (t : Thread) : Gate σ :=
  { g with serving := fun t' => if t' = t then none else g.serving t' }

/-- Frees the flag. -/
def free (g : Gate σ) : Gate σ := { g with claimed := false }

/-! ## Entering and leaving -/

/-- Lets the solve `s` in on thread `t`, unless one is in flight. -/
def enter? (g : Gate σ) (t : Thread) (s : σ) : Option (Gate σ) :=
  if (g.serving t).isSome then none else (g.claim?).map (·.publish t s)

def leave (g : Gate σ) (t : Thread) : Gate σ := (g.withdraw t).free

@[simp]
theorem serving_publish (g : Gate σ) (t : Thread) (s : σ) : (g.publish t s).serving t = some s := by
  simp [publish]

theorem enter?_eq_some_iff {g g' : Gate σ} {t : Thread} {s : σ} :
    g.enter? t s = some g' ↔
      g.serving t = none ∧ g.claimed = false ∧ g' = { g with claimed := true }.publish t s := by
  unfold enter? claim?
  cases h : g.serving t <;> cases h' : g.claimed <;> simp [eq_comm]

theorem enter?_eq_none_iff {g : Gate σ} {t : Thread} {s : σ} :
    g.enter? t s = none ↔ (g.serving t).isSome ∨ g.claimed = true := by
  unfold enter? claim?
  cases h : g.serving t <;> cases h' : g.claimed <;> simp

/-- Leaving after entering gives back the gate as it was. -/
theorem leave_of_enter {g g' : Gate σ} {t : Thread} {s : σ} (h : g.enter? t s = some g') :
    g'.leave t = g := by
  obtain ⟨h₁, h₂, rfl⟩ := enter?_eq_some_iff.mp h
  refine Gate.ext ?_ (funext fun t' => ?_)
  · simp [leave, free, withdraw, publish, h₂]
  · by_cases ht : t' = t
    · subst ht; simp [leave, free, withdraw, publish, h₁]
    · simp [leave, free, withdraw, publish, ht]

end Gate

end NonlinearFit
