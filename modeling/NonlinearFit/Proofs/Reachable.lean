import NonlinearFit.Session
import NonlinearFit.Proofs.Solving

/-!
# Reachable sessions

A session is reachable when it comes from new problems by commands (`Session.Reachable`). Whatever
one command preserves holds of all reachable sessions.

**The gate.** Every command leaves the gate as it found it (`gate_step`): all but solves do not
touch it, and a solve leaves it on every way out. So between commands no solve is in flight
(`gate_run`, `Reachable.gate`).
-/

namespace NonlinearFit

variable {ω : Type} {d : Dimensions} {ε ρ : Type}

theorem Problem.gate_update (p : Problem d ε ρ) (g : Gate Thread) (s : Except Refusal (Store d)) :
    (p.update (ω := ω) g s).gate = g := by
  cases s <;> rfl

variable [Evaluator ω ε] [Routine ω ρ]

/-- **A step leaves the gate as it found it.** -/
theorem Problem.gate_step (p : Problem d ε ρ) (g : Gate Thread) (a : Step ε ρ) :
    (p.step (ω := ω) g a).gate = g := by
  cases a with
  | solve start elsewhere => exact p.solve_gate g _ _
  | adopt o =>
    simp only [step]
    split <;> rfl
  | configure | changeEvaluator | changeRoutine => rfl
  | _ => exact p.gate_update g _

namespace Session

theorem gate_step (s : Session ε ρ) (c : Command ε ρ) : (s.step (ω := ω) c).2.2.gate = s.gate := by
  cases c with
  | step i a =>
    simp only [step]
    split
    · rfl
    · next d p _ => exact p.gate_step s.gate a
  | stray c =>
    simp only [step]
    split <;> rfl

theorem gate_run (s : Session ε ρ) (commands : List (Command ε ρ)) :
    (s.run (ω := ω) commands).2.gate = s.gate := by
  induction commands generalizing s with
  | nil => rfl
  | cons c rest ih =>
    show ((s.step (ω := ω) c).2.2.run (ω := ω) rest).2.gate = s.gate
    rw [ih, gate_step]

/-- Sessions that come from new problems by commands. -/
inductive Reachable (ω : Type) {ε ρ : Type} [Evaluator ω ε] [Routine ω ρ] : Session ε ρ → Prop
  | start {problems : List (AnyProblem ε ρ)}
    (new : ∀ P ∈ problems, P.problem = .new P.dims P.problem.evaluator P.problem.routine) :
    Reachable ω (.start problems)
  | step {s : Session ε ρ} (hs : Reachable ω s) (c : Command ε ρ) :
    Reachable ω (s.step (ω := ω) c).2.2

theorem Reachable.run {s : Session ε ρ} (hs : s.Reachable ω) (commands : List (Command ε ρ)) :
    (s.run (ω := ω) commands).2.Reachable ω := by
  induction commands generalizing s with
  | nil => exact hs
  | cons c rest ih => exact ih (hs.step c)

/-- **Between commands no solve is in flight.** -/
theorem Reachable.gate {s : Session ε ρ} (hs : s.Reachable ω) : s.gate = .vacant := by
  induction hs with
  | start => rfl
  | step hs c ih => rw [gate_step, ih]

end Session

end NonlinearFit
