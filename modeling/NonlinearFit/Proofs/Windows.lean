import NonlinearFit.Proofs.OptionLines
import NonlinearFit.Proofs.Setters
import NonlinearFit.Proofs.Simulation

/-!
# Sessions seen through windows

A `Window α β` shows a `β` inside an `α` and lets changes of it through. Windows stand one behind
the other (`Window.comp`).

**Steps.** What is asked of a problem that is seen can be asked of the problem that is there
(`Step.through`, `Command.through`); only changes of the evaluator or the routine have to go through
the windows.

**Runs.** When evaluator and routine are shown as they act, a step of the problem that is seen is
the step of the problem that is there, as seen (`Problem.step_map`). So is every run of a session
(`Session.run_map`): same reports, same events, and the same session in the end. Option lines have
to be storable, which those of options always are.
-/

namespace NonlinearFit

variable {ω : Type} {d : Dimensions} {ε ε' ρ ρ' : Type}

/-! ## Windows -/

/-- A part of each value that can be seen and changed. -/
structure Window (α β : Type) where
  see : α → β
  change : (β → β) → α → α
  see_change (f : β → β) (a : α) : see (change f a) = f (see a)

namespace Window

variable {α β γ : Type}

/-- The window that shows all. -/
def self : Window α α := ⟨id, id, fun _ _ => rfl⟩

/-- The window behind a window. -/
def comp (v : Window α β) (w : Window β γ) : Window α γ where
  see a := w.see (v.see a)
  change f := v.change (w.change f)
  see_change f a := by rw [v.see_change, w.see_change]

end Window

/-! ## Steps and commands -/

namespace Step

/-- The step on what is there that does what `a` does on what is seen. -/
def through (v : Window ε ε') (w : Window ρ ρ') (a : Step ε' ρ') : Step ε ρ :=
  match a with
  | setBounds lower upper => setBounds lower upper
  | setLower x => setLower x
  | setUpper x => setUpper x
  | setBound i lower upper => setBound i lower upper
  | setLinear m => setLinear m
  | setJacobian m => setJacobian m
  | setHessian m => setHessian m
  | setMultipliers x => setMultipliers x
  | setState x => setState x
  | warmStart => warmStart
  | configure line => configure line
  | adopt o => adopt o
  | changeEvaluator f => changeEvaluator (v.change f)
  | changeRoutine f => changeRoutine (w.change f)
  | solve start elsewhere => solve start elsewhere

/-- The option line that the step is given. -/
def line? : Step ε ρ → Option String
  | configure line => some line
  | _ => none

end Step

namespace Command

/-- The command on what is there that does what `c` does on what is seen. -/
def through (v : Window ε ε') (w : Window ρ ρ') (c : Command ε' ρ') : Command ε ρ :=
  match c with
  | step i a => step i (a.through v w)
  | stray c => stray c

/-- The option line that the command is given. -/
def line? : Command ε ρ → Option String
  | step _ a => a.line?
  | stray _ => none

theorem line?_through (v : Window ε ε') (w : Window ρ ρ') (c : Command ε' ρ') :
    (c.through v w).line? = c.line? := by
  cases c with
  | stray => rfl
  | step i a => cases a <;> rfl

end Command

/-! ## One problem -/

/-- A step with evaluator and routine seen through `φ` and `ψ`. -/
def Stepped.map (φ : ε → ε') (ψ : ρ → ρ') (r : Stepped ω d ε ρ) : Stepped ω d ε' ρ' :=
  ⟨r.answer, r.problem.map φ ψ, r.gate, r.events⟩

namespace Problem

theorem update_map (φ : ε → ε') (ψ : ρ → ρ') (p : Problem d ε ρ) (g : Gate Thread)
    (s : Except Refusal (Store d)) :
    (p.map φ ψ).update (ω := ω) g s = (p.update g s).map φ ψ := by
  cases s <;> rfl

section

variable [Routine ω ρ] [Routine ω ρ'] {φ : ε → ε'} {ψ : ρ → ρ'} (hψ : Routine.Simulates ω ψ)

include hψ

theorem configure_map (p : Problem d ε ρ) {line : String} (storable : Storable line) :
    (p.map φ ψ).configure (ω := ω) line =
      ((p.configure (ω := ω) line).1.map φ ψ, (p.configure line).2) := by
  have h := hψ.configure p.routine storable
  simp only [configure, map, h]
  rfl

theorem configureAll_map (p : Problem d ε ρ) {lines : List String}
    (storable : ∀ line ∈ lines, Storable line) :
    (p.map φ ψ).configureAll (ω := ω) lines =
      ((p.configureAll (ω := ω) lines).1.map φ ψ, (p.configureAll lines).2) := by
  induction lines generalizing p with
  | nil => rfl
  | cons line rest ih =>
    have hfirst := p.configure_map (φ := φ) hψ (storable line (List.mem_cons_self ..))
    have hrest := ih (p.configure (ω := ω) line).1
      fun line hline => storable line (List.mem_cons_of_mem _ hline)
    simp only [configureAll, hfirst, hrest]

end

variable [Evaluator ω ε] [Evaluator ω ε'] [Routine ω ρ] [Routine ω ρ'] {v : Window ε ε'}
  {w : Window ρ ρ'} (hv : Evaluator.Simulates ω v.see) (hw : Routine.Simulates ω w.see)

include hv hw

/-- **A step sees only how evaluator and routine act.** -/
theorem step_map (p : Problem d ε ρ) (g : Gate Thread) (a : Step ε' ρ')
    (storable : ∀ line ∈ a.line?, Storable line) :
    (p.map v.see w.see).step (ω := ω) g a =
      (p.step g (a.through v w)).map v.see w.see := by
  cases a with
  | configure line =>
    have h := p.configure_map (φ := v.see) hw (storable line rfl)
    simp only [step, Step.through, h]
    rfl
  | adopt o =>
    have h : (p.map v.see w.see).configureAll (ω := ω) o.lines = _ :=
      p.configureAll_map hw o.storable_lines
    cases hcheck : o.check with
    | error e =>
      rw [step_adopt_of_error _ g hcheck, Step.through, step_adopt_of_error _ g hcheck]
      rfl
    | ok _ =>
      rw [step_adopt_of_ok _ g hcheck, Step.through, step_adopt_of_ok _ g hcheck, h]
      rfl
  | changeEvaluator f =>
    have h : v.see (v.change f p.evaluator) = f (v.see p.evaluator) := v.see_change f p.evaluator
    simp only [step, Step.through, Stepped.map, map, h]
  | changeRoutine f =>
    have h : w.see (w.change f p.routine) = f (w.see p.routine) := w.see_change f p.routine
    simp only [step, Step.through, Stepped.map, map, h]
  | solve start elsewhere =>
    have hstart : (p.map v.see w.see).resolve start = p.resolve start := by cases start <;> rfl
    simp only [step, Step.through, hstart, solve_map hv hw]
    rfl
  | warmStart => exact p.update_map v.see w.see g (.ok p.store.warmStart)
  | _ => exact p.update_map v.see w.see g _

end Problem

/-! ## Sessions -/

/-- The problem with evaluator and routine seen through `φ` and `ψ`. -/
def AnyProblem.map (φ : ε → ε') (ψ : ρ → ρ') (P : AnyProblem ε ρ) : AnyProblem ε' ρ' :=
  ⟨P.dims, P.problem.map φ ψ⟩

namespace Session

/-- The session with all evaluators and routines seen through `φ` and `ψ`. -/
def map (φ : ε → ε') (ψ : ρ → ρ') (s : Session ε ρ) : Session ε' ρ' :=
  ⟨s.gate, s.problems.map (AnyProblem.map φ ψ)⟩

variable [Evaluator ω ε] [Evaluator ω ε'] [Routine ω ρ] [Routine ω ρ'] {v : Window ε ε'}
  {w : Window ρ ρ'} (hv : Evaluator.Simulates ω v.see) (hw : Routine.Simulates ω w.see)

include hv hw

theorem step_map (s : Session ε ρ) (c : Command ε' ρ')
    (storable : ∀ line ∈ c.line?, Storable line) :
    (s.map v.see w.see).step (ω := ω) c =
      ((s.step (ω := ω) (c.through v w)).1, (s.step (c.through v w)).2.1,
        (s.step (ω := ω) (c.through v w)).2.2.map v.see w.see) := by
  cases c with
  | stray c =>
    simp only [step, Command.through, map]
    cases c.answer? s.gate mainThread <;> rfl
  | step i a =>
    simp only [step, Command.through, map, List.getElem?_map]
    cases s.problems[i]? with
    | none => rfl
    | some P =>
      have h : (P.problem.map v.see w.see).step (ω := ω) s.gate a = _ :=
        P.problem.step_map hv hw s.gate a storable
      simp only [Option.map_some, AnyProblem.map, h, List.map_set]
      rfl

/-- **A run sees only how evaluators and routines act.** -/
theorem run_map (s : Session ε ρ) {commands : List (Command ε' ρ')}
    (storable : ∀ c ∈ commands, ∀ line ∈ c.line?, Storable line) :
    (s.map v.see w.see).run (ω := ω) commands =
      ((s.run (commands.map (·.through v w))).1,
        (s.run (ω := ω) (commands.map (·.through v w))).2.map v.see w.see) := by
  induction commands generalizing s with
  | nil => rfl
  | cons c rest ih =>
    have hfirst := s.step_map hv hw c (storable c (List.mem_cons_self ..))
    have hrest := ih (s.step (ω := ω) (c.through v w)).2.2
      fun c hc => storable c (List.mem_cons_of_mem _ hc)
    simp only [List.map_cons, run, hfirst, hrest]

end Session

end NonlinearFit
