import NonlinearFit.Linkage
import NonlinearFit.Proofs.Solving
import Mathlib.Tactic.SplitIfs

/-!
# Evaluators and routines that act alike

A map `φ` between types of evaluators *simulates* when `φ e` answers every request as `e` does, with
what `e` becomes seen through `φ`. For routines a map `ψ` simulates when `ψ r` runs the program of
`r`.

**Views.** A `View` shows evaluators through a map and may hide notes. Serving an evaluator that is
shown gives what serving the one behind it gives, as far as it is seen (`answerObjective_seen`,
`answerConstraints_seen`). A map without anything hidden is the view `View.full`.

**Solves.** A solve of a problem seen through simulating maps is the solve of the problem, seen
through them (`Problem.solve_map`): same outcome, same data, same gate, same events. So a solve
knows of its evaluator and its routine only how they act. The dialogue is the same as well
(`Problem.dialogue_map`).
-/

namespace NonlinearFit

variable {ω : Type} {d : Dimensions} {ε ε' ρ ρ' : Type}

/-! ## Simulating maps -/

/-- Evaluators seen through `φ` answer as they do. -/
structure Evaluator.Simulates (ω : Type) {ε ε' : Type} [Evaluator ω ε] [Evaluator ω ε']
    (φ : ε → ε') : Prop where
  objective (f : Flight) (e : ε) (t : Thread) (r : ObjectiveRequest) (events : Array (Event ω)) :
    Serving.consult f (Evaluator.objective (φ e) t r) events =
      ((Serving.consult f (Evaluator.objective e t r) events).1.map φ,
        (Serving.consult f (Evaluator.objective e t r) events).2)
  constraints (f : Flight) (e : ε) (t : Thread) (r : ConstraintRequest)
    (events : Array (Event ω)) :
    Serving.consult f (Evaluator.constraints (φ e) t r) events =
      ((Serving.consult f (Evaluator.constraints e t r) events).1.map φ,
        (Serving.consult f (Evaluator.constraints e t r) events).2)

/-- Routines seen through `ψ` take the same option lines in the same way and run the same programs
when they are told the sizes of the problem. -/
structure Routine.Simulates (ω : Type) {ρ ρ' : Type} [Routine ω ρ] [Routine ω ρ']
    (ψ : ρ → ρ') : Prop where
  configure (r : ρ) {line : String} (h : Storable line) :
    Routine.configure (ω := ω) (ψ r) line = (Routine.configure r line).map ψ id
  solve {d : Dimensions} (r : ρ) (t : Thread) (a : Arguments d) :
    Routine.solve (ω := ω) (ψ r) t d.counts a =
      (Routine.solve r t d.counts a).map (Departure.map ψ)

/-! ## Views -/

/-- A way to see evaluators and events. Not every note has to be seen, but trace events are, as they
come. -/
structure View (ω ε ε' : Type) where
  evaluator : ε → ε'
  events : Array (Event ω) → Array (Event ω)
  events_push (es : Array (Event ω)) (t : Trace) :
    events (es.push (.trace t)) = (events es).push (.trace t)

namespace View

/-- Evaluators seen through `φ`, and all events. -/
def full (φ : ε → ε') : View ω ε ε' := ⟨φ, id, fun _ _ => rfl⟩

/-- The evaluator that is seen answers as the one behind it, as far as events are seen. -/
structure Shows [Evaluator ω ε] [Evaluator ω ε'] (v : View ω ε ε') : Prop where
  objective (f : Flight) (e : ε) (t : Thread) (r : ObjectiveRequest) (events : Array (Event ω)) :
    Serving.consult f (Evaluator.objective (v.evaluator e) t r) (v.events events) =
      ((Serving.consult f (Evaluator.objective e t r) events).1.map v.evaluator,
        v.events (Serving.consult f (Evaluator.objective e t r) events).2)
  constraints (f : Flight) (e : ε) (t : Thread) (r : ConstraintRequest)
    (events : Array (Event ω)) :
    Serving.consult f (Evaluator.constraints (v.evaluator e) t r) (v.events events) =
      ((Serving.consult f (Evaluator.constraints e t r) events).1.map v.evaluator,
        v.events (Serving.consult f (Evaluator.constraints e t r) events).2)

end View

theorem Evaluator.Simulates.shows [Evaluator ω ε] [Evaluator ω ε'] {φ : ε → ε'}
    (hφ : Evaluator.Simulates ω φ) : (View.full (ω := ω) φ).Shows :=
  ⟨hφ.objective, hφ.constraints⟩

/-! ## Serving through a view -/

namespace Serving

theorem consult_map {α β : Type} (f : Flight) (h : α → β) (p : Inquiring ω α)
    (events : Array (Event ω)) :
    consult f (p.map h) events = (h (consult f p events).1, (consult f p events).2) :=
  Program.run_map _ h p events

variable {rows cols : Nat}

/-- The serving as `v` shows it. -/
def seen (v : View ω ε ε') (s : Serving ω ε rows cols) : Serving ω ε' rows cols :=
  ⟨⟨v.evaluator s.service.evaluator, s.service.scratch, s.service.panic⟩, v.events s.events⟩

/-- The serving with the evaluator seen through `φ`. -/
def map (φ : ε → ε') (s : Serving ω ε rows cols) : Serving ω ε' rows cols :=
  ⟨⟨φ s.service.evaluator, s.service.scratch, s.service.panic⟩, s.events⟩

theorem seen_record (v : View ω ε ε') (s : Serving ω ε rows cols) (t : Trace) :
    (s.record t).seen v = (s.seen v).record t := by
  simp only [seen, record, v.events_push]

theorem seen_recordPanic (v : View ω ε ε') (s : Serving ω ε rows cols) (payload : String) :
    (s.recordPanic payload).seen v = (s.seen v).recordPanic payload :=
  seen_record v _ .evaluatorPanicked

section

variable [Evaluator ω ε] [Evaluator ω ε'] {v : View ω ε ε'} (hv : v.Shows)

include hv

theorem serveObjective_seen (f : Flight) (c : ObjectiveCall) (s : Serving ω ε rows cols) :
    serveObjective f c (s.seen v) =
      ((serveObjective f c s).1, (serveObjective f c s).2.seen v) := by
  unfold serveObjective
  simp only [show (s.seen v).service.panic = s.service.panic from rfl]
  split_ifs
  · rfl
  · simp only [show (s.seen v).service.evaluator = v.evaluator s.service.evaluator from rfl,
      show (s.seen v).events = v.events s.events from rfl, hv.objective, Reply.map]
    split
    · rfl
    · rw [seen_recordPanic]
      rfl

theorem evaluateConstraints_seen (f : Flight) (c : ConstraintCall) (jacobian : Matrix rows cols)
    (s : Serving ω ε rows cols) :
    evaluateConstraints f c jacobian (s.seen v) =
      ((evaluateConstraints f c jacobian s).1, (evaluateConstraints f c jacobian s).2.seen v) := by
  unfold evaluateConstraints
  simp only [show (s.seen v).service.evaluator = v.evaluator s.service.evaluator from rfl,
    show (s.seen v).events = v.events s.events from rfl, hv.constraints, Reply.map]
  split
  · rw [seen_recordPanic]
    rfl
  · split
    · rw [seen_record]
      rfl
    · rfl

theorem serveConstraints_seen (f : Flight) (c : ConstraintCall) (s : Serving ω ε rows cols) :
    serveConstraints f c (s.seen v) =
      ((serveConstraints f c s).1, (serveConstraints f c s).2.seen v) := by
  unfold serveConstraints
  simp only [show (s.seen v).service.panic = s.service.panic from rfl]
  split_ifs
  · rfl
  · rw [seen_record]
  · cases Matrix.gather rows cols c.stride.toCount (jacobianBuffer c) with
    | error e =>
      dsimp only
      rw [seen_record]
    | ok jacobian => exact evaluateConstraints_seen hv f c jacobian s

theorem answerObjective_seen (f : Flight) (c : ObjectiveCall) (s : Serving ω ε rows cols) :
    answerObjective f c (s.seen v) =
      ((answerObjective f c s).1, (answerObjective f c s).2.seen v) := by
  unfold answerObjective
  cases f.gate.serving c.thread with
  | none =>
    dsimp only
    rw [seen_record]
  | some _ => exact serveObjective_seen hv f c s

theorem answerConstraints_seen (f : Flight) (c : ConstraintCall) (s : Serving ω ε rows cols) :
    answerConstraints f c (s.seen v) =
      ((answerConstraints f c s).1, (answerConstraints f c s).2.seen v) := by
  unfold answerConstraints
  cases f.gate.serving c.thread with
  | none =>
    dsimp only
    rw [seen_record]
  | some _ => exact serveConstraints_seen hv f c s

end

theorem answer_map [Evaluator ω ε] [Evaluator ω ε'] {φ : ε → ε'} (hφ : Evaluator.Simulates ω φ)
    (f : Flight) (q : Query ω) (s : Serving ω ε rows cols) :
    answer f q (s.map φ) = ((answer f q s).1, (answer f q s).2.map φ) := by
  cases q with
  | inquiry q => rfl
  | objective c => exact answerObjective_seen hφ.shows f c s
  | constraints c => exact answerConstraints_seen hφ.shows f c s

end Serving

/-! ## Solving through maps -/

/-- The problem with evaluator and routine seen through `φ` and `ψ`. -/
def Problem.map (φ : ε → ε') (ψ : ρ → ρ') (p : Problem d ε ρ) : Problem d ε' ρ' :=
  ⟨φ p.evaluator, ψ p.routine, p.store⟩

/-- A solve with evaluator and routine seen through `φ` and `ψ`. -/
def Solved.map (φ : ε → ε') (ψ : ρ → ρ') (s : Solved ω d ε ρ) : Solved ω d ε' ρ' :=
  ⟨s.outcome, s.problem.map φ ψ, s.gate, s.events⟩

/-- A solve as `v` shows it, with the routine seen through `ψ`. -/
def Solved.seen (v : View ω ε ε') (ψ : ρ → ρ') (s : Solved ω d ε ρ) : Solved ω d ε' ρ' :=
  ⟨s.outcome, s.problem.map v.evaluator ψ, s.gate, v.events s.events⟩

namespace Problem

theorem conclude_seen (v : View ω ε ε') (ψ : ρ → ρ') (g : Gate Thread) (lent : Store d)
    (left : Departure d ρ) (s : Serving ω ε d.nonlinear d.unknowns) :
    conclude g lent (left.map ψ) (s.seen v) = (conclude g lent left s).seen v ψ := by
  cases h : left.panic with
  | some payload =>
    have h' : (left.map ψ).panic = some payload := h
    rw [conclude_eq_of_panic h, conclude_eq_of_panic h']
    rfl
  | none =>
    have h' : (left.map ψ).panic = none := h
    rw [conclude_eq_of_return h, conclude_eq_of_return h', Solved.seen, v.events_push]
    rfl

variable [Evaluator ω ε] [Evaluator ω ε'] [Routine ω ρ] [Routine ω ρ'] {φ : ε → ε'} {ψ : ρ → ρ'}

theorem call_map (hφ : Evaluator.Simulates ω φ) (hψ : Routine.Simulates ω ψ) (p : Problem d ε ρ)
    (f : Flight) (lent : Store d) :
    (p.map φ ψ).call (ω := ω) f lent =
      ((p.call (ω := ω) f lent).1.map ψ, (p.call (ω := ω) f lent).2.map φ) := by
  show (Routine.solve (ψ p.routine) f.thread d.counts lent.arguments).run (Serving.answer f)
    (Serving.map φ ⟨p.service, #[.trace (.callingRoutine d)]⟩) = _
  rw [hψ.solve, Program.run_map, Program.run_simulated (Serving.answer_map hφ f)]
  rfl

/-- **A solve sees only how evaluator and routine act.** -/
theorem solve_map (hφ : Evaluator.Simulates ω φ) (hψ : Routine.Simulates ω ψ) (p : Problem d ε ρ)
    (g : Gate Thread) (t : Thread) (x₀ : Array Float) :
    (p.map φ ψ).solve (ω := ω) g t x₀ = (p.solve g t x₀).map φ ψ := by
  cases h : g.grant t d x₀ with
  | error e => rw [solve_refused _ h, solve_refused _ h]; rfl
  | ok g' =>
    rw [solve_granted _ h, solve_granted _ h]
    show conclude g _ ((p.map φ ψ).call (ω := ω) _ _).1 ((p.map φ ψ).call (ω := ω) _ _).2 = _
    rw [call_map hφ hψ]
    exact conclude_seen (.full φ) ψ _ _ _ _

/-- **The routine asks the same and gets the same answers.** -/
theorem dialogue_map (hφ : Evaluator.Simulates ω φ) (hψ : Routine.Simulates ω ψ)
    (p : Problem d ε ρ) (g : Gate Thread) (t : Thread) (x₀ : Array Float) :
    (p.map φ ψ).dialogue (ω := ω) g t x₀ = (p.dialogue g t x₀).map (Turn.map (Serving.map φ)) := by
  cases h : g.grant t d x₀ with
  | error e => rw [dialogue_refused _ h, dialogue_refused _ h]; rfl
  | ok g' =>
    rw [dialogue_granted _ h, dialogue_granted _ h,
      ← Program.dialogue_simulated (Serving.answer_map hφ _)]
    show (Routine.solve (ψ p.routine) _ _ _).dialogue _ _ = _
    rw [hψ.solve, Program.dialogue_map]
    rfl

end Problem

end NonlinearFit
