import NonlinearFit.Options.Basic
import NonlinearFit.Problem.Store
import NonlinearFit.Service

/-!
# Solving a problem

A `Problem d ε ρ` owns its data, an evaluator and a routine.

**A solve** is admitted at the gate, prepares the buffers, runs the routine with the evaluator
serving its callbacks, leaves the gate, and makes the results readable. A refused solve changes
nothing.

**Panics.** A panic of the evaluator is kept until the results are stored and then ends the solve.
A panic of the routine ends it at once: the buffers it was lent stay as it left them, and nothing
is collected. Either way the gate is left.
-/

namespace NonlinearFit

/-- What a panic came from, and its text. -/
inductive Panic where
  | evaluator (payload : String)
  | routine (payload : String)
  | layout (m : LayoutMismatch)
deriving DecidableEq, Repr

def Panic.message : Panic → String
  | evaluator payload | routine payload => payload
  | layout m => m.message

/-- How a solve ends. -/
inductive Outcome where
  /-- The routine returned with this status. -/
  | finished (status : Status)
  | refused (e : Refusal)
  | panicked (p : Panic)
deriving DecidableEq, Repr

/-- A problem with its evaluator and its routine. -/
@[ext]
structure Problem (d : Dimensions) (ε ρ : Type) where
  evaluator : ε
  routine : ρ
  store : Store d

/-- A solve's outcome with the problem, the gate and the events afterwards. -/
structure Solved (ω : Type) (d : Dimensions) (ε ρ : Type) where
  outcome : Outcome
  problem : Problem d ε ρ
  gate : Gate Thread
  events : Array (Event ω)

namespace Problem

variable {ω : Type} {d : Dimensions} {ε ρ : Type}

/-- A new problem. -/
def new (d : Dimensions) (evaluator : ε) (routine : ρ) : Problem d ε ρ :=
  ⟨evaluator, routine, .new d⟩

/-! ## Options -/

/-- Hands one option line to the routine. -/
def configure [Routine ω ρ] (p : Problem d ε ρ) (line : String) :
    Problem d ε ρ × Array (Event ω) :=
  let (routine, notes) := Routine.configure p.routine line
  ({ p with routine }, #[.trace (.forwardingOption line)] ++ (notes.map .note).toArray)

/-- Hands option lines to the routine, one after the other. -/
def configureAll [Routine ω ρ] (p : Problem d ε ρ) :
    List String → Problem d ε ρ × Array (Event ω)
  | [] => (p, #[])
  | line :: rest =>
    let (p, first) := p.configure line
    let (p, others) := p.configureAll rest
    (p, first ++ others)

/-- Hands all options to the routine, if they are admissible. -/
def adopt [Routine ω ρ] (p : Problem d ε ρ) (o : Options) :
    Except OptionError (Problem d ε ρ × Array (Event ω)) := do
  o.check
  return p.configureAll o.lines

/-! ## Solving -/

/-- The service of a solve's callbacks at its beginning. -/
def service (p : Problem d ε ρ) : Service ε d.nonlinear d.unknowns where
  evaluator := p.evaluator
  scratch := .zeros ..
  panic := none

/-- Runs the routine on prepared buffers. -/
def call [Evaluator ω ε] [Routine ω ρ] (p : Problem d ε ρ) (f : Flight) (lent : Store d) :
    Departure d ρ × Serving ω ε d.nonlinear d.unknowns :=
  (Routine.solve p.routine f.thread d.counts lent.arguments).run (Serving.answer f)
    ⟨p.service, #[.trace (.callingRoutine d)]⟩

/-- Ends a solve whose routine has ended. -/
def conclude (g : Gate Thread) (lent : Store d) (left : Departure d ρ)
    (s : Serving ω ε d.nonlinear d.unknowns) : Solved ω d ε ρ :=
  let store := lent.takeBack left.arguments
  let ended (outcome : Outcome) (store : Store d) (events : Array (Event ω)) : Solved ω d ε ρ :=
    ⟨outcome, ⟨s.service.evaluator, left.routine, store⟩, g, events⟩
  match left.panic with
  | some payload => ended (.panicked (.routine payload)) store s.events
  | none =>
    let status : Status := ⟨left.arguments.status⟩
    let iterations := left.arguments.iterations
    match store.collect status iterations with
    | .error m => ended (.panicked (.layout m)) store s.events
    | .ok store =>
      let events := s.events.push (.trace (.routineReturned status iterations store.objective))
      match s.service.panic with
      | some payload => ended (.panicked (.evaluator payload)) store events
      | none => ended (.finished status) store events

/-- Solves the problem from `x₀` on thread `t`. -/
def solve [Evaluator ω ε] [Routine ω ρ] (p : Problem d ε ρ) (g : Gate Thread) (t : Thread)
    (x₀ : Array Float) : Solved ω d ε ρ :=
  match h : g.grant t d x₀ with
  | .error e => ⟨.refused e, p, g, #[]⟩
  | .ok g' =>
    match p.store.lend ⟨x₀, Gate.size_of_grant h⟩ with
    | .error m => ⟨.panicked (.layout m), p, g'.leave t, #[]⟩
    | .ok lent =>
      let (left, serving) := p.call (Flight.ofGrant h) lent
      conclude (g'.leave t) lent left serving

end Problem

end NonlinearFit
