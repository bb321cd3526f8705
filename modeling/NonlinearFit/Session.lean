import NonlinearFit.Problem.Solve

/-!
# Sessions

A `Session` is a number of problems that share one gate. A `Step` works on one problem: it replaces
data, hands options on, exchanges evaluator or routine, or solves. `Session.step` runs a step and
reports its answer and the events on the way; `Session.run` runs a list of them.
-/

namespace NonlinearFit

/-- Where a solve starts. -/
inductive StartingPoint where
  | given (x₀ : Array Float)
  /-- The point where the last solve ended. -/
  | current

/-- A step on a problem with evaluators from `ε` and routines from `ρ`. -/
inductive Step (ε ρ : Type) where
  | setBounds (lower upper : Array Float)
  | setLower (v : Array Float)
  | setUpper (v : Array Float)
  | setBound (i : Nat) (lower upper : Float)
  | setLinear {r c : Nat} (m : Matrix r c)
  | setJacobian {r c : Nat} (m : Matrix r c)
  | setHessian {r c : Nat} (m : Matrix r c)
  | setMultipliers (v : Array Float)
  | setState (v : Array Integer)
  | warmStart
  | configure (line : String)
  | adopt (o : Options)
  | changeEvaluator (f : ε → ε)
  | changeRoutine (f : ρ → ρ)
  /-- Solves, on a thread of its own if `elsewhere`. -/
  | solve (start : StartingPoint) (elsewhere : Bool)

/-- The answer to a step. -/
inductive Answer where
  | done
  | refused (e : Refusal)
  | inadmissible (e : OptionError)
  | solved (o : Outcome)

/-- The thread on which steps run. -/
def mainThread : Thread := 0

/-- Another thread than `t`. -/
def otherThread (t : Thread) : Thread := t + 1

/-- A step's answer with the problem, the gate and the events afterwards. -/
structure Stepped (ω : Type) (d : Dimensions) (ε ρ : Type) where
  answer : Answer
  problem : Problem d ε ρ
  gate : Gate Thread
  events : Array (Event ω)

namespace Problem

variable {ω : Type} {d : Dimensions} {ε ρ : Type}

/-- Replaces the data, if that is not refused. -/
def update (p : Problem d ε ρ) (g : Gate Thread) (s : Except Refusal (Store d)) :
    Stepped ω d ε ρ :=
  match s with
  | .ok store => ⟨.done, { p with store }, g, #[]⟩
  | .error e => ⟨.refused e, p, g, #[]⟩

/-- The starting point as data. -/
def resolve (p : Problem d ε ρ) : StartingPoint → Array Float
  | .given x₀ => x₀
  | .current => p.store.point.received.toArray

/-- Runs one step. -/
def step [Evaluator ω ε] [Routine ω ρ] (p : Problem d ε ρ) (g : Gate Thread) :
    Step ε ρ → Stepped ω d ε ρ
  | .setBounds lower upper => p.update g (p.store.setBounds lower upper)
  | .setLower v => p.update g (p.store.setLower v)
  | .setUpper v => p.update g (p.store.setUpper v)
  | .setBound i lower upper => p.update g (p.store.setBound i lower upper)
  | .setLinear m => p.update g (p.store.setLinear m)
  | .setJacobian m => p.update g (p.store.setJacobian m)
  | .setHessian m => p.update g (p.store.setHessian m)
  | .setMultipliers v => p.update g (p.store.setMultipliers v)
  | .setState v => p.update g (p.store.setState v)
  | .warmStart => p.update g (.ok p.store.warmStart)
  | .configure line =>
    let (p, events) := p.configure line
    ⟨.done, p, g, events⟩
  | .adopt o =>
    match p.adopt o with
    | .ok (p, events) => ⟨.done, p, g, events⟩
    | .error e => ⟨.inadmissible e, p, g, #[]⟩
  | .changeEvaluator f => ⟨.done, { p with evaluator := f p.evaluator }, g, #[]⟩
  | .changeRoutine f => ⟨.done, { p with routine := f p.routine }, g, #[]⟩
  | .solve start elsewhere =>
    let t := if elsewhere then otherThread mainThread else mainThread
    let s := p.solve g t (p.resolve start)
    ⟨.solved s.outcome, s.problem, s.gate, s.events⟩

end Problem

/-- A problem of any dimensions. -/
structure AnyProblem (ε ρ : Type) where
  dims : Dimensions
  problem : Problem dims ε ρ

/-- Problems that share a gate. -/
structure Session (ε ρ : Type) where
  gate : Gate Thread
  problems : List (AnyProblem ε ρ)

/-- What a session is asked to do: a step on one of its problems, or a stray callback. -/
inductive Command (ε ρ : Type) where
  | step (problem : Nat) (s : Step ε ρ)
  | stray (c : StrayCall)

/-- What a session reports. -/
inductive Report where
  | answered (a : Answer)
  | strayed (r : StrayReturn)
  | noProblem

namespace Session

variable {ω ε ρ : Type}

/-- Problems before any step. -/
def start (problems : List (AnyProblem ε ρ)) : Session ε ρ := ⟨.vacant, problems⟩

/-- Whether a solve is in flight. -/
def busy (s : Session ε ρ) : Bool := s.gate.claimed

/-- Runs one command. -/
def step [Evaluator ω ε] [Routine ω ρ] (s : Session ε ρ) :
    Command ε ρ → Report × Array (Event ω) × Session ε ρ
  | .step i a =>
    match s.problems[i]? with
    | none => (.noProblem, #[], s)
    | some ⟨d, p⟩ =>
      let r := p.step (ω := ω) s.gate a
      (.answered r.answer, r.events, ⟨r.gate, s.problems.set i ⟨d, r.problem⟩⟩)
  | .stray c =>
    match c.answer? s.gate mainThread with
    | some (r, t) => (.strayed r, #[.trace t], s)
    | none => (.noProblem, #[], s)

/-- Runs commands one after the other. -/
def run [Evaluator ω ε] [Routine ω ρ] (s : Session ε ρ) :
    List (Command ε ρ) → List (Report × Array (Event ω)) × Session ε ρ
  | [] => ([], s)
  | c :: rest =>
    let (report, events, s) := s.step c
    let (others, s) := s.run rest
    ((report, events) :: others, s)

end Session

end NonlinearFit
