import NonlinearFit.Proofs.History
import NonlinearFit.Proofs.RawStore

/-!
# No step meets a buffer of the wrong size

A `RawProblem` is a problem whose buffers are raw: its dimensions are what sizes are checked against,
and nothing but the checks keeps a buffer to its size. A step on it can fault.

**Steps.** If the buffers fit the dimensions, a step does not fault, whatever step it is and however
a solve ends. It does what it does on the problem with typed buffers (`Problem.raw_step`), and leaves
buffers that fit (`RawProblem.step_of_fits`).

**Runs.** So no run faults that begins with a new problem, whatever evaluator and routine do
(`Problem.raw_run`).

**Panics.** A panic that ends a solve is one of the evaluator or one of the routine
(`Problem.raised_of_panicked`).

Main result: `sizes_fixed`, for all dimensions and every list of steps.
-/

namespace NonlinearFit

variable {ω : Type} {d : Dimensions} {ε ρ : Type}

/-! ## Problems with raw buffers -/

/-- A problem whose buffers may have any sizes. -/
structure RawProblem (ε ρ : Type) where
  dims : Dimensions
  evaluator : ε
  routine : ρ
  store : RawStore

/-- A solve's outcome with the problem, the gate and the events afterwards. -/
structure RawSolved (ω ε ρ : Type) where
  outcome : Outcome
  problem : RawProblem ε ρ
  gate : Gate Thread
  events : Array (Event ω)

/-- A step's answer with the problem, the gate and the events afterwards. -/
structure RawStepped (ω ε ρ : Type) where
  answer : Answer
  problem : RawProblem ε ρ
  gate : Gate Thread
  events : Array (Event ω)

namespace RawProblem

/-- A new problem, with buffers of the sizes that its dimensions fix. -/
def new (d : Dimensions) (evaluator : ε) (routine : ρ) : RawProblem ε ρ :=
  ⟨d, evaluator, routine, .new d⟩

/-- Replaces the buffers, unless the data is refused. -/
def update (p : RawProblem ε ρ) (g : Gate Thread) : Checked RawStore → Checked (RawStepped ω ε ρ)
  | .ok store => .ok ⟨.done, { p with store }, g, #[]⟩
  | .error (.refused e) => .ok ⟨.refused e, p, g, #[]⟩
  | .error (.fault f) => .error (.fault f)

/-- Hands one option line to the routine. -/
def configure [Routine ω ρ] (p : RawProblem ε ρ) (line : String) :
    RawProblem ε ρ × Array (Event ω) :=
  let (routine, notes) := Routine.configure p.routine line
  ({ p with routine }, #[.trace (.forwardingOption line)] ++ (notes.map .note).toArray)

/-- Hands option lines to the routine, one after the other. -/
def configureAll [Routine ω ρ] (p : RawProblem ε ρ) :
    List String → RawProblem ε ρ × Array (Event ω)
  | [] => (p, #[])
  | line :: rest =>
    let (p, first) := p.configure line
    let (p, others) := p.configureAll rest
    (p, first ++ others)

/-- Ends a solve whose routine has ended. -/
def conclude (g : Gate Thread) (lent : RawStore) (left : Departure d ρ)
    (s : Serving ω ε d.nonlinear d.unknowns) : Checked (RawSolved ω ε ρ) := do
  let store ← lent.takeBack left.arguments
  let ended (outcome : Outcome) (store : RawStore) (events : Array (Event ω)) : RawSolved ω ε ρ :=
    ⟨outcome, ⟨d, s.service.evaluator, left.routine, store⟩, g, events⟩
  match left.panic with
  | some payload => return ended (.panicked (.routine payload)) store s.events
  | none =>
    let status : Status := ⟨left.arguments.status⟩
    let iterations := left.arguments.iterations
    let store ← store.collect status iterations
    let events := s.events.push (.trace (.routineReturned status iterations store.objective))
    match s.service.panic with
    | some payload => return ended (.panicked (.evaluator payload)) store events
    | none => return ended (.finished status) store events

section

variable [Evaluator ω ε] [Routine ω ρ]

/-- Runs the routine on what it receives. -/
def call (p : RawProblem ε ρ) (f : Flight) (received : Arguments p.dims) :
    Departure p.dims ρ × Serving ω ε p.dims.nonlinear p.dims.unknowns :=
  (Routine.solve p.routine f.thread p.dims.counts received).run (Serving.answer f)
    ⟨⟨p.evaluator, .zeros .., none⟩, #[.trace (.callingRoutine p.dims)]⟩

/-- Solves the problem from `x₀` on thread `t`. -/
def solve (p : RawProblem ε ρ) (g : Gate Thread) (t : Thread) (x₀ : Array Float) :
    Checked (RawSolved ω ε ρ) :=
  match h : g.grant t p.dims x₀ with
  | .error e => .ok ⟨.refused e, p, g, #[]⟩
  | .ok g' => do
    let lent ← p.store.lend x₀
    let received ← lent.arguments p.dims
    let (left, serving) := p.call (Flight.ofGrant h) received
    conclude (g'.leave t) lent left serving

/-- The starting point as data. -/
def resolve (p : RawProblem ε ρ) : StartingPoint → Array Float
  | .given x₀ => x₀
  | .current => p.store.point.received

/-- Runs one step. -/
def step (p : RawProblem ε ρ) (g : Gate Thread) : Step ε ρ → Checked (RawStepped ω ε ρ)
  | .setBounds lower upper => p.update g (p.store.setBounds p.dims lower upper)
  | .setLower v => p.update g (p.store.setLower p.dims v)
  | .setUpper v => p.update g (p.store.setUpper p.dims v)
  | .setBound i lower upper => p.update g (p.store.setBound p.dims i lower upper)
  | .setLinear m => p.update g (p.store.setLinear p.dims m.raw)
  | .setJacobian m => p.update g (p.store.setJacobian p.dims m.raw)
  | .setHessian m => p.update g (p.store.setHessian p.dims m.raw)
  | .setMultipliers v => p.update g (p.store.setMultipliers p.dims v)
  | .setState v => p.update g (p.store.setState p.dims v)
  | .warmStart => p.update g p.store.warmStart
  | .configure line =>
    let (p, events) := p.configure line
    .ok ⟨.done, p, g, events⟩
  | .adopt o =>
    match o.check with
    | .error e => .ok ⟨.inadmissible e, p, g, #[]⟩
    | .ok _ =>
      let (p, events) := p.configureAll o.lines
      .ok ⟨.done, p, g, events⟩
  | .changeEvaluator f => .ok ⟨.done, { p with evaluator := f p.evaluator }, g, #[]⟩
  | .changeRoutine f => .ok ⟨.done, { p with routine := f p.routine }, g, #[]⟩
  | .solve start elsewhere => do
    let t := if elsewhere then otherThread mainThread else mainThread
    let s ← p.solve g t (p.resolve start)
    return ⟨.solved s.outcome, s.problem, s.gate, s.events⟩

/-- The problem after some steps, each at a gate of its own, if none of them faults. -/
def run (ω : Type) {ε ρ : Type} [Evaluator ω ε] [Routine ω ρ] (p : RawProblem ε ρ) :
    List (Gate Thread × Step ε ρ) → Checked (RawProblem ε ρ)
  | [] => .ok p
  | (g, a) :: rest => do
    let r ← p.step (ω := ω) g a
    r.problem.run ω rest

end

end RawProblem

/-! ## Forgetting types -/

/-- The problem with the sizes of its buffers forgotten. -/
def Problem.raw (p : Problem d ε ρ) : RawProblem ε ρ := ⟨d, p.evaluator, p.routine, p.store.raw⟩

def Solved.raw (s : Solved ω d ε ρ) : RawSolved ω ε ρ :=
  ⟨s.outcome, s.problem.raw, s.gate, s.events⟩

def Stepped.raw (s : Stepped ω d ε ρ) : RawStepped ω ε ρ :=
  ⟨s.answer, s.problem.raw, s.gate, s.events⟩

/-- A problem whose buffers fit its dimensions is one with its types forgotten. -/
theorem RawProblem.eq_raw {p : RawProblem ε ρ} (h : p.store.Fits p.dims) :
    ∃ q : Problem p.dims ε ρ, p = q.raw := by
  obtain ⟨w, hw⟩ := RawStore.fits_iff.mp h
  refine ⟨⟨p.evaluator, p.routine, w⟩, ?_⟩
  simp only [Problem.raw, ← hw]

namespace Problem

/-! ## Steps -/

theorem raw_update (p : Problem d ε ρ) (g : Gate Thread) {s : Except Refusal (Store d)}
    {r : Checked RawStore} (h : r = Store.rawResult s) :
    p.raw.update (ω := ω) g r = .ok (p.update g s).raw := by
  subst h
  cases s <;> rfl

theorem raw_configureAll [Routine ω ρ] (p : Problem d ε ρ) (lines : List String) :
    p.raw.configureAll (ω := ω) lines =
      ((p.configureAll (ω := ω) lines).1.raw, (p.configureAll lines).2) := by
  induction lines generalizing p with
  | nil => rfl
  | cons line rest ih =>
    have hrest := ih (p.configure (ω := ω) line).1
    have hfirst : p.raw.configure (ω := ω) line =
        ((p.configure (ω := ω) line).1.raw, (p.configure line).2) := rfl
    simp only [RawProblem.configureAll, hfirst, hrest]
    rfl

/-- **The end of a solve**, after a return, a panic of the evaluator or one of the routine. -/
theorem raw_conclude (g : Gate Thread) (lent : Store d) (left : Departure d ρ)
    (s : Serving ω ε d.nonlinear d.unknowns) :
    RawProblem.conclude g lent.raw left s = .ok (conclude g lent left s).raw := by
  unfold RawProblem.conclude
  rw [lent.raw_takeBack]
  cases hpanic : left.panic with
  | none =>
    rw [conclude_eq_of_return hpanic]
    simp only [bind, Except.bind, lent.raw_collect]
    cases s.service.panic <;> rfl
  | some payload =>
    rw [conclude_eq_of_panic hpanic]
    rfl

variable [Evaluator ω ε] [Routine ω ρ] (p : Problem d ε ρ) (g : Gate Thread)

theorem raw_solve (t : Thread) (x₀ : Array Float) :
    p.raw.solve (ω := ω) g t x₀ = .ok (p.solve g t x₀).raw := by
  unfold RawProblem.solve
  split
  · next e h =>
    rw [p.solve_refused h]
    rfl
  · next g' h =>
    have hsize := Gate.size_of_grant h
    have hlend : p.raw.store.lend x₀ = .ok (p.store.prepared ⟨x₀, hsize⟩).raw :=
      p.store.raw_lend ⟨x₀, hsize⟩
    have harguments := (p.store.prepared ⟨x₀, hsize⟩).raw_arguments
    have hleave : g'.leave t = g := Gate.leave_of_enter (Gate.grant_eq_ok_iff.mp h).2
    have hconclude := raw_conclude g (p.store.prepared ⟨x₀, hsize⟩)
      (p.call (ω := ω) (.ofGrant h) (p.store.prepared ⟨x₀, hsize⟩)).1
      (p.call (ω := ω) (.ofGrant h) (p.store.prepared ⟨x₀, hsize⟩)).2
    rw [p.solve_granted h, hlend, hleave]
    simp only [bind, Except.bind]
    rw [show (p.store.prepared ⟨x₀, hsize⟩).raw.arguments p.raw.dims = _ from harguments]
    exact hconclude

/-- **A step on a problem whose buffers fit does not fault**, and does what it does on the problem with
typed buffers. -/
theorem raw_step (a : Step ε ρ) : p.raw.step (ω := ω) g a = .ok (p.step g a).raw := by
  cases a with
  | setBounds lower upper => exact p.raw_update g (p.store.raw_setBounds lower upper)
  | setLower v => exact p.raw_update g (p.store.raw_setLower v)
  | setUpper v => exact p.raw_update g (p.store.raw_setUpper v)
  | setBound i lower upper => exact p.raw_update g (p.store.raw_setBound i lower upper)
  | setLinear m => exact p.raw_update g (p.store.raw_setLinear m)
  | setJacobian m => exact p.raw_update g (p.store.raw_setJacobian m)
  | setHessian m => exact p.raw_update g (p.store.raw_setHessian m)
  | setMultipliers v => exact p.raw_update g (p.store.raw_setMultipliers v)
  | setState v => exact p.raw_update g (p.store.raw_setState v)
  | warmStart => exact p.raw_update g p.store.raw_warmStart
  | configure | changeEvaluator | changeRoutine => rfl
  | adopt o =>
    cases hcheck : o.check with
    | error e =>
      rw [p.step_adopt_of_error g hcheck]
      simp only [RawProblem.step, hcheck]
      rfl
    | ok _ =>
      rw [p.step_adopt_of_ok g hcheck]
      simp only [RawProblem.step, hcheck, raw_configureAll]
      rfl
  | solve start elsewhere =>
    have hresolve : p.raw.resolve start = p.resolve start := by cases start <;> rfl
    simp only [RawProblem.step, hresolve, raw_solve, bind, Except.bind]
    rfl

/-- **A run does not fault.** -/
theorem raw_run (steps : List (Gate Thread × Step ε ρ)) :
    p.raw.run ω steps = .ok (p.run ω steps).raw := by
  induction steps generalizing p with
  | nil => rfl
  | cons x rest ih =>
    obtain ⟨g, a⟩ := x
    simp only [RawProblem.run, p.raw_step, bind, Except.bind]
    exact ih (p.step (ω := ω) g a).problem

end Problem

/-- **A step keeps the sizes of buffers that fit.** -/
theorem RawProblem.step_of_fits [Evaluator ω ε] [Routine ω ρ] {p : RawProblem ε ρ}
    (h : p.store.Fits p.dims) (g : Gate Thread) (a : Step ε ρ) :
    ∃ r, p.step (ω := ω) g a = .ok r ∧ r.problem.dims = p.dims ∧ r.problem.store.Fits p.dims := by
  obtain ⟨q, hq⟩ := RawProblem.eq_raw h
  have hstep : p.step (ω := ω) g a = q.raw.step g a :=
    congrArg (fun p => RawProblem.step p g a) hq
  exact ⟨(q.step (ω := ω) g a).raw, hstep.trans (q.raw_step g a), rfl,
    RawStore.fits_iff.mpr ⟨_, rfl⟩⟩

/-! ## Panics -/

/-- The panic `x` was raised during the solve of `p` from `x₀` on thread `t`: the evaluator ended a
request with it, or the routine ended its call with it. -/
def Problem.Raised (ω : Type) {ε ρ : Type} [Evaluator ω ε] [Routine ω ρ] (p : Problem d ε ρ)
    (g : Gate Thread) (t : Thread) (x₀ : Array Float) : Panic → Prop
  | .evaluator payload =>
    ∃ c ∈ (p.watched.solve (ω := ω) g t x₀).problem.evaluator.calls, c.ending = .error payload
  | .routine payload =>
    ∃ c ∈ (p.watched.solve (ω := ω) g t x₀).problem.routine.calls, c.panic = some payload
  | .layout _ => False

theorem EvaluatorCall.ending_of_panic? {c : EvaluatorCall} {payload : String}
    (h : c.panic? = some payload) : c.ending = .error payload := by
  unfold panic? at h
  split at h
  · cases h
  · next hending =>
    cases h
    exact hending

/-- **Every panic that ends a solve was raised by the evaluator or the routine.** -/
theorem Problem.raised_of_panicked [Evaluator ω ε] [Routine ω ρ] (p : Problem d ε ρ)
    {g : Gate Thread} {t : Thread} {x₀ : Array Float} {x : Panic}
    (h : (p.solve (ω := ω) g t x₀).outcome = .panicked x) : p.Raised ω g t x₀ x := by
  obtain ⟨payload, rfl, hfirst⟩ | ⟨payload, rfl, hcall⟩ := p.panicked_cases h
  · obtain ⟨c, hc, hpanic⟩ := List.exists_of_findSome?_eq_some hfirst
    exact ⟨c, hc, c.ending_of_panic? hpanic⟩
  · exact hcall

theorem Problem.answer_update_ne_solved (p : Problem d ε ρ) (g : Gate Thread)
    (s : Except Refusal (Store d)) (o : Outcome) : (p.update (ω := ω) g s).answer ≠ .solved o := by
  cases s <;> nofun

/-- Only a solve is answered by an outcome. -/
theorem Problem.outcome_of_step [Evaluator ω ε] [Routine ω ρ] (p : Problem d ε ρ)
    {g : Gate Thread} {a : Step ε ρ} {o : Outcome}
    (h : (p.step (ω := ω) g a).answer = .solved o) :
    ∃ start elsewhere, a = .solve start elsewhere ∧
      (p.solve (ω := ω) g (if elsewhere then otherThread mainThread else mainThread)
        (p.resolve start)).outcome = o := by
  cases a with
  | solve start elsewhere => exact ⟨start, elsewhere, rfl, Answer.solved.inj h⟩
  | configure | changeEvaluator | changeRoutine => cases h
  | adopt o' =>
    simp only [step] at h
    split at h <;> cases h
  | _ => exact absurd h (p.answer_update_ne_solved g _ o)

/-! ## The main theorem -/

/-- The getters that cut off padding give data of the right size. -/
structure RawStore.Readable (s : RawStore) (d : Dimensions) : Prop where
  linear : ∃ m, s.linearPart d = .ok m ∧ m.shape = (d.linear, d.unknowns)
  jacobianGiven : ∃ m, s.jacobianGiven d = .ok m ∧ m.shape = (d.nonlinear, d.unknowns)
  jacobianReceived : ∃ m, s.jacobianReceived d = .ok m ∧ m.shape = (d.nonlinear, d.unknowns)
  values : ∃ v, s.nonlinearValues d = .ok v ∧ v.size = d.nonlinear

theorem Store.readable_raw (s : Store d) : s.raw.Readable d where
  linear := ⟨_, s.raw_linearPart, rfl⟩
  jacobianGiven := ⟨_, s.raw_jacobianGiven, rfl⟩
  jacobianReceived := ⟨_, s.raw_jacobianReceived, rfl⟩
  values := ⟨_, s.raw_nonlinearValues, s.nonlinearValues.size_toArray⟩

/-- **Buffers keep their sizes, so nothing faults.** Let a new problem make any steps, with whatever
evaluator and routine, each step at a gate of its own. If its buffers are raw:

* no step faults, and the problem becomes what the problem with typed buffers becomes;
* afterwards every buffer has the size that the dimensions fix, and the getters do not fault;
* no further step faults, whatever it is, and it does what it does on the problem with typed buffers;
* if that step ends with a panic, then it is a solve, and its evaluator or its routine raised the
  panic. -/
theorem Problem.sizes_fixed [Evaluator ω ε] [Routine ω ρ] (d : Dimensions) (evaluator : ε)
    (routine : ρ) (steps : List (Gate Thread × Step ε ρ)) :
    let p := (Problem.new d evaluator routine).run ω steps
    ∃ q : RawProblem ε ρ, (RawProblem.new d evaluator routine).run ω steps = .ok q ∧ q = p.raw ∧
      q.store.Fits d ∧ q.store.Readable d ∧
      ∀ (g : Gate Thread) (a : Step ε ρ),
        q.step (ω := ω) g a = .ok (p.step g a).raw ∧
        ∀ x, (p.step (ω := ω) g a).answer = .solved (.panicked x) →
          ∃ start elsewhere, a = .solve start elsewhere ∧
            p.Raised ω g (if elsewhere then otherThread mainThread else mainThread)
              (p.resolve start) x := by
  intro p
  have hnew : RawProblem.new d evaluator routine = (Problem.new d evaluator routine).raw := by
    simp only [RawProblem.new, Problem.raw, Problem.new, Store.raw_new]
  rw [hnew]
  refine ⟨p.raw, (Problem.new d evaluator routine).raw_run steps, rfl,
    RawStore.fits_iff.mpr ⟨p.store, rfl⟩, p.store.readable_raw, fun g a => ⟨p.raw_step g a, ?_⟩⟩
  intro x hx
  obtain ⟨start, elsewhere, rfl, houtcome⟩ := p.outcome_of_step hx
  exact ⟨start, elsewhere, rfl, p.raised_of_panicked houtcome⟩

end NonlinearFit
