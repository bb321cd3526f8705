import NonlinearFit.Proofs.FirstPanic
import NonlinearFit.Proofs.Retention
import NonlinearFit.Proofs.WarmStart

/-!
# A routine that panics

A panic of the routine cuts a solve short. What was lent as it is holds whatever has been written so
far, and nothing that was exchanged is collected.

**What is seen.** The data of a problem falls into what was given (`Store.inputs`), what was
collected after the last call whose routine returned (`Store.results`), what is lent as it is
(`Store.inPlace`), and working copies. Steps do not tell problems apart that differ in working
copies only (`Problem.blanked_step`, `Problem.blanked_run`), nor does a routine
(`Problem.passage?_blanked`, `Problem.dialogue_blanked`).

**Which results.** `lastResults` reads them out of a history. A call whose routine panics does not
replace them (`results_after`).

**Routines** that are to do something `first`, then panic and then do the `rest` leave what `first`
leaves (`Program.andThen_raise`).

Main result: `routine_panic`, for any run of steps on a new problem.
-/

namespace NonlinearFit

variable {ω : Type} {d : Dimensions} {ε ρ : Type}

/-! ## What is seen of the data -/

/-- What was given for the next call, padding rows included. -/
structure Inputs (d : Dimensions) where
  linear : Matrix d.linearRows d.unknowns
  jacobian : Matrix d.jacobianRows d.unknowns
  multipliers : Vector Float d.bounds
  hessian : Matrix d.unknowns d.unknowns

/-- What was collected after a call, padding rows included. -/
structure Results (d : Dimensions) where
  jacobian : Matrix d.jacobianRows d.unknowns
  multipliers : Vector Float d.bounds
  hessian : Matrix d.unknowns d.unknowns
  point : Vector Float d.unknowns
  status : Option Status
  iterations : Integer

/-- What is lent as it is. -/
structure InPlace (d : Dimensions) where
  lower : Vector Float d.bounds
  upper : Vector Float d.bounds
  state : Vector Integer d.bounds
  values : Vector Float d.jacobianRows
  objective : Float
  gradient : Vector Float d.unknowns
  integerWork : Vector Integer d.integerWork
  realWork : Vector Float d.realWork

/-- What the getters give. -/
structure Readings (d : Dimensions) where
  lower : Vector Float d.bounds
  upper : Vector Float d.bounds
  linear : Matrix d.linear d.unknowns
  jacobianGiven : Matrix d.nonlinear d.unknowns
  multipliersGiven : Vector Float d.bounds
  hessianGiven : Matrix d.unknowns d.unknowns
  state : Vector Integer d.bounds
  values : Vector Float d.nonlinear
  jacobian : Matrix d.nonlinear d.unknowns
  multipliers : Vector Float d.bounds
  objective : Float
  gradient : Vector Float d.unknowns
  hessian : Matrix d.unknowns d.unknowns
  point : Vector Float d.unknowns
  status : Option Status
  iterations : Integer

/-- The results of a call that left `a`. -/
def Arguments.results (a : Arguments d) : Results d where
  jacobian := ColumnMajor.toMatrix ⟨a.jacobian⟩
  multipliers := a.multipliers
  hessian := ColumnMajor.toMatrix ⟨a.hessian⟩
  point := a.point
  status := some ⟨a.status⟩
  iterations := a.iterations

def Arguments.inPlace (a : Arguments d) : InPlace d :=
  ⟨a.lower, a.upper, a.state, a.values, a.objective, a.gradient, a.integerWork, a.realWork⟩

namespace Store

variable (s s' : Store d)

def inputs : Inputs d := ⟨s.linear, s.jacobian.given, s.multipliers.given, s.hessian.given⟩

def results : Results d where
  jacobian := s.jacobian.received
  multipliers := s.multipliers.received
  hessian := s.hessian.received
  point := s.point.received
  status := s.status
  iterations := s.iterations

def inPlace : InPlace d :=
  ⟨s.lower, s.upper, s.state, s.values, s.objective, s.gradient, s.integerWork, s.realWork⟩

def readings : Readings d where
  lower := s.lower
  upper := s.upper
  linear := s.linearPart
  jacobianGiven := s.jacobianGiven
  multipliersGiven := s.multipliers.given
  hessianGiven := s.hessian.given
  state := s.state
  values := s.nonlinearValues
  jacobian := s.jacobianReceived
  multipliers := s.multipliers.received
  objective := s.objective
  gradient := s.gradient
  hessian := s.hessian.received
  point := s.point.received
  status := s.status
  iterations := s.iterations

/-- Data that is seen as this, with zeros for working copies. -/
def ofSeen (i : Inputs d) (r : Results d) (b : InPlace d) : Store d where
  lower := b.lower
  upper := b.upper
  linear := i.linear
  linearLent := .zeros ..
  jacobian := ⟨i.jacobian, .zeros .., r.jacobian⟩
  multipliers := ⟨i.multipliers, .replicate _ 0.0, r.multipliers⟩
  hessian := ⟨i.hessian, .zeros .., r.hessian⟩
  point := ⟨.replicate _ 0.0, .replicate _ 0.0, r.point⟩
  state := b.state
  values := b.values
  objective := b.objective
  gradient := b.gradient
  integerWork := b.integerWork
  realWork := b.realWork
  status := r.status
  iterations := r.iterations

/-- The data with its working copies blanked: those of the exchanged buffers, and the point where
the last call started. -/
def blanked : Store d := ofSeen s.inputs s.results s.inPlace

variable {s s'}

/-- **All but working copies is seen.** -/
theorem blanked_eq_iff :
    s.blanked = s'.blanked ↔
      s.inputs = s'.inputs ∧ s.results = s'.results ∧ s.inPlace = s'.inPlace := by
  constructor
  · intro h
    have hinputs : s.blanked.inputs = s'.blanked.inputs := congrArg inputs h
    have hresults : s.blanked.results = s'.blanked.results := congrArg results h
    have hinPlace : s.blanked.inPlace = s'.blanked.inPlace := congrArg inPlace h
    exact ⟨hinputs, hresults, hinPlace⟩
  · rintro ⟨hi, hr, hb⟩
    unfold blanked
    rw [hi, hr, hb]

/-! ## Working copies are not seen -/

theorem readings_blanked (s : Store d) : s.blanked.readings = s.readings := rfl

theorem blanked_put (s : Store d) (x : Datum d) :
    (s.blanked.put x).blanked = (s.put x).blanked := by
  cases x <;> rfl

end Store

/-- The problem with the working copies of its data blanked. -/
def Problem.blanked (p : Problem d ε ρ) : Problem d ε ρ := { p with store := p.store.blanked }

/-- The step with the working copies of the problem's data blanked. -/
def Stepped.blanked (r : Stepped ω d ε ρ) : Stepped ω d ε ρ :=
  { r with problem := r.problem.blanked }

namespace Problem

variable [Evaluator ω ε] [Routine ω ρ] (p : Problem d ε ρ) (g : Gate Thread)

/-- **A call prepares all working copies anew**, so the routine receives the same and leaves the
same. -/
theorem passage?_blanked (t : Thread) (x₀ : Array Float) :
    p.blanked.passage? ω g t x₀ = p.passage? ω g t x₀ := rfl

theorem dialogue_blanked (t : Thread) (x₀ : Array Float) :
    p.blanked.dialogue (ω := ω) g t x₀ = p.dialogue g t x₀ := rfl

omit [Evaluator ω ε] in
theorem blanked_configureAll (lines : List String) :
    p.blanked.configureAll (ω := ω) lines =
      ((p.configureAll (ω := ω) lines).1.blanked, (p.configureAll lines).2) := by
  induction lines generalizing p with
  | nil => rfl
  | cons line rest ih =>
    have hrest := ih (p.configure (ω := ω) line).1
    show ((configureAll (ω := ω) (p.configure (ω := ω) line).1.blanked rest).1,
      _ ++ (configureAll (ω := ω) (p.configure (ω := ω) line).1.blanked rest).2) = _
    rw [hrest]
    rfl

/-- A solve that is not refused depends on nothing but what is seen. -/
theorem blanked_solve (t : Thread) (x₀ : Array Float) :
    p.blanked.solve (ω := ω) g t x₀ = p.solve g t x₀ ∨
      ∃ e, p.blanked.solve (ω := ω) g t x₀ = ⟨.refused e, p.blanked, g, #[]⟩ ∧
        p.solve (ω := ω) g t x₀ = ⟨.refused e, p, g, #[]⟩ := by
  cases hg : g.grant t d x₀ with
  | error e => exact .inr ⟨e, p.blanked.solve_refused hg, p.solve_refused hg⟩
  | ok g' =>
    left
    rw [p.blanked.solve_granted hg, p.solve_granted hg]
    rfl

/-- **No step tells working copies apart.** -/
theorem blanked_step (a : Step ε ρ) :
    (p.blanked.step (ω := ω) g a).blanked = (p.step g a).blanked := by
  cases hsetter : a.isSetter with
  | true =>
    obtain ⟨x, hx⟩ | ⟨e, hrefuses⟩ := Step.datum_or_refuses p g hsetter
    · rw [p.blanked.step_of_datum g hx, p.step_of_datum g hx]
      have hput := p.store.blanked_put x
      exact congrArg
        (fun s => (⟨.done, ⟨p.evaluator, p.routine, s⟩, g, #[]⟩ : Stepped ω d ε ρ)) hput
    · rw [p.step_of_setter_refuses g hsetter hrefuses, p.step_of_setter_refuses g hsetter hrefuses]
      rfl
  | false =>
    cases a with
    | warmStart | configure | changeEvaluator | changeRoutine => rfl
    | adopt o =>
      cases hcheck : o.check with
      | error e =>
        rw [p.blanked.step_adopt_of_error g hcheck, p.step_adopt_of_error g hcheck]
        rfl
      | ok _ =>
        rw [p.blanked.step_adopt_of_ok g hcheck, p.step_adopt_of_ok g hcheck, blanked_configureAll]
        generalize p.configureAll (ω := ω) o.lines = configured
        rfl
    | solve start elsewhere =>
      have hstart : p.blanked.resolve start = p.resolve start := by cases start <;> rfl
      simp only [step, hstart]
      generalize (if elsewhere then otherThread mainThread else mainThread) = t
      obtain h | ⟨e, h, h'⟩ := p.blanked_solve (ω := ω) g t (p.resolve start)
      · rw [h]
      · rw [h, h']
        rfl
    | _ => cases hsetter

/-! ## Runs -/

/-- The answers to some steps, each at a gate of its own, with the events on the way. -/
def answers (ω : Type) {ε ρ : Type} [Evaluator ω ε] [Routine ω ρ] (p : Problem d ε ρ) :
    List (Gate Thread × Step ε ρ) → List (Answer × Array (Event ω))
  | [] => []
  | (g, a) :: rest =>
    let r := p.step (ω := ω) g a
    (r.answer, r.events) :: r.problem.answers ω rest

variable {p} {p' : Problem d ε ρ}

/-- **No run tells working copies apart.** -/
theorem blanked_run (h : p.blanked = p'.blanked) (steps : List (Gate Thread × Step ε ρ)) :
    p.answers ω steps = p'.answers ω steps ∧
      (p.run ω steps).blanked = (p'.run ω steps).blanked := by
  induction steps generalizing p p' with
  | nil => exact ⟨rfl, h⟩
  | cons x rest ih =>
    obtain ⟨g, a⟩ := x
    have hstep : (p.step (ω := ω) g a).blanked = (p'.step g a).blanked := by
      rw [← blanked_step, ← blanked_step p', h]
    obtain ⟨hanswer, hproblem, -, hevents⟩ := Stepped.mk.inj hstep
    obtain ⟨hanswers, hrun⟩ := ih hproblem
    refine ⟨?_, hrun⟩
    simp only [answers]
    rw [hanswer, hevents, hanswers]

/-- Nothing tells the two problems apart: neither the answers to any steps, nor after these steps
the getters, nor a routine that is called then. -/
structure Alike (ω : Type) {ε ρ : Type} [Evaluator ω ε] [Routine ω ρ] (p p' : Problem d ε ρ) :
    Prop where
  answers (steps : List (Gate Thread × Step ε ρ)) : p.answers ω steps = p'.answers ω steps
  evaluator (steps : List (Gate Thread × Step ε ρ)) :
    (p.run ω steps).evaluator = (p'.run ω steps).evaluator
  routine (steps : List (Gate Thread × Step ε ρ)) :
    (p.run ω steps).routine = (p'.run ω steps).routine
  readings (steps : List (Gate Thread × Step ε ρ)) :
    (p.run ω steps).store.readings = (p'.run ω steps).store.readings
  passage (steps : List (Gate Thread × Step ε ρ)) (g : Gate Thread) (t : Thread)
    (x₀ : Array Float) :
    (p.run ω steps).passage? ω g t x₀ = (p'.run ω steps).passage? ω g t x₀
  dialogue (steps : List (Gate Thread × Step ε ρ)) (g : Gate Thread) (t : Thread)
    (x₀ : Array Float) :
    (p.run ω steps).dialogue (ω := ω) g t x₀ = (p'.run ω steps).dialogue g t x₀

/-- **Problems that differ in working copies only are alike.** -/
theorem alike_of_blanked (h : p.blanked = p'.blanked) : p.Alike ω p' where
  answers steps := (blanked_run h steps).1
  evaluator steps := (Problem.mk.inj (blanked_run (ω := ω) h steps).2).1
  routine steps := (Problem.mk.inj (blanked_run (ω := ω) h steps).2).2.1
  readings steps := by
    obtain ⟨-, -, hstore⟩ := Problem.mk.inj (blanked_run (ω := ω) h steps).2
    rw [← Store.readings_blanked, hstore, Store.readings_blanked]
  passage steps g t x₀ := by
    rw [← passage?_blanked, (blanked_run (ω := ω) h steps).2, passage?_blanked]
  dialogue steps g t x₀ := by
    rw [← dialogue_blanked, (blanked_run (ω := ω) h steps).2, dialogue_blanked]

end Problem

/-! ## Results -/

/-- The results of the last call whose routine returned, those of a new problem if none has. -/
def lastResults : List (Deed d) → Results d
  | [] => (Store.new d).results
  | .called c :: past =>
    match c.panic with
    | none => c.left.results
    | some _ => lastResults past
  | _ :: past => lastResults past

/-- **The results that are stored** are those of the last call whose routine returned. -/
theorem results_after (past : List (Deed d)) : (Store.after past).results = lastResults past := by
  induction past with
  | nil => rfl
  | cons x past ih =>
    cases x with
    | gave x =>
      rw [← show _ = lastResults (.gave x :: past) from ih]
      cases x <;> rfl
    | carried | idle => exact ih
    | called c =>
      show ((Store.after past).passed c).results = lastResults (.called c :: past)
      cases hpanic : c.panic with
      | none =>
        simp only [Store.passed, lastResults, hpanic]
        rfl
      | some payload =>
        simp only [Store.passed, lastResults, hpanic]
        exact ih

/-! ## The main result -/

namespace Problem

variable [Evaluator ω ε] [Routine ω ρ]

/-- **The routine's own panic comes out.** After any steps on a new problem, suppose that a solve
calls the routine, which panics with `payload` and leaves `left`, whatever it did before and whether
or not the evaluator has panicked. Then:

* the solve ends with `payload` and gives back the gate;
* what was given stays, padding included, and so do the results, which are those of the last call
  whose routine returned; what is lent as it is, is as it was left;
* nothing else is seen: a problem whose data agrees in these three is not told apart, by further
  steps, getters or routines;
* the next solve, from any point and on any thread that is not serving, starts without a panic,
  calls the routine once with the data as it is now, and only panics of its own come out of it;
* whatever a routine has done `first`, if it then panics, what `first` left stays, and the `rest` is
  not done. -/
theorem routine_panic (e : ε) (r : ρ) (steps : List (Gate Thread × Step ε ρ)) (g : Gate Thread)
    (t : Thread) (x₀ : Array Float) {received left : Arguments d} {payload : String}
    (panicked :
      (((Problem.new d e r).run ω steps).watched.solve (ω := ω) g t x₀).problem.routine.calls =
        [⟨d, t, d.counts, received, left, some payload⟩]) :
    let p := (Problem.new d e r).run ω steps
    let past := (Problem.new d e r).history ω [] steps
    let solved := p.solve (ω := ω) g t x₀
    let q := solved.problem
    ((p.watched.solve (ω := ω) g t x₀).map WatchedEvaluator.evaluator WatchedRoutine.routine =
        solved ∧
      solved.outcome = .panicked (.routine payload) ∧ solved.gate = g) ∧
    (q.store.inputs = p.store.inputs ∧ q.store.results = p.store.results ∧
      p.store.results = lastResults past ∧ q.store.inPlace = left.inPlace) ∧
    (∀ s : Store d, s.inputs = p.store.inputs → s.results = p.store.results →
      s.inPlace = left.inPlace → ({ q with store := s } : Problem d ε ρ).Alike ω q) ∧
    (∀ (t' : Thread) (x₁ : Vector Float d.unknowns), g.serving t' = none →
      let next := q.watched.solve (ω := ω) g t' x₁.toArray
      next.map WatchedEvaluator.evaluator WatchedRoutine.routine = q.solve g t' x₁.toArray ∧
      q.service.panic = none ∧ q.OwnPanics ω g t' x₁.toArray ∧
      ∃ received' left' panic',
        next.problem.routine.calls = [⟨d, t', d.counts, received', left', panic'⟩] ∧
        received'.Presents q.store x₁ ∧
        (panic' = none → next.problem.store.Reports left' ∧
          next.outcome = returnOutcome ⟨left'.status⟩ next.problem.evaluator.firstPanic) ∧
        ∀ payload', panic' = some payload' → next.outcome = .panicked (.routine payload')) ∧
    ∀ (first : Calling ω (Arguments d × Except String Unit)) (payload' : String)
      (rest : Arguments d → Unit → Calling ω (Arguments d × Except String Unit)),
      (first.andThen fun a _ => (Program.raise payload' a).andThen rest) =
        first.map fun r => (r.1, r.2.bind fun _ => .error payload') := by
  intro p past solved q
  have hwatched := p.solve_watched (ω := ω) g t x₀
  obtain ⟨g', hg⟩ : ∃ g', g.grant t d x₀ = .ok g' := by
    cases hg : g.grant t d x₀ with
    | error e =>
      rw [p.watched.solve_refused hg] at panicked
      cases panicked
    | ok g' => exact ⟨g', rfl⟩
  obtain ⟨left', panic, acc⟩ := p.account (ω := ω) hg
  have hcall := (List.cons.inj (acc.calls.symm.trans panicked)).1
  obtain ⟨-, -, -, -, hleft, rfl⟩ := RoutineCall.mk.inj hcall
  obtain rfl : left' = left := eq_of_heq hleft
  obtain ⟨houtcome, hstore⟩ := acc.unwound payload rfl
  have hq : q.store = (p.store.prepared ⟨x₀, Gate.size_of_grant hg⟩).takeBack left' := by
    rw [← hstore]
    exact congrArg (fun s : Solved ω d ε ρ => s.problem.store) hwatched.symm
  refine ⟨⟨hwatched, ?_, p.solve_gate g t x₀⟩, ⟨?_, ?_, ?_, ?_⟩, ?_, ?_,
    fun first payload' rest => first.andThen_raise payload' rest⟩
  · rw [← houtcome]
    exact congrArg (fun s : Solved ω d ε ρ => s.outcome) hwatched.symm
  · rw [hq]
    rfl
  · rw [hq]
    rfl
  · rw [← results_after, ← store_run rfl steps]
  · rw [hq]
    rfl
  · intro s hinputs hresults hinPlace
    have hblanked : s.blanked = q.store.blanked := by
      rw [Store.blanked_eq_iff, hq]
      exact ⟨hinputs, hresults, hinPlace⟩
    refine alike_of_blanked ?_
    show (⟨q.evaluator, q.routine, s.blanked⟩ : Problem d ε ρ) = ⟨_, _, q.store.blanked⟩
    rw [hblanked]
  · intro t' x₁ unused next
    obtain ⟨g₁, hg₁⟩ := Gate.exists_grant hg unused x₁
    obtain ⟨left₁, panic₁, acc₁⟩ := q.account (ω := ω) hg₁
    exact ⟨q.solve_watched g t' x₁.toArray, rfl, q.ownPanics g t' x₁.toArray, _, left₁, panic₁,
      acc₁.calls, q.store.presents_prepared x₁,
      fun h => ⟨(acc₁.returned h).2 ▸ Store.reports_settled _ left₁, (acc₁.returned h).1⟩,
      fun payload' h => (acc₁.unwound payload' h).1⟩

end Problem

/-! ## A panic after another one -/

namespace Script

/-- A problem whose first solve goes well. In the second one the evaluator panics, and then the
routine does. -/
def collapsing :
    Problem (small 2 0 0) (EvaluatorScript InnerProblem) (RoutineScript InnerProblem) :=
  .new _ { objective := [[.sum], [.control (.panic "no value")]] }
    { script := [
      [.objective ⟨2, 1, .own, .own, .own, false⟩, .reals .point (.fill 9.0), .iterations 2,
        .status 3],
      [.reals .point (.fill 7.0), .integers .state .count,
        .objective ⟨2, 1, .own, .own, .own, false⟩, .status 6, .panic "no memory",
        .reals .gradient (.fill 8.0)]] }

/-- The second panic comes out of the second solve. Point, status and iterations are those of the
first one, and the state is what the routine wrote last. -/
theorem routine_panic_collapsing :
    let p := collapsing.run Note [(.vacant, .solve (.given #[0.5, 1.5]) false)]
    let watched := p.watched.solve (ω := Note) .vacant mainThread #[0.5, 1.5]
    let q := (p.solve (ω := Note) .vacant mainThread #[0.5, 1.5]).problem
    watched.problem.evaluator.firstPanic = some "no value" ∧
      (p.solve (ω := Note) .vacant mainThread #[0.5, 1.5]).outcome =
        .panicked (.routine "no memory") ∧
      q.store.point.received = .replicate _ 9.0 ∧ q.store.status = some ⟨3⟩ ∧
      q.store.iterations = 2 ∧ q.store.state.toArray = #[0, 1] ∧ q.service.panic = none := by
  intro p watched q
  obtain ⟨received, left, hcalls, hstate⟩ :
      ∃ received left, watched.problem.routine.calls =
        [⟨_, mainThread, (small 2 0 0).counts, received, left, some "no memory"⟩] ∧
        left.state.toArray = #[0, 1] :=
    ⟨_, _, rfl, rfl⟩
  obtain ⟨⟨-, houtcome, -⟩, ⟨-, hresults, -, hinPlace⟩, -, hnext, -⟩ :=
    Problem.routine_panic _ _ [(.vacant, .solve (.given #[0.5, 1.5]) false)] .vacant mainThread
      #[0.5, 1.5] hcalls
  obtain ⟨-, -, -, hpoint, hstatus, hiterations⟩ := Results.mk.inj hresults
  obtain ⟨-, -, hkept, -⟩ := InPlace.mk.inj hinPlace
  obtain ⟨-, hpanic, -⟩ := hnext mainThread (.replicate _ 0.5) rfl
  exact ⟨rfl, houtcome, hpoint, hstatus, hiterations, hkept ▸ hstate, hpanic⟩

end Script

end NonlinearFit
