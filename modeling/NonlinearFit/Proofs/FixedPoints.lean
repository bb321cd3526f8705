import NonlinearFit.Proofs.DescentSolves
import NonlinearFit.Proofs.WarmStart

/-!
# An optimum is a fixed point

An evaluator `Computes` a function and its gradient when it always answers with them, without stopping
or panicking. It may change while it does so, as long as it keeps answering.

**Consistent reports.** Then every evaluation of a descent is an `Iterate.of` its point, so what the
descent reports is the function and its gradient at the point that it reports, never at a trial point
that it gave up (`Problem.Computed.reports`).

**Starting again.** A point that was projected stays where it is, and the evaluator answers there as it
did before. So a descent that starts at an optimum ends there before its first iteration
(`Problem.Computed.stays`).

Main result: `optimum_fixed`.
-/

namespace NonlinearFit

open GradientDescent

variable {ω : Type} {d : Dimensions} {ε : Type} {n : Nat}

/-! ## Evaluators that compute a function -/

/-- The evaluator answers every request for value and gradient with those of a function, returns, and
does not ask to stop, and its answers to requests for constraints do the same. It may become any
other one that is `kept`. -/
structure Evaluator.Computes (ω : Type) {ε : Type} [Evaluator ω ε] (kept : ε → Prop)
    (value : Vector Float n → Float) (slope : Vector Float n → Vector Float n) : Prop where
  objective {e : ε} (f : Flight) (t : Thread) (r : ObjectiveRequest) (events : Array (Event ω))
    (x : Vector Float n) : kept e → r.mode = 2 → r.point = x.toArray → r.gradient.size = n →
    let reply := (Serving.consult f (Evaluator.objective e t r) events).1
    kept reply.evaluator ∧ (∃ status, reply.ending = .ok status) ∧ 0 ≤ reply.output.mode ∧
      reply.output.value = value x ∧ reply.output.gradient.toArray = (slope x).toArray
  constraints {e : ε} (f : Flight) (t : Thread) (r : ConstraintRequest) (events : Array (Event ω)) :
    kept e → r.mode = 2 →
    let reply := (Serving.consult f (Evaluator.constraints e t r) events).1
    kept reply.evaluator ∧ (∃ status, reply.ending = .ok status) ∧ 0 ≤ reply.output.mode

/-- The point with the value and the gradient of a function there. -/
def GradientDescent.Iterate.of (value : Vector Float n → Float)
    (slope : Vector Float n → Vector Float n) (x : Vector Float n) : Iterate n :=
  ⟨x, value x, slope x⟩

/-- The evaluation tells the value and the gradient of a function, and does not ask to stop. -/
structure GradientDescent.Evaluation.Tells (v : Evaluation n) (value : Vector Float n → Float)
    (slope : Vector Float n → Vector Float n) : Prop where
  goes : ¬v.Stops
  toIterate : v.toIterate = .of value slope v.point

/-! ## Serving such an evaluator -/

namespace Serving

variable [Evaluator ω ε]

/-- The evaluator is kept, and so far has not panicked. -/
structure Ready {rows cols : Nat} (kept : ε → Prop) (s : Serving ω ε rows cols) : Prop where
  open_ : s.service.panic = none
  kept : kept s.service.evaluator

variable {kept : ε → Prop} {value : Vector Float d.unknowns → Float}
  {slope : Vector Float d.unknowns → Vector Float d.unknowns} {f : Flight}
  {s : Serving ω ε d.nonlinear d.unknowns}

/-- No panic is kept after a callback that does not ask to stop. -/
theorem panic_eq_none_of_not_stops (open_ : s.service.panic = none) {q : Query ω}
    (goes : ¬q.Stops (answer f q s).1) : (answer f q s).2.service.panic = none := by
  cases hpanic : (answer f q s).2.service.panic with
  | none => rfl
  | some payload => exact absurd ((response f q s).stops open_ hpanic) goes

theorem objectiveRequest_objectiveCall (t : Thread) (nstate : Integer)
    (x buffer : Vector Float d.unknowns) :
    objectiveRequest (objectiveCall t d.counts.unknowns nstate x buffer) =
      ⟨2, nstate, x.toArray, 0.0, buffer.toArray⟩ := by
  have hcount := d.bounds_of_counts.1
  have hall (y : Vector Float d.unknowns) :
      y.toArray.extract 0 d.counts.unknowns.toCount = y.toArray := by
    rw [hcount]
    exact Array.extract_eq_self_of_le (Nat.le_of_eq y.size_toArray)
  show (⟨2, nstate, x.toArray.extract 0 d.counts.unknowns.toCount, 0.0,
    buffer.toArray.extract 0 d.counts.unknowns.toCount⟩ : ObjectiveRequest) = _
  rw [hall, hall]

/-- **An objective callback is told value and gradient.** -/
theorem Ready.answer_objective (computes : Evaluator.Computes ω kept value slope)
    (ready : s.Ready kept) (nstate : Integer) (x buffer : Vector Float d.unknowns) :
    let call := objectiveCall f.thread d.counts.unknowns nstate x buffer
    (told (n := d.unknowns) (answer f (.objective call) s).1).Tells value slope ∧
      (answer f (.objective call) s).2.Ready kept := by
  intro call
  have hrequest : objectiveRequest call = ⟨2, nstate, x.toArray, 0.0, buffer.toArray⟩ :=
    objectiveRequest_objectiveCall f.thread nstate x buffer
  have hsize : (objectiveRequest call).gradient.size = d.unknowns := by
    rw [hrequest]
    exact buffer.size_toArray
  obtain ⟨hkept, ⟨status, ended⟩, hmode, hvalue, hslope⟩ :=
    computes.objective f call.thread (objectiveRequest call) s.events x ready.kept rfl
      (by rw [hrequest]) hsize
  change 0 ≤ (s.objectiveReply f call).output.mode at hmode
  have hserve : answer f (.objective call) s = serveObjective f call s :=
    answerObjective_of_thread f s rfl
  have hevaluator := evaluator_serveObjective f s call ready.open_
  have reports := reports_serveObjective f s ready.open_ ended
  rw [← hserve] at hevaluator reports
  generalize hr : (answer f (.objective call) s).1 = r at reports
  rw [← reports.mode] at hmode
  refine ⟨⟨Int64.not_lt.mpr hmode, ?_⟩, ⟨panic_eq_none_of_not_stops ready.open_ ?_, ?_⟩⟩
  · have hgradient : r.gradient.cast buffer.size_toArray = slope x := by
      refine Vector.ext fun i hi => ?_
      have hbuffer : (s.objectiveReply f call).output.gradient[i]? = (slope x)[i]? := by
        rw [← Vector.getElem?_toArray, ← Vector.getElem?_toArray]
        exact congrArg (·[i]?) hslope
      have hentry := (reports.gradient i (hsize.symm ▸ hi)).trans hbuffer
      rw [Vector.getElem?_eq_getElem (buffer.size_toArray.symm ▸ hi),
        Vector.getElem?_eq_getElem hi] at hentry
      exact (Vector.getElem_cast hi).trans (Option.some.inj hentry)
    show (⟨x, r.value, r.gradient.cast buffer.size_toArray⟩ : Iterate d.unknowns) = ⟨x, _, _⟩
    rw [hgradient, reports.value]
    exact congrArg (Iterate.mk x · (slope x)) hvalue
  · rw [hr]
    rintro ⟨-, hstop⟩
    rw [hstop] at hmode
    exact absurd hmode (by decide)
  · rw [hevaluator]
    exact hkept

/-- **The constraint callback does not stop the descent.** -/
theorem Ready.answer_constraints (computes : Evaluator.Computes ω kept value slope)
    (ready : s.Ready kept) (a : Arguments d) :
    let call := constraintCall f.thread d.counts a
    ¬(answer f (.constraints call) s).1.mode < 0 ∧ (answer f (.constraints call) s).2.Ready kept := by
  intro call
  obtain ⟨contracted, hmatches⟩ := (CallsBack.constraints (ω := ω) (t := f.thread) a).contracted
  have active : (f.gate.serving call.thread).isSome := by
    rw [show call.thread = f.thread from rfl, f.serving]
    rfl
  obtain ⟨m, -, hgather, hserve⟩ :=
    answerConstraints_of_serviceable (contracted.2.serviceable hmatches active) s ready.open_
  obtain ⟨hkept, ⟨status, ended⟩, hmode⟩ :=
    computes.constraints f call.thread (constraintRequest call m) s.events ready.kept rfl
  have hevaluator := evaluator_evaluateConstraints f s call m
  have reports := reports_evaluateConstraints f s hgather ended
  rw [← hserve] at hevaluator reports
  change 0 ≤ (s.constraintReply f call m).output.mode at hmode
  rw [← reports.mode] at hmode
  refine ⟨Int64.not_lt.mpr hmode, ⟨panic_eq_none_of_not_stops (q := .constraints call)
    ready.open_ ?_, ?_⟩⟩
  · rintro ⟨-, hstop, -⟩
    change (answerConstraints f call s).1.mode = -1 at hstop
    rw [hstop] at hmode
    exact absurd hmode (by decide)
  · show kept (answerConstraints f call s).2.service.evaluator
    rw [hevaluator]
    exact hkept

/-- A callback of a descent leaves the evaluator ready. -/
theorem Ready.answer (computes : Evaluator.Computes ω kept value slope) (ready : s.Ready kept)
    {q : Query ω} (hq : CallsBack d f.thread q) : (Serving.answer f q s).2.Ready kept := by
  cases hq with
  | objective nstate x buffer => exact (ready.answer_objective computes nstate x buffer).2
  | constraints a => exact (ready.answer_constraints computes a).2

end Serving

/-! ## Runs that such an evaluator answers -/

namespace GradientDescent

theorem get_withVariables {α : Type} (v : Vector α d.bounds) (f : Fin d.unknowns → α)
    (i : Fin d.unknowns) : (withVariables v f).get (i.castLE d.unknowns_le_bounds) = f i :=
  (Vector.getElem_mapIdx (i.castLE d.unknowns_le_bounds).isLt).trans (dif_pos i.isLt)

/-- What a report says of the variables depends on their bounds and on the end of the descent. -/
theorem report_variables {a a' : Arguments d} (h : box a = box a') (e e' : Descended d.unknowns)
    (last : e.last = e'.last) (i : Fin d.unknowns) :
    (report a e).state.get (i.castLE d.unknowns_le_bounds) =
        (report a' e').state.get (i.castLE d.unknowns_le_bounds) ∧
      (report a e).multipliers.get (i.castLE d.unknowns_le_bounds) =
        (report a' e').multipliers.get (i.castLE d.unknowns_le_bounds) := by
  simp only [report, get_withVariables, h, last, and_self]

variable {value : Vector Float d.unknowns → Float}
  {slope : Vector Float d.unknowns → Vector Float d.unknowns} {r : GradientDescent}
  {a a' : Arguments d} {log : List (Evaluation d.unknowns)}

/-- A run that is told a function reports its value and gradient. -/
theorem Minimizes.reports_function (h : Minimizes r a log a')
    (tells : ∀ v ∈ log, v.Tells value slope) :
    ∃ e, a' = report a e ∧ OwnStatus e.status ∧ e.last = .of value slope e.last.point ∧
      (e.status = statusOptimal → stationarity (box a) e.last ≤ r.tolerance) := by
  obtain ⟨e, hreport, hstatus, ⟨v, hv, hlast⟩, hstill⟩ :=
    h.report_eq fun v hv => (tells v hv).goes
  refine ⟨e, hreport, hstatus, ?_, hstill⟩
  rw [hlast]
  exact (tells v hv).toIterate

/-- **A run that starts where the projected unit step is within the tolerance** ends there before its
first iteration. -/
theorem Minimizes.stays (h : Minimizes r a log a') (tells : ∀ v ∈ log, v.Tells value slope)
    (start : (box a).Contains a.point)
    (still : stationarity (box a) (.of value slope a.point) ≤ r.tolerance) :
    a' = report a ⟨statusOptimal, 0, .of value slope a.point⟩ := by
  cases h with
  | stopped _ stops => exact absurd stops (tells _ (List.mem_singleton_self _)).goes
  | @descended v log e point _ descends =>
    have hfirst := (tells v List.mem_cons_self).toIterate
    rw [point, Box.project_of_contains start] at hfirst
    rw [hfirst] at descends
    rw [descends.eq_of_still still]

end GradientDescent

/-! ## Solves that such an evaluator answers -/

namespace Problem

section

variable [Evaluator ω ε] {kept : ε → Prop} {value : Vector Float d.unknowns → Float}
  {slope : Vector Float d.unknowns → Vector Float d.unknowns} {p : Problem d ε GradientDescent}
  {g g' : Gate Thread} {t : Thread} {x₀ : Array Float}

/-- What an admitted solve comes to: its routine went through `log` and left `a`, up to the
constraints. -/
structure Computed (kept : ε → Prop) (p : Problem d ε GradientDescent)
    (x : Vector Float d.unknowns) (s : Solved ω d ε GradientDescent)
    (log : List (Evaluation d.unknowns)) (a : Arguments d) : Prop where
  minimizes : Minimizes p.routine (p.store.prepared x).arguments log a
  outcome : s.outcome = .finished ⟨a.status⟩
  evaluator : kept s.problem.evaluator
  routine : ∃ lastJacobian, s.problem.routine = { p.routine with lastJacobian }
  store : ∃ values jacobian,
    s.problem.store = (p.store.prepared x).settled { a with values, jacobian }

/-- Such an evaluator is ready throughout a solve. -/
theorem ready_call (computes : Evaluator.Computes ω kept value slope) (start : kept p.evaluator)
    (granted : g.grant t d x₀ = .ok g') :
    (∀ u ∈ p.dialogue (ω := ω) g t x₀, u.before.Ready kept) ∧
      (p.call (ω := ω) (.ofGrant granted)
        (p.store.prepared ⟨x₀, Gate.size_of_grant granted⟩)).2.Ready kept := by
  have hasked := (p.departs_call (ω := ω) granted).callsBack
  rw [p.dialogue_granted granted] at hasked ⊢
  exact Program.invariant_of_asked (fun q s hq ready => ready.answer computes hq) _
    ⟨rfl, start⟩ hasked

/-- It tells the function in every evaluation. -/
theorem tells_of_evaluates (computes : Evaluator.Computes ω kept value slope)
    (start : kept p.evaluator) (granted : g.grant t d x₀ = .ok g')
    {u : Turn (Query ω) Query.Answer (Serving ω ε d.nonlinear d.unknowns)}
    (hu : u ∈ p.dialogue (ω := ω) g t x₀) {v : Evaluation d.unknowns}
    (hv : Evaluates t d.counts.unknowns u v) : v.Tells value slope := by
  have ready := (ready_call computes start granted).1 u hu
  have hanswer := (p.answered_of_mem_dialogue granted hu).1
  cases hv with
  | @told nstate x buffer before after r =>
    obtain rfl : r = (Serving.answer (.ofGrant granted)
      (.objective (objectiveCall t d.counts.unknowns nstate x buffer)) before).1 := hanswer
    exact (ready.answer_objective computes nstate x buffer).1

/-- It does not ask to stop in the constraint callback. -/
theorem goes_of_constraints (computes : Evaluator.Computes ω kept value slope)
    (start : kept p.evaluator) (granted : g.grant t d x₀ = .ok g') {call : ConstraintCall}
    {v : ConstraintReturn call} {before after : Serving ω ε d.nonlinear d.unknowns}
    (hu : ⟨.constraints call, before, v, after⟩ ∈ p.dialogue (ω := ω) g t x₀) : ¬v.mode < 0 := by
  have ready := (ready_call computes start granted).1 _ hu
  have hanswer := (p.answered_of_mem_dialogue granted hu).1
  have hquery := (p.departs_call (ω := ω) granted).callsBack _ hu
  cases hquery with
  | constraints a =>
    obtain rfl : v = (Serving.answer (.ofGrant granted) (.constraints _) before).1 := hanswer
    exact (ready.answer_constraints computes a).1

/-- **A solve whose evaluator computes a function** is told the function throughout. -/
theorem exists_computed (computes : Evaluator.Computes ω kept value slope)
    (start : kept p.evaluator) (valid : p.box.Valid) (granted : g.grant t d x₀ = .ok g') :
    ∃ log a, (∀ v ∈ log, v.Tells value slope) ∧
      Computed kept p ⟨x₀, Gate.size_of_grant granted⟩ (p.solve (ω := ω) g t x₀) log a := by
  let lent := p.store.prepared ⟨x₀, Gate.size_of_grant granted⟩
  let run := p.call (ω := ω) (.ofGrant granted) lent
  have hend : run.2.Ready kept := (ready_call computes start granted).2
  obtain ⟨log, a, lastJacobian, values, jacobian, minimizes, hturns, hleft⟩ :=
    (p.departs_call granted).minimized valid
      fun _ _ _ _ hu => goes_of_constraints computes start granted hu
  have hsolved : p.solve (ω := ω) g t x₀ = _ :=
    (p.solve_granted granted).trans
      (conclude_eq_of_return (show run.1.panic = none by rw [hleft]) run.2)
  refine ⟨log, a, fun v hv => ?_, minimizes, ?_, ?_, ⟨lastJacobian, ?_⟩, ⟨values, jacobian, ?_⟩⟩
  · obtain ⟨u, hu, hv⟩ := hturns v hv
    exact tells_of_evaluates computes start granted hu hv
  all_goals rw [hsolved]
  · rw [hend.open_, hleft]
    rfl
  · exact hend.kept
  · rw [hleft]
  · rw [hleft]

/-- A solve of `p` has finished with the end `e` of a descent: what is stored is what a descent
reports that ends so, and bounds and tolerance are those of `p`. -/
structure Ended (kept : ε → Prop) (p : Problem d ε GradientDescent)
    (s : Solved ω d ε GradientDescent) (e : Descended d.unknowns) : Prop where
  outcome : s.outcome = .finished ⟨e.status⟩
  evaluator : kept s.problem.evaluator
  tolerance : s.problem.routine.tolerance = p.routine.tolerance
  box : s.problem.box = p.box
  iterations : s.problem.store.iterations = e.iterations
  point : s.problem.store.point.received = e.last.point
  objective : s.problem.store.objective = e.last.value
  gradient : s.problem.store.gradient = e.last.gradient
  entries : ∃ a, GradientDescent.box a = p.box ∧ ∀ i : Fin d.unknowns,
    s.problem.store.state.get (i.castLE d.unknowns_le_bounds) =
        (report a e).state.get (i.castLE d.unknowns_le_bounds) ∧
      s.problem.store.multipliers.received.get (i.castLE d.unknowns_le_bounds) =
        (report a e).multipliers.get (i.castLE d.unknowns_le_bounds)

omit [Evaluator ω ε] in
theorem Computed.ended {x : Vector Float d.unknowns} {s : Solved ω d ε GradientDescent}
    {log : List (Evaluation d.unknowns)} {e : Descended d.unknowns}
    (h : Computed kept p x s log (report (p.store.prepared x).arguments e)) : Ended kept p s e := by
  obtain ⟨-, outcome, evaluator, ⟨lastJacobian, hroutine⟩, values, jacobian, hstore⟩ := h
  refine ⟨outcome, evaluator, ?_, ?_, ?_, ?_, ?_, ?_, (p.store.prepared x).arguments, rfl, ?_⟩
  · rw [hroutine]
  · unfold Problem.box
    rw [hstore]
    rfl
  all_goals rw [hstore]
  · rfl
  · rfl
  · rfl
  · rfl
  · exact fun i => ⟨rfl, rfl⟩

/-- **A solve whose evaluator computes a function** ends at a point where it has been told the
function. -/
theorem ends (computes : Evaluator.Computes ω kept value slope) (start : kept p.evaluator)
    (valid : p.box.Valid) (granted : g.grant t d x₀ = .ok g') :
    ∃ e, Ended kept p (p.solve (ω := ω) g t x₀) e ∧ OwnStatus e.status ∧
      e.last = .of value slope e.last.point ∧ p.box.Contains e.last.point ∧
      (e.status = statusOptimal → stationarity p.box e.last ≤ p.routine.tolerance) := by
  obtain ⟨log, a, tells, computed⟩ := exists_computed computes start valid granted
  obtain ⟨e, rfl, hstatus, hlast, hstill⟩ := computed.minimizes.reports_function tells
  exact ⟨e, computed.ended, hstatus, hlast, (computed.minimizes.contains valid).2, hstill⟩

/-- **A solve that starts at an optimum** ends there. -/
theorem stays (computes : Evaluator.Computes ω kept value slope) (start : kept p.evaluator)
    (valid : p.box.Valid) {x : Vector Float d.unknowns} (within : p.box.Contains x)
    (still : stationarity p.box (.of value slope x) ≤ p.routine.tolerance)
    (granted : g.grant t d x.toArray = .ok g') :
    Ended kept p (p.solve (ω := ω) g t x.toArray) ⟨statusOptimal, 0, .of value slope x⟩ := by
  obtain ⟨log, a, tells, computed⟩ := exists_computed computes start valid granted
  obtain rfl := computed.minimizes.stays tells within still
  exact computed.ended

end

/-- **An optimum is a fixed point.** Suppose that the evaluator computes a function and its gradient,
and that there is a number between the bounds of each variable. Then an admitted solve from any point
finishes with status 0, 4 or 6, and the objective and the gradient that it leaves are those of the
function at the point that it leaves. If the status is 0, solving again from that point, after
carrying over or not and on any thread that is not serving, finishes with status 0 before the first
iteration, and leaves point, objective, gradient, and states and multipliers of the variables as they
were. -/
theorem optimum_fixed [Evaluator ω ε] {kept : ε → Prop} {value : Vector Float d.unknowns → Float}
    {slope : Vector Float d.unknowns → Vector Float d.unknowns}
    (computes : Evaluator.Computes ω kept value slope) (p : Problem d ε GradientDescent)
    (start : kept p.evaluator) (valid : p.box.Valid) {g g' : Gate Thread} {t : Thread}
    {x₀ : Array Float} (granted : g.grant t d x₀ = .ok g') :
    let solved := p.solve (ω := ω) g t x₀
    let store := solved.problem.store
    (∃ status, (status = 0 ∨ status = 4 ∨ status = 6) ∧ solved.outcome = .finished ⟨status⟩) ∧
    (store.objective = value store.point.received ∧ store.gradient = slope store.point.received) ∧
    (solved.outcome = .finished ⟨0⟩ →
      ∀ q : Problem d ε GradientDescent,
        q = solved.problem ∨ q = (solved.problem.step (ω := ω) g .warmStart).problem →
      ∀ t', g.serving t' = none →
        let again := q.solve (ω := ω) solved.gate t' store.point.received.toArray
        let store' := again.problem.store
        (again.outcome = .finished ⟨0⟩ ∧ store'.iterations = 0) ∧
        (store'.point.received = store.point.received ∧ store'.objective = store.objective ∧
          store'.gradient = store.gradient) ∧
        ∀ i : Fin d.unknowns,
          store'.state.get (i.castLE d.unknowns_le_bounds) =
              store.state.get (i.castLE d.unknowns_le_bounds) ∧
            store'.multipliers.received.get (i.castLE d.unknowns_le_bounds) =
              store.multipliers.received.get (i.castLE d.unknowns_le_bounds)) := by
  intro solved store
  obtain ⟨e, ended, hstatus, hlast, within, hstill⟩ := ends computes start valid granted
  refine ⟨⟨e.status, hstatus, ended.outcome⟩, ?_, fun hoptimal q hq t' unused => ?_⟩
  · rw [show store.point.received = _ from ended.point]
    exact ⟨ended.objective.trans (congrArg Iterate.value hlast),
      ended.gradient.trans (congrArg Iterate.gradient hlast)⟩
  · have hcode : e.status = statusOptimal :=
      Status.mk.inj (Outcome.finished.inj (ended.outcome.symm.trans hoptimal))
    -- Evaluator, settings and bounds are those of the first solve.
    have hq' : q.evaluator = solved.problem.evaluator ∧ q.routine = solved.problem.routine ∧
        q.box = solved.problem.box := by
      rcases hq with rfl | rfl <;> exact ⟨rfl, rfl, rfl⟩
    obtain ⟨hevaluator, hroutine, hbox⟩ := hq'
    have hbox : q.box = p.box := hbox.trans ended.box
    have htolerance : q.routine.tolerance = p.routine.tolerance := by
      rw [hroutine]
      exact ended.tolerance
    have hgate : solved.gate = g := p.solve_gate g t x₀
    have hpoint : store.point.received = e.last.point := ended.point
    obtain ⟨g₁, granted'⟩ := Gate.exists_grant granted unused e.last.point
    have hstill : stationarity q.box (.of value slope e.last.point) ≤ q.routine.tolerance := by
      rw [hbox, htolerance, ← hlast]
      exact hstill hcode
    have again := stays computes (by rw [hevaluator]; exact ended.evaluator) (hbox.symm ▸ valid)
      (hbox.symm ▸ within) hstill granted'
    dsimp only
    rw [hgate, hpoint]
    obtain ⟨a, ha, hentries⟩ := ended.entries
    obtain ⟨a', ha', hentries'⟩ := again.entries
    refine ⟨⟨again.outcome, again.iterations⟩, ⟨again.point, ?_, ?_⟩, fun i => ?_⟩
    · rw [again.objective, ← hlast]
      exact ended.objective.symm
    · rw [again.gradient, ← hlast]
      exact ended.gradient.symm
    · have hreports := report_variables (ha'.trans (hbox.trans ha.symm)) ⟨statusOptimal, 0, _⟩ e
        hlast.symm i
      exact ⟨(hentries' i).1.trans (hreports.1.trans (hentries i).1.symm),
        (hentries' i).2.trans (hreports.2.trans (hentries i).2.symm)⟩

end Problem

namespace Script

theorem pick_singleton {α : Type} (script : List α) (k : Nat) : pick [script] k = script := by
  simp [pick]

/-- A problem in two variables between -1 and 1, whose objective is their sum. -/
def sloping : Problem (small 2 0 1) (EvaluatorScript InnerProblem) GradientDescent where
  evaluator := { objective := [[.sum, .gradientFill 1.0]], constraints := [[.squares]] }
  routine := {}
  store := { Store.new _ with lower := .replicate _ (-1.0), upper := .replicate _ 1.0 }

/-- Its evaluator computes the sum, however often it has been asked. -/
theorem computes_sum {n : Nat} :
    Evaluator.Computes Note (n := n)
      (fun e : EvaluatorScript InnerProblem =>
        e.objective = sloping.evaluator.objective ∧ e.constraints = sloping.evaluator.constraints)
      (fun x => x.toArray.foldl (· + ·) 0.0) (fun _ => .replicate n 1.0) where
  objective {e} f t r events x kept hmode hpoint hsize := by
    have hscript : pick e.objective e.objectiveCalls = [.sum, .gradientFill 1.0] := by
      rw [kept.1]
      exact pick_singleton _ _
    have hreply : (Serving.consult f (Evaluator.objective e t r) events).1 =
        ⟨{ e with objectiveCalls := e.objectiveCalls + 1 },
          ⟨r.mode, r.point.foldl (· + ·) 0.0, .replicate _ 1.0⟩, .ok 0⟩ := by
      show (Serving.consult f (e.answerObjective t r) events).1 = _
      unfold EvaluatorScript.answerObjective
      rw [hscript]
      rfl
    rw [hreply]
    refine ⟨kept, ⟨0, rfl⟩, ?_, ?_, ?_⟩
    · show 0 ≤ r.mode
      rw [hmode]
      decide
    · rw [hpoint]
    · rw [Vector.toArray_replicate, Vector.toArray_replicate, hsize]
  constraints {e} f t r events kept hmode := by
    have hscript : pick e.constraints e.constraintCalls = [.squares] := by
      rw [kept.2]
      exact pick_singleton _ _
    have hreply : (Serving.consult f (Evaluator.constraints e t r) events).1 =
        ⟨{ e with constraintCalls := e.constraintCalls + 1 },
          ConstraintAction.apply r.untouched .squares, .ok 0⟩ := by
      show (Serving.consult f (e.answerConstraints t r) events).1 = _
      unfold EvaluatorScript.answerConstraints
      rw [hscript]
      rfl
    rw [hreply]
    refine ⟨kept, ⟨0, rfl⟩, ?_⟩
    show 0 ≤ r.mode
    rw [hmode]
    decide

/-- It is solved in two iterations, and once more, after carrying over and on another thread, in
none. -/
theorem optimum_fixed_sloping :
    let solved := sloping.solve (ω := Note) .vacant mainThread #[0.5, 3.0]
    let store := solved.problem.store
    let warm := (solved.problem.step (ω := Note) .vacant .warmStart).problem
    let again := warm.solve (ω := Note) solved.gate (otherThread mainThread)
      store.point.received.toArray
    (solved.outcome = .finished ⟨0⟩ ∧ store.iterations = 2 ∧
      store.objective = store.point.received.toArray.foldl (· + ·) 0.0) ∧
    again.outcome = .finished ⟨0⟩ ∧ again.problem.store.iterations = 0 ∧
    again.problem.store.point.received = store.point.received := by
  obtain ⟨-, ⟨hobjective, -⟩, hagain⟩ := Problem.optimum_fixed (ω := Note) computes_sum sloping
    ⟨rfl, rfl⟩ (by decide +kernel)
    (show Gate.vacant.grant mainThread _ #[0.5, 3.0] = .ok _ from rfl)
  have houtcome : (sloping.solve (ω := Note) .vacant mainThread #[0.5, 3.0]).outcome =
      .finished ⟨0⟩ := by decide +kernel
  obtain ⟨⟨houtcome', hiterations⟩, ⟨hpoint, -⟩, -⟩ :=
    hagain houtcome _ (.inr rfl) (otherThread mainThread) rfl
  exact ⟨⟨houtcome, by decide +kernel, hobjective⟩, houtcome', hiterations, hpoint⟩

end Script

end NonlinearFit
