import NonlinearFit.Proofs.Handover

/-!
# The first panic of a solve

When its evaluator panics, a solve keeps the panic and goes on without the evaluator until the
routine ends.

**In the callback that panics** the routine is asked to stop, whatever mode the evaluator had set
before, and the Jacobian stays as the routine passed it (`Query.Stops`).

**In later callbacks** the routine is asked to stop and nothing is written (`Query.Refuses`). The
evaluator is not asked again.

**After the routine** the results are stored as those of any solve whose routine left the same
buffers (`Problem.store_of_calls`), and then the kept panic comes out.

**In the next solve** only panics of that solve count (`Problem.OwnPanics`).

**Stop codes** have to be negative. An evaluator that asks to stop with any other one panics there
(`requestStop_eq_raise`), and what it was to do next is not done (`Program.andThen_raise`).

Main result: `first_panic`, for any problem, routine and evaluator.
-/

namespace NonlinearFit

variable {ω : Type} {d : Dimensions} {ε ρ : Type}

/-! ## Answers that ask the routine to stop -/

namespace Query

/-- The callback returns -1 with mode -1 and leaves the Jacobian as it was passed. -/
def Stops : (q : Query ω) → q.Answer → Prop
  | inquiry _, _ => False
  | objective _, (r : ObjectiveReturn _) => r.status = -1 ∧ r.mode = -1
  | constraints c, (r : ConstraintReturn c) =>
    r.status = -1 ∧ r.mode = -1 ∧ r.jacobian.toArray = c.jacobian

/-- The callback, if it is one, returns -1 with mode -1 and leaves everything else as it was
passed. -/
def Refuses : (q : Query ω) → q.Answer → Prop
  | inquiry _, _ => True
  | objective c, (r : ObjectiveReturn c) =>
    r.status = -1 ∧ r.mode = -1 ∧ r.value = c.value ∧ r.gradient.toArray = c.gradient
  | constraints c, (r : ConstraintReturn c) =>
    r.status = -1 ∧ r.mode = -1 ∧ r.values.toArray = c.values ∧ r.jacobian.toArray = c.jacobian

/-- The callback comes in on thread `t`. If it asks for constraints, it counts `rows` of them in
`cols` variables and brings a buffer that holds their Jacobian. -/
def InOrder (rows cols : Nat) (t : Thread) : Query ω → Prop
  | inquiry _ => False
  | objective c => c.thread = t
  | constraints c => c.thread = t ∧
    (rows, cols) = (min c.nonlinear.toCount c.needed.size, min c.unknowns.toCount c.point.size) ∧
    ∃ m, Matrix.gather rows cols c.stride.toCount (Serving.jacobianBuffer c) = .ok m

end Query

namespace Serving

section

variable {rows cols : Nat} [Evaluator ω ε] {f : Flight} {s : Serving ω ε rows cols} {q : Query ω}
  {a : q.Answer} {s' : Service ε rows cols}

/-- While a panic is kept, every callback is refused. -/
theorem Response.refuses (h : Response f s q a s') {payload : String}
    (kept : s.service.panic = some payload) : q.Refuses a ∧ s' = s.service := by
  cases h with
  | inquiry => exact ⟨trivial, rfl⟩
  | objectiveRefused | constraintsRefused => exact ⟨⟨rfl, rfl, rfl, rfl⟩, rfl⟩
  | objectiveDone open_ | constraintsDone open_ | objectivePanicked open_
  | constraintsPanicked open_ => exact absurd (open_.symm.trans kept) nofun

/-- A callback after which a panic is kept for the first time asks the routine to stop. -/
theorem Response.stops (h : Response f s q a s') (open_ : s.service.panic = none)
    {payload : String} (kept : s'.panic = some payload) : q.Stops a := by
  cases h with
  | inquiry | objectiveRefused | constraintsRefused | objectiveDone | constraintsDone =>
    exact absurd (open_.symm.trans kept) nofun
  | objectivePanicked _ _ status mode => exact ⟨status, mode⟩
  | constraintsPanicked _ _ status mode jacobian => exact ⟨status, mode, jacobian⟩

end

/-! ## Callbacks that reach the evaluator -/

section

variable {rows cols : Nat} [Evaluator ω ε] (f : Flight) (s : Serving ω ε rows cols)

theorem evaluator_serveObjective (c : ObjectiveCall) (open_ : s.service.panic = none) :
    (serveObjective f c s).2.service.evaluator = (s.objectiveReply f c).evaluator := by
  unfold serveObjective objectiveReply
  simp only [open_, Option.isSome_none, Bool.false_eq_true, if_false]
  split <;> rfl

theorem evaluator_evaluateConstraints (c : ConstraintCall) (jacobian : Matrix rows cols) :
    (evaluateConstraints f c jacobian s).2.service.evaluator =
      (s.constraintReply f c jacobian).evaluator := by
  unfold evaluateConstraints constraintReply
  dsimp only
  split
  · rfl
  · split <;> rfl

/-- **A callback in order reaches the evaluator** while no panic is kept. -/
theorem reached (s : Serving ω (WatchedEvaluator ε) rows cols) (open_ : s.service.panic = none)
    {q : Query ω}
    (order : q.InOrder rows cols f.thread) :
    ∃ c, (answer f q s).2.service.evaluator.calls = s.service.evaluator.calls ++ [c] := by
  cases q with
  | inquiry => exact order.elim
  | objective c =>
    have hserving : f.gate.serving c.thread = some f.thread := by
      rw [show c.thread = f.thread from order, f.serving]
    show ∃ _, (answerObjective f c s).2.service.evaluator.calls = _
    unfold answerObjective
    rw [hserving]
    dsimp only
    rw [evaluator_serveObjective f s c open_]
    exact ⟨_, s.calls_objectiveReply f c⟩
  | constraints c =>
    obtain ⟨hthread, hcounts, jacobian, hgather⟩ := order
    have hserving : f.gate.serving c.thread = some f.thread := by rw [hthread, f.serving]
    show ∃ _, (answerConstraints f c s).2.service.evaluator.calls = _
    unfold answerConstraints
    rw [hserving]
    dsimp only
    unfold serveConstraints
    simp only [open_, Option.isSome_none, Bool.false_eq_true, if_false, hcounts, ne_eq,
      not_true_eq_false, hgather]
    rw [evaluator_evaluateConstraints]
    exact ⟨_, s.calls_constraintReply f c jacobian⟩

end

end Serving

/-! ## Panics of a solve -/

namespace Problem

variable [Evaluator ω ε] [Routine ω ρ] (p : Problem d ε ρ) (g : Gate Thread) (t : Thread)
  (x₀ : Array Float)

/-- Panics of the solve itself are all that matters to it: until its evaluator panics, callbacks in
order reach the evaluator, and a panic of an evaluator that comes out of it is its own first one. -/
structure OwnPanics (ω : Type) {ε ρ : Type} [Evaluator ω ε] [Routine ω ρ] (p : Problem d ε ρ)
    (g : Gate Thread) (t : Thread) (x₀ : Array Float) : Prop where
  reached : ∀ u ∈ p.watched.dialogue (ω := ω) g t x₀,
    u.before.service.evaluator.firstPanic = none → u.query.InOrder d.nonlinear d.unknowns t →
    ∃ c, u.after.service.evaluator.calls = u.before.service.evaluator.calls ++ [c]
  outcome : ∀ payload, (p.solve (ω := ω) g t x₀).outcome = .panicked (.evaluator payload) →
    (p.watched.solve (ω := ω) g t x₀).problem.evaluator.firstPanic = some payload

theorem ownPanics : p.OwnPanics ω g t x₀ where
  reached u hu hnone order := by
    obtain ⟨earlier, later, cut⟩ := List.append_of_mem hu
    obtain ⟨g', hg, rest, hturn, -, -⟩ := p.watched.dialogue_split cut
    have open_ : u.before.service.panic = none := (p.faithful_of_mem_dialogue hu).panic.trans hnone
    rw [(Prod.mk.inj hturn).2]
    exact Serving.reached (.ofGrant hg) u.before open_ order
  outcome payload h := by
    obtain ⟨payload', heq, hfirst⟩ | ⟨payload', heq, -⟩ := p.panicked_cases h
    · cases heq
      exact hfirst
    · cases heq

end Problem

/-! ## The main result -/

namespace Problem

section

variable [Evaluator ω ε] [Routine ω ρ] {p : Problem d ε ρ} {g : Gate Thread} {t : Thread}
  {x₀ : Array Float}
  {earlier later : List (Turn (Query ω) Query.Answer
    (Serving ω (WatchedEvaluator ε) d.nonlinear d.unknowns))}
  {turn : Turn (Query ω) Query.Answer (Serving ω (WatchedEvaluator ε) d.nonlinear d.unknowns)}
  {payload : String}
  (cut : p.watched.dialogue (ω := ω) g t x₀ = earlier ++ turn :: later)
  (before : turn.before.service.evaluator.firstPanic = none)
  (after : turn.after.service.evaluator.firstPanic = some payload)

include cut

/-- What the service keeps around a turn is what is on the evaluator's list. -/
theorem panic_around :
    turn.before.service.panic = turn.before.service.evaluator.firstPanic ∧
      turn.after.service.panic = turn.after.service.evaluator.firstPanic := by
  obtain ⟨g', hg, rest, hturn, -, -⟩ := p.watched.dialogue_split cut
  have hbefore : turn.before.Faithful :=
    p.faithful_of_mem_dialogue (cut ▸ List.mem_append_right earlier List.mem_cons_self)
  have hafter : turn.after.Faithful :=
    (Prod.mk.inj hturn).2 ▸ hbefore.answer (.ofGrant hg) turn.query
  exact ⟨hbefore.panic, hafter.panic⟩

include before after

/-- The callback in which the evaluator panics. -/
theorem stops_of_first_panic :
    turn.query.Stops turn.answer ∧
      ∃ request, turn.after.service.evaluator.calls =
        turn.before.service.evaluator.calls ++ [⟨request, true, .error payload⟩] := by
  obtain ⟨hbefore, hafter⟩ := panic_around cut
  obtain ⟨g', hg, rest, hturn, -, -⟩ := p.watched.dialogue_split cut
  have hresponse := Serving.response (.ofGrant hg) turn.query turn.before
  have hcases := Serving.service_answer_cases (.ofGrant hg) turn.before turn.query
  rw [← hturn] at hresponse hcases
  refine ⟨hresponse.stops (hbefore.trans before) (hafter.trans after), ?_⟩
  rcases hcases with hsame | ⟨-, c, hbusy, hcalls, hpanic⟩
  · rw [hsame, before] at after
    exact absurd after nofun
  · obtain ⟨request, busy, ending⟩ := c
    obtain rfl : busy = true := hbusy
    have hending : EvaluatorCall.panic? ⟨request, true, ending⟩ = some payload :=
      hpanic.symm.trans (hafter.trans after)
    cases ending with
    | ok status => exact absurd hending nofun
    | error text =>
      obtain rfl : text = payload := Option.some.inj hending
      exact ⟨request, hcalls⟩

omit before in
/-- The callbacks after it, and the evaluator that the solve ends with. -/
theorem refuses_after_panic :
    (∀ u ∈ later, u.query.Refuses u.answer ∧ u.after.service = turn.after.service) ∧
      (p.watched.solve (ω := ω) g t x₀).problem.evaluator = turn.after.service.evaluator := by
  have kept := (panic_around cut).2.trans after
  obtain ⟨g', hg, rest, -, hlater, hend⟩ := p.watched.dialogue_split cut
  -- Once a panic is kept, no query touches the service.
  let I (s : Serving ω (WatchedEvaluator ε) d.nonlinear d.unknowns) : Prop :=
    s.service = turn.after.service
  have step (q : Query ω) (s : Serving ω (WatchedEvaluator ε) d.nonlinear d.unknowns) (hs : I s) :
      q.Refuses (Serving.answer (.ofGrant hg) q s).1 ∧ I (Serving.answer (.ofGrant hg) q s).2 := by
    have hrefuses := (Serving.response (.ofGrant hg) q s).refuses (hs.symm ▸ kept)
    exact ⟨hrefuses.1, hrefuses.2.trans hs⟩
  have keep (q : Query ω) (s : Serving ω (WatchedEvaluator ε) d.nonlinear d.unknowns) (hs : I s) :=
    (step q s hs).2
  constructor
  · intro u hu
    rw [hlater] at hu
    have hbefore : I u.before := Program.dialogue_invariant keep rest rfl u hu
    obtain ⟨hanswer, hafter⟩ := Program.handle_of_mem_dialogue rest hu
    rw [hanswer, hafter]
    exact step u.query u.before hbefore
  · rw [hend]
    have hrun : I (rest.run (Serving.answer (.ofGrant hg)) turn.after).2 :=
      Program.run_invariant keep rest rfl
    rw [hrun]

end

/-- **The first panic.** Suppose that in a solve the evaluator panics for the first time, with
`payload`, in the callback `turn`. Then:

* that callback asks the routine to stop, and its request is the one that ended with the panic;
* later callbacks are refused, and the service is not touched any more;
* if the routine returns, the results are stored as those of any problem with the same data whose
  routine left the same buffers, and `payload` comes out;
* the next solve of the problem knows only its own panics;
* whatever an evaluator has done `first`, if it then asks to stop with a code that is not negative,
  it panics: what `first` left stays, and the `rest` is not done. -/
theorem first_panic [Evaluator ω ε] [Routine ω ρ] (p : Problem d ε ρ) (g : Gate Thread)
    (t : Thread) (x₀ : Array Float)
    {earlier later : List (Turn (Query ω) Query.Answer
      (Serving ω (WatchedEvaluator ε) d.nonlinear d.unknowns))}
    {turn : Turn (Query ω) Query.Answer (Serving ω (WatchedEvaluator ε) d.nonlinear d.unknowns)}
    {payload : String}
    (cut : p.watched.dialogue (ω := ω) g t x₀ = earlier ++ turn :: later)
    (before : turn.before.service.evaluator.firstPanic = none)
    (after : turn.after.service.evaluator.firstPanic = some payload) :
    let solved := p.watched.solve (ω := ω) g t x₀
    (solved.map WatchedEvaluator.evaluator WatchedRoutine.routine = p.solve g t x₀ ∧
      (p.watched.dialogue (ω := ω) g t x₀).map
        (Turn.map (Serving.map WatchedEvaluator.evaluator)) = p.dialogue g t x₀) ∧
    (turn.query.Stops turn.answer ∧
      ∃ request, turn.after.service.evaluator.calls =
        turn.before.service.evaluator.calls ++ [⟨request, true, .error payload⟩]) ∧
    (∀ u ∈ later, u.query.Refuses u.answer ∧ u.after.service = turn.after.service) ∧
    (∃ received left panic,
      solved.problem.routine.calls = [⟨d, t, d.counts, received, left, panic⟩] ∧
      (panic = none →
        solved.outcome = .panicked (.evaluator payload) ∧ solved.problem.store.Reports left ∧
        ∀ (ε' ρ' : Type) [Evaluator ω ε'] [Routine ω ρ'] (p' : Problem d ε' ρ')
          (g' : Gate Thread) (t' : Thread) (received' : Arguments d), p'.store = p.store →
          let solved' := p'.watched.solve (ω := ω) g' t' x₀
          solved'.problem.routine.calls = [⟨d, t', d.counts, received', left, none⟩] →
          solved'.problem.store = solved.problem.store)) ∧
    (∀ (g₂ : Gate Thread) (t₂ : Thread) (x₂ : Array Float),
      (p.solve (ω := ω) g t x₀).problem.OwnPanics ω g₂ t₂ x₂) ∧
    ∀ {Output : Type} (setMode : Output → Integer → Output) (code : Integer)
      (first : Inquiring ω (Output × Except String Integer))
      (rest : Output → Integer → Inquiring ω (Output × Except String Integer)), 0 ≤ code →
      (first.andThen fun o status => (requestStop setMode code o status).andThen rest) =
        first.map fun r => (r.1, r.2.bind fun _ => .error "stop codes are negative") := by
  intro solved
  obtain ⟨hlater, hend⟩ := refuses_after_panic cut after
  obtain ⟨g', hg, -⟩ := p.watched.dialogue_split cut
  obtain ⟨left, panic, acc⟩ := p.account (ω := ω) hg
  refine ⟨⟨p.solve_watched g t x₀, p.dialogue_watched g t x₀⟩,
    stops_of_first_panic cut before after, hlater, ⟨_, left, panic, acc.calls, ?_⟩,
    fun g₂ t₂ x₂ => ownPanics _ g₂ t₂ x₂, ?_⟩
  · intro hpanic
    obtain ⟨houtcome, hstore⟩ := acc.returned hpanic
    refine ⟨?_, hstore ▸ Store.reports_settled _ left, ?_⟩
    · rw [houtcome, hend, after]
      rfl
    · intro ε' ρ' _ _ p' g' t' received' hp' solved' hcalls
      obtain ⟨hx, hstore'⟩ := p'.store_of_calls hcalls
      rw [hstore', hstore, hp']
  · intro Output setMode code first rest hcode
    simp only [requestStop_eq_raise hcode]
    exact first.andThen_raise _ rest

end Problem

namespace Script

/-- A problem whose evaluator writes one entry of the Jacobian, asks to stop with -7 and then with
3, and whose routine goes on with the objective. -/
def halting : Problem ⟨1, 0, 1, by decide, by decide, by decide, by decide⟩
    (EvaluatorScript InnerProblem) (RoutineScript InnerProblem) :=
  .new _
    { constraints := [[.entry 0 0 8.0, .control (.stop (-7)), .control (.stop 3)]] }
    { script := [[
      .constraints ⟨2, 1, .own, .own, .own, .own, .own, .own, .own, false⟩,
      .objective ⟨2, 0, .own, .own, .own, false⟩, .iterations 2, .status 9]] }

/-- Its evaluator is asked once, its routine returns, and the panic comes out of the solve. -/
theorem first_panic_halting :
    let solved := halting.watched.solve (ω := Note) .vacant mainThread #[0.5]
    solved.problem.evaluator.calls.map EvaluatorCall.ending =
        [.error "stop codes are negative"] ∧
      ∃ counts received left,
        solved.problem.routine.calls = [⟨_, mainThread, counts, received, left, none⟩] ∧
        solved.outcome = .panicked (.evaluator "stop codes are negative") ∧
        solved.problem.store.Reports left ∧ solved.problem.store.iterations = 2 := by
  intro solved
  obtain ⟨-, -, -, ⟨received, left, panic, hcalls, hreturned⟩, -, -⟩ :=
    halting.first_panic (ω := Note) .vacant mainThread #[0.5] (show _ = [] ++ _ :: _ from rfl) rfl
      (show _ = some "stop codes are negative" from rfl)
  have hpanic : solved.problem.routine.calls.map RoutineCall.panic = [none] := rfl
  rw [hcalls] at hpanic
  obtain rfl : panic = none := (List.cons.inj hpanic).1
  obtain ⟨houtcome, hreports, -⟩ := hreturned rfl
  exact ⟨rfl, _, received, left, hcalls, houtcome, hreports, rfl⟩

end Script

end NonlinearFit
