import NonlinearFit.Proofs.AllOrNothing
import NonlinearFit.Proofs.Emission
import NonlinearFit.Proofs.Handover
import NonlinearFit.Script.Routine

/-!
# The trace of a session

**Solves.** A solve that is refused leaves no events. An admitted one says first that the routine is
about to be called, then come the events that each query of the routine adds, and if the routine
returns, the last event says what it returned, as the getters tell it afterwards
(`Solved.Bracketed`).

**Options.** Each line is announced before the routine receives it (`optionEvents`).

**Everything else** is silent, apart from a stray callback, which is told of once.

Main result: `traced`, for the next command after any commands on new problems.
-/

namespace NonlinearFit

variable {ω : Type} {d : Dimensions} {ε ρ : Type}

/-! ## Options -/

/-- The events of handing option lines on to `r`: for each line, that it is about to be forwarded,
and then what the routine notes when it receives it. -/
def optionEvents (ω : Type) {ρ : Type} [Routine ω ρ] (r : ρ) : List String → List (Event ω)
  | [] => []
  | line :: rest =>
    .trace (.forwardingOption line) :: (Routine.configure r line).2.map .note ++
      optionEvents ω (Routine.configure (ω := ω) r line).1 rest

section

variable [Routine ω ρ] (p : Problem d ε ρ)

theorem Problem.events_configure (line : String) :
    (p.configure (ω := ω) line).2.toList = optionEvents ω p.routine [line] := by
  simp [configure, optionEvents]

theorem Problem.events_configureAll (lines : List String) :
    (p.configureAll (ω := ω) lines).2.toList = optionEvents ω p.routine lines := by
  induction lines generalizing p with
  | nil => rfl
  | cons line rest ih =>
    have hrest := ih (p.configure (ω := ω) line).1
    simp only [configureAll, Array.toList_append, hrest]
    simp [configure, optionEvents]

/-- Each line is announced once. -/
theorem traces_optionEvents (r : ρ) (lines : List String) :
    (optionEvents ω r lines).filterMap Event.trace? = lines.map .forwardingOption := by
  induction lines generalizing r with
  | nil => rfl
  | cons line rest ih =>
    simp [optionEvents, ih, List.filterMap_map, Function.comp_def, Event.trace?]

end

/-! ## Solves -/

/-- A flight that begins at a vacant gate serves no other thread. -/
theorem Flight.alone_ofGrant {g' : Gate Thread} {t : Thread} {x₀ : Array Float}
    (h : Gate.vacant.grant t d x₀ = .ok g') : (Flight.ofGrant h).Alone := by
  intro t' ht
  obtain ⟨-, -, rfl⟩ := Gate.enter?_eq_some_iff.mp (Gate.grant_eq_ok_iff.mp h).2
  exact if_neg ht

/-- The events of an admitted solve on thread `t` with the dialogue `us`. -/
structure Solved.Bracketed (t : Thread)
    (us : List (Turn (Query ω) Query.Answer
      (Serving ω (WatchedEvaluator ε) d.nonlinear d.unknowns)))
    (solved : Solved ω d (WatchedEvaluator ε) (WatchedRoutine ρ)) : Prop where
  /-- The routine is called once, with the sizes that the first event tells. -/
  called : ∃ c, solved.problem.routine.calls = [c]
  /-- Before each turn, the call has been announced, and the earlier turns have added theirs. -/
  before : ∀ earlier u later, us = earlier ++ u :: later →
    u.before.events.toList =
      .trace (.callingRoutine d) :: earlier.flatMap Turn.emitted
  /-- If the routine returns, the last event tells what the getters will. -/
  returned : ∀ c ∈ solved.problem.routine.calls, c.panic = none →
    ∃ status, solved.problem.store.status = some status ∧
      solved.events.toList = .trace (.callingRoutine d) :: us.flatMap Turn.emitted ++
        [.trace (.routineReturned status solved.problem.store.iterations
          solved.problem.store.objective)]
  /-- If it panics, nothing is added. -/
  unwound : ∀ c ∈ solved.problem.routine.calls, ∀ payload, c.panic = some payload →
    solved.events.toList = .trace (.callingRoutine d) :: us.flatMap Turn.emitted
  /-- A turn adds notes and what its query emits. -/
  emits : ∀ u ∈ us, u.Emits t
  /-- So no other event tells of a call or of a return. -/
  inside : ∀ u ∈ us, ∀ x ∈ u.emitted.filterMap Event.trace?, x.isBracket = false
  /-- A panic of the evaluator is told of once. -/
  panics : (traces solved.events).count .evaluatorPanicked =
    solved.problem.evaluator.firstPanic.toList.length
  /-- Every callback from another thread is told of once, in order. -/
  unserved : (traces solved.events).filterMap Trace.unserved? =
    us.filterMap fun u => u.query.foreign? t

namespace Problem

variable [Evaluator ω ε] [Routine ω ρ] (p : Problem d ε ρ) {t : Thread} {x₀ : Array Float}
  {g' : Gate Thread}

section

variable {f : Flight} (alone : f.Alone) (lent : Store d)

include alone

/-- The events during a call. -/
theorem events_call :
    (p.call (ω := ω) f lent).2.events.toList = .trace (.callingRoutine d) ::
      ((Routine.solve p.routine f.thread d.counts lent.arguments).dialogue (Serving.answer f)
        ⟨p.service, #[.trace (.callingRoutine d)]⟩).flatMap Turn.emitted :=
  Program.log_run (l := fun s : Serving ω ε d.nonlinear d.unknowns => s.events.toList)
    (Serving.events_answer alone) _ _

/-- Panics that are kept have been told of. -/
theorem panics_call :
    (traces (p.call (ω := ω) f lent).2.events).count .evaluatorPanicked =
      (p.call (ω := ω) f lent).2.service.panic.toList.length := by
  let I (s : Serving ω ε d.nonlinear d.unknowns) : Prop :=
    (traces s.events).count .evaluatorPanicked = s.service.panic.toList.length
  refine Program.run_invariant (I := I) (fun q s hs => ?_) _ rfl
  obtain ⟨xs, hadds, hemits⟩ := Serving.leads_answer f s alone q
  show (traces (Serving.answer f q s).2.events).count _ = _
  rw [hadds.traces, List.count_append, hemits.panics, ← show _ = _ from hs]

end

omit [Routine ω ρ] in
/-- A call adds what its turns emit. -/
theorem emits_of_mem_dialogue {f : Flight} (alone : f.Alone)
    {r : Calling ω (Departure d ρ)} {s : Serving ω ε d.nonlinear d.unknowns}
    {u : Turn (Query ω) Query.Answer (Serving ω ε d.nonlinear d.unknowns)}
    (hu : u ∈ r.dialogue (Serving.answer f) s) : u.Emits f.thread := by
  obtain ⟨hanswer, hafter⟩ := r.handle_of_mem_dialogue hu
  obtain ⟨query, before, answer, after⟩ := u
  obtain rfl : answer = (Serving.answer f query before).1 := hanswer
  obtain rfl : after = (Serving.answer f query before).2 := hafter
  exact Serving.emits_turn alone query before

omit [Evaluator ω ε] [Routine ω ρ] in
/-- What the conclusion of a solve adds to the events of the call. -/
theorem bracketed_conclude {g : Gate Thread} {lent : Store d} {t : Thread}
    {us : List (Turn (Query ω) Query.Answer
      (Serving ω (WatchedEvaluator ε) d.nonlinear d.unknowns))}
    {left : Departure d (WatchedRoutine ρ)}
    {s : Serving ω (WatchedEvaluator ε) d.nonlinear d.unknowns} {c : RoutineCall}
    (calls : left.routine.calls = [c]) (panic : c.panic = left.panic)
    (before : ∀ earlier u later, us = earlier ++ u :: later →
      u.before.events.toList = .trace (.callingRoutine d) :: earlier.flatMap Turn.emitted)
    (emits : ∀ u ∈ us, u.Emits t)
    (events : s.events.toList = .trace (.callingRoutine d) :: us.flatMap Turn.emitted)
    (panics : (traces s.events).count .evaluatorPanicked =
      s.service.evaluator.firstPanic.toList.length) :
    (conclude g lent left s).Bracketed t us := by
  have hunserved : (traces s.events).filterMap Trace.unserved? =
      us.filterMap fun u => u.query.foreign? t := by
    rw [← Turn.unserved_flatMap emits, traces, events]
    rfl
  cases hpanic : left.panic with
  | none =>
    rw [conclude_eq_of_return hpanic]
    refine ⟨⟨c, calls⟩, before, fun _ _ _ => ⟨_, rfl, ?_⟩, fun c' hc' payload hp => ?_, emits,
      fun u hu => (emits u hu).inside, ?_, ?_⟩
    · simp only [Array.toList_push, events, List.cons_append]
      rfl
    · obtain rfl := List.mem_singleton.mp (calls ▸ hc')
      cases (panic.trans hpanic).symm.trans hp
    · rw [traces_push, List.count_append, panics]
      rfl
    · rw [traces_push, List.filterMap_append, hunserved]
      exact List.append_nil _
  | some payload =>
    rw [conclude_eq_of_panic hpanic]
    refine ⟨⟨c, calls⟩, before, fun c' hc' hp => ?_, fun _ _ _ _ => events, emits,
      fun u hu => (emits u hu).inside, panics, hunserved⟩
    obtain rfl := List.mem_singleton.mp (calls ▸ hc')
    cases (panic.trans hpanic).symm.trans hp

/-- **An admitted solve is bracketed.** -/
theorem bracketed (h : Gate.vacant.grant t d x₀ = .ok g') :
    (p.watched.solve (ω := ω) .vacant t x₀).Bracketed t (p.watched.dialogue .vacant t x₀) := by
  have alone := Flight.alone_ofGrant h
  let lent := p.store.prepared ⟨x₀, Gate.size_of_grant h⟩
  obtain ⟨run, hrun, -⟩ := p.call_watched (ω := ω) (.ofGrant h) lent
  have hevents := p.watched.events_call (ω := ω) alone lent
  have hpanics := p.watched.panics_call (ω := ω) alone lent
  rw [(p.faithful_call (ω := ω) (.ofGrant h) lent).panic] at hpanics
  rw [p.watched.dialogue_granted h, p.watched.solve_granted h]
  show Solved.Bracketed t _ (conclude .vacant lent (p.watched.call (ω := ω) (.ofGrant h) lent).1
    (p.watched.call (ω := ω) (.ofGrant h) lent).2)
  rw [hrun] at hevents hpanics ⊢
  refine bracketed_conclude rfl rfl (fun earlier u later cut => ?_)
    (fun u hu => emits_of_mem_dialogue alone hu) hevents hpanics
  exact Program.log_before
    (l := fun s : Serving ω (WatchedEvaluator ε) d.nonlinear d.unknowns => s.events.toList)
    (Serving.events_answer alone) _ cut

end Problem

/-! ## Sessions -/

/-- The call of the routine is announced with the sizes that the routine is told. -/
theorem Dimensions.data_callingRoutine (d : Dimensions) :
    (Trace.callingRoutine d).data = [
      ("n", .integer d.counts.unknowns.toInt), ("nclin", .integer d.counts.linear.toInt),
      ("ncnln", .integer d.counts.nonlinear.toInt), ("lda", .integer d.counts.linearRows.toInt),
      ("ldj", .integer d.counts.jacobianRows.toInt), ("ldr", .integer d.counts.hessianRows.toInt),
      ("leniw", .integer d.counts.integerWork.toInt),
      ("lenw", .integer d.counts.realWork.toInt)] := by
  have h := d.tells_counts
  rw [h.unknowns, h.linear, h.nonlinear, h.linearRows, h.jacobianRows, h.hessianRows,
    h.integerWork, h.realWork]
  rfl

/-- Whether a step neither hands on options nor solves. -/
def Step.isSilent : Step ε ρ → Bool
  | configure _ | adopt _ | solve .. => false
  | setBounds .. | setLower _ | setUpper _ | setBound .. | setLinear _ | setJacobian _
  | setHessian _ | setMultipliers _ | setState _ | warmStart | changeEvaluator _
  | changeRoutine _ => true

section

variable [Evaluator ω ε] [Routine ω ρ]

theorem Problem.events_step_of_silent (p : Problem d ε ρ) (g : Gate Thread) {a : Step ε ρ}
    (silent : a.isSilent = true) : (p.step (ω := ω) g a).events = #[] := by
  have hupdate (x : Except Refusal (Store d)) : (p.update (ω := ω) g x).events = #[] := by
    cases x <;> rfl
  cases a with
  | configure | adopt | solve => cases silent
  | changeEvaluator | changeRoutine => rfl
  | _ => exact hupdate _

theorem Problem.events_adopt (p : Problem d ε ρ) (g : Gate Thread) (o : Options) :
    (p.step (ω := ω) g (.adopt o)).events.toList =
      match o.check with
      | .ok _ => optionEvents ω p.routine o.lines
      | .error _ => [] := by
  cases hcheck : o.check with
  | error e =>
    rw [p.step_adopt_of_error g hcheck]
  | ok _ =>
    rw [p.step_adopt_of_ok g hcheck]
    exact p.events_configureAll o.lines

/-- **Traces are bracketed.** After any commands on new problems, the events of the next command are
these:

* a stray callback is told of once;
* setters, carrying over, and exchanging evaluator or routine add nothing;
* each option line is announced once and before the routine receives it, also when options are
  adopted, unless they are inadmissible and nothing is added;
* a solve that is refused adds nothing, and any other is bracketed. -/
theorem Session.traced (problems : List (AnyProblem ε ρ)) (commands : List (Command ε ρ)) :
    let s := ((start problems).run (ω := ω) commands).2
    let events (c : Command ε ρ) := (s.step (ω := ω) c).2.1
    (∀ c, events (.stray c) = #[.trace (.unserved c.callback)]) ∧
    ∀ i d p, s.problems[i]? = some ⟨d, p⟩ →
      (∀ a, a.isSilent = true → events (.step i a) = #[]) ∧
      (∀ line, (events (.step i (.configure line))).toList = optionEvents ω p.routine [line]) ∧
      (∀ o, (events (.step i (.adopt o))).toList =
        match o.check with
        | .ok _ => optionEvents ω p.routine o.lines
        | .error _ => []) ∧
      (∀ lines, (optionEvents ω p.routine lines).filterMap Event.trace? =
        lines.map .forwardingOption) ∧
      ∀ start elsewhere,
        let t := if elsewhere then otherThread mainThread else mainThread
        let solved := p.watched.solve (ω := ω) s.gate t (p.resolve start)
        let us := p.watched.dialogue (ω := ω) s.gate t (p.resolve start)
        solved.map WatchedEvaluator.evaluator WatchedRoutine.routine =
          p.solve s.gate t (p.resolve start) ∧
        us.map (Turn.map (Serving.map WatchedEvaluator.evaluator)) =
          p.dialogue s.gate t (p.resolve start) ∧
        events (.step i (.solve start elsewhere)) = solved.events ∧
        (∀ e, solved.outcome = .refused e → solved.events = #[] ∧ us = []) ∧
        ((∀ e, solved.outcome ≠ .refused e) → solved.Bracketed t us ∧
          (Trace.callingRoutine d).data = [
            ("n", .integer d.counts.unknowns.toInt), ("nclin", .integer d.counts.linear.toInt),
            ("ncnln", .integer d.counts.nonlinear.toInt),
            ("lda", .integer d.counts.linearRows.toInt),
            ("ldj", .integer d.counts.jacobianRows.toInt),
            ("ldr", .integer d.counts.hessianRows.toInt),
            ("leniw", .integer d.counts.integerWork.toInt),
            ("lenw", .integer d.counts.realWork.toInt)]) := by
  intro s events
  have hgate : s.gate = .vacant := gate_run _ commands
  refine ⟨fun c => ?_, fun i d p hp => ?_⟩
  · show (s.step (ω := ω) (.stray c)).2.1 = _
    simp only [step, hgate]
    rfl
  have hevents (a : Step ε ρ) : events (.step i a) = (p.step (ω := ω) s.gate a).events := by
    show (s.step (ω := ω) (.step i a)).2.1 = _
    simp only [step, hp]
  refine ⟨fun a ha => ?_, fun line => ?_, fun o => ?_, traces_optionEvents p.routine, ?_⟩
  · rw [hevents]
    exact p.events_step_of_silent s.gate ha
  · rw [hevents]
    exact p.events_configure line
  · rw [hevents]
    exact p.events_adopt s.gate o
  · intro start elsewhere t solved us
    have hwatched := p.solve_watched (ω := ω) s.gate t (p.resolve start)
    refine ⟨hwatched, p.dialogue_watched s.gate t (p.resolve start), ?_, fun e he => ?_,
      fun hne => ?_⟩
    · rw [hevents]
      exact congrArg (fun r : Solved ω d ε ρ => r.events) hwatched.symm
    · have hdeclines := (p.watched.outcome_solve_eq_refused_iff s.gate).mp he
      have hg := Gate.grant_eq_error_iff.mpr hdeclines
      exact ⟨congrArg Solved.events (p.watched.solve_refused hg), p.watched.dialogue_refused hg⟩
    · cases hg : s.gate.grant t d (p.resolve start) with
      | error e => exact absurd (congrArg Solved.outcome (p.watched.solve_refused hg)) (hne e)
      | ok g' =>
        have hvacant : Gate.vacant.grant t d (p.resolve start) = .ok g' := hgate ▸ hg
        have hbracketed := p.bracketed (ω := ω) hvacant
        rw [← hgate] at hbracketed
        exact ⟨hbracketed, d.data_callingRoutine⟩

end

/-! ## A solve that is told of in full -/

namespace Script

/-- A problem whose routine calls back from another thread, and then twice from its own, where the
evaluator panics. -/
def straying : ScriptedProblem where
  dims := small 1 0 0
  problem := .new _ (.direct { objective := [[.control (.panic "no value")]] })
    (.direct (.linked ⟨.script { script := [[
      .objective ⟨2, 1, .own, .own, .own, true⟩, .objective ⟨2, 1, .own, .own, .own, false⟩,
      .objective ⟨2, 0, .own, .own, .own, false⟩, .iterations 4, .status 6]] }⟩))

/-- One callback is not served, one panic is told of, and the last event is what the getters say. -/
theorem traced_straying :
    let s := ((Session.start [straying]).run (ω := Note) [.step 0 (.configure "List")]).2
    let r := s.step (ω := Note) (.step 0 (.solve (.given #[0.5]) false))
    (traces r.2.1).count .evaluatorPanicked = 1 ∧
      (traces r.2.1).filterMap Trace.unserved? = [.objective] ∧
      ∃ early objective, r.2.1.toList = .trace (.callingRoutine (small 1 0 0)) :: early ++
        [.trace (.routineReturned ⟨6⟩ 4 objective)] := by
  intro s r
  obtain ⟨-, hproblems⟩ := Session.traced (ω := Note) [straying] [.step 0 (.configure "List")]
  obtain ⟨-, -, -, -, hsolves⟩ := hproblems 0 _ _ rfl
  obtain ⟨-, -, hevents, -, hadmitted⟩ := hsolves (.given #[0.5]) false
  obtain ⟨hbracketed, -⟩ := hadmitted nofun
  obtain ⟨c, hcalls⟩ := hbracketed.called
  obtain ⟨status, hstatus, hlist⟩ :=
    hbracketed.returned c (hcalls ▸ List.mem_singleton_self c) (by cases hcalls; rfl)
  cases hstatus
  have hr : r.2.1 = _ := hevents
  rw [hr]
  exact ⟨hbracketed.panics, hbracketed.unserved, _, _, hlist⟩

end Script

end NonlinearFit
