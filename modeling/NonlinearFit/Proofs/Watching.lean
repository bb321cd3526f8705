import NonlinearFit.Proofs.Answering
import NonlinearFit.Proofs.Simulation

/-!
# Watching a solve

A `WatchedEvaluator` keeps a list of the requests that reached it, and a `WatchedRoutine` a list of
the calls that it got. Both do otherwise what they would do unwatched, so a problem can be watched
without changing its solves (`Problem.solve_watched`, `Problem.dialogue_watched`).

**Requests.** For each request the evaluator's list says what was asked, whether a solve was in
flight then, and how the evaluator ended (`EvaluatorCall`). `WatchedEvaluator.firstPanic` is the
payload of the first panic in the list.

**Calls.** For each call the routine's list says what the routine received and what it left
(`RoutineCall`).

**During a solve** the service keeps exactly the first panic on the evaluator's list, and every
request on it came while a solve was in flight (`Serving.Faithful`); each query preserves this
(`Serving.Faithful.answer`).

**Afterwards** the two lists, the outcome and the data of a solve fit together (`Problem.account`).
-/

namespace NonlinearFit

variable {ω : Type} {d : Dimensions} {ε ρ : Type}

/-! ## Evaluators -/

/-- Whoever asks during a solve learns that one is in flight. -/
theorem Serving.consult_busy {α : Type} (f : Flight) (k : Bool → Inquiring ω α)
    (events : Array (Event ω)) : consult f (.ask .busy k) events = consult f (k true) events := by
  show consult f (k f.gate.claimed) events = _
  rw [f.claimed]

/-- A request that reached an evaluator. -/
structure EvaluatorCall where
  request : ObjectiveRequest ⊕ ConstraintRequest
  /-- Whether a solve was in flight. -/
  busy : Bool
  ending : Except String Integer

/-- The payload of the panic that the evaluator ended with. -/
def EvaluatorCall.panic? (c : EvaluatorCall) : Option String :=
  match c.ending with
  | .ok _ => none
  | .error payload => some payload

/-- An evaluator with the requests that reached it. -/
structure WatchedEvaluator (ε : Type) where
  evaluator : ε
  calls : List EvaluatorCall

namespace WatchedEvaluator

/-- The payload of the evaluator's first panic. -/
def firstPanic (w : WatchedEvaluator ε) : Option String := w.calls.findSome? EvaluatorCall.panic?

/-- The reply of the evaluator, with the request that it replies to put on the list. -/
def reply {Output : Type} (w : WatchedEvaluator ε) (request : ObjectiveRequest ⊕ ConstraintRequest)
    (busy : Bool) (r : Reply ε Output) : Reply (WatchedEvaluator ε) Output :=
  { r with evaluator := ⟨r.evaluator, w.calls ++ [⟨request, busy, r.ending⟩]⟩ }

instance [Evaluator ω ε] : Evaluator ω (WatchedEvaluator ε) where
  objective w t r := .ask .busy fun (b : Bool) =>
    (Evaluator.objective w.evaluator t r).map (w.reply (.inl r) b)
  constraints w t r := .ask .busy fun (b : Bool) =>
    (Evaluator.constraints w.evaluator t r).map (w.reply (.inr r) b)

theorem firstPanic_of_calls {w w' : WatchedEvaluator ε} {c : EvaluatorCall}
    (h : w'.calls = w.calls ++ [c]) : w'.firstPanic = w.firstPanic.or c.panic? := by
  simp only [firstPanic, h, List.findSome?_append, List.findSome?_singleton]

section

variable [Evaluator ω ε] (f : Flight) (w : WatchedEvaluator ε) (t : Thread)
  (events : Array (Event ω))

theorem consult_objective (r : ObjectiveRequest) :
    Serving.consult f (Evaluator.objective w t r) events =
      (w.reply (.inl r) true (Serving.consult f (Evaluator.objective w.evaluator t r) events).1,
        (Serving.consult f (Evaluator.objective w.evaluator t r) events).2) := by
  show Serving.consult f (.ask .busy fun (b : Bool) => Program.map _ _) events = _
  rw [Serving.consult_busy, Serving.consult_map]

theorem consult_constraints (r : ConstraintRequest) :
    Serving.consult f (Evaluator.constraints w t r) events =
      (w.reply (.inr r) true (Serving.consult f (Evaluator.constraints w.evaluator t r) events).1,
        (Serving.consult f (Evaluator.constraints w.evaluator t r) events).2) := by
  show Serving.consult f (.ask .busy fun (b : Bool) => Program.map _ _) events = _
  rw [Serving.consult_busy, Serving.consult_map]

end

/-- **Watching does not change an evaluator.** -/
theorem simulates_evaluator [Evaluator ω ε] :
    Evaluator.Simulates ω (WatchedEvaluator.evaluator : WatchedEvaluator ε → ε) where
  objective f w t r events := by
    rw [consult_objective]
    rfl
  constraints f w t r events := by
    rw [consult_constraints]
    rfl

end WatchedEvaluator

/-! ## Routines -/

/-- A call that a routine got. -/
structure RoutineCall where
  dims : Dimensions
  thread : Thread
  counts : Counts
  received : Arguments dims
  left : Arguments dims
  /-- The payload of the routine's panic. -/
  panic : Option String

/-- A routine with the calls that it got. -/
structure WatchedRoutine (ρ : Type) where
  routine : ρ
  calls : List RoutineCall

namespace WatchedRoutine

/-- How the routine ended, with the call that it got put on the list. -/
def departure (w : WatchedRoutine ρ) (t : Thread) (c : Counts) (a : Arguments d)
    (r : Departure d ρ) : Departure d (WatchedRoutine ρ) :=
  { r with routine := ⟨r.routine, w.calls ++ [⟨d, t, c, a, r.arguments, r.panic⟩]⟩ }

instance [Routine ω ρ] : Routine ω (WatchedRoutine ρ) where
  configure w line := (Routine.configure w.routine line).map (⟨·, w.calls⟩) id
  solve w t c a := (Routine.solve w.routine t c a).map (w.departure t c a)

/-- **Watching does not change a routine.** -/
theorem simulates_routine [Routine ω ρ] :
    Routine.Simulates ω (WatchedRoutine.routine : WatchedRoutine ρ → ρ) where
  configure w line _ := by
    show _ = ((Routine.configure w.routine line).map _ id).map _ id
    rw [Prod.map_map]
    rfl
  solve w t a := by
    show _ = ((Routine.solve w.routine t _ a).map (w.departure t _ a)).map _
    exact (Program.map_back (fun _ => rfl) _).symm

end WatchedRoutine

/-! ## Problems -/

namespace Problem

variable (p : Problem d ε ρ)

/-- The problem with evaluator and routine watched, and both lists empty. -/
def watched : Problem d (WatchedEvaluator ε) (WatchedRoutine ρ) :=
  ⟨⟨p.evaluator, []⟩, ⟨p.routine, []⟩, p.store⟩

/-- **Watching does not change a solve.** -/
theorem solve_watched [Evaluator ω ε] [Routine ω ρ] (g : Gate Thread) (t : Thread)
    (x₀ : Array Float) :
    (p.watched.solve (ω := ω) g t x₀).map WatchedEvaluator.evaluator WatchedRoutine.routine =
      p.solve g t x₀ :=
  (solve_map WatchedEvaluator.simulates_evaluator WatchedRoutine.simulates_routine p.watched g t
    x₀).symm

/-- **Watching does not change what a routine asks**, or how it is answered. -/
theorem dialogue_watched [Evaluator ω ε] [Routine ω ρ] (g : Gate Thread) (t : Thread)
    (x₀ : Array Float) :
    (p.watched.dialogue (ω := ω) g t x₀).map (Turn.map (Serving.map WatchedEvaluator.evaluator)) =
      p.dialogue g t x₀ :=
  (dialogue_map WatchedEvaluator.simulates_evaluator WatchedRoutine.simulates_routine p.watched g t
    x₀).symm

end Problem

/-! ## Serving a watched evaluator -/

namespace Serving

variable {rows cols : Nat} [Evaluator ω ε] (f : Flight)
  (s : Serving ω (WatchedEvaluator ε) rows cols)

theorem calls_objectiveReply (c : ObjectiveCall) :
    (s.objectiveReply f c).evaluator.calls = s.service.evaluator.calls ++
      [⟨.inl (objectiveRequest c), true, (s.objectiveReply f c).ending⟩] := by
  unfold objectiveReply
  rw [WatchedEvaluator.consult_objective]
  rfl

theorem calls_constraintReply (c : ConstraintCall) (jacobian : Matrix rows cols) :
    (s.constraintReply f c jacobian).evaluator.calls = s.service.evaluator.calls ++
      [⟨.inr (constraintRequest c jacobian), true, (s.constraintReply f c jacobian).ending⟩] := by
  unfold constraintReply
  rw [WatchedEvaluator.consult_constraints]
  rfl

/-- **A query leaves the service as it was, or puts one request on the list** while no panic is
kept; the panic of that request is then kept. -/
theorem service_answer_cases (q : Query ω) :
    (answer f q s).2.service = s.service ∨
      s.service.panic = none ∧ ∃ c : EvaluatorCall, c.busy = true ∧
        (answer f q s).2.service.evaluator.calls = s.service.evaluator.calls ++ [c] ∧
        (answer f q s).2.service.panic = c.panic? := by
  have h := response f q s
  generalize (answer f q s).1 = a, (answer f q s).2.service = s' at h ⊢
  cases h with
  | inquiry | objectiveRefused | constraintsRefused => exact .inl rfl
  | objectiveDone hp he =>
    exact .inr ⟨hp, _, rfl, s.calls_objectiveReply f _, by simp [EvaluatorCall.panic?, he, hp]⟩
  | constraintsDone hp he =>
    exact .inr ⟨hp, _, rfl, s.calls_constraintReply f _ _, by simp [EvaluatorCall.panic?, he, hp]⟩
  | objectivePanicked hp he =>
    exact .inr ⟨hp, _, rfl, s.calls_objectiveReply f _, by simp [EvaluatorCall.panic?, he]⟩
  | constraintsPanicked hp he =>
    exact .inr ⟨hp, _, rfl, s.calls_constraintReply f _ _, by simp [EvaluatorCall.panic?, he]⟩

/-- What holds of the service and its list at any time during a solve. -/
structure Faithful (s : Serving ω (WatchedEvaluator ε) rows cols) : Prop where
  /-- The service keeps the evaluator's first panic. -/
  panic : s.service.panic = s.service.evaluator.firstPanic
  /-- Every request came while a solve was in flight. -/
  busy : ∀ c ∈ s.service.evaluator.calls, c.busy = true

variable {s}

theorem Faithful.answer (h : s.Faithful) (q : Query ω) : (answer f q s).2.Faithful := by
  rcases service_answer_cases f s q with hs | ⟨hp, c, hbusy, hcalls, hpanic⟩
  · exact ⟨hs ▸ h.panic, hs ▸ h.busy⟩
  · refine ⟨?_, fun c' hc' => ?_⟩
    · rw [hpanic, WatchedEvaluator.firstPanic_of_calls hcalls, ← h.panic, hp, Option.none_or]
    · rw [hcalls, List.mem_append, List.mem_singleton] at hc'
      rcases hc' with hc' | rfl
      · exact h.busy c' hc'
      · exact hbusy

end Serving

/-! ## The account of a solve -/

namespace Problem

theorem faithful_start (p : Problem d ε ρ) (events : Array (Event ω)) :
    Serving.Faithful ⟨p.watched.service, events⟩ :=
  ⟨rfl, fun _ hc => absurd hc List.not_mem_nil⟩

variable [Evaluator ω ε] [Routine ω ρ]

theorem faithful_call (p : Problem d ε ρ) (f : Flight) (lent : Store d) :
    (p.watched.call (ω := ω) f lent).2.Faithful :=
  Program.run_invariant (fun q _ hs => hs.answer f q) _ (p.faithful_start _)

/-- What watching shows of a solve that was admitted, from `x₀` on thread `t`: the routine was
called once, with the prepared buffers, and left `left`, with or without a panic. -/
structure Account (p : Problem d ε ρ) (t : Thread) (x₀ : Vector Float d.unknowns)
    (s : Solved ω d (WatchedEvaluator ε) (WatchedRoutine ρ)) (left : Arguments d)
    (panic : Option String) : Prop where
  calls : s.problem.routine.calls =
    [⟨d, t, d.counts, (p.store.prepared x₀).arguments, left, panic⟩]
  busy : ∀ c ∈ s.problem.evaluator.calls, c.busy = true
  returned : panic = none →
    s.outcome = returnOutcome ⟨left.status⟩ s.problem.evaluator.firstPanic ∧
      s.problem.store = (p.store.prepared x₀).settled left
  unwound : ∀ payload, panic = some payload →
    s.outcome = .panicked (.routine payload) ∧
      s.problem.store = (p.store.prepared x₀).takeBack left

/-- The call of a watched routine is the call of the routine, put on the list. -/
theorem call_watched (p : Problem d ε ρ) (f : Flight) (lent : Store d) :
    ∃ run : Departure d ρ × Serving ω (WatchedEvaluator ε) d.nonlinear d.unknowns,
      p.watched.call f lent =
        (p.watched.routine.departure f.thread d.counts lent.arguments run.1, run.2) ∧
      p.call f lent = (run.1, run.2.map WatchedEvaluator.evaluator) := by
  let run := (Routine.solve (ω := ω) p.routine f.thread d.counts lent.arguments).run
    (Serving.answer f) ⟨p.watched.service, #[.trace (.callingRoutine d)]⟩
  have hwatched : p.watched.call (ω := ω) f lent =
      (p.watched.routine.departure f.thread d.counts lent.arguments run.1, run.2) :=
    Program.run_map _ _ _ _
  have hcall : p.call (ω := ω) f lent = _ :=
    call_map WatchedEvaluator.simulates_evaluator WatchedRoutine.simulates_routine p.watched f lent
  refine ⟨run, hwatched, ?_⟩
  rw [hcall, hwatched]
  rfl

/-- **An admitted solve gives an account of itself.** -/
theorem account (p : Problem d ε ρ) {g g' : Gate Thread} {t : Thread} {x₀ : Array Float}
    (h : g.grant t d x₀ = .ok g') :
    ∃ left panic, p.Account t ⟨x₀, Gate.size_of_grant h⟩
      (p.watched.solve (ω := ω) g t x₀) left panic := by
  let lent := p.store.prepared ⟨x₀, Gate.size_of_grant h⟩
  obtain ⟨run, hcall, -⟩ := p.call_watched (ω := ω) (.ofGrant h) lent
  let left := p.watched.routine.departure t d.counts lent.arguments run.1
  have hf : run.2.Faithful :=
    congrArg Prod.snd hcall ▸ p.faithful_call (.ofGrant h) lent
  have hs : p.watched.solve (ω := ω) g t x₀ = conclude g lent left run.2 := by
    rw [solve_granted _ h]
    show conclude g lent (p.watched.call (ω := ω) (.ofGrant h) lent).1
      (p.watched.call (ω := ω) (.ofGrant h) lent).2 = _
    rw [hcall]
    rfl
  refine ⟨run.1.arguments, run.1.panic, ?_⟩
  rw [hs]
  cases hp : run.1.panic with
  | none =>
    rw [conclude_eq_of_return (show left.panic = none from hp)]
    exact ⟨by rw [← hp]; rfl, hf.busy, fun _ => ⟨by rw [hf.panic]; rfl, rfl⟩, nofun⟩
  | some payload =>
    rw [conclude_eq_of_panic (show left.panic = some payload from hp)]
    exact ⟨by rw [← hp]; rfl, hf.busy, nofun, fun _ h => ⟨by rw [Option.some.inj h], rfl⟩⟩

/-- **What is stored depends on what the routine left**, and not on panics of the evaluator. -/
theorem store_of_calls (p : Problem d ε ρ) {g : Gate Thread} {t : Thread} {x₀ : Array Float}
    {received left : Arguments d}
    (h : (p.watched.solve (ω := ω) g t x₀).problem.routine.calls =
      [⟨d, t, d.counts, received, left, none⟩]) :
    ∃ hx : x₀.size = d.unknowns,
      (p.watched.solve (ω := ω) g t x₀).problem.store =
        (p.store.prepared ⟨x₀, hx⟩).settled left := by
  cases hg : g.grant t d x₀ with
  | error e =>
    rw [p.watched.solve_refused hg] at h
    exact absurd h nofun
  | ok g' =>
    obtain ⟨left', panic, acc⟩ := p.account (ω := ω) hg
    have hcall := List.cons.inj (acc.calls.symm.trans h)
    obtain ⟨-, -, -, -, hleft, hpanic⟩ := RoutineCall.mk.inj hcall.1
    obtain rfl : left' = left := eq_of_heq hleft
    exact ⟨Gate.size_of_grant hg, (acc.returned hpanic).2⟩

/-- **A panic that comes out of a solve** is the first one of the evaluator or the one that the
routine ended with. -/
theorem panicked_cases (p : Problem d ε ρ) {g : Gate Thread} {t : Thread} {x₀ : Array Float}
    {x : Panic} (h : (p.solve (ω := ω) g t x₀).outcome = .panicked x) :
    (∃ payload, x = .evaluator payload ∧
      (p.watched.solve (ω := ω) g t x₀).problem.evaluator.firstPanic = some payload) ∨
    ∃ payload, x = .routine payload ∧
      ∃ c ∈ (p.watched.solve (ω := ω) g t x₀).problem.routine.calls, c.panic = some payload := by
  rw [← p.solve_watched g t x₀] at h
  change (p.watched.solve (ω := ω) g t x₀).outcome = _ at h
  cases hg : g.grant t d x₀ with
  | error e =>
    rw [p.watched.solve_refused hg] at h
    exact absurd h nofun
  | ok g' =>
    obtain ⟨left, panic, acc⟩ := p.account (ω := ω) hg
    cases panic with
    | none =>
      rw [(acc.returned rfl).1] at h
      cases hf : (p.watched.solve (ω := ω) g t x₀).problem.evaluator.firstPanic with
      | none =>
        rw [hf] at h
        cases h
      | some payload =>
        rw [hf] at h
        cases h
        exact .inl ⟨payload, rfl, rfl⟩
    | some payload =>
      rw [(acc.unwound payload rfl).1] at h
      cases h
      rw [acc.calls]
      exact .inr ⟨payload, rfl, _, List.mem_singleton_self _, rfl⟩

/-- **Every evaluator call comes while a solve is in flight.** -/
theorem busy_of_mem_calls (p : Problem d ε ρ) (g : Gate Thread) (t : Thread) (x₀ : Array Float) :
    ∀ c ∈ (p.watched.solve (ω := ω) g t x₀).problem.evaluator.calls, c.busy = true := by
  cases h : g.grant t d x₀ with
  | error e =>
    rw [p.watched.solve_refused h]
    exact fun _ hc => absurd hc List.not_mem_nil
  | ok g' =>
    obtain ⟨left, panic, acc⟩ := p.account (ω := ω) h
    exact acc.busy

/-- **The service is faithful before every turn.** -/
theorem faithful_of_mem_dialogue (p : Problem d ε ρ) {g : Gate Thread} {t : Thread}
    {x₀ : Array Float} {u : Turn (Query ω) Query.Answer (Serving ω (WatchedEvaluator ε) _ _)}
    (hu : u ∈ p.watched.dialogue (ω := ω) g t x₀) : u.before.Faithful := by
  cases h : g.grant t d x₀ with
  | error e =>
    rw [dialogue_refused _ h] at hu
    exact absurd hu List.not_mem_nil
  | ok g' =>
    rw [dialogue_granted _ h] at hu
    exact Program.dialogue_invariant (fun q _ hs => hs.answer (.ofGrant h) q) _
      (p.faithful_start _) u hu

end Problem

end NonlinearFit
