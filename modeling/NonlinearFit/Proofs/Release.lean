import NonlinearFit.Proofs.Reachable
import NonlinearFit.Proofs.Watching
import NonlinearFit.Script.Routine

/-!
# Nothing stays behind

A solve can end in many ways: its routine returns with any status, it is refused, its evaluator
panics and the panic comes out at the end, or its routine panics and cuts it short. Every one of
them leaves the gate, so after each command of a session no solve is in flight and no thread serves
callbacks. While an evaluator is at work, a solve is in flight.

A callback kept from an earlier solve finds no solve to serve it (`StrayCall.answer?_vacant`).

Main result: `released`, for every session and every list of commands.
-/

namespace NonlinearFit

/-- What comes of a callback that no solve serves: it asks to stop and touches nothing else. -/
def StrayCall.unserved (c : StrayCall) : StrayReturn where
  status := -1
  mode := c.mode.map fun _ => -1
  value := c.value
  output := c.output
  jacobian := c.jacobian

/-- At a vacant gate no callback is served, on whatever thread it comes in. -/
theorem StrayCall.answer?_vacant (c : StrayCall) (t : Thread) :
    c.answer? .vacant t = some (c.unserved, .unserved c.callback) :=
  rfl

variable {ω ε ρ : Type} [Evaluator ω ε] [Routine ω ρ]

/-- **Every command releases what it claimed.** After any list of commands, on any number of
problems:

* no thread serves callbacks and no solve is in flight;
* in any solve that may follow, of any problem and on any thread, a solve is in flight at every
  evaluator call;
* a callback on any thread is not served: it returns -1, sets the mode to -1 if it has one, and
  leaves the value, the buffers and the session as they are. -/
theorem Session.released (problems : List (AnyProblem ε ρ)) (commands : List (Command ε ρ)) :
    let s := ((start problems).run (ω := ω) commands).2
    (∀ t, s.gate.serving t = none) ∧ s.busy = false ∧
    (∀ (P : AnyProblem ε ρ) (t : Thread) (x₀ : Array Float),
      let solved := P.problem.watched.solve (ω := ω) s.gate t x₀
      solved.map WatchedEvaluator.evaluator WatchedRoutine.routine =
        P.problem.solve s.gate t x₀ ∧
      ∀ c ∈ solved.problem.evaluator.calls, c.busy = true) ∧
    (∀ (c : StrayCall) (t : Thread),
      c.answer? s.gate t = some (c.unserved, .unserved c.callback)) ∧
    ∀ c : StrayCall,
      s.step (ω := ω) (.stray c) = (.strayed c.unserved, #[.trace (.unserved c.callback)], s) := by
  intro s
  have hgate : s.gate = .vacant := gate_run _ commands
  have hstray (c : StrayCall) (t : Thread) :
      c.answer? s.gate t = some (c.unserved, .unserved c.callback) := by
    rw [hgate, c.answer?_vacant]
  refine ⟨fun t => ?_, ?_, fun P t x₀ => ?_, hstray, fun c => ?_⟩
  · rw [hgate]
    rfl
  · rw [busy, hgate]
    rfl
  · exact ⟨P.problem.solve_watched s.gate t x₀, P.problem.busy_of_mem_calls s.gate t x₀⟩
  · simp only [step, hstray]

/-! ## Two solves that end badly -/

namespace Script

/-- A problem with three variables whose evaluator panics when it is asked for the objective, and whose
routine then does `next`. -/
def failing (next : List RoutineAction) : ScriptedProblem where
  dims := ⟨3, 0, 0, by decide, by decide, by decide, by decide⟩
  problem := .new _ (.direct { objective := [[.control (.panic "no value")]] })
    (.direct (.direct ⟨.script { script := [.objective ⟨2, 1, .own, .own, .own, false⟩ :: next] }⟩))

/-- A solve that ends with a panic of its evaluator, and one on another thread that ends with a
panic of its routine. -/
def failures : List (Command ScriptEvaluator ScriptRoutine) :=
  [.step 0 (.solve (.given #[0.5, 1.5, 2.5]) false),
    .step 1 (.solve (.given #[0.5, 1.5, 2.5]) true)]

/-- After them a third solve is in flight when its evaluator is asked, and none is in flight for a
callback that comes late. -/
theorem released_failures :
    let problems := [failing [], failing [.panic "no memory"]]
    let s := ((Session.start problems).run (ω := Note) failures).2
    let solved := (failing []).problem.watched.solve (ω := Note) s.gate mainThread #[0.5, 1.5, 2.5]
    ((Session.start problems).run (ω := Note) failures).1.map Prod.fst =
        [.answered (.solved (.panicked (.evaluator "no value"))),
          .answered (.solved (.panicked (.routine "no memory")))] ∧
      s.busy = false ∧
      solved.problem.evaluator.calls.map (fun c => (c.busy, c.ending)) =
        [(true, .error "no value")] ∧
      (StrayCall.mk .objective (some 2) 0.5 #[1.0] #[]).answer? s.gate mainThread =
        some (⟨-1, some (-1), 0.5, #[1.0], #[]⟩, .unserved .objective) := by
  intro problems s solved
  obtain ⟨-, hbusy, hsolves, hstray, -⟩ := Session.released (ω := Note) problems failures
  have hcalls := (hsolves (failing []) mainThread #[0.5, 1.5, 2.5]).2
  refine ⟨rfl, hbusy, ?_, hstray _ _⟩
  obtain ⟨c, hc⟩ : ∃ c, solved.problem.evaluator.calls = [c] := ⟨_, rfl⟩
  have hending : solved.problem.evaluator.calls.map EvaluatorCall.ending = [.error "no value"] := rfl
  rw [hc] at hending ⊢
  rw [List.map_singleton, hcalls c (hc ▸ List.mem_singleton_self c), (List.cons.inj hending).1]

end Script

end NonlinearFit
