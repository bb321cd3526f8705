import NonlinearFit.Proofs.FirstPanic
import NonlinearFit.Proofs.Omission

/-!
# Attempts to solve during a solve

Evaluators and routines may attempt to solve other problems while they are at work themselves.

**Refusals.** Every attempt is refused. It is the refusal that the other problem itself gives when
it is solved at the gate of the solve in flight, and that changes neither the problem nor the gate
(`Problem.solve_of_flight`).

**Abstaining.** An evaluator seen through `φ` *abstains* when it acts as the one behind it, without
the attempts (`Evaluator.Abstains`), and likewise for routines. This takes for granted that the
evaluator pays no attention to what its attempts are answered. It may keep the answers for itself,
where `φ` does not show them, or in notes, which are then set aside.

**Two runs.** The solve with abstaining evaluator and routine is the solve with the attempts, as far
as it is seen. Scripts abstain when their nested solves are deleted (`Script.evaluator_abstains`,
`Script.routine_abstains`).

Main result: `attempts_leave_no_trace`.
-/

namespace NonlinearFit

variable {ω : Type} {d : Dimensions} {ε ε' ρ ρ' : Type}

/-! ## Refusals -/

theorem Flight.refusal_eq (f : Flight) (t : Thread) (d : Dimensions) (x₀ : Array Float) :
    f.refusal t d x₀ =
      if x₀.size = d.unknowns then .busy else .lengthMismatch "x0" d.unknowns x₀.size := by
  have hgrant := f.grant_eq_error_refusal t d x₀
  have hbusy : f.gate.enter? t t = none := Gate.enter?_eq_none_iff.mpr (.inr f.claimed)
  unfold Gate.grant at hgrant
  rw [hbusy] at hgrant
  split_ifs at hgrant ⊢ <;> exact (Except.error.inj hgrant).symm

/-- **No problem can be solved during a solve.** Nothing of it changes. -/
theorem Problem.solve_of_flight [Evaluator ω ε] [Routine ω ρ] (f : Flight) (p : Problem d ε ρ)
    (t : Thread) (x₀ : Array Float) :
    p.solve (ω := ω) f.gate t x₀ = ⟨.refused (f.refusal t d x₀), p, f.gate, #[]⟩ :=
  p.solve_refused (f.grant_eq_error_refusal t d x₀)

/-! ## Idle queries -/

/-- An inquiry whose answer does not matter: an attempt, or a note that is set aside. -/
def Inquiry.idle (aside : ω → Bool) : Inquiry ω → Bool
  | .attempt .. => true
  | .note n => aside n
  | .busy => false

/-- A query whose answer does not matter. -/
def Query.idle (aside : ω → Bool) : Query ω → Bool
  | .inquiry q => q.idle aside
  | .objective _ | .constraints _ => false

/-- The events without the notes that are set aside. -/
def keptEvents (aside : ω → Bool) (es : Array (Event ω)) : Array (Event ω) :=
  es.filter fun
    | .trace _ => true
    | .note n => !aside n

theorem keptEvents_push_trace (aside : ω → Bool) (es : Array (Event ω)) (t : Trace) :
    keptEvents aside (es.push (.trace t)) = (keptEvents aside es).push (.trace t) :=
  Array.filter_push_of_pos rfl (Array.size_push _)

theorem keptEvents_push_note (aside : ω → Bool) (es : Array (Event ω)) (n : ω) :
    keptEvents aside (es.push (.note n)) =
      if aside n then keptEvents aside es else (keptEvents aside es).push (.note n) := by
  unfold keptEvents
  cases h : aside n <;> simp [h]

/-- Evaluators seen through `φ`, and all events but the notes that are set aside. -/
def View.without (aside : ω → Bool) (φ : ε → ε') : View ω ε ε' where
  evaluator := φ
  events := keptEvents aside
  events_push := keptEvents_push_trace aside

/-! ## Abstaining -/

/-- Evaluators seen through `φ` act as they do, without the attempts and the notes that are set
aside. -/
structure Evaluator.Abstains [Evaluator ω ε] [Evaluator ω ε'] (aside : ω → Bool) (φ : ε → ε') :
    Prop where
  objective (e : ε) (t : Thread) (r : ObjectiveRequest) :
    Program.Omits (Inquiry.idle aside) ((Evaluator.objective e t r).map (Reply.map φ))
      (Evaluator.objective (φ e) t r)
  constraints (e : ε) (t : Thread) (r : ConstraintRequest) :
    Program.Omits (Inquiry.idle aside) ((Evaluator.constraints e t r).map (Reply.map φ))
      (Evaluator.constraints (φ e) t r)

/-- Routines seen through `ψ` act as they do, without the attempts and the notes that are set
aside. -/
structure Routine.Abstains [Routine ω ρ] [Routine ω ρ'] (aside : ω → Bool) (ψ : ρ → ρ') : Prop where
  solve {d : Dimensions} (r : ρ) (t : Thread) (c : Counts) (a : Arguments d) :
    Program.Omits (Query.idle aside) ((Routine.solve r t c a).map (Departure.map ψ))
      (Routine.solve (ψ r) t c a)

/-! ## Answers -/

namespace Serving

variable {aside : ω → Bool}

theorem answerInquiry_idle (f : Flight) (q : Inquiry ω) (es : Array (Event ω))
    (h : q.idle aside = true) :
    keptEvents aside (answerInquiry f es q).2 = keptEvents aside es := by
  cases q with
  | note n =>
    have hn : aside n = true := h
    show keptEvents aside (es.push (.note n)) = _
    rw [keptEvents_push_note, if_pos hn]
  | busy => exact absurd h Bool.false_ne_true
  | attempt => rfl

theorem answerInquiry_kept (f : Flight) (q : Inquiry ω) (es : Array (Event ω))
    (h : q.idle aside = false) :
    answerInquiry f (keptEvents aside es) q =
      ((answerInquiry f es q).1, keptEvents aside (answerInquiry f es q).2) := by
  cases q with
  | note n =>
    have hn : ¬ aside n = true := Bool.eq_false_iff.mp h
    show ((), (keptEvents aside es).push (.note n)) = ((), keptEvents aside (es.push (.note n)))
    rw [keptEvents_push_note, if_neg hn]
  | busy => rfl
  | attempt => exact absurd h.symm Bool.false_ne_true

theorem consult_omits {α : Type} (f : Flight) {p p' : Inquiring ω α}
    (h : p.Omits (Inquiry.idle aside) p') (es : Array (Event ω)) :
    consult f p' (keptEvents aside es) =
      ((consult f p es).1, keptEvents aside (consult f p es).2) :=
  h.run (answerInquiry_kept f) (answerInquiry_idle f) es

end Serving

theorem Serving.answer_idle [Evaluator ω ε] {rows cols : Nat} {aside : ω → Bool} (φ : ε → ε')
    (f : Flight) (q : Query ω) (s : Serving ω ε rows cols) (h : q.idle aside = true) :
    (answer f q s).2.seen (.without aside φ) = s.seen (.without aside φ) := by
  cases q with
  | inquiry q =>
    show Serving.mk _ (keptEvents aside (answerInquiry f s.events q).2) = _
    rw [answerInquiry_idle f q s.events h]
    rfl
  | objective | constraints => exact absurd h Bool.false_ne_true

section

variable [Evaluator ω ε] [Evaluator ω ε'] [Routine ω ρ] [Routine ω ρ'] {aside : ω → Bool}
  {φ : ε → ε'} {ψ : ρ → ρ'}

theorem Evaluator.Abstains.shows (hφ : Evaluator.Abstains aside φ) :
    (View.without aside φ).Shows where
  objective f e t r es := by
    have h := Serving.consult_omits f (hφ.objective e t r) es
    rw [Serving.consult_map] at h
    exact h
  constraints f e t r es := by
    have h := Serving.consult_omits f (hφ.constraints e t r) es
    rw [Serving.consult_map] at h
    exact h

theorem Serving.answer_kept {rows cols : Nat} (hφ : Evaluator.Abstains aside φ) (f : Flight)
    (q : Query ω) (s : Serving ω ε rows cols) (h : q.idle aside = false) :
    answer f q (s.seen (.without aside φ)) =
      ((answer f q s).1, (answer f q s).2.seen (.without aside φ)) := by
  cases q with
  | inquiry q =>
    show ((answerInquiry f (keptEvents aside s.events) q).1,
      Serving.mk _ (answerInquiry f (keptEvents aside s.events) q).2) = _
    rw [answerInquiry_kept f q s.events h]
    rfl
  | objective c => exact answerObjective_seen hφ.shows f c s
  | constraints c => exact answerConstraints_seen hφ.shows f c s

/-! ## Solves with and without attempts -/

namespace Problem

variable (hφ : Evaluator.Abstains aside φ) (hψ : Routine.Abstains aside ψ)

include hφ hψ

theorem call_without (p : Problem d ε ρ) (f : Flight) (lent : Store d) :
    (p.map φ ψ).call (ω := ω) f lent =
      ((p.call (ω := ω) f lent).1.map ψ, (p.call (ω := ω) f lent).2.seen (.without aside φ)) := by
  have h := (hψ.solve p.routine f.thread d.counts lent.arguments).run
    (Serving.answer_kept hφ f) (Serving.answer_idle φ f) ⟨p.service, #[.trace (.callingRoutine d)]⟩
  rw [Program.run_map] at h
  exact h

theorem solve_without (p : Problem d ε ρ) (g : Gate Thread) (t : Thread) (x₀ : Array Float) :
    (p.map φ ψ).solve (ω := ω) g t x₀ = (p.solve g t x₀).seen (.without aside φ) ψ := by
  cases h : g.grant t d x₀ with
  | error e =>
    rw [solve_refused _ h, solve_refused _ h]
    rfl
  | ok g' =>
    rw [solve_granted _ h, solve_granted _ h]
    show conclude g _ ((p.map φ ψ).call (ω := ω) _ _).1 ((p.map φ ψ).call (ω := ω) _ _).2 = _
    rw [call_without hφ hψ]
    exact conclude_seen (.without aside φ) ψ _ _ _ _

theorem dialogue_without (p : Problem d ε ρ) (g : Gate Thread) (t : Thread) (x₀ : Array Float) :
    (p.map φ ψ).dialogue (ω := ω) g t x₀ =
      ((p.dialogue g t x₀).filter fun u => !u.query.idle aside).map
        (Turn.map (Serving.seen (.without aside φ))) := by
  cases hg : g.grant t d x₀ with
  | error e =>
    rw [dialogue_refused _ hg, dialogue_refused _ hg]
    rfl
  | ok g' =>
    rw [dialogue_granted _ hg, dialogue_granted _ hg]
    have h := (hψ.solve p.routine t d.counts
        (p.store.prepared ⟨x₀, Gate.size_of_grant hg⟩).arguments).dialogue
      (Serving.answer_kept hφ (.ofGrant hg)) (Serving.answer_idle φ (.ofGrant hg))
      ⟨p.service, #[.trace (.callingRoutine d)]⟩
    rw [Program.dialogue_map] at h
    exact h

end Problem

/-! ## Watching both -/

/-- The watched evaluator with the evaluator seen through `φ`, and the same list. -/
def WatchedEvaluator.map (φ : ε → ε') (w : WatchedEvaluator ε) : WatchedEvaluator ε' :=
  ⟨φ w.evaluator, w.calls⟩

/-- The watched routine with the routine seen through `ψ`, and the same list. -/
def WatchedRoutine.map (ψ : ρ → ρ') (w : WatchedRoutine ρ) : WatchedRoutine ρ' :=
  ⟨ψ w.routine, w.calls⟩

theorem Evaluator.Abstains.watched (hφ : Evaluator.Abstains aside φ) :
    Evaluator.Abstains aside (WatchedEvaluator.map φ) where
  objective w t r := by
    refine .ask rfl fun (b : Bool) => ?_
    show Program.Omits _ (((Evaluator.objective w.evaluator t r).map _).map _) _
    rw [Program.map_map]
    have h := (hφ.objective w.evaluator t r).map ((w.map φ).reply (.inl r) b)
    rw [Program.map_map] at h
    exact h
  constraints w t r := by
    refine .ask rfl fun (b : Bool) => ?_
    show Program.Omits _ (((Evaluator.constraints w.evaluator t r).map _).map _) _
    rw [Program.map_map]
    have h := (hφ.constraints w.evaluator t r).map ((w.map φ).reply (.inr r) b)
    rw [Program.map_map] at h
    exact h

theorem Routine.Abstains.watched (hψ : Routine.Abstains aside ψ) :
    Routine.Abstains aside (WatchedRoutine.map ψ) where
  solve w t c a := by
    show Program.Omits _ (((Routine.solve w.routine t c a).map _).map _) _
    rw [Program.map_map]
    have h := (hψ.solve w.routine t c a).map ((w.map ψ).departure t c a)
    rw [Program.map_map] at h
    exact h

/-! ## The main result -/

/-- **Attempts leave no trace.** While a solve of `p` is in flight, suppose that its evaluator or
its routine attempts to solve any problem, in any state, from any starting point, on any thread.
Then:

* the attempt is refused, for the length of the starting point if that is wrong and because a solve
  is in flight otherwise; the other problem stays as it is, its evaluator and its routine are not
  called, nothing is recorded and the gate stays as it is; whoever asked learns the refusal;
* the solve goes as it goes without attempts: the outcome, the data, the gate, the evaluator, the
  routine, the requests that reached the evaluator, the arguments that the routine received and
  left, and the events are the same, the notes set aside excepted;
* the callbacks are the same and get the same answers;
* until the evaluator panics, callbacks in order reach it, whatever was attempted before. -/
theorem Problem.attempts_leave_no_trace (hφ : Evaluator.Abstains aside φ)
    (hψ : Routine.Abstains aside ψ) (p : Problem d ε ρ) {g g' : Gate Thread} {t : Thread}
    {x₀ : Array Float} (h : g.grant t d x₀ = .ok g') :
    (∀ {ε₂ ρ₂ : Type} [Evaluator ω ε₂] [Routine ω ρ₂] {d₂ : Dimensions} (inner : Problem d₂ ε₂ ρ₂)
        (t₂ : Thread) (y : Array Float),
      let e : Refusal :=
        if y.size = d₂.unknowns then .busy else .lengthMismatch "x0" d₂.unknowns y.size
      inner.solve (ω := ω) g' t₂ y = ⟨.refused e, inner, g', #[]⟩ ∧
      (inner.watched.solve (ω := ω) g' t₂ y).problem = inner.watched ∧
      (∀ es : Array (Event ω),
        Serving.answerInquiry (.ofGrant h) es (.attempt t₂ d₂ y) = (e, es)) ∧
      ∀ s : Serving ω ε d.nonlinear d.unknowns,
        Serving.answer (.ofGrant h) (.inquiry (.attempt t₂ d₂ y)) s = (e, s)) ∧
    (p.map φ ψ).watched.solve (ω := ω) g t x₀ =
      (p.watched.solve g t x₀).seen (.without aside (WatchedEvaluator.map φ))
        (WatchedRoutine.map ψ) ∧
    (p.map φ ψ).watched.dialogue (ω := ω) g t x₀ =
      ((p.watched.dialogue g t x₀).filter fun u => !u.query.idle aside).map
        (Turn.map (Serving.seen (.without aside (WatchedEvaluator.map φ)))) ∧
    ∀ u ∈ p.watched.dialogue (ω := ω) g t x₀, u.before.service.evaluator.firstPanic = none →
      u.query.InOrder d.nonlinear d.unknowns t →
      ∃ c, u.after.service.evaluator.calls = u.before.service.evaluator.calls ++ [c] := by
  refine ⟨?_, solve_without hφ.watched hψ.watched p.watched g t x₀,
    dialogue_without hφ.watched hψ.watched p.watched g t x₀, (p.ownPanics g t x₀).reached⟩
  intro ε₂ ρ₂ _ _ d₂ inner t₂ y e
  have he : (Flight.ofGrant h).refusal t₂ d₂ y = e := Flight.refusal_eq _ t₂ d₂ y
  have hrefused := inner.solve_of_flight (ω := ω) (.ofGrant h) t₂ y
  have hwatched := inner.watched.solve_of_flight (ω := ω) (.ofGrant h) t₂ y
  rw [he] at hrefused
  refine ⟨hrefused, congrArg Solved.problem hwatched, fun es => ?_, fun s => ?_⟩
  · exact congrArg (·, es) he
  · exact congrArg (·, s) he

end

/-! ## Scripts without nested solves -/

namespace Script

/-- Whether an action is no nested solve. -/
def isOwn {κ : Type} (control? : κ → Option Control) (a : κ) : Bool :=
  match control? a with
  | some (.nested ..) => false
  | _ => true

def RoutineAction.isOwn : RoutineAction → Bool
  | nested .. => false
  | _ => true

/-- Whether a note tells of a nested solve. -/
def Note.tellsNested : Note → Bool
  | nested .. => true
  | _ => false

/-- The script without its nested solves. -/
def EvaluatorScript.withoutNested (s : EvaluatorScript InnerProblem) :
    EvaluatorScript InnerProblem :=
  { s with
    objective := s.objective.map (List.filter (isOwn ObjectiveAction.control?))
    constraints := s.constraints.map (List.filter (isOwn ConstraintAction.control?)) }

/-- The script without its nested solves. -/
def RoutineScript.withoutNested (s : RoutineScript InnerProblem) : RoutineScript InnerProblem :=
  { s with script := s.script.map (List.filter RoutineAction.isOwn) }

theorem pick_map_filter {α : Type} (own : α → Bool) (scripts : List (List α)) (k : Nat) :
    pick (scripts.map (List.filter own)) k = (pick scripts k).filter own := by
  unfold pick
  rw [List.length_map, List.getD_eq_getElem?_getD, List.getElem?_map, List.getD_eq_getElem?_getD]
  cases scripts[min k (scripts.length - 1)]? <;> rfl

section

variable {κ Output : Type} (control? : κ → Option Control) (apply : Output → κ → Output)
  (setMode : Output → Integer → Output) (inner : Option InnerProblem) (t : Thread)

/-- In an action of the script's own there is nothing to leave out. -/
theorem runAction_omits_own {a : κ} (hown : isOwn control? a = true) (o : Output)
    (status : Integer) :
    Program.Omits (Inquiry.idle Note.tellsNested)
      (runAction control? apply setMode inner t a o status)
      (runAction control? apply setMode inner t a o status) := by
  unfold isOwn at hown
  unfold runAction
  cases hc : control? a with
  | none => exact .done _
  | some c =>
    cases c with
    | stop code =>
      show Program.Omits _ (requestStop ..) (requestStop ..)
      unfold requestStop
      cases stopMode code <;> exact .done _
    | status s => exact .done _
    | panic text => exact .done _
    | nested x₀ elsewhere =>
      rw [hc] at hown
      exact absurd hown Bool.false_ne_true

/-- A nested solve is left out as a whole. -/
theorem runAction_omits_nested {a : κ} (hown : ¬isOwn control? a = true) (o : Output)
    (status : Integer) :
    Program.Omits (Inquiry.idle Note.tellsNested)
      (runAction control? apply setMode inner t a o status) (.done (o, .ok status)) := by
  unfold isOwn at hown
  unfold runAction
  split at hown
  · next x₀ elsewhere hc =>
    rw [hc]
    cases inner with
    | none => exact .done _
    | some p => exact .leave rfl fun (e : Refusal) => .leave rfl fun (_ : Unit) => .done _
  · exact absurd rfl hown

theorem runActions_omits (actions : List κ) (o : Output) (status : Integer) :
    Program.Omits (Inquiry.idle Note.tellsNested)
      (runActions control? apply setMode inner t actions o status)
      (runActions control? apply setMode inner t (actions.filter (isOwn control?)) o status) := by
  induction actions generalizing o status with
  | nil => exact .done _
  | cons a rest ih =>
    by_cases hown : isOwn control? a = true
    · rw [List.filter_cons_of_pos hown]
      exact (runAction_omits_own control? apply setMode inner t hown o status).andThen ih
    · rw [List.filter_cons_of_neg hown]
      exact (runAction_omits_nested control? apply setMode inner t hown o status).andThen ih

end

/-- **A scripted evaluator abstains when its nested solves are deleted.** -/
theorem evaluator_abstains :
    Evaluator.Abstains Note.tellsNested EvaluatorScript.withoutNested where
  objective s t r := by
    refine .ask rfl fun (b : Bool) => .ask rfl fun (_ : Unit) => ?_
    have h := runActions_omits ObjectiveAction.control? ObjectiveAction.apply
      (fun o m => { o with mode := m }) s.inner t (pick s.objective s.objectiveCalls) r.untouched 0
    rw [← pick_map_filter] at h
    show Program.Omits _ (Program.map _ (Program.map _ _)) _
    rw [Program.map_map]
    exact h.map _
  constraints s t r := by
    refine .ask rfl fun (b : Bool) => .ask rfl fun (_ : Unit) => ?_
    have h := runActions_omits ConstraintAction.control? ConstraintAction.apply
      (fun o m => { o with mode := m }) s.inner t (pick s.constraints s.constraintCalls)
      r.untouched 0
    rw [← pick_map_filter] at h
    show Program.Omits _ (Program.map _ (Program.map _ _)) _
    rw [Program.map_map]
    exact h.map _

theorem runRoutine_omits {d : Dimensions} (inner : Option InnerProblem) (t : Thread) (c : Counts)
    (actions : List RoutineAction) (a : Arguments d) :
    Program.Omits (Query.idle Note.tellsNested) (runRoutine inner t c actions a)
      (runRoutine inner t c (actions.filter RoutineAction.isOwn) a) := by
  induction actions generalizing a with
  | nil => exact .done _
  | cons action rest ih =>
    cases action with
    | objective o => exact .ask rfl fun _ => .ask rfl fun (_ : Unit) => ih _
    | constraints o => exact .ask rfl fun _ => .ask rfl fun (_ : Unit) => ih _
    | progress => exact .ask rfl fun (b : Bool) => .ask rfl fun (_ : Unit) => ih a
    | panic text => exact .done _
    | nested x₀ elsewhere =>
      cases inner with
      | none => exact ih a
      | some p => exact .leave rfl fun (e : Refusal) => .leave rfl fun (_ : Unit) => ih a
    | status | iterations | value | reals | integers => exact ih _

/-- **A scripted routine abstains when its nested solves are deleted.** -/
theorem routine_abstains : Routine.Abstains Note.tellsNested RoutineScript.withoutNested where
  solve s t c a := by
    have h := runRoutine_omits s.inner t c (pick s.script s.calls) a
    rw [← pick_map_filter] at h
    show Program.Omits _ (Program.map _ (Program.map _ _)) _
    rw [Program.map_map]
    exact h.map _

/-- A problem whose evaluator and whose routine keep attempting to solve another one, from points of
the right length and of wrong ones. -/
def nesting : Problem (small 1 0 1) (EvaluatorScript InnerProblem) (RoutineScript InnerProblem) :=
  .new _
    { objective := [[.control (.nested #[0.5, 1.5] false), .value 3.0, .control (.nested #[] true)]]
      constraints := [[.entry 0 0 8.0, .control (.nested #[0.5] false), .control (.status 5)]]
      inner := some (.ofProblem filler) }
    { script := [[
        .nested #[1.0, 2.0] true,
        .objective ⟨2, 1, .own, .own, .own, false⟩, .nested #[] false,
        .constraints ⟨2, 0, .own, .own, .own, .own, .own, .own, .own, false⟩, .status 4]]
      inner := some (.ofProblem filler) }

/-- What the attempts of a script came to. -/
def refusals (events : Array (Event Note)) : List Refusal :=
  events.toList.filterMap fun
    | .note (.nested e _) => some e
    | _ => none

/-- Five attempts are refused, and the solve ends as it does without them. -/
theorem attempts_leave_no_trace_nesting :
    let attempted := nesting.watched.solve (ω := Note) .vacant mainThread #[0.5]
    let spared := (nesting.map EvaluatorScript.withoutNested
      RoutineScript.withoutNested).watched.solve (ω := Note) .vacant mainThread #[0.5]
    refusals attempted.events =
        [.busy, .busy, .lengthMismatch "x0" 2 0, .lengthMismatch "x0" 2 0,
          .lengthMismatch "x0" 2 1] ∧
      refusals spared.events = [] ∧
      attempted.problem.evaluator.calls.map EvaluatorCall.ending = [.ok 0, .ok 5] ∧
      spared.problem.evaluator.calls = attempted.problem.evaluator.calls ∧
      spared.problem.routine.calls = attempted.problem.routine.calls ∧
      spared.problem.store = attempted.problem.store ∧
      attempted.outcome = .finished ⟨4⟩ ∧ spared.outcome = attempted.outcome := by
  intro attempted spared
  obtain ⟨-, hsolve, -, -⟩ := Problem.attempts_leave_no_trace evaluator_abstains routine_abstains
    nesting (show Gate.vacant.grant mainThread _ #[0.5] = .ok _ from rfl)
  have hspared : spared = attempted.seen
      (.without Note.tellsNested (WatchedEvaluator.map EvaluatorScript.withoutNested))
      (WatchedRoutine.map RoutineScript.withoutNested) := hsolve
  refine ⟨rfl, rfl, rfl, ?_, ?_, ?_, rfl, ?_⟩ <;> rw [hspared] <;> rfl

end Script

end NonlinearFit
