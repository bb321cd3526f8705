import NonlinearFit.Proofs.DescentSolves
import NonlinearFit.Proofs.Emission
import NonlinearFit.Proofs.StatusBlindness

/-!
# Stop codes

An evaluator stops a gradient descent by leaving a negative mode, its *stop code*.

**Modes.** `Turn.Leaves` says which mode the evaluator left in a turn. It is the mode that comes back
from the callback (`Turn.Leaves.mode?_eq`). An evaluator that has not panicked by the end of a solve
has left a mode in every turn (`Problem.exists_leaves`).

**Ends.** A run with valid bounds is stopped by an evaluation, or it finishes by itself, and in that
case asks for the nonlinear constraints once if there are any (`GradientDescent.Ends`). So nothing
follows a negative mode that comes back, and it is the status (`GradientDescent.Ends.last_of_neg`).

**Panics.** The callback in which the evaluator panics brings back -1 (`Problem.exists_stops`), so a
panic ends the run like a stop code of -1.

Main result: `stop_codes`, for every evaluator and every starting point.
-/

namespace NonlinearFit

open GradientDescent

variable {ω : Type} {d : Dimensions} {ε ρ : Type}

/-! ## Modes -/

/-- The mode that comes back from a callback. -/
def Query.mode? : (q : Query ω) → q.Answer → Option Integer
  | inquiry _, _ => none
  | objective _, (r : ObjectiveReturn _) => some r.mode
  | constraints _, (r : ConstraintReturn _) => some r.mode

theorem Query.Stops.mode?_eq {q : Query ω} {a : q.Answer} (h : q.Stops a) :
    q.mode? a = some (-1) := by
  cases q with
  | inquiry => exact h.elim
  | objective c => exact congrArg some h.2
  | constraints c => exact congrArg some h.2.1

/-- The evaluator returned in this turn, and had left this mode. -/
inductive Turn.Leaves [Evaluator ω ε] (f : Flight) :
    Turn (Query ω) Query.Answer (Serving ω (WatchedEvaluator ε) d.nonlinear d.unknowns) →
      Integer → Prop
  | objective {c : ObjectiveCall} {r : ObjectiveReturn c} {status : Integer}
    {before after : Serving ω (WatchedEvaluator ε) d.nonlinear d.unknowns}
    (served : Serving.ServedObjective f c before r after)
    (returned : (before.objectiveReply f c).ending = .ok status) :
    Leaves f ⟨.objective c, before, r, after⟩ (before.objectiveReply f c).output.mode
  | constraints {c : ConstraintCall} {r : ConstraintReturn c} {status : Integer}
    {jacobian : Matrix d.nonlinear d.unknowns}
    {before after : Serving ω (WatchedEvaluator ε) d.nonlinear d.unknowns}
    (served : Serving.Served f c before jacobian r after)
    (returned : (before.constraintReply f c jacobian).ending = .ok status) :
    Leaves f ⟨.constraints c, before, r, after⟩ (before.constraintReply f c jacobian).output.mode

/-- A request after which no panic is on the list has ended with a status. -/
theorem WatchedEvaluator.returned_of_firstPanic {w w' : WatchedEvaluator ε} {c : EvaluatorCall}
    (h : w'.calls = w.calls ++ [c]) (open_ : w'.firstPanic = none) :
    ∃ status, c.ending = .ok status := by
  obtain ⟨request, busy, ending⟩ := c
  rw [firstPanic_of_calls h] at open_
  cases ending with
  | ok status => exact ⟨status, rfl⟩
  | error payload => exact absurd (Option.or_eq_none_iff.mp open_).2 nofun

section

variable [Evaluator ω ε] {f : Flight}
  {u : Turn (Query ω) Query.Answer (Serving ω (WatchedEvaluator ε) d.nonlinear d.unknowns)}

/-- **The mode that an evaluator leaves comes back** from the callback. -/
theorem Turn.Leaves.mode?_eq {mode : Integer} (h : u.Leaves f mode) :
    u.query.mode? u.answer = some mode := by
  cases h with
  | objective served returned => exact congrArg some (served.reports _ returned).mode
  | constraints served returned => exact congrArg some (served.reports _ returned).mode

theorem Turn.Served.exists_leaves (served : u.Served f)
    (open_ : u.after.service.evaluator.firstPanic = none) : ∃ mode, u.Leaves f mode := by
  obtain ⟨q, before, r, after⟩ := u
  cases q with
  | inquiry => exact served.elim
  | objective c =>
    have served : Serving.ServedObjective f c before r after := served
    obtain ⟨status, returned⟩ := WatchedEvaluator.returned_of_firstPanic served.once open_
    exact ⟨_, .objective served returned⟩
  | constraints c =>
    obtain ⟨jacobian, served⟩ : ∃ jacobian, Serving.Served f c before jacobian r after := served
    obtain ⟨status, returned⟩ := WatchedEvaluator.returned_of_firstPanic served.once open_
    exact ⟨_, .constraints served returned⟩

end

theorem Status.meaning_of_neg {code : Integer} (neg : code < 0) :
    Status.meaning ⟨code⟩ = .userStop code := by
  have hne (k : Integer) (hk : 0 ≤ k) : code ≠ k := fun h => Int64.not_lt.mpr hk (h ▸ neg)
  unfold meaning
  simp only [hne 0 (by decide), hne 1 (by decide), hne 2 (by decide), hne 3 (by decide),
    hne 4 (by decide), hne 6 (by decide), hne 7 (by decide), hne 9 (by decide), neg, if_true,
    if_false]

/-- The solve finishes with this code, and stores it. -/
structure Solved.Finishes (s : Solved ω d ε ρ) (code : Integer) : Prop where
  outcome : s.outcome = .finished ⟨code⟩
  stored : s.problem.store.status = some ⟨code⟩

theorem Solved.Finishes.map {ε' ρ' : Type} {s : Solved ω d ε ρ} {code : Integer}
    (h : s.Finishes code) (φ : ε → ε') (ψ : ρ → ρ') : (s.map φ ψ).Finishes code :=
  ⟨h.outcome, h.stored⟩

/-! ## How runs end -/

namespace GradientDescent

variable {σ : Type} {t : Thread} {c : Counts} {a : Arguments d}
  {turns : List (Turn (Query ω) Query.Answer σ)}

theorem Evaluates.mode?_eq {n : Nat} {unknowns : Integer} {u : Turn (Query ω) Query.Answer σ}
    {v : Evaluation n} (h : Evaluates t unknowns u v) :
    u.query.callback? = some (.objective, t) ∧ u.query.mode? u.answer = some v.mode := by
  cases h
  exact ⟨rfl, rfl⟩

theorem OwnStatus.nonneg {status : Integer} (h : OwnStatus status) : 0 ≤ status := by
  rcases h with rfl | rfl | rfl <;> decide

/-- How a run with valid bounds ends: its turns, and the arguments that it leaves. -/
inductive Ends (t : Thread) (c : Counts) :
    List (Turn (Query ω) Query.Answer σ) → Arguments d → Prop
  /-- An evaluation has asked it to stop. -/
  | stopped {turns : List (Turn (Query ω) Query.Answer σ)} {log : List (Evaluation d.unknowns)}
    {a : Arguments d} (evaluates : List.Forall₂ (Evaluates t c.unknowns) turns log)
    (halts : Halts a.status log) : Ends t c turns a
  /-- It has finished by itself, and there are no nonlinear constraints. -/
  | finished {turns : List (Turn (Query ω) Query.Answer σ)} {log : List (Evaluation d.unknowns)}
    {a : Arguments d} (evaluates : List.Forall₂ (Evaluates t c.unknowns) turns log)
    (goes : ∀ v ∈ log, ¬v.Stops) (own : OwnStatus a.status) (none : ¬0 < c.nonlinear) :
    Ends t c turns a
  /-- It has finished by itself, and then asked for the nonlinear constraints. -/
  | constrained {turns : List (Turn (Query ω) Query.Answer σ)} {log : List (Evaluation d.unknowns)}
    {a : Arguments d} {before after : σ} (v : ConstraintReturn (constraintCall t c a))
    (evaluates : List.Forall₂ (Evaluates t c.unknowns) turns log) (goes : ∀ v ∈ log, ¬v.Stops)
    (own : OwnStatus a.status) (some : 0 < c.nonlinear) :
    Ends t c (turns ++ [⟨.constraints (constraintCall t c a), before, v, after⟩])
      (withConstraints a v)

/-- **A run with valid bounds ends in one of these ways**, and does not panic. -/
theorem Departs.ends {r : GradientDescent} {left : Departure d GradientDescent}
    (h : Departs r t c a turns left) (valid : (box a).Valid) :
    Ends t c turns left.arguments ∧ left.panic = none := by
  cases h with
  | crossed crossed => exact absurd crossed (Box.crossed?_ne_some valid)
  | finished _ evaluates minimizes done =>
    refine ⟨?_, rfl⟩
    rcases minimizes.halts_or_finishes with halts | ⟨own, goes⟩
    · exact .stopped evaluates halts
    · exact .finished evaluates goes own fun some => done ⟨some, own.nonneg⟩
  | constrained v _ evaluates minimizes asks =>
    refine ⟨?_, rfl⟩
    rcases minimizes.halts_or_finishes with halts | ⟨own, goes⟩
    · exact absurd halts.neg (Int64.not_lt.mpr asks.2)
    · exact .constrained v evaluates goes own asks.1

/-- **Nothing follows a negative mode** that comes back, and it is the status. -/
theorem Ends.last_of_neg (h : Ends t c turns a) {earlier later : List (Turn (Query ω) Query.Answer σ)}
    {u : Turn (Query ω) Query.Answer σ} {mode : Integer} (cut : turns = earlier ++ u :: later)
    (hmode : u.query.mode? u.answer = some mode) (neg : mode < 0) :
    later = [] ∧ a.status = mode := by
  -- An evaluation in this turn would have asked to stop.
  have hgoes {turns : List (Turn (Query ω) Query.Answer σ)} {log : List (Evaluation d.unknowns)}
      (evaluates : List.Forall₂ (Evaluates t c.unknowns) turns log) (hu : u ∈ turns) :
      ¬∀ v ∈ log, ¬v.Stops := by
    intro goes
    obtain ⟨v, hv, hturn⟩ := exists_evaluation_of_mem evaluates hu
    obtain rfl : v.mode = mode := Option.some.inj (hturn.mode?_eq.2.symm.trans hmode)
    exact goes v hv neg
  have hmem (later : List (Turn (Query ω) Query.Answer σ)) : u ∈ earlier ++ u :: later :=
    List.mem_append_right earlier List.mem_cons_self
  cases h with
  | stopped evaluates halts =>
    obtain ⟨early, v, late, rfl, hv, hlate⟩ := exists_evaluation evaluates cut
    obtain rfl : v.mode = mode := Option.some.inj (hv.mode?_eq.2.symm.trans hmode)
    obtain ⟨rfl, hstatus⟩ := halts.last_of_stops neg
    cases hlate
    exact ⟨rfl, hstatus.symm⟩
  | finished evaluates goes => exact absurd goes (hgoes evaluates (cut ▸ hmem later))
  | @constrained turns log a before after v evaluates goes =>
    rcases List.eq_nil_or_concat' later with rfl | ⟨later, last, rfl⟩
    · obtain ⟨-, hu⟩ := List.append_inj' cut rfl
      obtain rfl := (List.cons.inj hu).1
      obtain rfl : v.mode = mode := Option.some.inj hmode
      exact ⟨rfl, if_pos neg⟩
    · have hcut : turns ++ [_] = (earlier ++ u :: later) ++ [last] :=
        cut.trans (List.append_assoc earlier (u :: later) [last]).symm
      exact absurd goes (hgoes evaluates ((List.append_inj' hcut rfl).1 ▸ hmem later))

/-- A run that evaluates asks for nothing else. -/
theorem callback?_of_evaluates {log : List (Evaluation d.unknowns)}
    (evaluates : List.Forall₂ (Evaluates t c.unknowns) turns log) :
    ∀ u ∈ turns, u.query.callback? = some (.objective, t) := by
  intro u hu
  obtain ⟨v, -, hv⟩ := exists_evaluation_of_mem evaluates hu
  exact hv.mode?_eq.1

/-- **A run that no evaluation stops** ends with 0, 4 or 6, unless the constraint call stops it. -/
theorem Ends.of_goes (h : Ends t c turns a)
    (goes : ∀ u ∈ turns, u.query.callback? = some (.objective, t) →
      ∀ mode, u.query.mode? u.answer = some mode → ¬mode < 0) :
    ∃ own, OwnStatus own ∧
      (¬0 < c.nonlinear →
        (∀ u ∈ turns, u.query.callback? = some (.objective, t)) ∧ a.status = own) ∧
      (0 < c.nonlinear → ∃ earlier last, turns = earlier ++ [last] ∧
        (∀ u ∈ earlier, u.query.callback? = some (.objective, t)) ∧
        last.query.callback? = some (.constraints, t) ∧ last.query.point? = some a.point.toArray ∧
        ∀ mode, last.query.mode? last.answer = some mode →
          a.status = if mode < 0 then mode else own) := by
  cases h with
  | stopped evaluates halts =>
    obtain ⟨v, hv, stops⟩ := halts.exists_stops
    obtain ⟨u, hu, hv⟩ := exists_turn evaluates v hv
    obtain ⟨hobjective, hmode⟩ := hv.mode?_eq
    exact absurd stops (goes u hu hobjective v.mode hmode)
  | finished evaluates _ own none =>
    exact ⟨a.status, own, fun _ => ⟨callback?_of_evaluates evaluates, rfl⟩,
      fun some => absurd some none⟩
  | @constrained _ _ a _ _ v evaluates _ own some =>
    refine ⟨a.status, own, fun none => absurd some none, fun _ =>
      ⟨_, _, rfl, callback?_of_evaluates evaluates, rfl, rfl, fun mode hmode => ?_⟩⟩
    obtain rfl : v.mode = mode := Option.some.inj hmode
    rfl

end GradientDescent

/-- The routine is told that there are nonlinear constraints if there are any. -/
theorem Dimensions.counts_nonlinear_pos (d : Dimensions) :
    0 < d.counts.nonlinear ↔ 0 < d.nonlinear := by
  obtain ⟨-, -, hnonlinear⟩ := d.bounds_of_counts
  rw [Int64.lt_iff_toInt_lt, ← hnonlinear]
  exact Int.pos_iff_toNat_pos

/-! ## Panics -/

/-- What is kept of a panic stays. -/
theorem Serving.panic_answer {rows cols : Nat} [Evaluator ω ε] (f : Flight) (q : Query ω)
    {s : Serving ω ε rows cols} {payload : String} (kept : s.service.panic = some payload) :
    (answer f q s).2.service.panic = some payload := by
  rw [((response f q s).refuses kept).2]
  exact kept

namespace Problem

section

variable [Evaluator ω ε] [Routine ω ρ] (p : Problem d ε ρ) {g g' : Gate Thread} {t : Thread}
  {x₀ : Array Float}

/-- **An evaluator that has not panicked by the end** had not panicked around any turn. -/
theorem firstPanic_of_mem_dialogue
    (open_ : (p.watched.solve (ω := ω) g t x₀).problem.evaluator.firstPanic = none)
    {u : Turn (Query ω) Query.Answer (Serving ω (WatchedEvaluator ε) d.nonlinear d.unknowns)}
    (hu : u ∈ p.watched.dialogue (ω := ω) g t x₀) :
    u.before.service.evaluator.firstPanic = none ∧
      u.after.service.evaluator.firstPanic = none := by
  obtain ⟨earlier, later, cut⟩ := List.append_of_mem hu
  obtain ⟨hbefore, hafter⟩ := panic_around cut
  have open_after : u.after.service.evaluator.firstPanic = none := by
    cases h : u.after.service.evaluator.firstPanic with
    | none => rfl
    | some payload =>
      rw [(refuses_after_panic cut h).2, h] at open_
      cases open_
  refine ⟨?_, open_after⟩
  cases h : u.before.service.evaluator.firstPanic with
  | none => rfl
  | some payload =>
    obtain ⟨g', hg, -, hturn, -, -⟩ := p.watched.dialogue_split cut
    have kept := Serving.panic_answer (.ofGrant hg) u.query (hbefore.trans h)
    rw [← hturn, hafter, open_after] at kept
    cases kept

/-- **A panic of the evaluator** arises in a callback that brings back -1. -/
theorem exists_stops {payload : String}
    (panic : (p.watched.solve (ω := ω) g t x₀).problem.evaluator.firstPanic = some payload)
    (granted : g.grant t d x₀ = .ok g') :
    ∃ earlier u later, p.watched.dialogue (ω := ω) g t x₀ = earlier ++ u :: later ∧
      u.query.Stops u.answer := by
  let lent := p.watched.store.prepared ⟨x₀, Gate.size_of_grant granted⟩
  let P (s : Serving ω (WatchedEvaluator ε) d.nonlinear d.unknowns) : Prop :=
    s.service.evaluator.firstPanic ≠ none
  have hend : (p.watched.solve (ω := ω) g t x₀).problem.evaluator =
      (p.watched.call (ω := ω) (.ofGrant granted) lent).2.service.evaluator := by
    rw [solve_granted _ granted]
    exact evaluator_conclude ..
  rw [hend] at panic
  obtain ⟨earlier, u, later, cut, before, after⟩ := Program.exists_turn_of_change (P := P)
    (Routine.solve (ω := ω) p.watched.routine t d.counts lent.arguments)
    (s := ⟨p.watched.service, #[.trace (.callingRoutine d)]⟩)
    (fun h => h rfl) (fun h => absurd (h.symm.trans panic) nofun)
  rw [← p.watched.dialogue_granted granted] at cut
  obtain ⟨payload', after⟩ := Option.ne_none_iff_exists'.mp after
  exact ⟨earlier, u, later, cut, (stops_of_first_panic cut (not_not.mp before) after).1⟩

end

/-! ## Solves -/

variable [Evaluator ω ε] (p : Problem d ε GradientDescent) {g g' : Gate Thread} {t : Thread}
  {x₀ : Array Float}

/-- The evaluator leaves a mode in every callback of a descent, if it has not panicked by the end. -/
theorem exists_leaves (granted : g.grant t d x₀ = .ok g')
    (open_ : (p.watched.solve (ω := ω) g t x₀).problem.evaluator.firstPanic = none) :
    ∀ u ∈ p.watched.dialogue (ω := ω) g t x₀, ∃ mode, u.Leaves (.ofGrant granted) mode := by
  intro u hu
  obtain ⟨before, after⟩ := p.firstPanic_of_mem_dialogue open_ hu
  obtain ⟨contracted, hmatches⟩ := ((p.departs_watched granted).callsBack u hu).contracted
  have hpanic : u.before.service.panic = none := (p.faithful_of_mem_dialogue hu).panic.trans before
  have served := Serving.served_of_matches (.ofGrant granted) u.before hpanic contracted hmatches
  obtain ⟨hanswer, hafter⟩ := p.watched.answered_of_mem_dialogue granted hu
  rw [← hanswer, ← hafter] at served
  exact Turn.Served.exists_leaves served after

/-- **A solve with valid bounds stores what its run leaves.** -/
theorem exists_end (valid : p.box.Valid) (granted : g.grant t d x₀ = .ok g') :
    ∃ left : Arguments d,
      Ends t d.counts (p.watched.dialogue (ω := ω) g t x₀) left ∧
      (p.solve (ω := ω) g t x₀).outcome = returnOutcome ⟨left.status⟩
        (p.watched.solve (ω := ω) g t x₀).problem.evaluator.firstPanic ∧
      (p.solve (ω := ω) g t x₀).problem.store =
        (p.store.prepared ⟨x₀, Gate.size_of_grant granted⟩).settled left := by
  let lent := p.store.prepared ⟨x₀, Gate.size_of_grant granted⟩
  let run := (p.routine.solve (ω := ω) t d.counts lent.arguments).run
    (Serving.answer (.ofGrant granted)) ⟨p.watched.service, #[.trace (.callingRoutine d)]⟩
  obtain ⟨ends, hpanic⟩ := (p.departs_watched (ω := ω) granted).ends valid
  have hfaithful : run.2.Faithful :=
    Program.run_invariant (fun q _ hs => hs.answer (.ofGrant granted) q) _ (p.faithful_start _)
  let left := p.watched.routine.departure t d.counts lent.arguments run.1
  have hwatched : p.watched.solve (ω := ω) g t x₀ = _ :=
    (p.solve_watched_eq granted).trans
      (conclude_eq_of_return (show left.panic = none from hpanic) run.2)
  refine ⟨run.1.arguments, ends, ?_, ?_⟩
  · rw [← p.solve_watched]
    show (p.watched.solve (ω := ω) g t x₀).outcome = _
    rw [hwatched, hfaithful.panic]
    rfl
  · rw [← p.solve_watched]
    show (p.watched.solve (ω := ω) g t x₀).problem.store = _
    rw [hwatched]
    rfl

/-- **Stop codes travel through a solve.** Consider any admitted solve by a gradient descent with valid
bounds. Suppose that the evaluator does not panic in it. Then it leaves a mode in every callback, and:

* if it leaves a negative mode, then this callback is the last one of all, and the solve finishes with
  that mode, which it stores and which means a stop by the user;
* if it does not do so in an objective callback, and there are no nonlinear constraints, then no other
  callbacks are made, and the solve finishes with 0, 4 or 6;
* if it does not do so in an objective callback, and there are nonlinear constraints, then the last
  callback, and no other, is for these, at the point that the solve leaves. The solve finishes with
  the mode that is left there if it is negative, and else with 0, 4 or 6.

If the evaluator panics, then the solve stores -1 and the first panic comes out. In any case, another
evaluator that differs in the statuses alone makes no difference.

(The dialogue is that of the solve itself, watched or not.) -/
theorem stop_codes (valid : p.box.Valid) (granted : g.grant t d x₀ = .ok g') :
    let f : Flight := .ofGrant granted
    let turns := p.watched.dialogue (ω := ω) g t x₀
    let panic := (p.watched.solve (ω := ω) g t x₀).problem.evaluator.firstPanic
    let solved := p.solve (ω := ω) g t x₀
    turns.map (Turn.map (Serving.map WatchedEvaluator.evaluator)) = p.dialogue g t x₀ ∧
    (panic = none →
      (∀ u ∈ turns, ∃ mode, u.Leaves f mode) ∧
      (∀ earlier u later code, turns = earlier ++ u :: later → u.Leaves f code → code < 0 →
        later = [] ∧ solved.Finishes code ∧ Status.meaning ⟨code⟩ = .userStop code) ∧
      ((∀ u ∈ turns, ∀ mode,
          u.query.callback? = some (.objective, t) → u.Leaves f mode → ¬mode < 0) →
        ∃ own, (own = 0 ∨ own = 4 ∨ own = 6) ∧
          (d.nonlinear = 0 →
            (∀ u ∈ turns, u.query.callback? = some (.objective, t)) ∧ solved.Finishes own) ∧
          (0 < d.nonlinear → ∃ earlier last mode, turns = earlier ++ [last] ∧
            (∀ u ∈ earlier, u.query.callback? = some (.objective, t)) ∧
            last.query.callback? = some (.constraints, t) ∧
            last.query.point? = some solved.problem.store.point.received.toArray ∧
            last.Leaves f mode ∧ solved.Finishes (if mode < 0 then mode else own)))) ∧
    (∀ payload, panic = some payload →
      solved.outcome = .panicked (.evaluator payload) ∧
        solved.problem.store.status = some ⟨-1⟩) ∧
    ∀ (ε' : Type) [Evaluator ω ε'] (φ : ε → ε'), Evaluator.Restates ω φ →
      (p.map φ id).solve (ω := ω) g t x₀ = solved.map φ id ∧
      ((p.map φ id).dialogue (ω := ω) g t x₀).map Turn.unstated =
        (p.dialogue g t x₀).map fun u => (u.map (Serving.map φ)).unstated := by
  intro f turns panic solved
  obtain ⟨left, ends, houtcome, hstore⟩ := p.exists_end (ω := ω) valid granted
  have hstatus : solved.problem.store.status = some ⟨left.status⟩ := by
    rw [show solved.problem.store = _ from hstore]
    rfl
  have hpoint : solved.problem.store.point.received = left.point := by
    rw [show solved.problem.store = _ from hstore]
    rfl
  refine ⟨p.dialogue_watched g t x₀, fun open_ => ?_, fun payload hpayload => ?_,
    fun ε' _ φ hφ => ⟨p.solve_restated hφ g t x₀, p.dialogue_restated hφ g t x₀⟩⟩
  · have hleaves : ∀ u ∈ turns, ∃ mode, u.Leaves f mode := p.exists_leaves granted open_
    have finishes : solved.Finishes left.status :=
      ⟨houtcome.trans (congrArg (returnOutcome ⟨left.status⟩) open_), hstatus⟩
    refine ⟨hleaves, fun earlier u later code cut leaves neg => ?_, fun goes => ?_⟩
    · obtain ⟨hlater, hcode⟩ := ends.last_of_neg cut leaves.mode?_eq neg
      exact ⟨hlater, hcode ▸ finishes, Status.meaning_of_neg neg⟩
    · obtain ⟨own, hown, hfinished, hconstrained⟩ := ends.of_goes fun u hu hobjective mode hmode => by
        obtain ⟨mode', leaves⟩ := hleaves u hu
        obtain rfl : mode' = mode := Option.some.inj (leaves.mode?_eq.symm.trans hmode)
        exact goes u hu mode' hobjective leaves
      rw [d.counts_nonlinear_pos] at hfinished hconstrained
      refine ⟨own, hown, fun none => ?_, fun some => ?_⟩
      · obtain ⟨hobjective, hcode⟩ := hfinished (Nat.not_lt.mpr (Nat.le_of_eq none))
        exact ⟨hobjective, hcode ▸ finishes⟩
      · obtain ⟨earlier, last, cut, hobjective, hlast, hx, hcode⟩ := hconstrained some
        have hmem : last ∈ turns := by
          rw [show turns = _ from cut]
          exact List.mem_append_right _ (List.mem_singleton_self _)
        obtain ⟨mode, leaves⟩ := hleaves last hmem
        refine ⟨earlier, last, mode, cut, hobjective, hlast, ?_, leaves, ?_⟩
        · rw [hpoint]
          exact hx
        · rw [← hcode mode leaves.mode?_eq]
          exact finishes
  · obtain ⟨earlier, u, later, cut, stops⟩ := p.exists_stops hpayload granted
    obtain ⟨-, hcode⟩ := ends.last_of_neg cut stops.mode?_eq (by decide)
    exact ⟨houtcome.trans (congrArg (returnOutcome ⟨left.status⟩) hpayload), hcode ▸ hstatus⟩

end Problem

namespace Script

/-- A problem in one variable between -1 and 1 with one constraint, whose objective is the variable.
From the second objective callback on its evaluator does `o` as well, and in the constraint callback
it does `c`. It returns 5 throughout. -/
def interrupted (o c : Control) :
    Problem (small 1 0 1) (Restated (EvaluatorScript InnerProblem)) GradientDescent where
  evaluator :=
    { evaluator :=
        { objective := [[.sum, .gradientFill 1.0], [.sum, .gradientFill 1.0, .control o]]
          constraints := [[.squares, .control c]] }
      status := fun _ => 5 }
  routine := {}
  store := { Store.new _ with lower := .replicate _ (-1.0), upper := .replicate _ 1.0 }

/-- It can be stopped in a search and at the constraints, and a panic comes out. -/
theorem stop_codes_interrupted :
    let p := interrupted (.stop (-7)) (.status 0)
    let q := interrupted (.status 0) (.stop (-9))
    let r := interrupted (.panic "lost") (.status 0)
    ((p.solve (ω := Note) .vacant mainThread #[0.5]).Finishes (-7) ∧
      ((p.map Restated.evaluator id).solve (ω := Note) .vacant mainThread #[0.5]).Finishes (-7)) ∧
    (q.solve (ω := Note) .vacant mainThread #[0.5]).Finishes (-9) ∧
    (r.solve (ω := Note) .vacant mainThread #[0.5]).outcome = .panicked (.evaluator "lost") ∧
    (r.solve (ω := Note) .vacant mainThread #[0.5]).problem.store.status = some ⟨-1⟩ := by
  refine ⟨?_, ?_, ?_⟩
  · obtain ⟨-, returns, -, restates⟩ := (interrupted (.stop (-7)) (.status 0)).stop_codes
      (ω := Note) (by decide +kernel) (show Gate.vacant.grant mainThread _ #[0.5] = .ok _ from rfl)
    obtain ⟨leaves, stops, -⟩ := returns (by decide +kernel)
    obtain ⟨hsolve, -⟩ := restates _ Restated.evaluator Restated.restates_evaluator
    obtain ⟨u, v, hturns⟩ := List.length_eq_two.mp
      (show ((interrupted (.stop (-7)) (.status 0)).watched.dialogue (ω := Note) .vacant mainThread
        #[0.5]).length = 2 by decide +kernel)
    have hmodes : ((interrupted (.stop (-7)) (.status 0)).watched.dialogue (ω := Note) .vacant
        mainThread #[0.5]).map (fun u => u.query.mode? u.answer) = [some 2, some (-7)] := by
      decide +kernel
    rw [hturns] at hmodes
    have hmode := (List.cons.inj (List.cons.inj hmodes).2).1
    obtain ⟨mode, hv⟩ := leaves v (by rw [hturns]; exact List.mem_cons_of_mem u List.mem_cons_self)
    obtain rfl : mode = -7 := Option.some.inj (hv.mode?_eq.symm.trans hmode)
    obtain ⟨-, finishes, -⟩ := stops [u] v [] (-7) hturns hv (by decide)
    refine ⟨finishes, ?_⟩
    rw [hsolve]
    exact finishes.map Restated.evaluator id
  · obtain ⟨-, returns, -⟩ := (interrupted (.status 0) (.stop (-9))).stop_codes
      (ω := Note) (by decide +kernel) (show Gate.vacant.grant mainThread _ #[0.5] = .ok _ from rfl)
    obtain ⟨-, -, ends⟩ := returns (by decide +kernel)
    have hmodes : ∀ w ∈ ((interrupted (.status 0) (.stop (-9))).watched.dialogue (ω := Note) .vacant
        mainThread #[0.5]).map (fun u => (u.query.callback?, u.query.mode? u.answer)),
        w = (some (.objective, mainThread), some 2) ∨
          w = (some (.constraints, mainThread), some (-9)) := by decide +kernel
    obtain ⟨own, -, -, constrained⟩ := ends fun u hu mode hobjective leaves neg => by
      rcases hmodes _ (List.mem_map_of_mem hu) with h | h
      · obtain rfl : mode = 2 :=
          Option.some.inj (leaves.mode?_eq.symm.trans (Prod.mk.inj h).2)
        exact absurd neg (by decide)
      · rw [(Prod.mk.inj h).1] at hobjective
        cases hobjective
    obtain ⟨earlier, last, mode, hturns, -, hlast, -, leaves, finishes⟩ := constrained (by decide)
    have hmem := List.mem_append_right earlier (List.mem_singleton_self last)
    rw [← hturns] at hmem
    rcases hmodes _ (List.mem_map_of_mem hmem) with h | h
    · rw [(Prod.mk.inj h).1] at hlast
      cases hlast
    · obtain rfl : mode = -9 := Option.some.inj (leaves.mode?_eq.symm.trans (Prod.mk.inj h).2)
      exact finishes
  · obtain ⟨-, -, panics, -⟩ := (interrupted (.panic "lost") (.status 0)).stop_codes
      (ω := Note) (by decide +kernel) (show Gate.vacant.grant mainThread _ #[0.5] = .ok _ from rfl)
    exact panics "lost" (by decide +kernel)

end Script

end NonlinearFit
