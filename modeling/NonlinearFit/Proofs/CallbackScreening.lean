import NonlinearFit.Proofs.ConstraintCallbacks

/-!
# Which callbacks reach the evaluator

A routine calls back with counts and a stride of its own choice, of either sign. Three things are
looked at before the evaluator is asked: whether it has panicked before, whether the counts are those
of the problem, and whether the Jacobian fits into columns that are `stride` apart.

**Contract.** `Query.Contracted` is what a routine owes to any callback: it comes in on the thread of
the solve, with buffers as long as its own counts say. Nothing is asked of the counts.

**Screening.** `Query.Matches` says that the counts are right. While no panic is kept, a callback that
matches is served (`Turn.Served`). Any other one is refused, and the service stays as it was
(`Serving.answer_of_barred`).

**No trace.** What queries are answered depends on the service alone and not on the events recorded
so far (`Serving.answer_following`), so a solve goes on after a refused callback as if it had not
been made (`Serving.services_dialogue`). A panic is kept for the rest of the solve, a mismatch is
forgotten at once.

Main result: `callbacks_screened`, for every callback of every solve.
-/

namespace NonlinearFit

variable {ω : Type} {d : Dimensions} {ε ρ : Type}

/-! ## The contract -/

/-- A negative integer counts nothing. -/
theorem Integer.cast_toCount (i : Integer) : (i.toCount : Int) = max 0 i.toInt := by
  unfold toCount
  rw [Int.ofNat_toNat, Int.max_comm]

/-- The buffers hold as many entries as the count says. -/
structure ObjectiveCall.Sized (c : ObjectiveCall) : Prop where
  point : c.unknowns.toCount ≤ c.point.size
  gradient : c.unknowns.toCount ≤ c.gradient.size

/-- The buffers hold as many entries as the counts say, the Jacobian one column of `stride` entries
for each variable, and it is no longer than an array can be. -/
structure ConstraintCall.Sized (c : ConstraintCall) : Prop where
  needed : c.nonlinear.toCount ≤ c.needed.size
  point : c.unknowns.toCount ≤ c.point.size
  values : c.nonlinear.toCount ≤ c.values.size
  jacobian : c.stride.toCount * c.unknowns.toCount ≤ c.jacobian.size
  addressable : c.jacobian.size ≤ Matrix.maxExtent

/-- The query is a callback on thread `t` with buffers of the sizes that it counts. -/
def Query.Contracted (t : Thread) : Query ω → Prop
  | inquiry _ => False
  | objective c => c.thread = t ∧ c.Sized
  | constraints c => c.thread = t ∧ c.Sized

/-- The counts are those of a problem with dimensions `d`, and a column has room for all constraints.
What is negative counts as zero. -/
structure ConstraintCall.Matches (c : ConstraintCall) (d : Dimensions) : Prop where
  nonlinear : max 0 c.nonlinear.toInt = d.nonlinear
  unknowns : max 0 c.unknowns.toInt = d.unknowns
  rows_le : d.nonlinear ≤ max 0 c.stride.toInt

/-- The counts of a callback are right. An objective callback may count as it likes. -/
def Query.Matches (d : Dimensions) : Query ω → Prop
  | inquiry _ => False
  | objective _ => True
  | constraints c => c.Matches d

theorem ConstraintCall.matches_iff {c : ConstraintCall} :
    c.Matches d ↔
      c.nonlinear.toCount = d.nonlinear ∧ c.unknowns.toCount = d.unknowns ∧
        d.nonlinear ≤ c.stride.toCount := by
  have hnonlinear := c.nonlinear.cast_toCount
  have hunknowns := c.unknowns.cast_toCount
  have hstride := c.stride.cast_toCount
  constructor
  · rintro ⟨h₁, h₂, h₃⟩
    exact ⟨by omega, by omega, by omega⟩
  · rintro ⟨h₁, h₂, h₃⟩
    exact ⟨by omega, by omega, by omega⟩

theorem ConstraintCall.Sized.serviceable {c : ConstraintCall} (sized : c.Sized)
    (h : c.Matches d) {g : Gate Thread} (active : (g.serving c.thread).isSome) :
    c.Serviceable g d := by
  obtain ⟨hnonlinear, hunknowns, hrows⟩ := c.matches_iff.mp h
  exact {
    active
    nonlinear := hnonlinear
    unknowns := hunknowns
    rows_le := hrows
    needed := hnonlinear ▸ sized.needed
    values := hnonlinear ▸ sized.values
    point := hunknowns ▸ sized.point
    jacobian := hunknowns ▸ sized.jacobian
    addressable := sized.addressable }

/-! ## Served callbacks -/

/-- The request shows what the call passed. -/
structure ObjectiveRequest.Asks (r : ObjectiveRequest) (c : ObjectiveCall) : Prop where
  mode : r.mode = c.mode
  nstate : r.nstate = c.nstate
  point : r.point = c.point.take c.unknowns.toCount
  value : r.value = c.value
  gradient : r.gradient = c.gradient.take c.unknowns.toCount

/-- The callback returned `status` and what the evaluator left in `o`. Behind the gradient the buffer
is as it was passed. -/
structure ObjectiveReturn.Reports {c : ObjectiveCall} (r : ObjectiveReturn c) {q : ObjectiveRequest}
    (o : ObjectiveOutput q) (status : Integer) : Prop where
  status : r.status = status
  mode : r.mode = o.mode
  value : r.value = o.value
  gradient : ∀ i < q.gradient.size, r.gradient[i]? = o.gradient[i]?
  other : ∀ i, q.gradient.size ≤ i → r.gradient[i]? = c.gradient[i]?

/-- What comes of an objective callback that is served and returns `r`: one request reaches the
evaluator, it asks what was passed, and what the evaluator leaves on returning is what comes back. -/
structure Serving.ServedObjective [Evaluator ω ε] (f : Flight) (c : ObjectiveCall)
    (before : Serving ω (WatchedEvaluator ε) d.nonlinear d.unknowns) (r : ObjectiveReturn c)
    (after : Serving ω (WatchedEvaluator ε) d.nonlinear d.unknowns) : Prop where
  asks : (objectiveRequest c).Asks c
  evaluator : after.service.evaluator = (before.objectiveReply f c).evaluator
  once : after.service.evaluator.calls = before.service.evaluator.calls ++
    [⟨.inl (objectiveRequest c), true, (before.objectiveReply f c).ending⟩]
  reports : ∀ status, (before.objectiveReply f c).ending = .ok status →
    r.Reports (before.objectiveReply f c).output status

/-- The callback of this turn has been served. -/
def Turn.Served [Evaluator ω ε] (f : Flight) :
    Turn (Query ω) Query.Answer (Serving ω (WatchedEvaluator ε) d.nonlinear d.unknowns) → Prop
  | ⟨.inquiry _, _, _, _⟩ => False
  | ⟨.objective c, before, r, after⟩ => Serving.ServedObjective f c before r after
  | ⟨.constraints c, before, r, after⟩ => ∃ jacobian, Serving.Served f c before jacobian r after

/-- The evaluator was asked once in this turn. -/
def Turn.Reached
    (u : Turn (Query ω) Query.Answer (Serving ω (WatchedEvaluator ε) d.nonlinear d.unknowns)) :
    Prop :=
  ∃ call, u.after.service.evaluator.calls = u.before.service.evaluator.calls ++ [call]

theorem Turn.Served.reached [Evaluator ω ε] {f : Flight}
    {u : Turn (Query ω) Query.Answer (Serving ω (WatchedEvaluator ε) d.nonlinear d.unknowns)}
    (h : u.Served f) : u.Reached := by
  obtain ⟨q, before, r, after⟩ := u
  cases q with
  | inquiry => exact h.elim
  | objective c =>
    have served : Serving.ServedObjective f c before r after := h
    exact ⟨_, served.once⟩
  | constraints c =>
    obtain ⟨jacobian, served⟩ : ∃ jacobian, Serving.Served f c before jacobian r after := h
    exact ⟨_, served.once⟩

namespace Serving

section

variable [Evaluator ω ε] (f : Flight)

/-- What comes in on the thread of the solve is not stray. -/
theorem answerObjective_of_thread {rows cols : Nat} (s : Serving ω ε rows cols) {c : ObjectiveCall}
    (hthread : c.thread = f.thread) : answerObjective f c s = serveObjective f c s := by
  have hserving : f.gate.serving c.thread = some f.thread := by rw [hthread, f.serving]
  unfold answerObjective
  rw [hserving]

/-- **What an evaluator leaves comes back** while no panic is kept. -/
theorem reports_serveObjective {rows cols : Nat} (s : Serving ω ε rows cols)
    (open_ : s.service.panic = none) {c : ObjectiveCall} {status : Integer}
    (ended : (s.objectiveReply f c).ending = .ok status) :
    (serveObjective f c s).1.Reports (s.objectiveReply f c).output status := by
  have hgradient : (objectiveRequest c).gradient.size ≤ c.gradient.size := by
    rw [objectiveRequest, Array.size_extract, Nat.sub_zero]
    exact Nat.min_le_right ..
  have hreturn : (serveObjective f c s).1 =
      { status
        mode := (s.objectiveReply f c).output.mode
        value := (s.objectiveReply f c).output.value
        gradient := overwrite c.gradient (s.objectiveReply f c).output.gradient } := by
    unfold objectiveReply at ended ⊢
    unfold serveObjective
    simp only [open_, Option.isSome_none, Bool.false_eq_true, if_false, ended]
  rw [hreturn]
  exact ⟨rfl, rfl, rfl, fun i hi => getElem?_overwrite_of_lt _ hgradient hi,
    fun i hi => getElem?_overwrite_of_le _ hi⟩

theorem servedObjective_of_open (s : Serving ω (WatchedEvaluator ε) d.nonlinear d.unknowns)
    (open_ : s.service.panic = none) {c : ObjectiveCall} (hthread : c.thread = f.thread) :
    ServedObjective f c s (answerObjective f c s).1 (answerObjective f c s).2 := by
  have hevaluator := evaluator_serveObjective f s c open_
  rw [answerObjective_of_thread f s hthread]
  refine ⟨⟨rfl, rfl, rfl, rfl, rfl⟩, hevaluator, ?_,
    fun status ended => reports_serveObjective f s open_ ended⟩
  rw [hevaluator]
  exact s.calls_objectiveReply f c

/-- **A callback that matches is served** while no panic is kept. -/
theorem served_of_matches (s : Serving ω (WatchedEvaluator ε) d.nonlinear d.unknowns)
    (open_ : s.service.panic = none) {q : Query ω} (contracted : q.Contracted f.thread)
    (hmatches : q.Matches d) : Turn.Served f ⟨q, s, (answer f q s).1, (answer f q s).2⟩ := by
  cases q with
  | inquiry => exact hmatches.elim
  | objective c => exact servedObjective_of_open f s open_ contracted.1
  | constraints c =>
    obtain ⟨hthread, sized⟩ : c.thread = f.thread ∧ c.Sized := contracted
    have active : (f.gate.serving c.thread).isSome := by
      rw [hthread, f.serving]
      rfl
    exact served_of_serviceable (sized.serviceable hmatches active) s open_

/-! ## Refused callbacks -/

/-- Counts that do not match are refused, and so is a stride that is too small. -/
theorem serveConstraints_of_not_matches {c : ConstraintCall} (sized : c.Sized)
    (h : ¬ c.Matches d) (s : Serving ω ε d.nonlinear d.unknowns) :
    (serveConstraints f c s).1 = refuseConstraints c ∧
      (serveConstraints f c s).2.service = s.service := by
  unfold serveConstraints
  dsimp only
  split
  · exact ⟨rfl, rfl⟩
  · split
    · exact ⟨rfl, rfl⟩
    · next hfound =>
      cases hgather : Matrix.gather d.nonlinear d.unknowns c.stride.toCount (jacobianBuffer c) with
      | error e => exact ⟨rfl, rfl⟩
      | ok m =>
        -- The counts are right and the Jacobian can be read, so the call matches after all.
        obtain ⟨hfits, -⟩ := Matrix.gather_eq_ok_iff.mp hgather
        obtain ⟨-, -, hrows⟩ := Matrix.fits_eq_ok_iff.mp hfits
        obtain ⟨hnonlinear, hunknowns⟩ := Prod.mk.inj (Decidable.not_not.mp hfound)
        rw [Nat.min_eq_left sized.needed] at hnonlinear
        rw [Nat.min_eq_left sized.point] at hunknowns
        exact absurd (c.matches_iff.mpr ⟨hnonlinear.symm, hunknowns.symm, hrows⟩) h

/-- **Any other callback is refused**, and the service stays as it was. -/
theorem answer_of_barred (s : Serving ω ε d.nonlinear d.unknowns) {q : Query ω} {t : Thread}
    (contracted : q.Contracted t) (h : ¬(s.service.panic = none ∧ q.Matches d)) :
    q.Refuses (answer f q s).1 ∧ (answer f q s).2.service = s.service := by
  cases hpanic : s.service.panic with
  | some payload => exact (response f q s).refuses hpanic
  | none =>
    cases q with
    | inquiry => exact contracted.elim
    | objective c => exact absurd ⟨hpanic, trivial⟩ h
    | constraints c =>
      show Query.Refuses (.constraints c) (answerConstraints f c s).1 ∧
        (answerConstraints f c s).2.service = s.service
      unfold answerConstraints
      cases f.gate.serving c.thread with
      | none => exact ⟨⟨rfl, rfl, rfl, rfl⟩, rfl⟩
      | some _ =>
        obtain ⟨hreturn, hservice⟩ := serveConstraints_of_not_matches f contracted.2
          (fun hmatches => h ⟨hpanic, hmatches⟩) s
        dsimp only
        rw [hreturn]
        exact ⟨⟨rfl, rfl, rfl, rfl⟩, hservice⟩

end

end Serving

/-! ## No trace -/

/-- All events, put behind earlier ones. -/
def View.following (earlier : Array (Event ω)) : View ω ε ε where
  evaluator := id
  events es := earlier ++ es
  events_push _ _ := Array.append_push

namespace Serving

variable {rows cols : Nat} [Evaluator ω ε] (f : Flight)

theorem consult_following {α : Type} (earlier : Array (Event ω)) (p : Inquiring ω α)
    (events : Array (Event ω)) :
    consult f p (earlier ++ events) = ((consult f p events).1, earlier ++ (consult f p events).2) := by
  refine Program.run_simulated (φ := fun es => earlier ++ es) (fun q es => ?_) p events
  cases q with
  | note n => exact congrArg (Prod.mk ()) Array.append_push.symm
  | busy | attempt => rfl

theorem shows_following (earlier : Array (Event ω)) :
    (View.following earlier : View ω ε ε).Shows where
  objective f e t r events := consult_following f earlier (Evaluator.objective e t r) events
  constraints f e t r events := consult_following f earlier (Evaluator.constraints e t r) events

/-- **Earlier events make no difference** to an answer. -/
theorem answer_following (earlier : Array (Event ω)) (q : Query ω)
    (s : Serving ω ε rows cols) :
    answer f q (s.seen (.following earlier)) =
      ((answer f q s).1, (answer f q s).2.seen (.following earlier)) := by
  cases q with
  | inquiry q =>
    cases q with
    | note n =>
      have hpush : (earlier ++ s.events).push (.note n) = earlier ++ s.events.push (.note n) :=
        Array.append_push.symm
      show ((), (⟨s.service, (earlier ++ s.events).push (.note n)⟩ : Serving ω ε rows cols)) = _
      rw [hpush]
      rfl
    | busy | attempt => rfl
  | objective c => exact answerObjective_seen (shows_following earlier) f c s
  | constraints c => exact answerConstraints_seen (shows_following earlier) f c s

/-- **What a routine asks from some point on**, and what it is answered, depends on the service
alone. -/
theorem services_dialogue {α : Type} (p : Calling ω α) {s s' : Serving ω ε rows cols}
    (h : s.service = s'.service) :
    (p.dialogue (answer f) s).map (Turn.map Serving.service) =
      (p.dialogue (answer f) s').map (Turn.map Serving.service) := by
  have hbase (s : Serving ω ε rows cols) :
      (p.dialogue (answer f) s).map (Turn.map Serving.service) =
        (p.dialogue (answer f) ⟨s.service, #[]⟩).map (Turn.map Serving.service) := by
    have hseen : s = seen (.following s.events) ⟨s.service, #[]⟩ := by
      show s = ⟨s.service, s.events ++ #[]⟩
      rw [Array.append_empty]
    rw [hseen, Program.dialogue_simulated (answer_following f s.events), List.map_map]
    rfl
  rw [hbase s, hbase s', h]

end Serving

/-! ## The main result -/

namespace Problem

variable [Evaluator ω ε] [Routine ω ρ] (p : Problem d ε ρ) (g : Gate Thread) (t : Thread)
  (x₀ : Array Float)

/-- **Callbacks are screened.** In any solve, admitted with gate `g'`, look at a callback `u` that
keeps to the contract. Then:

* it reaches the evaluator if and only if the evaluator has not panicked before in this solve and the
  counts match; then it is served;
* otherwise it returns -1 with mode -1, its buffers are as they were passed, and evaluator, scratch
  matrix and kept panic are as they were;
* after a callback that did not reach the evaluator, the routine goes on as the program `rest`. All
  that it asks from there on, what it is answered, and what becomes of the service, is what would
  come if the callback had been left out.

(The dialogue is that of the solve itself, watched or not.) -/
theorem callbacks_screened :
    (p.watched.dialogue (ω := ω) g t x₀).map (Turn.map (Serving.map WatchedEvaluator.evaluator)) =
      p.dialogue g t x₀ ∧
    ∀ (g' : Gate Thread) (granted : g.grant t d x₀ = .ok g')
      (earlier later : List (Turn (Query ω) Query.Answer
        (Serving ω (WatchedEvaluator ε) d.nonlinear d.unknowns)))
      (u : Turn (Query ω) Query.Answer (Serving ω (WatchedEvaluator ε) d.nonlinear d.unknowns)),
      p.watched.dialogue (ω := ω) g t x₀ = earlier ++ u :: later → u.query.Contracted t →
      (u.Reached ↔ u.before.service.evaluator.firstPanic = none ∧ u.query.Matches d) ∧
      (u.Reached → u.Served (.ofGrant granted)) ∧
      (¬ u.Reached →
        u.query.Refuses u.answer ∧ u.after.service = u.before.service ∧
        ∃ rest : Calling ω (Departure d (WatchedRoutine ρ)),
          later = rest.dialogue (Serving.answer (.ofGrant granted)) u.after ∧
          later.map (Turn.map Serving.service) =
            (rest.dialogue (Serving.answer (.ofGrant granted)) u.before).map
              (Turn.map Serving.service)) := by
  refine ⟨p.dialogue_watched g t x₀, ?_⟩
  intro g' granted earlier later u cut contracted
  have hfaithful := p.faithful_of_mem_dialogue
    (cut ▸ List.mem_append_right earlier List.mem_cons_self : u ∈ p.watched.dialogue g t x₀)
  obtain ⟨g'', granted', rest, hturn, hlater, -⟩ := p.watched.dialogue_split cut
  obtain rfl : g' = g'' := Except.ok.inj (granted.symm.trans granted')
  let f : Flight := .ofGrant granted
  have hanswer : u.answer = (Serving.answer f u.query u.before).1 := congrArg Prod.fst hturn
  have hafter : u.after = (Serving.answer f u.query u.before).2 := congrArg Prod.snd hturn
  let admitted := u.before.service.evaluator.firstPanic = none ∧ u.query.Matches d
  have hserved (h : admitted) : u.Served f := by
    have := Serving.served_of_matches f u.before (hfaithful.panic.trans h.1) contracted h.2
    rw [← hanswer, ← hafter] at this
    exact this
  have hbarred (h : ¬ admitted) :
      u.query.Refuses u.answer ∧ u.after.service = u.before.service := by
    have := Serving.answer_of_barred f u.before contracted
      fun ⟨hpanic, hmatches⟩ => h ⟨hfaithful.panic.symm.trans hpanic, hmatches⟩
    rw [← hanswer, ← hafter] at this
    exact this
  have hreached : u.Reached ↔ admitted := by
    refine ⟨fun ⟨call, hcalls⟩ => Classical.byContradiction fun h => ?_, fun h => (hserved h).reached⟩
    rw [(hbarred h).2] at hcalls
    simp at hcalls
  refine ⟨hreached, fun h => hserved (hreached.mp h), fun h => ?_⟩
  obtain ⟨hrefuses, hservice⟩ := hbarred fun hadmitted => h (hreached.mpr hadmitted)
  refine ⟨hrefuses, hservice, rest, hlater, ?_⟩
  rw [hlater]
  exact Serving.services_dialogue f rest hservice

end Problem

namespace Script

/-- A problem with one constraint whose routine calls back with a negative stride, with a negative
count, and then in order. -/
def fumbling : Problem (small 2 0 1) (EvaluatorScript InnerProblem) (RoutineScript InnerProblem) :=
  .new _
    { constraints := [[.valueAt 0 7.0, .control (.status 5)]] }
    { script := [[
      .constraints ⟨2, 1, .own, .own, .given (-3), .own, .own, .own, .own, false⟩,
      .constraints ⟨2, 0, .own, .given (-2), .own, .own, .own, .own, .own, false⟩,
      .constraints ⟨2, 0, .own, .own, .own, .own, .own, .own, .own, false⟩]] }

/-- The first two callbacks are refused, and the third one is served. -/
theorem callbacks_screened_fumbling :
    ∃ first note second note' third note'',
      fumbling.watched.dialogue (ω := Note) .vacant mainThread #[0.5, 0.5] =
        [first, note, second, note', third, note''] ∧
      first.query.Refuses first.answer ∧ second.query.Refuses second.answer ∧
      second.after.service = first.before.service ∧
      ∃ f, third.Served f := by
  obtain ⟨-, screened⟩ := fumbling.callbacks_screened (ω := Note) .vacant mainThread #[0.5, 0.5]
  obtain ⟨hfirst, -, refused⟩ :=
    screened _ rfl [] _ _ rfl ⟨rfl, by decide, by decide, by decide, by decide, by decide⟩
  obtain ⟨hsecond, -, refused'⟩ :=
    screened _ rfl [_, _] _ _ rfl ⟨rfl, by decide, by decide, by decide, by decide, by decide⟩
  obtain ⟨hthird, served, -⟩ :=
    screened _ rfl [_, _, _, _] _ _ rfl ⟨rfl, by decide, by decide, by decide, by decide, by decide⟩
  obtain ⟨hrefuses, hservice, -⟩ := refused fun h => absurd (hfirst.mp h).2.rows_le (by decide)
  obtain ⟨hrefuses', hservice', -⟩ := refused' fun h => absurd (hsecond.mp h).2.unknowns (by decide)
  exact ⟨_, _, _, _, _, _, rfl, hrefuses, hrefuses', hservice'.trans hservice, _,
    served (hthird.mpr ⟨rfl, by decide, by decide, by decide⟩)⟩

end Script

end NonlinearFit
