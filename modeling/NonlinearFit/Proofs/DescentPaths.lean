import NonlinearFit.Proofs.BoxProjection
import NonlinearFit.Proofs.Solving
import Mathlib.Data.List.Forall2

/-!
# What a descent does

A gradient descent is told values and gradients by whoever answers its calls. This file says what it
does for all of these answers.

**Evaluations.** Each call of the objective is an `Evaluation`: the point that the descent asks for,
and the mode, value and gradient that it is told. `Evaluates` reads it off a turn.

**Paths.** `Searches`, `Descends` and `Minimizes` relate the evaluations that a search, the
iterations and a whole run go through to how they end. They follow the recursion of the routine:
`searches`, `descends` and `departs` show that every run is of this form, whoever answers. `Departs`
adds what surrounds the evaluations: a panic at crossed bounds before the first of them, and at most
one constraint call after the last.

**What every path has in common.** Only the last evaluation can ask to stop, and then its mode is the
status; otherwise the status is 0, 4 or 6 (`Minimizes.halts_or_finishes`). The point that is reported
comes from the first evaluation or from an accepted one, with the value and the gradient there
(`Descends.last_mem`).
-/

namespace NonlinearFit.GradientDescent

variable {ω σ : Type} {n : Nat} {d : Dimensions}

/-! ## Evaluations -/

/-- A point that a descent asks for, and what it is told there. -/
structure Evaluation (n : Nat) extends Iterate n where
  mode : Integer

/-- The evaluation asks the descent to stop. -/
def Evaluation.Stops (v : Evaluation n) : Prop := v.mode < 0

instance (v : Evaluation n) : Decidable v.Stops := inferInstanceAs (Decidable (v.mode < 0))

/-- The wish to stop, or the point with what was told there. -/
def Evaluation.outcome (v : Evaluation n) : Except Integer (Iterate n) :=
  if v.Stops then .error v.mode else .ok v.toIterate

/-- The objective call that evaluates a point. -/
def objectiveCall (t : Thread) (unknowns nstate : Integer) (x buffer : Vector Float n) :
    ObjectiveCall where
  thread := t
  mode := 2
  unknowns
  nstate
  point := x.toArray
  value := 0.0
  gradient := buffer.toArray

/-- What the return of such a call tells. -/
def told {t : Thread} {unknowns nstate : Integer} {x buffer : Vector Float n}
    (r : ObjectiveReturn (objectiveCall t unknowns nstate x buffer)) : Evaluation n :=
  ⟨⟨x, r.value, r.gradient.cast buffer.size_toArray⟩, r.mode⟩

/-- In this turn the descent gets this evaluation. -/
inductive Evaluates (t : Thread) (unknowns : Integer) :
    Turn (Query ω) Query.Answer σ → Evaluation n → Prop
  | told {nstate : Integer} {x buffer : Vector Float n} {before after : σ}
    (r : ObjectiveReturn (objectiveCall t unknowns nstate x buffer)) :
    Evaluates t unknowns ⟨.objective (objectiveCall t unknowns nstate x buffer), before, r, after⟩
      (told r)

/-- Every turn of a part that is made of evaluations is one of them. -/
theorem exists_evaluation {t : Thread} {unknowns : Integer}
    {turns earlier later : List (Turn (Query ω) Query.Answer σ)} {u : Turn (Query ω) Query.Answer σ}
    {log : List (Evaluation n)} (h : List.Forall₂ (Evaluates t unknowns) turns log)
    (cut : turns = earlier ++ u :: later) :
    ∃ early v late, log = early ++ v :: late ∧ Evaluates t unknowns u v ∧
      List.Forall₂ (Evaluates t unknowns) later late := by
  subst cut
  induction earlier generalizing log with
  | nil =>
    obtain ⟨v, late, hv, hlate, rfl⟩ := List.forall₂_cons_left_iff.mp h
    exact ⟨[], v, late, rfl, hv, hlate⟩
  | cons w earlier ih =>
    obtain ⟨first, log, -, hlog, rfl⟩ := List.forall₂_cons_left_iff.mp h
    obtain ⟨early, v, late, rfl, hv, hlate⟩ := ih hlog
    exact ⟨first :: early, v, late, rfl, hv, hlate⟩

theorem exists_evaluation_of_mem {t : Thread} {unknowns : Integer}
    {turns : List (Turn (Query ω) Query.Answer σ)} {u : Turn (Query ω) Query.Answer σ}
    {log : List (Evaluation n)} (h : List.Forall₂ (Evaluates t unknowns) turns log)
    (hu : u ∈ turns) : ∃ v ∈ log, Evaluates t unknowns u v := by
  obtain ⟨earlier, later, cut⟩ := List.append_of_mem hu
  obtain ⟨early, v, late, rfl, hv, -⟩ := exists_evaluation h cut
  exact ⟨v, List.mem_append_right early List.mem_cons_self, hv⟩

theorem exists_turn {t : Thread} {unknowns : Integer} {turns : List (Turn (Query ω) Query.Answer σ)}
    {log : List (Evaluation n)} (h : List.Forall₂ (Evaluates t unknowns) turns log) :
    ∀ v ∈ log, ∃ u ∈ turns, Evaluates t unknowns u v := by
  induction h with
  | nil => exact fun _ hv => absurd hv List.not_mem_nil
  | @cons u v turns log hv _ ih =>
    refine List.forall_mem_cons.mpr ⟨⟨u, List.mem_cons_self, hv⟩, fun w hw => ?_⟩
    obtain ⟨u', hu', hw⟩ := ih w hw
    exact ⟨u', List.mem_cons_of_mem _ hu', hw⟩

/-- The last evaluation, and no other, asks to stop, with this mode. -/
inductive Halts : Integer → List (Evaluation n) → Prop
  | last {v : Evaluation n} (stops : v.Stops) : Halts v.mode [v]
  | later {mode : Integer} {v : Evaluation n} {log : List (Evaluation n)} (goes : ¬v.Stops)
    (rest : Halts mode log) : Halts mode (v :: log)

theorem Halts.neg {mode : Integer} {log : List (Evaluation n)} (h : Halts mode log) : mode < 0 := by
  induction h with
  | last stops => exact stops
  | later _ _ ih => exact ih

theorem Halts.append {mode : Integer} {early log : List (Evaluation n)}
    (goes : ∀ v ∈ early, ¬v.Stops) (h : Halts mode log) : Halts mode (early ++ log) := by
  induction early with
  | nil => exact h
  | cons v early ih =>
    obtain ⟨hv, hearly⟩ := List.forall_mem_cons.mp goes
    exact .later hv (ih hearly)

/-- Nothing follows an evaluation that asks to stop. -/
theorem Halts.last_of_stops {mode : Integer} {early late : List (Evaluation n)} {v : Evaluation n}
    (h : Halts mode (early ++ v :: late)) (stops : v.Stops) : late = [] ∧ v.mode = mode := by
  induction early with
  | nil =>
    cases h with
    | last => exact ⟨rfl, rfl⟩
    | later goes => exact absurd stops goes
  | cons w early ih =>
    rw [List.cons_append] at h
    generalize hlog : early ++ v :: late = log at h ih
    cases h with
    | last => simp at hlog
    | later _ rest => exact ih rest

theorem Halts.exists_stops {mode : Integer} {log : List (Evaluation n)} (h : Halts mode log) :
    ∃ v ∈ log, v.Stops := by
  induction h with
  | last stops => exact ⟨_, List.mem_singleton_self _, stops⟩
  | later _ _ ih =>
    obtain ⟨v, hv, stops⟩ := ih
    exact ⟨v, List.mem_cons_of_mem _ hv, stops⟩

/-! ## Searches -/

/-- A search along the gradient at `p`: the evaluations that it goes through and how it ends. -/
inductive Searches (b : Box n) (p : Iterate n) :
    List Float → List (Evaluation n) → Search n → Prop
  | exhausted : Searches b p [] [] .exhausted
  | stopped {step : Float} {steps : List Float} {v : Evaluation n}
    (point : v.point = trial b p step) (stops : v.Stops) :
    Searches b p (step :: steps) [v] (.stopped v.mode)
  | accepted {step : Float} {steps : List Float} {v : Evaluation n}
    (point : v.point = trial b p step) (goes : ¬v.Stops)
    (enough : sufficient p v.point v.value = true) :
    Searches b p (step :: steps) [v] (.accepted v.toIterate)
  | rejected {step : Float} {steps : List Float} {v : Evaluation n} {log : List (Evaluation n)}
    {e : Search n} (point : v.point = trial b p step) (goes : ¬v.Stops)
    (notEnough : sufficient p v.point v.value = false) (rest : Searches b p steps log e) :
    Searches b p (step :: steps) (v :: log) e

section

variable {b : Box n} {p : Iterate n} {steps : List Float} {log : List (Evaluation n)} {e : Search n}

theorem Searches.contains (h : Searches b p steps log e) (valid : b.Valid) :
    ∀ v ∈ log, b.Contains v.point := by
  have htrial {v : Evaluation n} {step : Float} (point : v.point = trial b p step) :
      b.Contains v.point := point ▸ Box.contains_project valid _
  induction h with
  | exhausted => exact fun _ hv => absurd hv List.not_mem_nil
  | stopped point | accepted point =>
    exact List.forall_mem_singleton.mpr (htrial point)
  | rejected point _ _ _ ih => exact List.forall_mem_cons.mpr ⟨htrial point, ih⟩

/-- **Only the last evaluation of a search can ask to stop**, and then the search is stopped. -/
theorem Searches.halts_or_goes (h : Searches b p steps log e) :
    (∃ mode, e = .stopped mode ∧ Halts mode log) ∨
      (∀ mode, e ≠ .stopped mode) ∧ ∀ v ∈ log, ¬v.Stops := by
  induction h with
  | exhausted => exact .inr ⟨nofun, fun _ hv => absurd hv List.not_mem_nil⟩
  | stopped _ stops => exact .inl ⟨_, rfl, .last stops⟩
  | accepted _ goes => exact .inr ⟨nofun, List.forall_mem_singleton.mpr goes⟩
  | rejected _ goes _ _ ih =>
    rcases ih with ⟨mode, rfl, halts⟩ | ⟨he, hlog⟩
    · exact .inl ⟨mode, rfl, .later goes halts⟩
    · exact .inr ⟨he, List.forall_mem_cons.mpr ⟨goes, hlog⟩⟩

theorem Searches.halts {mode : Integer} (h : Searches b p steps log (.stopped mode)) :
    Halts mode log := by
  rcases h.halts_or_goes with ⟨mode', he, halts⟩ | ⟨he, -⟩
  · cases he
    exact halts
  · exact absurd rfl (he mode)

theorem Searches.goes (h : Searches b p steps log e) (he : ∀ mode, e ≠ .stopped mode) :
    ∀ v ∈ log, ¬v.Stops := by
  rcases h.halts_or_goes with ⟨mode, heq, -⟩ | ⟨-, hlog⟩
  · exact absurd heq (he mode)
  · exact hlog

theorem Searches.accepted_mem {q : Iterate n} (h : Searches b p steps log (.accepted q)) :
    ∃ v ∈ log, q = v.toIterate := by
  generalize he : Search.accepted q = e at h
  induction h with
  | exhausted | stopped => cases he
  | accepted =>
    cases he
    exact ⟨_, List.mem_singleton_self _, rfl⟩
  | rejected _ _ _ _ ih =>
    obtain ⟨v, hv, hq⟩ := ih he
    exact ⟨v, List.mem_cons_of_mem _ hv, hq⟩

end

section

variable (handle : (q : Query ω) → σ → q.Answer × σ) (t : Thread) (unknowns : Integer)

/-- A program that begins with an evaluation goes on with its outcome. -/
theorem evaluates (nstate : Integer) (x buffer : Vector Float n) (s : σ) :
    ∃ (u : Turn (Query ω) Query.Answer σ) (v : Evaluation n),
      Evaluates t unknowns u v ∧ v.point = x ∧
      ∀ {α : Type} (f : Except Integer (Iterate n) → Calling ω α),
        ((evaluate t unknowns nstate x buffer).bind f).dialogue handle s =
          u :: (f v.outcome).dialogue handle u.after ∧
        ((evaluate t unknowns nstate x buffer).bind f).run handle s =
          (f v.outcome).run handle u.after := by
  let call := objectiveCall t unknowns nstate x buffer
  let r : ObjectiveReturn call := (handle (.objective call) s).1
  let s' : σ := (handle (.objective call) s).2
  exact ⟨⟨.objective call, s, r, s'⟩, told r, .told r, rfl, fun f => ⟨rfl, rfl⟩⟩

/-- **A search is one of these**, whoever answers. -/
theorem searches (b : Box n) (p : Iterate n) (steps : List Float) (buffer : Vector Float n)
    (s : σ) :
    ∃ log : List (Evaluation n),
      List.Forall₂ (Evaluates t unknowns)
        ((search t unknowns b p steps buffer).dialogue handle s) log ∧
      Searches b p steps log ((search t unknowns b p steps buffer).run handle s).1 := by
  induction steps generalizing buffer s with
  | nil => exact ⟨[], .nil, .exhausted⟩
  | cons step steps ih =>
    obtain ⟨u, v, hv, hpoint, heq⟩ := evaluates handle t unknowns 0 (trial b p step) buffer s
    unfold search
    show ∃ log, List.Forall₂ _ ((Program.bind (evaluate ..) _).dialogue handle s) log ∧
      Searches b p (step :: steps) log ((Program.bind (evaluate ..) _).run handle s).1
    rw [(heq _).1, (heq _).2, Evaluation.outcome]
    by_cases stops : v.Stops
    · rw [if_pos stops]
      exact ⟨[v], .cons hv .nil, .stopped hpoint stops⟩
    · rw [if_neg stops]
      cases enough : sufficient p v.point v.value with
      | true =>
        simp only [enough, if_true]
        exact ⟨[v], .cons hv .nil, .accepted hpoint stops enough⟩
      | false =>
        simp only [enough, Bool.false_eq_true, if_false]
        obtain ⟨log, hturns, hsearch⟩ := ih v.gradient u.after
        exact ⟨v :: log, .cons hv hturns, .rejected hpoint stops enough hsearch⟩

end

/-! ## Iterations -/

/-- The iterations from `p` on, at most `left` of them after `done`: the evaluations that they go
through and how they end. -/
inductive Descends (b : Box n) (tolerance : Float) :
    Nat → Integer → Iterate n → List (Evaluation n) → Descended n → Prop
  | optimal {left : Nat} {done : Integer} {p : Iterate n} (still : stationarity b p ≤ tolerance) :
    Descends b tolerance left done p [] ⟨statusOptimal, done, p⟩
  | limit {done : Integer} {p : Iterate n} (moves : ¬stationarity b p ≤ tolerance) :
    Descends b tolerance 0 done p [] ⟨statusIterationLimit, done, p⟩
  | stopped {left : Nat} {done : Integer} {p : Iterate n} {tried : List (Evaluation n)}
    {mode : Integer} (moves : ¬stationarity b p ≤ tolerance)
    (search : Searches b p stepSizes tried (.stopped mode)) :
    Descends b tolerance (left + 1) done p tried ⟨mode, done + 1, p⟩
  | exhausted {left : Nat} {done : Integer} {p : Iterate n} {tried : List (Evaluation n)}
    (moves : ¬stationarity b p ≤ tolerance) (search : Searches b p stepSizes tried .exhausted) :
    Descends b tolerance (left + 1) done p tried ⟨statusCannotImprove, done + 1, p⟩
  | accepted {left : Nat} {done : Integer} {p q : Iterate n} {tried log : List (Evaluation n)}
    {e : Descended n} (moves : ¬stationarity b p ≤ tolerance)
    (search : Searches b p stepSizes tried (.accepted q))
    (rest : Descends b tolerance left (done + 1) q log e) :
    Descends b tolerance (left + 1) done p (tried ++ log) e

/-- **Iterations are these**, whoever answers. -/
theorem descends (handle : (q : Query ω) → σ → q.Answer × σ) (t : Thread) (unknowns : Integer)
    (b : Box n) (tolerance : Float) (left : Nat) (done : Integer) (p : Iterate n)
    (buffer : Vector Float n) (s : σ) :
    ∃ log : List (Evaluation n),
      List.Forall₂ (Evaluates t unknowns)
        ((descend t unknowns b tolerance left done p buffer).dialogue handle s) log ∧
      Descends b tolerance left done p log
        ((descend t unknowns b tolerance left done p buffer).run handle s).1 := by
  induction left generalizing done p buffer s with
  | zero =>
    unfold descend
    by_cases still : stationarity b p ≤ tolerance
    · rw [if_pos still]
      exact ⟨[], .nil, .optimal still⟩
    · rw [if_neg still]
      exact ⟨[], .nil, .limit still⟩
  | succ left ih =>
    unfold descend
    by_cases still : stationarity b p ≤ tolerance
    · rw [if_pos still]
      exact ⟨[], .nil, .optimal still⟩
    · rw [if_neg still]
      obtain ⟨tried, hturns, hsearch⟩ := searches handle t unknowns b p stepSizes buffer s
      show ∃ log, List.Forall₂ _ ((Program.bind _ _).dialogue handle s) log ∧
        Descends b tolerance (left + 1) done p log ((Program.bind _ _).run handle s).1
      rw [Program.dialogue_bind, Program.run_bind]
      generalize (search t unknowns b p stepSizes buffer).run handle s = ended at hsearch ⊢
      obtain ⟨e, s'⟩ := ended
      cases e with
      | stopped mode => exact ⟨tried ++ [], List.rel_append hturns .nil, by
          rw [List.append_nil]
          exact .stopped still hsearch⟩
      | exhausted => exact ⟨tried ++ [], List.rel_append hturns .nil, by
          rw [List.append_nil]
          exact .exhausted still hsearch⟩
      | accepted q =>
        obtain ⟨log, hrest, hdescends⟩ := ih (done + 1) q q.gradient s'
        exact ⟨tried ++ log, List.rel_append hturns hrest, .accepted still hsearch hdescends⟩

/-- A status of a descent that has not been asked to stop. -/
def OwnStatus (status : Integer) : Prop :=
  status = statusOptimal ∨ status = statusIterationLimit ∨ status = statusCannotImprove

section

variable {b : Box n} {tolerance : Float} {left : Nat} {done : Integer} {p : Iterate n}
  {log : List (Evaluation n)} {e : Descended n}

theorem Descends.contains (h : Descends b tolerance left done p log e) (valid : b.Valid) :
    ∀ v ∈ log, b.Contains v.point := by
  induction h with
  | optimal | limit => exact fun _ hv => absurd hv List.not_mem_nil
  | stopped _ search | exhausted _ search => exact search.contains valid
  | accepted _ search _ ih =>
    intro v hv
    rcases List.mem_append.mp hv with hv | hv
    · exact search.contains valid v hv
    · exact ih v hv

/-- **The last point is the first one or one that was evaluated**, with the value and the gradient
there. -/
theorem Descends.last_mem (h : Descends b tolerance left done p log e) :
    e.last = p ∨ ∃ v ∈ log, e.last = v.toIterate := by
  induction h with
  | optimal | limit | stopped | exhausted => exact .inl rfl
  | accepted _ search _ ih =>
    right
    rcases ih with hlast | ⟨v, hv, hlast⟩
    · obtain ⟨v, hv, hq⟩ := search.accepted_mem
      exact ⟨v, List.mem_append_left _ hv, hlast.trans hq⟩
    · exact ⟨v, List.mem_append_right _ hv, hlast⟩

/-- **Only the last evaluation can ask to stop**, and then its mode is the status. -/
theorem Descends.halts_or_finishes (h : Descends b tolerance left done p log e) :
    Halts e.status log ∨ OwnStatus e.status ∧ ∀ v ∈ log, ¬v.Stops := by
  induction h with
  | optimal => exact .inr ⟨.inl rfl, fun _ hv => absurd hv List.not_mem_nil⟩
  | limit => exact .inr ⟨.inr (.inl rfl), fun _ hv => absurd hv List.not_mem_nil⟩
  | stopped _ search => exact .inl search.halts
  | exhausted _ search => exact .inr ⟨.inr (.inr rfl), search.goes nofun⟩
  | accepted _ search _ ih =>
    have htried := search.goes nofun
    rcases ih with halts | ⟨hstatus, hlog⟩
    · exact .inl (halts.append htried)
    · refine .inr ⟨hstatus, fun v hv => ?_⟩
      rcases List.mem_append.mp hv with hv | hv
      · exact htried v hv
      · exact hlog v hv

/-- Where the projected unit step is within the tolerance, a descent ends. -/
theorem Descends.eq_of_still (h : Descends b tolerance left done p log e)
    (still : stationarity b p ≤ tolerance) : e = ⟨statusOptimal, done, p⟩ := by
  cases h with
  | optimal => rfl
  | limit moves | stopped moves | exhausted moves | accepted moves => exact absurd still moves

/-- **Where a descent ends as optimal**, the projected unit step is within the tolerance. -/
theorem Descends.still (h : Descends b tolerance left done p log e)
    (optimal : e.status = statusOptimal) : stationarity b e.last ≤ tolerance := by
  induction h with
  | optimal still => exact still
  | limit => exact absurd (show statusIterationLimit = statusOptimal from optimal) (by decide)
  | exhausted => exact absurd (show statusCannotImprove = statusOptimal from optimal) (by decide)
  | @stopped _ _ _ _ mode _ search =>
    obtain rfl : mode = statusOptimal := optimal
    exact absurd search.halts.neg (by decide)
  | accepted _ _ _ ih => exact ih optimal

end

/-! ## Whole runs -/

/-- A run up to the general constraints: the evaluations that it goes through and the arguments that
it reports. -/
inductive Minimizes (r : GradientDescent) (a : Arguments d) :
    List (Evaluation d.unknowns) → Arguments d → Prop
  | stopped {v : Evaluation d.unknowns} (point : v.point = (box a).project a.point)
    (stops : v.Stops) : Minimizes r a [v] { a with point := v.point, status := v.mode }
  | descended {v : Evaluation d.unknowns} {log : List (Evaluation d.unknowns)}
    {e : Descended d.unknowns} (point : v.point = (box a).project a.point) (goes : ¬v.Stops)
    (descends : Descends (box a) r.tolerance r.maxIterations.toCount 0 v.toIterate log e) :
    Minimizes r a (v :: log) (report a e)

section

variable {r : GradientDescent} {a a' : Arguments d} {log : List (Evaluation d.unknowns)}

theorem Minimizes.contains (h : Minimizes r a log a') (valid : (box a).Valid) :
    (∀ v ∈ log, (box a).Contains v.point) ∧ (box a).Contains a'.point := by
  have hstart : (box a).Contains ((box a).project a.point) := Box.contains_project valid _
  cases h with
  | stopped point =>
    rw [point]
    exact ⟨List.forall_mem_singleton.mpr (point ▸ hstart), hstart⟩
  | @descended v log e point _ descends =>
    rw [← point] at hstart
    have hlog : ∀ w ∈ v :: log, (box a).Contains w.point :=
      List.forall_mem_cons.mpr ⟨hstart, descends.contains valid⟩
    refine ⟨hlog, ?_⟩
    show (box a).Contains e.last.point
    rcases descends.last_mem with hlast | ⟨w, hw, hlast⟩
    · rw [hlast]
      exact hstart
    · rw [hlast]
      exact descends.contains valid w hw

/-- **Only the last evaluation can ask to stop**, and then its mode is the status; otherwise the status
is 0, 4 or 6. -/
theorem Minimizes.halts_or_finishes (h : Minimizes r a log a') :
    Halts a'.status log ∨ OwnStatus a'.status ∧ ∀ v ∈ log, ¬v.Stops := by
  cases h with
  | stopped _ stops => exact .inl (.last stops)
  | descended _ goes descends =>
    rcases descends.halts_or_finishes with halts | ⟨hstatus, hlog⟩
    · exact .inl (.later goes halts)
    · exact .inr ⟨hstatus, List.forall_mem_cons.mpr ⟨goes, hlog⟩⟩

/-- **What is reported by a run that is not stopped** is a point that was evaluated, and its status is
0 only if the projected unit step is within the tolerance there. -/
theorem Minimizes.report_eq (h : Minimizes r a log a') (goes : ∀ v ∈ log, ¬v.Stops) :
    ∃ e, a' = report a e ∧ OwnStatus e.status ∧ (∃ v ∈ log, e.last = v.toIterate) ∧
      (e.status = statusOptimal → stationarity (box a) e.last ≤ r.tolerance) := by
  have hstatus := h.halts_or_finishes
  cases h with
  | stopped _ stops => exact absurd stops (goes _ (List.mem_singleton_self _))
  | @descended v log e _ _ descends =>
    refine ⟨e, rfl, ?_, ?_, descends.still⟩
    · rcases hstatus with halts | ⟨hstatus, -⟩
      · obtain ⟨w, hw, stops⟩ := halts.exists_stops
        exact absurd stops (goes w hw)
      · exact hstatus
    · rcases descends.last_mem with hlast | ⟨w, hw, hlast⟩
      · exact ⟨v, List.mem_cons_self, hlast⟩
      · exact ⟨w, List.mem_cons_of_mem _ hw, hlast⟩

end

/-- The constraint call at the end of a run that has reported `a`. -/
def constraintCall (t : Thread) (c : Counts) (a : Arguments d) : ConstraintCall where
  thread := t
  mode := 2
  nonlinear := c.nonlinear
  unknowns := c.unknowns
  stride := c.jacobianRows
  nstate := 0
  needed := Array.replicate d.jacobianRows 1
  point := a.point.toArray
  values := a.values.toArray
  jacobian := a.jacobian.toArray

theorem size_values (t : Thread) (c : Counts) (a : Arguments d) :
    (constraintCall t c a).values.size = d.jacobianRows := a.values.size_toArray

theorem size_jacobian (t : Thread) (c : Counts) (a : Arguments d) :
    (constraintCall t c a).jacobian.size = d.jacobianRows * d.unknowns := a.jacobian.size_toArray

/-- The report with what the constraint call returned. A negative mode is the status. -/
def withConstraints {t : Thread} {c : Counts} (a : Arguments d)
    (v : ConstraintReturn (constraintCall t c a)) : Arguments d :=
  { a with
    status := if v.mode < 0 then v.mode else a.status
    values := v.values.cast (size_values t c a)
    jacobian := v.jacobian.cast (size_jacobian t c a) }

/-- A whole run: its turns and how it ends. -/
inductive Departs (r : GradientDescent) (t : Thread) (c : Counts) (a : Arguments d) :
    List (Turn (Query ω) Query.Answer σ) → Departure d GradientDescent → Prop
  | crossed {i : Fin d.unknowns} {point : Vector Float d.unknowns}
    (crossed : (box a).crossed? = some i) :
    Departs r t c a []
      ⟨r, { a with point },
        some (Box.crossedMessage ((box a).lower.get i) ((box a).upper.get i))⟩
  | finished {turns : List (Turn (Query ω) Query.Answer σ)} {log : List (Evaluation d.unknowns)}
    {a' : Arguments d} (valid : (box a).Valid)
    (evaluates : List.Forall₂ (Evaluates t c.unknowns) turns log) (minimizes : Minimizes r a log a')
    (done : ¬(0 < c.nonlinear ∧ 0 ≤ a'.status)) : Departs r t c a turns ⟨r, a', none⟩
  | constrained {turns : List (Turn (Query ω) Query.Answer σ)} {log : List (Evaluation d.unknowns)}
    {a' : Arguments d} {before after : σ} (v : ConstraintReturn (constraintCall t c a'))
    (valid : (box a).Valid) (evaluates : List.Forall₂ (Evaluates t c.unknowns) turns log)
    (minimizes : Minimizes r a log a') (asks : 0 < c.nonlinear ∧ 0 ≤ a'.status) :
    Departs r t c a (turns ++ [⟨.constraints (constraintCall t c a'), before, v, after⟩])
      ⟨{ r with lastJacobian := v.jacobian.toArray }, withConstraints a' v, none⟩

/-- **With valid bounds a run reports what its evaluations come to**, if the constraint call does not
ask to stop. -/
theorem Departs.minimized {r : GradientDescent} {t : Thread} {c : Counts} {a : Arguments d}
    {turns : List (Turn (Query ω) Query.Answer σ)} {left : Departure d GradientDescent}
    (h : Departs r t c a turns left) (valid : (box a).Valid)
    (goes : ∀ (call : ConstraintCall) (v : ConstraintReturn call) (before after : σ),
      ⟨.constraints call, before, v, after⟩ ∈ turns → ¬v.mode < 0) :
    ∃ log a' lastJacobian values jacobian, Minimizes r a log a' ∧
      (∀ v ∈ log, ∃ u ∈ turns, Evaluates t c.unknowns u v) ∧
      left = ⟨{ r with lastJacobian }, { a' with values, jacobian }, none⟩ := by
  cases h with
  | crossed crossed => exact absurd crossed (Box.crossed?_ne_some valid)
  | finished _ evaluates minimizes =>
    exact ⟨_, _, _, _, _, minimizes, exists_turn evaluates, rfl⟩
  | @constrained turns log a' before after v _ evaluates minimizes =>
    refine ⟨log, a', v.jacobian.toArray, v.values.cast (size_values t c a'),
      v.jacobian.cast (size_jacobian t c a'), minimizes, fun w hw => ?_, ?_⟩
    · obtain ⟨u, hu, hw⟩ := exists_turn evaluates w hw
      exact ⟨u, List.mem_append_left _ hu, hw⟩
    · have hmode := goes _ v _ _ (List.mem_append_right _ (List.mem_singleton_self _))
      rw [withConstraints, if_neg hmode]

/-- **Every run is one of these**, whoever answers. -/
theorem departs (handle : (q : Query ω) → σ → q.Answer × σ) (r : GradientDescent) (t : Thread)
    (c : Counts) (a : Arguments d) (s : σ) :
    Departs r t c a ((r.solve t c a).dialogue handle s) ((r.solve t c a).run handle s).1 := by
  unfold solve
  dsimp only
  cases hcrossed : (box a).crossed? with
  | some i => exact .crossed hcrossed
  | none =>
    have valid : (box a).Valid := Box.crossed?_eq_none_iff.mp hcrossed
    dsimp only
    let start := (box a).project a.point
    let zeros : Vector Float d.unknowns := .replicate _ 0.0
    let finish (e : Descended d.unknowns) : Calling ω (Departure d GradientDescent) :=
      if 0 < c.nonlinear ∧ 0 ≤ (report a e).status then evaluateConstraints r t c (report a e)
      else .done ⟨r, report a e, none⟩
    obtain ⟨u, v, hv, hpoint, heq⟩ := evaluates handle t c.unknowns 1 start zeros s
    show Departs r t c a (((evaluate t c.unknowns 1 start zeros).bind _).dialogue handle s)
      (((evaluate t c.unknowns 1 start zeros).bind _).run handle s).1
    rw [(heq _).1, (heq _).2, Evaluation.outcome]
    by_cases stops : v.Stops
    · rw [if_pos stops]
      have minimizes := Minimizes.stopped (r := r) hpoint stops
      rw [hpoint] at minimizes
      exact .finished valid (.cons hv .nil) minimizes fun h => Int64.not_lt.mpr h.2 stops
    · rw [if_neg stops]
      obtain ⟨log, hturns, hdescends⟩ := descends handle t c.unknowns (box a) r.tolerance
        r.maxIterations.toCount 0 v.toIterate zeros u.after
      show Departs r t c a (u :: (Program.bind _ _).dialogue handle u.after)
        ((Program.bind _ _).run handle u.after).1
      rw [Program.dialogue_bind, Program.run_bind]
      generalize (descend t c.unknowns (box a) r.tolerance r.maxIterations.toCount 0 v.toIterate
        zeros).run handle u.after = ended at hdescends ⊢
      obtain ⟨e, s'⟩ := ended
      have minimizes := Minimizes.descended hpoint stops hdescends
      show Departs r t c a (u :: (_ ++ (finish e).dialogue handle s'))
        ((finish e).run handle s').1
      by_cases asks : 0 < c.nonlinear ∧ 0 ≤ (report a e).status
      · rw [show finish e = _ from if_pos asks]
        exact .constrained _ valid (.cons hv hturns) minimizes asks
      · rw [show finish e = _ from if_neg asks, Program.dialogue, List.append_nil]
        exact .finished valid (.cons hv hturns) minimizes asks

end NonlinearFit.GradientDescent
