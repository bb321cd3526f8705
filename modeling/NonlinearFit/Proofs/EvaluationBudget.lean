import NonlinearFit.Proofs.Feasibility
import NonlinearFit.Proofs.StopCodes

/-!
# How much a descent evaluates

A gradient descent has two loops. The outer one ends at an optimum, at the iteration limit, or when a
search ends it; the inner one, the search, ends when the objective has decreased enough or when the step
size falls below `1e-20`. Both may be told anything: modes, values and gradients that are infinite, are
not numbers, or contradict each other.

**The loops.** `Loops` are the two loops as steps between stages, one for each evaluation, without a
bound on their number, and with iterations counted by a natural number. Every run of a descent is a path
through them (`Descends.path`): the bounds on which it recurses cut nothing off, and its counter is exact
(`Integer.toInt_add_one`).

**The budget.** A step size can be halved 66 times before it falls below `1e-20`, so a search evaluates
at most 67 points. The invariant `Stage.Spent` bounds the evaluations by this number for each iteration
that is over, and one for each halving. Each evaluation keeps it (`Loops.spent_next`), and so does every
path (`Loops.Path.spent`).

Main result: `evaluations_bounded`, for every evaluator, starting point and iteration limit.
-/

namespace NonlinearFit

open GradientDescent

variable {ω : Type} {d : Dimensions} {ε : Type}

/-- **Counting on is exact** below any integer. -/
theorem Integer.toInt_add_one {i limit : Integer} {k : Nat} (counted : i.toInt = k)
    (below : k < limit.toCount) : (i + 1).toInt = (k + 1 : Nat) := by
  have hlimit : limit.toInt < 2 ^ 63 := limit.toInt_lt
  unfold toCount at below
  rw [Int64.toInt_add, Int64.toInt_one, counted]
  exact Int.bmod_eq_of_le (by omega) (by omega)

namespace GradientDescent

variable {σ : Type} {n : Nat}

/-! ## Step sizes -/

/-- A step size of one that has been halved `k` times. -/
def stepSize : Nat → Float
  | 0 => 1.0
  | k + 1 => stepSize k * 0.5

theorem stepSize_succ (k : Nat) : stepSize (k + 1) = stepSize k * 0.5 := rfl

/-- The number of step sizes in a search: `1e-20` lies between `2 ^ -67` and `2 ^ -66`. -/
def trials : Nat := 67

theorem stepSizes_eq : stepSizes = (List.range' 0 trials).map stepSize := by
  decide +kernel

theorem stepSize_trials : stepSize trials < 1e-20 := by
  decide +kernel

theorem stepSize_of_lt : ∀ k < trials, ¬stepSize k < 1e-20 := by
  decide +kernel

/-! ## The loops -/

/-- Where the loops of a descent are. -/
inductive Stage (n : Nat) where
  /-- An iteration, with this many begun, is about to try a step size. -/
  | trying (begun : Nat) (p : Iterate n) (step : Float)
  | ended (status : Integer) (begun : Nat) (last : Iterate n)

/-- An iteration goes on with a step size, or gives up if it is too small. -/
def Stage.shortened (begun : Nat) (p : Iterate n) (step : Float) : Stage n :=
  if step < 1e-20 then .ended statusCannotImprove begun p else .trying begun p step

/-- What the loops of a descent depend on. -/
structure Loops (n : Nat) where
  box : Box n
  tolerance : Float
  limit : Integer

namespace Loops

variable (l : Loops n)

/-- The head of the outer loop. -/
def head (begun : Nat) (p : Iterate n) : Stage n :=
  if stationarity l.box p ≤ l.tolerance then .ended statusOptimal begun p
  else if l.limit.toInt ≤ begun then .ended statusIterationLimit begun p
  else .trying (begun + 1) p 1.0

/-- What an evaluation leads to in the inner loop. -/
def next (begun : Nat) (p : Iterate n) (step : Float) (v : Evaluation n) : Stage n :=
  if v.Stops then .ended v.mode begun p
  else if sufficient p v.point v.value then l.head begun v.toIterate
  else .shortened begun p (step * 0.5)

/-- What the end of a search leads to. -/
def after (begun : Nat) (p : Iterate n) : Search n → Stage n
  | .accepted q => l.head begun q
  | .stopped mode => .ended mode begun p
  | .exhausted => .ended statusCannotImprove begun p

/-- From one stage evaluations of the points that are tried lead to another one. -/
inductive Path (l : Loops n) : Stage n → List (Evaluation n) → Stage n → Prop
  | refl (s : Stage n) : Path l s [] s
  | tried {begun : Nat} {p : Iterate n} {step : Float} {v : Evaluation n} {log : List (Evaluation n)}
    {s : Stage n} (point : v.point = trial l.box p step)
    (rest : Path l (l.next begun p step v) log s) : Path l (.trying begun p step) (v :: log) s

/-- A whole run, before the general constraints: its evaluations, its status, and its number of
iterations. -/
inductive Run (l : Loops n) : List (Evaluation n) → Integer → Nat → Prop
  | stopped {v : Evaluation n} (stops : v.Stops) : Run l [v] v.mode 0
  | looped {v : Evaluation n} {log : List (Evaluation n)} {status : Integer} {iterations : Nat}
    {last : Iterate n} (goes : ¬v.Stops)
    (path : l.Path (l.head 0 v.toIterate) log (.ended status iterations last)) :
    Run l (v :: log) status iterations

variable {l} {s s' s'' : Stage n} {log log' : List (Evaluation n)}

theorem Path.trans (h : l.Path s log s') (h' : l.Path s' log' s'') : l.Path s (log ++ log') s'' := by
  induction h with
  | refl => exact h'
  | tried point _ ih => exact .tried point (ih h')

end Loops

/-! ## The budget -/

theorem Evaluation.Stops.mode_ne_limit {v : Evaluation n} (h : v.Stops) :
    v.mode ≠ statusIterationLimit :=
  fun hmode => absurd (show statusIterationLimit < 0 from hmode ▸ h) (by decide)

/-- A stage that `spent` evaluations can lead to: at most `trials` of them in each iteration that is
over, and one for each time that the step size has been halved. The status says that the iteration limit
is reached only if it is. -/
inductive Stage.Spent (limit spent : Nat) : Stage n → Prop
  | trying {earlier k : Nat} {p : Iterate n} (begins : earlier < limit) (tries : k < trials)
    (spent_le : spent ≤ trials * earlier + k) :
    Spent limit spent (.trying (earlier + 1) p (stepSize k))
  | ended {status : Integer} {begun : Nat} {last : Iterate n} (within : begun ≤ limit)
    (spent_le : spent ≤ trials * begun) (reached : status = statusIterationLimit → begun = limit) :
    Spent limit spent (.ended status begun last)

theorem Stage.Spent.le {limit spent : Nat} {s : Stage n} (h : s.Spent limit spent) :
    spent ≤ trials * limit := by
  cases h with
  | @trying earlier k p begins tries spent_le =>
    calc spent ≤ trials * earlier + k := spent_le
      _ ≤ trials * (earlier + 1) := Nat.add_le_add_left (Nat.le_of_lt tries) _
      _ ≤ trials * limit := Nat.mul_le_mul_left _ begins
  | ended within spent_le => exact Nat.le_trans spent_le (Nat.mul_le_mul_left _ within)

namespace Loops

variable {l : Loops n} {log : List (Evaluation n)}

theorem spent_head {begun spent : Nat} (within : begun ≤ l.limit.toCount) (spent_le : spent ≤ trials * begun)
    (p : Iterate n) : (l.head begun p).Spent l.limit.toCount spent := by
  unfold head
  split
  · exact .ended within spent_le fun h => absurd h (by decide)
  · split
    · next reached =>
      exact .ended within spent_le fun _ => Nat.le_antisymm within (Int.toNat_le.mpr reached)
    · next below =>
      have begins : begun < l.limit.toCount := Int.lt_toNat.mpr (Int.not_le.mp below)
      exact .trying (k := 0) begins (by decide) spent_le

/-- **One evaluation** spends one. -/
theorem spent_next {begun spent : Nat} {p : Iterate n} {step : Float}
    (h : (Stage.trying begun p step).Spent l.limit.toCount spent) (v : Evaluation n) :
    (l.next begun p step v).Spent l.limit.toCount (spent + 1) := by
  cases h with
  | @trying earlier k _ begins tries spent_le =>
    -- Wherever the search ends here, the iteration has spent no more than its share.
    have hover : spent + 1 ≤ trials * (earlier + 1) := by
      rw [Nat.mul_succ]
      omega
    unfold next
    split
    · next stops => exact .ended begins hover fun h => absurd h stops.mode_ne_limit
    · split
      · exact spent_head begins hover v.toIterate
      · unfold Stage.shortened
        split
        · exact .ended begins hover fun h => absurd h (by decide)
        · next large =>
          have hne : k + 1 ≠ trials := fun h =>
            large (show stepSize (k + 1) < 1e-20 from h ▸ stepSize_trials)
          exact .trying (k := k + 1) begins (Nat.lt_of_le_of_ne tries hne) (by omega)

/-- **A path spends as much as it is long**, whatever it is told. -/
theorem Path.spent {s s' : Stage n} {spent : Nat} (h : l.Path s log s')
    (start : s.Spent l.limit.toCount spent) :
    s'.Spent l.limit.toCount (spent + log.length) := by
  induction h generalizing spent with
  | refl => exact start
  | tried _ _ ih =>
    have hrest := ih (spent_next start _)
    rwa [Nat.add_assoc, Nat.add_comm 1] at hrest

theorem Path.spent_length {first : Iterate n} {s : Stage n} (h : l.Path (l.head 0 first) log s) :
    s.Spent l.limit.toCount log.length := by
  have hspent := h.spent (spent_head (Nat.zero_le _) (Nat.zero_le _) first)
  rwa [Nat.zero_add] at hspent

/-- **The loops end**: no path through them is longer. -/
theorem Path.length_le {first : Iterate n} {s : Stage n} (h : l.Path (l.head 0 first) log s) :
    log.length ≤ trials * l.limit.toCount :=
  h.spent_length.le

/-- **The budget of a run.** -/
theorem Run.budget {status : Integer} {iterations : Nat} (h : l.Run log status iterations) :
    iterations ≤ l.limit.toCount ∧ log.length ≤ 1 + trials * iterations ∧
      (status = statusIterationLimit → iterations = l.limit.toCount) := by
  cases h with
  | stopped stops =>
    exact ⟨Nat.zero_le _, Nat.le_refl _, fun h => absurd h stops.mode_ne_limit⟩
  | looped goes path =>
    cases path.spent_length with
    | ended within spent_le reached =>
      refine ⟨within, ?_, reached⟩
      rw [List.length_cons, Nat.add_comm]
      exact Nat.add_le_add_left spent_le 1

end Loops

/-! ## Descents as paths -/

/-- The loops of a descent within these bounds. -/
def loops (r : GradientDescent) (b : Box n) : Loops n := ⟨b, r.tolerance, r.maxIterations⟩

/-- **A search is a path** through the inner loop. -/
theorem Searches.path {l : Loops n} {begun m k : Nat} {p : Iterate n} {log : List (Evaluation n)}
    {e : Search n} (h : Searches l.box p ((List.range' k m).map stepSize) log e)
    (total : k + m = trials) :
    l.Path (.shortened begun p (stepSize k)) log (l.after begun p e) := by
  induction m generalizing k log with
  | zero =>
    cases h
    obtain rfl : k = trials := total
    rw [Stage.shortened, if_pos stepSize_trials]
    exact .refl _
  | succ m ih =>
    rw [Stage.shortened, if_neg (stepSize_of_lt k (by omega))]
    rw [List.range'_succ, List.map_cons] at h
    cases h with
    | stopped point stops =>
      refine .tried point ?_
      rw [Loops.next, if_pos stops]
      exact .refl _
    | accepted point goes enough =>
      refine .tried point ?_
      rw [Loops.next, if_neg goes, if_pos enough]
      exact .refl _
    | rejected point goes notEnough rest =>
      refine .tried point ?_
      rw [Loops.next, if_neg goes, notEnough, if_neg Bool.false_ne_true, ← stepSize_succ]
      exact ih rest (by omega)

/-- An iteration that begins is a path through the inner loop. -/
theorem Searches.path_head {l : Loops n} {begun : Nat} {p : Iterate n} {log : List (Evaluation n)}
    {e : Search n} (h : Searches l.box p stepSizes log e)
    (moves : ¬stationarity l.box p ≤ l.tolerance) (below : begun < l.limit.toCount) :
    l.Path (l.head begun p) log (l.after (begun + 1) p e) := by
  have hhead : l.head begun p = .shortened (begun + 1) p (stepSize 0) := by
    rw [Loops.head, if_neg moves, if_neg (Int.not_le.mpr (Int.lt_toNat.mp below)), Stage.shortened,
      if_neg (stepSize_of_lt 0 (by decide))]
    rfl
  rw [hhead]
  rw [stepSizes_eq] at h
  exact h.path (Nat.zero_add trials)

/-- **Iterations are a path** through both loops, and are counted exactly. -/
theorem Descends.path {l : Loops n} {left : Nat} {done : Integer} {p : Iterate n}
    {log : List (Evaluation n)} {e : Descended n}
    (h : Descends l.box l.tolerance left done p log e) {begun : Nat} (counted : done.toInt = begun)
    (total : begun + left = l.limit.toCount) :
    ∃ iterations : Nat, e.iterations.toInt = iterations ∧
      l.Path (l.head begun p) log (.ended e.status iterations e.last) := by
  induction h generalizing begun with
  | optimal still =>
    refine ⟨begun, counted, ?_⟩
    rw [Loops.head, if_pos still]
    exact .refl _
  | limit moves =>
    refine ⟨begun, counted, ?_⟩
    have reached : l.limit.toInt ≤ begun := Int.toNat_le.mp (Nat.le_of_eq total.symm)
    rw [Loops.head, if_neg moves, if_pos reached]
    exact .refl _
  | stopped moves search | exhausted moves search =>
    have below : begun < l.limit.toCount := by omega
    exact ⟨begun + 1, Integer.toInt_add_one counted below, search.path_head moves below⟩
  | accepted moves search _ ih =>
    have below : begun < l.limit.toCount := by omega
    obtain ⟨iterations, hiterations, hpath⟩ :=
      ih (Integer.toInt_add_one counted below) (by omega)
    exact ⟨iterations, hiterations, (search.path_head moves below).trans hpath⟩

section

variable {r : GradientDescent} {t : Thread} {c : Counts} {a : Arguments d}

/-- **A run up to the general constraints** is a run of the loops. -/
theorem Minimizes.run {a' : Arguments d} {log : List (Evaluation d.unknowns)}
    (h : Minimizes r a log a') (fresh : a.iterations = 0) :
    ∃ iterations : Nat, a'.iterations.toInt = iterations ∧
      (r.loops (box a)).Run log a'.status iterations := by
  cases h with
  | stopped _ stops =>
    exact ⟨0, congrArg Int64.toInt fresh, .stopped stops⟩
  | descended _ goes descends =>
    have start : (0 : Integer).toInt = (0 : Nat) := rfl
    obtain ⟨iterations, counted, path⟩ :=
      Descends.path (l := r.loops (box a)) descends start (Nat.zero_add _)
    exact ⟨iterations, counted, .looped goes path⟩

/-! ## Callbacks of a run -/

/-- The turns in which this callback is made. -/
def callbacks (callback : Callback) (turns : List (Turn (Query ω) Query.Answer σ)) :
    List (Turn (Query ω) Query.Answer σ) :=
  turns.filter fun u => u.query.callback?.map Prod.fst = some callback

variable {turns : List (Turn (Query ω) Query.Answer σ)} {log : List (Evaluation d.unknowns)}

theorem callbacks_of_evaluates (evaluates : List.Forall₂ (Evaluates t c.unknowns) turns log) :
    callbacks .objective turns = turns ∧ callbacks .constraints turns = [] := by
  have hobjective := callback?_of_evaluates evaluates
  constructor
  · refine List.filter_eq_self.mpr fun u hu => ?_
    simp [hobjective u hu]
  · refine List.filter_eq_nil_iff.mpr fun u hu => ?_
    simp [hobjective u hu]

/-- **With valid bounds a whole run** calls back for the evaluations of a run of the loops, and at most
once more for the constraints. It reports the number of iterations, and status 4 only if the loops end
with it. -/
theorem Departs.run {left : Departure d GradientDescent} (h : Departs r t c a turns left)
    (valid : (box a).Valid) (fresh : a.iterations = 0) :
    ∃ log status, ∃ iterations : Nat,
      List.Forall₂ (Evaluates t c.unknowns) (callbacks .objective turns) log ∧
      (callbacks .constraints turns).length ≤ 1 ∧
      (r.loops (box a)).Run log status iterations ∧
      left.panic = none ∧ left.arguments.iterations.toInt = iterations ∧
      (left.arguments.status = statusIterationLimit → status = statusIterationLimit) := by
  cases h with
  | crossed crossed => exact absurd crossed (Box.crossed?_ne_some valid)
  | @finished _ log a' _ evaluates minimizes =>
    obtain ⟨hobjective, hconstraints⟩ := callbacks_of_evaluates evaluates
    obtain ⟨iterations, counted, run⟩ := minimizes.run fresh
    refine ⟨log, a'.status, iterations, ?_, ?_, run, rfl, counted, id⟩
    · rwa [hobjective]
    · rw [hconstraints]
      exact Nat.zero_le 1
  | @constrained turns log a' before after v _ evaluates minimizes =>
    obtain ⟨hobjective, hconstraints⟩ := callbacks_of_evaluates evaluates
    obtain ⟨iterations, counted, run⟩ := minimizes.run fresh
    refine ⟨log, a'.status, iterations, ?_, ?_, run, rfl, counted, fun hstatus => ?_⟩
    · rw [callbacks, List.filter_append, ← callbacks, hobjective]
      simpa [Query.callback?] using evaluates
    · rw [callbacks, List.filter_append, ← callbacks, hconstraints]
      simp [Query.callback?]
    · have hstatus : (if v.mode < 0 then v.mode else a'.status) = statusIterationLimit := hstatus
      split at hstatus
      · next neg => exact absurd (hstatus ▸ neg) (by decide)
      · exact hstatus

end

end GradientDescent

/-! ## The main result -/

namespace Problem

variable [Evaluator ω ε] (p : Problem d ε GradientDescent) {g g' : Gate Thread} {t : Thread}
  {x₀ : Array Float}

/-- **A solve with valid bounds** makes the callbacks of a run of the loops, and stores its number of
iterations. -/
theorem exists_run (valid : p.box.Valid) (granted : g.grant t d x₀ = .ok g') :
    let turns := p.dialogue (ω := ω) g t x₀
    let store := (p.solve (ω := ω) g t x₀).problem.store
    ∃ log status, ∃ iterations : Nat,
      List.Forall₂ (Evaluates t d.counts.unknowns) (callbacks .objective turns) log ∧
      (callbacks .constraints turns).length ≤ 1 ∧
      (p.routine.loops p.box).Run log status iterations ∧
      store.iterations.toInt = iterations ∧
      (store.status = some ⟨4⟩ → status = statusIterationLimit) := by
  intro turns store
  let lent := p.store.prepared ⟨x₀, Gate.size_of_grant granted⟩
  let run := p.call (ω := ω) (.ofGrant granted) lent
  obtain ⟨log, status, iterations, hlog, hconstraints, hrun, hpanic, counted, hstatus⟩ :=
    (p.departs_call (ω := ω) granted).run valid rfl
  have hstore : store = lent.settled run.1.arguments := by
    show (p.solve (ω := ω) g t x₀).problem.store = _
    rw [p.solve_granted granted, conclude_eq_of_return hpanic]
  rw [hstore]
  exact ⟨log, status, iterations, hlog, hconstraints, hrun, counted,
    fun h => hstatus (Status.mk.inj (Option.some.inj h))⟩

/-- **Any other solve** makes no callbacks and stores no status. -/
theorem idle (unable : ¬((∃ g', g.grant t d x₀ = .ok g') ∧ p.box.Valid)) :
    let store := (p.solve (ω := ω) g t x₀).problem.store
    p.dialogue (ω := ω) g t x₀ = [] ∧ store.iterations = p.store.iterations ∧
      store.status = p.store.status := by
  intro store
  cases hgrant : g.grant t d x₀ with
  | error e =>
    have hstore : store = p.store := by
      show (p.solve (ω := ω) g t x₀).problem.store = _
      rw [p.solve_refused hgrant]
    rw [hstore]
    exact ⟨p.dialogue_refused hgrant, rfl, rfl⟩
  | ok g' =>
    let lent := p.store.prepared ⟨x₀, Gate.size_of_grant hgrant⟩
    let run := p.call (ω := ω) (.ofGrant hgrant) lent
    have crossed : ¬p.box.Valid := fun valid => unable ⟨⟨g', hgrant⟩, valid⟩
    obtain ⟨hturns, i, point, -, hleft⟩ := (p.departs_call (ω := ω) hgrant).crosses crossed
    have hstore : store = lent.takeBack run.1.arguments := by
      show (p.solve (ω := ω) g t x₀).problem.store = _
      rw [p.solve_granted hgrant, conclude_eq_of_panic (congrArg Departure.panic hleft)]
    rw [hstore]
    exact ⟨hturns, rfl, rfl⟩

/-- **The budget of a solve.** Consider any solve by a gradient descent; a negative iteration limit counts
as zero.

* Its loops end: whatever they are told, they evaluate at most 67 points for each iteration that the limit
  allows.
* The solve makes at most one objective callback more than that, and at most one constraint callback.
* If it is admitted and has valid bounds, then its objective callbacks are the evaluations of a run of the
  loops. It stores the true number of iterations, which is at most the limit, and it stores status 4 only
  if this number is the limit.
* Otherwise it makes no callbacks and stores neither.
-/
theorem evaluations_bounded (g : Gate Thread) (t : Thread) (x₀ : Array Float) :
    let loops := p.routine.loops p.box
    let limit := p.routine.maxIterations.toCount
    let turns := p.dialogue (ω := ω) g t x₀
    let store := (p.solve (ω := ω) g t x₀).problem.store
    let runs := (∃ g', g.grant t d x₀ = .ok g') ∧ p.box.Valid
    (∀ first log s, loops.Path (loops.head 0 first) log s → log.length ≤ 67 * limit) ∧
    ((callbacks .objective turns).length ≤ 1 + 67 * limit ∧
      (callbacks .constraints turns).length ≤ 1) ∧
    (runs → ∃ log status, ∃ iterations : Nat,
      List.Forall₂ (Evaluates t d.counts.unknowns) (callbacks .objective turns) log ∧
      loops.Run log status iterations ∧ log.length ≤ 1 + 67 * iterations ∧
      store.iterations.toInt = iterations ∧ iterations ≤ limit ∧
      (store.status = some ⟨4⟩ → iterations = limit)) ∧
    (¬runs → turns = [] ∧ store.iterations = p.store.iterations ∧
      store.status = p.store.status) := by
  intro loops limit turns store runs
  refine ⟨fun first log s => Loops.Path.length_le, ?_, fun admitted => ?_, p.idle⟩
  · by_cases admitted : runs
    · obtain ⟨⟨g', granted⟩, valid⟩ := admitted
      obtain ⟨log, status, iterations, hlog, hconstraints, hrun, -⟩ :=
        p.exists_run (ω := ω) valid granted
      obtain ⟨within, hlength, -⟩ := hrun.budget
      refine ⟨?_, hconstraints⟩
      calc (callbacks .objective turns).length = log.length := hlog.length_eq
        _ ≤ 1 + trials * iterations := hlength
        _ ≤ 1 + trials * limit := Nat.add_le_add_left (Nat.mul_le_mul_left _ within) 1
    · have hturns : turns = [] := (p.idle admitted).1
      rw [hturns]
      exact ⟨Nat.zero_le _, Nat.zero_le _⟩
  · obtain ⟨⟨g', granted⟩, valid⟩ := admitted
    obtain ⟨log, status, iterations, hlog, -, hrun, counted, hstatus⟩ :=
      p.exists_run (ω := ω) valid granted
    obtain ⟨within, hlength, reached⟩ := hrun.budget
    exact ⟨log, status, iterations, hlog, hrun, hlength, counted, within, fun h => reached (hstatus h)⟩

end Problem

namespace Script

/-- A problem in one variable with one constraint and this iteration limit, whose objective is nowhere a
number. -/
def valueless (limit : Integer) :
    Problem (small 1 0 1) (EvaluatorScript InnerProblem) GradientDescent :=
  .new _ { objective := [[.value (0.0 / 0.0), .gradientFill 1.0]] } { maxIterations := limit }

/-- A search for a number spends all that an iteration may; without iterations the limit is reached at
once. -/
theorem evaluations_bounded_valueless :
    let p := valueless 1
    let turns := p.dialogue (ω := Note) .vacant mainThread #[0.0]
    let store := ((valueless (-3)).solve (ω := Note) .vacant mainThread #[0.0]).problem.store
    ((callbacks .objective turns).length = 1 + 67 * p.routine.maxIterations.toCount ∧
      (callbacks .constraints turns).length ≤ 1) ∧
    store.status = some ⟨4⟩ ∧ store.iterations.toInt = 0 := by
  intro p turns store
  obtain ⟨-, ⟨hle, hconstraints⟩, -⟩ := p.evaluations_bounded (ω := Note) .vacant mainThread #[0.0]
  obtain ⟨-, -, hruns, -⟩ :=
    (valueless (-3)).evaluations_bounded (ω := Note) .vacant mainThread #[0.0]
  obtain ⟨log, status, iterations, -, -, -, counted, -, hlimit⟩ :=
    hruns ⟨⟨_, rfl⟩, by decide +kernel⟩
  have hstatus : store.status = some ⟨4⟩ := by decide +kernel
  refine ⟨⟨Nat.le_antisymm hle ?_, hconstraints⟩, hstatus, ?_⟩
  · decide +kernel
  · rw [counted, hlimit hstatus]
    rfl

end Script

end NonlinearFit
