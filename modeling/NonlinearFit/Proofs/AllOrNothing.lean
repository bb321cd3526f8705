import NonlinearFit.Proofs.Setters
import NonlinearFit.Proofs.Watching

/-!
# Steps are all or nothing

A step that is rejected changes nothing, a setter that is accepted changes exactly the data that it
gives, and options that are accepted all reach the routine.

**Rejections.** A step is refused exactly when it has a reason to be (`Problem.refusal?_step`), and
options are inadmissible exactly when they do not pass their check
(`Problem.step_eq_inadmissible_iff`).

**Places.** A `Place` is one entry of one buffer, and a store is known by its entries
(`Store.ext_entry`). `Datum.entry?` is the entry that data gives for a place, if it gives one. A
setter overwrites these entries and no others (`Store.entry_put`), and whoever then reads the data
finds what was given (`Store.shows_put`).

Main result: `all_or_nothing`, for every problem, gate and step.
-/

namespace NonlinearFit

variable {ω : Type} {d : Dimensions} {ε ρ : Type}

/-! ## Rejections -/

/-- Whether a step was rejected. -/
def Answer.isRejection : Answer → Bool
  | refused _ | inadmissible _ | solved (.refused _) => true
  | done | solved (.finished _) | solved (.panicked _) => false

theorem Answer.isRejection_iff {a : Answer} :
    a.isRejection = true ↔ (∃ e, a.refusal? = some e) ∨ ∃ e, a = .inadmissible e := by
  cases a with
  | solved o => cases o <;> simp [isRejection, refusal?]
  | _ => simp [isRejection, refusal?]

/-- The line that an event says is about to go to the routine. -/
def Event.forwarded? : Event ω → Option String
  | trace (.forwardingOption line) => some line
  | _ => none

namespace Problem

theorem outcome_conclude_ne_refused (g : Gate Thread) (lent : Store d) (left : Departure d ρ)
    (s : Serving ω ε d.nonlinear d.unknowns) (e : Refusal) :
    (conclude g lent left s).outcome ≠ .refused e := by
  cases hpanic : left.panic with
  | none =>
    rw [conclude_eq_of_return hpanic]
    cases s.service.panic <;> nofun
  | some payload =>
    rw [conclude_eq_of_panic hpanic]
    nofun

section

variable [Evaluator ω ε] [Routine ω ρ] (p : Problem d ε ρ) (g : Gate Thread)

/-- **A solve is refused exactly when the gate declines it.** -/
theorem outcome_solve_eq_refused_iff {t : Thread} {x₀ : Array Float} {e : Refusal} :
    (p.solve (ω := ω) g t x₀).outcome = .refused e ↔ g.Declines d t x₀ e := by
  rw [← Gate.grant_eq_error_iff]
  cases h : g.grant t d x₀ with
  | error e' =>
    rw [p.solve_refused h]
    exact ⟨fun heq => congrArg _ (Outcome.refused.inj heq), fun heq => by cases heq; rfl⟩
  | ok g' =>
    rw [p.solve_granted h]
    exact ⟨fun heq => absurd heq (outcome_conclude_ne_refused g _ _ _ e), nofun⟩

theorem refusal?_solved {o : Outcome} {e : Refusal} :
    (Answer.solved o).refusal? = some e ↔ o = .refused e := by
  cases o <;> simp [Answer.refusal?]

/-- **A step is refused exactly when the problem has a reason to refuse it.** -/
theorem refusal?_step {a : Step ε ρ} {e : Refusal} :
    (p.step (ω := ω) g a).answer.refusal? = some e ↔ p.Refuses g a e := by
  constructor
  · intro h
    by_cases hsetter : a.isSetter = true
    · obtain ⟨x, hx⟩ | ⟨e', hrefuses⟩ := Step.datum_or_refuses p g hsetter
      · rw [p.step_of_datum g hx] at h
        cases h
      · obtain ⟨answer, hanswer, hstep⟩ := p.step_of_refuses (ω := ω) g hrefuses
        rw [hstep] at h
        cases hanswer.symm.trans h
        exact hrefuses
    · cases a with
      | warmStart | configure | changeEvaluator | changeRoutine => cases h
      | adopt o =>
        simp only [step] at h
        split at h <;> cases h
      | solve start elsewhere =>
        exact .solve ((p.outcome_solve_eq_refused_iff g).mp (refusal?_solved.mp h))
      | _ => exact absurd rfl hsetter
  · intro h
    obtain ⟨answer, hanswer, hstep⟩ := p.step_of_refuses (ω := ω) g h
    rw [hstep]
    exact hanswer

end

/-! ## Options -/

section

variable [Routine ω ρ] (p : Problem d ε ρ)

theorem forwarded_configure (line : String) :
    (p.configure (ω := ω) line).2.toList.filterMap Event.forwarded? = [line] := by
  simp [configure, Event.forwarded?, List.filterMap_map, Function.comp_def]

/-- **All lines are forwarded**, once each and in their order. -/
theorem forwarded_configureAll (lines : List String) :
    (p.configureAll (ω := ω) lines).2.toList.filterMap Event.forwarded? = lines := by
  induction lines generalizing p with
  | nil => rfl
  | cons line rest ih =>
    have hfirst := p.forwarded_configure (ω := ω) line
    have hrest := ih (p.configure (ω := ω) line).1
    simp only [configureAll, Array.toList_append, List.filterMap_append]
    rw [hfirst, hrest]
    rfl

variable [Evaluator ω ε] (g : Gate Thread)

/-- **Options are inadmissible exactly when they do not pass their check.** -/
theorem step_eq_inadmissible_iff {a : Step ε ρ} {e : OptionError} :
    (p.step (ω := ω) g a).answer = .inadmissible e ↔ ∃ o, a = .adopt o ∧ o.check = .error e := by
  constructor
  · intro h
    by_cases hsetter : a.isSetter = true
    · obtain ⟨x, hx⟩ | ⟨e', hrefuses⟩ := Step.datum_or_refuses p g hsetter
      · rw [p.step_of_datum g hx] at h
        cases h
      · have hrefusal := (p.refusal?_step (ω := ω) g).mpr hrefuses
        rw [h] at hrefusal
        cases hrefusal
    · cases a with
      | warmStart | configure | changeEvaluator | changeRoutine | solve => cases h
      | adopt o =>
        cases hcheck : o.check with
        | error e' =>
          rw [p.step_adopt_of_error g hcheck] at h
          cases h
          exact ⟨o, rfl, hcheck⟩
        | ok _ =>
          rw [p.step_adopt_of_ok g hcheck] at h
          cases h
      | _ => exact absurd rfl hsetter
  · rintro ⟨o, rfl, hcheck⟩
    rw [p.step_adopt_of_error g hcheck]

/-- **A rejected step changes nothing.** -/
theorem step_of_rejection {a : Step ε ρ} (h : (p.step (ω := ω) g a).answer.isRejection = true) :
    p.step (ω := ω) g a = ⟨(p.step (ω := ω) g a).answer, p, g, #[]⟩ := by
  obtain ⟨e, he⟩ | ⟨e, he⟩ := Answer.isRejection_iff.mp h
  · obtain ⟨answer, -, hstep⟩ := p.step_of_refuses (ω := ω) g ((p.refusal?_step g).mp he)
    rw [hstep]
  · obtain ⟨o, rfl, hcheck⟩ := (p.step_eq_inadmissible_iff g).mp he
    rw [p.step_adopt_of_error g hcheck]

end

end Problem

/-! ## Places -/

/-- The three copies of an exchanged buffer. -/
inductive Copy where
  | given
  | lent
  | received

/-- One entry of one buffer. -/
inductive Place (d : Dimensions) where
  | lower (i : Fin d.bounds)
  | upper (i : Fin d.bounds)
  | linear (i : Fin d.linearRows) (j : Fin d.unknowns)
  | linearLent (i : Fin d.linearRows) (j : Fin d.unknowns)
  | jacobian (copy : Copy) (i : Fin d.jacobianRows) (j : Fin d.unknowns)
  | multipliers (copy : Copy) (i : Fin d.bounds)
  | hessian (copy : Copy) (i j : Fin d.unknowns)
  | point (copy : Copy) (i : Fin d.unknowns)
  | state (i : Fin d.bounds)
  | values (i : Fin d.jacobianRows)
  | objective
  | gradient (i : Fin d.unknowns)
  | integerWork (i : Fin d.integerWork)
  | realWork (i : Fin d.realWork)
  | status
  | iterations

/-- What stands at a place. -/
inductive Entry where
  | real (v : Float)
  | integer (v : Integer)
  | status (v : Option Status)

def ExchangedVector.entry {k : Nat} (v : ExchangedVector k) : Copy → Fin k → Float
  | .given, i => v.given.get i
  | .lent, i => v.lent.get i
  | .received, i => v.received.get i

def ExchangedMatrix.entry {rows cols : Nat} (m : ExchangedMatrix rows cols) :
    Copy → Fin rows → Fin cols → Float
  | .given, i, j => m.given.get i j
  | .lent, i, j => m.lent.get i j
  | .received, i, j => m.received.get i j

theorem ExchangedVector.ext_entry {k : Nat} {v w : ExchangedVector k}
    (h : ∀ copy i, v.entry copy i = w.entry copy i) : v = w :=
  ExchangedVector.ext (Vector.ext fun i hi => h .given ⟨i, hi⟩)
    (Vector.ext fun i hi => h .lent ⟨i, hi⟩) (Vector.ext fun i hi => h .received ⟨i, hi⟩)

theorem ColumnMajor.ext_get {rows cols : Nat} {α : Type} {b b' : ColumnMajor rows cols α}
    (h : ∀ i j, b.get i j = b'.get i j) : b = b' := by
  rw [← ofMatrix_toMatrix b, ← ofMatrix_toMatrix b']
  congr 1
  ext i j
  simp only [toMatrix, Matrix.get_ofFn, h]

theorem ExchangedMatrix.ext_entry {rows cols : Nat} {m m' : ExchangedMatrix rows cols}
    (h : ∀ copy i j, m.entry copy i j = m'.entry copy i j) : m = m' :=
  ExchangedMatrix.ext (Matrix.ext (h .given)) (ColumnMajor.ext_get (h .lent))
    (Matrix.ext (h .received))

namespace Store

/-- The entry at a place. -/
def entry (s : Store d) : Place d → Entry
  | .lower i => .real (s.lower.get i)
  | .upper i => .real (s.upper.get i)
  | .linear i j => .real (s.linear.get i j)
  | .linearLent i j => .real (s.linearLent.get i j)
  | .jacobian copy i j => .real (s.jacobian.entry copy i j)
  | .multipliers copy i => .real (s.multipliers.entry copy i)
  | .hessian copy i j => .real (s.hessian.entry copy i j)
  | .point copy i => .real (s.point.entry copy i)
  | .state i => .integer (s.state.get i)
  | .values i => .real (s.values.get i)
  | .objective => .real s.objective
  | .gradient i => .real (s.gradient.get i)
  | .integerWork i => .integer (s.integerWork.get i)
  | .realWork i => .real (s.realWork.get i)
  | .status => .status s.status
  | .iterations => .integer s.iterations

/-- **A store is known by its entries.** -/
theorem ext_entry {s s' : Store d} (h : ∀ q, s.entry q = s'.entry q) : s = s' := by
  have hreal {f f' : Float} (heq : Entry.real f = .real f') : f = f' := Entry.real.inj heq
  have hinteger {k k' : Integer} (heq : Entry.integer k = .integer k') : k = k' :=
    Entry.integer.inj heq
  apply Store.ext
  · exact Vector.ext fun i hi => hreal (h (.lower ⟨i, hi⟩))
  · exact Vector.ext fun i hi => hreal (h (.upper ⟨i, hi⟩))
  · exact Matrix.ext fun i j => hreal (h (.linear i j))
  · exact ColumnMajor.ext_get fun i j => hreal (h (.linearLent i j))
  · exact ExchangedMatrix.ext_entry fun copy i j => hreal (h (.jacobian copy i j))
  · exact ExchangedVector.ext_entry fun copy i => hreal (h (.multipliers copy i))
  · exact ExchangedMatrix.ext_entry fun copy i j => hreal (h (.hessian copy i j))
  · exact ExchangedVector.ext_entry fun copy i => hreal (h (.point copy i))
  · exact Vector.ext fun i hi => hinteger (h (.state ⟨i, hi⟩))
  · exact Vector.ext fun i hi => hreal (h (.values ⟨i, hi⟩))
  · exact hreal (h .objective)
  · exact Vector.ext fun i hi => hreal (h (.gradient ⟨i, hi⟩))
  · exact Vector.ext fun i hi => hinteger (h (.integerWork ⟨i, hi⟩))
  · exact Vector.ext fun i hi => hreal (h (.realWork ⟨i, hi⟩))
  · exact Entry.status.inj (h .status)
  · exact hinteger (h .iterations)

end Store

/-! ## What a setter changes -/

/-- The entry that data gives for a place, if it gives one. -/
def Datum.entry? : Datum d → Place d → Option Entry
  | bounds l _, .lower i => some (.real (l.get i))
  | bounds _ u, .upper i => some (.real (u.get i))
  | lower v, .lower i => some (.real (v.get i))
  | upper v, .upper i => some (.real (v.get i))
  | bound k l _, .lower i => if k = i then some (.real l) else none
  | bound k _ u, .upper i => if k = i then some (.real u) else none
  | linear m, .linear i j => if h : i.val < d.linear then some (.real (m.get ⟨i, h⟩ j)) else none
  | jacobian m, .jacobian .given i j =>
    if h : i.val < d.nonlinear then some (.real (m.get ⟨i, h⟩ j)) else none
  | hessian m, .hessian .given i j => some (.real (m.get i j))
  | multipliers v, .multipliers .given i => some (.real (v.get i))
  | state v, .state i => some (.integer (v.get i))
  | _, _ => none

namespace Store

/-- Whoever reads the data that `x` is about finds `x`. -/
def Shows (s : Store d) : Datum d → Prop
  | .bounds l u => s.lower = l ∧ s.upper = u
  | .lower v => s.lower = v
  | .upper v => s.upper = v
  | .bound i l u => s.lower.get i = l ∧ s.upper.get i = u
  | .linear m => s.linearPart = m
  | .jacobian m => s.jacobianGiven = m
  | .hessian m => s.hessian.given = m
  | .multipliers v => s.multipliers.given = v
  | .state v => s.state = v

theorem shows_put (s : Store d) (x : Datum d) : (s.put x).Shows x := by
  cases x with
  | bounds l u => exact ⟨rfl, rfl⟩
  | bound i l u => exact ⟨Vector.getElem_set_self i.isLt, Vector.getElem_set_self i.isLt⟩
  | linear m | jacobian m => exact Matrix.top_setTop ..
  | lower v | upper v | hessian m | multipliers v | state v => rfl

/-- **Data overwrites the entries that it gives and no others.** -/
theorem entry_put (s : Store d) (x : Datum d) (q : Place d) :
    (s.put x).entry q = (x.entry? q).getD (s.entry q) := by
  have hset (v : Vector Float d.bounds) (k i : Fin d.bounds) (f : Float) :
      Entry.real ((v.set k f).get i) =
        (if k = i then some (Entry.real f) else none).getD (.real (v.get i)) := by
    have hget (w : Vector Float d.bounds) : w.get i = w[i] := rfl
    by_cases hk : k = i
    · subst hk
      simp [hget]
    · simp [hk, hget, Vector.getElem_set_ne, Fin.val_ne_of_ne hk]
  have htop {rows cols k : Nat} (m : Matrix rows cols) (m' : Matrix k cols) (i : Fin rows)
      (j : Fin cols) : Entry.real ((m.setTop m').get i j) =
        (if h : i.val < k then some (Entry.real (m'.get ⟨i, h⟩ j)) else none).getD
          (.real (m.get i j)) := by
    rw [Matrix.get_setTop]
    by_cases hi : i.val < k
    · rw [dif_pos hi, dif_pos hi]
      rfl
    · rw [dif_neg hi, dif_neg hi]
      rfl
  cases x with
  | bound k l u =>
    cases q with
    | lower i => exact hset s.lower k i l
    | upper i => exact hset s.upper k i u
    | _ => rfl
  | linear m =>
    cases q with
    | linear i j => exact htop s.linear m i j
    | _ => rfl
  | jacobian m =>
    cases q with
    | jacobian copy i j =>
      cases copy with
      | given => exact htop s.jacobian.given m i j
      | lent | received => rfl
    | _ => rfl
  | hessian m =>
    cases q with
    | hessian copy i j => cases copy <;> rfl
    | _ => rfl
  | multipliers v =>
    cases q with
    | multipliers copy i => cases copy <;> rfl
    | _ => rfl
  | bounds l u | lower v | upper v | state v => cases q <;> rfl

end Store

/-! ## The main theorem -/

/-- **A refused solve calls nobody.** -/
theorem Problem.solve_of_declines [Evaluator ω ε] [Routine ω ρ] (p : Problem d ε ρ)
    {g : Gate Thread} {t : Thread} {x₀ : Array Float} {e : Refusal} (h : g.Declines d t x₀ e) :
    p.solve (ω := ω) g t x₀ = ⟨.refused e, p, g, #[]⟩ ∧ p.dialogue (ω := ω) g t x₀ = [] ∧
      (p.watched.solve (ω := ω) g t x₀).problem = p.watched := by
  have hgrant := Gate.grant_eq_error_iff.mpr h
  refine ⟨p.solve_refused hgrant, p.dialogue_refused hgrant, ?_⟩
  rw [p.watched.solve_refused hgrant]

/-- **Steps are all or nothing.**

* A step is refused with `e` exactly when data has another length or shape, an index lies past the
  bounds, or the gate declines a solve; of two wrong bounds the lower ones are named.
* Options are inadmissible exactly when they do not pass their check.
* A rejected step leaves evaluator, routine, data and gate as they were, and nothing happens on the
  way.
* A setter that is not rejected gives data `x`. Whoever reads that data then finds `x`, and every
  entry that `x` does not give, evaluator, routine and gate stay.
* Options that are not rejected are handed to the routine line by line, once each and in their
  order, and nothing else changes.
* A solve, on whatever thread, is refused exactly when the gate declines it, and then the routine is
  not called and asks nothing, and no request reaches the evaluator. -/
theorem Problem.all_or_nothing [Evaluator ω ε] [Routine ω ρ] (p : Problem d ε ρ) (g : Gate Thread)
    (a : Step ε ρ) :
    let r := p.step (ω := ω) g a
    (∀ e, r.answer.refusal? = some e ↔ p.Refuses g a e) ∧
    (∀ e, r.answer = .inadmissible e ↔ ∃ o, a = .adopt o ∧ o.check = .error e) ∧
    (r.answer.isRejection = true → r.problem = p ∧ r.gate = g ∧ r.events = #[]) ∧
    (a.isSetter = true → r.answer.isRejection = false → ∃ x : Datum d,
      a = x.setter ∧ r.answer = .done ∧ r.gate = g ∧ r.events = #[] ∧
      r.problem.evaluator = p.evaluator ∧ r.problem.routine = p.routine ∧
      r.problem.store.Shows x ∧
      ∀ q, r.problem.store.entry q = (x.entry? q).getD (p.store.entry q)) ∧
    (∀ o, a = .adopt o → r.answer.isRejection = false →
      r.answer = .done ∧ r.gate = g ∧ r.events.toList.filterMap Event.forwarded? = o.lines ∧
      r.problem = { p with
        routine := o.lines.foldl (fun r line => (Routine.configure (ω := ω) r line).1)
          p.routine }) ∧
    ∀ (t : Thread) (x₀ : Array Float) (e : Refusal),
      ((p.solve (ω := ω) g t x₀).outcome = .refused e ↔ g.Declines d t x₀ e) ∧
      (g.Declines d t x₀ e →
        p.solve (ω := ω) g t x₀ = ⟨.refused e, p, g, #[]⟩ ∧ p.dialogue (ω := ω) g t x₀ = [] ∧
          (p.watched.solve (ω := ω) g t x₀).problem = p.watched) := by
  intro r
  refine ⟨fun e => p.refusal?_step g, fun e => p.step_eq_inadmissible_iff g, fun h => ?_,
    fun hsetter h => ?_, fun o ho h => ?_,
    fun t x₀ e => ⟨p.outcome_solve_eq_refused_iff g, p.solve_of_declines⟩⟩
  · have hstep : r = ⟨r.answer, p, g, #[]⟩ := p.step_of_rejection g h
    rw [hstep]
    exact ⟨rfl, rfl, rfl⟩
  · obtain ⟨x, hx⟩ | ⟨e, hrefuses⟩ := Step.datum_or_refuses p g hsetter
    · have hstep : r = _ := p.step_of_datum g hx
      rw [hstep]
      exact ⟨x, Step.datum?_eq_some_iff.mp hx, rfl, rfl, rfl, rfl, rfl, p.store.shows_put x,
        p.store.entry_put x⟩
    · have hrejection : r.answer.isRejection = true :=
        Answer.isRejection_iff.mpr (.inl ⟨e, (p.refusal?_step g).mpr hrefuses⟩)
      rw [h] at hrejection
      cases hrejection
  · subst ho
    cases hcheck : o.check with
    | error e =>
      have hstep : r = _ := p.step_adopt_of_error g hcheck
      rw [hstep] at h
      cases h
    | ok _ =>
      have hstep : r = _ := p.step_adopt_of_ok g hcheck
      rw [hstep]
      exact ⟨rfl, rfl, p.forwarded_configureAll o.lines, p.configureAll_fst o.lines⟩

/-- Two wrong bounds: the lower ones are named. -/
example (p : Problem ⟨1, 0, 0, by decide, by decide, by decide, by decide⟩ ε ρ) [Evaluator ω ε]
    [Routine ω ρ] (g : Gate Thread) :
    (p.step (ω := ω) g (.setBounds #[] #[])).answer = .refused (.lengthMismatch "lower" 1 0) :=
  rfl

end NonlinearFit
