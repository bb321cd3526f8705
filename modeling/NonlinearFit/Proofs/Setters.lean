import NonlinearFit.Proofs.Reachable

/-!
# Setters, options and refusals

**Refusals.** `Problem.Refuses` lists what a problem refuses: data of another length or shape, an
index past the bounds, and a solve that the gate declines. A step that is refused changes nothing
(`Problem.step_of_refuses`).

**Data.** A `Datum` is data of the right size, and `Datum.setter` the step that gives it. A step
gives data exactly if it is such a setter (`Step.datum?_eq_some_iff`), and a setter that gives no
data is refused (`Step.datum_or_refuses`). `Store.put` says what becomes of the data.

**Options.** Options are handed to the routine line by line, or are not admissible and change nothing
(`Problem.step_adopt_of_ok`, `Problem.step_adopt_of_error`).
-/

namespace NonlinearFit

variable {ω : Type} {d : Dimensions} {ε ρ : Type}

/-! ## Refusals -/

/-- The refusal that an answer tells of, if any. -/
def Answer.refusal? : Answer → Option Refusal
  | refused e | solved (.refused e) => some e
  | done | inadmissible _ | solved (.finished _) | solved (.panicked _) => none

/-- On thread `t` the gate declines a solve from `x₀` with `e`. It looks at the length of `x₀`
first. -/
inductive Gate.Declines (g : Gate Thread) (d : Dimensions) (t : Thread) (x₀ : Array Float) :
    Refusal → Prop
  | start (size : x₀.size ≠ d.unknowns) :
    Declines g d t x₀ (.lengthMismatch "x0" d.unknowns x₀.size)
  | busy (size : x₀.size = d.unknowns) (taken : (g.serving t).isSome ∨ g.claimed = true) :
    Declines g d t x₀ .busy

/-- At the gate `g` the problem `p` refuses a step with `e`. Lower bounds are looked at before upper
ones. -/
inductive Problem.Refuses (p : Problem d ε ρ) (g : Gate Thread) : Step ε ρ → Refusal → Prop
  | lowerOfBoth {lower upper : Array Float} (size : lower.size ≠ d.bounds) :
    Refuses p g (.setBounds lower upper) (.lengthMismatch "lower" d.bounds lower.size)
  | upperOfBoth {lower upper : Array Float} (first : lower.size = d.bounds)
    (size : upper.size ≠ d.bounds) :
    Refuses p g (.setBounds lower upper) (.lengthMismatch "upper" d.bounds upper.size)
  | lower {v : Array Float} (size : v.size ≠ d.bounds) :
    Refuses p g (.setLower v) (.lengthMismatch "lower" d.bounds v.size)
  | upper {v : Array Float} (size : v.size ≠ d.bounds) :
    Refuses p g (.setUpper v) (.lengthMismatch "upper" d.bounds v.size)
  | bound {i : Nat} {lower upper : Float} (index : d.bounds ≤ i) :
    Refuses p g (.setBound i lower upper) (.boundIndex i d.bounds)
  | linear {r c : Nat} {m : Matrix r c} (shape : (r, c) ≠ (d.linear, d.unknowns)) :
    Refuses p g (.setLinear m) (.shapeMismatch "linear matrix" (d.linear, d.unknowns) (r, c))
  | jacobian {r c : Nat} {m : Matrix r c} (shape : (r, c) ≠ (d.nonlinear, d.unknowns)) :
    Refuses p g (.setJacobian m)
      (.shapeMismatch "jacobian template" (d.nonlinear, d.unknowns) (r, c))
  | hessian {r c : Nat} {m : Matrix r c} (shape : (r, c) ≠ (d.unknowns, d.unknowns)) :
    Refuses p g (.setHessian m) (.shapeMismatch "hessian" (d.unknowns, d.unknowns) (r, c))
  | multipliers {v : Array Float} (size : v.size ≠ d.bounds) :
    Refuses p g (.setMultipliers v) (.lengthMismatch "multipliers" d.bounds v.size)
  | state {v : Array Integer} (size : v.size ≠ d.bounds) :
    Refuses p g (.setState v) (.lengthMismatch "state" d.bounds v.size)
  | solve {start : StartingPoint} {elsewhere : Bool} {e : Refusal}
    (declined : g.Declines d (if elsewhere then otherThread mainThread else mainThread)
      (p.resolve start) e) :
    Refuses p g (.solve start elsewhere) e

theorem Gate.grant_eq_error_iff {g : Gate Thread} {t : Thread} {x₀ : Array Float} {e : Refusal} :
    g.grant t d x₀ = .error e ↔ g.Declines d t x₀ e := by
  unfold grant
  by_cases hsize : x₀.size = d.unknowns
  · rw [if_pos hsize]
    cases henter : g.enter? t t with
    | some g' =>
      refine ⟨nofun, fun h => ?_⟩
      cases h with
      | start size => exact absurd hsize size
      | busy _ taken => cases henter.symm.trans (enter?_eq_none_iff.mpr taken)
    | none =>
      have taken := enter?_eq_none_iff.mp henter
      refine ⟨fun h => ?_, fun h => ?_⟩
      · cases h
        exact .busy hsize taken
      · cases h with
        | start size => exact absurd hsize size
        | busy => rfl
  · rw [if_neg hsize]
    refine ⟨fun h => ?_, fun h => ?_⟩
    · cases h
      exact .start hsize
    · cases h with
      | start => rfl
      | busy size => exact absurd size hsize

/-! ## Giving data -/

/-- Data for a problem with dimensions `d`. -/
inductive Datum (d : Dimensions) where
  | bounds (lower upper : Vector Float d.bounds)
  | lower (v : Vector Float d.bounds)
  | upper (v : Vector Float d.bounds)
  | bound (i : Fin d.bounds) (lower upper : Float)
  | linear (m : Matrix d.linear d.unknowns)
  | jacobian (m : Matrix d.nonlinear d.unknowns)
  | hessian (m : Matrix d.unknowns d.unknowns)
  | multipliers (v : Vector Float d.bounds)
  | state (v : Vector Integer d.bounds)

/-- An array as a vector, if it has the right size. -/
def sized? {α : Type} (k : Nat) (v : Array α) : Option (Vector α k) :=
  if h : v.size = k then some ⟨v, h⟩ else none

/-- A matrix of another type, if it has the right shape. -/
def Matrix.shaped? (rows cols : Nat) {r c : Nat} (m : Matrix r c) : Option (Matrix rows cols) :=
  if hr : r = rows then if hc : c = cols then some (hr ▸ hc ▸ m) else none else none

theorem sized?_toArray {α : Type} {k : Nat} (v : Vector α k) : sized? k v.toArray = some v :=
  dif_pos v.size_toArray

theorem toArray_of_sized? {α : Type} {k : Nat} {v : Array α} {w : Vector α k}
    (h : sized? k v = some w) : v = w.toArray := by
  unfold sized? at h
  split at h
  · cases h
    rfl
  · cases h

namespace Step

/-- Whether a step is meant to give data. -/
def isSetter : Step ε ρ → Bool
  | setBounds .. | setLower _ | setUpper _ | setBound .. | setLinear _ | setJacobian _
  | setHessian _ | setMultipliers _ | setState _ => true
  | warmStart | configure _ | adopt _ | changeEvaluator _ | changeRoutine _ | solve .. => false

/-- The data that a step gives, if it is a setter and the data has the right size. -/
def datum? (d : Dimensions) : Step ε ρ → Option (Datum d)
  | setBounds lower upper => do
    let lower ← sized? d.bounds lower
    let upper ← sized? d.bounds upper
    return .bounds lower upper
  | setLower v => (sized? d.bounds v).map .lower
  | setUpper v => (sized? d.bounds v).map .upper
  | setBound i lower upper => if h : i < d.bounds then some (.bound ⟨i, h⟩ lower upper) else none
  | setLinear m => (m.shaped? d.linear d.unknowns).map .linear
  | setJacobian m => (m.shaped? d.nonlinear d.unknowns).map .jacobian
  | setHessian m => (m.shaped? d.unknowns d.unknowns).map .hessian
  | setMultipliers v => (sized? d.bounds v).map .multipliers
  | setState v => (sized? d.bounds v).map .state
  | warmStart | configure _ | adopt _ | changeEvaluator _ | changeRoutine _ | solve .. => none

end Step

/-- The setter that gives `x`. -/
def Datum.setter (x : Datum d) : Step ε ρ :=
  match x with
  | bounds l u => .setBounds l.toArray u.toArray
  | lower v => .setLower v.toArray
  | upper v => .setUpper v.toArray
  | bound i l u => .setBound i l u
  | linear m => .setLinear m
  | jacobian m => .setJacobian m
  | hessian m => .setHessian m
  | multipliers v => .setMultipliers v.toArray
  | state v => .setState v.toArray

namespace Step

/-- **A step gives `x` exactly if it is the setter for `x`.** -/
theorem datum?_eq_some_iff {a : Step ε ρ} {x : Datum d} : a.datum? d = some x ↔ a = x.setter := by
  constructor
  · intro h
    cases a with
    | setBounds lower upper =>
      obtain ⟨l, hl, h⟩ := Option.bind_eq_some_iff.mp h
      obtain ⟨u, hu, h⟩ := Option.bind_eq_some_iff.mp h
      cases h
      rw [toArray_of_sized? hl, toArray_of_sized? hu]
      rfl
    | setLower v | setUpper v | setMultipliers v | setState v =>
      obtain ⟨w, hw, rfl⟩ := Option.map_eq_some_iff.mp h
      rw [toArray_of_sized? hw]
      rfl
    | setBound i lower upper =>
      simp only [datum?] at h
      split at h
      · cases h
        rfl
      · cases h
    | setLinear m | setJacobian m | setHessian m =>
      obtain ⟨w, hw, rfl⟩ := Option.map_eq_some_iff.mp h
      unfold Matrix.shaped? at hw
      split at hw
      · next hr =>
        split at hw
        · next hc =>
          subst hr hc
          cases hw
          rfl
        · cases hw
      · cases hw
    | _ => cases h
  · rintro rfl
    cases x with
    | bound i lower upper => exact dif_pos i.isLt
    | _ => simp [Datum.setter, datum?, sized?_toArray, Matrix.shaped?]

/-- **A setter gives data or is refused.** -/
theorem datum_or_refuses (p : Problem d ε ρ) (g : Gate Thread) {a : Step ε ρ}
    (setter : a.isSetter = true) : (∃ x, a.datum? d = some x) ∨ ∃ e, p.Refuses g a e := by
  cases a with
  | setBounds lower upper =>
    by_cases hl : lower.size = d.bounds
    · by_cases hu : upper.size = d.bounds
      · exact .inl ⟨.bounds ⟨lower, hl⟩ ⟨upper, hu⟩, datum?_eq_some_iff.mpr rfl⟩
      · exact .inr ⟨_, .upperOfBoth hl hu⟩
    · exact .inr ⟨_, .lowerOfBoth hl⟩
  | setLower v =>
    by_cases hv : v.size = d.bounds
    · exact .inl ⟨.lower ⟨v, hv⟩, datum?_eq_some_iff.mpr rfl⟩
    · exact .inr ⟨_, .lower hv⟩
  | setUpper v =>
    by_cases hv : v.size = d.bounds
    · exact .inl ⟨.upper ⟨v, hv⟩, datum?_eq_some_iff.mpr rfl⟩
    · exact .inr ⟨_, .upper hv⟩
  | setBound i lower upper =>
    by_cases hi : i < d.bounds
    · exact .inl ⟨.bound ⟨i, hi⟩ lower upper, datum?_eq_some_iff.mpr rfl⟩
    · exact .inr ⟨_, .bound (Nat.le_of_not_lt hi)⟩
  | @setLinear r c m =>
    by_cases hm : (r, c) = (d.linear, d.unknowns)
    · cases hm
      exact .inl ⟨.linear m, datum?_eq_some_iff.mpr rfl⟩
    · exact .inr ⟨_, .linear hm⟩
  | @setJacobian r c m =>
    by_cases hm : (r, c) = (d.nonlinear, d.unknowns)
    · cases hm
      exact .inl ⟨.jacobian m, datum?_eq_some_iff.mpr rfl⟩
    · exact .inr ⟨_, .jacobian hm⟩
  | @setHessian r c m =>
    by_cases hm : (r, c) = (d.unknowns, d.unknowns)
    · cases hm
      exact .inl ⟨.hessian m, datum?_eq_some_iff.mpr rfl⟩
    · exact .inr ⟨_, .hessian hm⟩
  | setMultipliers v =>
    by_cases hv : v.size = d.bounds
    · exact .inl ⟨.multipliers ⟨v, hv⟩, datum?_eq_some_iff.mpr rfl⟩
    · exact .inr ⟨_, .multipliers hv⟩
  | setState v =>
    by_cases hv : v.size = d.bounds
    · exact .inl ⟨.state ⟨v, hv⟩, datum?_eq_some_iff.mpr rfl⟩
    · exact .inr ⟨_, .state hv⟩
  | _ => cases setter

end Step

namespace Store

/-- The data of a problem after `x` was given. -/
def put (s : Store d) : Datum d → Store d
  | .bounds lower upper => { s with lower, upper }
  | .lower v => { s with lower := v }
  | .upper v => { s with upper := v }
  | .bound i lower upper => { s with lower := s.lower.set i lower, upper := s.upper.set i upper }
  | .linear m => { s with linear := s.linear.setTop m }
  | .jacobian m => { s with jacobian.given := s.jacobian.given.setTop m }
  | .hessian m => { s with hessian.given := m }
  | .multipliers v => { s with multipliers.given := v }
  | .state v => { s with state := v }

theorem ofSize_toArray {α : Type} (data : String) {k : Nat} (v : Vector α k) :
    ofSize data k v.toArray = .ok v :=
  dif_pos v.size_toArray

theorem ofSize_of_ne {α : Type} {data : String} {k : Nat} {v : Array α} (h : v.size ≠ k) :
    ofSize data k v = .error (.lengthMismatch data k v.size) :=
  dif_neg h

theorem ofShape_self (data : String) {rows cols : Nat} (m : Matrix rows cols) :
    ofShape data rows cols m = .ok m :=
  dif_pos rfl

theorem ofShape_of_ne {data : String} {rows cols r c : Nat} {m : Matrix r c}
    (h : (r, c) ≠ (rows, cols)) :
    ofShape data rows cols m = .error (.shapeMismatch data (rows, cols) (r, c)) :=
  dif_neg h

end Store

namespace Problem

variable [Evaluator ω ε] [Routine ω ρ] (p : Problem d ε ρ) (g : Gate Thread)

/-- **A setter whose data has the right size** is done, and the data is put into the store. -/
theorem step_setter (x : Datum d) :
    p.step (ω := ω) g x.setter = ⟨.done, { p with store := p.store.put x }, g, #[]⟩ := by
  cases x with
  | bounds lower upper =>
    simp only [Datum.setter, step, Store.setBounds, Store.ofSize_toArray]
    rfl
  | lower v | upper v | multipliers v | state v =>
    simp only [Datum.setter, step, Store.setLower, Store.setUpper, Store.setMultipliers,
      Store.setState, Store.ofSize_toArray]
    rfl
  | bound i lower upper =>
    simp only [Datum.setter, step, Store.setBound, dif_pos i.isLt]
    rfl
  | linear m | jacobian m | hessian m =>
    simp only [Datum.setter, step, Store.setLinear, Store.setJacobian, Store.setHessian,
      Store.ofShape_self]
    rfl

theorem step_of_datum {a : Step ε ρ} {x : Datum d} (h : a.datum? d = some x) :
    p.step (ω := ω) g a = ⟨.done, { p with store := p.store.put x }, g, #[]⟩ := by
  rw [Step.datum?_eq_some_iff.mp h]
  exact p.step_setter g x

/-- **A setter that one problem refuses, every problem refuses**, and nothing changes. -/
theorem step_of_setter_refuses {a : Step ε ρ} {e : Refusal} (setter : a.isSetter = true)
    (h : p.Refuses g a e) (p' : Problem d ε ρ) :
    p'.step (ω := ω) g a = ⟨.refused e, p', g, #[]⟩ := by
  cases h with
  | lowerOfBoth size =>
    simp only [step, Store.setBounds, Store.ofSize_of_ne size]
    rfl
  | @upperOfBoth lower upper first size =>
    have hlower : Store.ofSize "lower" d.bounds lower = .ok ⟨lower, first⟩ := dif_pos first
    simp only [step, Store.setBounds, hlower, Store.ofSize_of_ne size]
    rfl
  | lower size | upper size | multipliers size | state size =>
    simp only [step, Store.setLower, Store.setUpper, Store.setMultipliers, Store.setState,
      Store.ofSize_of_ne size]
    rfl
  | bound index =>
    simp only [step, Store.setBound, dif_neg (Nat.not_lt_of_le index)]
    rfl
  | linear shape | jacobian shape | hessian shape =>
    simp only [step, Store.setLinear, Store.setJacobian, Store.setHessian,
      Store.ofShape_of_ne shape]
    rfl
  | solve declined => cases setter

/-- **A step that is refused changes nothing.** -/
theorem step_of_refuses {a : Step ε ρ} {e : Refusal} (h : p.Refuses g a e) :
    ∃ answer : Answer, answer.refusal? = some e ∧ p.step (ω := ω) g a = ⟨answer, p, g, #[]⟩ := by
  cases hsetter : a.isSetter with
  | true => exact ⟨.refused e, rfl, p.step_of_setter_refuses g hsetter h p⟩
  | false =>
    cases h with
    | solve declined =>
      refine ⟨.solved (.refused e), rfl, ?_⟩
      simp only [step, p.solve_refused (Gate.grant_eq_error_iff.mpr declined)]
    | _ => cases hsetter

/-! ## Options -/

omit [Evaluator ω ε] in
/-- Handing option lines on changes the routine only. -/
theorem configureAll_fst (lines : List String) :
    (p.configureAll (ω := ω) lines).1 =
      { p with
        routine := lines.foldl (fun r line => (Routine.configure (ω := ω) r line).1) p.routine } := by
  induction lines generalizing p with
  | nil => rfl
  | cons line rest ih => exact ih (p.configure (ω := ω) line).1

theorem step_adopt_of_error {o : Options} {e : OptionError} (h : o.check = .error e) :
    p.step (ω := ω) g (.adopt o) = ⟨.inadmissible e, p, g, #[]⟩ := by
  simp only [step, adopt, h]
  rfl

theorem step_adopt_of_ok {o : Options} (h : o.check = .ok ()) :
    p.step (ω := ω) g (.adopt o) =
      ⟨.done, (p.configureAll (ω := ω) o.lines).1, g, (p.configureAll o.lines).2⟩ := by
  simp only [step, adopt, h]
  rfl

end Problem

end NonlinearFit
