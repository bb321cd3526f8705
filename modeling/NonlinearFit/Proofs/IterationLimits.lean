import NonlinearFit.GradientDescent
import NonlinearFit.Proofs.OptionDirectives
import NonlinearFit.Proofs.Setters
import NonlinearFit.Script.Evaluator
import NonlinearFit.Script.Routine

/-!
# The iteration limit of a descent

A descent obeys one option line, the one that sets the iteration limit, and keeps all of them.

**Reading lines.** `OptionLine.integer?` finds a keyword in front of a line whatever the case of its
letters (`OptionLine.dropKeyword?_eq_some_iff`). What follows is a blank and digits, and these stand
for the limit if the routine can hold it (`OptionLine.readInteger?_toDigits`). In lower case, no other
setting's keyword begins with the keyword of the limit or is a beginning of it, so no other line is
taken for one that sets it (`Setting.integer?_line_of_ne`).

**Many lines.** Only lines of the limit matter for it (`GradientDescent.maxIterations_foldl`), and
options have at most one.

Main result: `Problem.iteration_limit_arrives`.
-/

namespace NonlinearFit

variable {ω : Type} {d : Dimensions} {ε : Type}

/-! ## Reading lines -/

namespace OptionLine

/-- The keyword is what stands in front. -/
theorem dropKeyword?_eq_some_iff {keyword cs rest : List Char} :
    dropKeyword? keyword cs = some rest ↔ cs = keyword ++ rest := by
  induction keyword generalizing cs with
  | nil => exact Option.some_inj
  | cons k ks ih =>
    cases cs with
    | nil => simp [dropKeyword?]
    | cons c cs =>
      rw [dropKeyword?, List.cons_append, List.cons.injEq]
      split
      · next h => rw [ih, eq_comm (a := c), and_iff_right h]
      · next h => simp [Ne.symm h]

theorem toNat_of_isDigit {c : Char} (h : c.isDigit = true) : 48 ≤ c.toNat ∧ c.toNat ≤ 57 := by
  simp only [Char.isDigit, Bool.and_eq_true, decide_eq_true_eq, ge_iff_le,
    UInt32.le_iff_toNat_le] at h
  exact h

theorem not_isBlank_of_isDigit {c : Char} (h : c.isDigit = true) : isBlank c = false := by
  obtain ⟨hge, hle⟩ := toNat_of_isDigit h
  unfold isBlank
  simp only [Bool.or_eq_false_iff, Bool.and_eq_false_iff, decide_eq_false_iff_not]
  omega

theorem toLower_of_isDigit {c : Char} (h : c.isDigit = true) : c.toLower = c := by
  have hle := (toNat_of_isDigit h).2
  unfold Char.toLower
  refine dif_neg fun hupper => ?_
  have hge : 65 ≤ c.toNat := UInt32.le_iff_toNat_le.mp hupper.1
  omega

theorem trim_digits {ds : List Char} (h : Json.Digits ds) : trim ds = ds := by
  have hnone : ∀ c ∈ ds, isBlank c = false := fun c hc => not_isBlank_of_isDigit (h.2 c hc)
  have hself (cs : List Char) (hcs : ∀ c ∈ cs, isBlank c = false) : cs.dropWhile isBlank = cs := by
    cases cs with
    | nil => rfl
    | cons c cs => simp [hcs c List.mem_cons_self]
  unfold trim
  rw [hself ds hnone, hself ds.reverse fun c hc => hnone c (List.mem_reverse.mp hc),
    List.reverse_reverse]

theorem digits?_toDigits (k : Nat) : digits? (Nat.toDigits 10 k) = some k := by
  obtain ⟨hne, hdigits⟩ := Json.digits_toDigits k
  have hvalue := Json.natOfDigits_toDigits k
  unfold Json.natOfDigits at hvalue
  unfold digits?
  rw [hvalue, if_pos]
  rw [Bool.and_eq_true, Bool.not_eq_true', List.isEmpty_eq_false_iff, List.all_eq_true]
  exact ⟨hne, hdigits⟩

/-- **Digits are read** as the number that they write, if the routine can hold it. -/
theorem readInteger?_toDigits (k : Nat) :
    readInteger? (Nat.toDigits 10 k) =
      if k ≤ Integer.largest then some (Int64.ofInt k) else none := by
  have hdigits := digits?_toDigits k
  obtain ⟨-, hall⟩ := Json.digits_toDigits k
  unfold readInteger?
  split
  · next heq => exact absurd (hall '-' (heq ▸ List.mem_cons_self)) (by decide)
  · next heq => exact absurd (hall '+' (heq ▸ List.mem_cons_self)) (by decide)
  · rw [hdigits]
    rfl

/-- What a line sets that has the keyword in front, in any case, a blank, and digits. -/
theorem integer?_append {keyword name : String}
    (h : name.toList.map Char.toLower = keyword.toList ++ [' ']) (k : Nat) :
    integer? keyword (name ++ toString k) =
      if k ≤ Integer.largest then some (Int64.ofInt k) else none := by
  have hdigits := Json.digits_toDigits k
  have hlower : (toString k).toList.map Char.toLower = Nat.toDigits 10 k := by
    rw [toList_toString, List.map_congr_left fun c hc => toLower_of_isDigit (hdigits.2 c hc),
      List.map_id']
  have hvalue : dropKeyword? keyword.toList ((name ++ toString k).toList.map Char.toLower) =
      some (' ' :: Nat.toDigits 10 k) := by
    rw [dropKeyword?_eq_some_iff, String.toList_append, List.map_append, h, hlower,
      List.append_assoc]
    rfl
  have htrim : trim (' ' :: Nat.toDigits 10 k) = Nat.toDigits 10 k := trim_digits hdigits
  have hequals : (Nat.toDigits 10 k).dropWhile (· == '=') = Nat.toDigits 10 k := by
    cases hds : Nat.toDigits 10 k with
    | nil => rfl
    | cons c cs =>
      have hc : c.isDigit = true := hdigits.2 c (hds ▸ List.mem_cons_self)
      have hne : c ≠ '=' := fun e => absurd (e ▸ hc) (by decide)
      simp [hne]
  unfold integer?
  rw [hvalue]
  show readInteger? (trim ((trim (' ' :: Nat.toDigits 10 k)).dropWhile (· == '='))) = _
  rw [htrim, hequals, trim_digits hdigits, readInteger?_toDigits]

end OptionLine

/-! ## Lines of settings -/

/-- The keyword by which a descent knows the iteration limit. -/
def limitKeyword : String := "major iteration limit"

namespace Setting

/-- In lower case, other keywords and that of the limit are not beginnings of one another. -/
theorem keywords_ne_limit :
    ∀ p ∈ keywords, p.2 ≠ .majorLimit →
      ¬p.1.toList.map Char.toLower <+: limitKeyword.toList ∧
        ¬limitKeyword.toList <+: p.1.toList.map Char.toLower := by
  decide +kernel

/-- **Other settings do not set the limit**, whatever their value. -/
theorem integer?_line_of_ne {s : Setting} (h : s.field ≠ .majorLimit) :
    OptionLine.integer? limitKeyword s.line = none := by
  obtain ⟨hnot, hnot'⟩ := keywords_ne_limit _ s.keyword_mem h
  have hkeyword :
      s.keyword.toList.map Char.toLower <+: s.line.toList.map Char.toLower := by
    rw [line_eq, String.toList_append, List.map_append]
    exact List.prefix_append ..
  have hnone : OptionLine.dropKeyword? limitKeyword.toList (s.line.toList.map Char.toLower) =
      none := by
    rw [Option.eq_none_iff_forall_ne_some]
    intro rest hrest
    have hlimit : limitKeyword.toList <+: s.line.toList.map Char.toLower :=
      ⟨rest, (OptionLine.dropKeyword?_eq_some_iff.mp hrest).symm⟩
    rcases List.prefix_or_prefix_of_prefix hkeyword hlimit with h | h
    · exact hnot h
    · exact hnot' h
  unfold OptionLine.integer?
  rw [hnone]
  rfl

theorem integer?_line_majorLimit (limit : Word) :
    OptionLine.integer? limitKeyword (majorLimit limit).line =
      if limit.toNat ≤ Integer.largest then some (Int64.ofInt limit.toNat) else none :=
  OptionLine.integer?_append (by decide +kernel) limit.toNat

end Setting

/-! ## Descents that take lines -/

namespace GradientDescent

theorem configure_eq (r : GradientDescent) (line : String) :
    r.configure line =
      { r with
        options := r.options ++ [line]
        maxIterations := (OptionLine.integer? limitKeyword line).getD r.maxIterations } := rfl

/-- **Lines are kept** in their order, and nothing else changes but the limit. -/
theorem foldl_configure (r : GradientDescent) (lines : List String) :
    lines.foldl configure r =
      { r with
        options := r.options ++ lines
        maxIterations := (lines.foldl configure r).maxIterations } := by
  induction lines generalizing r with
  | nil => simp
  | cons line rest ih =>
    rw [List.foldl_cons, ih, configure_eq]
    simp

/-- The limit after some lines depends on the limit before them. -/
theorem maxIterations_foldl_congr {r r' : GradientDescent} (h : r.maxIterations = r'.maxIterations)
    (lines : List String) :
    (lines.foldl configure r).maxIterations = (lines.foldl configure r').maxIterations := by
  induction lines generalizing r r' with
  | nil => exact h
  | cons line rest ih => exact ih (by rw [configure_eq, configure_eq, h])

/-- **Only lines of the limit change the limit.** -/
theorem maxIterations_foldl (r : GradientDescent) (ss : List Setting) :
    ((ss.map Setting.line).foldl configure r).maxIterations =
      (((ss.filter (·.field = .majorLimit)).map Setting.line).foldl configure r).maxIterations := by
  induction ss generalizing r with
  | nil => rfl
  | cons s ss ih =>
    rw [List.map_cons, List.foldl_cons, ih]
    by_cases hs : s.field = .majorLimit
    · rw [List.filter_cons_of_pos (by simp [hs]), List.map_cons, List.foldl_cons]
    · rw [List.filter_cons_of_neg (by simp [hs])]
      refine maxIterations_foldl_congr ?_ _
      rw [configure_eq, Setting.integer?_line_of_ne hs]
      rfl

/-- The limit after the lines of options. -/
theorem maxIterations_lines (r : GradientDescent) (o : Options) :
    (o.lines.foldl configure r).maxIterations =
      match o.majorLimit with
      | some limit =>
        if limit.toNat ≤ Integer.largest then Int64.ofInt limit.toNat else r.maxIterations
      | none => r.maxIterations := by
  rw [Options.lines, maxIterations_foldl, Options.filter_settings]
  show (((o.majorLimit.map Setting.majorLimit).toList.map Setting.line).foldl configure
    r).maxIterations = _
  cases o.majorLimit with
  | none => rfl
  | some limit =>
    show (r.configure (Setting.majorLimit limit).line).maxIterations = _
    rw [configure_eq, Setting.integer?_line_majorLimit]
    dsimp only
    split <;> rfl

end GradientDescent

theorem Integer.toInt_ofInt {k : Nat} (h : k ≤ largest) : (Int64.ofInt k).toInt = k :=
  Int64.toInt_ofInt_of_le (by omega) (by unfold largest at h; omega)

/-! ## The main result -/

namespace Problem

/-- **The iteration limit arrives.** When a problem whose routine is a descent adopts admissible
options:

* the descent has received exactly the lines of the options, after those it had received before, and
  nothing else has changed but perhaps its iteration limit;
* if the options set a limit that the routine can hold, that is its limit now;
* if they set none, or one that is too large, its limit is what it was.

The line of any other setting, admissible or not, leaves the limit of any descent as it is. -/
theorem iteration_limit_arrives [Evaluator ω ε] (p : Problem d ε GradientDescent) (g : Gate Thread)
    {o : Options} (admissible : o.check = .ok ()) :
    (∃ limit : Integer,
      (p.step (ω := ω) g (.adopt o)).answer = .done ∧
      (p.step (ω := ω) g (.adopt o)).problem =
        { p with routine := { p.routine with
            options := p.routine.options ++ o.lines
            maxIterations := limit } } ∧
      (∀ w, o.majorLimit = some w → w.toNat ≤ Integer.largest → limit.toInt = w.toNat) ∧
      ((∀ w, o.majorLimit = some w → Integer.largest < w.toNat) →
        limit = p.routine.maxIterations)) ∧
    ∀ (r : GradientDescent) (s : Setting), s.field ≠ .majorLimit →
      (r.configure s.line).maxIterations = r.maxIterations := by
  have hlimit := p.routine.maxIterations_lines o
  refine ⟨⟨(o.lines.foldl GradientDescent.configure p.routine).maxIterations, ?_, ?_, ?_, ?_⟩, ?_⟩
  · rw [p.step_adopt_of_ok g admissible]
  · rw [p.step_adopt_of_ok g admissible, configureAll_fst]
    exact congrArg (fun r => ({ p with routine := r } : Problem d ε GradientDescent))
      (p.routine.foldl_configure o.lines)
  · intro w hw hle
    rw [hlimit, hw]
    dsimp only
    rw [if_pos hle, Integer.toInt_ofInt hle]
  · intro hlarge
    rw [hlimit]
    cases hw : o.majorLimit with
    | none => rfl
    | some w => exact if_neg (Nat.not_le.mpr (hlarge w hw))
  · intro r s hs
    rw [GradientDescent.configure_eq, Setting.integer?_line_of_ne hs]
    rfl

end Problem

namespace Script

/-- A problem whose routine is a descent that has received an option line before. -/
def configured : Problem (small 1 0 0) (EvaluatorScript InnerProblem) GradientDescent :=
  .new _ {} { options := ["Nolist"] }

/-- It adopts the largest limit that the routine can hold, among other options. -/
theorem iteration_limit_arrives_largest :
    let o : Options :=
      { start := some .warm, majorLimit := some 9223372036854775807, minorLimit := some 7 }
    let r := (configured.step (ω := Note) .vacant (.adopt o)).problem.routine
    r.maxIterations.toInt = 9223372036854775807 ∧
      r.options = ["Nolist", "Warm Start", "Major Iteration Limit 9223372036854775807",
        "Minor Iteration Limit 7"] := by
  intro o r
  obtain ⟨⟨limit, -, hproblem, hset, -⟩, -⟩ :=
    configured.iteration_limit_arrives (ω := Note) .vacant (o := o) rfl
  have hr : r = { configured.routine with
      options := configured.routine.options ++ o.lines, maxIterations := limit } :=
    congrArg Problem.routine hproblem
  have hlimit : limit.toInt = (9223372036854775807 : Word).toNat := hset _ rfl (by decide)
  refine ⟨?_, ?_⟩
  · rw [hr]
    exact hlimit
  · rw [hr]
    show configured.routine.options ++ o.lines = _
    decide +kernel

end Script

end NonlinearFit
