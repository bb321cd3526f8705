import NonlinearFit.Word

/-!
# The dimensions of a problem

A problem has `unknowns` variables, `linear` general linear constraints and `nonlinear` nonlinear
constraints. These three counts fix the size of every buffer the routine works on.

**Sizes.** Bounds, state and multipliers run over all three kinds (`bounds`). The linear matrix
and the Jacobian keep one padding row when they have no constraint (`linearRows`,
`jacobianRows`). The two workspaces have the lengths the routine prescribes (`integerWork`,
`realWork`).

**Validation.** `Dimensions.ofCounts` accepts three words when there is a variable and the number
of bounds and both workspace lengths are integers of the routine (`Admissible`). The sizes are
computed in checked word arithmetic, step by step, and no step fails unless the result is too large
(`computes_boundCount`, `computes_integerWork`, `computes_realWork`).
-/

namespace NonlinearFit

/-- Why three counts are not the dimensions of a problem. -/
inductive DimensionError where
  | noVariables
  | tooLarge (unknowns linear nonlinear : Word)
deriving DecidableEq, Repr

/-- The sentence that reports the error. -/
def DimensionError.message : DimensionError → String
  | noVariables => "a problem needs at least one variable"
  | tooLarge n l c =>
    "problem with n=" ++ toString n.toNat ++ ", nclin=" ++ toString l.toNat ++ ", ncnln="
      ++ toString c.toNat ++ " exceeds the routine's integer range"

/-! ## Sizes -/

/-- The number of bounds: one for each variable and each constraint. -/
def boundCount (n l c : Nat) : Nat := n + l + c

/-- The length of the integer workspace. -/
def integerWork (n l c : Nat) : Nat := 3 * n + l + 2 * c

/-- The length of the real workspace. It grows with the square of the number of variables as soon
as there is a general constraint. -/
def realWork (n l c : Nat) : Nat :=
  if c = 0 then
    if l = 0 then 20 * n else 2 * (n * n) + 20 * n + 11 * l
  else 2 * (n * n) + n * l + 2 * n * c + 20 * n + 11 * l + 21 * c

/-- `boundCount` in checked word arithmetic. -/
def boundCount? (n l c : Word) : Option Word := do
  (← n.add? l).add? c

/-- `integerWork` in checked word arithmetic. -/
def integerWork? (n l c : Word) : Option Word := do
  (← (← n.mul? 3).add? l).add? (← c.mul? 2)

/-- `realWork` in checked word arithmetic. -/
def realWork? (n l c : Word) : Option Word := do
  let n₂₀ ← n.mul? 20
  if l = 0 ∧ c = 0 then
    return n₂₀
  let n₂ ← (← n.mul? n).mul? 2
  let l₁₁ ← l.mul? 11
  if c = 0 then
    (← n₂.add? n₂₀).add? l₁₁
  else
    let s ← n₂.add? (← n.mul? l)
    let s ← s.add? (← (← n.mul? c).mul? 2)
    let s ← s.add? n₂₀
    let s ← s.add? l₁₁
    s.add? (← c.mul? 21)

theorem computes_boundCount (n l c : Word) :
    Word.Computes (boundCount? n l c) (boundCount n.toNat l.toNat c.toNat) := by
  unfold boundCount? boundCount
  refine (Word.computes_add n l).bind (by omega) fun s hs => ?_
  exact hs ▸ Word.computes_add s c

theorem computes_integerWork (n l c : Word) :
    Word.Computes (integerWork? n l c) (integerWork n.toNat l.toNat c.toNat) := by
  have h₃ : Word.Computes (n.mul? 3) (n.toNat * 3) := Word.computes_mul n 3
  have h₂ : Word.Computes (c.mul? 2) (c.toNat * 2) := Word.computes_mul c 2
  unfold integerWork? integerWork
  refine h₃.bind (by omega) fun n₃ hn₃ => ?_
  refine (Word.computes_add n₃ l).bind (by omega) fun s hs => ?_
  refine h₂.bind (by omega) fun c₂ hc₂ => ?_
  have hsum : 3 * n.toNat + l.toNat + 2 * c.toNat = s.toNat + c₂.toNat := by omega
  rw [hsum]
  exact Word.computes_add s c₂

theorem computes_realWork (n l c : Word) :
    Word.Computes (realWork? n l c) (realWork n.toNat l.toNat c.toNat) := by
  have zero (v : Word) : v = 0 ↔ v.toNat = 0 := by rw [← UInt64.toNat_inj]; rfl
  have h₂₀ : Word.Computes (n.mul? 20) (n.toNat * 20) := Word.computes_mul n 20
  have h₁₁ : Word.Computes (l.mul? 11) (l.toNat * 11) := Word.computes_mul l 11
  have h₂₁ : Word.Computes (c.mul? 21) (c.toNat * 21) := Word.computes_mul c 21
  have twice (v : Word) : Word.Computes (v.mul? 2) (v.toNat * 2) := Word.computes_mul v 2
  have hnn := Word.computes_mul n n
  have hnl := Word.computes_mul n l
  have hnc := Word.computes_mul n c
  unfold realWork? realWork
  rw [Nat.mul_assoc 2 n.toNat c.toNat]
  generalize n.toNat * n.toNat = nn at hnn ⊢
  generalize n.toNat * l.toNat = nl at hnl ⊢
  generalize n.toNat * c.toNat = nc at hnc ⊢
  simp only [zero]
  by_cases hc : c.toNat = 0
  · by_cases hl : l.toNat = 0
    · simp only [hc, hl, and_self, if_true]
      refine h₂₀.bind (by omega) fun n₂₀ hn₂₀ => ?_
      have hsum : 20 * n.toNat = n₂₀.toNat := by omega
      rw [hsum]
      exact Word.computes_some n₂₀
    · simp only [hc, hl, false_and, if_false, if_true]
      refine h₂₀.bind (by omega) fun n₂₀ hn₂₀ => ?_
      refine hnn.bind (by omega) fun q hq => ?_
      refine (twice q).bind (by omega) fun n₂ hn₂ => ?_
      refine h₁₁.bind (by omega) fun l₁₁ hl₁₁ => ?_
      refine (Word.computes_add n₂ n₂₀).bind (by omega) fun s hs => ?_
      have hsum : 2 * nn + 20 * n.toNat + 11 * l.toNat = s.toNat + l₁₁.toNat := by omega
      rw [hsum]
      exact Word.computes_add s l₁₁
  · simp only [hc, and_false, if_false]
    refine h₂₀.bind (by omega) fun n₂₀ hn₂₀ => ?_
    refine hnn.bind (by omega) fun q hq => ?_
    refine (twice q).bind (by omega) fun n₂ hn₂ => ?_
    refine h₁₁.bind (by omega) fun l₁₁ hl₁₁ => ?_
    refine hnl.bind (by omega) fun p hp => ?_
    refine (Word.computes_add n₂ p).bind (by omega) fun s hs => ?_
    refine hnc.bind (by omega) fun r hr => ?_
    refine (twice r).bind (by omega) fun r₂ hr₂ => ?_
    refine (Word.computes_add s r₂).bind (by omega) fun s' hs' => ?_
    refine (Word.computes_add s' n₂₀).bind (by omega) fun s'' hs'' => ?_
    refine (Word.computes_add s'' l₁₁).bind (by omega) fun s₃ hs₃ => ?_
    refine h₂₁.bind (by omega) fun c₂₁ hc₂₁ => ?_
    have hsum : 2 * nn + nl + 2 * nc + 20 * n.toNat + 11 * l.toNat + 21 * c.toNat =
        s₃.toNat + c₂₁.toNat := by omega
    rw [hsum]
    exact Word.computes_add s₃ c₂₁

/-! ## Validation -/

/-- There is a variable, and the sizes that are checked are integers of the routine. -/
structure Admissible (n l c : Nat) : Prop where
  unknowns_pos : 0 < n
  bounds_le : boundCount n l c ≤ Integer.largest
  integerWork_le : integerWork n l c ≤ Integer.largest
  realWork_le : realWork n l c ≤ Integer.largest

/-- The sizes of a problem in words: the three counts, and the lengths of both workspaces. -/
structure WordSizes where
  unknowns : Word
  linear : Word
  nonlinear : Word
  integerWork : Word
  realWork : Word
deriving DecidableEq, Repr

/-- The words are the counts `n`, `l` and `c`, and the exact lengths of their workspaces. -/
structure WordSizes.Exact (s : WordSizes) (n l c : Word) : Prop where
  unknowns : s.unknowns = n
  linear : s.linear = l
  nonlinear : s.nonlinear = c
  integerWork : s.integerWork.toNat = NonlinearFit.integerWork n.toNat l.toNat c.toNat
  realWork : s.realWork.toNat = NonlinearFit.realWork n.toNat l.toNat c.toNat

/-- Whether a word is an integer of the routine. -/
def Word.isInteger (w : Word) : Bool := decide (w.toNat ≤ Integer.largest)

theorem Word.Computes.any_isInteger {x : Option Word} {k : Nat} (h : Computes x k) :
    x.any isInteger = true ↔ k ≤ Integer.largest := by
  rw [Option.any_eq_true]
  constructor
  · rintro ⟨w, hw, hle⟩
    rw [(h w).mp hw]
    exact of_decide_eq_true hle
  · intro hle
    obtain ⟨w, hw⟩ := exists_toNat_eq (Nat.lt_of_le_of_lt hle (by decide))
    exact ⟨w, (h w).mpr hw, decide_eq_true (hw ▸ hle)⟩

/-- Validates three counts and computes the lengths of the workspaces. -/
def WordSizes.ofCounts (n l c : Word) : Except DimensionError WordSizes :=
  if n = 0 then .error .noVariables
  else
    match integerWork? n l c, realWork? n l c with
    | some i, some r =>
      if (boundCount? n l c).any Word.isInteger && i.isInteger && r.isInteger then
        .ok ⟨n, l, c, i, r⟩
      else .error (.tooLarge n l c)
    | _, _ => .error (.tooLarge n l c)

namespace WordSizes

variable {n l c : Word}

theorem ofCounts_zero (l c : Word) : ofCounts 0 l c = .error .noVariables := rfl

theorem ofCounts_of_admissible (h : Admissible n.toNat l.toNat c.toNat) :
    ∃ s, ofCounts n l c = .ok s ∧ s.Exact n l c := by
  have hn : n ≠ 0 := fun e => absurd h.unknowns_pos (by rw [e]; decide)
  have hb := (computes_boundCount n l c).any_isInteger.mpr h.bounds_le
  have hi := (computes_integerWork n l c).any_isInteger.mpr h.integerWork_le
  have hr := (computes_realWork n l c).any_isInteger.mpr h.realWork_le
  obtain ⟨i, hi, hi'⟩ := (Option.any_eq_true ..).mp hi
  obtain ⟨r, hr, hr'⟩ := (Option.any_eq_true ..).mp hr
  refine ⟨⟨n, l, c, i, r⟩, ?_, rfl, rfl, rfl, ?_, ?_⟩
  · simp only [ofCounts, if_neg hn, hi, hr, hb, hi', hr', Bool.and_self, if_true]
  · exact ((computes_integerWork n l c i).mp hi).symm
  · exact ((computes_realWork n l c r).mp hr).symm

theorem ofCounts_of_not_admissible (hn : n ≠ 0) (h : ¬ Admissible n.toNat l.toNat c.toNat) :
    ofCounts n l c = .error (.tooLarge n l c) := by
  simp only [ofCounts, if_neg hn]
  split
  · next i r hi hr =>
    refine if_neg fun hfits => h ?_
    obtain ⟨⟨hb, hi'⟩, hr'⟩ := (Bool.and_eq_true ..).mp hfits |>.imp_left (Bool.and_eq_true ..).mp
    have hpos : 0 < n.toNat := Nat.pos_of_ne_zero fun e => hn (UInt64.toNat_inj.mp e)
    exact ⟨hpos, (computes_boundCount n l c).any_isInteger.mp hb,
      (computes_integerWork n l c).any_isInteger.mp (by rw [hi]; exact hi'),
      (computes_realWork n l c).any_isInteger.mp (by rw [hr]; exact hr')⟩
  · rfl

/-- **The three ways validation can end.** -/
theorem ofCounts_cases (n l c : Word) :
    (Admissible n.toNat l.toNat c.toNat ∧ n ≠ 0 ∧ ∃ s, ofCounts n l c = .ok s ∧ s.Exact n l c) ∨
    (n = 0 ∧ ofCounts n l c = .error .noVariables) ∨
    (n ≠ 0 ∧ ¬ Admissible n.toNat l.toNat c.toNat ∧ ofCounts n l c = .error (.tooLarge n l c)) := by
  by_cases hn : n = 0
  · exact .inr (.inl ⟨hn, hn ▸ ofCounts_zero l c⟩)
  · by_cases h : Admissible n.toNat l.toNat c.toNat
    · exact .inl ⟨h, hn, ofCounts_of_admissible h⟩
    · exact .inr (.inr ⟨hn, h, ofCounts_of_not_admissible hn h⟩)

theorem ofCounts_eq_noVariables_iff : ofCounts n l c = .error .noVariables ↔ n = 0 := by
  obtain ⟨-, hn, s, hs, -⟩ | ⟨rfl, -⟩ | ⟨hn, -, he⟩ := ofCounts_cases n l c
  · simp [hs, hn]
  · simp [ofCounts_zero]
  · simp [he, hn]

theorem ofCounts_eq_tooLarge_iff {n' l' c' : Word} :
    ofCounts n l c = .error (.tooLarge n' l' c') ↔
      (n', l', c') = (n, l, c) ∧ n ≠ 0 ∧ ¬ Admissible n.toNat l.toNat c.toNat := by
  obtain ⟨hadm, -, s, hs, -⟩ | ⟨rfl, -⟩ | ⟨hn, hadm, he⟩ := ofCounts_cases n l c
  · simp [hs, hadm]
  · simp [ofCounts_zero]
  · simp [he, hn, hadm, eq_comm]

theorem admissible_of_ofCounts {s : WordSizes} (h : ofCounts n l c = .ok s) :
    Admissible n.toNat l.toNat c.toNat := by
  obtain ⟨hadm, -⟩ | ⟨-, he⟩ | ⟨-, -, he⟩ := ofCounts_cases n l c
  · exact hadm
  all_goals exact absurd (h.symm.trans he) nofun

end WordSizes

/-! ## Dimensions -/

/-- Three counts whose derived sizes the routine can hold. -/
structure Dimensions where
  unknowns : Nat
  linear : Nat
  nonlinear : Nat
  unknowns_pos : 0 < unknowns
  bounds_le : boundCount unknowns linear nonlinear ≤ Integer.largest
  integerWork_le : NonlinearFit.integerWork unknowns linear nonlinear ≤ Integer.largest
  realWork_le : NonlinearFit.realWork unknowns linear nonlinear ≤ Integer.largest
deriving DecidableEq, Repr

namespace Dimensions

/-- Validates three counts. -/
def ofCounts (n l c : Word) : Except DimensionError Dimensions :=
  match h : WordSizes.ofCounts n l c with
  | .error e => .error e
  | .ok _ =>
    have admissible := WordSizes.admissible_of_ofCounts h
    .ok {
      unknowns := n.toNat
      linear := l.toNat
      nonlinear := c.toNat
      unknowns_pos := admissible.unknowns_pos
      bounds_le := admissible.bounds_le
      integerWork_le := admissible.integerWork_le
      realWork_le := admissible.realWork_le }

variable (d : Dimensions)

/-- How many bounds, state entries and multipliers there are. -/
def bounds : Nat := boundCount d.unknowns d.linear d.nonlinear

/-- Rows of the stored linear constraint matrix, never zero. -/
def linearRows : Nat := max d.linear 1

/-- Rows of the stored Jacobian, never zero. -/
def jacobianRows : Nat := max d.nonlinear 1

/-- Length of the integer workspace. -/
def integerWork : Nat := NonlinearFit.integerWork d.unknowns d.linear d.nonlinear

/-- Length of the real workspace. -/
def realWork : Nat := NonlinearFit.realWork d.unknowns d.linear d.nonlinear

theorem linear_le_linearRows : d.linear ≤ d.linearRows := Nat.le_max_left ..

theorem unknowns_le_bounds : d.unknowns ≤ d.bounds := by
  unfold bounds boundCount
  omega

theorem nonlinear_le_jacobianRows : d.nonlinear ≤ d.jacobianRows := Nat.le_max_left ..

end Dimensions

end NonlinearFit
