import NonlinearFit.Proofs.Handover

/-!
# Sizes in words and in integers

The sizes of a problem are computed in machine words and leave for the routine as integers. Words
and integers are bounded, and here it is shown that neither bound is ever felt.

**Validation.** Three counts are accepted exactly if the true sizes fit the routine's integers. No
intermediate result of the checked computation is too large unless a size is.

**Words.** Once counts are accepted, the other sizes are computed without checks
(`WordSizes.bounds`, `WordSizes.linearRows`, `WordSizes.jacobianRows`), and they are what a problem
has (`WordSizes.Describes`).

**Integers.** A size that is no integer of the routine would be replaced by the largest integer.
This never happens (`WordSizes.becomes_counts`), and the integers come back in callbacks as the
words they were; the product of two of them that gives the length of the Jacobian is a word too
(`Dimensions.jacobian_le`).

Main result: `Dimensions.ofCounts_exact`, for any three words.
-/

namespace NonlinearFit

/-! ## Conversions -/

namespace Integer

/-- A count as an integer, if it is one. -/
def ofCount? (k : Nat) : Option Integer := if k ≤ largest then some (Int64.ofNat k) else none

theorem ofCount?_eq_some {k : Nat} (h : k ≤ largest) : ofCount? k = some (ofCount k) := by
  unfold ofCount ofCount?
  rw [if_pos h, Nat.min_eq_left h]

/-- An integer as a word; negative ones count nothing. -/
def toWord (i : Integer) : Word := UInt64.ofNat i.toCount

theorem toNat_toWord (i : Integer) : i.toWord.toNat = i.toCount := by
  have hlt : i.toInt < 2 ^ 63 := i.toInt_lt
  refine UInt64.toNat_ofNat_of_lt' ?_
  unfold toCount UInt64.size
  omega

end Integer

/-- The word leaves for the routine as the integer `i`. -/
structure Word.Becomes (w : Word) (i : Integer) : Prop where
  checked : Integer.ofCount? w.toNat = some i
  value : i.toInt = w.toNat

theorem Word.becomes_ofCount {w : Word} {k : Nat} (hw : w.toNat = k) (h : k ≤ Integer.largest) :
    w.Becomes (.ofCount k) := by
  subst hw
  exact ⟨Integer.ofCount?_eq_some h, Integer.toInt_ofCount h⟩

/-! ## Unchecked sizes -/

namespace WordSizes

variable (s : WordSizes)

/-- The number of bounds. -/
def bounds : Word := s.unknowns + s.linear + s.nonlinear

/-- Rows of the stored linear constraint matrix. -/
def linearRows : Word := max s.linear 1

/-- Rows of the stored Jacobian. -/
def jacobianRows : Word := max s.nonlinear 1

/-- Rows of the stored Hessian factor. -/
def hessianRows : Word := s.unknowns

/-- The words are the sizes of problems with dimensions `d`. -/
structure Describes (d : Dimensions) : Prop where
  unknowns : s.unknowns.toNat = d.unknowns
  linear : s.linear.toNat = d.linear
  nonlinear : s.nonlinear.toNat = d.nonlinear
  bounds : s.bounds.toNat = d.bounds
  linearRows : s.linearRows.toNat = d.linearRows
  jacobianRows : s.jacobianRows.toNat = d.jacobianRows
  hessianRows : s.hessianRows.toNat = d.unknowns
  integerWork : s.integerWork.toNat = d.integerWork
  realWork : s.realWork.toNat = d.realWork

/-- The words leave for the routine as these integers. -/
structure Becomes (c : Counts) : Prop where
  unknowns : s.unknowns.Becomes c.unknowns
  linear : s.linear.Becomes c.linear
  nonlinear : s.nonlinear.Becomes c.nonlinear
  linearRows : s.linearRows.Becomes c.linearRows
  jacobianRows : s.jacobianRows.Becomes c.jacobianRows
  hessianRows : s.hessianRows.Becomes c.hessianRows
  integerWork : s.integerWork.Becomes c.integerWork
  realWork : s.realWork.Becomes c.realWork

end WordSizes

theorem Word.toNat_max (v w : Word) : (max v w).toNat = max v.toNat w.toNat := by
  show (if v ≤ w then w else v).toNat = _
  split
  · next h => exact (Nat.max_eq_right (UInt64.le_iff_toNat_le.mp h)).symm
  · next h =>
    have hlt : w.toNat < v.toNat :=
      Nat.lt_of_not_le fun hle => h (UInt64.le_iff_toNat_le.mpr hle)
    exact (Nat.max_eq_left (Nat.le_of_lt hlt)).symm

/-! ## Accepted counts -/

namespace Dimensions

/-- **The Jacobian has as many entries as an integer can count**, padding included. -/
theorem jacobian_le (d : Dimensions) : d.jacobianRows * d.unknowns ≤ Integer.largest := by
  have hreal := d.realWork_le
  have hbounds := d.bounds_le
  unfold NonlinearFit.realWork at hreal
  unfold boundCount at hbounds
  unfold jacobianRows
  by_cases hc : d.nonlinear = 0
  · rw [hc, Nat.max_eq_right (Nat.zero_le 1), Nat.one_mul]
    omega
  · rw [if_neg hc, Nat.mul_assoc 2 d.unknowns d.nonlinear] at hreal
    rw [Nat.max_eq_left (Nat.pos_of_ne_zero hc), Nat.mul_comm]
    omega

variable {n l c : Word} {d : Dimensions}

theorem ofCounts_eq_error_iff {e : DimensionError} :
    ofCounts n l c = .error e ↔ WordSizes.ofCounts n l c = .error e := by
  unfold ofCounts
  split
  · next h =>
    rw [h, Except.error.injEq, Except.error.injEq]
  · next h => exact ⟨nofun, fun he => absurd (h.symm.trans he) nofun⟩

theorem exists_ofCounts_iff :
    (∃ d, ofCounts n l c = .ok d) ↔ Admissible n.toNat l.toNat c.toNat := by
  constructor
  · rintro ⟨d, h⟩
    unfold ofCounts at h
    split at h
    · cases h
    · next hs => exact WordSizes.admissible_of_ofCounts hs
  · intro h
    obtain ⟨s, hs, -⟩ := WordSizes.ofCounts_of_admissible h
    cases hd : ofCounts n l c with
    | ok d => exact ⟨d, rfl⟩
    | error e => exact absurd (hs.symm.trans (ofCounts_eq_error_iff.mp hd)) nofun

theorem counts_of_ofCounts (h : ofCounts n l c = .ok d) :
    d.unknowns = n.toNat ∧ d.linear = l.toNat ∧ d.nonlinear = c.toNat := by
  unfold ofCounts at h
  split at h
  · cases h
  · cases h
    exact ⟨rfl, rfl, rfl⟩

end Dimensions

namespace WordSizes

variable {n l c : Word} {s : WordSizes} {d : Dimensions}

theorem Exact.describes (exact : s.Exact n l c) (h : Dimensions.ofCounts n l c = .ok d) :
    s.Describes d := by
  obtain ⟨hn, hl, hc⟩ := Dimensions.counts_of_ofCounts h
  have hle := d.bounds_le
  unfold boundCount Integer.largest at hle
  have hunknowns : s.unknowns.toNat = d.unknowns := by rw [exact.unknowns, hn]
  have hlinear : s.linear.toNat = d.linear := by rw [exact.linear, hl]
  have hnonlinear : s.nonlinear.toNat = d.nonlinear := by rw [exact.nonlinear, hc]
  constructor
  case bounds =>
    unfold bounds Dimensions.bounds boundCount
    rw [UInt64.toNat_add, UInt64.toNat_add, hunknowns, hlinear, hnonlinear]
    omega
  case linearRows =>
    rw [linearRows, Word.toNat_max, hlinear]
    rfl
  case jacobianRows =>
    rw [jacobianRows, Word.toNat_max, hnonlinear]
    rfl
  case integerWork => rw [exact.integerWork, Dimensions.integerWork, hn, hl, hc]
  case realWork => rw [exact.realWork, Dimensions.realWork, hn, hl, hc]
  all_goals assumption

/-- **No size is replaced** on its way to the routine. -/
theorem Describes.becomes_counts (h : s.Describes d) : s.Becomes d.counts := by
  have hpos := d.unknowns_pos
  have hle := d.bounds_le
  have hl : d.linearRows = max d.linear 1 := rfl
  have hj : d.jacobianRows = max d.nonlinear 1 := rfl
  unfold boundCount at hle
  constructor
  case integerWork => exact Word.becomes_ofCount h.integerWork d.integerWork_le
  case realWork => exact Word.becomes_ofCount h.realWork d.realWork_le
  case unknowns => exact Word.becomes_ofCount h.unknowns (by omega)
  case linear => exact Word.becomes_ofCount h.linear (by omega)
  case nonlinear => exact Word.becomes_ofCount h.nonlinear (by omega)
  case linearRows => exact Word.becomes_ofCount h.linearRows (by omega)
  case jacobianRows => exact Word.becomes_ofCount h.jacobianRows (by omega)
  case hessianRows => exact Word.becomes_ofCount h.hessianRows (by omega)

/-- The number of bounds is computed without overflow. -/
theorem Exact.boundCount? (exact : s.Exact n l c) (h : s.Describes d) :
    NonlinearFit.boundCount? n l c = some s.bounds := by
  refine (computes_boundCount n l c s.bounds).mpr ?_
  rw [h.bounds, ← exact.unknowns, ← exact.linear, ← exact.nonlinear, h.unknowns, h.linear,
    h.nonlinear]
  rfl

end WordSizes

/-! ## Counts that come back -/

namespace Dimensions

/-- **The length of the Jacobian is a product of words**, computed from the integers that the
routine was told. -/
theorem mul?_counts (d : Dimensions) :
    ∃ p, d.counts.jacobianRows.toWord.mul? d.counts.unknowns.toWord = some p ∧
      p.toNat = d.jacobianRows * d.unknowns := by
  obtain ⟨hunknowns, -, -⟩ := d.bounds_of_counts
  obtain ⟨-, hrows, -⟩ := d.rows_of_counts
  obtain ⟨p, hp⟩ := Word.exists_toNat_eq (Nat.lt_of_le_of_lt d.jacobian_le (by decide))
  refine ⟨p, Word.mul?_eq_some_iff.mpr ?_, hp.symm⟩
  rw [Integer.toNat_toWord, Integer.toNat_toWord, hrows, hunknowns, hp]

/-- **Counts are accepted exactly if their sizes fit**, and then every size is exact. For any three
words:

* they are accepted if and only if there is a variable and the true number of bounds and the true
  lengths of both workspaces are at most `2 ^ 63 - 1`;
* they are refused for want of variables exactly if there is none, and else as too large;
* if they are accepted, the words computed from them are the sizes of the problem, and adding up the
  bounds does not overflow;
* these words, and the lengths of the workspaces themselves, leave for the routine as integers of
  the same value, none of them replaced by the largest integer;
* the length of the Jacobian that a constraint callback computes from these integers does not
  overflow. -/
theorem ofCounts_exact (n l c : Word) :
    let admissible := 1 ≤ n.toNat ∧ boundCount n.toNat l.toNat c.toNat ≤ Nat.pow 2 63 - 1 ∧
      NonlinearFit.integerWork n.toNat l.toNat c.toNat ≤ Nat.pow 2 63 - 1 ∧
      NonlinearFit.realWork n.toNat l.toNat c.toNat ≤ Nat.pow 2 63 - 1
    ((∃ d, ofCounts n l c = .ok d) ↔ admissible) ∧
    (ofCounts n l c = .error .noVariables ↔ n = 0) ∧
    (∀ n' l' c', ofCounts n l c = .error (.tooLarge n' l' c') ↔
      (n', l', c') = (n, l, c) ∧ n ≠ 0 ∧ ¬ admissible) ∧
    ∀ d, ofCounts n l c = .ok d →
      ∃ s, WordSizes.ofCounts n l c = .ok s ∧ s.Exact n l c ∧ s.Describes d ∧
        boundCount? n l c = some s.bounds ∧ s.Becomes d.counts ∧
        (∀ a : Arguments d,
          Integer.ofCount? a.integerWork.toArray.size = some d.counts.integerWork ∧
          Integer.ofCount? a.realWork.toArray.size = some d.counts.realWork) ∧
        ∃ p, d.counts.jacobianRows.toWord.mul? d.counts.unknowns.toWord = some p ∧
          p.toNat = d.jacobianRows * d.unknowns := by
  intro admissible
  have hadmissible : admissible ↔ Admissible n.toNat l.toNat c.toNat :=
    ⟨fun ⟨h₁, h₂, h₃, h₄⟩ => ⟨h₁, h₂, h₃, h₄⟩, fun ⟨h₁, h₂, h₃, h₄⟩ => ⟨h₁, h₂, h₃, h₄⟩⟩
  refine ⟨exists_ofCounts_iff.trans hadmissible.symm, ?_, fun n' l' c' => ?_, fun d hd => ?_⟩
  · rw [ofCounts_eq_error_iff, WordSizes.ofCounts_eq_noVariables_iff]
  · rw [ofCounts_eq_error_iff, WordSizes.ofCounts_eq_tooLarge_iff, hadmissible]
  · obtain ⟨s, hs, exact⟩ := WordSizes.ofCounts_of_admissible (exists_ofCounts_iff.mp ⟨d, hd⟩)
    have describes := exact.describes hd
    have becomes := describes.becomes_counts
    refine ⟨s, hs, exact, describes, exact.boundCount? describes, becomes, fun a => ?_,
      d.mul?_counts⟩
    rw [a.integerWork.size_toArray, a.realWork.size_toArray, ← describes.integerWork,
      ← describes.realWork]
    exact ⟨becomes.integerWork.checked, becomes.realWork.checked⟩

/-- The largest number of unconstrained variables, and one more. -/
theorem ofCounts_exact_at_limit :
    (∃ (d : Dimensions) (s : WordSizes), ofCounts 461168601842738790 0 0 = .ok d ∧ s.Describes d ∧
      s.realWork = 9223372036854775800 ∧ s.Becomes d.counts) ∧
    ofCounts 461168601842738791 0 0 = .error (.tooLarge 461168601842738791 0 0) := by
  obtain ⟨-, -, -, accepted⟩ := ofCounts_exact 461168601842738790 0 0
  obtain ⟨-, -, refused, -⟩ := ofCounts_exact 461168601842738791 0 0
  constructor
  · obtain ⟨s, hs, -, describes, -, becomes, -⟩ := accepted
      ⟨461168601842738790, 0, 0, by decide, by decide, by decide, by decide⟩ rfl
    exact ⟨_, s, rfl, describes, by cases hs; rfl, becomes⟩
  · exact (refused _ _ _).mpr ⟨rfl, by decide, by decide⟩

end Dimensions

end NonlinearFit
