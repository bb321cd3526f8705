import NonlinearFit.Proofs.Rounding
import NonlinearFit.Json.Token

/-!
# Number literals are read to the nearest double

A literal denotes a rational number and a sign (`Numeral.value`). Reading gives the double with that
sign at the place to which the number is rounded (`toFloat?_eq_some_iff`), and nothing exactly if
the number reaches `overflow`, half-way behind the largest double (`toFloat?_eq_none_iff`).

The shortcuts for numbers far outside the range do not change this: the number of bits bounds the
number of decimal digits from both sides.
-/

namespace NonlinearFit

namespace Binary64

/-- The number half-way between the largest double and the next one there would be. Numbers from
there on are rounded to infinity. -/
def overflow : ℚ := (2 ^ 54 - 1) * 2 ^ (970 : Int)

theorem halfway_largest : halfway (infinityPlace - 1) = overflow := by
  have hplace : infinityPlace - 1 = 2045 * 2 ^ 52 + (2 ^ 53 - 1) := by decide
  have hunit : (2 : ℚ) ^ ((2045 : Nat) - 1074 : Int) = 2 ^ (970 : Int) * 2 := by
    rw [← zpow_add_one₀ (by norm_num)]
    rfl
  rw [hplace, halfway_eq (by decide) (.inl (by decide)), hunit]
  unfold overflow
  generalize (2 : ℚ) ^ (970 : Int) = unit
  norm_num
  ring

/-! ### Numbers far outside the range -/

theorem two_zpow_lt_ten_zpow : (2 : ℚ) ^ (1075 : Int) < 10 ^ (400 : Int) := by
  rw [show (1075 : Int) = 43 * 25 from rfl, show (400 : Int) = 16 * 25 from rfl, zpow_mul, zpow_mul]
  exact zpow_lt_zpow_left₀ (by norm_num) (by norm_num) (by norm_num)

theorem overflow_lt : overflow < 10 ^ (400 : Int) :=
  calc overflow < 2 ^ (54 : Int) * 2 ^ (970 : Int) :=
        mul_lt_mul_of_pos_right (by norm_num) (two_zpow_pos _)
    _ = 2 ^ (54 + 970 : Int) := (zpow_add₀ (by norm_num) ..).symm
    _ ≤ 2 ^ (1075 : Int) := zpow_le_zpow_right₀ (by norm_num) (by norm_num)
    _ < 10 ^ (400 : Int) := two_zpow_lt_ten_zpow

/-- Very small numbers are rounded to zero. -/
theorem Rounds.of_lt_tiny {q : ℚ} (hnonneg : 0 ≤ q) (hlt : q < 10 ^ (-400 : Int)) :
    Rounds q 0 := by
  have hhalf : halfway 0 = 2 ^ (-1075 : Int) := by
    have hunit : (2 : ℚ) ^ (-1074 : Int) = 2 ^ (-1075 : Int) * 2 := by
      rw [← zpow_add_one₀ (by norm_num)]
      rfl
    have hsucc := grid_succ (e := 0) (m := 0) (by decide) (.inr rfl)
    have hstep : grid 1 = grid 0 + 2 ^ (-1074 : Int) := hsucc
    rw [halfway, hstep, grid_zero, hunit]
    ring
  have htiny : (10 : ℚ) ^ (-400 : Int) < halfway 0 := by
    rw [hhalf, zpow_neg, zpow_neg]
    exact inv_strictAnti₀ (two_zpow_pos _) two_zpow_lt_ten_zpow
  exact .of_le_halfway (grid_zero.trans_le hnonneg) (hlt.trans htiny).le fun _ => by decide

/-! ### Infinity -/

theorem Rounds.infinityPlace_le_iff {q : ℚ} {b : Nat} (h : Rounds q b) :
    infinityPlace ≤ b ↔ overflow ≤ q := by
  rw [← halfway_largest]
  constructor
  · intro hle
    have hpos : 0 < infinityPlace := by decide
    obtain ⟨c, rfl⟩ : ∃ c, b = c + 1 := ⟨b - 1, by omega⟩
    exact (strictMono_halfway.monotone (by omega)).trans (h.above c rfl).1
  · intro hle
    by_contra hlt
    have hb : halfway b ≤ halfway (infinityPlace - 1) := strictMono_halfway.monotone (by omega)
    have hq : q = halfway b := le_antisymm h.below.1 (hb.trans hle)
    have hlargest : b = infinityPlace - 1 :=
      strictMono_halfway.injective (le_antisymm hb (hq ▸ hle))
    have heven := h.below.2 hq
    rw [hlargest] at heven
    exact absurd heven (by decide)

theorem isInf_ofPlace_iff (b : Nat) : (ofPlace b).isInf = true ↔ infinityPlace ≤ b := by
  have hmagnitude : magnitudeBits (ofPlace b) = min b infinityPlace := magnitudeBits_signed false b
  rw [isInf_iff, hmagnitude]
  omega

end Binary64

open Binary64

namespace Json.Numeral

/-- The absolute value of the number that a literal denotes. -/
def value (n : Numeral) : ℚ := n.significand * 10 ^ n.scale

/-- The literal stands for the double: the nearest one, with the literal's sign. -/
structure Denotes (n : Numeral) (x : Float) : Prop where
  finite : x.isFinite = true
  sign : isNegative x = n.negative
  nearest : Rounds n.value (magnitudeBits x)

/-! ## Orders of magnitude -/

theorem log2_upper (k : Nat) : (k : ℚ) < 10 ^ ((k.log2 / 3 : Nat) + 1 : Int) := by
  have h : k < 10 ^ (k.log2 / 3 + 1) :=
    calc k < 2 ^ (k.log2 + 1) := Nat.lt_log2_self
      _ ≤ 2 ^ (3 * (k.log2 / 3 + 1)) := Nat.pow_le_pow_right (by decide) (by omega)
      _ = 8 ^ (k.log2 / 3 + 1) := pow_mul ..
      _ ≤ 10 ^ (k.log2 / 3 + 1) := Nat.pow_le_pow_left (by decide) _
  exact_mod_cast h

theorem log2_lower {k : Nat} (hk : k ≠ 0) : (10 : ℚ) ^ (k.log2 * 3 / 10) ≤ k := by
  have h : (10 ^ (k.log2 * 3 / 10)) ^ 10 ≤ (2 ^ k.log2) ^ 10 :=
    calc (10 ^ (k.log2 * 3 / 10)) ^ 10 = 10 ^ (k.log2 * 3 / 10 * 10) := (pow_mul ..).symm
      _ ≤ 10 ^ (3 * k.log2) := Nat.pow_le_pow_right (by decide) (by omega)
      _ = 1000 ^ k.log2 := pow_mul ..
      _ ≤ 1024 ^ k.log2 := Nat.pow_le_pow_left (by decide) _
      _ = (2 ^ 10) ^ k.log2 := rfl
      _ = (2 ^ k.log2) ^ 10 := pow_right_comm ..
  have hlow : 10 ^ (k.log2 * 3 / 10) ≤ 2 ^ k.log2 := (Nat.pow_le_pow_iff_left (by decide)).mp h
  exact_mod_cast hlow.trans (Nat.log2_self_le hk)

theorem value_lt {n : Numeral} (h : n.scale + (n.significand.log2 / 3 : Nat) < -400) :
    n.value < 10 ^ (-400 : Int) :=
  calc n.value < 10 ^ ((n.significand.log2 / 3 : Nat) + 1 : Int) * 10 ^ n.scale :=
        mul_lt_mul_of_pos_right (log2_upper _) (zpow_pos (by norm_num) _)
    _ = 10 ^ ((n.significand.log2 / 3 : Nat) + 1 + n.scale : Int) :=
        (zpow_add₀ (by norm_num) ..).symm
    _ ≤ 10 ^ (-400 : Int) := zpow_le_zpow_right₀ (by norm_num) (by omega)

theorem lt_value {n : Numeral} (hk : n.significand ≠ 0)
    (h : 400 < n.scale + (n.significand.log2 * 3 / 10 : Nat)) : 10 ^ (400 : Int) < n.value :=
  calc (10 : ℚ) ^ (400 : Int) < 10 ^ (((n.significand.log2 * 3 / 10 : Nat) : Int) + n.scale) :=
        zpow_lt_zpow_right₀ (by norm_num) (by omega)
    _ = 10 ^ (n.significand.log2 * 3 / 10) * 10 ^ n.scale := by
        rw [zpow_add₀ (by norm_num), zpow_natCast]
    _ ≤ n.value := mul_le_mul_of_nonneg_right (log2_lower hk) (zpow_pos (by norm_num) _).le

/-! ## Reading -/

/-- The literal's number as a quotient of integers. -/
theorem value_eq_div (n : Numeral) : n.value =
    (n.significand * 10 ^ n.scale.toNat : Nat) / (10 ^ (-n.scale).toNat : Nat) := by
  have hscale : (10 : ℚ) ^ n.scale = 10 ^ n.scale.toNat / 10 ^ (-n.scale).toNat := by
    rw [← zpow_natCast, ← zpow_natCast, ← zpow_sub₀ (by norm_num)]
    congr 1
    omega
  unfold value
  rw [hscale]
  push_cast
  ring

theorem magnitude_eq (n : Numeral) : ∃ b, Rounds n.value b ∧ n.magnitude = ofPlace b := by
  unfold magnitude
  dsimp only
  split
  · next hsmall =>
    refine ⟨0, ?_, by decide +kernel⟩
    rcases hsmall with hzero | htiny
    · have hvalue : n.value = grid 0 := by
        rw [value, hzero, grid_zero, Nat.cast_zero, zero_mul]
      exact hvalue ▸ rounds_grid 0
    · exact .of_lt_tiny (mul_nonneg (Nat.cast_nonneg _) (zpow_pos (by norm_num) _).le)
        (value_lt htiny)
  · next hsmall =>
    have hk : n.significand ≠ 0 := fun h => hsmall (.inl h)
    have hnum : n.significand * 10 ^ n.scale.toNat ≠ 0 := Nat.mul_ne_zero hk (by positivity)
    have hden : 10 ^ (-n.scale).toNat ≠ 0 := by positivity
    obtain ⟨b, hb, hratio⟩ := ofRatio_eq hnum hden
    rw [← value_eq_div] at hb
    refine ⟨b, hb, ?_⟩
    split
    · next hlarge =>
      have hplace : infinityPlace ≤ b :=
        hb.infinityPlace_le_iff.mpr (overflow_lt.trans (lt_value hk hlarge)).le
      unfold ofPlace
      rw [Nat.min_eq_right hplace]
      decide +kernel
    · exact hratio

theorem toFloat?_eq (n : Numeral) : ∃ b, Rounds n.value b ∧
    n.toFloat? = if infinityPlace ≤ b then none else some (signed n.negative b) := by
  obtain ⟨b, hb, hmagnitude⟩ := n.magnitude_eq
  refine ⟨b, hb, ?_⟩
  unfold toFloat?
  dsimp only
  rw [hmagnitude]
  simp only [isInf_ofPlace_iff]
  rfl

/-- **A literal is read to the nearest double.** -/
theorem toFloat?_eq_some_iff {n : Numeral} {x : Float} : n.toFloat? = some x ↔ n.Denotes x := by
  obtain ⟨b, hb, heq⟩ := n.toFloat?_eq
  rw [heq]
  split
  · next hle =>
    refine ⟨nofun, fun h => ?_⟩
    have := hb.unique h.nearest
    have := (isFinite_iff x).mp h.finite
    omega
  · next hlt =>
    have hmin : min b infinityPlace = b := by omega
    rw [Option.some_inj]
    constructor
    · rintro rfl
      refine ⟨?_, isNegative_signed _ _, ?_⟩
      · rw [isFinite_iff, magnitudeBits_signed]
        omega
      · rw [magnitudeBits_signed, hmin]
        exact hb
    · rintro ⟨hfinite, hsign, hnearest⟩
      rw [← signed_isNegative ((isFinite_iff x).mp hfinite).le, hsign, hb.unique hnearest]

/-- **No double is read exactly if the number is too large.** -/
theorem toFloat?_eq_none_iff {n : Numeral} : n.toFloat? = none ↔ overflow ≤ n.value := by
  obtain ⟨b, hb, heq⟩ := n.toFloat?_eq
  rw [heq, ← hb.infinityPlace_le_iff]
  split <;> simp_all

end Json.Numeral

end NonlinearFit
