import NonlinearFit.Proofs.Rounding
import NonlinearFit.Decimal.Digits

/-!
# The shortest digits read back

The interval of a double, in quarters of its last place, holds exactly the numbers that are rounded
to it (`Interval.holds_ofParts_iff`). The search for digits ends in this interval, on a grid or with
all digits of the double, and dropping zeros keeps the number. So the shortest decimal of a double
is rounded to that double.
-/

namespace NonlinearFit

open Binary64

namespace Binary64

/-- The parts of a double and its place. -/
theorem exists_binade (x : Float) : ∃ e : Nat, (parts x).exponent = e - 1074 ∧
    magnitudeBits x = e * 2 ^ 52 + (parts x).mantissa ∧ (parts x).mantissa < 2 ^ 53 ∧
    (2 ^ 52 ≤ (parts x).mantissa ∨ e = 0) := by
  unfold parts
  generalize magnitudeBits x = b
  dsimp only [Nat.pow_eq]
  split
  · exact ⟨0, by simp, by dsimp only; omega, by dsimp only; omega, .inr rfl⟩
  · exact ⟨b / 2 ^ 52 - 1, by dsimp only; omega, by dsimp only; omega, by dsimp only; omega,
      .inl (by dsimp only; omega)⟩

end Binary64

namespace Decimal

/-- The number that a decimal stands for. -/
def value (d : Decimal) : ℚ := d.digits * 10 ^ d.exponent

/-! ## Intervals -/

/-- The number `q` lies in the interval. -/
def Interval.Holds (v : Interval) (q : ℚ) : Prop :=
  if v.closed then v.low * 2 ^ v.exponent ≤ q ∧ q ≤ v.high * 2 ^ v.exponent
  else v.low * 2 ^ v.exponent < q ∧ q < v.high * 2 ^ v.exponent

theorem halfway_quarters {e m : Nat} (hlt : m < 2 ^ 53) (hge : 2 ^ 52 ≤ m ∨ e = 0) :
    halfway (e * 2 ^ 52 + m) = (4 * m + 2) * 2 ^ (e - 1074 - 2 : Int) := by
  have hunit : (2 : ℚ) ^ (e - 1074 : Int) = 2 ^ (e - 1074 - 2 : Int) * 2 ^ 2 := by
    rw [← zpow_natCast, ← zpow_add₀ (by norm_num)]
    congr 1
    push_cast
    ring
  rw [halfway_eq hlt hge, hunit]
  ring

/-- Below a power of two lies the last double of the binade before, half as far away. -/
theorem halfway_below_power {e : Nat} (he : 0 < e) :
    halfway (e * 2 ^ 52 + (2 ^ 52 - 1)) = (4 * 2 ^ 52 - 1) * 2 ^ (e - 1074 - 2 : Int) := by
  obtain ⟨d, rfl⟩ : ∃ d, e = d + 1 := ⟨e - 1, by omega⟩
  have hlast : (d + 1) * 2 ^ 52 + (2 ^ 52 - 1) = d * 2 ^ 52 + (2 ^ 53 - 1) := by omega
  have hunit : (2 : ℚ) ^ ((d + 1 : Nat) - 1074 - 2 : Int) = 2 ^ (d - 1074 - 2 : Int) * 2 := by
    rw [← zpow_add_one₀ two_ne_zero]
    congr 1
    push_cast
    ring
  rw [hlast, halfway_quarters (by decide) (.inl (by decide)), hunit]
  norm_num
  ring

/-- The ends of a double's interval are half-way to its neighbours. -/
theorem Interval.ends_ofParts {x : Float} (h : (parts x).mantissa ≠ 0) :
    ∃ c, magnitudeBits x = c + 1 ∧
      (Interval.ofParts (parts x)).low * 2 ^ (Interval.ofParts (parts x)).exponent = halfway c ∧
      (Interval.ofParts (parts x)).high * 2 ^ (Interval.ofParts (parts x)).exponent =
        halfway (c + 1) ∧
      ((Interval.ofParts (parts x)).closed = true ↔ Even (c + 1)) := by
  obtain ⟨e, hexponent, hplace, hlt, hge⟩ := exists_binade x
  generalize parts x = p at *
  obtain ⟨m, exponent⟩ := p
  dsimp only at hexponent hplace hlt hge h
  subst hexponent
  obtain ⟨k, rfl⟩ : ∃ k, m = k + 1 := ⟨m - 1, by omega⟩
  rw [← Nat.add_assoc] at hplace
  refine ⟨e * 2 ^ 52 + k, hplace, ?_, ?_, ?_⟩
  · unfold ofParts minExponent
    dsimp only [Nat.pow_eq]
    split
    · next hfirst =>
      obtain ⟨hk, he⟩ := hfirst
      obtain rfl : k = 2 ^ 52 - 1 := by omega
      rw [halfway_below_power (by omega)]
      norm_num
    · next hfirst =>
      have hquarter : ((4 * (k + 1) - 2 : Nat) : ℚ) = 4 * k + 2 := by
        rw [show 4 * (k + 1) - 2 = 4 * k + 2 by omega]
        push_cast
        rfl
      rw [halfway_quarters (by omega) (by omega), hquarter]
  · rw [Nat.add_assoc, halfway_quarters hlt hge]
    unfold ofParts
    push_cast
    rfl
  · unfold ofParts
    rw [decide_eq_true_iff, Nat.even_iff]
    dsimp only
    omega

theorem Interval.holds_ofParts_iff {x : Float} (h : (parts x).mantissa ≠ 0) (q : ℚ) :
    (Interval.ofParts (parts x)).Holds q ↔ Rounds q (magnitudeBits x) := by
  obtain ⟨c, hplace, hlow, hhigh, hclosed⟩ := ends_ofParts h
  rw [hplace, rounds_succ_iff, Holds, hlow, hhigh]
  split
  · next heven =>
    have heven := hclosed.mp heven
    exact ⟨fun hq => ⟨⟨hq.1, fun _ => heven⟩, hq.2, fun _ => heven⟩, fun hq => ⟨hq.1.1, hq.2.1⟩⟩
  · next hodd =>
    have hodd : ¬Even (c + 1) := fun heven => hodd (hclosed.mpr heven)
    simp only [lt_iff_le_and_ne, hodd, imp_false, ne_eq]

/-- Both numbers with which decimals and quarters are compared carry one common factor. -/
theorem Interval.scales_eq (v : Interval) (e : Int) : ∃ c : ℚ, 0 < c ∧
    ((v.scales e).1 : ℚ) = 10 ^ e * c ∧ ((v.scales e).2 : ℚ) = 2 ^ v.exponent * c := by
  have hsplit (base : ℚ) (hbase : base ≠ 0) (i : Int) :
      (base ^ i.toNat : ℚ) = base ^ i * base ^ (-i).toNat := by
    rw [← zpow_natCast, ← zpow_natCast base (-i).toNat, ← zpow_add₀ hbase]
    congr 1
    omega
  refine ⟨2 ^ (-v.exponent).toNat * 10 ^ (-e).toNat, by positivity, ?_, ?_⟩
  · simp only [scales, Nat.pow_eq]
    push_cast
    rw [hsplit 10 (by norm_num) e]
    ring
  · simp only [scales, Nat.pow_eq]
    push_cast
    rw [hsplit 2 (by norm_num) v.exponent]
    ring

theorem Interval.contains_iff (v : Interval) (n : Nat) (e : Int) :
    v.contains n e = true ↔ v.Holds (n * 10 ^ e) := by
  obtain ⟨c, hc, hten, htwo⟩ := v.scales_eq e
  have hle (a b : Nat) : a * (v.scales e).2 ≤ b * (v.scales e).1 ↔
      (a : ℚ) * 2 ^ v.exponent ≤ b * 10 ^ e := by
    rw [← Nat.cast_le (α := ℚ), Nat.cast_mul, Nat.cast_mul, hten, htwo, ← mul_assoc, ← mul_assoc,
      mul_le_mul_iff_of_pos_right hc]
  have hge (a b : Nat) : b * (v.scales e).1 ≤ a * (v.scales e).2 ↔
      (b : ℚ) * 10 ^ e ≤ a * 2 ^ v.exponent := by
    rw [← Nat.cast_le (α := ℚ), Nat.cast_mul, Nat.cast_mul, hten, htwo, ← mul_assoc, ← mul_assoc,
      mul_le_mul_iff_of_pos_right hc]
  unfold contains Holds
  dsimp only
  split
  · rw [Bool.and_eq_true, decide_eq_true_iff, decide_eq_true_iff, hle, hge]
  · rw [Bool.and_eq_true, decide_eq_true_iff, decide_eq_true_iff, ← Nat.not_le, ← Nat.not_le, hle,
      hge, not_le, not_le]

/-! ## The search -/

namespace Interval

variable {v : Interval}

theorem holds_of_onGrid {e : Int} {d : Decimal} (h : v.onGrid e = some d) : v.Holds d.value := by
  unfold onGrid at h
  dsimp only at h
  unfold value
  split at h
  · cases h
  · next hbelow _ =>
    cases h
    exact (v.contains_iff _ e).mp hbelow
  · next habove =>
    cases h
    exact (v.contains_iff _ e).mp habove
  · next hbelow habove =>
    cases h
    dsimp only
    split
    · exact (v.contains_iff _ e).mp hbelow
    · exact (v.contains_iff _ e).mp habove

theorem value_exact (v : Interval) : v.exact.value = v.mid * 2 ^ v.exponent := by
  unfold exact value
  dsimp only [Nat.pow_eq]
  rcases Int.le_total 0 v.exponent with h | h
  · obtain ⟨k, hk⟩ : ∃ k : Nat, v.exponent = k := ⟨v.exponent.toNat, by omega⟩
    have hmin : min v.exponent 0 = 0 := by omega
    have hdown : (-v.exponent).toNat = 0 := by omega
    rw [hmin, hdown, hk, Int.toNat_natCast]
    push_cast
    rw [zpow_natCast]
    ring
  · obtain ⟨k, hk⟩ : ∃ k : Nat, v.exponent = -k := ⟨(-v.exponent).toNat, by omega⟩
    have hmin : min v.exponent 0 = -k := by omega
    have hup : v.exponent.toNat = 0 := by omega
    have hdown : (-v.exponent).toNat = k := by omega
    have hten : (10 : ℚ) ^ k = 2 ^ k * 5 ^ k := by rw [← mul_pow]; norm_num
    rw [hmin, hup, hdown, hk, zpow_neg, zpow_neg, zpow_natCast, zpow_natCast, hten]
    push_cast
    field_simp

theorem holds_exact (hlow : v.low < v.mid) (hhigh : v.mid < v.high) : v.Holds v.exact.value := by
  have hbelow : (v.low : ℚ) * 2 ^ v.exponent < v.mid * 2 ^ v.exponent :=
    mul_lt_mul_of_pos_right (by exact_mod_cast hlow) (two_zpow_pos _)
  have habove : (v.mid : ℚ) * 2 ^ v.exponent < v.high * 2 ^ v.exponent :=
    mul_lt_mul_of_pos_right (by exact_mod_cast hhigh) (two_zpow_pos _)
  rw [value_exact]
  unfold Holds
  split
  · exact ⟨hbelow.le, habove.le⟩
  · exact ⟨hbelow, habove⟩

theorem holds_search (hexact : v.Holds v.exact.value) (fuel : Nat) (e : Int) :
    v.Holds (v.search fuel e).value := by
  induction fuel generalizing e with
  | zero => exact hexact
  | succ fuel ih =>
    unfold search
    cases h : v.onGrid e with
    | none => exact ih (e - 1)
    | some d => exact holds_of_onGrid h

end Interval

theorem value_trimZeros (fuel : Nat) (d : Decimal) : (trimZeros fuel d).value = d.value := by
  induction fuel generalizing d with
  | zero => rfl
  | succ fuel ih =>
    unfold trimZeros
    split
    · next h =>
      rw [ih]
      unfold value
      dsimp only
      have hdigits : (d.digits : ℚ) = (d.digits / 10 : Nat) * 10 := by
        exact_mod_cast (Nat.div_mul_cancel (Nat.dvd_of_mod_eq_zero h)).symm
      rw [hdigits, zpow_add_one₀ (by norm_num)]
      ring
    · rfl

/-- **The shortest decimal of a double is rounded to that double.** -/
theorem rounds_shortest (x : Float) : Rounds (shortest x).value (magnitudeBits x) := by
  unfold shortest
  dsimp only
  split
  · next hzero =>
    obtain ⟨e, -, hplace, -, hge⟩ := exists_binade x
    have hplace : magnitudeBits x = 0 := by omega
    rw [hplace]
    convert rounds_grid 0 using 1
    rw [grid_zero]
    simp [value]
  · next hpos =>
    have hholds := Interval.holds_ofParts_iff hpos
    rw [value_trimZeros, ← hholds]
    have hlow : (Interval.ofParts (parts x)).low < (Interval.ofParts (parts x)).mid := by
      unfold Interval.ofParts
      dsimp only
      split <;> omega
    have hhigh : (Interval.ofParts (parts x)).mid < (Interval.ofParts (parts x)).high :=
      Nat.lt_add_of_pos_right (by decide)
    exact Interval.holds_search (Interval.holds_exact hlow hhigh) _ _

end Decimal

end NonlinearFit
