import NonlinearFit.Proofs.DoubleBits

/-!
# Rounding to the nearest double

**The grid.** The non-negative doubles in their order are a grid of numbers (`grid`), which goes on
behind the largest double as if exponents had no bound. `halfway b` lies between the places `b` and
`b + 1`.

**Rounding.** `Rounds q b` says that the number `q` is rounded to the place `b`: it lies between the
two numbers half-way to the neighbours, and such a number itself goes to the even place. No number
is rounded to two places (`Rounds.unique`).

**Theorem (`ofRatio_eq`).** A quotient of integers becomes the double at the place to which the
exact quotient is rounded, and infinity if that place is no double's.
-/

namespace NonlinearFit.Binary64

/-! ## The grid -/

/-- The number at a place: subnormal doubles first, then one binade after the other. -/
def grid (b : Nat) : ℚ :=
  if b < 2 ^ 52 then b * 2 ^ (-1074 : Int)
  else (2 ^ 52 + (b % 2 ^ 52 : Nat)) * 2 ^ ((b / 2 ^ 52 : Nat) - 1075 : Int)

theorem grid_eq {e m : Nat} (hle : m ≤ 2 ^ 53) (hge : 2 ^ 52 ≤ m ∨ e = 0) :
    grid (e * 2 ^ 52 + m) = m * 2 ^ (e - 1074 : Int) := by
  unfold grid
  rcases Nat.lt_or_ge m (2 ^ 52) with hm | hm
  · obtain rfl : e = 0 := by omega
    rw [if_pos (by omega)]
    simp
  · rw [if_neg (by omega)]
    rcases Nat.lt_or_ge m (2 ^ 53) with hm' | hm'
    · have hdiv : (e * 2 ^ 52 + m) / 2 ^ 52 = e + 1 := by omega
      have hmod : (e * 2 ^ 52 + m) % 2 ^ 52 = m - 2 ^ 52 := by omega
      rw [hdiv, hmod, Nat.cast_sub hm]
      push_cast
      rw [show (e + 1 - 1075 : Int) = e - 1074 by ring]
      ring
    · obtain rfl : m = 2 ^ 53 := by omega
      have hdiv : (e * 2 ^ 52 + 2 ^ 53) / 2 ^ 52 = e + 2 := by omega
      have hmod : (e * 2 ^ 52 + 2 ^ 53) % 2 ^ 52 = 0 := by omega
      rw [hdiv, hmod]
      push_cast
      rw [show (e + 2 - 1075 : Int) = e - 1074 + 1 by ring, zpow_add_one₀ (by norm_num)]
      ring

theorem two_zpow_pos (e : Int) : (0 : ℚ) < 2 ^ e := zpow_pos (by decide) e

/-- Every place on the grid is a mantissa and the number of a binade. -/
theorem exists_place (b : Nat) :
    ∃ e m : Nat, b = e * 2 ^ 52 + m ∧ m < 2 ^ 53 ∧ (2 ^ 52 ≤ m ∨ e = 0) := by
  rcases Nat.lt_or_ge b (2 ^ 52) with hb | hb
  · exact ⟨0, b, by omega, by omega, .inr rfl⟩
  · refine ⟨b / 2 ^ 52 - 1, b % 2 ^ 52 + 2 ^ 52, ?_, ?_, .inl ?_⟩ <;> omega

theorem grid_succ {e m : Nat} (hlt : m < 2 ^ 53) (hge : 2 ^ 52 ≤ m ∨ e = 0) :
    grid (e * 2 ^ 52 + m + 1) = grid (e * 2 ^ 52 + m) + 2 ^ (e - 1074 : Int) := by
  rw [add_assoc, grid_eq (m := m + 1) (by omega) (by omega), grid_eq (by omega) hge]
  push_cast
  ring

theorem strictMono_grid : StrictMono grid := by
  refine strictMono_nat_of_lt_succ fun b => ?_
  obtain ⟨e, m, rfl, hlt, hge⟩ := exists_place b
  rw [grid_succ hlt hge]
  exact lt_add_of_pos_right _ (two_zpow_pos _)

theorem grid_zero : grid 0 = 0 := by norm_num [grid]

/-- The number half-way between a place and the next one. -/
def halfway (b : Nat) : ℚ := (grid b + grid (b + 1)) / 2

theorem halfway_eq {e m : Nat} (hlt : m < 2 ^ 53) (hge : 2 ^ 52 ≤ m ∨ e = 0) :
    halfway (e * 2 ^ 52 + m) = (m + 1 / 2) * 2 ^ (e - 1074 : Int) := by
  rw [halfway, grid_succ hlt hge, grid_eq (by omega) hge]
  ring

theorem grid_lt_halfway (b : Nat) : grid b < halfway b := by
  have := strictMono_grid (Nat.lt_succ_self b)
  unfold halfway
  linarith

theorem halfway_lt_grid (b : Nat) : halfway b < grid (b + 1) := by
  have := strictMono_grid (Nat.lt_succ_self b)
  unfold halfway
  linarith

theorem strictMono_halfway : StrictMono halfway :=
  strictMono_nat_of_lt_succ fun b => (halfway_lt_grid b).trans (grid_lt_halfway (b + 1))

/-! ## Rounding -/

/-- The number `q` is rounded to the place `b`. -/
structure Rounds (q : ℚ) (b : Nat) : Prop where
  above : ∀ c, b = c + 1 → halfway c ≤ q ∧ (halfway c = q → Even b)
  below : q ≤ halfway b ∧ (q = halfway b → Even b)

theorem rounds_succ_iff {q : ℚ} {c : Nat} : Rounds q (c + 1) ↔
    (halfway c ≤ q ∧ (halfway c = q → Even (c + 1))) ∧
      q ≤ halfway (c + 1) ∧ (q = halfway (c + 1) → Even (c + 1)) := by
  constructor
  · exact fun h => ⟨h.above c rfl, h.below⟩
  · rintro ⟨habove, hbelow⟩
    exact ⟨fun d hd => by obtain rfl : c = d := by omega
                          exact habove, hbelow⟩

/-- **Rounding is unambiguous.** -/
theorem Rounds.unique {q : ℚ} {b c : Nat} (hb : Rounds q b) (hc : Rounds q c) : b = c := by
  by_contra hne
  wlog hlt : b < c generalizing b c
  · exact this hc hb (Ne.symm hne) (by omega)
  obtain ⟨d, rfl⟩ : ∃ d, c = d + 1 := ⟨c - 1, by omega⟩
  obtain ⟨hle, heven⟩ := hc.above d rfl
  obtain ⟨hge, heven'⟩ := hb.below
  have hmono : halfway b ≤ halfway d := strictMono_halfway.monotone (by omega)
  have hq : q = halfway b := le_antisymm hge (hmono.trans hle)
  have hd : halfway d = q := le_antisymm hle (hq ▸ hmono)
  obtain rfl : b = d := strictMono_halfway.injective (hq.symm.trans hd.symm)
  have := heven' hq
  have := heven hd
  grind

theorem Rounds.of_le_halfway {q : ℚ} {b : Nat} (hge : grid b ≤ q) (hle : q ≤ halfway b)
    (heven : q = halfway b → Even b) : Rounds q b where
  above := by
    rintro c rfl
    have hlt := (halfway_lt_grid c).trans_le hge
    exact ⟨hlt.le, fun h => absurd hlt (h ▸ lt_irrefl _)⟩
  below := ⟨hle, heven⟩

theorem Rounds.of_halfway_le {q : ℚ} {b : Nat} (hge : halfway b ≤ q) (hlt : q < grid (b + 1))
    (heven : halfway b = q → Even (b + 1)) : Rounds q (b + 1) where
  above := by
    rintro c h
    obtain rfl : b = c := by omega
    exact ⟨hge, heven⟩
  below := by
    have hlt := hlt.trans (grid_lt_halfway (b + 1))
    exact ⟨hlt.le, fun h => absurd hlt (h ▸ lt_irrefl _)⟩

theorem rounds_grid (b : Nat) : Rounds (grid b) b :=
  .of_le_halfway le_rfl (grid_lt_halfway b).le fun h => absurd (grid_lt_halfway b) (h ▸ lt_irrefl _)

/-! ## The rounding functions -/

theorem assemble_eq (m : Nat) (e : Nat) : assemble m (e - 1074) = ofPlace (e * 2 ^ 52 + m) := by
  have h : ((e - 1074 : Int) - minExponent).toNat = e := by
    unfold minExponent
    omega
  unfold assemble
  rw [h]
  rfl

section

variable (half r : Nat) {δ : ℚ}

/-- A part of a unit decides between equal integers only. -/
theorem lt_add_part_iff (hδ : 0 ≤ δ) (hδ' : δ < 1) :
    (half : ℚ) < r + δ ↔ half < r ∨ half = r ∧ 0 < δ := by
  rcases Nat.lt_trichotomy half r with h | rfl | h
  · have : (half : ℚ) < r := by exact_mod_cast h
    exact iff_of_true (by linarith) (.inl h)
  · simp
  · have : (r + 1 : ℚ) ≤ half := by exact_mod_cast h
    refine iff_of_false (by linarith) ?_
    rintro (hlt | ⟨rfl, -⟩) <;> omega

theorem eq_add_part_iff (hδ : 0 ≤ δ) (hδ' : δ < 1) :
    (half : ℚ) = r + δ ↔ half = r ∧ ¬0 < δ := by
  rcases Nat.lt_trichotomy half r with h | rfl | h
  · have : (half : ℚ) < r := by exact_mod_cast h
    exact iff_of_false (by linarith) fun heq => by omega
  · rw [left_eq_add, not_lt]
    exact ⟨fun h => ⟨rfl, h.le⟩, fun h => le_antisymm h.2 hδ⟩
  · have : (r + 1 : ℚ) ≤ half := by exact_mod_cast h
    exact iff_of_false (by linarith) fun heq => by omega

end

/-- Where to round `k` units and a part, `r` of the unit's parts and `δ` of such a part: `δ` decides
only what would be a tie without it. -/
theorem rounds_unit {k r unit : Nat} {δ : ℚ} {e : Nat} (hk : k < 2 ^ 53) (hge : 2 ^ 52 ≤ k ∨ e = 0)
    (hr : r < unit) (hunit : 2 ∣ unit) (hδ : 0 ≤ δ) (hδ' : δ < 1) :
    Rounds ((k * unit + r + δ) * (2 ^ (e - 1074 : Int) / unit))
      (e * 2 ^ 52 +
        if unit < 2 * r ∨ (unit = 2 * r ∧ (0 < δ ∨ k % 2 = 1)) then k + 1 else k) := by
  have hpos : (0 : ℚ) < unit := by exact_mod_cast Nat.zero_lt_of_lt hr
  have hone : (unit : ℚ) * (2 ^ (e - 1074 : Int) / unit) = 2 ^ (e - 1074 : Int) := by field_simp
  have hscale : (0 : ℚ) < 2 ^ (e - 1074 : Int) / unit := div_pos (two_zpow_pos _) hpos
  have hgrid : grid (e * 2 ^ 52 + k) = k * unit * (2 ^ (e - 1074 : Int) / unit) := by
    rw [grid_eq hk.le hge, mul_assoc, hone]
  have hsucc : grid (e * 2 ^ 52 + k + 1) = (k * unit + unit) * (2 ^ (e - 1074 : Int) / unit) := by
    rw [grid_succ hk hge, hgrid, add_mul, hone]
  have hhalf : halfway (e * 2 ^ 52 + k) =
      (k * unit + unit / 2) * (2 ^ (e - 1074 : Int) / unit) := by
    rw [halfway, hgrid, hsucc]
    ring
  have hpart : (r + δ : ℚ) < unit := by
    have : (r + 1 : ℚ) ≤ unit := by exact_mod_cast hr
    linarith
  generalize 2 ^ (e - 1074 : Int) / (unit : ℚ) = scale at *
  obtain ⟨half, rfl⟩ := hunit
  push_cast at *
  have hlt := lt_add_part_iff half r hδ hδ'
  have heq := eq_add_part_iff half r hδ hδ'
  split
  · next hup =>
    have hle : (half : ℚ) ≤ r + δ := by
      rw [le_iff_lt_or_eq, hlt, heq]
      by_cases h : 0 < δ <;> simp [h] at hup ⊢ <;> omega
    rw [← add_assoc]
    refine .of_halfway_le ?_ ?_ fun htie => ?_
    · rw [hhalf]
      exact mul_le_mul_of_nonneg_right (by linarith) hscale.le
    · rw [hsucc]
      exact mul_lt_mul_of_pos_right (by linarith) hscale
    · rw [hhalf] at htie
      have htie := mul_right_cancel₀ hscale.ne' htie
      obtain ⟨rfl, hnone⟩ := heq.mp (by linarith)
      simp only [hnone, false_or] at hup
      rw [Nat.even_iff]
      omega
  · next hdown =>
    have hle : (r + δ : ℚ) ≤ half := by
      rw [← not_lt, hlt]
      rintro (h | ⟨rfl, h⟩)
      · exact hdown (.inl (by omega))
      · exact hdown (.inr ⟨rfl, .inl h⟩)
    refine .of_le_halfway ?_ ?_ fun htie => ?_
    · have : (0 : ℚ) ≤ r := Nat.cast_nonneg r
      rw [hgrid]
      exact mul_le_mul_of_nonneg_right (by linarith) hscale.le
    · rw [hhalf]
      exact mul_le_mul_of_nonneg_right (by linarith) hscale.le
    · rw [hhalf] at htie
      have htie := mul_right_cancel₀ hscale.ne' htie
      obtain ⟨rfl, -⟩ := heq.mp (by linarith)
      have : ¬k % 2 = 1 := fun hodd => hdown (.inr ⟨rfl, .inr hodd⟩)
      rw [Nat.even_iff]
      omega

/-- What fits into a mantissa is exact. -/
theorem rounds_fitting {m s e : Nat} (hlt : m * 2 ^ s < 2 ^ 53)
    (hge : 2 ^ 52 ≤ m * 2 ^ s ∨ e = 0) :
    Rounds (m * 2 ^ (e - 1074 + s : Int)) (e * 2 ^ 52 + m * 2 ^ s) := by
  have h := rounds_grid (e * 2 ^ 52 + m * 2 ^ s)
  have hvalue : ((m * 2 ^ s : Nat) : ℚ) * 2 ^ (e - 1074 : Int) = m * 2 ^ (e - 1074 + s : Int) := by
    rw [zpow_add₀ two_ne_zero, zpow_natCast]
    push_cast
    ring
  rwa [grid_eq hlt.le hge, hvalue] at h

/-- What does not fit is cut off and rounded. -/
theorem rounds_cut {m s e : Nat} {δ : ℚ} (hlt : m / 2 ^ (s + 1) < 2 ^ 53)
    (hge : 2 ^ 52 ≤ m / 2 ^ (s + 1) ∨ e = 0) (hδ : 0 ≤ δ) (hδ' : δ < 1) :
    Rounds ((m + δ) * 2 ^ (e - 1074 - (s + 1 : Nat) : Int))
      (e * 2 ^ 52 + if 2 ^ (s + 1) < 2 * (m % 2 ^ (s + 1)) ∨
          (2 ^ (s + 1) = 2 * (m % 2 ^ (s + 1)) ∧ (0 < δ ∨ m / 2 ^ (s + 1) % 2 = 1))
        then m / 2 ^ (s + 1) + 1 else m / 2 ^ (s + 1)) := by
  have h := rounds_unit (r := m % 2 ^ (s + 1)) hlt hge (Nat.mod_lt _ (by positivity))
    (dvd_pow_self 2 (by omega)) hδ hδ'
  have hsplit : (m : ℚ) =
      (m / 2 ^ (s + 1) : Nat) * (2 ^ (s + 1) : Nat) + (m % 2 ^ (s + 1) : Nat) := by
    exact_mod_cast (Nat.div_add_mod' ..).symm
  have hunit : (2 : ℚ) ^ (e - 1074 : Int) / (2 ^ (s + 1) : Nat) =
      2 ^ (e - 1074 - (s + 1 : Nat) : Int) := by
    rw [zpow_sub₀ two_ne_zero (e - 1074), zpow_natCast, Nat.cast_pow, Nat.cast_ofNat]
  rwa [← hsplit, hunit] at h

/-- **Rounding gives the nearest double**, of a number `(m + δ) · 2 ^ e`. -/
theorem round_eq {m : Nat} {e : Int} {above : Bool} {δ : ℚ} (hm : m ≠ 0) (hδ : 0 ≤ δ) (hδ' : δ < 1)
    (habove : above = true ↔ 0 < δ) (hlong : δ = 0 ∨ 53 ≤ m.log2) :
    ∃ b, Rounds ((m + δ) * 2 ^ e) b ∧ round m e above = ofPlace b := by
  have hlow : 2 ^ m.log2 ≤ m := Nat.log2_self_le hm
  have hhigh : m < 2 ^ (m.log2 + 1) := Nat.lt_log2_self
  unfold round
  rw [if_neg hm]
  dsimp only
  obtain ⟨last, hlast⟩ : ∃ last : Nat,
      max (e + (m.log2 + 1 : Nat) - 53) minExponent = last - 1074 :=
    ⟨(max (e + (m.log2 + 1 : Nat) - 53) minExponent + 1074).toNat, by unfold minExponent; omega⟩
  rw [hlast]
  unfold minExponent at hlast
  split
  · next hle =>
    obtain rfl : δ = 0 := hlong.resolve_right (by omega)
    obtain ⟨s, rfl⟩ : ∃ s : Nat, e = last - 1074 + s := ⟨(e - (last - 1074)).toNat, by omega⟩
    have hshift : (last - 1074 + s - (last - 1074) : Int).toNat = s := by omega
    have hlt : m * 2 ^ s < 2 ^ 53 :=
      calc m * 2 ^ s < 2 ^ (m.log2 + 1) * 2 ^ s := Nat.mul_lt_mul_of_pos_right hhigh (by positivity)
        _ = 2 ^ (m.log2 + 1 + s) := (pow_add ..).symm
        _ ≤ 2 ^ 53 := Nat.pow_le_pow_right (by decide) (by omega)
    have hge : 2 ^ 52 ≤ m * 2 ^ s ∨ last = 0 := by
      refine (Nat.eq_zero_or_pos last).symm.imp_left fun hpos => ?_
      calc 2 ^ 52 ≤ 2 ^ (m.log2 + s) := Nat.pow_le_pow_right (by decide) (by omega)
        _ = 2 ^ m.log2 * 2 ^ s := pow_add ..
        _ ≤ m * 2 ^ s := Nat.mul_le_mul_right _ hlow
    rw [hshift, Nat.pow_eq, assemble_eq, add_zero]
    exact ⟨_, rounds_fitting hlt hge, rfl⟩
  · next hgt =>
    obtain ⟨s, rfl⟩ : ∃ s : Nat, e = last - 1074 - (s + 1 : Nat) :=
      ⟨(last - 1074 - e - 1).toNat, by omega⟩
    have hshift : (last - 1074 - (last - 1074 - (s + 1 : Nat)) : Int).toNat = s + 1 := by omega
    have hlt : m / 2 ^ (s + 1) < 2 ^ 53 := by
      refine Nat.div_lt_of_lt_mul (lt_of_lt_of_le hhigh ?_)
      rw [← pow_add]
      exact Nat.pow_le_pow_right (by decide) (by omega)
    have hge : 2 ^ 52 ≤ m / 2 ^ (s + 1) ∨ last = 0 := by
      refine (Nat.eq_zero_or_pos last).symm.imp_left fun hpos => ?_
      rw [Nat.le_div_iff_mul_le (by positivity), ← pow_add]
      exact (Nat.pow_le_pow_right (by decide) (by omega)).trans hlow
    simp only [hshift, Nat.pow_eq, habove, assemble_eq]
    exact ⟨_, rounds_cut hlt hge hδ hδ', rfl⟩

/-- A quotient with that many more bits above than below has more bits than a double. -/
theorem long_quotient {num den up down : Nat} (hnum : num ≠ 0) (hden : den ≠ 0)
    (hshift : (den.log2 : Int) - num.log2 + 56 = up - down) :
    2 ^ 53 ≤ num * 2 ^ up / (den * 2 ^ down) := by
  rw [Nat.le_div_iff_mul_le (by positivity)]
  calc 2 ^ 53 * (den * 2 ^ down)
      ≤ 2 ^ 53 * (2 ^ (den.log2 + 1) * 2 ^ down) :=
        Nat.mul_le_mul_left _ (Nat.mul_le_mul_right _ Nat.lt_log2_self.le)
    _ = 2 ^ (53 + (den.log2 + 1 + down)) := by rw [← pow_add, ← pow_add]
    _ ≤ 2 ^ (num.log2 + up) := Nat.pow_le_pow_right (by decide) (by omega)
    _ = 2 ^ num.log2 * 2 ^ up := pow_add ..
    _ ≤ num * 2 ^ up := Nat.mul_le_mul_right _ (Nat.log2_self_le hnum)

/-- **A quotient is rounded once**, to the nearest double. -/
theorem ofRatio_eq {num den : Nat} (hnum : num ≠ 0) (hden : den ≠ 0) :
    ∃ b, Rounds (num / den) b ∧ ofRatio num den = ofPlace b := by
  unfold ofRatio
  rw [if_neg hnum]
  dsimp only
  simp only [Nat.pow_eq]
  obtain ⟨up, down, hup, hdown, hshift⟩ : ∃ up down : Nat,
      ((den.log2 : Int) - num.log2 + 56).toNat = up ∧
      (-((den.log2 : Int) - num.log2 + 56)).toNat = down ∧
      (den.log2 : Int) - num.log2 + 56 = up - down := ⟨_, _, rfl, rfl, by omega⟩
  have hlarge := long_quotient hnum hden hshift
  rw [hup, hdown, hshift]
  have hd : 0 < den * 2 ^ down := by positivity
  have hdq : (0 : ℚ) < (den * 2 ^ down : Nat) := by exact_mod_cast hd
  have hq : (num / den : ℚ) = (num * 2 ^ up : Nat) / (den * 2 ^ down : Nat) *
      2 ^ (-(up - down : Int)) := by
    have hden : (den : ℚ) ≠ 0 := by exact_mod_cast hden
    rw [neg_sub, zpow_sub₀ two_ne_zero, zpow_natCast, zpow_natCast]
    push_cast
    field_simp
  generalize num * 2 ^ up = n at *
  generalize den * 2 ^ down = d at *
  have hsplit : (n / d : ℚ) = (n / d : Nat) + (n % d : Nat) / d := by
    rw [div_eq_iff hdq.ne', add_mul, div_mul_cancel₀ _ hdq.ne']
    exact_mod_cast (Nat.div_add_mod' n d).symm
  have hne : n / d ≠ 0 := (lt_of_lt_of_le (by decide) hlarge).ne'
  rw [hq, hsplit]
  refine round_eq hne (by positivity) ?_ ?_ (.inr ?_)
  · rw [div_lt_one hdq]
    exact_mod_cast Nat.mod_lt _ hd
  · rw [div_pos_iff_of_pos_right hdq, Nat.cast_pos, bne_iff_ne, Nat.pos_iff_ne_zero]
  · exact (Nat.le_log2 hne).mpr hlarge

end NonlinearFit.Binary64
