import NonlinearFit.Linkage
import NonlinearFit.Options.Basic
import Mathlib.Data.Nat.Digits.Defs

/-!
# Option lines are short

A line that sets an option is a name and a number, and the decimals that stand for doubles have few
digits and small exponents (`Decimal.moderate_shortest`). So each line of any options has far fewer
bytes than an integer can count (`Options.storable_lines`).

The bounds are crude. What matters is that they do not depend on the number.
-/

namespace NonlinearFit

/-! ## Decimals of doubles -/

theorem Binary64.parts_bounds (x : Float) :
    (parts x).mantissa < 2 ^ 53 ∧ -1074 ≤ (parts x).exponent ∧ (parts x).exponent ≤ 973 := by
  have hbits : magnitudeBits x < 2 ^ 63 := Nat.mod_lt _ (by decide)
  have hfraction : magnitudeBits x % Nat.pow 2 52 < 2 ^ 52 := Nat.mod_lt _ (by decide)
  have hbiased : magnitudeBits x / Nat.pow 2 52 < 2 ^ 11 :=
    Nat.div_lt_of_lt_mul (lt_of_lt_of_eq hbits (by decide))
  unfold parts
  generalize magnitudeBits x % Nat.pow 2 52 = fraction, magnitudeBits x / Nat.pow 2 52 = biased
    at hfraction hbiased ⊢
  have hunit : Nat.pow 2 52 = 2 ^ 52 := rfl
  dsimp only
  split
  · dsimp only
    omega
  · dsimp only
    omega

namespace Decimal

/-- An interval as doubles have it. -/
structure Interval.Moderate (v : Interval) : Prop where
  mid : v.mid ≤ 2 ^ 55
  up : v.exponent.toNat ≤ 1000
  down : (-v.exponent).toNat ≤ 1100

/-- A decimal with few digits and a small exponent, at most `top`. -/
structure Moderate (top : Int) (d : Decimal) : Prop where
  digits : d.digits < 10 ^ 2000
  exponent_ge : -2000 ≤ d.exponent
  exponent_le : d.exponent ≤ top

theorem Interval.moderate_ofParts (x : Float) : (Interval.ofParts (Binary64.parts x)).Moderate := by
  obtain ⟨hmantissa, hge, hle⟩ := Binary64.parts_bounds x
  refine ⟨?_, ?_, ?_⟩ <;> simp only [ofParts] <;> omega

theorem digitCount_le {n k : Nat} (pos : 0 < k) (h : n < 10 ^ k) : digitCount n ≤ k :=
  Nat.toDigits_length 10 n k pos h

namespace Interval

variable {v : Interval} (hv : v.Moderate)

include hv

theorem scaled_le {e : Int} (he : (-e).toNat ≤ 500) :
    v.mid * (v.scales e).2 ≤ 2 ^ 55 * (2 ^ 1000 * 10 ^ 500) := by
  have htwo := pow_le_pow_right₀ (a := 2) (by decide) hv.up
  have hten := pow_le_pow_right₀ (a := 10) (by decide) he
  exact Nat.mul_le_mul hv.mid (Nat.mul_le_mul htwo hten)

theorem leading_bounds : -400 ≤ v.leading ∧ v.leading ≤ 1000 := by
  have hhigh : digitCount (v.mid * (v.scales 0).2 / (v.scales 0).1) ≤ 900 := by
    have hscaled := scaled_le hv (e := 0) (by decide)
    exact digitCount_le (by decide)
      (lt_of_le_of_lt ((Nat.div_le_self ..).trans hscaled) (by decide +kernel))
  have hlow : digitCount ((v.scales 0).1 / (v.mid * (v.scales 0).2)) ≤ 400 := by
    have hpow := pow_le_pow_right₀ (a := 2) (by decide) hv.down
    have hten : (v.scales 0).1 ≤ 2 ^ 1100 := (Nat.one_mul _).le.trans hpow
    exact digitCount_le (by decide)
      (lt_of_le_of_lt ((Nat.div_le_self ..).trans hten) (by decide +kernel))
  unfold leading
  dsimp only
  split <;> omega

theorem moderate_onGrid {e : Int} {d : Decimal} (hge : -500 ≤ e) (hle : e ≤ 1100)
    (h : v.onGrid e = some d) : d.Moderate 1100 := by
  have hbelow : v.mid * (v.scales e).2 / (v.scales e).1 + 1 < 10 ^ 2000 := by
    have hscaled := scaled_le hv (e := e) (by omega)
    exact lt_of_le_of_lt (Nat.succ_le_succ ((Nat.div_le_self ..).trans hscaled)) (by decide +kernel)
  have hd : d.digits ≤ v.mid * (v.scales e).2 / (v.scales e).1 + 1 ∧ d.exponent = e := by
    unfold onGrid at h
    dsimp only at h
    split at h <;> cases h
    · exact ⟨Nat.le_succ _, rfl⟩
    · exact ⟨le_rfl, rfl⟩
    · refine ⟨?_, rfl⟩
      dsimp only
      split
      · exact Nat.le_succ _
      · exact le_rfl
  obtain ⟨hdigits, rfl⟩ := hd
  exact ⟨lt_of_le_of_lt hdigits hbelow, by omega, hle⟩

theorem moderate_exact : v.exact.Moderate 1100 := by
  have hdown := hv.down
  have hexponent : v.exact.exponent = min v.exponent 0 := rfl
  have hge : -2000 ≤ v.exact.exponent := by omega
  have hle : v.exact.exponent ≤ 1100 := by omega
  have htwo := pow_le_pow_right₀ (a := 2) (by decide) hv.up
  have hfive := pow_le_pow_right₀ (a := 5) (by decide) hdown
  have hdigits : v.exact.digits < 10 ^ 2000 :=
    lt_of_le_of_lt (Nat.mul_le_mul (Nat.mul_le_mul hv.mid htwo) hfive) (by decide +kernel)
  exact ⟨hdigits, hge, hle⟩

theorem moderate_search (fuel : Nat) {e : Int} (hge : -500 ≤ e - fuel) (hle : e ≤ 1100) :
    (v.search fuel e).Moderate 1100 := by
  induction fuel generalizing e with
  | zero => exact moderate_exact hv
  | succ fuel ih =>
    unfold search
    cases h : v.onGrid e with
    | none => exact ih (by omega) (by omega)
    | some d => exact moderate_onGrid hv (by omega) hle h

end Interval

theorem Moderate.trimZeros {top : Int} {d : Decimal} (h : d.Moderate top) (fuel : Nat) :
    (trimZeros fuel d).Moderate (top + fuel) := by
  have := h.exponent_le
  induction fuel generalizing d top with
  | zero => exact ⟨h.digits, h.exponent_ge, by simpa [Decimal.trimZeros] using this⟩
  | succ fuel ih =>
    unfold Decimal.trimZeros
    have := h.exponent_ge
    split
    · have hnext : Moderate (top + 1) ⟨d.digits / 10, d.exponent + 1⟩ :=
        ⟨lt_of_le_of_lt (Nat.div_le_self ..) h.digits, by dsimp only; omega, by dsimp only; omega⟩
      obtain ⟨hdigits, hge, hle⟩ := ih hnext hnext.exponent_le
      exact ⟨hdigits, hge, by omega⟩
    · exact ⟨h.digits, h.exponent_ge, by omega⟩

/-- **The decimal of a double has few digits and a small exponent.** -/
theorem moderate_shortest (x : Float) : (shortest x).Moderate 1120 := by
  unfold shortest
  dsimp only
  split
  · exact ⟨by decide +kernel, by decide, by decide⟩
  · have hv := Interval.moderate_ofParts x
    generalize Interval.ofParts (Binary64.parts x) = v at hv ⊢
    obtain ⟨hge, hle⟩ := Interval.leading_bounds hv
    have hsearch := Interval.moderate_search hv 20 (e := v.leading + 1) (by omega) (by omega)
    exact hsearch.trimZeros 20

end Decimal

/-! ## Texts -/

theorem utf8ByteSize_le (s : String) : s.utf8ByteSize ≤ 4 * s.length := by
  have h (cs : List Char) : (cs.flatMap String.utf8EncodeChar).length ≤ 4 * cs.length := by
    induction cs with
    | nil => exact le_rfl
    | cons c cs ih =>
      have := c.utf8Size_le_four
      simp only [List.flatMap_cons, List.length_append, String.length_utf8EncodeChar,
        List.length_cons]
      omega
  obtain ⟨cs, rfl⟩ : ∃ cs, s = String.ofList cs := ⟨s.toList, String.ofList_toList.symm⟩
  show (String.ofList cs).toByteArray.size ≤ _
  rw [String.toByteArray_ofList, List.utf8Encode, List.size_toByteArray, String.length_ofList]
  exact h cs

theorem length_natural {n k : Nat} (pos : 0 < k) (h : n < 10 ^ k) : (toString n).length ≤ k := by
  show (String.ofList (Nat.toDigits 10 n)).length ≤ k
  rw [String.length_ofList]
  exact Nat.toDigits_length 10 n k pos h

theorem length_integer {i : Int} {k : Nat} (pos : 0 < k) (h : i.natAbs < 10 ^ k) :
    (toString i).length ≤ k + 1 := by
  cases i with
  | ofNat n => exact (length_natural pos h).trans (Nat.le_succ _)
  | negSucc n =>
    have hn : (toString (n + 1)).length ≤ k := length_natural pos h
    have hsign : "-".length = 1 := rfl
    show ("-" ++ toString (n + 1)).length ≤ k + 1
    rw [String.length_append, hsign]
    omega

namespace Layout

theorem length_setScientific {d : Decimal} (h : d.Moderate 1120) :
    (setScientific d).length ≤ 3000 := by
  obtain ⟨hdigits, hge, hle⟩ := h
  have hcount : Decimal.digitCount d.digits ≤ 2000 := Decimal.digitCount_le (by decide) hdigits
  have hleading : (toString d.leading).length ≤ 5 :=
    length_integer (k := 4) (by decide) (by unfold Decimal.leading; omega)
  clear hdigits
  unfold Decimal.digitCount at hcount
  have hrest : ((Nat.toDigits 10 d.digits).drop 1).length < 2000 := by
    rw [List.length_drop]
    omega
  unfold setScientific
  generalize (Nat.toDigits 10 d.digits).drop 1 = rest at hrest ⊢
  cases rest with
  | nil =>
    simp only [List.length_append, List.length_take, List.length_cons, List.length_nil,
      String.length_toList]
    omega
  | cons c rest =>
    simp only [List.length_append, List.length_take, List.length_cons, String.length_toList]
      at hrest ⊢
    omega

theorem length_scientific (x : Float) : (scientific.write x).length ≤ 4000 := by
  have hset : (scientific.set (Decimal.shortest x)).length ≤ 3000 := by
    unfold set
    split
    · exact length_setScientific ⟨by decide +kernel, by decide, by decide⟩
    · exact length_setScientific (Decimal.moderate_shortest x)
  have hsign : (if Binary64.isNegative x then ['-'] else []).length ≤ 1 := by
    split <;> decide
  unfold write
  split
  · decide +kernel
  · dsimp only
    split
    · rw [String.length_ofList, List.length_append]
      exact Nat.le_trans (Nat.add_le_add_right hsign _) (by decide)
    · rw [String.length_ofList, List.length_append]
      omega

end Layout

namespace Setting

theorem storable_append {name number : String} (hname : name.length ≤ 100)
    (hnumber : number.length ≤ 4000) : Storable (name ++ number) := by
  have hsize := utf8ByteSize_le (name ++ number)
  have hlargest : 4 * 4100 ≤ Integer.largest := by decide
  rw [String.length_append] at hsize
  show (name ++ number).utf8ByteSize ≤ Integer.largest
  omega

theorem storable_line (s : Setting) : Storable s.line := by
  have hword (w : Word) : (toString w.toNat).length ≤ 20 :=
    length_natural (by decide) (w.toNat_lt.trans (by decide))
  cases s with
  | list echo => cases echo <;> decide +kernel
  | start start => cases start <;> decide +kernel
  | printLevel w | majorLimit w | minorLimit w =>
    exact storable_append (by decide +kernel) ((hword w).trans (by decide))
  | optimality x | feasibility x | precision x | infiniteBound x =>
    exact storable_append (by decide +kernel) (Layout.length_scientific x)
  | derivatives level =>
    have h : level.toNat < 10 ^ 3 := level.toNat_lt.trans (by decide)
    exact storable_append (by decide +kernel) ((length_natural (by decide) h).trans (by decide))
  | verify level =>
    have h : level.toInt.natAbs < 10 ^ 3 := by
      have := level.toInt_lt
      have := level.le_toInt
      omega
    exact storable_append (by decide +kernel) ((length_integer (by decide) h).trans (by decide))

end Setting

/-- **The lines of options are storable.** -/
theorem Options.storable_lines (o : Options) : ∀ line ∈ o.lines, Storable line := by
  intro line hline
  obtain ⟨s, -, rfl⟩ := List.mem_map.mp hline
  exact s.storable_line

end NonlinearFit
