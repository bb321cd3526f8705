import NonlinearFit.Decimal.Layout
import NonlinearFit.Proofs.Literals
import NonlinearFit.Proofs.NumberTexts
import NonlinearFit.Proofs.ShortestDigits

/-!
# Written numbers read back

Every layout sets a decimal as a number literal of the same value (`Layout.sets_set`). With the
shortest digits of a double that is **the round trip of doubles** (`Layout.exists_spelled_write`):
however a finite double is written, its text is a literal that stands for this double.
-/

namespace NonlinearFit

open Json Json.Numeral Binary64

/-! ## Digits of naturals -/

namespace Json

theorem natOfDigits_eq (ds : List Char) : natOfDigits ds = Nat.ofDigitChars 10 ds 0 :=
  Nat.ofDigitChars_eq_foldl.symm

theorem natOfDigits_toDigits (k : Nat) : natOfDigits (Nat.toDigits 10 k) = k := by
  rw [natOfDigits_eq, Nat.ofDigitChars_ten_toDigits]

theorem natOfDigits_append (ds es : List Char) :
    natOfDigits (ds ++ es) = natOfDigits ds * 10 ^ es.length + natOfDigits es := by
  simp only [natOfDigits_eq, Nat.ofDigitChars_append]
  rw [Nat.ofDigitChars_eq_ofDigitChars_zero, Nat.mul_comm]

theorem natOfDigits_zeros (k : Nat) : natOfDigits (List.replicate k '0') = 0 := by
  rw [natOfDigits_eq, Nat.ofDigitChars_replicate_zero, Nat.mul_zero]

theorem digits_toDigits (k : Nat) : Digits (Nat.toDigits 10 k) :=
  ⟨List.ne_nil_of_length_pos Nat.length_toDigits_pos,
    fun _ hc => Nat.isDigit_of_mem_toDigits (by decide) (by decide) hc⟩

theorem isDigit_zeros {k : Nat} : ∀ c ∈ List.replicate k '0', c.isDigit = true := by
  intro c hc
  rw [List.eq_of_mem_replicate hc]
  rfl

/-- Only zero is written with a zero in front. -/
theorem eq_zero_of_head_toDigits {k : Nat} (h : (Nat.toDigits 10 k).head? = some '0') : k = 0 := by
  induction k using Nat.strong_induction_on with
  | _ k ih =>
    rcases Nat.lt_or_ge k 10 with hlt | hge
    · rw [Nat.toDigits_of_lt_base hlt] at h
      interval_cases k <;> first | rfl | exact absurd h (by decide)
    · rw [Nat.toDigits_of_base_le (by decide) hge,
        List.head?_append_of_ne_nil _ (digits_toDigits _).1] at h
      have := ih (k / 10) (by omega) h
      omega

end Json

/-! ## Integers -/

theorem toList_toString (k : Nat) : (toString k).toList = Nat.toDigits 10 k := by
  rw [Nat.toString_eq_ofList_toDigits, String.toList_ofList]

theorem toList_toString_ofNat (k : Nat) :
    (toString (Int.ofNat k)).toList = Nat.toDigits 10 k :=
  toList_toString k

theorem toList_toString_negSucc (k : Nat) :
    (toString (Int.negSucc k)).toList = '-' :: Nat.toDigits 10 (k + 1) := by
  show ("-" ++ toString (k + 1)).toList = _
  rw [String.toList_append, toList_toString]
  rfl

/-- The digits of a natural are a literal, with any sign. -/
theorem spelled_toDigits (negative : Bool) (k : Nat) :
    (⟨negative, Nat.toDigits 10 k, none, none⟩ : Numeral).Spelled
      (signText negative ++ Nat.toDigits 10 k) := by
  refine ⟨⟨digits_toDigits k, ?_, nofun⟩, [], .absent, by simp [fractionText]⟩
  rintro ⟨hlong, hhead⟩
  obtain rfl := eq_zero_of_head_toDigits hhead
  exact Nat.lt_irrefl 1 hlong

/-- **An integer reads back.** -/
theorem exists_spelled_toString (i : Int) :
    ∃ n : Numeral, n.Spelled (toString i).toList ∧ n.integer? = some i := by
  cases i with
  | ofNat k =>
    rw [toList_toString_ofNat]
    refine ⟨_, spelled_toDigits false k, ?_⟩
    unfold integer?
    rw [natOfDigits_toDigits]
    rfl
  | negSucc k =>
    rw [toList_toString_negSucc]
    refine ⟨_, spelled_toDigits true (k + 1), ?_⟩
    unfold integer?
    rw [natOfDigits_toDigits]
    rfl

theorem toString_int_injective {i j : Int} (h : toString i = toString j) : i = j := by
  obtain ⟨n, hn, hi⟩ := exists_spelled_toString i
  obtain ⟨m, hm, hj⟩ := exists_spelled_toString j
  rw [h] at hn
  obtain rfl := hn.unique hm
  exact Option.some.inj (hi.symm.trans hj)

namespace Layout

/-- The characters are a literal, without a sign, of the decimal's value. -/
def Sets (d : Decimal) (cs : List Char) : Prop :=
  ∃ n : Numeral, n.negative = false ∧ n.Spelled cs ∧ n.value = d.value

theorem value_without_exponent (negative : Bool) (whole : List Char)
    (fraction : Option (List Char)) :
    (⟨negative, whole, fraction, none⟩ : Numeral).value =
      natOfDigits (whole ++ fraction.getD []) / 10 ^ (fraction.getD []).length := by
  unfold Numeral.value significand scale
  dsimp only
  rw [zero_sub, zpow_neg, zpow_natCast, div_eq_mul_inv]

/-- A whole number is its digits and zeros. -/
theorem sets_whole {digits k : Nat} {pointZero : Bool} (h : digits ≠ 0 ∨ k = 0) :
    Sets ⟨digits, k⟩ (setPositional pointZero ⟨digits, k⟩) := by
  have hdigits := digits_toDigits digits
  have hset : setPositional pointZero ⟨digits, k⟩ =
      Nat.toDigits 10 digits ++ List.replicate k '0' ++ if pointZero then ['.', '0'] else [] := by
    unfold setPositional
    rw [if_pos (Int.natCast_nonneg k)]
    rfl
  have hwhole : Digits (Nat.toDigits 10 digits ++ List.replicate k '0') :=
    ⟨List.append_ne_nil_of_left_ne_nil hdigits.1 _,
      fun c hc => (List.mem_append.mp hc).elim (hdigits.2 c) (isDigit_zeros c)⟩
  have hleading : ¬(1 < (Nat.toDigits 10 digits ++ List.replicate k '0').length ∧
      (Nat.toDigits 10 digits ++ List.replicate k '0').head? = some '0') := by
    rintro ⟨hlong, hhead⟩
    rw [List.head?_append_of_ne_nil _ hdigits.1] at hhead
    obtain rfl := eq_zero_of_head_toDigits hhead
    obtain rfl : k = 0 := h.resolve_left fun hne => hne rfl
    exact absurd hlong (by decide)
  have hvalue : (natOfDigits (Nat.toDigits 10 digits ++ List.replicate k '0') : ℚ) =
      digits * 10 ^ k := by
    rw [natOfDigits_append, natOfDigits_toDigits, natOfDigits_zeros, List.length_replicate]
    push_cast
    ring
  rw [hset]
  cases pointZero with
  | false =>
    refine ⟨⟨false, _, none, none⟩, rfl, ⟨⟨hwhole, hleading, nofun⟩, [], .absent, rfl⟩, ?_⟩
    rw [value_without_exponent, Option.getD_none, List.append_nil, hvalue]
    simp [Decimal.value]
  | true =>
    have hpoint : natOfDigits ['0'] = 0 := rfl
    refine ⟨⟨false, _, some ['0'], none⟩, rfl, ⟨⟨hwhole, hleading, ?_⟩, [], .absent, ?_⟩, ?_⟩
    · rintro _ ⟨⟩
      exact ⟨List.cons_ne_nil _ _, isDigit_zeros (k := 1)⟩
    · rfl
    · rw [value_without_exponent, Option.getD_some, natOfDigits_append, hpoint, add_zero,
        Nat.cast_mul, hvalue]
      simp [Decimal.value]

/-- A number with a fraction is its digits around the point, with zeros before them if needed. -/
theorem sets_fraction {digits k : Nat} {pointZero : Bool} (h : digits ≠ 0) :
    Sets ⟨digits, -(k + 1 : Nat)⟩ (setPositional pointZero ⟨digits, -(k + 1 : Nat)⟩) := by
  obtain ⟨padded, hpadded⟩ : ∃ padded, padded =
      List.replicate (k + 1 + 1 - (Nat.toDigits 10 digits).length) '0' ++ Nat.toDigits 10 digits :=
    ⟨_, rfl⟩
  have hset : setPositional pointZero ⟨digits, -(k + 1 : Nat)⟩ =
      padded.take (padded.length - (k + 1)) ++ '.' :: padded.drop (padded.length - (k + 1)) := by
    have hplaces : (- -((k + 1 : Nat) : Int)).toNat = k + 1 := by omega
    unfold setPositional
    rw [if_neg (by dsimp only; omega)]
    dsimp only
    rw [hplaces, hpadded]
  have hlength : padded.length = max (k + 2) (Nat.toDigits 10 digits).length := by
    rw [hpadded, List.length_append, List.length_replicate]
    omega
  have hdigit : ∀ c ∈ padded, c.isDigit = true := by
    rw [hpadded]
    exact fun c hc => (List.mem_append.mp hc).elim (isDigit_zeros c) ((digits_toDigits _).2 c)
  have hvalue : natOfDigits padded = digits := by
    rw [hpadded, natOfDigits_append, natOfDigits_zeros, natOfDigits_toDigits, Nat.zero_mul,
      Nat.zero_add]
  have hleading : ¬(1 < (padded.take (padded.length - (k + 1))).length ∧
      (padded.take (padded.length - (k + 1))).head? = some '0') := by
    rintro ⟨hlong, hhead⟩
    rw [List.length_take] at hlong
    -- More than one digit before the point leaves no place for zeros.
    have hnone : k + 1 + 1 - (Nat.toDigits 10 digits).length = 0 := by omega
    rw [hnone, List.replicate_zero, List.nil_append] at hpadded
    rw [List.head?_take, if_neg (by omega), hpadded] at hhead
    exact h (eq_zero_of_head_toDigits hhead)
  rw [hset]
  refine ⟨⟨false, _, some (padded.drop (padded.length - (k + 1))), none⟩, rfl,
    ⟨⟨⟨?_, fun c hc => hdigit c (List.mem_of_mem_take hc)⟩, hleading, ?_⟩, [], .absent, ?_⟩, ?_⟩
  · rw [← List.length_pos_iff, List.length_take]
    omega
  · rintro _ ⟨⟩
    refine ⟨?_, fun c hc => hdigit c (List.mem_of_mem_drop hc)⟩
    rw [← List.length_pos_iff, List.length_drop]
    omega
  · simp [signText, fractionText]
  · have hplaces : (padded.drop (padded.length - (k + 1))).length = k + 1 := by
      rw [List.length_drop]
      omega
    rw [value_without_exponent, Option.getD_some, List.take_append_drop, hvalue, hplaces,
      Decimal.value, zpow_neg, zpow_natCast, div_eq_mul_inv]

theorem sets_positional {d : Decimal} {pointZero : Bool} (h : d.digits ≠ 0 ∨ d.exponent = 0) :
    Sets d (setPositional pointZero d) := by
  obtain ⟨digits, exponent⟩ := d
  dsimp only at h
  rcases Int.lt_or_le exponent 0 with hneg | hnonneg
  · obtain ⟨k, rfl⟩ : ∃ k : Nat, exponent = -(k + 1 : Nat) := ⟨(-exponent).toNat - 1, by omega⟩
    exact sets_fraction (h.resolve_right (by omega))
  · obtain ⟨k, rfl⟩ := Int.eq_ofNat_of_zero_le hnonneg
    exact sets_whole (h.imp_right (by omega))

/-- An integer behind an exponent's mark moves the point by that integer. -/
theorem exponentSpelled_toString (i : Int) : ∃ e,
    ExponentSpelled (some e) ('e' :: (toString i).toList) ∧
      ∀ negative whole fraction, (⟨negative, whole, fraction, some e⟩ : Numeral).scale =
        i - (fraction.getD []).length := by
  cases i with
  | ofNat k =>
    rw [toList_toString_ofNat]
    refine ⟨(false, Nat.toDigits 10 k), .bare (.inl rfl) (digits_toDigits k), ?_⟩
    intro negative whole fraction
    unfold scale
    dsimp only
    rw [natOfDigits_toDigits]
    rfl
  | negSucc k =>
    rw [toList_toString_negSucc]
    refine ⟨(true, Nat.toDigits 10 (k + 1)), .minus (.inl rfl) (digits_toDigits _), ?_⟩
    intro negative whole fraction
    unfold scale
    dsimp only
    rw [natOfDigits_toDigits]
    rfl

theorem sets_scientific (d : Decimal) : Sets d (setScientific d) := by
  obtain ⟨e, he, hscale⟩ := exponentSpelled_toString d.leading
  obtain ⟨hne, hdigit⟩ := digits_toDigits d.digits
  have hvalue := natOfDigits_toDigits d.digits
  have hleading : d.leading = d.exponent + (Nat.toDigits 10 d.digits).length - 1 := rfl
  unfold setScientific
  generalize Nat.toDigits 10 d.digits = ds at hne hdigit hvalue hleading ⊢
  obtain ⟨first, others, rfl⟩ := List.exists_cons_of_ne_nil hne
  have hwhole : Digits [first] := ⟨List.cons_ne_nil _ _, fun c hc => hdigit c (by simp_all)⟩
  have hshort : ¬(1 < [first].length ∧ [first].head? = some '0') := fun h => Nat.lt_irrefl 1 h.1
  cases others with
  | nil =>
    refine ⟨⟨false, [first], none, some e⟩, rfl, ⟨⟨hwhole, hshort, nofun⟩, _, he, rfl⟩, ?_⟩
    rw [Numeral.value, hscale, Decimal.value, ← hvalue, hleading]
    simp [significand]
  | cons second others =>
    refine ⟨⟨false, [first], some (second :: others), some e⟩, rfl,
      ⟨⟨hwhole, hshort, ?_⟩, _, he, ?_⟩, ?_⟩
    · rintro _ ⟨⟩
      exact ⟨List.cons_ne_nil _ _, fun c hc => hdigit c (.tail _ hc)⟩
    · simp [signText, fractionText]
    · rw [Numeral.value, hscale, Decimal.value, ← hvalue, hleading]
      have hexponent : d.exponent + (first :: second :: others).length - 1 -
          ((some (second :: others)).getD []).length = d.exponent := by
        simp only [List.length_cons, Option.getD_some]
        omega
      rw [hexponent]
      rfl

/-- **Every layout sets a decimal as a literal of its value.** -/
theorem sets_set (l : Layout) (d : Decimal) : Sets d (l.set d) := by
  have hzero (h : d.digits = 0) : (⟨0, 0⟩ : Decimal).value = d.value := by
    simp [Decimal.value, h]
  unfold set
  split
  · next h =>
    split
    · have hpositional : Sets ⟨0, 0⟩ (setPositional l.pointZero ⟨0, 0⟩) :=
        sets_positional (.inr rfl)
      obtain ⟨n, hn⟩ := hpositional
      exact ⟨n, hzero h ▸ hn⟩
    · obtain ⟨n, hn⟩ := sets_scientific ⟨0, 0⟩
      exact ⟨n, hzero h ▸ hn⟩
  · next h =>
    split
    · exact sets_positional (.inl h)
    · exact sets_scientific d

/-- A literal takes a sign in front. -/
theorem spelled_withSign {n : Numeral} {cs : List Char} (h : n.Spelled cs)
    (hsign : n.negative = false) (negative : Bool) :
    { n with negative := negative }.Spelled (signText negative ++ cs) := by
  obtain ⟨⟨hwhole, hleading, hfraction⟩, exponent, he, rfl⟩ := h
  refine ⟨⟨hwhole, hleading, hfraction⟩, exponent, he, ?_⟩
  rw [hsign]
  rfl

/-- **A finite double reads back**, whatever the layout in which it is written. -/
theorem exists_spelled_write (l : Layout) {x : Float} (h : x.isFinite = true) :
    ∃ n : Numeral, n.Spelled (l.write x).toList ∧ n.Denotes x := by
  obtain ⟨n, hsign, hspelled, hvalue⟩ := l.sets_set (Decimal.shortest x)
  have hplace := (isFinite_iff x).mp h
  have hnan : ¬x.isNaN = true := by
    rw [isNaN_iff]
    omega
  have hinf : ¬x.isInf = true := by
    rw [isInf_iff]
    omega
  have htext : (l.write x).toList = signText (isNegative x) ++ l.set (Decimal.shortest x) := by
    unfold write signText
    rw [if_neg hnan]
    dsimp only
    rw [if_neg hinf, String.toList_ofList]
  rw [htext]
  refine ⟨{ n with negative := isNegative x }, spelled_withSign hspelled hsign _, h, rfl, ?_⟩
  have hrounds := Decimal.rounds_shortest x
  rw [← hvalue] at hrounds
  exact hrounds

/-- Different finite doubles are written differently. -/
theorem write_injective {l : Layout} {x y : Float} (hx : x.isFinite = true) (hy : y.isFinite = true)
    (h : l.write x = l.write y) : x = y := by
  obtain ⟨n, hn, hnx⟩ := l.exists_spelled_write hx
  obtain ⟨m, hm, hmy⟩ := l.exists_spelled_write hy
  rw [h] at hn
  obtain rfl := hn.unique hm
  exact Option.some.inj ((toFloat?_eq_some_iff.mpr hnx).symm.trans (toFloat?_eq_some_iff.mpr hmy))

end Layout

end NonlinearFit
