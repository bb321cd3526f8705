import NonlinearFit.Binary64

/-!
# The order of doubles

Every double that is a number has a `Rank`, and two of them compare as their ranks do
(`unpacked_compare_eq`). So two doubles compare as less, equal or greater, unless one of them is not a
number, and then `<` and `≤` both fail (`compare_eq_none_iff`). Comparing the other way round gives the
opposite (`compare_swap`). So among numbers `≤` is what `<` the other way round is not (`not_lt_of_le`,
`le_of_not_lt`), and it is transitive (`le_trans`).
-/

namespace NonlinearFit.FloatOrder

open Float.Model (UnpackedFloat)

/-! ## Ranks -/

/-- Where a number stands: on which side of zero, infinities apart, and then by its exponent and its
mantissa, which count downwards below zero. -/
structure Rank where
  side : Int
  exponent : Int
  mantissa : Int

namespace Rank

/-- Compares sides, then exponents, then mantissas. -/
def compare (r r' : Rank) : Ordering :=
  (Ord.compare r.side r'.side).then
    ((Ord.compare r.exponent r'.exponent).then (Ord.compare r.mantissa r'.mantissa))

theorem compare_swap (r r' : Rank) : r'.compare r = (r.compare r').swap := by
  have hswap (i j : Int) : Ord.compare j i = (Ord.compare i j).swap := Std.OrientedOrd.eq_swap
  simp only [compare, hswap r.side, hswap r.exponent, hswap r.mantissa, Ordering.swap_then]

theorem isLE_compare_iff (r r' : Rank) :
    (r.compare r').isLE = true ↔
      r.side < r'.side ∨ r.side = r'.side ∧
        (r.exponent < r'.exponent ∨ r.exponent = r'.exponent ∧ r.mantissa ≤ r'.mantissa) := by
  simp only [compare, Ordering.isLE_then_iff_or, Std.isLE_compare, Std.compare_eq_lt,
    Std.compare_eq_iff_eq]

theorem isLE_compare_trans {r s u : Rank} (h : (r.compare s).isLE = true)
    (h' : (s.compare u).isLE = true) : (r.compare u).isLE = true := by
  rw [isLE_compare_iff] at *
  omega

end Rank

/-- The rank of an unpacked double, if it is a number. -/
def rank? : UnpackedFloat → Option Rank
  | .notANumber => none
  | .infinity .negative => some ⟨-2, 0, 0⟩
  | .finite .negative m e _ => some ⟨-1, -e, -m⟩
  | .zero _ => some ⟨0, 0, 0⟩
  | .finite .positive m e _ => some ⟨1, e, m⟩
  | .infinity .positive => some ⟨2, 0, 0⟩

theorem rank?_eq_none_iff (a : UnpackedFloat) : rank? a = none ↔ a.isNaN = true := by
  cases a with
  | notANumber => exact ⟨fun _ => rfl, fun _ => rfl⟩
  | zero => exact ⟨nofun, nofun⟩
  | infinity s | finite s => cases s <;> exact ⟨nofun, nofun⟩

theorem compare_neg (i j : Int) : compare (-i) (-j) = (compare i j).swap := by
  rcases Int.lt_trichotomy i j with h | rfl | h
  · rw [Std.compare_eq_lt.mpr h, Std.compare_eq_gt.mpr (Int.neg_lt_neg h)]
    rfl
  · simp
  · rw [Std.compare_eq_gt.mpr h, Std.compare_eq_lt.mpr (Int.neg_lt_neg h)]
    rfl

theorem compare_natCast (m n : Nat) : compare (m : Int) (n : Int) = compare m n := by
  rcases Nat.lt_trichotomy m n with h | rfl | h
  · rw [Std.compare_eq_lt.mpr h, Std.compare_eq_lt.mpr (Int.ofNat_lt.mpr h)]
  · simp
  · rw [Std.compare_eq_gt.mpr h, Std.compare_eq_gt.mpr (Int.ofNat_lt.mpr h)]

/-! ## Comparing -/

/-- **Doubles compare as their ranks do.** -/
theorem unpacked_compare_eq (a b : UnpackedFloat) :
    a.compare b = (rank? a).bind fun r => (rank? b).map r.compare := by
  cases a with
  | notANumber => cases b <;> rfl
  | infinity s =>
    cases b with
    | notANumber | zero => cases s <;> rfl
    | infinity s' | finite s' => cases s <;> cases s' <;> rfl
  | zero s =>
    cases b with
    | notANumber | zero => rfl
    | infinity s' | finite s' => cases s' <;> rfl
  | finite s m e =>
    cases b with
    | notANumber | zero => cases s <;> rfl
    | infinity s' => cases s <;> cases s' <;> rfl
    | finite s' m' e' =>
      cases s with
      | positive =>
        cases s' with
        | positive =>
          show some ((compare e e').then (compare m m')) =
            some ((compare e e').then (compare (m : Int) m'))
          rw [compare_natCast]
        | negative => rfl
      | negative =>
        cases s' with
        | positive => rfl
        | negative =>
          -- Of two negative numbers the one with the greater size is less.
          show some ((compare e e').then (compare m m')).swap =
            some ((compare (-e) (-e')).then (compare (-m : Int) (-m')))
          rw [compare_neg, compare_neg, compare_natCast, Ordering.swap_then]

theorem unpacked_compare_swap (a b : UnpackedFloat) :
    b.compare a = (a.compare b).map Ordering.swap := by
  rw [unpacked_compare_eq, unpacked_compare_eq]
  cases rank? a with
  | none => cases rank? b <;> rfl
  | some r =>
    cases rank? b with
    | none => rfl
    | some r' => exact congrArg some (r.compare_swap r')

theorem unpacked_compare_eq_none_iff (a b : UnpackedFloat) :
    a.compare b = none ↔ a.isNaN = true ∨ b.isNaN = true := by
  rw [unpacked_compare_eq, ← rank?_eq_none_iff, ← rank?_eq_none_iff]
  cases rank? a <;> cases rank? b <;> simp

/-- How two doubles compare, if both are numbers. -/
def compare? (x y : Float) : Option Ordering := x.toModel.unpack.compare y.toModel.unpack

theorem compare_swap (x y : Float) : compare? y x = (compare? x y).map Ordering.swap :=
  unpacked_compare_swap _ _

theorem compare_eq_none_iff (x y : Float) :
    compare? x y = none ↔ x.isNaN = true ∨ y.isNaN = true :=
  unpacked_compare_eq_none_iff _ _

theorem lt_iff (x y : Float) : x < y ↔ compare? x y = some .lt := by
  show decide ((compare? x y == some .lt) = true) = true ↔ _
  rw [decide_eq_true_iff, beq_iff_eq]

theorem le_iff (x y : Float) : x ≤ y ↔ compare? x y = some .lt ∨ compare? x y = some .eq := by
  show decide ((compare? x y).any (·.isLE) = true) = true ↔ _
  rw [decide_eq_true_iff]
  rcases compare? x y with _ | _ | _ | _ <;> simp

/-! ## Less and at most -/

variable {x y : Float}

theorem lt_irrefl (x : Float) : ¬x < x := by
  intro h
  have hswap := compare_swap x x
  rw [(lt_iff x x).mp h] at hswap
  cases hswap

theorem isNumber_of_le (h : x ≤ y) : x.isNaN = false ∧ y.isNaN = false := by
  have hsome : compare? x y ≠ none := by
    intro hnone
    rw [le_iff, hnone] at h
    simp at h
  simpa [compare_eq_none_iff] using hsome

theorem not_lt_of_le (h : x ≤ y) : ¬y < x := by
  intro hlt
  rw [lt_iff, compare_swap] at hlt
  rcases (le_iff x y).mp h with h | h <;> rw [h] at hlt <;> cases hlt

/-- **Numbers are in order one way or the other.** -/
theorem le_of_not_lt (hx : x.isNaN = false) (hy : y.isNaN = false) (h : ¬y < x) : x ≤ y := by
  have hsome : compare? x y ≠ none := by
    rw [ne_eq, compare_eq_none_iff, hx, hy]
    decide
  rw [lt_iff, compare_swap] at h
  rw [le_iff]
  generalize compare? x y = o at hsome h
  rcases o with _ | _ | _ | _ <;> simp_all

theorem le_refl (hx : x.isNaN = false) : x ≤ x := le_of_not_lt hx hx (lt_irrefl x)

theorem le_of_lt (h : x < y) : x ≤ y := (le_iff x y).mpr (.inl ((lt_iff x y).mp h))

theorem isNumber_of_lt (h : x < y) : x.isNaN = false ∧ y.isNaN = false :=
  isNumber_of_le (le_of_lt h)

theorem le_iff_exists_rank :
    x ≤ y ↔ ∃ r s, rank? x.toModel.unpack = some r ∧ rank? y.toModel.unpack = some s ∧
      (r.compare s).isLE = true := by
  rw [le_iff, compare?, unpacked_compare_eq]
  cases rank? x.toModel.unpack <;> cases rank? y.toModel.unpack <;>
    simp [Ordering.isLE_iff_eq_lt_or_eq_eq]

/-- **At most is transitive.** -/
theorem le_trans {z : Float} (hxy : x ≤ y) (hyz : y ≤ z) : x ≤ z := by
  obtain ⟨r, s, hr, hs, hrs⟩ := le_iff_exists_rank.mp hxy
  obtain ⟨s', u, hs', hu, hsu⟩ := le_iff_exists_rank.mp hyz
  obtain rfl : s = s' := Option.some.inj (hs.symm.trans hs')
  exact le_iff_exists_rank.mpr ⟨r, u, hr, hu, Rank.isLE_compare_trans hrs hsu⟩

end NonlinearFit.FloatOrder
