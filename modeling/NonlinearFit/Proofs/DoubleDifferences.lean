import NonlinearFit.Proofs.DoubleBits

/-!
# Differences of doubles

A difference of two doubles is rounded, and rounding may overflow, but packing never makes a number
into something else (`isNaN_unpack_pack`). So a difference is a number unless one of the two is not, or
both are the same infinity (`isNaN_sub_iff`). An infinity less anything is that infinity, if it is a
number at all (`sub_eq_self`).
-/

namespace NonlinearFit.Binary64

open Float.Model (Format UnpackedFloat)
open Float.Model.UnpackedFloat

/-! ## Packing -/

theorem isNaN_unpack_iff_fields (b : BitVec Format.binary64.numBits) :
    (unpack Format.binary64 b).isNaN = true ↔
      unpackExponent b = -1#_ ∧ unpackMantissa b ≠ 0#_ := by
  unfold unpack
  dsimp only
  split_ifs <;> simp_all [UnpackedFloat.isNaN]

theorem unpack_packedInfinity (s : Sign) :
    unpack Format.binary64 (packedInfinity Format.binary64 s) = .infinity s := by
  cases s <;> rfl

/-- The fields of a finite number never spell one that is not a number. -/
theorem isNaN_unpack_packComponents {s : Sign} {exponent : BitVec 11} {mantissa : BitVec 52}
    (h : exponent ≠ -1#11) :
    (unpack Format.binary64 (packComponents Format.binary64 s exponent mantissa)).isNaN = false := by
  rw [← Bool.not_eq_true, isNaN_unpack_iff_fields, unpackExponent_packComponents]
  exact fun hnan => h hnan.1

/-- **Packing keeps numbers numbers**, though it may make them infinite. -/
theorem isNaN_unpack_pack (u : UnpackedFloat) :
    (unpack Format.binary64 (pack Format.binary64 u)).isNaN = u.isNaN := by
  cases u with
  | notANumber => exact congrArg UnpackedFloat.isNaN unpack_packedNaN
  | infinity s => exact congrArg UnpackedFloat.isNaN (unpack_packedInfinity s)
  | zero s => exact congrArg UnpackedFloat.isNaN unpack_packedZero
  | finite s m e =>
    unfold pack
    dsimp only
    split
    · rw [unpack_packedInfinity]
      rfl
    · next hlarge =>
      split
      · refine isNaN_unpack_packComponents fun h => ?_
        have hexponent := congrArg BitVec.toNat h
        rw [BitVec.toNat_ofNat, show (-1#11).toNat = 2047 from rfl] at hexponent
        have hsize : (2 : Nat) ^ Format.binary64.exponentBits = 2048 := rfl
        omega
      · exact isNaN_unpack_packComponents (by decide)

/-! ## Subtracting -/

theorem isNaN_normalize (m e : Int) (s : Sign) :
    (UnpackedFloat.normalize Format.binary64 m e s).isNaN = false := by
  have hround (s : Sign) (m : Nat) (e : Int) :
      (UnpackedFloat.round Format.binary64 s m e).isNaN = false := by
    unfold UnpackedFloat.round roundWithAccuracy
    dsimp only
    split <;> rfl
  unfold UnpackedFloat.normalize
  split
  · exact hround ..
  · rfl
  · exact hround ..

theorem isNaN_infinity_sub_iff {s : Sign} {b : UnpackedFloat} :
    (sub Format.binary64 (.infinity s) b).isNaN = true ↔ b.isNaN = true ∨ .infinity s = b := by
  cases b with
  | notANumber => exact iff_of_true rfl (.inl rfl)
  | infinity s' =>
    cases s <;> cases s'
    · exact iff_of_true rfl (.inr rfl)
    · exact iff_of_false nofun (by rintro (h | h) <;> cases h)
    · exact iff_of_false nofun (by rintro (h | h) <;> cases h)
    · exact iff_of_true rfl (.inr rfl)
  | zero | finite => exact iff_of_false nofun (by rintro (h | h) <;> cases h)

/-- From something finite only what is not a number leads out of the numbers. -/
theorem isNaN_finite_sub {a b : UnpackedFloat} (finite : a.isFinite = true) :
    (sub Format.binary64 a b).isNaN = b.isNaN := by
  cases a with
  | notANumber | infinity => cases finite
  | zero s =>
    cases b with
    | zero s' => cases s <;> cases s' <;> rfl
    | notANumber | infinity | finite => rfl
  | finite s =>
    cases b with
    | finite s' => exact isNaN_normalize ..
    | notANumber | infinity | zero => rfl

theorem unpacked_isNaN_sub_iff (a b : UnpackedFloat) :
    (sub Format.binary64 a b).isNaN = true ↔
      a.isNaN = true ∨ b.isNaN = true ∨ a.isInf = true ∧ a = b := by
  cases a with
  | notANumber => exact iff_of_true rfl (.inl rfl)
  | infinity s =>
    rw [isNaN_infinity_sub_iff]
    simp [UnpackedFloat.isNaN, UnpackedFloat.isInf]
  | zero | finite =>
    rw [isNaN_finite_sub rfl]
    simp [UnpackedFloat.isNaN, UnpackedFloat.isInf]

/-- An infinity stays as it is if a number comes out. -/
theorem unpacked_infinity_sub {s : Sign} {b : UnpackedFloat}
    (number : (sub Format.binary64 (.infinity s) b).isNaN = false) :
    sub Format.binary64 (.infinity s) b = .infinity s := by
  cases b with
  | notANumber => cases number
  | zero | finite => rfl
  | infinity s' =>
    cases s <;> cases s'
    · cases number
    · rfl
    · rfl
    · cases number

/-! ## Differences of doubles -/

variable {x y : Float}

theorem eq_of_unpack (h : x.toModel.unpack = y.toModel.unpack) : x = y :=
  Float.toBits_inj.mp (UInt64.toBitVec_inj.mp
    ((unpack_inj_of_valid x.toModel.valid y.toModel.valid).mp h))

theorem isNaN_sub (x y : Float) :
    (x - y).isNaN = (sub Format.binary64 x.toModel.unpack y.toModel.unpack).isNaN :=
  isNaN_unpack_pack _

/-- **A difference is a number** unless one of the two is not, or both are the same infinity. -/
theorem isNaN_sub_iff :
    (x - y).isNaN = true ↔ x.isNaN = true ∨ y.isNaN = true ∨ x.isInf = true ∧ x = y := by
  have hsame : x = y ↔ x.toModel.unpack = y.toModel.unpack :=
    ⟨fun h => congrArg (fun z : Float => z.toModel.unpack) h, eq_of_unpack⟩
  rw [isNaN_sub, unpacked_isNaN_sub_iff, hsame]
  rfl

/-- **An infinity less anything is that infinity**, if it is a number. -/
theorem sub_eq_self (infinite : x.isInf = true) (number : (x - y).isNaN = false) : x - y = x := by
  have hinfinite : x.toModel.unpack.isInf = true := infinite
  rw [isNaN_sub] at number
  refine eq_of_unpack ?_
  show unpack Format.binary64 (pack Format.binary64
    (sub Format.binary64 x.toModel.unpack y.toModel.unpack)) = x.toModel.unpack
  generalize x.toModel.unpack = a at hinfinite number ⊢
  cases a with
  | infinity s =>
    rw [unpacked_infinity_sub number]
    exact unpack_packedInfinity s
  | notANumber | zero | finite => cases hinfinite

theorem isNaN_abs (x : Float) : x.abs.isNaN = x.isNaN := by
  have hpack : x.abs.isNaN = x.toModel.unpack.abs.isNaN := isNaN_unpack_pack _
  rw [hpack]
  show x.toModel.unpack.abs.isNaN = x.toModel.unpack.isNaN
  cases x.toModel.unpack <;> rfl

theorem isFinite_eq_false_iff : x.isFinite = false ↔ x.isNaN = true ∨ x.isInf = true := by
  show x.toModel.unpack.isFinite = false ↔
    x.toModel.unpack.isNaN = true ∨ x.toModel.unpack.isInf = true
  cases x.toModel.unpack <;>
    simp [UnpackedFloat.isFinite, UnpackedFloat.isNaN, UnpackedFloat.isInf]

end NonlinearFit.Binary64
