import NonlinearFit.Binary64
import Mathlib

/-!
# Doubles by their bits

The bits of a double below its sign count the non-negative doubles from zero on: this count is the
double's *place*, infinity has the place behind the largest double (`infinityPlace`) and what lies
behind infinity is not a number. A double that is a number is its sign and its place
(`signed_isNegative`), so two doubles with the same sign and place are the same.
-/

namespace NonlinearFit.Binary64

/-- The place of infinity, the first one that is no finite double's. -/
def infinityPlace : Nat := 0x7ff0000000000000

theorem infinityPlace_lt : infinityPlace < 2 ^ 63 := by decide

theorem min_infinityPlace_lt (b : Nat) : min b infinityPlace < 2 ^ 63 :=
  Nat.lt_of_le_of_lt (Nat.min_le_right ..) infinityPlace_lt

/-- The double at a place, infinity for all places that are no finite double's. -/
def ofPlace (b : Nat) : Float := Float.ofBits (UInt64.ofNat (min b infinityPlace))

/-- The double with the given sign at a place. -/
def signed (negative : Bool) (b : Nat) : Float := if negative then -ofPlace b else ofPlace b

/-! ## Fields of the bits -/

section Bits

open Float.Model (Format)
open Float.Model.UnpackedFloat

variable (b : BitVec 64)

theorem toNat_unpackExponent :
    (@unpackExponent Format.binary64 b).toNat = b.toNat / 2 ^ 52 % 2 ^ 11 := by
  rw [unpackExponent_def, BitVec.extractLsb'_toNat, Nat.shiftRight_eq_div_pow]

theorem toNat_unpackMantissa :
    (@unpackMantissa Format.binary64 b).toNat = b.toNat % 2 ^ 52 := by
  rw [unpackMantissa_def, BitVec.extractLsb'_toNat, Nat.shiftRight_zero]

theorem toNat_unpackSign :
    (@unpackSign Format.binary64 b).toNat = b.toNat / 2 ^ 63 % 2 := by
  rw [unpackSign_def, BitVec.extractLsb'_toNat, Nat.shiftRight_eq_div_pow]
  rfl

theorem unpackExponent_eq_top_iff :
    @unpackExponent Format.binary64 b = -1#11 ↔ infinityPlace ≤ b.toNat % 2 ^ 63 := by
  have htop : (-1#11).toNat = 2047 := rfl
  rw [← BitVec.toNat_inj, toNat_unpackExponent, htop]
  unfold infinityPlace
  omega

theorem infinity_iff :
    @unpackExponent Format.binary64 b = -1#11 ∧
      @unpackMantissa Format.binary64 b = 0#52 ↔ b.toNat % 2 ^ 63 = infinityPlace := by
  have hzero : (0#52).toNat = 0 := rfl
  rw [unpackExponent_eq_top_iff, ← BitVec.toNat_inj, toNat_unpackMantissa, hzero]
  unfold infinityPlace
  omega

theorem isNaNBits_iff :
    @isNaNBits Format.binary64 b ↔ infinityPlace < b.toNat % 2 ^ 63 := by
  have hinf := infinity_iff b
  have htop := unpackExponent_eq_top_iff b
  simp only [isNaNBits, decide_eq_true_eq]
  grind

theorem isFinite_unpack_iff :
    (unpack Format.binary64 b).isFinite = true ↔ b.toNat % 2 ^ 63 < infinityPlace := by
  rw [← Nat.not_le, ← unpackExponent_eq_top_iff]
  unfold unpack
  dsimp only
  split_ifs <;> simp_all [isFinite]

theorem isInf_unpack_iff :
    (unpack Format.binary64 b).isInf = true ↔ b.toNat % 2 ^ 63 = infinityPlace := by
  rw [← infinity_iff]
  unfold unpack
  dsimp only
  split_ifs <;> simp_all [isInf]

theorem isNaN_unpack_iff :
    (unpack Format.binary64 b).isNaN = true ↔ infinityPlace < b.toNat % 2 ^ 63 := by
  rw [← isNaNBits_iff]
  unfold isNaNBits unpack
  dsimp only
  split_ifs <;> simp_all [isNaN]

/-- The bits with the sign bit set are those of the negated number. -/
theorem neg_unpack {c : BitVec 64} (hb : b.toNat < 2 ^ 63) (hc : c.toNat = b.toNat + 2 ^ 63) :
    (unpack Format.binary64 b).neg = unpack Format.binary64 c := by
  have hexponent :
      @unpackExponent Format.binary64 c = @unpackExponent Format.binary64 b := by
    rw [← BitVec.toNat_inj, toNat_unpackExponent, toNat_unpackExponent]
    omega
  have hmantissa :
      @unpackMantissa Format.binary64 c = @unpackMantissa Format.binary64 b := by
    rw [← BitVec.toNat_inj, toNat_unpackMantissa, toNat_unpackMantissa]
    omega
  have hsign : @unpackSign Format.binary64 b = 0#1 := by
    rw [← BitVec.toNat_inj, toNat_unpackSign]
    show _ = 0
    omega
  have hsign' : @unpackSign Format.binary64 c = 1#1 := by
    rw [← BitVec.toNat_inj, toNat_unpackSign]
    show _ = 1
    omega
  unfold unpack
  simp only [hexponent, hmantissa, hsign, hsign']
  split_ifs <;> rfl

end Bits

/-! ## Doubles and their places -/

theorem toBits_ofBits {u : UInt64} (h : u.toNat % 2 ^ 63 ≤ infinityPlace) :
    (Float.ofBits u).toBits = u := by
  have hpack := @Float.Model.UnpackedFloat.pack_unpack .binary64 u.toBitVec (by decide)
  rw [if_neg fun hnan => absurd ((isNaNBits_iff _).mp hnan) (Nat.not_lt.mpr h)] at hpack
  exact UInt64.toBitVec_inj.mp hpack

theorem isFinite_iff (x : Float) : x.isFinite = true ↔ magnitudeBits x < infinityPlace :=
  isFinite_unpack_iff x.toBits.toBitVec

theorem isInf_iff (x : Float) : x.isInf = true ↔ magnitudeBits x = infinityPlace :=
  isInf_unpack_iff x.toBits.toBitVec

theorem isNaN_iff (x : Float) : x.isNaN = true ↔ infinityPlace < magnitudeBits x :=
  isNaN_unpack_iff x.toBits.toBitVec

theorem toBits_neg {x : Float} {u : UInt64} (hfinite : x.toBits.toNat ≤ infinityPlace)
    (hu : u.toNat = x.toBits.toNat + 2 ^ 63) : (-x).toBits = u := by
  have hsize := infinityPlace_lt
  have hpack := @Float.Model.UnpackedFloat.pack_unpack .binary64 u.toBitVec (by decide)
  have hneg := neg_unpack x.toBits.toBitVec (Nat.lt_of_le_of_lt hfinite hsize) hu
  rw [if_neg fun hnan => absurd ((isNaNBits_iff _).mp hnan) ?_, ← hneg] at hpack
  · exact UInt64.toBitVec_inj.mp hpack
  · show ¬_ < u.toNat % _
    omega

theorem toNat_toBits_ofPlace (b : Nat) : (ofPlace b).toBits.toNat = min b infinityPlace := by
  have hlt := min_infinityPlace_lt b
  have hnat : (UInt64.ofNat (min b infinityPlace)).toNat = min b infinityPlace :=
    UInt64.toNat_ofNat_of_lt' (by unfold UInt64.size; omega)
  unfold ofPlace
  rw [toBits_ofBits, hnat]
  rw [hnat, Nat.mod_eq_of_lt hlt]
  exact Nat.min_le_right ..

theorem toNat_toBits_signed (negative : Bool) (b : Nat) :
    (signed negative b).toBits.toNat = min b infinityPlace + if negative then 2 ^ 63 else 0 := by
  have hlt := min_infinityPlace_lt b
  have hplace := toNat_toBits_ofPlace b
  cases negative with
  | false => exact hplace
  | true =>
    have hnat :
        (UInt64.ofNat (min b infinityPlace + 2 ^ 63)).toNat = min b infinityPlace + 2 ^ 63 :=
      UInt64.toNat_ofNat_of_lt' (by unfold UInt64.size; omega)
    show (-ofPlace b).toBits.toNat = _
    rw [toBits_neg (hplace ▸ Nat.min_le_right ..) (hnat.trans (by rw [hplace])), hnat]
    rfl

theorem magnitudeBits_signed (negative : Bool) (b : Nat) :
    magnitudeBits (signed negative b) = min b infinityPlace := by
  have hlt := min_infinityPlace_lt b
  unfold magnitudeBits
  rw [toNat_toBits_signed, Nat.pow_eq]
  split <;> omega

theorem isNegative_signed (negative : Bool) (b : Nat) :
    isNegative (signed negative b) = negative := by
  have hlt := min_infinityPlace_lt b
  unfold isNegative
  rw [toNat_toBits_signed, Nat.pow_eq]
  cases negative with
  | false => exact decide_eq_false (Nat.not_le.mpr hlt)
  | true => exact decide_eq_true (Nat.le_add_left ..)

/-- **A double that is a number is its sign and its place.** -/
theorem signed_isNegative {x : Float} (h : magnitudeBits x ≤ infinityPlace) :
    signed (isNegative x) (magnitudeBits x) = x := by
  rw [← Float.toBits_inj, ← UInt64.toNat_inj, toNat_toBits_signed, Nat.min_eq_left h]
  have := x.toBits.toNat_lt
  unfold isNegative magnitudeBits
  simp only [Nat.pow_eq, decide_eq_true_eq]
  split <;> omega

end NonlinearFit.Binary64
