/-!
# Machine words and the routine's integers

Counts arrive as unsigned 64-bit words and leave for the routine as signed integers.

**Checked arithmetic.** `Word.add?` and `Word.mul?` are defined exactly when the true sum or
product is again a word; `add?_eq_some_iff` and `mul?_eq_some_iff` say so. A longer computation is
exact in this sense (`Word.Computes`) when no intermediate result exceeds the final one
(`Word.Computes.bind`).

**Integers.** `Integer.largest` bounds what the routine can count. `Integer.ofCount` stops at that
bound, so it is exact on every count up to it (`toInt_ofCount`).
-/

namespace NonlinearFit

/-- An unsigned machine word. -/
abbrev Word := UInt64

namespace Word

/-- The sum of two words, if it is a word. -/
def add? (a b : Word) : Option Word :=
  if a.toNat + b.toNat < UInt64.size then some (a + b) else none

/-- The product of two words, if it is a word. -/
def mul? (a b : Word) : Option Word :=
  if a.toNat * b.toNat < UInt64.size then some (a * b) else none

theorem add?_eq_some_iff {a b c : Word} : add? a b = some c ↔ a.toNat + b.toNat = c.toNat := by
  unfold add?
  split
  · next h => rw [Option.some_inj, ← UInt64.toNat_inj, UInt64.toNat_add, Nat.mod_eq_of_lt h]
  · next h => exact ⟨nofun, fun e => absurd (e ▸ c.toNat_lt_size) h⟩

theorem mul?_eq_some_iff {a b c : Word} : mul? a b = some c ↔ a.toNat * b.toNat = c.toNat := by
  unfold mul?
  split
  · next h => rw [Option.some_inj, ← UInt64.toNat_inj, UInt64.toNat_mul, Nat.mod_eq_of_lt h]
  · next h => exact ⟨nofun, fun e => absurd (e ▸ c.toNat_lt_size) h⟩

theorem exists_toNat_eq {k : Nat} (h : k < UInt64.size) : ∃ w : Word, k = w.toNat :=
  ⟨UInt64.ofNat k, (UInt64.toNat_ofNat_of_lt' h).symm⟩

/-- A checked computation gives the number `k`, and fails exactly if `k` is not a word. -/
def Computes (x : Option Word) (k : Nat) : Prop := ∀ w : Word, x = some w ↔ k = w.toNat

theorem computes_some (w : Word) : Computes (some w) w.toNat := fun v => by
  rw [Option.some_inj, UInt64.toNat_inj]

theorem computes_add (a b : Word) : Computes (a.add? b) (a.toNat + b.toNat) :=
  fun _ => add?_eq_some_iff

theorem computes_mul (a b : Word) : Computes (a.mul? b) (a.toNat * b.toNat) :=
  fun _ => mul?_eq_some_iff

/-- **A step whose result the final one bounds** fails only if the whole computation has to. -/
theorem Computes.bind {x : Option Word} {f : Word → Option Word} {a k : Nat} (hx : Computes x a)
    (le : a ≤ k) (hf : ∀ v : Word, v.toNat = a → Computes (f v) k) : Computes (x >>= f) k := by
  intro w
  rw [Option.bind_eq_bind, Option.bind_eq_some_iff]
  constructor
  · rintro ⟨v, hv, hw⟩
    exact (hf v ((hx v).mp hv).symm w).mp hw
  · intro hw
    obtain ⟨v, hv⟩ := exists_toNat_eq (Nat.lt_of_le_of_lt (hw ▸ le) w.toNat_lt_size)
    exact ⟨v, (hx v).mpr hv, (hf v hv.symm w).mpr hw⟩

end Word

/-- An integer as the routine stores it. -/
abbrev Integer := Int64

namespace Integer

/-- The largest integer the routine can hold, `2 ^ 63 - 1`. -/
def largest : Nat := 9223372036854775807

/-- A count as an integer; counts past the largest integer become the largest integer. -/
def ofCount (k : Nat) : Integer := Int64.ofNat (min k largest)

/-- An integer as a count; negative ones count nothing. -/
def toCount (i : Integer) : Nat := i.toInt.toNat

theorem toInt_ofCount {k : Nat} (h : k ≤ largest) : (ofCount k).toInt = k := by
  unfold ofCount
  rw [Nat.min_eq_left h]
  exact Int64.toInt_ofNat_of_lt (by unfold largest at h; omega)

theorem toCount_ofCount {k : Nat} (h : k ≤ largest) : toCount (ofCount k) = k := by
  unfold toCount
  rw [toInt_ofCount h, Int.toNat_natCast]

end Integer

end NonlinearFit
