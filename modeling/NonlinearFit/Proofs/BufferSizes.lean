import NonlinearFit.Problem.Store
import NonlinearFit.Proofs.WordSizes

/-!
# Which sizes accepted counts bound

Counts are accepted if three sizes are integers of the routine: the number of bounds and the lengths
of both workspaces. The other buffers of a problem are not looked at, and here it is settled which of
them are bounded all the same.

**Buffers.** A `Buffer` is a kind of buffer, and `Buffer.size` the number of its entries. The
inventory of a store or of a call (`Store.inventory`, `Arguments.inventory`) lists each buffer with
the entries it really has.

**Bounds.** The real workspace has room for every buffer (`Buffer.size_le_realWork`) except for two:
the linear matrix if there are linear constraints and no nonlinear ones, and the Hessian factor if
there are no general constraints at all. In these two cases the length of the real workspace does
not contain the product in question, so accepted counts can make the buffer larger than any array
(`Dimensions.unbounded_buffers`).

**Allocation.** A buffer cannot be made if it has more entries, or more bytes, than can be counted
(`SizeOverflow`). `Store.overflow?` is the first such failure among the buffers of a problem.

Main result: `Dimensions.bounded_buffers`, for any accepted counts.
-/

namespace NonlinearFit

/-! ## Buffers -/

/-- The kinds of buffers of a problem. -/
inductive Buffer where
  /-- One entry for each variable and each constraint. -/
  | bounds
  | linear
  | jacobian
  | hessian
  /-- One entry for each variable. -/
  | point
  | values
  | integerWork
  | realWork
deriving DecidableEq, Repr

/-- The number of entries of a buffer, padding included. -/
def Buffer.size (d : Dimensions) : Buffer → Nat
  | bounds => d.bounds
  | linear => d.linearRows * d.unknowns
  | jacobian => d.jacobianRows * d.unknowns
  | hessian => d.unknowns * d.unknowns
  | point => d.unknowns
  | values => d.jacobianRows
  | integerWork => d.integerWork
  | realWork => d.realWork

variable {d : Dimensions}

/-- The buffers of a store in the order in which they are made, each with the entries it has. -/
def Store.inventory (s : Store d) : List (Buffer × Nat) := [
  (.bounds, s.lower.toArray.size),
  (.bounds, s.upper.toArray.size),
  (.linear, s.linear.entries.toArray.size),
  (.linear, s.linearLent.flat.toArray.size),
  (.bounds, s.state.toArray.size),
  (.values, s.values.toArray.size),
  (.jacobian, s.jacobian.given.entries.toArray.size),
  (.jacobian, s.jacobian.lent.flat.toArray.size),
  (.jacobian, s.jacobian.received.entries.toArray.size),
  (.bounds, s.multipliers.given.toArray.size),
  (.bounds, s.multipliers.lent.toArray.size),
  (.bounds, s.multipliers.received.toArray.size),
  (.hessian, s.hessian.given.entries.toArray.size),
  (.hessian, s.hessian.lent.flat.toArray.size),
  (.hessian, s.hessian.received.entries.toArray.size),
  (.point, s.point.given.toArray.size),
  (.point, s.point.lent.toArray.size),
  (.point, s.point.received.toArray.size),
  (.point, s.gradient.toArray.size),
  (.integerWork, s.integerWork.toArray.size),
  (.realWork, s.realWork.toArray.size)]

/-- The buffers of a call, each with the entries that the routine receives. -/
def Arguments.inventory (a : Arguments d) : List (Buffer × Nat) := [
  (.linear, a.linear.toArray.size),
  (.bounds, a.lower.toArray.size),
  (.bounds, a.upper.toArray.size),
  (.bounds, a.state.toArray.size),
  (.values, a.values.toArray.size),
  (.jacobian, a.jacobian.toArray.size),
  (.bounds, a.multipliers.toArray.size),
  (.point, a.gradient.toArray.size),
  (.hessian, a.hessian.toArray.size),
  (.point, a.point.toArray.size),
  (.integerWork, a.integerWork.toArray.size),
  (.realWork, a.realWork.toArray.size)]

/-- A store has every kind of buffer, and each has the size of its kind. -/
theorem Store.mem_inventory_iff (s : Store d) {b : Buffer} {k : Nat} :
    (b, k) ∈ s.inventory ↔ k = b.size d := by
  unfold inventory
  cases b <;> simp [Buffer.size]

theorem Arguments.mem_inventory_iff (a : Arguments d) {b : Buffer} {k : Nat} :
    (b, k) ∈ a.inventory ↔ k = b.size d := by
  unfold inventory
  cases b <;> simp [Buffer.size]

/-! ## What the real workspace bounds -/

/-- The real workspace is shorter than the product of these counts may be: a linear matrix without
nonlinear constraints, or a Hessian factor without any constraints. -/
inductive Buffer.Unchecked (d : Dimensions) : Buffer → Prop
  | linear (some : d.linear ≠ 0) (none : d.nonlinear = 0) : Unchecked d .linear
  | hessian (linear : d.linear = 0) (nonlinear : d.nonlinear = 0) : Unchecked d .hessian

namespace Dimensions

variable (d : Dimensions)

/-- The length of the real workspace, by the kinds of constraints that there are. -/
theorem realWork_cases :
    (d.linear = 0 ∧ d.nonlinear = 0 ∧ d.realWork = 20 * d.unknowns) ∨
    (d.linear ≠ 0 ∧ d.nonlinear = 0 ∧
      d.realWork = 2 * (d.unknowns * d.unknowns) + 20 * d.unknowns + 11 * d.linear) ∨
    (d.nonlinear ≠ 0 ∧
      d.realWork = 2 * (d.unknowns * d.unknowns) + d.linear * d.unknowns
        + 2 * (d.nonlinear * d.unknowns) + 20 * d.unknowns + 11 * d.linear + 21 * d.nonlinear) := by
  unfold realWork NonlinearFit.realWork
  by_cases hc : d.nonlinear = 0
  · by_cases hl : d.linear = 0
    · exact .inl ⟨hl, hc, by rw [if_pos hc, if_pos hl]⟩
    · exact .inr (.inl ⟨hl, hc, by rw [if_pos hc, if_neg hl]⟩)
  · refine .inr (.inr ⟨hc, ?_⟩)
    rw [if_neg hc, Nat.mul_comm d.linear, Nat.mul_comm d.nonlinear, Nat.mul_assoc 2 d.unknowns]

/-- A matrix with a padding row in place of none. -/
theorem padded_mul (k n : Nat) : max k 1 * n = if k = 0 then n else k * n := by
  split
  · next h => rw [h, Nat.max_eq_right (Nat.zero_le 1), Nat.one_mul]
  · next h => rw [Nat.max_eq_left (Nat.pos_of_ne_zero h)]

end Dimensions

/-- **The real workspace bounds every buffer** but the unchecked ones. -/
theorem Buffer.size_le_realWork {b : Buffer} (h : ¬ b.Unchecked d) : b.size d ≤ d.realWork := by
  have hpos := d.unknowns_pos
  have hcases := d.realWork_cases
  cases b with
  | bounds =>
    show d.unknowns + d.linear + d.nonlinear ≤ d.realWork
    omega
  | linear =>
    have hchecked : ¬ (d.linear ≠ 0 ∧ d.nonlinear = 0) := fun ⟨hl, hc⟩ => h (.linear hl hc)
    show max d.linear 1 * d.unknowns ≤ d.realWork
    rw [Dimensions.padded_mul]
    split <;> omega
  | jacobian =>
    show max d.nonlinear 1 * d.unknowns ≤ d.realWork
    rw [Dimensions.padded_mul]
    split <;> omega
  | hessian =>
    have hchecked : ¬ (d.linear = 0 ∧ d.nonlinear = 0) := fun ⟨hl, hc⟩ => h (.hessian hl hc)
    show d.unknowns * d.unknowns ≤ d.realWork
    omega
  | point =>
    show d.unknowns ≤ d.realWork
    omega
  | values =>
    show max d.nonlinear 1 ≤ d.realWork
    omega
  | integerWork =>
    show 3 * d.unknowns + d.linear + 2 * d.nonlinear ≤ d.realWork
    omega
  | realWork => exact Nat.le_refl _

/-- The largest square that an integer can count. -/
theorem square_le_largest_iff {n : Nat} : n * n ≤ Integer.largest ↔ n ≤ 3037000499 := by
  unfold Integer.largest
  constructor
  · intro h
    refine Nat.le_of_not_lt fun hlarge => ?_
    have hsquare : 3037000500 * 3037000500 ≤ n * n := Nat.mul_le_mul (by omega) (by omega)
    omega
  · intro h
    exact Nat.le_trans (Nat.mul_le_mul h h) (by decide)

/-! ## Allocation -/

/-- Why a buffer cannot be made. -/
inductive SizeOverflow where
  /-- It has more entries than can be counted. -/
  | entries
  /-- Its entries take more bytes than can be counted. -/
  | bytes
deriving DecidableEq, Repr

/-- Whether a buffer of `k` entries can be made. Entries take eight bytes, be they integers or
reals. -/
def SizeOverflow.of? (k : Nat) : Option SizeOverflow :=
  if Matrix.maxExtent < k then some .entries
  else if Matrix.maxExtent < 8 * k then some .bytes
  else none

theorem SizeOverflow.of?_eq_none_iff {k : Nat} : of? k = none ↔ 8 * k ≤ Matrix.maxExtent := by
  unfold of?
  split
  · next h => exact ⟨nofun, fun hle => absurd hle (by omega)⟩
  · split
    · next h => exact ⟨nofun, fun hle => absurd hle (by omega)⟩
    · next h => exact ⟨fun _ => Nat.not_lt.mp h, fun _ => rfl⟩

/-- The first failure in making the buffers of a store. -/
def Store.overflow? (s : Store d) : Option SizeOverflow :=
  s.inventory.findSome? fun x => SizeOverflow.of? x.2

/-- **All buffers can be made** if the real workspace, the linear matrix and the Hessian factor
can. -/
theorem Store.overflow?_eq_none_iff (s : Store d) :
    s.overflow? = none ↔
      ∀ b ∈ [Buffer.realWork, .linear, .hessian], 8 * b.size d ≤ Matrix.maxExtent := by
  unfold overflow?
  rw [List.findSome?_eq_none_iff]
  constructor
  · intro h b _
    exact SizeOverflow.of?_eq_none_iff.mp (h (b, b.size d) (s.mem_inventory_iff.mpr rfl))
  · rintro h ⟨b, k⟩ hmem
    rw [s.mem_inventory_iff.mp hmem]
    refine SizeOverflow.of?_eq_none_iff.mpr ?_
    by_cases hb : b.Unchecked d
    · cases hb with
      | linear => exact h .linear (by decide)
      | hessian => exact h .hessian (by decide)
    · exact Nat.le_trans (Nat.mul_le_mul_left 8 (Buffer.size_le_realWork hb))
        (h .realWork (by decide))

namespace Dimensions

/-! ## The main result -/

/-- **Accepted counts bound every buffer but two.** Let three words be accepted:

* each buffer of a problem, and each buffer that its routine receives, has the size of its kind;
* a size is at most the length of the real workspace, and so at most `2 ^ 63 - 1`, unless the buffer
  is the linear matrix and there are linear constraints and no nonlinear ones, or it is the Hessian
  factor and there are no general constraints;
* in the first case the size is the product of the counts of linear constraints and variables; in
  the second case it is at most `2 ^ 63 - 1` exactly for up to 3037000499 variables;
* a new problem can be made if and only if the real workspace, the linear matrix and the Hessian
  factor take at most `2 ^ 63 - 1` bytes each. -/
theorem bounded_buffers {n l c : Word} {d : Dimensions} (accepted : ofCounts n l c = .ok d) :
    (∀ (s : Store d) (b : Buffer) (k : Nat), (b, k) ∈ s.inventory ↔ k = b.size d) ∧
    (∀ (a : Arguments d) (b : Buffer) (k : Nat), (b, k) ∈ a.inventory ↔ k = b.size d) ∧
    (∀ b : Buffer, b.size d ≤ d.realWork ∧ d.realWork ≤ Nat.pow 2 63 - 1 ∨
      b = .linear ∧ l ≠ 0 ∧ c = 0 ∨ b = .hessian ∧ l = 0 ∧ c = 0) ∧
    (l ≠ 0 → Buffer.linear.size d = l.toNat * n.toNat) ∧
    (Buffer.hessian.size d ≤ Nat.pow 2 63 - 1 ↔ n.toNat ≤ 3037000499) ∧
    ((Store.new d).overflow? = none ↔
      ∀ b ∈ [Buffer.realWork, .linear, .hessian], 8 * b.size d ≤ Nat.pow 2 63 - 1) := by
  obtain ⟨hn, hl, hc⟩ := counts_of_ofCounts accepted
  have zero (w : Word) : w = 0 ↔ w.toNat = 0 := by rw [← UInt64.toNat_inj]; rfl
  refine ⟨fun s b k => s.mem_inventory_iff, fun a b k => a.mem_inventory_iff, fun b => ?_,
    fun hlinear => ?_, ?_, (Store.new d).overflow?_eq_none_iff⟩
  · by_cases hb : b.Unchecked d
    · cases hb with
      | linear some none =>
        exact .inr (.inl ⟨rfl, fun e => some (hl.trans ((zero l).mp e)),
          (zero c).mpr (hc.symm.trans none)⟩)
      | hessian linear nonlinear =>
        exact .inr (.inr ⟨rfl, (zero l).mpr (hl.symm.trans linear),
          (zero c).mpr (hc.symm.trans nonlinear)⟩)
    · exact .inl ⟨Buffer.size_le_realWork hb, d.realWork_le⟩
  · show max d.linear 1 * d.unknowns = _
    rw [padded_mul, if_neg fun e => hlinear ((zero l).mpr (hl.symm.trans e)), hl, hn]
  · rw [← hn]
    exact square_le_largest_iff

/-- With one linear constraint the Hessian factor of `2 ^ 30` variables is bounded, but its entries
take too many bytes. -/
theorem bounded_buffers_square : ∃ d, ofCounts 1073741824 1 0 = .ok d ∧
    Buffer.hessian.size d ≤ d.realWork ∧ (Store.new d).overflow? ≠ none := by
  obtain ⟨d, hd⟩ : ∃ d, ofCounts 1073741824 1 0 = .ok d :=
    exists_ofCounts_iff.mpr ⟨by decide, by decide, by decide, by decide⟩
  obtain ⟨hn, -, -⟩ := counts_of_ofCounts hd
  obtain ⟨-, -, hbounded, -, -, hmade⟩ := bounded_buffers hd
  refine ⟨d, hd, ?_, fun hnone => ?_⟩
  · obtain ⟨hle, -⟩ | ⟨he, -⟩ | ⟨-, he, -⟩ := hbounded .hessian
    · exact hle
    · cases he
    · exact absurd he (by decide)
  · have hbytes : 8 * (d.unknowns * d.unknowns) ≤ Nat.pow 2 63 - 1 :=
      hmade.mp hnone .hessian (by decide)
    rw [hn] at hbytes
    exact absurd hbytes (by decide)

/-- **Accepted counts do not bound the other two.** With `2 ^ 40` variables and no constraint the
Hessian factor, and with `2 ^ 20` variables and `2 ^ 59` linear constraints the linear matrix, have
more entries than an array or an integer can count, so a problem of these sizes cannot be made. -/
theorem unbounded_buffers :
    (∃ d, ofCounts 1099511627776 0 0 = .ok d ∧ Nat.pow 2 63 - 1 < Buffer.hessian.size d ∧
      (Store.new d).overflow? ≠ none) ∧
    ∃ d, ofCounts 1048576 576460752303423488 0 = .ok d ∧
      Nat.pow 2 63 - 1 < Buffer.linear.size d ∧ (Store.new d).overflow? ≠ none := by
  have large {d : Dimensions} {b : Buffer} (hb : b ∈ [Buffer.realWork, .linear, .hessian])
      (h : Nat.pow 2 63 - 1 < b.size d) : (Store.new d).overflow? ≠ none := fun hnone => by
    have hbytes : 8 * b.size d ≤ Nat.pow 2 63 - 1 :=
      (Store.new d).overflow?_eq_none_iff.mp hnone b hb
    omega
  constructor
  · obtain ⟨d, hd⟩ : ∃ d, ofCounts 1099511627776 0 0 = .ok d :=
      exists_ofCounts_iff.mpr ⟨by decide, by decide, by decide, by decide⟩
    obtain ⟨hn, -, -⟩ := counts_of_ofCounts hd
    have hsize : Nat.pow 2 63 - 1 < Buffer.hessian.size d := by
      show Nat.pow 2 63 - 1 < d.unknowns * d.unknowns
      rw [hn]
      decide
    exact ⟨d, hd, hsize, large (by decide) hsize⟩
  · obtain ⟨d, hd⟩ : ∃ d, ofCounts 1048576 576460752303423488 0 = .ok d :=
      exists_ofCounts_iff.mpr ⟨by decide, by decide, by decide, by decide⟩
    obtain ⟨hn, hl, -⟩ := counts_of_ofCounts hd
    have hsize : Nat.pow 2 63 - 1 < Buffer.linear.size d := by
      show Nat.pow 2 63 - 1 < max d.linear 1 * d.unknowns
      rw [hn, hl]
      decide
    exact ⟨d, hd, hsize, large (by decide) hsize⟩

end Dimensions

end NonlinearFit
