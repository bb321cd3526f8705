import NonlinearFit.Matrix.Strided

/-!
# Reading and writing strided buffers

Entry `(i, j)` of a matrix in a buffer with columns `stride` apart stands at place
`j * stride + i`. Every other place is *padding* (`Matrix.Padding`): the end of a column, or
whatever lies behind the last one.

**Places.** If a buffer can hold a matrix, each entry has a place in it (`place_lt_of_fits`), and
different entries have different ones (`mod_place`, `div_place`).

**Moving.** `gather_eq_ok_iff` and `scatter_eq_ok_iff` say all that reading and writing do: an
entry is read from its place and written to its place, and padding is kept.
-/

namespace NonlinearFit

namespace Matrix

variable {rows cols stride size : Nat} {α : Type}

/-! ## Places -/

theorem mod_place {i j : Nat} (hi : i < stride) : (j * stride + i) % stride = i := by
  rw [Nat.mul_add_mod', Nat.mod_eq_of_lt hi]

theorem div_place {i j : Nat} (hi : i < stride) : (j * stride + i) / stride = j := by
  rw [Nat.mul_comm, Nat.mul_add_div (Nat.zero_lt_of_lt hi), Nat.div_eq_of_lt hi, Nat.add_zero]

/-- Whether no entry of a matrix stands at place `p`. -/
def Padding (rows cols stride p : Nat) : Prop :=
  ∀ (i : Fin rows) (j : Fin cols), p ≠ j.val * stride + i.val

theorem padding_or_place (rows cols stride p : Nat) :
    Padding rows cols stride p ∨
      ∃ (i : Fin rows) (j : Fin cols), p = j.val * stride + i.val := by
  by_cases h : ∃ (i : Fin rows) (j : Fin cols), p = j.val * stride + i.val
  · exact .inr h
  · exact .inl fun i j hp => h ⟨i, j, hp⟩

theorem padding_iff (h : rows ≤ stride) {p : Nat} :
    Padding rows cols stride p ↔ ¬(p % stride < rows ∧ p / stride < cols) := by
  constructor
  · intro hp hin
    exact hp ⟨_, hin.1⟩ ⟨_, hin.2⟩ (Nat.div_add_mod' p stride).symm
  · rintro hout i j rfl
    have hi : i.val < stride := Nat.lt_of_lt_of_le i.isLt h
    rw [mod_place hi, div_place hi] at hout
    exact hout ⟨i.isLt, j.isLt⟩

/-- The last rows of the columns are padding. -/
theorem padding_of_row_le (h : rows ≤ stride) {i j : Nat} (hrow : rows ≤ i) (hi : i < stride) :
    Padding rows cols stride (j * stride + i) := by
  rw [padding_iff h, mod_place hi]
  exact fun hin => Nat.not_lt.mpr hrow hin.1

/-! ## Reading -/

theorem exists_gather (h : fits rows cols stride size = .ok ()) (buffer : Vector α size) :
    ∃ m : Matrix rows cols α, gather rows cols stride buffer = .ok m :=
  ⟨_, gather_of_fits h buffer⟩

variable {buffer : Vector α size}

/-- **Reading** takes each entry from its place. -/
theorem gather_eq_ok_iff {m : Matrix rows cols α} :
    gather rows cols stride buffer = .ok m ↔
      fits rows cols stride size = .ok () ∧
        ∀ i j, buffer[j.val * stride + i.val]? = some (m.get i j) := by
  cases hfits : fits rows cols stride size with
  | error e =>
    rw [gather_of_error hfits]
    exact ⟨nofun, fun h => absurd h.1 nofun⟩
  | ok _ =>
    have hplace (i : Fin rows) (j : Fin cols) : buffer[j.val * stride + i.val]? =
        some (buffer.get ⟨j.val * stride + i.val, place_lt_of_fits hfits i j⟩) :=
      Vector.getElem?_eq_getElem (place_lt_of_fits hfits i j)
    rw [gather_of_fits hfits, Except.ok.injEq]
    constructor
    · rintro rfl
      refine ⟨rfl, fun i j => ?_⟩
      rw [get_ofFn]
      exact hplace i j
    · rintro ⟨-, hread⟩
      ext i j
      rw [get_ofFn]
      exact Option.some.inj ((hplace i j).symm.trans (hread i j))

/-! ## Writing -/

/-- **Writing** puts each entry at its place and keeps the padding. -/
theorem scatter_eq_ok_iff {m : Matrix rows cols α} {written : Vector α size} :
    m.scatter stride buffer = .ok written ↔
      fits rows cols stride size = .ok () ∧
        (∀ i j, written[j.val * stride + i.val]? = some (m.get i j)) ∧
        ∀ p, Padding rows cols stride p → written[p]? = buffer[p]? := by
  unfold scatter
  cases hfits : fits rows cols stride size with
  | error e => exact ⟨nofun, fun h => absurd h.1 nofun⟩
  | ok _ =>
    have hrows : rows ≤ stride := (fits_eq_ok_iff.mp hfits).2.2
    show Except.ok _ = .ok written ↔ _
    constructor
    · intro h
      cases h
      refine ⟨rfl, fun i j => ?_, fun p hp => ?_⟩
      · have hi : i.val < stride := Nat.lt_of_lt_of_le i.isLt hrows
        rw [Vector.getElem?_mapIdx, Vector.getElem?_eq_getElem (place_lt_of_fits hfits i j),
          Option.map_some]
        simp only [mod_place hi, div_place hi, i.isLt, j.isLt, and_self, dif_pos]
      · rw [Vector.getElem?_mapIdx]
        simp only [dif_neg ((padding_iff hrows).mp hp), Option.map_id']
    · rintro ⟨-, hentry, hpadding⟩
      congr 1
      refine Vector.ext fun p hp => Option.some_inj.mp ?_
      rw [Vector.getElem_mapIdx, ← Vector.getElem?_eq_getElem hp]
      by_cases hin : p % stride < rows ∧ p / stride < cols
      · rw [dif_pos hin, ← hentry ⟨_, hin.1⟩ ⟨_, hin.2⟩, Nat.div_add_mod']
      · rw [dif_neg hin, hpadding p ((padding_iff hrows).mpr hin), Vector.getElem?_eq_getElem hp]

end Matrix

end NonlinearFit
