import NonlinearFit.GradientDescent
import NonlinearFit.Proofs.DoubleOrder

/-!
# Projecting onto bounds

**Intervals.** A float is `Within` two bounds if it is between them or not a number. What is within
stays as it is when it is clamped (`clamp_of_within`), and what has been clamped is within
(`within_clamp`), provided that there is a number between the bounds.

**Boxes.** A box is `Valid` if this is so for each variable. Then what is projected onto it is
contained in it (`Box.contains_project`), and what it contains stays as it is when projected
(`Box.project_of_contains`). `Box.crossed?` finds the first variable with no number between its
bounds (`Box.crossed?_eq_none_iff`, `Box.crossed?_eq_some_iff`).
-/

namespace NonlinearFit

/-! ## Intervals -/

/-- The float is between the bounds, or is not a number. -/
def Within (lower upper x : Float) : Prop := x.isNaN = true ∨ lower ≤ x ∧ x ≤ upper

section

variable {lower upper x : Float}

theorem clamp_eq_self (below : ¬x < lower) (above : ¬upper < x) : clamp lower upper x = x := by
  unfold clamp
  rw [if_neg below, if_neg above]

theorem clamp_of_within (h : Within lower upper x) : clamp lower upper x = x := by
  rcases h with hx | ⟨hlower, hupper⟩
  · -- Nothing is less or greater than a NaN.
    refine clamp_eq_self (fun h => ?_) fun h => ?_
    · have hnumber := (FloatOrder.isNumber_of_lt h).1
      exact absurd (hx.symm.trans hnumber) nofun
    · have hnumber := (FloatOrder.isNumber_of_lt h).2
      exact absurd (hx.symm.trans hnumber) nofun
  · exact clamp_eq_self (FloatOrder.not_lt_of_le hlower) (FloatOrder.not_lt_of_le hupper)

/-- **A clamped float is within the bounds**, whatever it was before. -/
theorem within_clamp (h : lower ≤ upper) (x : Float) : Within lower upper (clamp lower upper x) := by
  obtain ⟨hlower, hupper⟩ := FloatOrder.isNumber_of_le h
  unfold clamp
  by_cases below : x < lower
  · rw [if_pos below, if_neg (FloatOrder.not_lt_of_le h)]
    exact .inr ⟨FloatOrder.le_refl hlower, h⟩
  · rw [if_neg below]
    by_cases above : upper < x
    · rw [if_pos above]
      exact .inr ⟨h, FloatOrder.le_refl hupper⟩
    · rw [if_neg above]
      cases hx : x.isNaN with
      | true => exact .inl hx
      | false =>
        exact .inr ⟨FloatOrder.le_of_not_lt hlower hx below, FloatOrder.le_of_not_lt hx hupper above⟩

end

/-! ## Boxes -/

namespace Box

variable {n : Nat} {b : Box n}

/-- There is a number between the bounds of each variable. -/
def Valid (b : Box n) : Prop := ∀ i : Fin n, b.lower.get i ≤ b.upper.get i

instance : Decidable b.Valid :=
  inferInstanceAs (Decidable (∀ i : Fin n, b.lower.get i ≤ b.upper.get i))

/-- Each component of the point is within the bounds of its variable, or is not a number. -/
def Contains (b : Box n) (x : Vector Float n) : Prop :=
  ∀ i : Fin n, Within (b.lower.get i) (b.upper.get i) (x.get i)

theorem get_project (x : Vector Float n) (i : Fin n) :
    (b.project x).get i = clamp (b.lower.get i) (b.upper.get i) (x.get i) :=
  Vector.getElem_ofFn i.isLt

/-- **A projected point is within the bounds.** -/
theorem contains_project (valid : b.Valid) (x : Vector Float n) : b.Contains (b.project x) := by
  intro i
  rw [get_project]
  exact within_clamp (valid i) (x.get i)

theorem project_of_contains {x : Vector Float n} (h : b.Contains x) : b.project x = x := by
  refine Vector.ext fun i hi => ?_
  rw [project, Vector.getElem_ofFn]
  exact clamp_of_within (h ⟨i, hi⟩)

theorem crossed?_eq :
    b.crossed? = (List.finRange n).find? fun i => !(b.lower.get i ≤ b.upper.get i) := rfl

theorem crossed?_eq_none_iff : b.crossed? = none ↔ b.Valid := by
  simp [crossed?_eq, Valid]

theorem crossed?_ne_some (valid : b.Valid) {i : Fin n} : b.crossed? ≠ some i := by
  rw [crossed?_eq_none_iff.mpr valid]
  nofun

theorem crossed?_eq_some_iff {i : Fin n} :
    b.crossed? = some i ↔
      ¬b.lower.get i ≤ b.upper.get i ∧ ∀ j < i, b.lower.get j ≤ b.upper.get j := by
  simp only [crossed?_eq, List.find?_eq_some_iff_getElem, List.getElem_finRange, Bool.not_eq_true',
    decide_eq_false_iff_not, Bool.not_not, decide_eq_true_iff]
  refine and_congr_right fun _ =>
    ⟨?_, fun h => ⟨i.val, by simp, rfl, fun j hj => h ⟨j, by omega⟩ hj⟩⟩
  rintro ⟨k, hk, rfl, h⟩ j hj
  exact h j.val hj

end Box

end NonlinearFit
