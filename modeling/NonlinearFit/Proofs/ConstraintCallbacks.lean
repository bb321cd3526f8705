import NonlinearFit.Proofs.FirstPanic
import NonlinearFit.Proofs.Recording
import NonlinearFit.Proofs.StridedMatrix

/-!
# Constraint callbacks that are served

A constraint callback brings its Jacobian in a buffer with columns `stride` apart. The evaluator
sees it as a matrix and leaves one, which goes back into the same buffer.

**In order.** `ConstraintCall.Serviceable` says what a routine has to keep to: it calls on a thread
with a solve in flight, with the problem's counts, and its buffers are long enough. Whatever
earlier callbacks left in the service's matrix, the Jacobian of such a callback can be read
(`gather_of_serviceable`).

**There and back.** The request shows the evaluator what the callback passed
(`ConstraintRequest.Asks`); the return shows the routine what the evaluator left
(`ConstraintReturn.Reports`), and padding is kept. `Serving.Served` puts both together with the one
request that reaches the evaluator.

Main result: `constraints_served`, for every callback of every solve.
-/

namespace NonlinearFit

variable {ω : Type} {d : Dimensions} {ε ρ : Type}

/-! ## Buffers longer than needed -/

theorem getElem?_overwrite_of_lt {α : Type} {buffer : Array α} {k : Nat} (front : Vector α k)
    (hk : k ≤ buffer.size) {p : Nat} (hp : p < k) : (overwrite buffer front)[p]? = front[p]? := by
  have hsize : p < buffer.size := Nat.lt_of_lt_of_le hp hk
  simp [overwrite, hp, hsize]

theorem getElem?_overwrite_of_le {α : Type} {buffer : Array α} {k : Nat} (front : Vector α k)
    {p : Nat} (hp : k ≤ p) : (overwrite buffer front)[p]? = buffer[p]? := by
  unfold overwrite
  rw [Vector.getElem?_ofFn]
  split
  · next hsize => simp [Nat.not_lt.mpr hp, hsize]
  · next hsize => simp [hsize]

/-! ## What a routine has to keep to -/

/-- The call comes in on a thread that gate `g` serves, counts the constraints and variables of a
problem with dimensions `d`, and its buffers hold at least as many entries as it says. No buffer
is longer than an array can be. -/
structure ConstraintCall.Serviceable (c : ConstraintCall) (g : Gate Thread) (d : Dimensions) :
    Prop where
  active : (g.serving c.thread).isSome
  nonlinear : c.nonlinear.toCount = d.nonlinear
  unknowns : c.unknowns.toCount = d.unknowns
  rows_le : d.nonlinear ≤ c.stride.toCount
  needed : d.nonlinear ≤ c.needed.size
  values : d.nonlinear ≤ c.values.size
  point : d.unknowns ≤ c.point.size
  jacobian : c.stride.toCount * d.unknowns ≤ c.jacobian.size
  addressable : c.jacobian.size ≤ Matrix.maxExtent

/-- The request shows what the call passed: modes, flags, point and values as they are, and entry
`(i, j)` of the Jacobian from place `j * stride + i`. -/
structure ConstraintRequest.Asks (r : ConstraintRequest) (c : ConstraintCall) : Prop where
  mode : r.mode = c.mode
  nstate : r.nstate = c.nstate
  needed : r.needed = c.needed.take r.rows
  point : r.point = c.point.take r.cols
  values : r.values = c.values.take r.rows
  jacobian : ∀ i j, c.jacobian[j.val * c.stride.toCount + i.val]? = some (r.jacobian.get i j)

/-- The callback returned `status` and what the evaluator left in `o`: mode and values as they are,
and entry `(i, j)` of the Jacobian at place `j * stride + i`. All other places are as they were
passed. -/
structure ConstraintReturn.Reports {c : ConstraintCall} (r : ConstraintReturn c)
    {q : ConstraintRequest} (o : ConstraintOutput q) (status : Integer) : Prop where
  status : r.status = status
  mode : r.mode = o.mode
  values : ∀ i < q.values.size, r.values[i]? = o.values[i]?
  other_values : ∀ i, q.values.size ≤ i → r.values[i]? = c.values[i]?
  jacobian : ∀ i j, r.jacobian[j.val * c.stride.toCount + i.val]? = some (o.jacobian.get i j)
  padding : ∀ p, Matrix.Padding q.rows q.cols c.stride.toCount p → r.jacobian[p]? = c.jacobian[p]?

/-- An evaluator that leaves the Jacobian as it was leaves the routine's buffer as it was. -/
theorem ConstraintReturn.Reports.jacobian_eq {c : ConstraintCall} {r : ConstraintReturn c}
    {q : ConstraintRequest} {o : ConstraintOutput q} {status : Integer} (h : r.Reports o status)
    (asks : q.Asks c) (kept : o.jacobian = q.jacobian) : r.jacobian.toArray = c.jacobian := by
  refine Array.ext_getElem? fun p => ?_
  rw [Vector.getElem?_toArray]
  rcases Matrix.padding_or_place q.rows q.cols c.stride.toCount p with hp | ⟨i, j, rfl⟩
  · exact h.padding p hp
  · rw [h.jacobian, asks.jacobian, kept]

namespace Serving

/-! ## The Jacobian there -/

section

variable {c : ConstraintCall}

theorem getElem?_jacobianBuffer {p : Nat} (hp : p < c.stride.toCount * c.unknowns.toCount) :
    (jacobianBuffer c)[p]? = c.jacobian[p]? := by
  unfold jacobianBuffer
  rw [Vector.getElem?_mk, Array.getElem?_extract, Nat.zero_add, Nat.sub_zero]
  split
  · rfl
  · next hsize =>
    have hbehind : c.jacobian.size ≤ p := by omega
    exact (Array.getElem?_eq_none hbehind).symm

variable {g : Gate Thread} (h : c.Serviceable g d)

include h

theorem fits_of_serviceable :
    Matrix.fits d.nonlinear d.unknowns c.stride.toCount
      (min (c.stride.toCount * c.unknowns.toCount) c.jacobian.size) = .ok () := by
  have hcols : d.unknowns ≤ Matrix.maxExtent := Nat.le_trans d.unknowns_le_bounds d.bounds_le
  refine Matrix.fits_eq_ok_iff.mpr ⟨?_, ?_, h.rows_le⟩
  · rw [Nat.max_eq_left d.unknowns_pos]
    rcases Nat.eq_zero_or_pos c.stride.toCount with hzero | hpos
    · rw [hzero, Nat.max_eq_right (Nat.zero_le 1), Nat.one_mul]
      exact hcols
    · rw [Nat.max_eq_left hpos]
      exact Nat.le_trans h.jacobian h.addressable
  · rw [h.unknowns]
    exact Nat.le_min.mpr ⟨Nat.le_refl _, h.jacobian⟩

/-- **The Jacobian of a callback in order can be read**, each entry from its place. -/
theorem gather_of_serviceable :
    ∃ m : Matrix d.nonlinear d.unknowns,
      Matrix.gather d.nonlinear d.unknowns c.stride.toCount (jacobianBuffer c) = .ok m ∧
        ∀ i j, c.jacobian[j.val * c.stride.toCount + i.val]? = some (m.get i j) := by
  obtain ⟨m, hgather⟩ := Matrix.exists_gather (fits_of_serviceable h) (jacobianBuffer c)
  refine ⟨m, hgather, fun i j => ?_⟩
  have hp : j.val * c.stride.toCount + i.val < c.stride.toCount * c.unknowns.toCount := by
    rw [h.unknowns]
    exact Matrix.place_lt h.rows_le i j
  rw [← getElem?_jacobianBuffer hp]
  exact (Matrix.gather_eq_ok_iff.mp hgather).2 i j

end

/-! ## The Jacobian back -/

theorem getElem?_overwrite_scatter {rows cols : Nat} {c : ConstraintCall} {m : Matrix rows cols}
    {written : Vector Float (min (c.stride.toCount * c.unknowns.toCount) c.jacobian.size)}
    (h : m.scatter c.stride.toCount (jacobianBuffer c) = .ok written) :
    (∀ i j, (overwrite c.jacobian written)[j.val * c.stride.toCount + i.val]? =
        some (m.get i j)) ∧
      ∀ p, Matrix.Padding rows cols c.stride.toCount p →
        (overwrite c.jacobian written)[p]? = c.jacobian[p]? := by
  obtain ⟨hfits, hentry, hpadding⟩ := Matrix.scatter_eq_ok_iff.mp h
  have hk : min (c.stride.toCount * c.unknowns.toCount) c.jacobian.size ≤ c.jacobian.size :=
    Nat.min_le_right ..
  constructor
  · intro i j
    rw [getElem?_overwrite_of_lt written hk (Matrix.place_lt_of_fits hfits i j)]
    exact hentry i j
  · intro p hp
    rcases Nat.lt_or_ge p (min (c.stride.toCount * c.unknowns.toCount) c.jacobian.size) with
      hlt | hge
    · rw [getElem?_overwrite_of_lt written hk hlt, hpadding p hp,
        getElem?_jacobianBuffer (Nat.lt_of_lt_of_le hlt (Nat.min_le_left ..))]
    · exact getElem?_overwrite_of_le written hge

/-! ## Serving -/

variable [Evaluator ω ε]

/-- **A callback in order is served**: the evaluator is asked what the routine passed. -/
theorem answerConstraints_of_serviceable {f : Flight} {c : ConstraintCall}
    (h : c.Serviceable f.gate d) (s : Serving ω ε d.nonlinear d.unknowns)
    (open_ : s.service.panic = none) :
    ∃ m : Matrix d.nonlinear d.unknowns, (constraintRequest c m).Asks c ∧
      Matrix.gather d.nonlinear d.unknowns c.stride.toCount (jacobianBuffer c) = .ok m ∧
      answerConstraints f c s = evaluateConstraints f c m s := by
  obtain ⟨m, hgather, hentry⟩ := gather_of_serviceable h
  obtain ⟨x, hserving⟩ := Option.isSome_iff_exists.mp h.active
  refine ⟨m, ⟨rfl, rfl, ?_, ?_, ?_, hentry⟩, hgather, ?_⟩
  · exact congrArg c.needed.take h.nonlinear
  · exact congrArg c.point.take h.unknowns
  · exact congrArg c.values.take h.nonlinear
  · unfold answerConstraints serveConstraints
    have hfound : (d.nonlinear, d.unknowns) =
        (min c.nonlinear.toCount c.needed.size, min c.unknowns.toCount c.point.size) := by
      rw [h.nonlinear, h.unknowns, Nat.min_eq_left h.needed, Nat.min_eq_left h.point]
    simp only [hserving, open_, Option.isSome_none, Bool.false_eq_true, if_false, ← hfound,
      ne_eq, not_true_eq_false, hgather]

/-- **What an evaluator leaves comes back**, if it could be read before. -/
theorem reports_evaluateConstraints {rows cols : Nat} (f : Flight) {c : ConstraintCall}
    {m : Matrix rows cols} (s : Serving ω ε rows cols)
    (hgather : Matrix.gather rows cols c.stride.toCount (jacobianBuffer c) = .ok m)
    {status : Integer} (ended : (s.constraintReply f c m).ending = .ok status) :
    (evaluateConstraints f c m s).1.Reports (s.constraintReply f c m).output status := by
  obtain ⟨written, hw⟩ :=
    Matrix.scatter_of_gather hgather (s.constraintReply f c m).output.jacobian
  obtain ⟨hentry, hpadding⟩ := getElem?_overwrite_scatter hw
  have hvalues : (constraintRequest c m).values.size ≤ c.values.size := by
    rw [Array.size_extract, Nat.sub_zero]
    exact Nat.min_le_right ..
  have hreturn : (evaluateConstraints f c m s).1 =
      { status
        mode := (s.constraintReply f c m).output.mode
        values := overwrite c.values (s.constraintReply f c m).output.values
        jacobian := overwrite c.jacobian written } := by
    unfold constraintReply at ended hw ⊢
    unfold evaluateConstraints
    simp only [ended]
    rw [hw]
  rw [hreturn]
  exact ⟨rfl, rfl, fun i hi => getElem?_overwrite_of_lt _ hvalues hi,
    fun i hi => getElem?_overwrite_of_le _ hi, hentry, hpadding⟩

/-- What comes of a callback that is served, brings `jacobian`, and returns `r`: one request reaches
the evaluator, it asks what was passed, and what the evaluator leaves on returning is what comes
back. -/
structure Served (f : Flight) (c : ConstraintCall)
    (before : Serving ω (WatchedEvaluator ε) d.nonlinear d.unknowns)
    (jacobian : Matrix d.nonlinear d.unknowns) (r : ConstraintReturn c)
    (after : Serving ω (WatchedEvaluator ε) d.nonlinear d.unknowns) : Prop where
  asks : (constraintRequest c jacobian).Asks c
  evaluator : after.service.evaluator = (before.constraintReply f c jacobian).evaluator
  once : after.service.evaluator.calls = before.service.evaluator.calls ++
    [⟨.inr (constraintRequest c jacobian), true, (before.constraintReply f c jacobian).ending⟩]
  reports : ∀ status, (before.constraintReply f c jacobian).ending = .ok status →
    r.Reports (before.constraintReply f c jacobian).output status
  untouched : ∀ status, (before.constraintReply f c jacobian).ending = .ok status →
    (before.constraintReply f c jacobian).output.jacobian = jacobian →
    r.jacobian.toArray = c.jacobian

theorem served_of_serviceable {f : Flight} {c : ConstraintCall} (h : c.Serviceable f.gate d)
    (s : Serving ω (WatchedEvaluator ε) d.nonlinear d.unknowns) (open_ : s.service.panic = none) :
    ∃ jacobian, Served f c s jacobian (answerConstraints f c s).1 (answerConstraints f c s).2 := by
  obtain ⟨m, asks, hgather, heq⟩ := answerConstraints_of_serviceable h s open_
  have hevaluator : (answerConstraints f c s).2.service.evaluator =
      (s.constraintReply f c m).evaluator := by
    rw [heq]
    exact evaluator_evaluateConstraints f s c m
  have hreports (status : Integer) (ended : (s.constraintReply f c m).ending = .ok status) :
      (answerConstraints f c s).1.Reports (s.constraintReply f c m).output status := by
    rw [heq]
    exact reports_evaluateConstraints f s hgather ended
  refine ⟨m, asks, hevaluator, ?_, hreports, ?_⟩
  · rw [hevaluator]
    exact s.calls_constraintReply f c m
  · intro status ended kept
    exact (hreports status ended).jacobian_eq asks kept

end Serving

/-! ## The main result -/

namespace Problem

variable [Evaluator ω ε] [Routine ω ρ] (p : Problem d ε ρ) (g : Gate Thread) (t : Thread)
  (x₀ : Array Float)

/-- **Constraint callbacks are served.** In any solve, admitted with gate `g'`, look at a callback
that is in order while no panic is kept. Then, whatever earlier callbacks left behind, the
evaluator is called once and sees what the routine passed; if it returns, the callback returns its
status, mode and values, its Jacobian stands in the routine's buffer, and everything else there is
as it was. No solve ever fails to write a Jacobian back. (The dialogue is that of the solve itself,
watched or not.) -/
theorem constraints_served :
    (p.watched.dialogue (ω := ω) g t x₀).map (Turn.map (Serving.map WatchedEvaluator.evaluator)) =
      p.dialogue g t x₀ ∧
    (∀ (g' : Gate Thread) (granted : g.grant t d x₀ = .ok g') (c : ConstraintCall)
      (r : ConstraintReturn c)
      (before after : Serving ω (WatchedEvaluator ε) d.nonlinear d.unknowns),
      ⟨.constraints c, before, r, after⟩ ∈ p.watched.dialogue (ω := ω) g t x₀ →
      before.service.panic = none → c.Serviceable g' d →
      ∃ jacobian, Serving.Served (.ofGrant granted) c before jacobian r after) ∧
    ∀ e stride, .trace (.unwritableJacobian e stride) ∉ (p.solve (ω := ω) g t x₀).events := by
  refine ⟨p.dialogue_watched g t x₀, ?_, p.unwritableJacobian_not_mem g t x₀⟩
  intro g' granted c r before after hmem open_ serviceable
  rw [p.watched.dialogue_granted granted] at hmem
  obtain ⟨hanswer, hafter⟩ := Program.handle_of_mem_dialogue _ hmem
  obtain ⟨jacobian, served⟩ := Serving.served_of_serviceable
    (f := .ofGrant granted) serviceable before open_
  refine ⟨jacobian, ?_⟩
  obtain rfl : r = (Serving.answerConstraints (.ofGrant granted) c before).1 := hanswer
  obtain rfl : after = (Serving.answerConstraints (.ofGrant granted) c before).2 := hafter
  exact served

end Problem

namespace Script

/-- A problem whose routine brings the Jacobian of one constraint in columns of two places, and
whose evaluator writes one entry. -/
def padded : Problem (small 2 0 1) (EvaluatorScript InnerProblem) (RoutineScript InnerProblem) :=
  .new _
    { constraints := [[.valueAt 0 7.0, .entry 0 1 8.0, .control (.status 5)]] }
    { script := [[.constraints
      ⟨2, 1, .own, .own, .given 2, .own, .own, .own, .given #[1.0, 2.0, 3.0, 4.0], false⟩]] }

/-- Status, value and the written entry come back. The other entry and both places of padding are
kept. -/
theorem constraints_served_padded :
    ∃ (c : ConstraintCall) (r : ConstraintReturn c)
      (before after : Serving Note (WatchedEvaluator (EvaluatorScript InnerProblem)) 1 2),
      ⟨.constraints c, before, r, after⟩ ∈
        padded.watched.dialogue (ω := Note) .vacant mainThread #[0.5, 0.5] ∧
      c.jacobian = #[1.0, 2.0, 3.0, 4.0] ∧ r.status = 5 ∧ r.values[0]? = some 7.0 ∧
      r.jacobian[0]? = some 1.0 ∧ r.jacobian[1]? = some 2.0 ∧ r.jacobian[2]? = some 8.0 ∧
      r.jacobian[3]? = some 4.0 := by
  obtain ⟨-, hserved, -⟩ := padded.constraints_served (ω := Note) .vacant mainThread #[0.5, 0.5]
  obtain ⟨(jacobian : Matrix 1 2), served⟩ := hserved _ rfl _ _ _ _ List.mem_cons_self rfl
    ⟨rfl, rfl, rfl, by decide, Nat.le_refl 1, Nat.le_refl 1, Nat.le_refl 2, Nat.le_refl 4,
      by decide⟩
  have reports := served.reports 5 rfl
  have hfirst : some (1.0 : Float) = some (jacobian.get 0 0) :=
    served.asks.jacobian (0 : Fin 1) (0 : Fin 2)
  have hpadding (j : Fin 2) : Matrix.Padding 1 2 2 (j.val * 2 + 1) :=
    Matrix.padding_of_row_le (by decide) (by decide) (by decide)
  have hkept : (jacobian.set 0 1 8.0).get 0 0 = jacobian.get 0 0 := Matrix.get_set ..
  have hwritten : (jacobian.set 0 1 8.0).get 0 1 = 8.0 := Matrix.get_set ..
  refine ⟨_, _, _, _, List.mem_cons_self, rfl, reports.status, reports.values 0 Nat.one_pos,
    ?_, reports.padding _ (hpadding 0), ?_, reports.padding _ (hpadding 1)⟩
  · exact (reports.jacobian (0 : Fin 1) (0 : Fin 2)).trans ((congrArg some hkept).trans hfirst.symm)
  · exact (reports.jacobian (0 : Fin 1) (1 : Fin 2)).trans (congrArg some hwritten)

end Script

end NonlinearFit
