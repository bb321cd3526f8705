import NonlinearFit.Dimensions
import NonlinearFit.Refusal
import NonlinearFit.Gate
import NonlinearFit.Program

/-!
# A solve in flight

`Gate.grant` decides whether a solve may begin: its starting point must have one entry per
variable, and no other solve may be in flight. A `Flight` is a gate with a solve inside, on a
known thread. Whoever acts during that solve can ask whether a solve is in flight and can attempt
to begin another one; since the gate is claimed, every attempt is refused
(`grant_ne_ok_of_claimed`), and `Flight.refusal` is the error it is refused with.
-/

namespace NonlinearFit

/-- Lets a solve of a problem with dimensions `d` in on thread `t`. Solves are named by the thread
they run on. -/
def Gate.grant (g : Gate Thread) (t : Thread) (d : Dimensions) (x₀ : Array Float) :
    Except Refusal (Gate Thread) :=
  if x₀.size = d.unknowns then
    match g.enter? t t with
    | some g' => .ok g'
    | none => .error .busy
  else .error (.lengthMismatch "x0" d.unknowns x₀.size)

theorem Gate.grant_eq_ok_iff {g g' : Gate Thread} {t : Thread} {d : Dimensions}
    {x₀ : Array Float} :
    g.grant t d x₀ = .ok g' ↔ x₀.size = d.unknowns ∧ g.enter? t t = some g' := by
  unfold Gate.grant
  split
  · next h =>
    cases he : g.enter? t t <;> simp [h]
  · next h => simp [h]

/-- Only a starting point of the right length is admitted. -/
theorem Gate.size_of_grant {g g' : Gate Thread} {t : Thread} {d : Dimensions} {x₀ : Array Float}
    (h : g.grant t d x₀ = .ok g') : x₀.size = d.unknowns :=
  (grant_eq_ok_iff.mp h).1

theorem Gate.grant_ne_ok_of_claimed {g g' : Gate Thread} {t : Thread} {d : Dimensions}
    {x₀ : Array Float} (hg : g.claimed = true) : g.grant t d x₀ ≠ .ok g' := by
  intro h
  have := (Gate.enter?_eq_some_iff.mp (Gate.grant_eq_ok_iff.mp h).2).2.1
  simp [hg] at this

/-- A gate with a solve inside, on thread `thread`. -/
structure Flight where
  gate : Gate Thread
  thread : Thread
  claimed : gate.claimed = true
  serving : gate.serving thread = some thread

namespace Flight

/-- The flight that begins when a solve is admitted. -/
def ofGrant {g g' : Gate Thread} {t : Thread} {d : Dimensions} {x₀ : Array Float}
    (h : g.grant t d x₀ = .ok g') : Flight where
  gate := g'
  thread := t
  claimed := by
    obtain ⟨-, -, rfl⟩ := Gate.enter?_eq_some_iff.mp (Gate.grant_eq_ok_iff.mp h).2
    rfl
  serving := by
    obtain ⟨-, -, rfl⟩ := Gate.enter?_eq_some_iff.mp (Gate.grant_eq_ok_iff.mp h).2
    exact Gate.serving_publish ..

/-- Why another solve cannot begin now. -/
def refusal (f : Flight) (t : Thread) (d : Dimensions) (x₀ : Array Float) : Refusal :=
  match h : f.gate.grant t d x₀ with
  | .error e => e
  | .ok _ => absurd h (Gate.grant_ne_ok_of_claimed f.claimed)

theorem grant_eq_error_refusal (f : Flight) (t : Thread) (d : Dimensions) (x₀ : Array Float) :
    f.gate.grant t d x₀ = .error (f.refusal t d x₀) := by
  unfold refusal
  split
  · assumption
  · next h => exact absurd h (Gate.grant_ne_ok_of_claimed f.claimed)

end Flight

/-! ## Inquiries -/

/-- What evaluators and routines may ask while a solve is in flight. -/
inductive Inquiry (ω : Type) where
  /-- Records a note. -/
  | note (n : ω)
  /-- Whether a solve is in flight. -/
  | busy
  /-- Attempts to begin a solve of another problem with dimensions `d`. -/
  | attempt (t : Thread) (d : Dimensions) (x₀ : Array Float)

/-- The type of an inquiry's answer. -/
def Inquiry.Answer {ω : Type} : Inquiry ω → Type
  | note _ => Unit
  | busy => Bool
  | attempt .. => Refusal

/-- A program of an evaluator. -/
abbrev Inquiring (ω α : Type) := Program (Inquiry ω) Inquiry.Answer α

end NonlinearFit
