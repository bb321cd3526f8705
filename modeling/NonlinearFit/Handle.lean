import NonlinearFit.Evaluator
import NonlinearFit.Routine

/-!
# Handles

A problem may hold its evaluator and its routine directly or through handles, at any depth. A handle
either owns what is behind it or has it on loan. Requests go through to the value at the end, and
what that value becomes stands at the same place afterwards.
-/

namespace NonlinearFit

/-- A value held directly, or through handles that own it or have it on loan. -/
inductive Held (α : Type) where
  | direct (a : α)
  | owned (h : Held α)
  | loaned (h : Held α)

namespace Held

variable {ω α β : Type}

/-- The value at the end. -/
def value : Held α → α
  | direct a => a
  | owned h | loaned h => h.value

/-- The same handles with another value at the end. -/
def map (f : α → β) : Held α → Held β
  | direct a => direct (f a)
  | owned h => owned (h.map f)
  | loaned h => loaned (h.map f)

def objective [Evaluator ω α] (t : Thread) (r : ObjectiveRequest) :
    Held α → Inquiring ω (Reply (Held α) (ObjectiveOutput r))
  | direct a => (Evaluator.objective a t r).map (Reply.map direct)
  | owned h => (h.objective t r).map (Reply.map owned)
  | loaned h => (h.objective t r).map (Reply.map loaned)

def constraints [Evaluator ω α] (t : Thread) (r : ConstraintRequest) :
    Held α → Inquiring ω (Reply (Held α) (ConstraintOutput r))
  | direct a => (Evaluator.constraints a t r).map (Reply.map direct)
  | owned h => (h.constraints t r).map (Reply.map owned)
  | loaned h => (h.constraints t r).map (Reply.map loaned)

instance [Evaluator ω α] : Evaluator ω (Held α) where
  objective h t r := h.objective t r
  constraints h t r := h.constraints t r

def configure [Routine ω α] (line : String) : Held α → Held α × List ω
  | direct a => (Routine.configure a line).map direct id
  | owned h => (h.configure line).map owned id
  | loaned h => (h.configure line).map loaned id

def solve [Routine ω α] {d : Dimensions} (t : Thread) (c : Counts) (a : Arguments d) :
    Held α → Calling ω (Departure d (Held α))
  | direct r => (Routine.solve r t c a).map (Departure.map direct)
  | owned h => (h.solve t c a).map (Departure.map owned)
  | loaned h => (h.solve t c a).map (Departure.map loaned)

instance [Routine ω α] : Routine ω (Held α) where
  configure h line := h.configure line
  solve h t c a := h.solve t c a

end Held

end NonlinearFit
