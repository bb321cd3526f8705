/-!
# Refusals

What a problem can refuse: data of the wrong size, an index past the bounds, and a solve while
another one is in flight. Statuses that the routine reports are not refusals.
-/

namespace NonlinearFit

/-- A refused request. The first argument of a mismatch names the data. -/
inductive Refusal where
  | shapeMismatch (data : String) (expected found : Nat × Nat)
  | lengthMismatch (data : String) (expected found : Nat)
  | boundIndex (index bounds : Nat)
  | busy
deriving DecidableEq, Repr

/-- The sentence that reports the refusal. -/
def Refusal.message : Refusal → String
  | shapeMismatch data e f =>
    quoted data ++ " expects a " ++ shape e ++ " matrix, got " ++ shape f
  | lengthMismatch data e f =>
    quoted data ++ " expects " ++ toString e ++ " values, got " ++ toString f
  | boundIndex i n =>
    "bound index " ++ toString i ++ " is out of range for " ++ toString n ++ " bounds"
  | busy => "another solve is already in progress"
where
  quoted (s : String) : String := "`" ++ s ++ "`"
  shape (s : Nat × Nat) : String := toString s.1 ++ "x" ++ toString s.2

end NonlinearFit
