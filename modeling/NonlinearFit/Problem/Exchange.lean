import NonlinearFit.Matrix.ColumnMajor

/-!
# Exchanged buffers

Some buffers go to the routine and come back: the routine may overwrite them, yet what the caller
gave has to stay for the next solve. Each of them is kept in three copies, the one that was
`given`, the one that is `lent` to the routine, and the one last `received` from it.

Before a call, `lend` copies what was given into the lent copy; after the call, `collect` copies
the lent copy into the received one. `carry` gives the received copy to the next solve. For a
matrix the lent copy is column-major, and the copies change the layout.
-/

namespace NonlinearFit

/-- A vector that goes to the routine and comes back. -/
@[ext]
structure ExchangedVector (k : Nat) where
  given : Vector Float k
  lent : Vector Float k
  received : Vector Float k

namespace ExchangedVector

variable {k : Nat}

def zeros (k : Nat) : ExchangedVector k := ⟨.replicate k 0.0, .replicate k 0.0, .replicate k 0.0⟩

def lend (v : ExchangedVector k) : ExchangedVector k := { v with lent := v.given }

def collect (v : ExchangedVector k) : ExchangedVector k := { v with received := v.lent }

def carry (v : ExchangedVector k) : ExchangedVector k := { v with given := v.received }

end ExchangedVector

/-- A matrix that goes to the routine and comes back. -/
@[ext]
structure ExchangedMatrix (rows cols : Nat) where
  given : Matrix rows cols
  lent : ColumnMajor rows cols
  received : Matrix rows cols

namespace ExchangedMatrix

variable {rows cols : Nat}

def zeros (rows cols : Nat) : ExchangedMatrix rows cols :=
  ⟨.zeros rows cols, .zeros rows cols, .zeros rows cols⟩

def lend (m : ExchangedMatrix rows cols) : Except LayoutMismatch (ExchangedMatrix rows cols) := do
  return { m with lent := ← m.lent.load m.given }

def collect (m : ExchangedMatrix rows cols) :
    Except LayoutMismatch (ExchangedMatrix rows cols) := do
  return { m with received := ← m.lent.store m.received }

def carry (m : ExchangedMatrix rows cols) : ExchangedMatrix rows cols :=
  { m with given := m.received }

@[simp]
theorem lend_eq (m : ExchangedMatrix rows cols) :
    m.lend = .ok { m with lent := .ofMatrix m.given } := by
  simp [lend, pure, Except.pure, bind, Except.bind]

@[simp]
theorem collect_eq (m : ExchangedMatrix rows cols) :
    m.collect = .ok { m with received := m.lent.toMatrix } := by
  simp [collect, pure, Except.pure, bind, Except.bind]

end ExchangedMatrix

end NonlinearFit
