/-!
# Programs that ask

A `Program Q A α` computes an `α` and may ask queries `q : Q` on the way, each answered by an
`A q`. What an answer does to the world is not part of the program: `Program.run` takes a handler
that answers queries while it changes a state, so one program can be run against any world.

Evaluators and routines are programs, since both act while a solve is in flight: an evaluator may
try to start another solve, and a routine calls back.

**Panics.** A program that writes into buffers ends with the buffers as it leaves them, and with a
result or the payload of a panic. `andThen` goes on with both unless there was a panic, so what
follows a panic does not matter (`andThen_raise`).
-/

namespace NonlinearFit

/-- A computation that may ask queries. -/
inductive Program (Q : Type) (A : Q → Type) (α : Type) where
  | done (value : α)
  | ask (query : Q) (next : A query → Program Q A α)

namespace Program

variable {Q : Type} {A : Q → Type} {α β σ : Type}

def bind : Program Q A α → (α → Program Q A β) → Program Q A β
  | done a, f => f a
  | ask q k, f => ask q fun a => bind (k a) f

instance : Monad (Program Q A) where
  pure := done
  bind := bind

/-- The program with its result seen through `f`. -/
def map (f : α → β) (p : Program Q A α) : Program Q A β := p.bind fun a => .done (f a)

/-- The program that asks one query and gives its answer. -/
def query (q : Q) : Program Q A (A q) := ask q done

/-- Runs a program, its queries being answered by `handle`. -/
def run (handle : (q : Q) → σ → A q × σ) : Program Q A α → σ → α × σ
  | done a, s => (a, s)
  | ask q k, s => let (a, s) := handle q s; run handle (k a) s

@[simp]
theorem run_done (handle : (q : Q) → σ → A q × σ) (a : α) (s : σ) :
    (done a : Program Q A α).run handle s = (a, s) := rfl

@[simp]
theorem run_ask (handle : (q : Q) → σ → A q × σ) (q : Q) (k : A q → Program Q A α) (s : σ) :
    (ask q k).run handle s = (k (handle q s).1).run handle (handle q s).2 := rfl

theorem run_bind (handle : (q : Q) → σ → A q × σ) (p : Program Q A α)
    (f : α → Program Q A β) (s : σ) :
    (p.bind f).run handle s = (f (p.run handle s).1).run handle (p.run handle s).2 := by
  induction p generalizing s with
  | done a => rfl
  | ask q k ih => exact ih (handle q s).1 (handle q s).2

/-! ## Panics -/

section

variable {γ δ π : Type}

/-- Panics, leaving `b`. -/
def raise (payload : π) (b : β) : Program Q A (β × Except π γ) := done (b, .error payload)

/-- Goes on after a program, unless it panicked. -/
def andThen (p : Program Q A (β × Except π γ)) (rest : β → γ → Program Q A (β × Except π δ)) :
    Program Q A (β × Except π δ) :=
  p.bind fun
    | (b, .ok c) => rest b c
    | (b, .error payload) => raise payload b

/-- **After a panic nothing is done**: a program that is to panic after `p` leaves what `p` leaves,
and if `p` panicked, the first panic stays. -/
theorem andThen_raise (p : Program Q A (β × Except π γ)) (payload : π)
    (rest : β → γ → Program Q A (β × Except π δ)) :
    (p.andThen fun b _ => (raise payload b).andThen rest) =
      p.map fun r => (r.1, r.2.bind fun _ => .error payload) := by
  show Program.bind _ _ = Program.bind _ _
  congr 1
  funext r
  obtain ⟨b, ending⟩ := r
  cases ending with
  | ok c => rfl
  | error payload' => rfl

end

end Program

end NonlinearFit
