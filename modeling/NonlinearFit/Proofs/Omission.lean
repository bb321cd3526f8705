import NonlinearFit.Proofs.Dialogue

/-!
# Leaving queries out

Some queries of a program are *idle*: what they are answered does not matter to what the program
does afterwards. `Program.Omits idle p p'` says that `p'` is `p` without its idle queries. Whatever
an idle query of `p` is answered, `p` goes on as `p'` does, so `Omits` also says that `p` pays no
attention to these answers.

**Runs.** If the handler keeps what is seen of the state at every idle query, then `p'` ends with
the result of `p` and the same state, as far as it is seen (`Omits.run`). Its dialogue is that of
`p` without the idle turns (`Omits.dialogue`).
-/

namespace NonlinearFit.Program

variable {Q : Type} {A : Q → Type} {α β σ τ : Type} {idle : Q → Bool}

/-- `p'` asks what `p` asks, apart from idle queries. Whatever an idle query is answered, `p` goes
on as `p'` does. -/
inductive Omits (idle : Q → Bool) : Program Q A α → Program Q A α → Prop
  | done (a : α) : Omits idle (.done a) (.done a)
  | ask {q : Q} {k k' : A q → Program Q A α} (asked : idle q = false)
    (next : ∀ a, Omits idle (k a) (k' a)) : Omits idle (.ask q k) (.ask q k')
  | leave {q : Q} {k : A q → Program Q A α} {p' : Program Q A α} (left : idle q = true)
    (next : ∀ a, Omits idle (k a) p') : Omits idle (.ask q k) p'

namespace Omits

/-- Programs that go on alike leave out idle queries before and after. -/
theorem bind {p p' : Program Q A α} {f f' : α → Program Q A β} (h : Omits idle p p')
    (hf : ∀ a, Omits idle (f a) (f' a)) : Omits idle (p.bind f) (p'.bind f') := by
  induction h with
  | done a => exact hf a
  | ask asked _ ih => exact .ask asked ih
  | leave left _ ih => exact .leave left ih

/-- Results may be seen through a function on both sides. -/
theorem map (f : α → β) {p p' : Program Q A α} (h : Omits idle p p') :
    Omits idle (p.map f) (p'.map f) :=
  h.bind fun a => .done (f a)

theorem andThen {γ δ π : Type} {p p' : Program Q A (β × Except π γ)}
    {rest rest' : β → γ → Program Q A (β × Except π δ)} (h : Omits idle p p')
    (hrest : ∀ b c, Omits idle (rest b c) (rest' b c)) :
    Omits idle (p.andThen rest) (p'.andThen rest') :=
  h.bind fun
    | (b, .ok c) => hrest b c
    | (b, .error payload) => .done (b, Except.error payload)

/-! ## Runs -/

section

variable {handle : (q : Q) → σ → A q × σ} {handle' : (q : Q) → τ → A q × τ} {φ : σ → τ}
  (alike : ∀ q s, idle q = false → handle' q (φ s) = ((handle q s).1, φ (handle q s).2))
  (silent : ∀ q s, idle q = true → φ (handle q s).2 = φ s)

include alike silent

/-- **The run without idle queries** has the same result and ends in the same state, seen
through `φ`. -/
theorem run {p p' : Program Q A α} (h : Omits idle p p') (s : σ) :
    p'.run handle' (φ s) = ((p.run handle s).1, φ (p.run handle s).2) := by
  induction h generalizing s with
  | done a => rfl
  | @ask q k k' asked _ ih =>
    rw [run_ask, run_ask, alike q s asked]
    exact ih (handle q s).1 (handle q s).2
  | @leave q k p' left _ ih =>
    -- The program without the query does not move, and what is seen of the state stays.
    rw [run_ask, ← silent q s left]
    exact ih (handle q s).1 (handle q s).2

/-- **The dialogue without idle queries** has the remaining turns, with the same answers. -/
theorem dialogue {p p' : Program Q A α} (h : Omits idle p p') (s : σ) :
    p'.dialogue handle' (φ s) =
      ((p.dialogue handle s).filter fun u => !idle u.query).map (Turn.map φ) := by
  induction h generalizing s with
  | done a => rfl
  | @ask q k k' asked _ ih =>
    simp only [dialogue_ask, alike q s asked, List.filter_cons, asked, Bool.not_false, if_true,
      List.map_cons]
    exact congrArg (_ :: ·) (ih (handle q s).1 (handle q s).2)
  | @leave q k p' left _ ih =>
    rw [dialogue_ask, ← silent q s left]
    simp only [List.filter_cons, left, Bool.not_true, Bool.false_eq_true, if_false]
    exact ih (handle q s).1 (handle q s).2

end

end Omits

end NonlinearFit.Program
