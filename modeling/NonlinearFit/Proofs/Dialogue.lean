import NonlinearFit.Program

/-!
# Dialogues

`Program.run` gives the end of a run. Its *dialogue* is the way there: one `Turn` for each query,
with the answer it got and the states before and after.

**Simulation.** When two handlers answer alike on related states, runs and dialogues are alike too
(`run_simulated`, `dialogue_simulated`).

**Invariants.** What the handler keeps from one state to the next holds at the end of every run
(`run_invariant`) and before every turn (`dialogue_invariant`). It is enough that the handler keeps
it on the queries that are asked (`invariant_of_asked`). What comes to hold comes to hold in one turn
(`exists_turn_of_change`).

**Logs.** A log to which every query adds holds in the end what all turns added (`log_run`).

**Cutting.** From any turn on, a run is again the run of a program, so whatever holds of all runs
holds of the rest of a run (`dialogue_split`).
-/

namespace NonlinearFit

/-- One query of a run: its answer, and the states before and after. -/
structure Turn (Q : Type) (A : Q → Type) (σ : Type) where
  query : Q
  before : σ
  answer : A query
  after : σ

/-- The turn with its states seen through `φ`. -/
def Turn.map {Q : Type} {A : Q → Type} {σ τ : Type} (φ : σ → τ) (u : Turn Q A σ) : Turn Q A τ :=
  ⟨u.query, φ u.before, u.answer, φ u.after⟩

namespace Program

variable {Q : Type} {A : Q → Type} {α β σ τ : Type} (handle : (q : Q) → σ → A q × σ)

/-- The turns of a run, in order. -/
def dialogue : Program Q A α → σ → List (Turn Q A σ)
  | done _, _ => []
  | ask q k, s =>
    ⟨q, s, (handle q s).1, (handle q s).2⟩ :: dialogue (k (handle q s).1) (handle q s).2

theorem dialogue_ask (q : Q) (k : A q → Program Q A α) (s : σ) :
    (ask q k).dialogue handle s =
      ⟨q, s, (handle q s).1, (handle q s).2⟩ ::
        (k (handle q s).1).dialogue handle (handle q s).2 := rfl

/-- A program that asks nothing changes nothing. -/
theorem run_of_dialogue_eq_nil {p : Program Q A α} {s : σ} (h : p.dialogue handle s = []) :
    (p.run handle s).2 = s := by
  cases p with
  | done a => rfl
  | ask q k => cases h

theorem dialogue_bind (p : Program Q A α) (f : α → Program Q A β) (s : σ) :
    (p.bind f).dialogue handle s =
      p.dialogue handle s ++ (f (p.run handle s).1).dialogue handle (p.run handle s).2 := by
  induction p generalizing s with
  | done a => rfl
  | ask q k ih => exact congrArg (List.cons _) (ih (handle q s).1 (handle q s).2)

/-! ## Programs seen through a function -/

theorem run_map (f : α → β) (p : Program Q A α) (s : σ) :
    (p.map f).run handle s = (f (p.run handle s).1, (p.run handle s).2) :=
  run_bind handle p (fun a => .done (f a)) s

theorem dialogue_map (f : α → β) (p : Program Q A α) (s : σ) :
    (p.map f).dialogue handle s = p.dialogue handle s := by
  induction p generalizing s with
  | done a => rfl
  | ask q k ih =>
    show _ :: _ = _ :: _
    congr 1
    exact ih (handle q s).1 (handle q s).2

theorem bind_assoc {γ : Type} (p : Program Q A α) (f : α → Program Q A β)
    (g : β → Program Q A γ) : (p.bind f).bind g = p.bind fun a => (f a).bind g := by
  induction p with
  | done a => rfl
  | ask q k ih =>
    show ask q _ = ask q _
    congr 1
    funext a
    exact ih a

theorem map_map {γ : Type} (g : β → γ) (f : α → β) (p : Program Q A α) :
    (p.map f).map g = p.map (g ∘ f) :=
  p.bind_assoc _ _

theorem map_id (p : Program Q A α) : p.map id = p := by
  induction p with
  | done a => rfl
  | ask q k ih =>
    show ask q _ = ask q _
    congr 1
    funext a
    exact ih a

/-- Seen there and back a program is as it was. -/
theorem map_back {f : α → β} {g : β → α} (back : ∀ a, g (f a) = a) (p : Program Q A α) :
    (p.map f).map g = p := by
  have h : g ∘ f = id := funext back
  rw [map_map, h, map_id]

variable {handle}

/-! ## Simulation -/

section

variable {handle' : (q : Q) → τ → A q × τ} {φ : σ → τ}
  (alike : ∀ q s, handle' q (φ s) = ((handle q s).1, φ (handle q s).2))

include alike

theorem run_simulated (p : Program Q A α) (s : σ) :
    p.run handle' (φ s) = ((p.run handle s).1, φ (p.run handle s).2) := by
  induction p generalizing s with
  | done a => rfl
  | ask q k ih =>
    rw [run_ask, run_ask, alike]
    exact ih (handle q s).1 (handle q s).2

theorem dialogue_simulated (p : Program Q A α) (s : σ) :
    p.dialogue handle' (φ s) = (p.dialogue handle s).map (Turn.map φ) := by
  induction p generalizing s with
  | done a => rfl
  | ask q k ih =>
    show _ :: _ = _ :: _
    rw [alike]
    congr 1
    exact ih (handle q s).1 (handle q s).2

end

/-! ## Invariants -/

/-- **What the queries that are asked preserve** holds before every turn and at the end. -/
theorem invariant_of_asked {I : σ → Prop} {P : Q → Prop}
    (step : ∀ q s, P q → I s → I (handle q s).2) (p : Program Q A α) {s : σ} (hs : I s)
    (asked : ∀ u ∈ p.dialogue handle s, P u.query) :
    (∀ u ∈ p.dialogue handle s, I u.before) ∧ I (p.run handle s).2 := by
  induction p generalizing s with
  | done a => exact ⟨fun u hu => absurd hu List.not_mem_nil, hs⟩
  | ask q k ih =>
    rw [dialogue_ask] at asked ⊢
    obtain ⟨hq, hrest⟩ := List.forall_mem_cons.mp asked
    obtain ⟨hbefore, hend⟩ := ih _ (step q s hq hs) hrest
    exact ⟨List.forall_mem_cons.mpr ⟨hs, hbefore⟩, hend⟩

theorem run_invariant {I : σ → Prop} (step : ∀ q s, I s → I (handle q s).2)
    (p : Program Q A α) {s : σ} (hs : I s) : I (p.run handle s).2 :=
  (invariant_of_asked (P := fun _ => True) (fun q s _ => step q s) p hs fun _ _ => trivial).2

/-- **A turn is answered by the handler.** -/
theorem handle_of_mem_dialogue (p : Program Q A α) {s : σ} {u : Turn Q A σ}
    (hu : u ∈ p.dialogue handle s) :
    u.answer = (handle u.query u.before).1 ∧ u.after = (handle u.query u.before).2 := by
  induction p generalizing s with
  | done a => exact absurd hu List.not_mem_nil
  | ask q k ih =>
    rcases List.mem_cons.mp hu with rfl | hu
    · exact ⟨rfl, rfl⟩
    · exact ih _ hu

theorem dialogue_invariant {I : σ → Prop} (step : ∀ q s, I s → I (handle q s).2)
    (p : Program Q A α) {s : σ} (hs : I s) : ∀ u ∈ p.dialogue handle s, I u.before :=
  (invariant_of_asked (P := fun _ => True) (fun q s _ => step q s) p hs fun _ _ => trivial).1

/-- **What comes to hold during a run** comes to hold in one of its turns. -/
theorem exists_turn_of_change {P : σ → Prop} (p : Program Q A α) {s : σ} (before : ¬P s)
    (after : P (p.run handle s).2) :
    ∃ earlier u later, p.dialogue handle s = earlier ++ u :: later ∧ ¬P u.before ∧ P u.after := by
  induction p generalizing s with
  | done a => exact absurd after before
  | ask q k ih =>
    by_cases h : P (handle q s).2
    · exact ⟨[], _, _, rfl, before, h⟩
    · obtain ⟨earlier, u, later, cut, hbefore, hafter⟩ := ih _ h after
      exact ⟨_ :: earlier, u, later, congrArg (List.cons _) cut, hbefore, hafter⟩

/-! ## Logs -/

section

variable {β : Type} {l : σ → List β} {δ : Turn Q A σ → List β}
  (adds : ∀ q s, l (handle q s).2 = l s ++ δ ⟨q, s, (handle q s).1, (handle q s).2⟩)

include adds

/-- **A run adds to a log what its turns add**, one after the other. -/
theorem log_run (p : Program Q A α) (s : σ) :
    l (p.run handle s).2 = l s ++ (p.dialogue handle s).flatMap δ := by
  induction p generalizing s with
  | done a => exact (List.append_nil _).symm
  | ask q k ih =>
    rw [run_ask, ih, adds, dialogue_ask, List.flatMap_cons, List.append_assoc]

/-- Before each turn the log holds what the earlier turns added. -/
theorem log_before (p : Program Q A α) {s : σ} {earlier later : List (Turn Q A σ)}
    {u : Turn Q A σ} (h : p.dialogue handle s = earlier ++ u :: later) :
    l u.before = l s ++ earlier.flatMap δ := by
  induction p generalizing s earlier with
  | done a =>
    have : ([] : List (Turn Q A σ)) = earlier ++ u :: later := h
    simp at this
  | ask q k ih =>
    rw [dialogue_ask] at h
    cases earlier with
    | nil =>
      obtain ⟨rfl, -⟩ := List.cons.inj h
      exact (List.append_nil _).symm
    | cons v earlier =>
      obtain ⟨rfl, hrest⟩ := List.cons.inj h
      rw [ih _ hrest, adds, List.flatMap_cons, List.append_assoc]

end

/-! ## Cutting a run at a turn -/

/-- **After each turn a program goes on as a program**, from the state that the turn left. -/
theorem dialogue_split (p : Program Q A α) {s : σ} {earlier later : List (Turn Q A σ)}
    {u : Turn Q A σ} (h : p.dialogue handle s = earlier ++ u :: later) :
    ∃ rest : Program Q A α,
      later = rest.dialogue handle u.after ∧ p.run handle s = rest.run handle u.after := by
  induction p generalizing s earlier with
  | done a =>
    have : ([] : List (Turn Q A σ)) = earlier ++ u :: later := h
    simp at this
  | ask q k ih =>
    cases earlier with
    | nil =>
      obtain ⟨rfl, rfl⟩ := List.cons.inj h
      exact ⟨k (handle q s).1, rfl, rfl⟩
    | cons v earlier => exact ih _ (List.cons.inj h).2

end Program

end NonlinearFit
