import NonlinearFit.GradientDescent
import NonlinearFit.Proofs.Simulation

/-!
# Statuses that nobody looks at

A callback returns a status besides the mode. Gradient descents go by the mode alone.

**Answers.** `Query.unstated` is an answer with its status blanked, and `Program.unstated` is the
program that blanks the status of every answer before it goes on. A program that looks at no status is
the same as this one, and a gradient descent is such a program (`GradientDescent.unstated_solve`).

**Evaluators.** A map *restates* if evaluators seen through it answer as they do, up to the status
(`Evaluator.Restates`). Replacing every status by another one is of this kind
(`Restated.restates_evaluator`).

Main results: `solve_restated` and `dialogue_restated`, for solves by gradient descent.
-/

namespace NonlinearFit

variable {ω : Type} {d : Dimensions} {ε ε' : Type}

/-! ## Answers -/

/-- The answer with its status blanked. -/
def Query.unstated : (q : Query ω) → q.Answer → q.Answer
  | inquiry _, a => a
  | objective _, (r : ObjectiveReturn _) => { r with status := 0 }
  | constraints _, (r : ConstraintReturn _) => { r with status := 0 }

/-- The turn with the status of its answer blanked. -/
def Turn.unstated {σ : Type} (u : Turn (Query ω) Query.Answer σ) : Turn (Query ω) Query.Answer σ :=
  { u with answer := u.query.unstated u.answer }

/-! ## Programs -/

namespace Program

variable {α β σ τ : Type}

/-- The program that blanks the status of every answer. -/
def unstated : Calling ω α → Calling ω α
  | done a => done a
  | ask q k => ask q fun a => (k (q.unstated a)).unstated

theorem unstated_bind (p : Calling ω α) (f : α → Calling ω β) :
    (p.bind f).unstated = p.unstated.bind fun a => (f a).unstated := by
  induction p with
  | done a => rfl
  | ask q k ih =>
    show ask q _ = ask q _
    congr 1
    funext a
    exact ih (q.unstated a)

section

variable {handle : (q : Query ω) → σ → q.Answer × σ} {handle' : (q : Query ω) → τ → q.Answer × τ}
  {φ : σ → τ}
  (alike : ∀ q s, q.unstated (handle' q (φ s)).1 = q.unstated (handle q s).1 ∧
    (handle' q (φ s)).2 = φ (handle q s).2)

include alike

theorem run_unstated (p : Calling ω α) (s : σ) :
    p.unstated.run handle' (φ s) =
      ((p.unstated.run handle s).1, φ (p.unstated.run handle s).2) := by
  induction p generalizing s with
  | done a => rfl
  | ask q k ih =>
    show (k (q.unstated (handle' q (φ s)).1)).unstated.run handle' (handle' q (φ s)).2 = _
    rw [(alike q s).1, (alike q s).2]
    exact ih (q.unstated (handle q s).1) (handle q s).2

theorem dialogue_unstated (p : Calling ω α) (s : σ) :
    (p.unstated.dialogue handle' (φ s)).map Turn.unstated =
      (p.unstated.dialogue handle s).map fun u => (u.map φ).unstated := by
  induction p generalizing s with
  | done a => rfl
  | ask q k ih =>
    obtain ⟨hanswer, hstate⟩ := alike q s
    show (⟨q, φ s, q.unstated (handle' q (φ s)).1, (handle' q (φ s)).2⟩ : Turn _ _ τ) ::
      ((k (q.unstated (handle' q (φ s)).1)).unstated.dialogue handle' (handle' q (φ s)).2).map
        Turn.unstated = _
    rw [hanswer, hstate]
    exact congrArg (List.cons _) (ih (q.unstated (handle q s).1) (handle q s).2)

end

end Program

/-! ## Gradient descents -/

namespace GradientDescent

variable {n : Nat} (t : Thread) (unknowns : Integer) (b : Box n)

theorem unstated_search (p : Iterate n) (steps : List Float) (buffer : Vector Float n) :
    (search (ω := ω) t unknowns b p steps buffer).unstated =
      search t unknowns b p steps buffer := by
  induction steps generalizing buffer with
  | nil => rfl
  | cons step steps ih =>
    refine (Program.unstated_bind (evaluate t unknowns 0 (trial b p step) buffer) _).trans ?_
    show Program.bind _ _ = Program.bind _ _
    congr 1
    funext e
    cases e with
    | error mode => rfl
    | ok q =>
      dsimp only
      by_cases enough : sufficient p q.point q.value = true
      · rw [if_pos enough]
        rfl
      · rw [if_neg enough]
        exact ih q.gradient

theorem unstated_descend (tolerance : Float) (left : Nat) (done : Integer) (p : Iterate n)
    (buffer : Vector Float n) :
    (descend (ω := ω) t unknowns b tolerance left done p buffer).unstated =
      descend t unknowns b tolerance left done p buffer := by
  induction left generalizing done p buffer with
  | zero =>
    unfold descend
    split <;> rfl
  | succ left ih =>
    unfold descend
    split
    · rfl
    · refine (Program.unstated_bind (search t unknowns b p stepSizes buffer) _).trans ?_
      rw [unstated_search]
      show Program.bind _ _ = Program.bind _ _
      congr 1
      funext e
      cases e with
      | accepted q => exact ih (done + 1) q q.gradient
      | stopped | exhausted => rfl

/-- **A gradient descent looks at no status.** -/
theorem unstated_solve (r : GradientDescent) (c : Counts) (a : Arguments d) :
    (r.solve (ω := ω) t c a).unstated = r.solve t c a := by
  unfold solve
  dsimp only
  split
  · rfl
  · refine (Program.unstated_bind (evaluate t c.unknowns 1 _ _) _).trans ?_
    show Program.bind _ _ = Program.bind _ _
    congr 1
    funext e
    cases e with
    | error mode => rfl
    | ok first =>
      refine (Program.unstated_bind (descend ..) _).trans ?_
      rw [unstated_descend]
      show Program.bind _ _ = Program.bind _ _
      congr 1
      funext e
      split <;> rfl

end GradientDescent

/-! ## Evaluators -/

/-- The reply with its status blanked. -/
def Reply.unstated {Output : Type} (r : Reply ε Output) : Reply ε Output :=
  { r with ending := r.ending.map fun _ => 0 }

/-- Evaluators seen through `φ` answer as they do, up to the status. -/
structure Evaluator.Restates (ω : Type) {ε ε' : Type} [Evaluator ω ε] [Evaluator ω ε']
    (φ : ε → ε') : Prop where
  objective (f : Flight) (e : ε) (t : Thread) (r : ObjectiveRequest) (events : Array (Event ω)) :
    let reply := Serving.consult f (Evaluator.objective e t r) events
    let reply' := Serving.consult f (Evaluator.objective (φ e) t r) events
    (reply'.1.unstated, reply'.2) = ((reply.1.map φ).unstated, reply.2)
  constraints (f : Flight) (e : ε) (t : Thread) (r : ConstraintRequest)
    (events : Array (Event ω)) :
    let reply := Serving.consult f (Evaluator.constraints e t r) events
    let reply' := Serving.consult f (Evaluator.constraints (φ e) t r) events
    (reply'.1.unstated, reply'.2) = ((reply.1.map φ).unstated, reply.2)

/-- An evaluator whose statuses are replaced by other ones. -/
structure Restated (ε : Type) where
  evaluator : ε
  status : Integer → Integer

namespace Restated

/-- The reply of the evaluator with its status replaced. -/
def reply {Output : Type} (e : Restated ε) (r : Reply ε Output) : Reply (Restated ε) Output :=
  ⟨⟨r.evaluator, e.status⟩, r.output, r.ending.map e.status⟩

instance [Evaluator ω ε] : Evaluator ω (Restated ε) where
  objective e t r := (Evaluator.objective e.evaluator t r).map e.reply
  constraints e t r := (Evaluator.constraints e.evaluator t r).map e.reply

theorem unstated_reply {Output : Type} (e : Restated ε) (r : Reply ε Output) :
    ((e.reply r).map Restated.evaluator).unstated = r.unstated := by
  obtain ⟨evaluator, output, ending⟩ := r
  cases ending <;> rfl

theorem restates_evaluator [Evaluator ω ε] :
    Evaluator.Restates ω (Restated.evaluator : Restated ε → ε) where
  objective f e t r events := by
    have hconsult := Serving.consult_map f e.reply (Evaluator.objective e.evaluator t r) events
    intro reply reply'
    rw [show reply = _ from hconsult, unstated_reply]
  constraints f e t r events := by
    have hconsult := Serving.consult_map f e.reply (Evaluator.constraints e.evaluator t r) events
    intro reply reply'
    rw [show reply = _ from hconsult, unstated_reply]

end Restated

/-! ## Serving -/

namespace Serving

variable {rows cols : Nat}

/-- Replies that agree up to the status end alike. -/
theorem reply_cases {Output : Type} {φ : ε → ε'} {a : Reply ε Output} {b : Reply ε' Output}
    {events events' : Array (Event ω)}
    (h : (b.unstated, events') = ((a.map φ).unstated, events)) :
    ((∃ status status', a.ending = .ok status ∧ b.ending = .ok status') ∨
      ∃ payload, a.ending = .error payload ∧ b.ending = .error payload) ∧
    b.evaluator = φ a.evaluator ∧ b.output = a.output ∧ events' = events := by
  obtain ⟨evaluator, output, ending⟩ := a
  obtain ⟨evaluator', output', ending'⟩ := b
  obtain ⟨hreply, hevents⟩ := Prod.mk.inj h
  obtain ⟨hevaluator, houtput, hending⟩ := Reply.mk.inj hreply
  refine ⟨?_, hevaluator, houtput, hevents⟩
  cases ending <;> cases ending'
  · cases hending
    exact .inr ⟨_, rfl, rfl⟩
  · cases hending
  · cases hending
  · exact .inl ⟨_, _, rfl, rfl⟩

variable [Evaluator ω ε] [Evaluator ω ε'] {φ : ε → ε'} (hφ : Evaluator.Restates ω φ) (f : Flight)

include hφ

theorem serveObjective_restated (c : ObjectiveCall) (s : Serving ω ε rows cols) :
    (Query.objective c : Query ω).unstated (serveObjective f c (s.map φ)).1 =
        (Query.objective c : Query ω).unstated (serveObjective f c s).1 ∧
      (serveObjective f c (s.map φ)).2 = (serveObjective f c s).2.map φ := by
  obtain ⟨⟨evaluator, scratch, panic⟩, events⟩ := s
  cases panic with
  | some payload => exact ⟨rfl, rfl⟩
  | none =>
    have hreplies := reply_cases (hφ.objective f evaluator c.thread (objectiveRequest c) events)
    simp only [serveObjective, map, Option.isSome_none, Bool.false_eq_true, if_false]
    generalize consult f (Evaluator.objective evaluator c.thread (objectiveRequest c)) events = a
      at hreplies ⊢
    generalize consult f (Evaluator.objective (φ evaluator) c.thread (objectiveRequest c)) events = b
      at hreplies ⊢
    obtain ⟨hending, hevaluator, houtput, hevents⟩ := hreplies
    rw [hevaluator, houtput, hevents]
    rcases hending with ⟨status, status', h, h'⟩ | ⟨payload, h, h'⟩
    · rw [h, h']
      exact ⟨rfl, rfl⟩
    · rw [h, h']
      exact ⟨rfl, rfl⟩

theorem evaluateConstraints_restated (c : ConstraintCall) (jacobian : Matrix rows cols)
    (s : Serving ω ε rows cols) :
    (Query.constraints c : Query ω).unstated (evaluateConstraints f c jacobian (s.map φ)).1 =
        (Query.constraints c : Query ω).unstated (evaluateConstraints f c jacobian s).1 ∧
      (evaluateConstraints f c jacobian (s.map φ)).2 =
        (evaluateConstraints f c jacobian s).2.map φ := by
  have hreplies := reply_cases
    (hφ.constraints f s.service.evaluator c.thread (constraintRequest c jacobian) s.events)
  unfold evaluateConstraints
  dsimp only [map]
  generalize consult f (Evaluator.constraints s.service.evaluator c.thread
    (constraintRequest c jacobian)) s.events = a at hreplies ⊢
  generalize consult f (Evaluator.constraints (φ s.service.evaluator) c.thread
    (constraintRequest c jacobian)) s.events = b at hreplies ⊢
  obtain ⟨hending, hevaluator, houtput, hevents⟩ := hreplies
  rw [hevaluator, houtput, hevents]
  rcases hending with ⟨status, status', h, h'⟩ | ⟨payload, h, h'⟩
  · rw [h, h']
    dsimp only
    split <;> exact ⟨rfl, rfl⟩
  · rw [h, h']
    exact ⟨rfl, rfl⟩

theorem serveConstraints_restated (c : ConstraintCall) (s : Serving ω ε rows cols) :
    (Query.constraints c : Query ω).unstated (serveConstraints f c (s.map φ)).1 =
        (Query.constraints c : Query ω).unstated (serveConstraints f c s).1 ∧
      (serveConstraints f c (s.map φ)).2 = (serveConstraints f c s).2.map φ := by
  unfold serveConstraints
  simp only [show (s.map φ).service.panic = s.service.panic from rfl]
  split_ifs
  · exact ⟨rfl, rfl⟩
  · exact ⟨rfl, rfl⟩
  · cases Matrix.gather rows cols c.stride.toCount (jacobianBuffer c) with
    | error e => exact ⟨rfl, rfl⟩
    | ok jacobian => exact evaluateConstraints_restated hφ f c jacobian s

/-- **Restated evaluators serve alike**, up to the status. -/
theorem answer_restated (q : Query ω) (s : Serving ω ε rows cols) :
    q.unstated (answer f q (s.map φ)).1 = q.unstated (answer f q s).1 ∧
      (answer f q (s.map φ)).2 = (answer f q s).2.map φ := by
  cases q with
  | inquiry q => exact ⟨rfl, rfl⟩
  | objective c =>
    dsimp only [answer]
    unfold answerObjective
    cases f.gate.serving c.thread with
    | none => exact ⟨rfl, rfl⟩
    | some _ => exact serveObjective_restated hφ f c s
  | constraints c =>
    dsimp only [answer]
    unfold answerConstraints
    cases f.gate.serving c.thread with
    | none => exact ⟨rfl, rfl⟩
    | some _ => exact serveConstraints_restated hφ f c s

end Serving

/-! ## Solving -/

namespace Problem

variable [Evaluator ω ε] [Evaluator ω ε'] {φ : ε → ε'} (hφ : Evaluator.Restates ω φ)
  (p : Problem d ε GradientDescent) (g : Gate Thread) (t : Thread) (x₀ : Array Float)

include hφ

/-- **Statuses make no difference** to a solve by gradient descent. -/
theorem solve_restated :
    (p.map φ id).solve (ω := ω) g t x₀ = (p.solve g t x₀).map φ id := by
  cases h : g.grant t d x₀ with
  | error e => rw [solve_refused _ h, solve_refused _ h]; rfl
  | ok g' =>
    let f : Flight := .ofGrant h
    let lent := p.store.prepared ⟨x₀, Gate.size_of_grant h⟩
    have hcall : (p.map φ id).call (ω := ω) f lent =
        ((p.call (ω := ω) f lent).1, (p.call (ω := ω) f lent).2.map φ) := by
      have hrun := Program.run_unstated (Serving.answer_restated hφ f)
        (p.routine.solve f.thread d.counts lent.arguments)
        ⟨p.service, #[.trace (.callingRoutine d)]⟩
      rw [GradientDescent.unstated_solve] at hrun
      exact hrun
    rw [solve_granted _ h, solve_granted _ h]
    show conclude g lent ((p.map φ id).call (ω := ω) f lent).1
      ((p.map φ id).call (ω := ω) f lent).2 = _
    rw [hcall]
    exact conclude_seen (.full φ) id g lent (p.call (ω := ω) f lent).1 _

/-- **Nor do they to what the descent asks**, and what it is answered besides them. -/
theorem dialogue_restated :
    ((p.map φ id).dialogue (ω := ω) g t x₀).map Turn.unstated =
      (p.dialogue g t x₀).map fun u => (u.map (Serving.map φ)).unstated := by
  cases h : g.grant t d x₀ with
  | error e => rw [dialogue_refused _ h, dialogue_refused _ h]; rfl
  | ok g' =>
    let f : Flight := .ofGrant h
    let lent := p.store.prepared ⟨x₀, Gate.size_of_grant h⟩
    have hdialogue := Program.dialogue_unstated (Serving.answer_restated hφ f)
      (p.routine.solve f.thread d.counts lent.arguments)
      ⟨p.service, #[.trace (.callingRoutine d)]⟩
    rw [GradientDescent.unstated_solve] at hdialogue
    rw [dialogue_granted _ h, dialogue_granted _ h]
    exact hdialogue

end Problem

end NonlinearFit
