import NonlinearFit.Proofs.Watching

/-!
# What each query adds to the events

A query of the routine adds notes, and then at most one trace event: that a callback is not served,
that a constraint callback is refused, or that the evaluator panicked. Which one depends on the
thread of the callback and on the panic that the service keeps before and after the query
(`Query.Emits`).

**Turns.** `Turn.emitted` is what one turn of a dialogue adds, and `Turn.Emits` says what it can be.

Main result: `Serving.leads_answer`, for a flight that serves no other thread than its own.
-/

namespace NonlinearFit

variable {ω : Type} {d : Dimensions} {ε ρ : Type}

/-! ## Kinds of events -/

def Event.trace? : Event ω → Option Trace
  | trace x => some x
  | note _ => none

/-- The trace events among the events. -/
def traces (events : Array (Event ω)) : List Trace := events.toList.filterMap Event.trace?

/-- The callback that is said not to be served. -/
def Trace.unserved? : Trace → Option Callback
  | unserved callback => some callback
  | _ => none

/-- Whether the event tells of a call of the routine, or of its return. -/
def Trace.isBracket : Trace → Bool
  | callingRoutine _ | routineReturned .. => true
  | _ => false

/-- A constraint callback is said to be refused. -/
inductive Trace.Refuses : Trace → Prop
  | dimensions (expected found : Nat × Nat) : Refuses (.wrongDimensions expected found)
  | jacobian (e : StrideError) (stride : Nat) : Refuses (.unreadableJacobian e stride)

/-- The events `es'` are `es`, then some notes, and then the trace events `xs`. -/
def Adds (es es' : Array (Event ω)) (xs : List Trace) : Prop :=
  ∃ notes : List ω, es'.toList = es.toList ++ (notes.map .note ++ xs.map .trace)

namespace Adds

theorem refl (es : Array (Event ω)) : Adds es es [] := ⟨[], (List.append_nil _).symm⟩

theorem push {es es' : Array (Event ω)} (h : Adds es es' []) (x : Trace) :
    Adds es (es'.push (.trace x)) [x] := by
  obtain ⟨notes, h⟩ := h
  exact ⟨notes, by simp [h]⟩

end Adds

/-! ## Callbacks -/

namespace Query

/-- The callback that a query makes, and the thread on which it comes in. -/
def callback? : Query ω → Option (Callback × Thread)
  | inquiry _ => none
  | objective c => some (.objective, c.thread)
  | constraints c => some (.constraints, c.thread)

/-- The callback that a query makes, if it comes in on another thread than `t`. -/
def foreign? (t : Thread) (q : Query ω) : Option Callback :=
  q.callback?.bind fun (callback, t') => if t' = t then none else some callback

/-- The trace events that a query adds during a solve on thread `t`, given the panics that are kept
before and after it. -/
inductive Emits (t : Thread) : Query ω → Option String → Option String → List Trace → Prop
  | inquiry (q : Inquiry ω) (kept : Option String) : Emits t (.inquiry q) kept kept []
  | unserved {q : Query ω} {callback : Callback} (kept : Option String)
    (foreign : q.foreign? t = some callback) : Emits t q kept kept [.unserved callback]
  | served {q : Query ω} {callback : Callback} (kept : Option String)
    (own : q.callback? = some (callback, t)) : Emits t q kept kept []
  | refused {q : Query ω} {x : Trace} (own : q.callback? = some (.constraints, t))
    (refuses : x.Refuses) : Emits t q none none [x]
  | panicked {q : Query ω} {callback : Callback} {payload : String}
    (own : q.callback? = some (callback, t)) :
    Emits t q none (some payload) [.evaluatorPanicked]

end Query

/-! ## Serving -/

/-- During the flight callbacks are served on its own thread only. -/
def Flight.Alone (f : Flight) : Prop := ∀ t, t ≠ f.thread → f.gate.serving t = none

namespace Serving

variable {rows cols : Nat} (f : Flight)

/-- An evaluator adds notes. -/
theorem adds_consult {α : Type} (p : Inquiring ω α) (es : Array (Event ω)) :
    Adds es (consult f p es).2 [] := by
  refine Program.run_invariant (I := fun es' => Adds es es' []) (fun q es' h => ?_) p ⟨[], by simp⟩
  obtain ⟨notes, h⟩ := h
  cases q with
  | note n => exact ⟨notes ++ [n], by simp [answerInquiry, h]⟩
  | busy | attempt => exact ⟨notes, h⟩

/-- From the state `s` a query leads to `s'`, adding what it emits. -/
def Leads (q : Query ω) (s s' : Serving ω ε rows cols) : Prop :=
  ∃ xs, Adds s.events s'.events xs ∧ q.Emits f.thread s.service.panic s'.service.panic xs

variable [Evaluator ω ε] (s : Serving ω ε rows cols)

theorem leads_serveObjective {c : ObjectiveCall} (own : c.thread = f.thread) :
    Leads f (.objective c) s (serveObjective f c s).2 := by
  have hown : (Query.objective (ω := ω) c).callback? = some (.objective, f.thread) := by
    rw [← own]
    rfl
  unfold serveObjective
  split
  · exact ⟨[], .refl _, .served _ hown⟩
  · next hopen =>
    have hp : s.service.panic = none := Option.not_isSome_iff_eq_none.mp hopen
    have hasked := adds_consult f
      (Evaluator.objective s.service.evaluator c.thread (objectiveRequest c)) s.events
    dsimp only
    split
    · exact ⟨[], hasked, .served _ hown⟩
    · next payload _ =>
      refine ⟨_, hasked.push .evaluatorPanicked, ?_⟩
      simp only [recordPanic, record, hp]
      exact .panicked hown

theorem leads_evaluateConstraints {c : ConstraintCall} {m : Matrix rows cols}
    (own : c.thread = f.thread) (open_ : s.service.panic = none)
    (hgather : Matrix.gather rows cols c.stride.toCount (jacobianBuffer c) = .ok m) :
    Leads f (.constraints c) s (evaluateConstraints f c m s).2 := by
  have hown : (Query.constraints (ω := ω) c).callback? = some (.constraints, f.thread) := by
    rw [← own]
    rfl
  have hasked := adds_consult f
    (Evaluator.constraints s.service.evaluator c.thread (constraintRequest c m)) s.events
  unfold evaluateConstraints
  dsimp only
  split
  · refine ⟨_, hasked.push .evaluatorPanicked, ?_⟩
    simp only [recordPanic, record, open_]
    exact .panicked hown
  · split
    · next e hscatter =>
      -- What could be read can be written back.
      obtain ⟨written, hw⟩ :=
        Matrix.scatter_of_gather hgather (s.constraintReply f c m).output.jacobian
      cases hw.symm.trans hscatter
    · exact ⟨[], hasked, .served _ hown⟩

theorem leads_serveConstraints {c : ConstraintCall} (own : c.thread = f.thread) :
    Leads f (.constraints c) s (serveConstraints f c s).2 := by
  have hown : (Query.constraints (ω := ω) c).callback? = some (.constraints, f.thread) := by
    rw [← own]
    rfl
  unfold serveConstraints
  dsimp only
  split
  · exact ⟨[], .refl _, .served _ hown⟩
  · next hopen =>
    have hp : s.service.panic = none := Option.not_isSome_iff_eq_none.mp hopen
    split
    · refine ⟨_, (Adds.refl _).push _, ?_⟩
      simp only [record, hp]
      exact .refused hown (.dimensions ..)
    · cases hgather : Matrix.gather rows cols c.stride.toCount (jacobianBuffer c) with
      | error e =>
        refine ⟨_, (Adds.refl _).push _, ?_⟩
        simp only [record, hp]
        exact .refused hown (.jacobian ..)
      | ok m => exact leads_evaluateConstraints f s own hp hgather

/-- **What a query adds** during a flight that serves no other thread. -/
theorem leads_answer (alone : f.Alone) (q : Query ω) : Leads f q s (answer f q s).2 := by
  cases q with
  | inquiry q => exact ⟨[], adds_consult f (Program.query q) s.events, .inquiry q _⟩
  | objective c =>
    show Leads f (.objective c) s (answerObjective f c s).2
    unfold answerObjective
    by_cases own : c.thread = f.thread
    · rw [own, f.serving]
      exact leads_serveObjective f s own
    · rw [alone _ own]
      exact ⟨_, (Adds.refl _).push _, .unserved _ (if_neg own)⟩
  | constraints c =>
    show Leads f (.constraints c) s (answerConstraints f c s).2
    unfold answerConstraints
    by_cases own : c.thread = f.thread
    · rw [own, f.serving]
      exact leads_serveConstraints f s own
    · rw [alone _ own]
      exact ⟨_, (Adds.refl _).push _, .unserved _ (if_neg own)⟩

end Serving

/-! ## Counting -/

theorem filterMap_trace?_note (notes : List ω) :
    (notes.map Event.note).filterMap Event.trace? = [] := by
  simp [List.filterMap_map, Function.comp_def, Event.trace?]

theorem filterMap_trace?_trace (xs : List Trace) :
    (xs.map Event.trace).filterMap (Event.trace? (ω := ω)) = xs := by
  simp [List.filterMap_map, Function.comp_def, Event.trace?]

theorem Adds.traces {es es' : Array (Event ω)} {xs : List Trace} (h : Adds es es' xs) :
    NonlinearFit.traces es' = NonlinearFit.traces es ++ xs := by
  obtain ⟨notes, h⟩ := h
  simp only [NonlinearFit.traces, h, List.filterMap_append, filterMap_trace?_note,
    filterMap_trace?_trace, List.nil_append]

theorem traces_push (es : Array (Event ω)) (x : Trace) :
    traces (es.push (.trace x)) = traces es ++ [x] :=
  ((Adds.refl es).push x).traces

namespace Query.Emits

variable {t : Thread} {q : Query ω} {kept kept' : Option String} {xs : List Trace}

/-- A panic is told of when it is kept. -/
theorem panics (h : q.Emits t kept kept' xs) :
    kept'.toList.length = kept.toList.length + xs.count .evaluatorPanicked := by
  cases h with
  | inquiry | served => rfl
  | unserved => rfl
  | refused own refuses => cases refuses <;> rfl
  | panicked => rfl

/-- A callback is told of when no solve serves it. -/
theorem unserved_eq (h : q.Emits t kept kept' xs) :
    xs.filterMap Trace.unserved? = (q.foreign? t).toList := by
  have none_of_own {callback : Callback} (own : q.callback? = some (callback, t)) :
      q.foreign? t = none := by
    simp [Query.foreign?, own]
  cases h with
  | inquiry => rfl
  | unserved kept foreign =>
    rw [foreign]
    rfl
  | served kept own =>
    rw [none_of_own own]
    rfl
  | refused own refuses =>
    rw [none_of_own own]
    cases refuses <;> rfl
  | panicked own =>
    rw [none_of_own own]
    rfl

/-- No query tells of a call or of a return. -/
theorem inside (h : q.Emits t kept kept' xs) : ∀ x ∈ xs, x.isBracket = false := by
  intro x hx
  cases h with
  | inquiry | served => cases hx
  | unserved | panicked =>
    rw [List.mem_singleton.mp hx]
    rfl
  | refused own refuses =>
    rw [List.mem_singleton.mp hx]
    cases refuses <;> rfl

end Query.Emits

/-! ## Turns -/

namespace Turn

variable {rows cols : Nat}

/-- The events that a turn adds. -/
def emitted (u : Turn (Query ω) Query.Answer (Serving ω ε rows cols)) : List (Event ω) :=
  u.after.events.toList.drop u.before.events.size

/-- What a turn adds is notes, and then what its query emits during a solve on thread `t`. -/
def Emits (t : Thread) (u : Turn (Query ω) Query.Answer (Serving ω ε rows cols)) : Prop :=
  ∃ (notes : List ω) (xs : List Trace), u.emitted = notes.map .note ++ xs.map .trace ∧
    u.query.Emits t u.before.service.panic u.after.service.panic xs

theorem Emits.inside {t : Thread} {u : Turn (Query ω) Query.Answer (Serving ω ε rows cols)}
    (h : u.Emits t) : ∀ x ∈ u.emitted.filterMap Event.trace?, x.isBracket = false := by
  obtain ⟨notes, xs, hemitted, hemits⟩ := h
  rw [hemitted, List.filterMap_append, filterMap_trace?_note, filterMap_trace?_trace,
    List.nil_append]
  exact hemits.inside

theorem Emits.unserved_eq {t : Thread}
    {u : Turn (Query ω) Query.Answer (Serving ω ε rows cols)} (h : u.Emits t) :
    (u.emitted.filterMap Event.trace?).filterMap Trace.unserved? = (u.query.foreign? t).toList := by
  obtain ⟨notes, xs, hemitted, hemits⟩ := h
  rw [hemitted, List.filterMap_append, filterMap_trace?_note, filterMap_trace?_trace,
    List.nil_append, hemits.unserved_eq]

/-- Turns tell of the callbacks from other threads, and of no others. -/
theorem unserved_flatMap {t : Thread}
    {us : List (Turn (Query ω) Query.Answer (Serving ω ε rows cols))} (h : ∀ u ∈ us, u.Emits t) :
    ((us.flatMap emitted).filterMap Event.trace?).filterMap Trace.unserved? =
      us.filterMap fun u => u.query.foreign? t := by
  induction us with
  | nil => rfl
  | cons u rest ih =>
    have hhead := (h u List.mem_cons_self).unserved_eq
    have hrest := ih fun v hv => h v (List.mem_cons_of_mem u hv)
    rw [List.flatMap_cons, List.filterMap_append, List.filterMap_append, hhead, hrest,
      List.filterMap_cons]
    cases u.query.foreign? t <;> rfl

end Turn

namespace Serving

variable {rows cols : Nat} {f : Flight} [Evaluator ω ε]

theorem emits_turn (alone : f.Alone) (q : Query ω) (s : Serving ω ε rows cols) :
    (Turn.mk q s (answer f q s).1 (answer f q s).2).Emits f.thread := by
  obtain ⟨xs, ⟨notes, h⟩, hemits⟩ := leads_answer f s alone q
  exact ⟨notes, xs, by simp [Turn.emitted, h], hemits⟩

theorem events_answer (alone : f.Alone) (q : Query ω) (s : Serving ω ε rows cols) :
    (answer f q s).2.events.toList =
      s.events.toList ++ (Turn.mk q s (answer f q s).1 (answer f q s).2).emitted := by
  obtain ⟨xs, ⟨notes, h⟩, -⟩ := leads_answer f s alone q
  simp [Turn.emitted, h]

end Serving

end NonlinearFit
