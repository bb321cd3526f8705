import NonlinearFit.Gate

/-!
# Threads at one gate

`Gate.enter?` and `Gate.leave` are put together from atomic steps, and between two steps of one
thread any number of steps of other threads may come.

**The state** (`Traffic`). A gate, and for each thread the solves under way on it. A solve may be
begun inside another one, so they form a stack, the innermost first; `Stage` says how far each has
come.

**Moves** (`Traffic.Move`). One atomic step of one thread. Where a program of the user runs, that
is outside of all solves or while the innermost one serves callbacks, a thread may begin a solve;
callbacks may come at any time.

**The invariant** (`Traffic.Inv`).

* A thread has at most one solve under way.
* It serves callbacks exactly while that solve is in its serving stage.
* At most one thread holds the flag, and the flag is claimed exactly when one does.

The delicate stages are the second and the fourth: a solve holds the flag before it serves
callbacks and after it has stopped serving them.

Main result: `exclusive_gate`, for every interleaving of the moves of all threads.
-/

namespace NonlinearFit

/-! ## Claiming the flag -/

theorem Gate.claim?_eq_some_iff {σ : Type} {g g' : Gate σ} :
    g.claim? = some g' ↔ g.claimed = false ∧ g' = { g with claimed := true } := by
  unfold claim?
  cases g.claimed <;> simp [eq_comm]

theorem Gate.claim?_eq_none_iff {σ : Type} {g : Gate σ} : g.claim? = none ↔ g.claimed = true := by
  unfold claim?
  cases g.claimed <;> simp

/-! ## Moves -/

/-- How far a solve has come. -/
inductive Stage where
  /-- It saw that its thread serves no solve. -/
  | looked
  /-- It claimed the flag. -/
  | claimed
  /-- It serves callbacks. -/
  | serving
  /-- It no longer serves callbacks, and still holds the flag. -/
  | withdrawn
deriving DecidableEq

/-- A gate with the solves under way on each thread, innermost first. -/
@[ext]
structure Traffic (σ : Type) where
  gate : Gate σ
  solves : Thread → List (σ × Stage)

/-- What a thread does in one step. -/
inductive Action (σ : Type) where
  /-- A solve begins and sees that its thread serves none. -/
  | look (s : σ)
  /-- A solve begins, sees that its thread serves one, and is rejected. -/
  | refuse (s : σ)
  | claim
  /-- A solve finds the flag claimed and is rejected. -/
  | contend
  | publish
  /-- A callback comes in and the solve `s` serves it. -/
  | serve (s : σ)
  /-- A callback comes in and no solve serves it. -/
  | stray
  | withdraw
  | free

/-- The actions by which a solve is rejected. -/
def Action.Rejects {σ : Type} : Action σ → Prop
  | refuse _ | contend => True
  | _ => False

namespace Traffic

variable {σ : Type}

/-- Nothing under way. -/
def vacant : Traffic σ := ⟨.vacant, fun _ => []⟩

/-- The traffic with another gate, and other solves on thread `t`. -/
def put (w : Traffic σ) (g : Gate σ) (t : Thread) (l : List (σ × Stage)) : Traffic σ :=
  ⟨g, fun u => if u = t then l else w.solves u⟩

/-- Whether a program of the user runs on a thread with these solves. -/
def UserRuns : List (σ × Stage) → Prop
  | [] | (_, .serving) :: _ => True
  | _ => False

/-- One atomic step of a thread. -/
inductive Move (w : Traffic σ) (t : Thread) : Action σ → Traffic σ → Prop
  | look {s : σ} (user : UserRuns (w.solves t)) (idle : w.gate.serving t = none) :
    Move w t (.look s) (w.put w.gate t ((s, .looked) :: w.solves t))
  | refuse {s s' : σ} (user : UserRuns (w.solves t)) (busy : w.gate.serving t = some s') :
    Move w t (.refuse s) w
  | claim {s : σ} {rest : List (σ × Stage)} {g : Gate σ} (at_ : w.solves t = (s, .looked) :: rest)
    (free : w.gate.claim? = some g) : Move w t .claim (w.put g t ((s, .claimed) :: rest))
  | contend {s : σ} {rest : List (σ × Stage)} (at_ : w.solves t = (s, .looked) :: rest)
    (taken : w.gate.claim? = none) : Move w t .contend (w.put w.gate t rest)
  | publish {s : σ} {rest : List (σ × Stage)} (at_ : w.solves t = (s, .claimed) :: rest) :
    Move w t .publish (w.put (w.gate.publish t s) t ((s, .serving) :: rest))
  | serve {s : σ} (busy : w.gate.serving t = some s) : Move w t (.serve s) w
  | stray (idle : w.gate.serving t = none) : Move w t .stray w
  | withdraw {s : σ} {rest : List (σ × Stage)} (at_ : w.solves t = (s, .serving) :: rest) :
    Move w t .withdraw (w.put (w.gate.withdraw t) t ((s, .withdrawn) :: rest))
  | free {s : σ} {rest : List (σ × Stage)} (at_ : w.solves t = (s, .withdrawn) :: rest) :
    Move w t .free (w.put w.gate.free t rest)

/-- The traffic that can come about, from nothing under way, by moves of any threads. -/
inductive Reachable : Traffic σ → Prop
  | vacant : Reachable vacant
  | move {w w' : Traffic σ} {t : Thread} {a : Action σ} (hw : Reachable w) (h : w.Move t a w') :
    Reachable w'

/-! ## The invariant -/

/-- A solve holds the flag from the step that claims it to the step that frees it. -/
def Stage.Holds : Stage → Prop
  | .looked => False
  | .claimed | .serving | .withdrawn => True

/-- A solve on thread `t` holds the flag. -/
def Holds (w : Traffic σ) (t : Thread) : Prop := ∃ a ∈ w.solves t, Stage.Holds a.2

/-- The solve that serves callbacks on a thread with these solves. -/
def server : List (σ × Stage) → Option σ
  | [(s, .serving)] => some s
  | _ => none

/-- What holds between any two moves. -/
structure Inv (w : Traffic σ) : Prop where
  single : ∀ t, (w.solves t).length ≤ 1
  serving : ∀ t, w.gate.serving t = server (w.solves t)
  holder : ∃ h : Option Thread, w.gate.claimed = h.isSome ∧ ∀ t, w.Holds t ↔ h = some t

theorem inv_vacant : Inv (vacant : Traffic σ) := by
  refine ⟨fun t => Nat.zero_le 1, fun t => rfl, none, rfl, fun t => ⟨?_, nofun⟩⟩
  rintro ⟨a, ha, -⟩
  exact absurd ha List.not_mem_nil

@[simp]
theorem solves_put_self (w : Traffic σ) (g : Gate σ) (t : Thread) (l : List (σ × Stage)) :
    (w.put g t l).solves t = l :=
  if_pos rfl

theorem rest_eq_nil {w : Traffic σ} (hi : Inv w) {t : Thread} {a : σ × Stage}
    {rest : List (σ × Stage)} (h : w.solves t = a :: rest) : rest = [] := by
  have := hi.single t
  rw [h, List.length_cons] at this
  exact List.eq_nil_of_length_eq_zero (by omega)

theorem holds_of_eq {w : Traffic σ} {t : Thread} {s : σ} {stage : Stage}
    (h : w.solves t = [(s, stage)]) : w.Holds t ↔ Stage.Holds stage := by
  simp [Holds, h]

theorem holds_put_self (w : Traffic σ) (g : Gate σ) (t : Thread) (s : σ) (stage : Stage) :
    (w.put g t [(s, stage)]).Holds t ↔ Stage.Holds stage := by
  simp [Holds, put]

theorem holds_put_nil (w : Traffic σ) (g : Gate σ) (t : Thread) : ¬(w.put g t []).Holds t := by
  simp [Holds, put]

theorem holds_put_other (w : Traffic σ) (g : Gate σ) {t u : Thread} (l : List (σ × Stage))
    (h : u ≠ t) : (w.put g t l).Holds u ↔ w.Holds u := by
  simp [Holds, put, h]

/-- A move of thread `t` that only changes what `t` serves, and with it the solves of `t`, keeps
the first two parts of the invariant. -/
theorem single_serving_put {w : Traffic σ} (hi : Inv w) {g : Gate σ} {t : Thread}
    {l : List (σ × Stage)} (hl : l.length ≤ 1) (self : g.serving t = server l)
    (other : ∀ u, u ≠ t → g.serving u = w.gate.serving u) :
    (∀ u, ((w.put g t l).solves u).length ≤ 1) ∧
      ∀ u, (w.put g t l).gate.serving u = server ((w.put g t l).solves u) := by
  refine ⟨fun u => ?_, fun u => ?_⟩ <;> by_cases hu : u = t
  · simpa [put, hu] using hl
  · simpa [put, hu] using hi.single u
  · simpa [put, hu] using self
  · simpa [put, hu, other u hu] using hi.serving u

/-- The holder of the flag stays the same when the flag does and `t` holds it as before. -/
theorem holder_put {w : Traffic σ} (hi : Inv w) {g : Gate σ} {t : Thread} {l : List (σ × Stage)}
    (flag : g.claimed = w.gate.claimed) (self : (w.put g t l).Holds t ↔ w.Holds t) :
    ∃ h : Option Thread,
      (w.put g t l).gate.claimed = h.isSome ∧ ∀ u, (w.put g t l).Holds u ↔ h = some u := by
  obtain ⟨h, hflag, hholds⟩ := hi.holder
  refine ⟨h, flag.trans hflag, fun u => ?_⟩
  by_cases hu : u = t
  · rw [hu, self, hholds]
  · rw [holds_put_other w g l hu, hholds]

/-- **Every move preserves the invariant.** -/
theorem inv_move {w w' : Traffic σ} {t : Thread} {a : Action σ} (hi : Inv w)
    (h : w.Move t a w') : Inv w' := by
  cases h with
  | refuse | serve | stray => exact hi
  | @look s user idle =>
    -- A thread with a serving solve would not be idle, so there is none under way.
    have hnil : w.solves t = [] := by
      cases hl : w.solves t with
      | nil => rfl
      | cons b rest =>
        obtain rfl := rest_eq_nil hi hl
        obtain ⟨s', stage⟩ := b
        have hserv := hi.serving t
        rw [hl, idle] at hserv
        rw [hl] at user
        cases stage <;> first | exact user.elim | cases hserv
    rw [hnil]
    obtain ⟨h₁, h₂⟩ := single_serving_put hi (l := [(s, .looked)]) (Nat.le_refl 1) idle fun _ _ => rfl
    refine ⟨h₁, h₂, holder_put hi rfl ?_⟩
    rw [holds_put_self]
    simp [Holds, hnil, Stage.Holds]
  | @claim s rest g at_ free =>
    obtain rfl := rest_eq_nil hi at_
    obtain ⟨hflag, rfl⟩ := Gate.claim?_eq_some_iff.mp free
    have hserv := hi.serving t
    rw [at_] at hserv
    obtain ⟨h₁, h₂⟩ := single_serving_put hi (g := { w.gate with claimed := true })
      (l := [(s, .claimed)]) (Nat.le_refl 1) hserv fun _ _ => rfl
    refine ⟨h₁, h₂, some t, rfl, fun u => ?_⟩
    obtain ⟨h, hh, hholds⟩ := hi.holder
    obtain rfl : h = none := by
      cases h with
      | none => rfl
      | some v => rw [hflag] at hh; cases hh
    by_cases hu : u = t
    · rw [hu, holds_put_self]
      simp [Stage.Holds]
    · rw [holds_put_other w _ _ hu, hholds]
      simp [Ne.symm hu]
  | @contend s rest at_ taken =>
    obtain rfl := rest_eq_nil hi at_
    have hserv := hi.serving t
    rw [at_] at hserv
    obtain ⟨h₁, h₂⟩ := single_serving_put hi (l := []) (Nat.zero_le 1) hserv fun _ _ => rfl
    refine ⟨h₁, h₂, holder_put hi rfl ?_⟩
    rw [holds_of_eq at_]
    simp [holds_put_nil, Stage.Holds]
  | @publish s rest at_ =>
    obtain rfl := rest_eq_nil hi at_
    obtain ⟨h₁, h₂⟩ := single_serving_put hi (l := [(s, .serving)]) (Nat.le_refl 1)
      (Gate.serving_publish w.gate t s) fun u hu => by simp [Gate.publish, hu]
    refine ⟨h₁, h₂, holder_put hi rfl ?_⟩
    rw [holds_put_self, holds_of_eq at_]
    simp [Stage.Holds]
  | @withdraw s rest at_ =>
    obtain rfl := rest_eq_nil hi at_
    have self : (w.gate.withdraw t).serving t = none := by simp [Gate.withdraw]
    obtain ⟨h₁, h₂⟩ := single_serving_put hi (l := [(s, .withdrawn)]) (Nat.le_refl 1) self
      fun u hu => by simp [Gate.withdraw, hu]
    refine ⟨h₁, h₂, holder_put hi rfl ?_⟩
    rw [holds_put_self, holds_of_eq at_]
    simp [Stage.Holds]
  | @free s rest at_ =>
    obtain rfl := rest_eq_nil hi at_
    have hserv := hi.serving t
    rw [at_] at hserv
    obtain ⟨h₁, h₂⟩ := single_serving_put hi (g := w.gate.free) (l := []) (Nat.zero_le 1) hserv
      fun _ _ => rfl
    refine ⟨h₁, h₂, none, rfl, fun u => ?_⟩
    obtain ⟨h, -, hholds⟩ := hi.holder
    have ht : h = some t := (hholds t).mp ((holds_of_eq at_).mpr trivial)
    by_cases hu : u = t
    · rw [hu]
      simp [holds_put_nil]
    · rw [holds_put_other w _ _ hu, hholds, ht]
      simp [Ne.symm hu]

theorem Reachable.inv {w : Traffic σ} (hw : Reachable w) : Inv w := by
  induction hw with
  | vacant => exact inv_vacant
  | move _ h ih => exact inv_move ih h

/-! ## What the invariant gives -/

theorem Inv.exclusive {w : Traffic σ} (hi : Inv w) {t u : Thread} (ht : w.Holds t)
    (hu : w.Holds u) : t = u := by
  obtain ⟨h, -, hholds⟩ := hi.holder
  exact Option.some.inj (((hholds t).mp ht).symm.trans ((hholds u).mp hu))

/-- A thread that serves callbacks serves them by its own solve, which is in its serving stage. -/
theorem Inv.solves_of_serving {w : Traffic σ} (hi : Inv w) {t : Thread} {s : σ}
    (h : w.gate.serving t = some s) : w.solves t = [(s, .serving)] := by
  rw [hi.serving t] at h
  unfold server at h
  split at h
  · next s' hs => rw [hs, Option.some.inj h]
  · cases h

theorem Inv.holds_of_claimed {w : Traffic σ} (hi : Inv w) (h : w.gate.claimed = true) :
    ∃ u, w.Holds u := by
  obtain ⟨holder, hflag, hholds⟩ := hi.holder
  cases holder with
  | none => rw [h] at hflag; cases hflag
  | some u => exact ⟨u, (hholds u).mpr rfl⟩

/-- A rejection leaves the gate alone, and some thread holds the flag at that moment. -/
theorem Inv.rejected {w w' : Traffic σ} (hi : Inv w) {t : Thread} {a : Action σ}
    (h : w.Move t a w') (ha : a.Rejects) : w'.gate = w.gate ∧ ∃ u, w.Holds u := by
  cases h with
  | refuse user busy =>
    exact ⟨rfl, t, (holds_of_eq (hi.solves_of_serving busy)).mpr trivial⟩
  | contend at_ taken => exact ⟨rfl, hi.holds_of_claimed (Gate.claim?_eq_none_iff.mp taken)⟩
  | _ => exact ha.elim

/-- **One solve at a time, on its own thread.** In whatever order the threads take their steps:

* at most one thread is between claiming the flag and freeing it;
* a thread serves callbacks only in between, and by its own solve, so a callback is never served
  by the solve of another thread;
* a solve that is rejected has changed neither the flag nor what any thread serves, and when it is
  rejected another solve has claimed the flag and not yet freed it. -/
theorem Reachable.exclusive_gate {w : Traffic σ} (hw : Reachable w) :
    (∀ t u, w.Holds t → w.Holds u → t = u) ∧
    (∀ t s, w.gate.serving t = some s → w.Holds t ∧ w.solves t = [(s, .serving)]) ∧
    (∀ t s w', w.Move t (.serve s) w' → w' = w ∧ w.solves t = [(s, .serving)]) ∧
    (∀ t s w', w.Move t (.look s) w' → w'.gate = w.gate) ∧
    (∀ t a w', w.Move t a w' → a.Rejects → w'.gate = w.gate ∧ ∃ u, w.Holds u) := by
  have hi := hw.inv
  refine ⟨fun t u => hi.exclusive, fun t s h => ?_, fun t s w' h => ?_, fun t s w' h => ?_,
    fun t a w' h ha => hi.rejected h ha⟩
  · have hs := hi.solves_of_serving h
    exact ⟨(holds_of_eq hs).mpr trivial, hs⟩
  · cases h with
    | serve busy => exact ⟨rfl, hi.solves_of_serving busy⟩
  · cases h with
    | look => rfl

/-! ### An example: two threads look before either claims -/

/-- Threads 0 and 1 both saw that they serve no solve; then thread 0 was faster. -/
def contested : Traffic Nat :=
  let looked := (vacant.put .vacant 0 [(10, .looked)]).put .vacant 1 [(11, .looked)]
  let claimed := looked.put { looked.gate with claimed := true } 0 [(10, .claimed)]
  claimed.put (claimed.gate.publish 0 10) 0 [(10, .serving)]

theorem reachable_contested : Reachable contested := by
  have first := Reachable.move (t := 0) .vacant (.look (s := 10) trivial rfl)
  have second := first.move (t := 1) (.look (s := 11) trivial rfl)
  have third := second.move (t := 0) (.claim rfl rfl)
  exact third.move (t := 0) (.publish rfl)

/-- Thread 1 is rejected when it tries to claim the flag. -/
theorem exclusive_gate_contested :
    Reachable contested ∧ contested.Move 1 .contend (contested.put contested.gate 1 []) ∧
      (contested.put contested.gate 1 []).gate = contested.gate ∧ ∃ u, contested.Holds u := by
  have h : contested.Move 1 .contend (contested.put contested.gate 1 []) := .contend rfl rfl
  exact ⟨reachable_contested, h,
    (Reachable.exclusive_gate reachable_contested).2.2.2.2 1 .contend _ h trivial⟩

/-! ## Entering and leaving without interruption -/

/-- **Entering is looking, claiming and publishing**, with no other move in between. -/
theorem moves_of_enter {w : Traffic σ} {t : Thread} {s : σ} {g : Gate σ}
    (user : UserRuns (w.solves t)) (h : w.gate.enter? t s = some g) :
    ∃ w₁ w₂ w₃, w.Move t (.look s) w₁ ∧ w₁.Move t .claim w₂ ∧ w₂.Move t .publish w₃ ∧
      w₃.gate = g := by
  obtain ⟨idle, hflag, rfl⟩ := Gate.enter?_eq_some_iff.mp h
  exact ⟨_, _, _, .look user idle,
    .claim (solves_put_self ..) (Gate.claim?_eq_some_iff.mpr ⟨hflag, rfl⟩),
    .publish (solves_put_self ..), rfl⟩

/-- A refused entry is a rejection at the first or at the second of these moves. -/
theorem moves_of_refused {w : Traffic σ} {t : Thread} {s : σ} (user : UserRuns (w.solves t))
    (h : w.gate.enter? t s = none) :
    w.Move t (.refuse s) w ∨ ∃ w₁ w₂, w.Move t (.look s) w₁ ∧ w₁.Move t .contend w₂ := by
  cases hs : w.gate.serving t with
  | some s' => exact .inl (.refuse user hs)
  | none =>
    rcases Gate.enter?_eq_none_iff.mp h with h | hflag
    · rw [hs] at h
      cases h
    · exact .inr ⟨_, _, .look user hs,
        .contend (solves_put_self ..) (Gate.claim?_eq_none_iff.mpr hflag)⟩

/-- **Leaving is withdrawing and freeing.** -/
theorem moves_of_leave {w : Traffic σ} {t : Thread} {s : σ} {rest : List (σ × Stage)}
    (at_ : w.solves t = (s, .serving) :: rest) :
    ∃ w₁ w₂, w.Move t .withdraw w₁ ∧ w₁.Move t .free w₂ ∧ w₂.gate = w.gate.leave t :=
  ⟨_, _, .withdraw at_, .free (solves_put_self ..), rfl⟩

end Traffic

end NonlinearFit
