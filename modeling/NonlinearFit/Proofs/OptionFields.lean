import NonlinearFit.Options.Basic
import Mathlib

/-!
# Options, field by field

Options are a partial map from fields to settings (`Options.setting?`), and two options with the
same map are equal (`Options.ext_setting`). Seen so, setting an option updates the map at one field,
and the check of whole options asks of each field whether setting it to its value would be accepted.

Main result: `Options.check_and_setAll`. Checking accepts exactly the options that accepted calls
build, and reports the first field that setting would refuse, with the same error. A sequence of
calls leaves in each field the last value accepted for it, so only the order of calls on the same
field matters.
-/

namespace NonlinearFit

/-- The options there are. -/
inductive Field where
  | list
  | start
  | printLevel
  | majorLimit
  | minorLimit
  | optimality
  | feasibility
  | precision
  | infiniteBound
  | derivatives
  | verify
deriving DecidableEq, Repr

/-- The fields whose values may be inadmissible, in the order of the check. -/
def Field.checked : List Field :=
  [optimality, feasibility, precision, infiniteBound, derivatives, verify]

/-- The order in which the routine hears of the fields. -/
def Field.order : List Field :=
  [list, start, printLevel, majorLimit, minorLimit, optimality, feasibility, precision,
    infiniteBound, derivatives, verify]

/-- The field that a setting is for. -/
def Setting.field : Setting → Field
  | list _ => .list
  | start _ => .start
  | printLevel _ => .printLevel
  | majorLimit _ => .majorLimit
  | minorLimit _ => .minorLimit
  | optimality _ => .optimality
  | feasibility _ => .feasibility
  | precision _ => .precision
  | infiniteBound _ => .infiniteBound
  | derivatives _ => .derivatives
  | verify _ => .verify

theorem Setting.field_mem_checked {s : Setting} {e : OptionError} (h : s.check = .error e) :
    s.field ∈ Field.checked := by
  cases s with
  | list _ | start _ | printLevel _ | majorLimit _ | minorLimit _ => cases h
  | optimality _ | feasibility _ | precision _ | infiniteBound _ | derivatives _ | verify _ =>
    simp [field, Field.checked]

namespace Options

variable {o o' : Options} {s : Setting} {f : Field} {e : OptionError}

/-- The setting of a field, if it is set. -/
def setting? (o : Options) : Field → Option Setting
  | .list => o.list.map .list
  | .start => o.start.map .start
  | .printLevel => o.printLevel.map .printLevel
  | .majorLimit => o.majorLimit.map .majorLimit
  | .minorLimit => o.minorLimit.map .minorLimit
  | .optimality => o.optimality.map .optimality
  | .feasibility => o.feasibility.map .feasibility
  | .precision => o.precision.map .precision
  | .infiniteBound => o.infiniteBound.map .infiniteBound
  | .derivatives => o.derivatives.map .derivatives
  | .verify => o.verify.map .verify

theorem field_of_setting? (h : o.setting? f = some s) : s.field = f := by
  cases f <;>
  · obtain ⟨v, -, rfl⟩ := Option.map_eq_some_iff.mp h
    rfl

@[simp] theorem setting?_unset (f : Field) : unset.setting? f = none := by cases f <;> rfl

@[simp] theorem setting?_put (o : Options) (s : Setting) (f : Field) :
    (o.put s).setting? f = if s.field = f then some s else o.setting? f := by
  cases s <;> cases f <;> rfl

/-- Options with the same settings are equal. -/
theorem ext_setting (h : ∀ f, o.setting? f = o'.setting? f) : o = o' := by
  have hinj {α : Type} {c : α → Setting} (hc : c.Injective) {a b : Option α}
      (hab : a.map c = b.map c) : a = b := Option.map_injective hc hab
  obtain ⟨⟩ := o
  obtain ⟨⟩ := o'
  rw [Options.mk.injEq]
  exact ⟨hinj (fun _ _ => Setting.start.inj) (h .start),
    hinj (fun _ _ => Setting.majorLimit.inj) (h .majorLimit),
    hinj (fun _ _ => Setting.minorLimit.inj) (h .minorLimit),
    hinj (fun _ _ => Setting.optimality.inj) (h .optimality),
    hinj (fun _ _ => Setting.feasibility.inj) (h .feasibility),
    hinj (fun _ _ => Setting.precision.inj) (h .precision),
    hinj (fun _ _ => Setting.infiniteBound.inj) (h .infiniteBound),
    hinj (fun _ _ => Setting.derivatives.inj) (h .derivatives),
    hinj (fun _ _ => Setting.verify.inj) (h .verify),
    hinj (fun _ _ => Setting.printLevel.inj) (h .printLevel),
    hinj (fun _ _ => Setting.list.inj) (h .list)⟩

/-! ## One call -/

theorem set_eq (o : Options) (s : Setting) : o.set s = s.check.map fun _ => o.put s := by
  unfold set
  cases s.check <;> rfl

theorem set_eq_error_iff : o.set s = .error e ↔ s.check = .error e := by
  rw [set_eq]
  cases s.check <;> simp [Except.map]

/-! ## Checking -/

/-- The field holds a value that setting it refuses, with the error. -/
def Offends (o : Options) (f : Field) (e : OptionError) : Prop :=
  ∃ s, o.setting? f = some s ∧ ∀ base : Options, base.set s = .error e

theorem offends_iff : o.Offends f e ↔ checkSome Setting.check (o.setting? f) = .error e := by
  unfold Offends
  cases o.setting? f with
  | none => simp [checkSome]
  | some s =>
    simp only [Option.some.injEq, exists_eq_left', checkSome, set_eq_error_iff]
    exact ⟨fun h => h unset, fun h _ => h⟩

theorem checkSome_map {α : Type} (c : α → Setting) (check : α → Except OptionError Unit)
    (h : ∀ v, (c v).check = check v) (v : Option α) :
    checkSome Setting.check (v.map c) = checkSome check v := by
  cases v with
  | none => rfl
  | some v => exact h v

/-- The check goes through the fields. -/
theorem check_eq (o : Options) :
    o.check = Field.checked.forM fun f => checkSome Setting.check (o.setting? f) := by
  unfold check
  simp only [Field.checked, setting?, List.forM_eq_forM, List.forM_cons, List.forM_nil]
  rw [checkSome_map _ (Setting.checkPositive "optimality tolerance") fun _ => rfl,
    checkSome_map _ (Setting.checkPositive "feasibility tolerance") fun _ => rfl,
    checkSome_map _ (Setting.checkPositive "function precision") fun _ => rfl,
    checkSome_map _ (Setting.checkPositive "infinite bound size") fun _ => rfl,
    checkSome_map _ Setting.checkDerivatives fun _ => rfl,
    checkSome_map _ Setting.checkVerify fun _ => rfl]
  simp

section

variable {α ε : Type} {check : α → Except ε Unit} {e : ε} {l : List α}

theorem forM_eq_ok_iff : l.forM check = .ok () ↔ ∀ a ∈ l, check a = .ok () := by
  induction l with
  | nil => simp [pure, Except.pure]
  | cons a l ih =>
    simp only [List.forM_eq_forM, List.forM_cons] at ih ⊢
    cases ha : check a <;> simp [bind, Except.bind, ih, ha]

/-- A check of a list reports the first error. -/
theorem forM_eq_error_iff : l.forM check = .error e ↔ ∃ earlier a later,
    l = earlier ++ a :: later ∧ (∀ b ∈ earlier, check b = .ok ()) ∧ check a = .error e := by
  constructor
  · intro h
    induction l with
    | nil => cases h
    | cons a l ih =>
      simp only [List.forM_eq_forM, List.forM_cons] at h ih
      cases ha : check a with
      | error e' =>
        rw [ha] at h
        obtain rfl : e' = e := Except.error.inj h
        exact ⟨[], a, l, rfl, nofun, ha⟩
      | ok =>
        rw [ha] at h
        obtain ⟨earlier, b, later, rfl, hearlier, hb⟩ := ih h
        exact ⟨a :: earlier, b, later, rfl, by simpa [ha] using hearlier, hb⟩
  · rintro ⟨earlier, a, later, rfl, hearlier, ha⟩
    induction earlier with
    | nil => simp [List.forM_eq_forM, ha, bind, Except.bind]
    | cons b earlier ih =>
      have hb := hearlier b (.head _)
      have hrest := ih fun c hc => hearlier c (.tail _ hc)
      simp only [List.forM_eq_forM] at hrest
      simp [List.forM_eq_forM, hb, hrest, bind, Except.bind]

end

/-- **Options are accepted if no field offends.** -/
theorem check_eq_ok_iff : o.check = .ok () ↔ ∀ f s, o.setting? f = some s → s.check = .ok () := by
  rw [check_eq, forM_eq_ok_iff]
  constructor
  · intro h f s hs
    cases hcheck : s.check with
    | ok => rfl
    | error e =>
      have hf := h f (field_of_setting? hs ▸ s.field_mem_checked hcheck)
      rw [hs] at hf
      exact hcheck.symm.trans hf
  · intro h f _
    cases hs : o.setting? f with
    | none => rfl
    | some s => exact h f s hs

/-- **The first field that offends is reported**, with the error of setting it to its value. -/
theorem check_eq_error_iff : o.check = .error e ↔ ∃ earlier f later,
    Field.checked = earlier ++ f :: later ∧ (∀ g ∈ earlier, ∀ e', ¬o.Offends g e') ∧
      o.Offends f e := by
  have hok (g : Field) :
      checkSome Setting.check (o.setting? g) = .ok () ↔ ∀ e', ¬o.Offends g e' := by
    simp only [offends_iff]
    cases checkSome Setting.check (o.setting? g) <;> simp
  rw [check_eq, forM_eq_error_iff]
  simp only [hok, offends_iff]

/-! ## Sequences of calls -/

/-- The options after one call, refused or not. -/
def attempt (o : Options) (s : Setting) : Options := if s.check.isOk then o.put s else o

/-- What one call does in a sequence. -/
theorem setAll_cons (o : Options) (s : Setting) (ss : List Setting) :
    o.setAll (s :: ss) =
      (((o.attempt s).setAll ss).1, s.check :: ((o.attempt s).setAll ss).2) := by
  rw [setAll, set_eq, attempt]
  cases s.check <;> rfl

theorem setAll_results (o : Options) (ss : List Setting) :
    (o.setAll ss).2 = ss.map Setting.check := by
  induction ss generalizing o with
  | nil => rfl
  | cons s ss ih => rw [setAll_cons, ih, List.map_cons]

/-- The calls that were accepted, by their results. -/
def accepted (ss : List Setting) (results : List (Except OptionError Unit)) : List Setting :=
  ((ss.zip results).filter (·.2.isOk)).map (·.1)

theorem accepted_eq (o : Options) (ss : List Setting) :
    accepted ss (o.setAll ss).2 = ss.filter (·.check.isOk) := by
  rw [setAll_results, accepted]
  induction ss with
  | nil => rfl
  | cons s ss ih =>
    simp only [List.map_cons, List.zip_cons_cons, List.filter_cons]
    split
    · rw [List.map_cons, ih]
    · exact ih

theorem setting?_attempt (o : Options) (s : Setting) (f : Field) :
    (o.attempt s).setting? f = if s.check.isOk ∧ s.field = f then some s else o.setting? f := by
  unfold attempt
  by_cases h : s.check.isOk <;> simp [h]

/-- A field holds the last setting accepted for it. -/
theorem setting?_setAll (o : Options) (ss : List Setting) (f : Field) :
    (o.setAll ss).1.setting? f =
      ((ss.filter fun s => s.check.isOk ∧ s.field = f).getLast?).or (o.setting? f) := by
  induction ss generalizing o with
  | nil => rfl
  | cons s ss ih =>
    rw [setAll_cons, ih, setting?_attempt, List.filter_cons]
    by_cases h : s.check.isOk ∧ s.field = f
    · rw [if_pos h, if_pos (decide_eq_true h), List.getLast?_cons]
      cases (ss.filter fun s => s.check.isOk ∧ s.field = f).getLast? <;> rfl
    · rw [if_neg h, if_neg (by simpa using h)]

theorem eq_ok_of_isOk (h : s.check.isOk) : s.check = .ok () := by
  cases hs : s.check with
  | ok => rfl
  | error e => simp [hs, Except.isOk, Except.toBool] at h

/-- A call, refused or not, keeps options acceptable. -/
theorem check_attempt (h : o.check = .ok ()) (s : Setting) : (o.attempt s).check = .ok () := by
  rw [check_eq_ok_iff] at h ⊢
  intro f t ht
  rw [setting?_attempt] at ht
  split at ht
  · next hs =>
    cases ht
    exact eq_ok_of_isOk hs.1
  · exact h f t ht

theorem check_setAll (h : o.check = .ok ()) (ss : List Setting) :
    (o.setAll ss).1.check = .ok () := by
  induction ss generalizing o with
  | nil => exact h
  | cons s ss ih =>
    rw [setAll_cons]
    exact ih (check_attempt h s)

/-! ## Options as a list of settings -/

theorem settings_eq (o : Options) :
    o.settings = Field.order.flatMap fun f => (o.setting? f).toList := by
  simp [settings, Field.order, setting?]

/-- The list of settings holds each field's setting once. -/
theorem filter_settings (o : Options) (f : Field) :
    o.settings.filter (·.field = f) = (o.setting? f).toList := by
  have hfield (g : Field) : (o.setting? g).toList.filter (·.field = f) =
      if g = f then (o.setting? f).toList else [] := by
    cases hg : o.setting? g with
    | none =>
      split
      · next h => rw [← h, hg]; rfl
      · rfl
    | some s =>
      have hs := field_of_setting? hg
      split
      · next h => rw [← h, hg]; simp [hs, h]
      · next h => simp [hs, h]
  rw [settings_eq, List.filter_flatMap]
  simp only [hfield]
  cases f <;> simp [Field.order]

theorem mem_settings_iff : s ∈ o.settings ↔ o.setting? s.field = some s := by
  have hmem : s ∈ o.settings ↔ s ∈ o.settings.filter (·.field = s.field) := by simp
  rw [hmem, filter_settings, Option.mem_toList]

theorem setAll_settings (h : o.check = .ok ()) : (unset.setAll o.settings).1 = o := by
  refine ext_setting fun f => ?_
  have haccepted : o.settings.filter (fun s => s.check.isOk ∧ s.field = f) =
      o.settings.filter (·.field = f) := by
    refine List.filter_congr fun s hs => ?_
    simp [check_eq_ok_iff.mp h _ s (mem_settings_iff.mp hs), Except.isOk, Except.toBool]
  rw [setting?_setAll, haccepted, filter_settings, setting?_unset, Option.or_none]
  cases o.setting? f <;> rfl

/-- A chain of accepted calls does what the sequence does, all of it being accepted. -/
theorem foldlM_set_eq_ok_iff {ss : List Setting} :
    ss.foldlM set o = .ok o' ↔ (∀ s ∈ ss, s.check = .ok ()) ∧ (o.setAll ss).1 = o' := by
  induction ss generalizing o with
  | nil => simp [setAll, pure, Except.pure]
  | cons s ss ih =>
    rw [List.foldlM_cons, setAll_cons, attempt]
    cases hs : s.check with
    | ok => simp [set_eq, hs, ih, Except.map, bind, Except.bind, Except.isOk, Except.toBool]
    | error e => simp [set_eq, hs, Except.map, bind, Except.bind]

/-- **Acceptable options are those that accepted calls build.** -/
theorem check_eq_ok_iff_built :
    o.check = .ok () ↔ ∃ ss : List Setting, ss.foldlM set unset = .ok o := by
  constructor
  · intro h
    have hok : ∀ s ∈ o.settings, s.check = .ok () := fun s hs =>
      check_eq_ok_iff.mp h _ s (mem_settings_iff.mp hs)
    exact ⟨o.settings, foldlM_set_eq_ok_iff.mpr ⟨hok, setAll_settings h⟩⟩
  · rintro ⟨ss, hss⟩
    obtain ⟨-, rfl⟩ := foldlM_set_eq_ok_iff.mp hss
    exact check_setAll rfl ss

/-- Calls on one field keep their order, and the rest does not matter. -/
theorem setAll_eq_of_filter_eq {ss ts : List Setting}
    (h : ∀ f : Field, ss.filter (·.field = f) = ts.filter (·.field = f)) (o : Options) :
    (o.setAll ss).1 = (o.setAll ts).1 := by
  have hsplit (us : List Setting) (f : Field) :
      us.filter (fun s => s.check.isOk ∧ s.field = f) =
        (us.filter (·.field = f)).filter (·.check.isOk) := by
    simp [List.filter_filter]
  refine ext_setting fun f => ?_
  rw [setting?_setAll, setting?_setAll, hsplit, hsplit, h]

/-- Calls on different fields commute. -/
theorem setAll_swap {t : Setting} (h : s.field ≠ t.field) (o : Options)
    (before after : List Setting) :
    (o.setAll (before ++ s :: t :: after)).1 = (o.setAll (before ++ t :: s :: after)).1 := by
  refine setAll_eq_of_filter_eq (fun f => ?_) o
  by_cases hs : s.field = f
  · have ht : ¬t.field = f := fun ht => h (hs.trans ht.symm)
    simp [hs, ht]
  · simp [List.filter_cons, hs]

/-- **Checking and setting agree.** Acceptable options are those that accepted calls build from
unset ones, and otherwise the check reports the first offending field as a call on that field would.
Of a sequence of calls each field keeps the last value accepted, or its old one, the results do not
depend on the options or on the other calls, only the order of calls on the same field matters, and
acceptable options stay acceptable. -/
theorem check_and_setAll :
    (∀ o : Options, o.check = .ok () ↔ ∃ ss : List Setting, ss.foldlM set unset = .ok o) ∧
    (∀ (o : Options) (e : OptionError), o.check = .error e ↔ ∃ earlier f later,
      Field.checked = earlier ++ f :: later ∧ (∀ g ∈ earlier, ∀ e', ¬o.Offends g e') ∧
        o.Offends f e) ∧
    (∀ (o : Options) (ss : List Setting) (f : Field), (o.setAll ss).1.setting? f =
      ((accepted ss (o.setAll ss).2).filter (·.field = f)).getLast?.or (o.setting? f)) ∧
    (∀ (o base : Options) (ss : List Setting),
      (o.setAll ss).2 = ss.map fun s => (base.set s).map fun _ => ()) ∧
    (∀ (o : Options) (ss ts : List Setting),
      (∀ f : Field, ss.filter (·.field = f) = ts.filter (·.field = f)) →
        (o.setAll ss).1 = (o.setAll ts).1) ∧
    (∀ (o : Options) (s t : Setting) (before after : List Setting), s.field ≠ t.field →
      (o.setAll (before ++ s :: t :: after)).1 = (o.setAll (before ++ t :: s :: after)).1) ∧
    (∀ (o : Options) (ss : List Setting), o.check = .ok () → (o.setAll ss).1.check = .ok ()) ∧
    unset.check = .ok () := by
  refine ⟨fun o => check_eq_ok_iff_built, fun o e => check_eq_error_iff, fun o ss f => ?_,
    fun o base ss => ?_, fun o ss ts h => setAll_eq_of_filter_eq h o,
    fun o s t before after h => setAll_swap h o before after, fun o ss h => check_setAll h ss, rfl⟩
  · rw [accepted_eq, List.filter_filter, setting?_setAll]
    simp [Bool.and_comm]
  · rw [setAll_results]
    refine List.map_congr_left fun s _ => ?_
    rw [set_eq]
    cases s.check <;> rfl

end Options

end NonlinearFit
