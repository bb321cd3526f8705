import NonlinearFit.Proofs.NumberLayouts
import NonlinearFit.Proofs.OptionFields

/-!
# Option lines lose nothing

A line is a keyword and the text of a value (`Setting.line_eq`). No keyword begins with another one,
so the line of a setting has one keyword (`Setting.keyword_eq_of_line_eq`), and the texts of
admissible values differ when the values do.

Main result: `Options.lines_faithful`. Options list their settings field by field in one fixed
order, and acceptable options with the same lines are equal.
-/

namespace NonlinearFit

namespace Setting

/-! ## Keywords -/

/-- The part of a line before the value. -/
def keyword : Setting → String
  | list true => "List"
  | list false => "Nolist"
  | start .cold => "Cold Start"
  | start .warm => "Warm Start"
  | printLevel _ => "Major Print Level "
  | majorLimit _ => "Major Iteration Limit "
  | minorLimit _ => "Minor Iteration Limit "
  | optimality _ => "Optimality Tolerance "
  | feasibility _ => "Feasibility Tolerance "
  | precision _ => "Function Precision "
  | infiniteBound _ => "Infinite Bound Size "
  | derivatives _ => "Derivative Level "
  | verify _ => "Verify Level "

/-- The text of the value. -/
def valueText : Setting → String
  | list _ | start _ => ""
  | printLevel v | majorLimit v | minorLimit v => toString v.toNat
  | optimality v | feasibility v | precision v | infiniteBound v => Layout.scientific.write v
  | derivatives v => toString v.toNat
  | verify v => toString v.toInt

theorem line_eq (s : Setting) : s.line = s.keyword ++ s.valueText := by
  cases s with
  | list echo => cases echo <;> rfl
  | start start => cases start <;> rfl
  | printLevel _ | majorLimit _ | minorLimit _ | optimality _ | feasibility _ | precision _
  | infiniteBound _ | derivatives _ | verify _ => rfl

/-- The keywords and the fields that they belong to. -/
def keywords : List (String × Field) :=
  [("List", .list), ("Nolist", .list), ("Cold Start", .start), ("Warm Start", .start),
    ("Major Print Level ", .printLevel), ("Major Iteration Limit ", .majorLimit),
    ("Minor Iteration Limit ", .minorLimit), ("Optimality Tolerance ", .optimality),
    ("Feasibility Tolerance ", .feasibility), ("Function Precision ", .precision),
    ("Infinite Bound Size ", .infiniteBound), ("Derivative Level ", .derivatives),
    ("Verify Level ", .verify)]

theorem keyword_mem (s : Setting) : (s.keyword, s.field) ∈ keywords := by
  cases s with
  | list echo => cases echo <;> simp [keyword, field, keywords]
  | start start => cases start <;> simp [keyword, field, keywords]
  | printLevel _ | majorLimit _ | minorLimit _ | optimality _ | feasibility _ | precision _
  | infiniteBound _ | derivatives _ | verify _ => simp [keyword, field, keywords]

/-- No keyword begins with another one. -/
theorem keywords_prefixFree :
    ∀ p ∈ keywords, ∀ q ∈ keywords, p.1.toList <+: q.1.toList → p = q := by
  decide +kernel

variable {s t : Setting}

/-- The line of a setting tells its keyword and its field. -/
theorem keyword_eq_of_line_eq (h : s.line = t.line) :
    s.keyword = t.keyword ∧ s.field = t.field := by
  have hs : s.keyword.toList <+: s.line.toList := by
    rw [line_eq, String.toList_append]
    exact List.prefix_append ..
  have ht : t.keyword.toList <+: s.line.toList := by
    rw [h, line_eq, String.toList_append]
    exact List.prefix_append ..
  rw [← Prod.mk.injEq]
  rcases List.prefix_or_prefix_of_prefix hs ht with hst | hts
  · exact keywords_prefixFree _ s.keyword_mem _ t.keyword_mem hst
  · exact (keywords_prefixFree _ t.keyword_mem _ s.keyword_mem hts).symm

/-! ## Values -/

theorem valueText_eq_of_line_eq (h : s.line = t.line) : s.valueText = t.valueText := by
  have hkeyword := (keyword_eq_of_line_eq h).1
  rw [line_eq, line_eq, hkeyword] at h
  simpa using h

theorem checkPositive_eq_ok_iff {name : String} {x : Float} :
    checkPositive name x = .ok () ↔ x.isFinite ∧ 0.0 < x := by
  unfold checkPositive
  split <;> simp_all

theorem toString_nat_injective {k l : Nat} (h : toString k = toString l) : k = l :=
  Int.ofNat.inj (toString_int_injective h)

/-- **The line of an admissible setting tells the setting.** -/
theorem line_injective (hs : s.check = .ok ()) (ht : t.check = .ok ()) (h : s.line = t.line) :
    s = t := by
  obtain ⟨hkeyword, hfield⟩ := keyword_eq_of_line_eq h
  have hvalue := valueText_eq_of_line_eq h
  -- Off the diagonal the fields differ.
  cases s <;> cases t <;> try cases hfield
  case list.list a b =>
    cases a <;> cases b <;> first | rfl | exact absurd hkeyword (by decide)
  case start.start a b =>
    cases a <;> cases b <;> first | rfl | exact absurd hkeyword (by decide)
  case printLevel.printLevel | majorLimit.majorLimit | minorLimit.minorLimit =>
    exact congrArg _ (UInt64.toNat_inj.mp (toString_nat_injective hvalue))
  case optimality.optimality | feasibility.feasibility | precision.precision
      | infiniteBound.infiniteBound =>
    exact congrArg _ (Layout.write_injective (checkPositive_eq_ok_iff.mp hs).1
      (checkPositive_eq_ok_iff.mp ht).1 hvalue)
  case derivatives.derivatives =>
    exact congrArg _ (UInt8.toNat_inj.mp (toString_nat_injective hvalue))
  case verify.verify =>
    exact congrArg _ (Int8.toInt_inj.mp (toString_int_injective hvalue))

end Setting

namespace Options

variable {o o' : Options}

/-- The lines stand in the fixed order of the fields, one for each field that is set. -/
theorem lines_eq (o : Options) :
    o.lines = Field.order.filterMap fun f => (o.setting? f).map Setting.line := by
  rw [lines, settings_eq, ← List.filterMap_eq_flatMap_toList, List.map_filterMap]

/-- Options with the same list of settings are equal. -/
theorem settings_injective (h : o.settings = o'.settings) : o = o' := by
  refine ext_setting fun f => ?_
  have hlist : (o.setting? f).toList = (o'.setting? f).toList := by
    rw [← filter_settings, h, filter_settings]
  simpa using congrArg List.head? hlist

/-- Lists of admissible settings with the same lines are equal. -/
theorem map_line_injective {ss ts : List Setting} (hss : ∀ s ∈ ss, s.check = .ok ())
    (hts : ∀ t ∈ ts, t.check = .ok ()) (h : ss.map Setting.line = ts.map Setting.line) :
    ss = ts := by
  lift ss to List { s : Setting // s.check = .ok () } using hss
  lift ts to List { s : Setting // s.check = .ok () } using hts
  have hinj : Function.Injective fun s : { s : Setting // s.check = .ok () } => s.1.line :=
    fun s t hline => Subtype.ext (Setting.line_injective s.2 t.2 hline)
  rw [List.map_map, List.map_map] at h
  rw [List.map_injective_iff.mpr hinj h]

theorem lines_injective (h : o.check = .ok ()) (h' : o'.check = .ok ())
    (hlines : o.lines = o'.lines) : o = o' := by
  have hok {o : Options} (h : o.check = .ok ()) : ∀ s ∈ o.settings, s.check = .ok () :=
    fun s hs => check_eq_ok_iff.mp h _ s (mem_settings_iff.mp hs)
  exact settings_injective (map_line_injective (hok h) (hok h') hlines)

/-- **Lines are faithful to options.** Any options have one line for each field that is set, in one
fixed order in which each field stands once; the line of a setting tells the field, whatever the
value; and acceptable options with the same lines are equal. -/
theorem lines_faithful :
    (∀ o : Options, o.lines = Field.order.filterMap fun f => (o.setting? f).map Setting.line) ∧
    (∀ f : Field, Field.order.count f = 1) ∧
    (∀ s t : Setting, s.line = t.line → s.field = t.field) ∧
    (∀ o o' : Options, o.check = .ok () → o'.check = .ok () → o.lines = o'.lines → o = o') := by
  refine ⟨lines_eq, ?_, fun s t h => (Setting.keyword_eq_of_line_eq h).2,
    fun o o' h h' hlines => lines_injective h h' hlines⟩
  intro f
  cases f <;> rfl

example :
    ({ start := some .warm, majorLimit := some 200, optimality := some 1e-8 } : Options).lines =
    ["Warm Start", "Major Iteration Limit 200", "Optimality Tolerance 1e-8"] := by
  decide +kernel

end Options

end NonlinearFit
