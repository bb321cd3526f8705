import NonlinearFit.Options.Document
import NonlinearFit.Proofs.OptionFields
import NonlinearFit.Proofs.Records

/-!
# Options as JSON

`Setting.Reads` says which values read as a setting. A text is read as options if it holds an object
or an array that gives each field a value which reads as its setting, or nothing or null for a field
that is not set (`Options.ofString?_eq_some_iff`).

Main result: `Options.data_format`, with the round trip through the written form and the texts that
are refused.
-/

namespace NonlinearFit

open Json

/-! ## Fields -/

namespace Field

/-- The fields in the order of data. -/
def inData : List Field :=
  [start, majorLimit, minorLimit, optimality, feasibility, precision, infiniteBound, derivatives,
    verify, printLevel, list]

/-- The field's name in data. -/
def name : Field → String
  | list => "list"
  | start => "start"
  | printLevel => "print_level"
  | majorLimit => "major_iteration_limit"
  | minorLimit => "minor_iteration_limit"
  | optimality => "optimality_tolerance"
  | feasibility => "feasibility_tolerance"
  | precision => "function_precision"
  | infiniteBound => "infinite_bound_size"
  | derivatives => "derivative_level"
  | verify => "verify_level"

/-- The integers that an integer field can hold. -/
def integers? : Field → Option (Int × Int)
  | printLevel | majorLimit | minorLimit => some (0, UInt64.size - 1)
  | derivatives => some (0, 255)
  | verify => some (-128, 127)
  | list | start | optimality | feasibility | precision | infiniteBound => none

/-- Whether the field holds a float. -/
def isFloat : Field → Bool
  | optimality | feasibility | precision | infiniteBound => true
  | list | start | printLevel | majorLimit | minorLimit | derivatives | verify => false

end Field

namespace Options

theorem nodup_names : names.Nodup := by decide +kernel

theorem name_mem_names (f : Field) : f.name ∈ names := by
  cases f <;> simp [names, Field.name]

end Options

/-! ## Values of settings -/

/-- The value names the start, as a string or as the one key of an object. -/
def Start.Names (start : Start) (v : Json) : Prop :=
  ∃ t : Text, t.decode = some start.name ∧ (v = .string t ∨ v = .object [(t, .null)])

/-- The value reads as the setting. -/
def Setting.Reads : Setting → Json → Prop
  | list echo, v => v = .bool echo
  | start s, v => s.Names v
  | printLevel w, v | majorLimit w, v | minorLimit w, v => IsInteger w.toNat v
  | optimality x, v | feasibility x, v | precision x, v | infiniteBound x, v => IsFloat x v
  | derivatives level, v => IsInteger level.toNat v
  | verify level, v => IsInteger level.toInt v

namespace Options

theorem wordOfJson?_eq_some_iff (v : Json) (w : Word) :
    wordOfJson? v = some w ↔ IsInteger w.toNat v := by
  refine map_toInt?_eq_some_iff (fun i => UInt64.ofNat i.toNat) (fun w => (w.toNat : Int))
    (fun w => ?_) (fun w => ?_) (fun i hlow hhigh => ?_) v w
  · have := w.toNat_lt
    have hsize : UInt64.size = 2 ^ 64 := rfl
    omega
  · simp
  · rw [UInt64.toNat_ofNat_of_lt' (by omega)]
    omega

theorem levelOfJson?_eq_some_iff (v : Json) (level : UInt8) :
    levelOfJson? v = some level ↔ IsInteger level.toNat v := by
  refine map_toInt?_eq_some_iff (fun i => UInt8.ofNat i.toNat) (fun level => (level.toNat : Int))
    (fun level => ?_) (fun level => ?_) (fun i hlow hhigh => ?_) v level
  · have := level.toNat_lt
    omega
  · simp
  · have hsize : UInt8.size = 256 := rfl
    rw [UInt8.toNat_ofNat_of_lt' (by omega)]
    omega

theorem signedLevelOfJson?_eq_some_iff (v : Json) (level : Int8) :
    signedLevelOfJson? v = some level ↔ IsInteger level.toInt v := by
  refine map_toInt?_eq_some_iff Int8.ofInt Int8.toInt (fun level => ?_) (fun level => ?_)
    (fun i hlow hhigh => ?_) v level
  · have := level.toInt_lt
    have := level.le_toInt
    omega
  · simp
  · exact Int8.toInt_ofInt_of_le hlow (by omega)

end Options

namespace Start

theorem ofName?_eq_some_iff (s : String) (start : Start) :
    ofName? s = some start ↔ s = start.name := by
  unfold ofName?
  split_ifs <;> cases start <;> simp_all [name]

theorem ofJson?_eq_some_iff (v : Json) (start : Start) :
    ofJson? v = some start ↔ start.Names v := by
  unfold ofJson? Names
  split
  · simp [Option.bind_eq_some_iff, ofName?_eq_some_iff]
  · simp [Option.bind_eq_some_iff, ofName?_eq_some_iff]
  · next hstring hobject =>
    refine ⟨nofun, ?_⟩
    rintro ⟨t, -, rfl | rfl⟩
    · exact absurd rfl (hstring t)
    · exact absurd rfl (hobject t)

end Start

namespace Options

variable {o : Options} {v : Json}

/-! ## Reading -/

/-- A field of the record is read as the setting of a field. -/
theorem optional?_iff (fs : Fields) {α : Type} {read : Json → Option α} (c : α → Setting)
    (hread : ∀ v a, read v = some a ↔ (c a).Reads v) (hnull : read .null = none) (name : String)
    (x : Option α) :
    fs.optional? name read = some x ↔ FieldReads Setting.Reads (x.map c) (fs.get? name) := by
  rw [optional?_eq_some_iff hread hnull, fieldReads_map]

theorem ofFields?_eq_some_iff {fs : Fields} : ofFields? fs = some o ↔
    ∀ f : Field, FieldReads Setting.Reads (o.setting? f) (fs.get? f.name) := by
  have hstart := optional?_iff fs .start Start.ofJson?_eq_some_iff rfl
  have hword (c : Word → Setting) (hc : ∀ w, (c w).Reads = IsInteger w.toNat) :=
    optional?_iff fs c (fun v w => by rw [hc, wordOfJson?_eq_some_iff]) rfl
  have hfloat (c : Float → Setting) (hc : ∀ x, (c x).Reads = IsFloat x) :=
    optional?_iff fs c (fun v x => by rw [hc, toFloat?_eq_some_iff]) rfl
  have hderivatives := optional?_iff fs .derivatives levelOfJson?_eq_some_iff rfl
  have hverify := optional?_iff fs .verify signedLevelOfJson?_eq_some_iff rfl
  have hlist := optional?_iff fs .list toBool?_eq_some_iff rfl
  simp only [ofFields?, Option.bind_eq_bind, Option.bind_eq_some_iff, Option.pure_def,
    Option.some.injEq]
  constructor
  · rintro ⟨start, hs, major, hmajor, minor, hminor, optimality, ho, feasibility, hf, precision, hp,
      infiniteBound, hi, derivatives, hd, verify, hv, print, hprint, list, hl, rfl⟩ f
    cases f with
    | list => exact (hlist _ _).mp hl
    | start => exact (hstart _ _).mp hs
    | printLevel => exact (hword .printLevel (fun _ => rfl) _ _).mp hprint
    | majorLimit => exact (hword .majorLimit (fun _ => rfl) _ _).mp hmajor
    | minorLimit => exact (hword .minorLimit (fun _ => rfl) _ _).mp hminor
    | optimality => exact (hfloat .optimality (fun _ => rfl) _ _).mp ho
    | feasibility => exact (hfloat .feasibility (fun _ => rfl) _ _).mp hf
    | precision => exact (hfloat .precision (fun _ => rfl) _ _).mp hp
    | infiniteBound => exact (hfloat .infiniteBound (fun _ => rfl) _ _).mp hi
    | derivatives => exact (hderivatives _ _).mp hd
    | verify => exact (hverify _ _).mp hv
  · intro h
    exact ⟨o.start, (hstart _ _).mpr (h .start),
      o.majorLimit, (hword .majorLimit (fun _ => rfl) _ _).mpr (h .majorLimit),
      o.minorLimit, (hword .minorLimit (fun _ => rfl) _ _).mpr (h .minorLimit),
      o.optimality, (hfloat .optimality (fun _ => rfl) _ _).mpr (h .optimality),
      o.feasibility, (hfloat .feasibility (fun _ => rfl) _ _).mpr (h .feasibility),
      o.precision, (hfloat .precision (fun _ => rfl) _ _).mpr (h .precision),
      o.infiniteBound, (hfloat .infiniteBound (fun _ => rfl) _ _).mpr (h .infiniteBound),
      o.derivatives, (hderivatives _ _).mpr (h .derivatives),
      o.verify, (hverify _ _).mpr (h .verify),
      o.printLevel, (hword .printLevel (fun _ => rfl) _ _).mpr (h .printLevel),
      o.list, (hlist _ _).mpr (h .list), rfl⟩

/-- The value holds the options: it gives each field what reads as its setting. -/
def HeldBy (o : Options) (v : Json) : Prop :=
  ∃ given, Gives names v given ∧
    ∀ f : Field, FieldReads Setting.Reads (o.setting? f) (given f.name)

theorem ofJson?_eq_some_iff : ofJson? v = some o ↔ o.HeldBy v := by
  simp only [ofJson?, HeldBy, Option.bind_eq_bind, Option.bind_eq_some_iff, ofFields?_eq_some_iff]
  refine exists_fields?_and_iff nodup_names
    (P := fun given => ∀ f : Field, FieldReads Setting.Reads (o.setting? f) (given f.name))
    fun given given' heq h f => ?_
  rw [← heq f.name (name_mem_names f)]
  exact h f

/-- **Texts are read as the options that their values hold.** -/
theorem ofString?_eq_some_iff {s : String} :
    ofString? s = some o ↔ ∃ v : Json, v.Spells s.toList ∧ o.HeldBy v :=
  ofString?_bind_eq_some_iff fun _ _ => ofJson?_eq_some_iff

end Options

/-! ## Writing -/

theorem Document.ofOption_map {α β : Type} (d : β → Document) (c : α → β) (x : Option α) :
    ofOption d (x.map c) = ofOption (d ∘ c) x := by
  cases x <;> rfl

namespace Setting

/-- What is written for a setting. -/
def document : Setting → Document
  | list echo => .bool echo
  | start s => .string s.name
  | printLevel w | majorLimit w | minorLimit w => .integer w.toNat
  | optimality x | feasibility x | precision x | infiniteBound x => .ofFloat x
  | derivatives level => .integer level.toNat
  | verify level => .integer level.toInt

/-- The setting has no float that is infinite or not a number. -/
def Finite : Setting → Prop
  | optimality x | feasibility x | precision x | infiniteBound x => x.isFinite = true
  | list _ | start _ | printLevel _ | majorLimit _ | minorLimit _ | derivatives _ | verify _ => True

theorem finite_document (s : Setting) : s.document.Finite := by
  cases s with
  | optimality x | feasibility x | precision x | infiniteBound x => exact Document.finite_ofFloat x
  | list | start | printLevel | majorLimit | minorLimit | derivatives | verify => trivial

/-- What is written for a finite setting reads as the setting. -/
theorem reads_of_standsFor {s : Setting} (hs : s.Finite) {w : Json}
    (h : w.StandsFor s.document) : s.Reads w := by
  cases s with
  | list echo =>
    cases h
    rfl
  | start start =>
    cases h with
    | string ht => exact ⟨_, ht, .inl rfl⟩
  | printLevel | majorLimit | minorLimit | derivatives | verify =>
    cases h with
    | integer hi => exact ⟨_, rfl, hi⟩
  | optimality x | feasibility x | precision x | infiniteBound x =>
    have hx : x.isFinite = true := hs
    rw [document, Document.ofFloat, if_pos hx] at h
    cases h with
    | float hn => exact ⟨_, rfl, hn⟩

/-- What reads as a setting has a finite value. -/
theorem finite_of_reads {s : Setting} {w : Json} (h : s.Reads w) : s.Finite := by
  cases s with
  | optimality x | feasibility x | precision x | infiniteBound x =>
    obtain ⟨n, -, hn⟩ := h
    exact hn.finite
  | list | start | printLevel | majorLimit | minorLimit | derivatives | verify => trivial

end Setting

namespace Options

/-- The options have no float that is infinite or not a number. -/
def Finite (o : Options) : Prop := ∀ f s, o.setting? f = some s → s.Finite

theorem toDocument_eq (o : Options) : o.toDocument =
    .record (Field.inData.map fun f => (f.name, .ofOption Setting.document (o.setting? f))) := by
  simp only [Field.inData, List.map_cons, List.map_nil, setting?, Document.ofOption_map]
  rfl

theorem finite_toDocument (o : Options) : o.toDocument.Finite := by
  rw [toDocument_eq, Document.Finite, Document.finiteFields_iff]
  intro p hp
  obtain ⟨f, -, rfl⟩ := List.mem_map.mp hp
  cases h : o.setting? f with
  | none => simp [Document.ofOption, Document.Finite]
  | some s => exact s.finite_document

/-- **Options read back as they were written**, if their floats are finite. -/
theorem ofString?_text {o : Options} (h : o.Finite) : ofString? o.toDocument.text = some o := by
  obtain ⟨v, hv, hspells⟩ := o.toDocument.exists_spells_text o.finite_toDocument
  rw [toDocument_eq] at hv
  have hnames : (Field.inData.map fun f =>
      (f.name, Document.ofOption Setting.document (o.setting? f))).map (·.1) = names := by
    rw [List.map_map]
    rfl
  obtain ⟨given, hgives, hgiven⟩ := hv.gives (hnames ▸ nodup_names)
  rw [hnames] at hgives
  refine ofString?_eq_some_iff.mpr ⟨v, hspells, given, hgives, fun f => ?_⟩
  have hmem : f ∈ Field.inData := by
    cases f <;> simp [Field.inData]
  obtain ⟨w, hw, hstands⟩ := hgiven _ (List.mem_map_of_mem hmem)
  rw [hw]
  exact fieldReads_of_standsFor hstands fun s hs hstands =>
    Setting.reads_of_standsFor (h f s hs) hstands

/-! ## Refused texts -/

variable {o : Options} {v : Json} {s : String}

theorem ofString?_eq_none (hv : v.Spells s.toList) (h : ∀ o : Options, ¬o.HeldBy v) :
    ofString? s = none :=
  ofString?_bind_eq_none (fun _ _ => ofJson?_eq_some_iff) hv h

/-- No name of a field may be repeated. -/
theorem ofString?_eq_none_of_repeated {ms : List (Text × Json)}
    (hv : (Json.object ms).Spells s.toList) {f : Field}
    (hf : 1 < (valuesAt f.name ms).length) : ofString? s = none := by
  refine ofString?_eq_none hv ?_
  rintro o ⟨given, hgives, -⟩
  exact absurd (hgives.length_valuesAt (name_mem_names f)) (by omega)

/-- There are no more items than fields. -/
theorem ofString?_eq_none_of_long {items : List Json}
    (hv : (Json.array items).Spells s.toList) (hlength : 11 < items.length) :
    ofString? s = none := by
  refine ofString?_eq_none hv ?_
  rintro o ⟨given, hgives, -⟩
  cases hgives with
  | array hle => exact absurd hle (by simpa [names] using hlength)

/-- What is given for a field is null or reads as a setting of that field. -/
theorem exists_reads (h : o.HeldBy v) {f : Field} {w : Json} (hw : HasField names v f.name w)
    (hnull : w ≠ .null) : ∃ t : Setting, t.field = f ∧ t.Reads w := by
  obtain ⟨given, hgives, hreads⟩ := h
  have hgiven := hgives.eq_some_of_hasField (name_mem_names f) hw
  have hread := hreads f
  rw [hgiven] at hread
  cases ht : o.setting? f with
  | none =>
    rw [ht] at hread
    exact absurd hread (by simp [FieldReads, hnull])
  | some t =>
    rw [ht] at hread
    obtain ⟨w', hw', ht'⟩ := hread
    cases hw'
    exact ⟨t, field_of_setting? ht, ht'⟩

/-- What reads as a setting of an integer field is an integer that the field can hold. -/
theorem isInteger_of_reads {t : Setting} {w : Json} (h : t.Reads w) {low high : Int}
    (hf : t.field.integers? = some (low, high)) : ∃ i, IsInteger i w ∧ low ≤ i ∧ i ≤ high := by
  cases t with
  | printLevel level | majorLimit level | minorLimit level =>
    cases hf
    have := level.toNat_lt
    have hsize : UInt64.size = 2 ^ 64 := rfl
    exact ⟨level.toNat, h, by omega, by omega⟩
  | derivatives level =>
    cases hf
    have := level.toNat_lt
    exact ⟨level.toNat, h, by omega, by omega⟩
  | verify level =>
    cases hf
    exact ⟨level.toInt, h, level.le_toInt, Int.le_of_lt_add_one level.toInt_lt⟩
  | list | start | optimality | feasibility | precision | infiniteBound => cases hf

/-- What reads as a setting of a float field is a literal of a double. -/
theorem isFloat_of_reads {t : Setting} {w : Json} (h : t.Reads w) (hf : t.field.isFloat = true) :
    ∃ x, IsFloat x w := by
  cases t with
  | optimality x | feasibility x | precision x | infiniteBound x => exact ⟨x, h⟩
  | list | start | printLevel | majorLimit | minorLimit | derivatives | verify => cases hf

/-- An integer field takes only integers that it can hold, written as such. -/
theorem ofString?_eq_none_of_integer (hv : v.Spells s.toList) {f : Field} {low high : Int}
    (hf : f.integers? = some (low, high)) {w : Json} (hw : HasField names v f.name w)
    (hnull : w ≠ .null) (hbad : ∀ i, IsInteger i w → i < low ∨ high < i) : ofString? s = none := by
  refine ofString?_eq_none hv fun o ho => ?_
  obtain ⟨t, rfl, ht⟩ := exists_reads ho hw hnull
  obtain ⟨i, hi, hlow, hhigh⟩ := isInteger_of_reads ht hf
  have := hbad i hi
  omega

/-- A float field takes no number that is rounded to infinity. -/
theorem ofString?_eq_none_of_float (hv : v.Spells s.toList) {f : Field} (hf : f.isFloat = true)
    {n : Numeral} (hw : HasField names v f.name (.number n)) (hbad : Binary64.overflow ≤ n.value) :
    ofString? s = none := by
  refine ofString?_eq_none hv fun o ho => ?_
  obtain ⟨t, rfl, ht⟩ := exists_reads ho hw nofun
  obtain ⟨x, m, hm, hx⟩ := isFloat_of_reads ht hf
  cases hm
  rw [← Numeral.toFloat?_eq_none_iff, Numeral.toFloat?_eq_some_iff.mpr hx] at hbad
  cases hbad

/-- Behind a value only white space may follow. -/
theorem ofString?_append_eq_none {rest : String} (hv : v.Spells s.toList)
    (hrest : ∃ c ∈ rest.toList, Lexing.isBlank c = false) : ofString? (s ++ rest) = none := by
  rw [Option.eq_none_iff_forall_ne_some]
  intro o ho
  obtain ⟨w, hw, given, hgives, -⟩ := ofString?_eq_some_iff.mp ho
  exact not_isContainer_append hv hrest hw hgives.isContainer

theorem finite_of_ofString? (h : ofString? s = some o) : o.Finite := by
  obtain ⟨v, -, given, -, hreads⟩ := ofString?_eq_some_iff.mp h
  intro f t ht
  have hread := hreads f
  rw [ht] at hread
  obtain ⟨w, -, hw⟩ := hread
  exact Setting.finite_of_reads hw

/-- **The format of options.** A text is read as options exactly if it holds an object or an array
that gives each field a literal of its setting, or nothing or null if the field is not set: an
object in any order and with any other members between, an array in the order of the fields and only
so far as it goes. So finite options read back as they were written. Refused are a name of a field
that is repeated, more items than fields, what is no integer that an integer field can hold, numbers
that are too large for a float field, and anything but white space behind the value; and all floats
that are read are finite. -/
theorem data_format :
    (∀ (s : String) (o : Options), ofString? s = some o ↔
      ∃ (v : Json) (given : String → Option Json), v.Spells s.toList ∧ Gives names v given ∧
        ∀ f : Field, FieldReads Setting.Reads (o.setting? f) (given f.name)) ∧
    (∀ o : Options, o.Finite → ofString? o.toDocument.text = some o) ∧
    (∀ (s : String) (o : Options), ofString? s = some o → o.Finite) ∧
    (∀ (s : String) (ms : List (Text × Json)) (f : Field), (Json.object ms).Spells s.toList →
      1 < (valuesAt f.name ms).length → ofString? s = none) ∧
    (∀ (s : String) (items : List Json), (Json.array items).Spells s.toList →
      11 < items.length → ofString? s = none) ∧
    (∀ (s : String) (v w : Json) (f : Field) (low high : Int), v.Spells s.toList →
      f.integers? = some (low, high) → HasField names v f.name w → w ≠ .null →
        (∀ i, IsInteger i w → i < low ∨ high < i) → ofString? s = none) ∧
    (∀ (s : String) (v : Json) (f : Field) (n : Numeral), v.Spells s.toList → f.isFloat = true →
      HasField names v f.name (.number n) → Binary64.overflow ≤ n.value → ofString? s = none) ∧
    (∀ (s rest : String) (v : Json), v.Spells s.toList →
      (∃ c ∈ rest.toList, Lexing.isBlank c = false) → ofString? (s ++ rest) = none) := by
  refine ⟨fun s o => ?_, fun o h => ofString?_text h, fun s o h => finite_of_ofString? h,
    fun s ms f hv hf => ofString?_eq_none_of_repeated hv hf,
    fun s items hv hlength => ofString?_eq_none_of_long hv hlength,
    fun s v w f low high hv hf hw hnull hbad => ofString?_eq_none_of_integer hv hf hw hnull hbad,
    fun s v f n hv hf hw hbad => ofString?_eq_none_of_float hv hf hw hbad,
    fun s rest v hv hrest => ofString?_append_eq_none hv hrest⟩
  rw [ofString?_eq_some_iff]
  exact ⟨fun ⟨v, hv, given, h⟩ => ⟨v, given, hv, h⟩, fun ⟨v, given, hv, h⟩ => ⟨v, hv, given, h⟩⟩

example : ofString? "[\"Warm\", 200, null, 1e-8]" =
    some { start := some .warm, majorLimit := some 200, optimality := some 1e-8 } := by
  decide +kernel

end Options

end NonlinearFit
