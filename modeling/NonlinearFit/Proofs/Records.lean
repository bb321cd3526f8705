import NonlinearFit.Proofs.JsonTexts

/-!
# Records in JSON

`Json.Gives names v g` says what a value gives to the fields of a record: an object gives each known
name at most once, in any order and with anything else between, and an array gives the first fields
in the record's order. Reading a record finds exactly this (`exists_fields?_iff`).

A value that stands for a written record gives each field the value that stands for it
(`StandsFor.gives`).
-/

namespace NonlinearFit.Json

/-- The values that an object has under a name. -/
def valuesAt (name : String) (ms : List (Text × Json)) : List Json :=
  (ms.filter (·.1.decode = some name)).map (·.2)

/-- The value gives the fields with these names as `given` says. All keys of an object have to be
strings, that is without lone surrogates. -/
inductive Gives (names : List String) : Json → (String → Option Json) → Prop where
  | object {ms : List (Text × Json)} {given : String → Option Json}
      (hkeys : ∀ m ∈ ms, m.1.decode ≠ none)
      (hvalues : ∀ name ∈ names, valuesAt name ms = (given name).toList) :
      Gives names (.object ms) given
  | array {items : List Json} {given : String → Option Json}
      (hlength : items.length ≤ names.length)
      (hitems : ∀ (i : Nat) (name : String), names[i]? = some name → given name = items[i]?) :
      Gives names (.array items) given

/-- Something is given for the name, and it has the property. -/
def GivenWith (given : String → Option Json) (name : String) (P : Json → Prop) : Prop :=
  ∃ w, given name = some w ∧ P w

namespace GivenWith

variable {given given' : String → Option Json} {name : String} {P Q : Json → Prop}

theorem imp (h : GivenWith given name P) (hPQ : ∀ w, P w → Q w) : GivenWith given name Q := by
  obtain ⟨w, hw, hP⟩ := h
  exact ⟨w, hw, hPQ w hP⟩

theorem congr (h : GivenWith given name P) (heq : given name = given' name) :
    GivenWith given' name P := by
  obtain ⟨w, hw, hP⟩ := h
  exact ⟨w, heq ▸ hw, hP⟩

/-- Only one thing is given for a name. -/
theorem exists_and (h : GivenWith given name P) (h' : GivenWith given name Q) :
    ∃ w, P w ∧ Q w := by
  obtain ⟨w, hw, hP⟩ := h
  obtain ⟨w', hw', hQ⟩ := h'
  rw [hw] at hw'
  cases hw'
  exact ⟨w, hP, hQ⟩

end GivenWith

/-- Something given for a name: under it in an object, or in its place in an array. -/
inductive HasField (names : List String) : Json → String → Json → Prop where
  | member {ms : List (Text × Json)} {name : String} {w : Json} (h : w ∈ valuesAt name ms) :
      HasField names (.object ms) name w
  | item {items : List Json} {i : Nat} {name : String} {w : Json} (hi : names[i]? = some name)
      (hw : items[i]? = some w) : HasField names (.array items) name w

theorem Gives.eq_some_of_hasField {names : List String} {v w : Json}
    {given : String → Option Json} {name : String} (h : Gives names v given)
    (hname : name ∈ names) (hw : HasField names v name w) : given name = some w := by
  cases h with
  | object _ hvalues =>
    cases hw with
    | member hmem =>
      rw [hvalues name hname] at hmem
      exact Option.mem_toList.mp hmem
  | array _ hitems =>
    cases hw with
    | item hi hw => rw [hitems _ name hi, hw]

/-- An object gives each field at most once. -/
theorem Gives.length_valuesAt {names : List String} {ms : List (Text × Json)}
    {given : String → Option Json} {name : String} (h : Gives names (.object ms) given)
    (hname : name ∈ names) : (valuesAt name ms).length ≤ 1 := by
  cases h with
  | object _ hvalues =>
    rw [hvalues name hname]
    cases given name <;> simp

/-- The value does not give the field once and with something. -/
inductive FailsToGive (names : List String) : Json → String → Prop where
  | missing {ms : List (Text × Json)} {name : String} (h : valuesAt name ms = []) :
      FailsToGive names (.object ms) name
  | repeated {ms : List (Text × Json)} {name : String} (h : 1 < (valuesAt name ms).length) :
      FailsToGive names (.object ms) name
  | null {v : Json} {name : String} (h : HasField names v name .null) : FailsToGive names v name

/-- A required field has to be given. -/
theorem FailsToGive.not_givenWith {names : List String} {v : Json}
    {given : String → Option Json} {name : String} {P : Json → Prop}
    (h : FailsToGive names v name) (hgives : Gives names v given) (hname : name ∈ names)
    (hnull : ¬P .null) : ¬GivenWith given name P := by
  rintro ⟨w, hw, hP⟩
  cases h with
  | missing hmissing =>
    cases hgives with
    | object _ hvalues => simp [hvalues name hname, hw] at hmissing
  | repeated hrepeated => exact absurd (hgives.length_valuesAt hname) (by omega)
  | null hfield =>
    rw [hgives.eq_some_of_hasField hname hfield] at hw
    cases hw
    exact hnull hP

theorem Gives.isContainer {names : List String} {v : Json} {given : String → Option Json}
    (h : Gives names v given) : v.IsContainer := by
  cases h with
  | object => exact .object _
  | array => exact .array _

/-! ## Objects -/

section

variable {α β : Type} {f : α → Option β} {l : List α}

theorem exists_mapM_iff : (∃ l', l.mapM f = some l') ↔ ∀ a ∈ l, ∃ b, f a = some b := by
  induction l with
  | nil => simp
  | cons a l ih =>
    rw [List.forall_mem_cons, ← ih]
    simp only [List.mapM_cons, Option.bind_eq_bind, Option.bind_eq_some_iff, Option.pure_def,
      Option.some.injEq]
    constructor
    · rintro ⟨_, b, hb, l', hl', rfl⟩
      exact ⟨⟨b, hb⟩, l', hl'⟩
    · rintro ⟨⟨b, hb⟩, l', hl'⟩
      exact ⟨_, b, hb, l', hl', rfl⟩

end

/-- The members with decoded keys have the same values under each name. -/
theorem valuesAt_of_mapM {ms : List (Text × Json)} {keys : List (String × Json)}
    (h : ms.mapM (fun m => m.1.decode.map (·, m.2)) = some keys) (name : String) :
    (keys.filter (·.1 == name)).map (·.2) = valuesAt name ms := by
  induction ms generalizing keys with
  | nil =>
    cases h
    rfl
  | cons m ms ih =>
    simp only [List.mapM_cons, Option.bind_eq_bind, Option.bind_eq_some_iff, Option.pure_def,
      Option.some.injEq, Option.map_eq_some_iff] at h
    obtain ⟨_, ⟨key, hkey, rfl⟩, rest, hrest, rfl⟩ := h
    have ih := ih hrest
    unfold valuesAt at ih ⊢
    by_cases hname : key = name <;> simp [hkey, hname, ih]

/-- The field of a name, if the name stands at most once. -/
def fieldAt? (name : String) (keys : List (String × Json)) : Option (String × Option Json) :=
  match keys.filter (·.1 == name) with
  | [] => some (name, none)
  | [(_, v)] => some (name, some v)
  | _ => none

theorem fieldAt?_eq_some_iff {name : String} {keys : List (String × Json)}
    {field : String × Option Json} : fieldAt? name keys = some field ↔
      field.1 = name ∧ (keys.filter (·.1 == name)).map (·.2) = field.2.toList := by
  unfold fieldAt?
  obtain ⟨name', v⟩ := field
  generalize keys.filter (·.1 == name) = found
  rcases found with _ | ⟨⟨_, w⟩, _ | _⟩ <;> cases v <;> simp [@eq_comm _ name']

theorem get?_of_mapM {names : List String} {keys : List (String × Json)} {fs : Fields}
    (h : names.mapM (fieldAt? · keys) = some fs) :
    ∀ name ∈ names, (keys.filter (·.1 == name)).map (·.2) = (fs.get? name).toList := by
  induction names generalizing fs with
  | nil => exact nofun
  | cons first names ih =>
    simp only [List.mapM_cons, Option.bind_eq_bind, Option.bind_eq_some_iff, Option.pure_def,
      Option.some.injEq] at h
    obtain ⟨⟨first', v⟩, hfirst, rest, hrest, rfl⟩ := h
    obtain ⟨rfl, hvalues⟩ := fieldAt?_eq_some_iff.mp hfirst
    intro name hname
    by_cases heq : name = first'
    · subst heq
      simpa [Fields.get?] using hvalues
    · have hmem := (List.mem_cons.mp hname).resolve_left heq
      have hbeq : (name == first') = false := beq_false_of_ne heq
      simpa [Fields.get?, List.lookup_cons, hbeq] using ih hrest name hmem

theorem fieldsOfMembers?_eq (names : List String) (ms : List (Text × Json)) :
    fieldsOfMembers? names ms = (ms.mapM fun m => m.1.decode.map (·, m.2)) >>= fun keys =>
      names.mapM (fieldAt? · keys) :=
  rfl

theorem exists_fieldsOfMembers?_iff {names : List String} {ms : List (Text × Json)}
    {given : String → Option Json} :
    (∃ fs, fieldsOfMembers? names ms = some fs ∧ ∀ name ∈ names, fs.get? name = given name) ↔
      Gives names (.object ms) given := by
  have hdecode : (∃ keys, ms.mapM (fun m => m.1.decode.map (·, m.2)) = some keys) ↔
      ∀ m ∈ ms, m.1.decode ≠ none := by
    rw [exists_mapM_iff]
    simp [Option.ne_none_iff_exists']
  simp only [fieldsOfMembers?_eq, Option.bind_eq_bind, Option.bind_eq_some_iff]
  constructor
  · rintro ⟨fs, ⟨keys, hkeys, hfs⟩, hgiven⟩
    refine .object (hdecode.mp ⟨keys, hkeys⟩) fun name hname => ?_
    rw [← hgiven name hname, ← valuesAt_of_mapM hkeys, get?_of_mapM hfs name hname]
  · rintro ⟨hall, hvalues⟩
    obtain ⟨keys, hkeys⟩ := hdecode.mpr hall
    have hfield : ∀ name ∈ names, ∃ field, fieldAt? name keys = some field := by
      intro name hname
      refine ⟨(name, given name), fieldAt?_eq_some_iff.mpr ⟨rfl, ?_⟩⟩
      rw [valuesAt_of_mapM hkeys, hvalues name hname]
    obtain ⟨fs, hfs⟩ := exists_mapM_iff.mpr hfield
    refine ⟨fs, ⟨keys, hkeys, hfs⟩, fun name hname => ?_⟩
    have hlist : (Fields.get? fs name).toList = (given name).toList := by
      rw [← get?_of_mapM hfs name hname, valuesAt_of_mapM hkeys, hvalues name hname]
    simpa using congrArg List.head? hlist

/-! ## Arrays -/

/-- The items stand in front, and the names behind them get nothing. -/
theorem get?_zip {names : List String} (hnames : names.Nodup) (items : List Json)
    (hlength : items.length ≤ names.length) {i : Nat} {name : String} (hi : names[i]? = some name) :
    Fields.get? (names.zip (items.map some ++ .replicate (names.length - items.length) none)) name =
      items[i]? := by
  induction names generalizing items i with
  | nil => cases hi
  | cons first names ih =>
    obtain ⟨hfirst, hnames⟩ := List.nodup_cons.mp hnames
    cases i with
    | zero =>
      cases hi
      cases items <;> simp [Fields.get?, List.replicate_succ]
    | succ i =>
      have hname : (name == first) = false := by
        refine beq_false_of_ne ?_
        rintro rfl
        exact hfirst (List.mem_of_getElem? hi)
      cases items with
      | nil =>
        have hrest := ih hnames [] (Nat.zero_le _) hi
        simpa [Fields.get?, List.replicate_succ, List.lookup_cons, hname] using hrest
      | cons item items =>
        have hrest := ih hnames items (Nat.le_of_succ_le_succ hlength) hi
        simpa [Fields.get?, List.lookup_cons, hname] using hrest

theorem exists_fieldsOfItems?_iff {names : List String} (hnames : names.Nodup)
    {items : List Json} {given : String → Option Json} :
    (∃ fs, fieldsOfItems? names items = some fs ∧ ∀ name ∈ names, fs.get? name = given name) ↔
      Gives names (.array items) given := by
  unfold fieldsOfItems?
  constructor
  · rintro ⟨fs, hfs, hgiven⟩
    split at hfs
    · next hlength =>
      cases hfs
      refine .array hlength fun i name hi => ?_
      rw [← hgiven name (List.mem_of_getElem? hi), get?_zip hnames items hlength hi]
    · cases hfs
  · intro h
    cases h with
    | array hlength hitems =>
      refine ⟨_, if_pos hlength, fun name hname => ?_⟩
      obtain ⟨i, hi⟩ := List.mem_iff_getElem?.mp hname
      rw [get?_zip hnames items hlength hi, hitems i name hi]

/-- **Reading a record finds what the value gives.** -/
theorem exists_fields?_iff {names : List String} (hnames : names.Nodup) {v : Json}
    {given : String → Option Json} :
    (∃ fs, v.fields? names = some fs ∧ ∀ name ∈ names, fs.get? name = given name) ↔
      Gives names v given := by
  cases v with
  | object ms => exact exists_fieldsOfMembers?_iff
  | array items => exact exists_fieldsOfItems?_iff hnames
  | null | bool | number | string =>
    refine ⟨?_, nofun⟩
    rintro ⟨fs, hfs, -⟩
    cases hfs

/-- What is asked of the fields that are read can be asked of what the value gives. -/
theorem exists_fields?_and_iff {names : List String} (hnames : names.Nodup) {v : Json}
    {P : (String → Option Json) → Prop}
    (hP : ∀ given given', (∀ name ∈ names, given name = given' name) → P given → P given') :
    (∃ fs, v.fields? names = some fs ∧ P fs.get?) ↔ ∃ given, Gives names v given ∧ P given := by
  constructor
  · rintro ⟨fs, hfs, h⟩
    exact ⟨fs.get?, (exists_fields?_iff hnames).mp ⟨fs, hfs, fun _ _ => rfl⟩, h⟩
  · rintro ⟨given, hgives, h⟩
    obtain ⟨fs, hfs, hgiven⟩ := (exists_fields?_iff hnames).mpr hgives
    exact ⟨fs, hfs, hP _ _ (fun name hname => (hgiven name hname).symm) h⟩

/-! ## Scalars -/

/-- The value is a literal of the integer. -/
def IsInteger (i : Int) (v : Json) : Prop := ∃ n, v = .number n ∧ n.integer? = some i

/-- The value is a literal of the float. -/
def IsFloat (x : Float) (v : Json) : Prop := ∃ n, v = .number n ∧ n.Denotes x

theorem toFloat?_eq_some_iff (v : Json) (x : Float) : v.toFloat? = some x ↔ IsFloat x v := by
  unfold IsFloat
  cases v with
  | number n => simp [toFloat?, Numeral.toFloat?_eq_some_iff]
  | null | bool | string | array | object => simp [toFloat?]

theorem toBool?_eq_some_iff (v : Json) (b : Bool) : v.toBool? = some b ↔ v = .bool b := by
  cases v <;> simp [toBool?]

theorem toInt?_eq_some_iff {low high : Int} (v : Json) (i : Int) :
    v.toInt? low high = some i ↔ IsInteger i v ∧ low ≤ i ∧ i ≤ high := by
  unfold IsInteger
  cases v with
  | number n => simp [toInt?, Option.filter_eq_some_iff]
  | null | bool | string | array | object => simp [toInt?]

/-- Integers of a bounded type are read from their literals. -/
theorem map_toInt?_eq_some_iff {α : Type} {low high : Int} (ofInt : Int → α) (toInt : α → Int)
    (hbounds : ∀ a, low ≤ toInt a ∧ toInt a ≤ high) (hof : ∀ a, ofInt (toInt a) = a)
    (hto : ∀ i, low ≤ i → i ≤ high → toInt (ofInt i) = i) (v : Json) (a : α) :
    (v.toInt? low high).map ofInt = some a ↔ IsInteger (toInt a) v := by
  simp only [Option.map_eq_some_iff, toInt?_eq_some_iff]
  constructor
  · rintro ⟨i, ⟨hi, hlow, hhigh⟩, rfl⟩
    rwa [hto i hlow hhigh]
  · intro h
    exact ⟨toInt a, ⟨h, hbounds a⟩, hof a⟩

/-! ## Fields -/

section

variable {α : Type} {Reads : α → Json → Prop} {fs : Fields} {name : String}
  {read : Json → Option α}

/-- What is given for a field that may be unset: for an unset field nothing or null. -/
def FieldReads (Reads : α → Json → Prop) : Option α → Option Json → Prop
  | none, given => given = none ∨ given = some .null
  | some a, given => ∃ v, given = some v ∧ Reads a v

theorem fieldReads_map {β : Type} (c : β → α) (x : Option β) (given : Option Json) :
    FieldReads Reads (x.map c) given ↔ FieldReads (fun b => Reads (c b)) x given := by
  cases x <;> rfl

theorem optional?_eq_some_iff (hread : ∀ v a, read v = some a ↔ Reads a v)
    (hnull : read .null = none) {x : Option α} :
    fs.optional? name read = some x ↔ FieldReads Reads x (fs.get? name) := by
  unfold Fields.optional?
  generalize fs.get? name = given
  rcases given with _ | v
  · cases x <;> simp [FieldReads]
  cases v with
  | null =>
    have hnone (a : α) : ¬Reads a .null := by simp [← hread, hnull]
    cases x <;> simp [FieldReads, hnone]
  | bool | number | string | array | object => cases x <;> simp [FieldReads, hread]

theorem required?_eq_some_iff (hread : ∀ v a, read v = some a ↔ Reads a v) (fs : Fields)
    (name : String) (a : α) :
    fs.required? name read = some a ↔ GivenWith fs.get? name (Reads a) := by
  simp only [Fields.required?, GivenWith, Option.bind_eq_bind, Option.bind_eq_some_iff, hread]

end

/-- What stands for a field that may be unset is given for it. -/
theorem fieldReads_of_standsFor {α : Type} {Reads : α → Json → Prop} {d : α → Document}
    {x : Option α} {w : Json} (h : w.StandsFor (.ofOption d x))
    (hreads : ∀ a, x = some a → w.StandsFor (d a) → Reads a w) : FieldReads Reads x (some w) := by
  cases x with
  | none =>
    cases h
    exact .inr rfl
  | some a => exact ⟨w, rfl, hreads a rfl h⟩

/-! ## Written records -/

theorem valuesAt_cons (name : String) (m : Text × Json) (ms : List (Text × Json)) :
    valuesAt name (m :: ms) =
      if m.1.decode = some name then m.2 :: valuesAt name ms else valuesAt name ms := by
  unfold valuesAt
  rw [List.filter_cons]
  split <;> simp_all

theorem valuesAt_eq_nil {name : String} {ms : List (Text × Json)}
    (h : some name ∉ ms.map (·.1.decode)) : valuesAt name ms = [] := by
  induction ms with
  | nil => rfl
  | cons m ms ih =>
    rw [List.map_cons, List.mem_cons, not_or] at h
    rw [valuesAt_cons, if_neg fun hm => h.1 hm.symm, ih h.2]

/-- A value gives the fields in one way. -/
theorem Gives.unique {names : List String} {v : Json} {given given' : String → Option Json}
    (h : Gives names v given) (h' : Gives names v given') :
    ∀ name ∈ names, given name = given' name := by
  intro name hname
  cases h with
  | object _ hvalues =>
    cases h' with
    | object _ hvalues' =>
      have hlist := (hvalues name hname).symm.trans (hvalues' name hname)
      simpa using congrArg List.head? hlist
  | array _ hitems =>
    cases h' with
    | array _ hitems' =>
      obtain ⟨i, hi⟩ := List.mem_iff_getElem?.mp hname
      rw [hitems i name hi, hitems' i name hi]

/-- Each field of a written record stands once. -/
theorem valuesAt_of_standsFor {ms : List (Text × Json)} {fs : List (String × Document)}
    (hkeys : ms.map (·.1.decode) = fs.map (some ·.1))
    (hvalues : List.Forall₂ StandsFor (ms.map (·.2)) (fs.map (·.2)))
    (hnodup : (fs.map (·.1)).Nodup) :
    ∀ f ∈ fs, ∃ v, valuesAt f.1 ms = [v] ∧ v.StandsFor f.2 := by
  induction fs generalizing ms with
  | nil => exact nofun
  | cons first fs ih =>
    cases ms with
    | nil => cases hkeys
    | cons m ms =>
      obtain ⟨hkey, hkeys'⟩ := List.cons.inj hkeys
      obtain ⟨hvalue, hvalues'⟩ := List.forall₂_cons.mp hvalues
      obtain ⟨hfirst, hnodup'⟩ := List.nodup_cons.mp hnodup
      dsimp only at hkey hvalue hfirst
      intro f hf
      rw [valuesAt_cons, hkey]
      rcases List.mem_cons.mp hf with rfl | hf
      · have hnone : valuesAt f.1 ms = [] := by
          refine valuesAt_eq_nil ?_
          rw [hkeys']
          simpa using hfirst
        exact ⟨m.2, by simp [hnone], hvalue⟩
      · have hne : first.1 ≠ f.1 := fun heq => hfirst (heq ▸ List.mem_map_of_mem hf)
        rw [if_neg fun heq => hne (Option.some.inj heq)]
        exact ih hkeys' hvalues' hnodup' f hf

/-- **What stands for a record gives its fields.** -/
theorem StandsFor.gives {v : Json} {fs : List (String × Document)}
    (h : v.StandsFor (.record fs)) (hnodup : (fs.map (·.1)).Nodup) :
    ∃ given, Gives (fs.map (·.1)) v given ∧
      ∀ f ∈ fs, GivenWith given f.1 (·.StandsFor f.2) := by
  cases h with
  | @record ms _ hkeys hvalues =>
    have hall := valuesAt_of_standsFor hkeys hvalues hnodup
    refine ⟨fun name => (valuesAt name ms).head?, .object ?_ ?_, ?_⟩
    · intro m hm hnone
      have hmem : m.1.decode ∈ fs.map (some ·.1) := hkeys ▸ List.mem_map_of_mem hm
      rw [hnone] at hmem
      simp at hmem
    · intro name hname
      obtain ⟨f, hf, rfl⟩ := List.mem_map.mp hname
      obtain ⟨w, hw, -⟩ := hall f hf
      simp [hw]
    · intro f hf
      obtain ⟨w, hw, hstands⟩ := hall f hf
      exact ⟨w, by simp [hw], hstands⟩

end NonlinearFit.Json
