import NonlinearFit.Kinematics.Measurement
import NonlinearFit.Proofs.Records

/-!
# Measurements as JSON

A value holds a four-vector if it gives each component a literal of its float (`FourVector.HeldBy`),
and a measurement if it gives each field what holds it, where only the fit's status may be null, or
missing in an object (`Measurement.HeldBy`). Texts are read as what their values hold.

Main result: `Measurement.data_exact`. What is finite reads back as it was written, what is not is
refused, and so is every text with a field that is missing, null, repeated or of the wrong length.
-/

namespace NonlinearFit

open Json

/-- A literal that was written for a float is that of a finite one. -/
theorem Json.isFinite_of_isFloat {x y : Float} {w : Json} (hw : w.StandsFor (.ofFloat x))
    (h : IsFloat y w) : x.isFinite = true := by
  by_contra hx
  rw [Document.ofFloat, if_neg hx] at hw
  cases hw
  obtain ⟨n, hn, -⟩ := h
  cases hn

theorem Json.isFloat_of_standsFor {x : Float} {w : Json} (hx : x.isFinite = true)
    (hw : w.StandsFor (.ofFloat x)) : IsFloat x w := by
  rw [Document.ofFloat, if_pos hx] at hw
  cases hw with
  | float hn => exact ⟨_, rfl, hn⟩

/-- The value is an array of literals of the floats. -/
def Json.IsFloats (xs : List Float) (v : Json) : Prop :=
  ∃ items, v = .array items ∧ List.Forall₂ IsFloat xs items

theorem Json.isFloats_of_standsFor {xs : List Float} {w : Json} (hxs : ∀ x ∈ xs, x.isFinite = true)
    (hw : w.StandsFor (.list (xs.map .ofFloat))) : IsFloats xs w := by
  cases hw with
  | @list items _ h =>
    refine ⟨items, rfl, ?_⟩
    induction xs generalizing items with
    | nil =>
      cases h
      exact .nil
    | cons x xs ih =>
      cases h with
      | cons hx h =>
        obtain ⟨hfinite, hxs⟩ := List.forall_mem_cons.mp hxs
        exact .cons (isFloat_of_standsFor hfinite hx) (ih hxs h)

theorem Json.isFinite_of_isFloats {xs ys : List Float} {w : Json}
    (hw : w.StandsFor (.list (xs.map .ofFloat))) (h : IsFloats ys w) :
    ∀ x ∈ xs, x.isFinite = true := by
  obtain ⟨items, rfl, hitems⟩ := h
  cases hw with
  | list hstands =>
    induction xs generalizing items ys with
    | nil => exact nofun
    | cons x xs ih =>
      rcases hitems with _ | ⟨hy, hitems⟩ <;> rcases hstands with _ | ⟨hx, hstands⟩
      exact List.forall_mem_cons.mpr ⟨isFinite_of_isFloat hx hy, ih _ hitems hstands⟩

/-! ## Four-vectors -/

namespace FourVector

variable {p q : FourVector} {v : Json}

theorem nodup_names : names.Nodup := by decide +kernel

/-- The components by their names in data. -/
def components (p : FourVector) : List (String × Float) :=
  [("px", p.px.joules), ("py", p.py.joules), ("pz", p.pz.joules), ("e", p.e.joules)]

/-- The value holds the four-vector. -/
def HeldBy (p : FourVector) (v : Json) : Prop :=
  ∃ given, Gives names v given ∧ ∀ c ∈ p.components, GivenWith given c.1 (IsFloat c.2)

/-- All components are finite. -/
def Finite (p : FourVector) : Prop := ∀ c ∈ p.components, c.2.isFinite = true

theorem energyOfJson?_eq_some_iff (v : Json) (e : Energy) :
    energyOfJson? v = some e ↔ IsFloat e.joules v := by
  unfold energyOfJson?
  rw [Option.map_eq_some_iff]
  constructor
  · rintro ⟨x, hx, rfl⟩
    exact (toFloat?_eq_some_iff v x).mp hx
  · intro h
    exact ⟨e.joules, (toFloat?_eq_some_iff v _).mpr h, rfl⟩

theorem components_names (p : FourVector) : p.components.map (·.1) = names := rfl

theorem ofJson?_eq_some_iff : ofJson? v = some p ↔ p.HeldBy v := by
  have hread := required?_eq_some_iff energyOfJson?_eq_some_iff
  have hfields (fs : Fields) :
      (∃ px, fs.required? "px" energyOfJson? = some px ∧
        ∃ py, fs.required? "py" energyOfJson? = some py ∧
          ∃ pz, fs.required? "pz" energyOfJson? = some pz ∧
            ∃ e, fs.required? "e" energyOfJson? = some e ∧ FourVector.mk px py pz e = p) ↔
      ∀ c ∈ p.components, GivenWith fs.get? c.1 (IsFloat c.2) := by
    simp only [hread, components, List.forall_mem_cons]
    constructor
    · rintro ⟨px, hpx, py, hpy, pz, hpz, e, he, rfl⟩
      exact ⟨hpx, hpy, hpz, he, nofun⟩
    · rintro ⟨hpx, hpy, hpz, he, -⟩
      exact ⟨_, hpx, _, hpy, _, hpz, _, he, rfl⟩
  simp only [ofJson?, HeldBy, Option.bind_eq_bind, Option.bind_eq_some_iff, Option.pure_def,
    Option.some.injEq, hfields]
  refine exists_fields?_and_iff nodup_names
    (P := fun given => ∀ c ∈ p.components, GivenWith given c.1 (IsFloat c.2))
    fun given given' heq h c hc => ?_
  exact (h c hc).congr (heq c.1 (p.components_names ▸ List.mem_map_of_mem hc))

/-- **Texts are read as the four-vectors that their values hold.** -/
theorem ofString?_eq_some_iff {s : String} :
    ofString? s = some p ↔ ∃ v : Json, v.Spells s.toList ∧ p.HeldBy v :=
  ofString?_bind_eq_some_iff fun _ _ => ofJson?_eq_some_iff

/-! ### Writing -/

theorem toDocument_eq (p : FourVector) :
    p.toDocument = .record (p.components.map fun c => (c.1, .ofFloat c.2)) :=
  rfl

theorem finite_toDocument (p : FourVector) : p.toDocument.Finite := by
  rw [toDocument_eq, Document.Finite, Document.finiteFields_iff]
  intro f hf
  obtain ⟨c, -, rfl⟩ := List.mem_map.mp hf
  exact Document.finite_ofFloat c.2

/-- What stands for a written four-vector gives a value for each component. -/
theorem gives_of_standsFor (h : v.StandsFor p.toDocument) : ∃ given, Gives names v given ∧
    ∀ c ∈ p.components, GivenWith given c.1 (·.StandsFor (.ofFloat c.2)) := by
  rw [toDocument_eq] at h
  obtain ⟨given, hgives, hgiven⟩ := h.gives nodup_names
  exact ⟨given, hgives, fun c hc => hgiven _ (List.mem_map_of_mem hc)⟩

theorem heldBy_of_standsFor (hp : p.Finite) (h : v.StandsFor p.toDocument) : p.HeldBy v := by
  obtain ⟨given, hgives, hgiven⟩ := gives_of_standsFor h
  exact ⟨given, hgives, fun c hc => (hgiven c hc).imp fun _ => isFloat_of_standsFor (hp c hc)⟩

/-- A written four-vector that holds anything is finite. -/
theorem finite_of_heldBy (h : v.StandsFor p.toDocument) (hq : q.HeldBy v) : p.Finite := by
  obtain ⟨given, hgives, hgiven⟩ := gives_of_standsFor h
  obtain ⟨given', hgives', hall⟩ := hq
  -- Both give something to each name, so the components need not be told apart.
  intro c hc
  have hname : c.1 ∈ names := p.components_names ▸ List.mem_map_of_mem hc
  obtain ⟨d, hd, hdc⟩ := List.mem_map.mp (q.components_names ▸ hname)
  have hfloat := (hdc ▸ hall d hd).congr (hgives.unique hgives' c.1 hname).symm
  obtain ⟨w, hstands, hfloat⟩ := (hgiven c hc).exists_and hfloat
  exact isFinite_of_isFloat hstands hfloat

/-- **A finite four-vector reads back** as it was written. -/
theorem ofString?_text (hp : p.Finite) : ofString? p.toDocument.text = some p := by
  obtain ⟨v, hstands, hspells⟩ := p.toDocument.exists_spells_text p.finite_toDocument
  exact ofString?_eq_some_iff.mpr ⟨v, hspells, heldBy_of_standsFor hp hstands⟩

theorem ofString?_eq_none {s : String} (hv : v.Spells s.toList)
    (h : ∀ p : FourVector, ¬p.HeldBy v) : ofString? s = none :=
  ofString?_bind_eq_none (fun _ _ => ofJson?_eq_some_iff) hv h

theorem ofString?_text_eq_none (hp : ¬p.Finite) : ofString? p.toDocument.text = none := by
  obtain ⟨v, hstands, hspells⟩ := p.toDocument.exists_spells_text p.finite_toDocument
  exact ofString?_eq_none hspells fun q hq => hp (finite_of_heldBy hstands hq)

/-! ### Refused values -/

/-- The ways in which a value does not hold a four-vector. -/
inductive Malformed : Json → Prop where
  | field {v : Json} {name : String} (hname : name ∈ names) (h : FailsToGive names v name) :
      Malformed v
  | length {items : List Json} (h : items.length ≠ 4) : Malformed (.array items)

theorem not_heldBy_of_malformed (h : Malformed v) : ¬p.HeldBy v := by
  rintro ⟨given, hgives, hall⟩
  cases h with
  | field hname hfails =>
    obtain ⟨c, hc, rfl⟩ := List.mem_map.mp (p.components_names ▸ hname)
    refine hfails.not_givenWith hgives hname ?_ (hall c hc)
    rintro ⟨n, hn, -⟩
    cases hn
  | length hlength =>
    cases hgives with
    | array hle hitems =>
      simp only [components, List.forall_mem_cons] at hall
      obtain ⟨-, -, -, ⟨w, hw, -⟩, -⟩ := hall
      rw [hitems 3 "e" rfl] at hw
      have hlt := (List.getElem?_eq_some_iff.mp hw).1
      have hnames : names.length = 4 := rfl
      omega

end FourVector

/-! ## Measurements -/

namespace Measurement

variable {m m' : Measurement} {v : Json}

theorem nodup_names : names.Nodup := by decide +kernel

/-- What is given for the fields holds the measurement. -/
structure FieldsHeldBy (m : Measurement) (given : String → Option Json) : Prop where
  vector : GivenWith given "vector" m.vector.HeldBy
  sigmaEnergy : GivenWith given "sigma_energy" (IsFloat m.sigmaEnergy.joules)
  sigmaBeta : GivenWith given "sigma_beta" (IsFloats m.sigmaBeta.toList)
  chi2 : GivenWith given "chi2_per_ndf" (IsFloat m.chi2)
  status : FieldReads (fun i => IsInteger i.toInt) m.status (given "inform")

/-- The value holds the measurement. -/
structure HeldBy (m : Measurement) (v : Json) : Prop where
  fields : ∃ given, Gives names v given ∧ m.FieldsHeldBy given
  /-- An array may not leave out the last field. -/
  complete : ∀ items, v = .array items → items.length = 5

/-- All floats are finite. -/
structure Finite (m : Measurement) : Prop where
  vector : m.vector.Finite
  sigmaEnergy : m.sigmaEnergy.joules.isFinite = true
  sigmaBeta : ∀ x ∈ m.sigmaBeta.toList, x.isFinite = true
  chi2 : m.chi2.isFinite = true

/-! ### Reading -/

theorem betaOfJson?_eq_some_iff (v : Json) (β : Vector Float 3) :
    betaOfJson? v = some β ↔ IsFloats β.toList v := by
  obtain ⟨x, y, z, rfl⟩ : ∃ x y z, β = #v[x, y, z] := by
    refine ⟨β[0], β[1], β[2], Vector.ext fun i hi => ?_⟩
    interval_cases i <;> rfl
  have hlist : (#v[x, y, z] : Vector Float 3).toList = [x, y, z] := rfl
  unfold betaOfJson? IsFloats
  rw [hlist]
  constructor
  · intro h
    split at h
    · next a b c =>
      simp only [Option.bind_eq_bind, Option.bind_eq_some_iff, Option.pure_def, Option.some.injEq,
        toFloat?_eq_some_iff] at h
      obtain ⟨x', hx, y', hy, z', hz, heq⟩ := h
      cases heq
      exact ⟨[a, b, c], rfl, .cons hx (.cons hy (.cons hz .nil))⟩
    · cases h
  · rintro ⟨items, rfl, h⟩
    rcases h with _ | ⟨hx, _ | ⟨hy, _ | ⟨hz, ⟨⟩⟩⟩⟩
    simp only [(toFloat?_eq_some_iff _ _).mpr hx, (toFloat?_eq_some_iff _ _).mpr hy,
      (toFloat?_eq_some_iff _ _).mpr hz]
    rfl

theorem integerOfJson?_eq_some_iff (v : Json) (i : Integer) :
    integerOfJson? v = some i ↔ IsInteger i.toInt v := by
  refine map_toInt?_eq_some_iff Int64.ofInt Int64.toInt (fun i => ?_) (fun i => ?_)
    (fun i hlow hhigh => ?_) v i
  · have hmin : Int64.minValue.toInt = -2 ^ 63 := by decide
    have hmax : Int64.maxValue.toInt = 2 ^ 63 - 1 := by decide
    have := i.le_toInt
    have := i.toInt_lt
    omega
  · simp
  · have hmax : Int64.maxValue.toInt = 2 ^ 63 - 1 := by decide
    exact Int64.toInt_ofInt_of_le hlow (by omega)

theorem ofFields?_eq_some_iff {fs : Fields} : ofFields? fs = some m ↔ m.FieldsHeldBy fs.get? := by
  have hvector := required?_eq_some_iff
    (fun v p => FourVector.ofJson?_eq_some_iff (v := v) (p := p)) fs "vector"
  have henergy := required?_eq_some_iff FourVector.energyOfJson?_eq_some_iff fs "sigma_energy"
  have hbeta := required?_eq_some_iff betaOfJson?_eq_some_iff fs "sigma_beta"
  have hchi := required?_eq_some_iff toFloat?_eq_some_iff fs "chi2_per_ndf"
  have hstatus (x : Option Integer) : fs.optional? "inform" integerOfJson? = some x ↔ _ :=
    optional?_eq_some_iff integerOfJson?_eq_some_iff rfl
  simp only [ofFields?, Option.bind_eq_bind, Option.bind_eq_some_iff, Option.pure_def,
    Option.some.injEq, hvector, henergy, hbeta, hchi, hstatus]
  constructor
  · rintro ⟨p, hp, e, he, β, hβ, x, hx, i, hi, rfl⟩
    exact ⟨hp, he, hβ, hx, hi⟩
  · rintro ⟨hp, he, hβ, hx, hi⟩
    exact ⟨_, hp, _, he, _, hβ, _, hx, _, hi, rfl⟩

theorem ofJson?_eq_some_iff : ofJson? v = some m ↔ m.HeldBy v := by
  have hfields : (v.fields? names >>= ofFields?) = some m ↔
      ∃ given, Gives names v given ∧ m.FieldsHeldBy given := by
    simp only [Option.bind_eq_bind, Option.bind_eq_some_iff, ofFields?_eq_some_iff]
    refine exists_fields?_and_iff nodup_names (P := m.FieldsHeldBy) fun given given' heq h => ?_
    simp only [names, List.forall_mem_cons] at heq
    obtain ⟨hvector, henergy, hbeta, hchi, hstatus, -⟩ := heq
    exact ⟨h.vector.congr hvector, h.sigmaEnergy.congr henergy, h.sigmaBeta.congr hbeta,
      h.chi2.congr hchi, hstatus ▸ h.status⟩
  unfold ofJson?
  cases v with
  | array items =>
    dsimp only
    split
    · next hlength =>
      rw [hfields]
      exact ⟨fun h => ⟨h, fun _ heq => by cases heq; exact hlength⟩, HeldBy.fields⟩
    · next hlength =>
      exact ⟨nofun, fun h => absurd (h.complete items rfl) hlength⟩
  | null | bool | number | string | object =>
    dsimp only
    rw [hfields]
    exact ⟨fun h => ⟨h, nofun⟩, HeldBy.fields⟩

/-- **Texts are read as the measurements that their values hold.** -/
theorem ofString?_eq_some_iff {s : String} :
    ofString? s = some m ↔ ∃ v : Json, v.Spells s.toList ∧ m.HeldBy v :=
  ofString?_bind_eq_some_iff fun _ _ => ofJson?_eq_some_iff

/-! ### Writing -/

theorem finite_toDocument (m : Measurement) : m.toDocument.Finite := by
  have hbeta : Document.FiniteItems (m.sigmaBeta.toList.map .ofFloat) := by
    rw [Document.finiteItems_iff]
    intro d hd
    obtain ⟨x, -, rfl⟩ := List.mem_map.mp hd
    exact Document.finite_ofFloat x
  have hstatus : (Document.ofOption (fun i : Integer => .integer i.toInt) m.status).Finite := by
    cases m.status <;> trivial
  exact ⟨m.vector.finite_toDocument, Document.finite_ofFloat _, hbeta, Document.finite_ofFloat _,
    hstatus, trivial⟩

/-- What is given for the fields stands for the measurement as it is written. -/
structure FieldsStandFor (given : String → Option Json) (m : Measurement) : Prop where
  vector : GivenWith given "vector" (·.StandsFor m.vector.toDocument)
  sigmaEnergy : GivenWith given "sigma_energy" (·.StandsFor (.ofFloat m.sigmaEnergy.joules))
  sigmaBeta : GivenWith given "sigma_beta"
    (·.StandsFor (.list (m.sigmaBeta.toList.map .ofFloat)))
  chi2 : GivenWith given "chi2_per_ndf" (·.StandsFor (.ofFloat m.chi2))
  status : GivenWith given "inform"
    (·.StandsFor (.ofOption (fun i => .integer i.toInt) m.status))

theorem gives_of_standsFor (h : v.StandsFor m.toDocument) :
    ∃ given, Gives names v given ∧ FieldsStandFor given m := by
  obtain ⟨given, hgives, hgiven⟩ := h.gives nodup_names
  refine ⟨given, hgives, ?_⟩
  simp only [names, List.zip_cons_cons, List.zip_nil_right, List.forall_mem_cons] at hgiven
  obtain ⟨hvector, henergy, hbeta, hchi, hstatus, -⟩ := hgiven
  exact ⟨hvector, henergy, hbeta, hchi, hstatus⟩

theorem heldBy_of_standsFor (hm : m.Finite) (h : v.StandsFor m.toDocument) : m.HeldBy v := by
  obtain ⟨given, hgives, hstands⟩ := gives_of_standsFor h
  obtain ⟨w, hw, hstatus⟩ := hstands.status
  refine ⟨⟨given, hgives, ?_, ?_, ?_, ?_, ?_⟩, ?_⟩
  · exact hstands.vector.imp fun _ => FourVector.heldBy_of_standsFor hm.vector
  · exact hstands.sigmaEnergy.imp fun _ => isFloat_of_standsFor hm.sigmaEnergy
  · exact hstands.sigmaBeta.imp fun _ => isFloats_of_standsFor hm.sigmaBeta
  · exact hstands.chi2.imp fun _ => isFloat_of_standsFor hm.chi2
  · rw [hw]
    refine fieldReads_of_standsFor hstatus fun i _ hi => ?_
    cases hi with
    | integer hn => exact ⟨_, rfl, hn⟩
  · rintro items rfl
    cases h

/-- A written measurement that holds anything is finite. -/
theorem finite_of_heldBy (h : v.StandsFor m.toDocument) (hm' : m'.HeldBy v) : m.Finite := by
  obtain ⟨given, hgives, hstands⟩ := gives_of_standsFor h
  obtain ⟨⟨given', hgives', hheld⟩, -⟩ := hm'
  have heq := hgives'.unique hgives
  simp only [names, List.forall_mem_cons] at heq
  obtain ⟨hvector, henergy, hbeta, hchi, -⟩ := heq
  obtain ⟨_, hstands₁, hheld₁⟩ := hstands.vector.exists_and (hheld.vector.congr hvector)
  obtain ⟨_, hstands₂, hheld₂⟩ := hstands.sigmaEnergy.exists_and (hheld.sigmaEnergy.congr henergy)
  obtain ⟨_, hstands₃, hheld₃⟩ := hstands.sigmaBeta.exists_and (hheld.sigmaBeta.congr hbeta)
  obtain ⟨_, hstands₄, hheld₄⟩ := hstands.chi2.exists_and (hheld.chi2.congr hchi)
  exact ⟨FourVector.finite_of_heldBy hstands₁ hheld₁, isFinite_of_isFloat hstands₂ hheld₂,
    isFinite_of_isFloats hstands₃ hheld₃, isFinite_of_isFloat hstands₄ hheld₄⟩

/-- **A finite measurement reads back** as it was written. -/
theorem ofString?_text (hm : m.Finite) : ofString? m.toDocument.text = some m := by
  obtain ⟨v, hstands, hspells⟩ := m.toDocument.exists_spells_text m.finite_toDocument
  exact ofString?_eq_some_iff.mpr ⟨v, hspells, heldBy_of_standsFor hm hstands⟩

theorem ofString?_eq_none {s : String} (hv : v.Spells s.toList)
    (h : ∀ m : Measurement, ¬m.HeldBy v) : ofString? s = none :=
  ofString?_bind_eq_none (fun _ _ => ofJson?_eq_some_iff) hv h

theorem ofString?_text_eq_none (hm : ¬m.Finite) : ofString? m.toDocument.text = none := by
  obtain ⟨v, hstands, hspells⟩ := m.toDocument.exists_spells_text m.finite_toDocument
  exact ofString?_eq_none hspells fun m' hm' => hm (finite_of_heldBy hstands hm')

/-! ### Refused values -/

/-- The ways in which a value does not hold a measurement. -/
inductive Malformed : Json → Prop where
  | field {v : Json} {name : String} (hname : name ∈ names) (hrequired : name ≠ "inform")
      (h : FailsToGive names v name) : Malformed v
  | repeatedStatus {ms : List (Text × Json)} (h : 1 < (valuesAt "inform" ms).length) :
      Malformed (.object ms)
  | vector {v w : Json} (hw : HasField names v "vector" w) (h : FourVector.Malformed w) :
      Malformed v
  | sigmaBeta {v w : Json} (hw : HasField names v "sigma_beta" w)
      (h : ∀ items, w = .array items → items.length ≠ 3) : Malformed v
  | length {items : List Json} (h : items.length ≠ 5) : Malformed (.array items)

/-- Every field but the status is given with something that is not null. -/
theorem FieldsHeldBy.givenWith {given : String → Option Json} (h : m.FieldsHeldBy given)
    {name : String} (hname : name ∈ names) (hrequired : name ≠ "inform") :
    GivenWith given name (· ≠ .null) := by
  have hfloat {x : Float} (w : Json) (hw : IsFloat x w) : w ≠ .null := by
    rintro rfl
    obtain ⟨n, hn, -⟩ := hw
    cases hn
  have hvector (w : Json) (hw : m.vector.HeldBy w) : w ≠ .null := by
    rintro rfl
    obtain ⟨given, hgives, -⟩ := hw
    cases hgives
  have hbeta (w : Json) (hw : IsFloats m.sigmaBeta.toList w) : w ≠ .null := by
    rintro rfl
    obtain ⟨items, hitems, -⟩ := hw
    cases hitems
  simp only [names, List.mem_cons, List.not_mem_nil, or_false] at hname
  rcases hname with rfl | rfl | rfl | rfl | rfl
  · exact h.vector.imp hvector
  · exact h.sigmaEnergy.imp hfloat
  · exact h.sigmaBeta.imp hbeta
  · exact h.chi2.imp hfloat
  · exact absurd rfl hrequired

theorem not_heldBy_of_malformed (h : Malformed v) : ¬m.HeldBy v := by
  rintro ⟨⟨given, hgives, hfields⟩, hcomplete⟩
  cases h with
  | field hname hrequired hfails =>
    exact hfails.not_givenWith hgives hname (· rfl) (hfields.givenWith hname hrequired)
  | repeatedStatus hrepeated =>
    have hstatus : "inform" ∈ names := by simp [names]
    exact absurd (hgives.length_valuesAt hstatus) (by omega)
  | vector hw hmalformed =>
    obtain ⟨w, hgiven, hheld⟩ := hfields.vector
    rw [hgives.eq_some_of_hasField (by simp [names]) hw] at hgiven
    cases hgiven
    exact FourVector.not_heldBy_of_malformed hmalformed hheld
  | sigmaBeta hw hlength =>
    obtain ⟨w, hgiven, items, rfl, hitems⟩ := hfields.sigmaBeta
    rw [hgives.eq_some_of_hasField (by simp [names]) hw] at hgiven
    cases hgiven
    exact hlength items rfl (by rw [← hitems.length_eq, Vector.length_toList])
  | length hlength => exact hlength (hcomplete _ rfl)

/-! ## The format -/

/-- **The format of measurements and of four-vectors.** A text is read as what its value holds. What
is finite reads back as it was written, and what is not is refused, as is every value in which a
field is missing, null, repeated or of the wrong length; only the status may be null, or missing in
an object. -/
theorem data_exact :
    (∀ (s : String) (m : Measurement), ofString? s = some m ↔
      ∃ v : Json, v.Spells s.toList ∧ m.HeldBy v) ∧
    (∀ m : Measurement, m.Finite → ofString? m.toDocument.text = some m) ∧
    (∀ m : Measurement, ¬m.Finite → ofString? m.toDocument.text = none) ∧
    (∀ (s : String) (v : Json), v.Spells s.toList → Malformed v → ofString? s = none) ∧
    (∀ (s : String) (p : FourVector), FourVector.ofString? s = some p ↔
      ∃ v : Json, v.Spells s.toList ∧ p.HeldBy v) ∧
    (∀ p : FourVector, p.Finite → FourVector.ofString? p.toDocument.text = some p) ∧
    (∀ p : FourVector, ¬p.Finite → FourVector.ofString? p.toDocument.text = none) ∧
    (∀ (s : String) (v : Json), v.Spells s.toList → FourVector.Malformed v →
      FourVector.ofString? s = none) := by
  refine ⟨fun s m => ofString?_eq_some_iff, fun m h => ofString?_text h,
    fun m h => ofString?_text_eq_none h, fun s v hv h => ?_,
    fun s p => FourVector.ofString?_eq_some_iff, fun p h => FourVector.ofString?_text h,
    fun p h => FourVector.ofString?_text_eq_none h, fun s v hv h => ?_⟩
  · exact ofString?_eq_none hv fun m => not_heldBy_of_malformed h
  · exact FourVector.ofString?_eq_none hv fun p => FourVector.not_heldBy_of_malformed h

example : ofString? "[[1, 2, 3, 4], 0.25, [0.5, -0.0, 2e-1], 1, null]" =
    some
      { vector := ⟨⟨1⟩, ⟨2⟩, ⟨3⟩, ⟨4⟩⟩
        sigmaEnergy := ⟨0.25⟩
        sigmaBeta := #v[0.5, -0.0, 0.2]
        chi2 := 1
        status := none } := by
  decide +kernel

end Measurement

end NonlinearFit
