import NonlinearFit.Json.Document
import NonlinearFit.Proofs.Lexemes
import NonlinearFit.Proofs.NumberLayouts
import NonlinearFit.Proofs.TokenSequences

/-!
# JSON texts

`Json.Spells v cs` says that a text holds the value `v`: its tokens, with white space around them at
will. Reading accepts exactly these texts (`Json.ofString?_eq_some_iff`), so a text holds at most
one value.

Documents are written as such texts: the text of a document whose floats are finite holds a value
that stands for the document (`Document.exists_spells_text`).
-/

namespace NonlinearFit

namespace Json

/-! ## Reading -/

/-- The text holds the value. -/
def Spells (v : Json) (cs : List Char) : Prop := Spread v.tokens cs

/-- Whoever is delimited may stand anywhere. -/
theorem separated_append {ts us : List Token} (hts : Separated ts) (hus : Separated us)
    (h : ∀ u ∈ us.head?, u.delimited = true) : Separated (ts ++ us) :=
  hts.append hus fun _ _ u hu => .inr (h u hu)

theorem separated_cons {t : Token} {ts : List Token} (ht : t.delimited = true)
    (hts : Separated ts) : Separated (t :: ts) :=
  hts.cons fun _ _ => .inl ht

theorem separated_separate {tss : List (List Token)} (h : ∀ ts ∈ tss, Separated ts) :
    Separated (separate tss) := by
  induction tss with
  | nil => exact .nil
  | cons ts tss ih =>
    obtain ⟨hts, hrest⟩ := List.forall_mem_cons.mp h
    cases tss with
    | nil => exact hts
    | cons us tss =>
      refine separated_append hts (separated_cons rfl (ih hrest)) ?_
      rintro u ⟨⟩
      rfl

mutual

/-- In a value punctuation stands between words and numbers. -/
theorem separated_tokens (v : Json) : Separated v.tokens :=
  match v with
  | .null | .bool _ | .number _ | .string _ => .singleton _
  | .array items => by
    have hitems := separated_separate (separated_itemTokens items)
    rw [tokens]
    refine separated_cons rfl (separated_append hitems (.singleton _) ?_)
    rintro u ⟨⟩
    rfl
  | .object members => by
    have hmembers := separated_separate (separated_memberTokens members)
    rw [tokens]
    refine separated_cons rfl (separated_append hmembers (.singleton _) ?_)
    rintro u ⟨⟩
    rfl

theorem separated_itemTokens (vs : List Json) : ∀ ts ∈ itemTokens vs, Separated ts :=
  match vs with
  | [] => nofun
  | v :: vs => List.forall_mem_cons.mpr ⟨separated_tokens v, separated_itemTokens vs⟩

theorem separated_memberTokens (ms : List (Text × Json)) :
    ∀ ts ∈ memberTokens ms, Separated ts :=
  match ms with
  | [] => nofun
  | (_, v) :: ms =>
    List.forall_mem_cons.mpr
      ⟨separated_cons rfl (separated_cons rfl (separated_tokens v)), separated_memberTokens ms⟩

end

/-- **Reading accepts exactly the texts of values.** -/
theorem ofString?_eq_some_iff {s : String} {v : Json} :
    ofString? s = some v ↔ v.Spells s.toList := by
  unfold ofString? Spells
  rw [Option.bind_eq_bind, Option.bind_eq_some_iff]
  constructor
  · rintro ⟨ts, hts, hv⟩
    obtain rfl := ofTokens?_eq_some_iff.mp hv
    exact spread_of_ofChars? hts
  · intro h
    exact ⟨_, ofChars?_of_spread h v.separated_tokens, ofTokens?_eq_some_iff.mpr rfl⟩

/-- A text holds at most one value. -/
theorem Spells.unique {v w : Json} {cs : List Char} (hv : v.Spells cs) (hw : w.Spells cs) :
    v = w := by
  rw [← String.toList_ofList (l := cs)] at hv hw
  exact Option.some.inj
    ((ofString?_eq_some_iff.mpr hv).symm.trans (ofString?_eq_some_iff.mpr hw))

section

variable {α : Type} {read : Json → Option α} {HeldBy : α → Json → Prop} {s : String}

/-- Data is read from a text as it is read from the value. -/
theorem ofString?_bind_eq_some_iff (hread : ∀ v a, read v = some a ↔ HeldBy a v) {a : α} :
    ofString? s >>= read = some a ↔ ∃ v : Json, v.Spells s.toList ∧ HeldBy a v := by
  simp only [Option.bind_eq_bind, Option.bind_eq_some_iff, ofString?_eq_some_iff, hread]

theorem ofString?_bind_eq_none (hread : ∀ v a, read v = some a ↔ HeldBy a v) {v : Json}
    (hv : v.Spells s.toList) (h : ∀ a, ¬HeldBy a v) : ofString? s >>= read = none := by
  rw [Option.eq_none_iff_forall_ne_some]
  intro a ha
  obtain ⟨w, hw, hheld⟩ := (ofString?_bind_eq_some_iff hread).mp ha
  obtain rfl := hv.unique hw
  exact h a hheld

end

/-- Behind what shows itself where it ends only white space may follow. -/
theorem ofString?_append_eq_none {s rest : String} {v : Json} (hv : v.Spells s.toList)
    (hlast : ∀ t ∈ v.tokens.getLast?, t.delimited = true)
    (hrest : ∃ c ∈ rest.toList, Lexing.isBlank c = false) : ofString? (s ++ rest) = none := by
  rw [Option.eq_none_iff_forall_ne_some]
  intro w hw
  have hread : Lexing.readFrom .between (s.toList ++ rest.toList) =
      (Lexing.readFrom .between rest.toList).map (v.tokens ++ ·) :=
    Lexing.readFrom_append (Lexing.readFrom_spread hv v.separated_tokens) hlast
  have hwhole := Lexing.readFrom_spread (ofString?_eq_some_iff.mp hw) w.separated_tokens
  rw [String.toList_append, hread, Option.map_eq_some_iff] at hwhole
  obtain ⟨ts, hts, htokens⟩ := hwhole
  obtain rfl := tokens_prefixFree htokens
  obtain ⟨c, hc, hblank⟩ := hrest
  rw [← Lexing.ofChars?_eq] at hts
  rw [(spread_of_ofChars? hts).blank_of_nil c hc] at hblank
  cases hblank

/-- An array or an object. -/
inductive IsContainer : Json → Prop where
  | array (items : List Json) : IsContainer (.array items)
  | object (members : List (Text × Json)) : IsContainer (.object members)

theorem IsContainer.delimited {v : Json} (h : v.IsContainer) :
    ∀ t ∈ v.tokens.getLast?, t.delimited = true := by
  cases h with
  | array | object =>
    rw [tokens, List.getLast?_concat]
    rintro t ⟨⟩
    rfl

/-- No word and no number starts as an array or an object does. -/
theorem not_isContainer_of_first {t : Token} {w : Json} {cs ds : List Char} (ht : Spread [t] cs)
    (hopen : t.delimited = false) (hw : w.Spells (cs ++ ds)) : ¬w.IsContainer := by
  intro hcontainer
  cases hcontainer with
  | array | object =>
    obtain ⟨c, es, fs, ht, hbracket⟩ := ht.exists_first hw
    cases hbracket
    cases ht with
    | number h =>
      obtain ⟨c, ds, hc, hdigit, -⟩ := Lexing.exists_numerics h
      cases hc
      exact absurd hdigit (by decide)
    | _ => cases hopen

/-- **A text that goes on behind a value holds no array and no object.** -/
theorem not_isContainer_append {s rest : String} {v w : Json} (hv : v.Spells s.toList)
    (hrest : ∃ c ∈ rest.toList, Lexing.isBlank c = false)
    (hw : w.Spells (s ++ rest).toList) : ¬w.IsContainer := by
  have hfirst (hdelimited : ∀ t ∈ v.tokens.getLast?, t.delimited = true) : ¬w.IsContainer := by
    have hnone := ofString?_append_eq_none hv hdelimited hrest
    rw [ofString?_eq_some_iff.mpr hw] at hnone
    cases hnone
  rw [String.toList_append] at hw
  cases v with
  | null | bool | number => exact not_isContainer_of_first hv rfl hw
  | string => exact hfirst (by rintro t ⟨⟩; rfl)
  | array items => exact hfirst (IsContainer.array items).delimited
  | object members => exact hfirst (IsContainer.object members).delimited

/-! ## Documents -/

/-- The value stands for the document: numbers denote its numbers, and strings its strings. -/
inductive StandsFor : Json → Document → Prop where
  | null : StandsFor .null .null
  | bool (b : Bool) : StandsFor (.bool b) (.bool b)
  | integer {n : Numeral} {i : Int} (h : n.integer? = some i) : StandsFor (.number n) (.integer i)
  | float {n : Numeral} {x : Float} (h : n.Denotes x) : StandsFor (.number n) (.float x)
  | string {t : Text} {s : String} (h : t.decode = some s) : StandsFor (.string t) (.string s)
  | list {vs : List Json} {ds : List Document} (h : List.Forall₂ StandsFor vs ds) :
      StandsFor (.array vs) (.list ds)
  | record {ms : List (Text × Json)} {fs : List (String × Document)}
      (hkeys : ms.map (·.1.decode) = fs.map (some ·.1))
      (hvalues : List.Forall₂ StandsFor (ms.map (·.2)) (fs.map (·.2))) :
      StandsFor (.object ms) (.record fs)

end Json

namespace Document

open Json

mutual

/-- All floats are finite. -/
def Finite : Document → Prop
  | float x => x.isFinite = true
  | list items => FiniteItems items
  | record fields => FiniteFields fields
  | null | bool _ | integer _ | string _ => True

def FiniteItems : List Document → Prop
  | [] => True
  | d :: ds => d.Finite ∧ FiniteItems ds

def FiniteFields : List (String × Document) → Prop
  | [] => True
  | (_, d) :: fs => d.Finite ∧ FiniteFields fs

end

theorem finiteItems_iff {ds : List Document} : FiniteItems ds ↔ ∀ d ∈ ds, d.Finite := by
  induction ds with
  | nil => simp [FiniteItems]
  | cons d ds ih => simp [FiniteItems, ih]

theorem finiteFields_iff {fs : List (String × Document)} :
    FiniteFields fs ↔ ∀ f ∈ fs, f.2.Finite := by
  induction fs with
  | nil => simp [FiniteFields]
  | cons f fs ih => simp [FiniteFields, ih]

/-- A float that is not finite is not written as one. -/
theorem finite_ofFloat (x : Float) : (ofFloat x).Finite := by
  unfold ofFloat
  split
  · next h => exact h
  · trivial

/-! ### Strings -/

/-- A part of a string that stands for the character. -/
inductive PieceFor (c : Char) : Piece → Prop where
  | char : PieceFor c (.char c)
  | control (h : c < ' ') : PieceFor c (.unit c.toNat)

theorem hexDigit?_toDigits {k : Nat} (h : k < 16) :
    Lexing.hexDigit? ((Nat.toDigits 16 k).headD '0') = some k := by
  interval_cases k <;> rfl

theorem hexSpelled_hexPair {c : Char} (h : c < ' ') :
    HexSpelled ('0' :: '0' :: hexPair c) c.toNat := by
  have hlow : c.toNat < 0x20 := h
  have hzero : Lexing.hexDigit? '0' = some 0 := rfl
  have hhigh := hexDigit?_toDigits (k := c.toNat / 16) (by omega)
  have hrest := hexDigit?_toDigits (k := c.toNat % 16) (by omega)
  have hvalue : c.toNat = 16 * (16 * (16 * (16 * 0 + 0) + 0) + c.toNat / 16) + c.toNat % 16 := by
    omega
  have hspelled := (((HexSpelled.nil.concat hzero).concat hzero).concat hhigh).concat hrest
  rw [← hvalue] at hspelled
  exact hspelled

theorem exists_pieceSpelled (c : Char) : ∃ p, PieceFor c p ∧ PieceSpelled p (escape c) := by
  unfold escape
  split
  · next h =>
    subst h
    exact ⟨_, .char, .short rfl⟩
  split
  · next h =>
    subst h
    exact ⟨_, .char, .short rfl⟩
  split
  · next h =>
    subst h
    exact ⟨_, .char, .short rfl⟩
  split
  · next h =>
    subst h
    exact ⟨_, .char, .short rfl⟩
  split
  · next h =>
    subst h
    exact ⟨_, .char, .short rfl⟩
  split
  · next h =>
    subst h
    exact ⟨_, .char, .short rfl⟩
  split
  · next h =>
    subst h
    exact ⟨_, .char, .short rfl⟩
  split
  · next h => exact ⟨_, .control h, .unit (hexSpelled_hexPair h) rfl⟩
  · next hquote hbackslash _ _ _ _ _ hcontrol =>
    exact ⟨_, .char, .plain hquote hbackslash hcontrol⟩

theorem characters?_unit {u : Nat} (h : u < 0xd800) (t : Text) :
    Text.characters? (.unit u :: t) = (Text.characters? t).map (Char.ofNat u :: ·) := by
  have hhigh : Text.isHighSurrogate u = false := by
    simp only [Text.isHighSurrogate, decide_eq_false_iff_not]
    omega
  have hlow : Text.isLowSurrogate u = false := by
    simp only [Text.isLowSurrogate, decide_eq_false_iff_not]
    omega
  rcases t with _ | ⟨_ | _, t⟩ <;> simp [Text.characters?, hhigh, hlow]

theorem characters?_piece {c : Char} {p : Piece} (h : PieceFor c p) (t : Text) :
    Text.characters? (p :: t) = (Text.characters? t).map (c :: ·) := by
  cases h with
  | char => rfl
  | control h =>
    have hlow : c.toNat < 0x20 := h
    rw [characters?_unit (by omega), Char.ofNat_toNat]

/-- The characters between the quotes stand for the string. -/
theorem exists_textSpelled (cs : List Char) :
    ∃ t : Text, t.characters? = some cs ∧ TextSpelled t (cs.flatMap escape) := by
  induction cs with
  | nil => exact ⟨[], rfl, .nil⟩
  | cons c cs ih =>
    obtain ⟨t, ht, hspelled⟩ := ih
    obtain ⟨p, hp, hpiece⟩ := exists_pieceSpelled c
    exact ⟨p :: t, by rw [characters?_piece hp, ht]; rfl, .cons hpiece hspelled⟩

theorem exists_spelled_quoted (s : String) :
    ∃ t : Text, t.decode = some s ∧ (Token.string t).Spelled (quoted s) := by
  obtain ⟨t, ht, hspelled⟩ := exists_textSpelled s.toList
  exact ⟨t, by simp [Text.decode, ht], .string hspelled⟩

/-! ### Containers -/

mutual

/-- The text of a document holds a value that stands for it. -/
theorem exists_spells (d : Document) (h : d.Finite) :
    ∃ v : Json, v.StandsFor d ∧ v.Spells d.characters :=
  match d with
  | .null => ⟨_, .null, .single .null⟩
  | .bool true => ⟨_, .bool true, .single .yes⟩
  | .bool false => ⟨_, .bool false, .single .no⟩
  | .integer i => by
    obtain ⟨n, hspelled, hi⟩ := exists_spelled_toString i
    exact ⟨_, .integer hi, .single (.number hspelled)⟩
  | .float x => by
    obtain ⟨n, hspelled, hx⟩ := Layout.general.exists_spelled_write h
    exact ⟨_, .float hx, .single (.number hspelled)⟩
  | .string s => by
    obtain ⟨t, ht, hspelled⟩ := exists_spelled_quoted s
    exact ⟨_, .string ht, .single hspelled⟩
  | .list items => by
    obtain ⟨vs, hvs, hspread⟩ := exists_spread_items items h
    refine ⟨.array vs, .list hvs, ?_⟩
    rw [Spells, tokens, characters]
    exact .character .openArray (hspread.append (.single .closeArray))
  | .record fields => by
    obtain ⟨ms, hkeys, hvalues, hspread⟩ := exists_spread_fields fields h
    refine ⟨.object ms, .record hkeys hvalues, ?_⟩
    rw [Spells, tokens, characters]
    exact .character .openObject (hspread.append (.single .closeObject))

theorem exists_spread_items (ds : List Document) (h : FiniteItems ds) :
    ∃ vs, List.Forall₂ StandsFor vs ds ∧ Spread (separate (itemTokens vs)) (itemCharacters ds) :=
  match ds with
  | [] => ⟨[], .nil, .nil⟩
  | [d] => by
    obtain ⟨v, hv, hspells⟩ := exists_spells d h.1
    exact ⟨[v], .cons hv .nil, hspells⟩
  | d :: d' :: ds => by
    obtain ⟨v, hv, hspells⟩ := exists_spells d h.1
    obtain ⟨vs, hvs, hspread⟩ := exists_spread_items (d' :: ds) h.2
    refine ⟨v :: vs, .cons hv hvs, ?_⟩
    cases hvs with
    | cons => exact Spread.append hspells (.character .comma hspread)

theorem exists_spread_fields (fs : List (String × Document)) (h : FiniteFields fs) :
    ∃ ms : List (Text × Json), ms.map (·.1.decode) = fs.map (some ·.1) ∧
      List.Forall₂ StandsFor (ms.map (·.2)) (fs.map (·.2)) ∧
        Spread (separate (memberTokens ms)) (fieldCharacters fs) :=
  match fs with
  | [] => ⟨[], rfl, .nil, .nil⟩
  | [(k, d)] => by
    obtain ⟨t, ht, hspelled⟩ := exists_spelled_quoted k
    obtain ⟨v, hv, hspells⟩ := exists_spells d h.1
    refine ⟨[(t, v)], by simp [ht], .cons hv .nil, ?_⟩
    exact .token hspelled (.character .colon hspells)
  | (k, d) :: f :: fs => by
    obtain ⟨t, ht, hspelled⟩ := exists_spelled_quoted k
    obtain ⟨v, hv, hspells⟩ := exists_spells d h.1
    obtain ⟨ms, hkeys, hvalues, hspread⟩ := exists_spread_fields (f :: fs) h.2
    refine ⟨(t, v) :: ms, by simp [ht, hkeys], .cons hv hvalues, ?_⟩
    cases ms with
    | nil => cases hvalues
    | cons m ms =>
      have hrest := Spread.append hspells (.character .comma hspread)
      show Spread _ (quoted k ++ ':' :: d.characters ++ ',' :: fieldCharacters (f :: fs))
      rw [List.append_assoc]
      exact .token hspelled (.character .colon hrest)

end

/-- **Documents are written as JSON texts** of values that stand for them. -/
theorem exists_spells_text (d : Document) (h : d.Finite) :
    ∃ v : Json, v.StandsFor d ∧ v.Spells d.text.toList := by
  rw [Document.text, String.toList_ofList]
  exact exists_spells d h

end Document

end NonlinearFit
