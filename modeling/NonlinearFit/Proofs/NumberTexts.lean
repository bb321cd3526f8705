import NonlinearFit.Json.Token
import Mathlib

/-!
# The grammar of number literals

`Numeral.Spelled n cs` says that the characters `cs` write the literal `n`: a minus sign perhaps,
digits without a needless leading zero, perhaps a fraction and perhaps an exponent, whose mark and
plus sign are free. Reading accepts exactly these texts (`Numeral.ofChars?_eq_some_iff`).
-/

namespace NonlinearFit.Json

/-- No character that satisfies `p` stands first. -/
def Ends (p : Char → Bool) (cs : List Char) : Prop := ∀ c ∈ cs.head?, p c = false

theorem Ends.mono {p q : Char → Bool} {cs : List Char} (h : Ends p cs)
    (hq : ∀ c, p c = false → q c = false) : Ends q cs :=
  fun c hc => hq c (h c hc)

/-- A text is split behind its longest first part of characters that satisfy `p`. -/
theorem span_eq_iff {p : Char → Bool} {cs ds rest : List Char} :
    cs.span p = (ds, rest) ↔ cs = ds ++ rest ∧ (∀ c ∈ ds, p c = true) ∧ Ends p rest := by
  rw [List.span_eq_takeWhile_dropWhile, Prod.mk.injEq]
  constructor
  · rintro ⟨rfl, rfl⟩
    refine ⟨List.takeWhile_append_dropWhile.symm, fun c hc => List.mem_takeWhile_imp hc, ?_⟩
    intro c hc
    have hhead := List.head?_dropWhile_not p cs
    rw [Option.mem_def.mp hc] at hhead
    exact hhead
  · rintro ⟨rfl, hds, hrest⟩
    rw [List.takeWhile_append_of_pos hds, List.dropWhile_append_of_pos hds]
    cases rest with
    | nil => simp
    | cons c rest =>
      have hc : p c = false := hrest c rfl
      simp [hc]

/-- Decimal digits, at least one. -/
def Digits (ds : List Char) : Prop := ds ≠ [] ∧ ∀ c ∈ ds, c.isDigit = true

namespace Numeral

/-- The ways to write an exponent. -/
inductive ExponentSpelled : Option (Bool × List Char) → List Char → Prop where
  | absent : ExponentSpelled none []
  | minus {mark : Char} {ds : List Char} (hmark : mark = 'e' ∨ mark = 'E') (hds : Digits ds) :
      ExponentSpelled (some (true, ds)) (mark :: '-' :: ds)
  | plus {mark : Char} {ds : List Char} (hmark : mark = 'e' ∨ mark = 'E') (hds : Digits ds) :
      ExponentSpelled (some (false, ds)) (mark :: '+' :: ds)
  | bare {mark : Char} {ds : List Char} (hmark : mark = 'e' ∨ mark = 'E') (hds : Digits ds) :
      ExponentSpelled (some (false, ds)) (mark :: ds)

/-- The one way to write a fraction. -/
def fractionText : Option (List Char) → List Char
  | none => []
  | some ds => '.' :: ds

/-- The one way to write the sign. -/
def signText (negative : Bool) : List Char := if negative then ['-'] else []

/-- The literal's parts are digits, and a leading zero stands alone. -/
structure WellFormed (n : Numeral) : Prop where
  whole : Digits n.whole
  leading : ¬(1 < n.whole.length ∧ n.whole.head? = some '0')
  fraction : ∀ ds, n.fraction = some ds → Digits ds

/-- The characters write the literal. -/
structure Spelled (n : Numeral) (cs : List Char) : Prop where
  wellFormed : n.WellFormed
  parts : ∃ exponent, ExponentSpelled n.exponent exponent ∧
    cs = signText n.negative ++ (n.whole ++ (fractionText n.fraction ++ exponent))

/-! ## Reading the parts -/

theorem digits1?_eq_some_iff {cs ds rest : List Char} :
    digits1? cs = some (ds, rest) ↔ cs = ds ++ rest ∧ Digits ds ∧ Ends Char.isDigit rest := by
  have hsplit : digits1? cs = some (ds, rest) ↔ ds ≠ [] ∧ cs.span Char.isDigit = (ds, rest) := by
    unfold digits1?
    generalize cs.span Char.isDigit = parts
    obtain ⟨_ | ⟨d, first⟩, others⟩ := parts
    · simp only [reduceCtorEq, Prod.mk.injEq, false_iff, not_and]
      exact fun hne h => absurd h.symm hne
    · simp only [Option.some.injEq, Prod.mk.injEq]
      exact ⟨fun h => ⟨by simp [← h.1], h⟩, And.right⟩
  rw [hsplit, span_eq_iff]
  unfold Digits
  tauto

theorem ending_eq_some_iff {negative : Bool} {cs : List Char} {e : Option (Bool × List Char)} :
    exponent?.ending negative cs = some e ↔ e = some (negative, cs) ∧ Digits cs := by
  unfold exponent?.ending
  constructor
  · intro h
    split at h
    · next ds hds =>
      cases h
      obtain ⟨rfl, hds, -⟩ := digits1?_eq_some_iff.mp hds
      rw [List.append_nil]
      exact ⟨rfl, hds⟩
    · cases h
  · rintro ⟨rfl, hds⟩
    have hwhole : digits1? cs = some (cs, []) :=
      digits1?_eq_some_iff.mpr ⟨cs.append_nil.symm, hds, nofun⟩
    rw [hwhole]

/-- The three ways to go on behind the mark of an exponent. -/
theorem signed_eq_some_iff {mark : Char} (hmark : mark = 'e' ∨ mark = 'E') {cs : List Char}
    {e : Option (Bool × List Char)} :
    exponent?.signed cs = some e ↔ ExponentSpelled e (mark :: cs) := by
  unfold exponent?.signed
  constructor
  · intro h
    split at h
    · obtain ⟨rfl, hds⟩ := ending_eq_some_iff.mp h
      exact .minus hmark hds
    · obtain ⟨rfl, hds⟩ := ending_eq_some_iff.mp h
      exact .plus hmark hds
    · obtain ⟨rfl, hds⟩ := ending_eq_some_iff.mp h
      exact .bare hmark hds
  · intro h
    cases h with
    | minus _ hds => exact ending_eq_some_iff.mpr ⟨rfl, hds⟩
    | plus _ hds => exact ending_eq_some_iff.mpr ⟨rfl, hds⟩
    | bare _ hds =>
      split
      · exact absurd (hds.2 '-' (.head _)) (by decide)
      · exact absurd (hds.2 '+' (.head _)) (by decide)
      · exact ending_eq_some_iff.mpr ⟨rfl, hds⟩

theorem exponent?_eq_some_iff {cs : List Char} {e : Option (Bool × List Char)} :
    exponent? cs = some e ↔ ExponentSpelled e cs := by
  unfold exponent?
  split
  · constructor
    · rintro ⟨⟩
      exact .absent
    · rintro ⟨⟩
      rfl
  · exact signed_eq_some_iff (.inl rfl)
  · exact signed_eq_some_iff (.inr rfl)
  · next hempty hlower hupper =>
    refine ⟨nofun, fun h => ?_⟩
    cases h with
    | absent => exact absurd rfl hempty
    | minus hmark | plus hmark | bare hmark =>
      rcases hmark with rfl | rfl
      · exact absurd rfl (hlower _)
      · exact absurd rfl (hupper _)

/-- An exponent starts with its mark, if there is one. -/
theorem ExponentSpelled.ends {e : Option (Bool × List Char)} {cs : List Char}
    (h : ExponentSpelled e cs) {p : Char → Bool} (hlower : p 'e' = false) (hupper : p 'E' = false) :
    Ends p cs := by
  cases h with
  | absent => exact nofun
  | minus hmark | plus hmark | bare hmark =>
    rintro c ⟨⟩
    rcases hmark with rfl | rfl
    · exact hlower
    · exact hupper

/-- What follows the whole part is read as fraction and exponent. -/
theorem tail?_eq_some_iff {negative : Bool} {whole cs : List Char} {n : Numeral} :
    tail? negative whole cs = some n ↔ n.negative = negative ∧ n.whole = whole ∧
      (∀ ds, n.fraction = some ds → Digits ds) ∧
      ∃ exponent, ExponentSpelled n.exponent exponent ∧
        cs = fractionText n.fraction ++ exponent := by
  obtain ⟨negative', whole', fraction, e⟩ := n
  dsimp only
  constructor
  · intro h
    unfold tail? at h
    split at h
    · simp only [Option.bind_eq_bind, Option.bind_eq_some_iff, Option.pure_def, Option.some.injEq,
        mk.injEq] at h
      obtain ⟨⟨ds, rest⟩, hds, e, he, rfl, rfl, rfl, rfl⟩ := h
      obtain ⟨rfl, hds, -⟩ := digits1?_eq_some_iff.mp hds
      refine ⟨rfl, rfl, ?_, rest, exponent?_eq_some_iff.mp he, rfl⟩
      rintro _ ⟨⟩
      exact hds
    · simp only [Option.bind_eq_bind, Option.bind_eq_some_iff, Option.pure_def, Option.some.injEq,
        mk.injEq] at h
      obtain ⟨e, he, rfl, rfl, rfl, rfl⟩ := h
      exact ⟨rfl, rfl, nofun, cs, exponent?_eq_some_iff.mp he, rfl⟩
  · rintro ⟨rfl, rfl, hfraction, exponent, he, rfl⟩
    cases fraction with
    | none =>
      have hpoint : Ends (· == '.') exponent := he.ends rfl rfl
      unfold tail?
      dsimp only [fractionText, List.nil_append]
      split
      · next cs => exact absurd (hpoint '.' rfl) (by decide)
      · simp only [exponent?_eq_some_iff.mpr he, Option.bind_eq_bind, Option.bind_some,
          Option.pure_def]
    | some ds =>
      have hds : digits1? (ds ++ exponent) = some (ds, exponent) :=
        digits1?_eq_some_iff.mpr ⟨rfl, hfraction ds rfl, he.ends rfl rfl⟩
      show (digits1? (ds ++ exponent)).bind _ = _
      simp only [hds, exponent?_eq_some_iff.mpr he, Option.bind_eq_bind, Option.bind_some,
        Option.pure_def]

/-- Behind the whole part no digit follows. -/
theorem ends_tail {fraction : Option (List Char)} {e : Option (Bool × List Char)}
    {exponent : List Char} (h : ExponentSpelled e exponent) :
    Ends Char.isDigit (fractionText fraction ++ exponent) := by
  cases fraction with
  | none => exact h.ends rfl rfl
  | some ds =>
    rintro c ⟨⟩
    rfl

theorem unsigned?_eq_some_iff {negative : Bool} {cs : List Char} {n : Numeral} :
    unsigned? negative cs = some n ↔ n.negative = negative ∧ n.WellFormed ∧
      ∃ exponent, ExponentSpelled n.exponent exponent ∧
        cs = n.whole ++ (fractionText n.fraction ++ exponent) := by
  unfold unsigned?
  rw [Option.bind_eq_bind, Option.bind_eq_some_iff]
  constructor
  · rintro ⟨⟨ds, rest⟩, hds, hrest⟩
    obtain ⟨rfl, hwhole, -⟩ := digits1?_eq_some_iff.mp hds
    dsimp only at hrest
    split at hrest
    · cases hrest
    · next hleading =>
      obtain ⟨rfl, rfl, hfraction, exponent, he, rfl⟩ := tail?_eq_some_iff.mp hrest
      exact ⟨rfl, ⟨hwhole, hleading, hfraction⟩, exponent, he, rfl⟩
  · rintro ⟨rfl, ⟨hds, hleading, hfraction⟩, exponent, he, rfl⟩
    refine ⟨(n.whole, fractionText n.fraction ++ exponent),
      digits1?_eq_some_iff.mpr ⟨rfl, hds, ends_tail he⟩, ?_⟩
    dsimp only
    rw [if_neg hleading]
    exact tail?_eq_some_iff.mpr ⟨rfl, rfl, hfraction, exponent, he, rfl⟩

/-- **Reading accepts exactly the grammar** of number literals. -/
theorem ofChars?_eq_some_iff {cs : List Char} {n : Numeral} :
    ofChars? cs = some n ↔ n.Spelled cs := by
  unfold ofChars?
  constructor
  · intro h
    split at h
    · obtain ⟨hsign, hwell, exponent, he, rfl⟩ := unsigned?_eq_some_iff.mp h
      exact ⟨hwell, exponent, he, by rw [hsign]; rfl⟩
    · obtain ⟨hsign, hwell, exponent, he, rfl⟩ := unsigned?_eq_some_iff.mp h
      exact ⟨hwell, exponent, he, by rw [hsign]; rfl⟩
  · rintro ⟨hwell, exponent, he, rfl⟩
    cases hsign : n.negative with
    | true => exact unsigned?_eq_some_iff.mpr ⟨hsign, hwell, exponent, he, rfl⟩
    | false =>
      have hread := unsigned?_eq_some_iff.mpr ⟨hsign, hwell, exponent, he, rfl⟩
      obtain ⟨hne, hdigits⟩ := hwell.whole
      obtain ⟨d, ds, hds⟩ := List.exists_cons_of_ne_nil hne
      rw [signText, if_neg Bool.false_ne_true, List.nil_append]
      split
      · next cs hcs =>
        rw [hds, List.cons_append, List.cons.injEq] at hcs
        exact absurd (hdigits d (hds ▸ .head _)) (by rw [hcs.1]; decide)
      · exact hread

/-- A text writes one literal. -/
theorem Spelled.unique {cs : List Char} {n m : Numeral} (hn : n.Spelled cs) (hm : m.Spelled cs) :
    n = m :=
  Option.some.inj ((ofChars?_eq_some_iff.mpr hn).symm.trans (ofChars?_eq_some_iff.mpr hm))

end Numeral

end NonlinearFit.Json
