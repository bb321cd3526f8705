import NonlinearFit.Json.Lexer
import NonlinearFit.Proofs.NumberTexts

/-!
# Texts as sequences of lexemes

`Token.Spelled` says how a token is written, and `Spread` that a text is made of tokens with white
space between them at will.

**Nothing else is accepted.** In every state of the lexer the characters read so far are those of
the tokens completed and of the one it is in the middle of (`Lexing.Reached`).

**Every such text is accepted**, if no two words or numbers stand side by side (`Separated`): these
extend as far as their characters go, and are checked when they end.
-/

namespace NonlinearFit.Json

open Lexing

/-! ## Spelling -/

/-- The hexadecimal digits of a number. -/
inductive HexSpelled : List Char → Nat → Prop where
  | nil : HexSpelled [] 0
  | concat {hs : List Char} {c : Char} {value d : Nat} (h : HexSpelled hs value)
      (hd : hexDigit? c = some d) : HexSpelled (hs ++ [c]) (16 * value + d)

/-- The ways to write a part of a string. -/
inductive PieceSpelled : Piece → List Char → Prop where
  | plain {c : Char} (hquote : c ≠ '"') (hescape : c ≠ '\\') (hcontrol : ¬c < ' ') :
      PieceSpelled (.char c) [c]
  | short {c e : Char} (h : escaped? c = some e) : PieceSpelled (.char e) ['\\', c]
  | unit {hs : List Char} {value : Nat} (h : HexSpelled hs value) (hlength : hs.length = 4) :
      PieceSpelled (.unit value) ('\\' :: 'u' :: hs)

/-- The characters write the string, without its quotes. -/
inductive TextSpelled : Text → List Char → Prop where
  | nil : TextSpelled [] []
  | cons {p : Piece} {t : Text} {cs ds : List Char} (hp : PieceSpelled p cs)
      (ht : TextSpelled t ds) : TextSpelled (p :: t) (cs ++ ds)

theorem TextSpelled.append {t u : Text} {cs ds : List Char} (ht : TextSpelled t cs)
    (hu : TextSpelled u ds) : TextSpelled (t ++ u) (cs ++ ds) := by
  induction ht with
  | nil => exact hu
  | cons hp _ ih =>
    rw [List.cons_append, List.append_assoc]
    exact .cons hp ih

theorem TextSpelled.concat {t : Text} {p : Piece} {cs ds : List Char} (ht : TextSpelled t cs)
    (hp : PieceSpelled p ds) : TextSpelled (t ++ [p]) (cs ++ ds) := by
  have h := ht.append (.cons hp .nil)
  rwa [List.append_nil] at h

/-- The ways to write a token. -/
inductive Token.Spelled : Token → List Char → Prop where
  | openArray : Spelled .openArray ['[']
  | closeArray : Spelled .closeArray [']']
  | openObject : Spelled .openObject ['\x7b']
  | closeObject : Spelled .closeObject ['\x7d']
  | comma : Spelled .comma [',']
  | colon : Spelled .colon [':']
  | null : Spelled .null ['n', 'u', 'l', 'l']
  | yes : Spelled (.bool true) ['t', 'r', 'u', 'e']
  | no : Spelled (.bool false) ['f', 'a', 'l', 's', 'e']
  | number {n : Numeral} {cs : List Char} (h : n.Spelled cs) : Spelled (.number n) cs
  | string {t : Text} {cs : List Char} (h : TextSpelled t cs) :
      Spelled (.string t) ('"' :: cs ++ ['"'])

/-- The text holds the tokens, with white space around them at will. -/
inductive Spread : List Token → List Char → Prop where
  | nil : Spread [] []
  | blank {ts : List Token} {c : Char} {cs : List Char} (hc : isBlank c = true)
      (h : Spread ts cs) : Spread ts (c :: cs)
  | token {t : Token} {ts : List Token} {cs ds : List Char} (ht : t.Spelled cs)
      (h : Spread ts ds) : Spread (t :: ts) (cs ++ ds)

theorem Spread.append {ts us : List Token} {cs ds : List Char} (ht : Spread ts cs)
    (hu : Spread us ds) : Spread (ts ++ us) (cs ++ ds) := by
  induction ht with
  | nil => exact hu
  | blank hc _ ih => exact .blank hc ih
  | token ht _ ih =>
    rw [List.cons_append, List.append_assoc]
    exact .token ht ih

theorem Spread.character {t : Token} {ts : List Token} {c : Char} {cs : List Char}
    (ht : t.Spelled [c]) (h : Spread ts cs) : Spread (t :: ts) (c :: cs) :=
  .token ht h

theorem Spread.single {t : Token} {cs : List Char} (ht : t.Spelled cs) : Spread [t] cs := by
  have h := Spread.token ht .nil
  rwa [List.append_nil] at h

/-! ## Nothing else is accepted -/

namespace Lexing

/-- The lexer has reached a state and completed tokens by reading the characters. -/
inductive Reached : Lexing → List Token → List Char → Prop where
  | between {ts : List Token} {cs : List Char} (h : Spread ts cs) : Reached .between ts cs
  | word {ts : List Token} {cs : List Char} (letters : List Char) (h : Spread ts cs) :
      Reached (.word letters) ts (cs ++ letters.reverse)
  | number {ts : List Token} {cs : List Char} (chars : List Char) (h : Spread ts cs) :
      Reached (.number chars) ts (cs ++ chars.reverse)
  | string {ts : List Token} {cs ds : List Char} {ps : List Piece} (h : Spread ts cs)
      (ht : TextSpelled ps.reverse ds) : Reached (.string ps) ts (cs ++ '"' :: ds)
  | escape {ts : List Token} {cs ds : List Char} {ps : List Piece} (h : Spread ts cs)
      (ht : TextSpelled ps.reverse ds) : Reached (.escape ps) ts (cs ++ '"' :: ds ++ ['\\'])
  | unit {ts : List Token} {cs ds hs : List Char} {ps : List Piece} {missing value : Nat}
      (h : Spread ts cs) (ht : TextSpelled ps.reverse ds) (hhex : HexSpelled hs value)
      (hmissing : 0 < missing) (hlength : hs.length + missing = 4) :
      Reached (.unit ps missing value) ts (cs ++ '"' :: ds ++ '\\' :: 'u' :: hs)

/-! ### The steps, state by state -/

theorem step_between (c : Char) : step .between c = begin? c := rfl

theorem step_word (letters : List Char) (c : Char) : step (.word letters) c =
    if c.isLower then some ([], .word (c :: letters)) else step.endBefore c (.word letters) :=
  rfl

theorem step_number (chars : List Char) (c : Char) : step (.number chars) c =
    if isNumeric c then some ([], .number (c :: chars)) else step.endBefore c (.number chars) :=
  rfl

theorem step_string (ps : List Piece) (c : Char) : step (.string ps) c =
    if c = '"' then some ([.string ps.reverse], .between)
    else if c = '\\' then some ([], .escape ps)
    else if c < ' ' then none
    else some ([], .string (.char c :: ps)) :=
  rfl

theorem step_escape (ps : List Piece) (c : Char) : step (.escape ps) c =
    if c = 'u' then some ([], .unit ps 4 0)
    else (escaped? c).map fun e => ([], .string (.char e :: ps)) :=
  rfl

theorem step_unit (ps : List Piece) (missing value : Nat) (c : Char) :
    step (.unit ps missing value) c = (hexDigit? c).map fun d =>
      ([], if missing ≤ 1 then .string (.unit (16 * value + d) :: ps)
        else .unit ps (missing - 1) (16 * value + d)) :=
  rfl

/-! ### The states that are reached -/

variable {s s' : Lexing} {ts done : List Token} {cs : List Char} {c : Char}

/-- A character between two tokens. -/
theorem reached_begin (h : Spread ts cs) (hstep : begin? c = some (done, s')) :
    Reached s' (ts ++ done) (cs ++ [c]) := by
  have hpunctuation {t : Token} (ht : t.Spelled [c]) : Reached .between (ts ++ [t]) (cs ++ [c]) :=
    .between (h.append (.single ht))
  unfold begin? at hstep
  split at hstep
  · next hblank =>
    cases hstep
    exact .between (h.append (.blank hblank .nil))
  split at hstep
  · next hc =>
    cases hstep
    exact hpunctuation (hc ▸ .openArray)
  split at hstep
  · next hc =>
    cases hstep
    exact hpunctuation (hc ▸ .closeArray)
  split at hstep
  · next hc =>
    cases hstep
    exact hpunctuation (hc ▸ .openObject)
  split at hstep
  · next hc =>
    cases hstep
    exact hpunctuation (hc ▸ .closeObject)
  split at hstep
  · next hc =>
    cases hstep
    exact hpunctuation (hc ▸ .comma)
  split at hstep
  · next hc =>
    cases hstep
    exact hpunctuation (hc ▸ .colon)
  split at hstep
  · next hc =>
    cases hstep
    rw [hc, List.append_nil]
    exact .string h .nil
  split at hstep
  · cases hstep
    rw [List.append_nil]
    exact .number [c] h
  split at hstep
  · cases hstep
    rw [List.append_nil]
    exact .word [c] h
  · cases hstep

theorem spelled_ofWord {cs : List Char} {t : Token} (h : ofWord? cs = some t) : t.Spelled cs := by
  unfold ofWord? at h
  split_ifs at h with hnull hyes hno <;> cases h
  · exact hnull ▸ .null
  · exact hyes ▸ .yes
  · exact hno ▸ .no

/-- What ends with the text, or in front of a character that does not belong to it. -/
theorem spread_finish (hs : Reached s ts cs) (hfinish : s.finish? = some done) :
    Spread (ts ++ done) cs := by
  cases hs with
  | between h =>
    cases hfinish
    rwa [List.append_nil]
  | word letters h =>
    obtain ⟨t, ht, rfl⟩ := Option.map_eq_some_iff.mp hfinish
    exact h.append (.single (spelled_ofWord ht))
  | number chars h =>
    obtain ⟨n, hn, rfl⟩ := Option.map_eq_some_iff.mp hfinish
    exact h.append (.single (.number (Numeral.ofChars?_eq_some_iff.mp hn)))
  | string | escape | unit => cases hfinish

theorem reached_endBefore (hs : Reached s ts cs) (hstep : step.endBefore c s = some (done, s')) :
    Reached s' (ts ++ done) (cs ++ [c]) := by
  unfold step.endBefore at hstep
  simp only [Option.bind_eq_bind, Option.bind_eq_some_iff, Option.pure_def, Option.some.injEq,
    Prod.mk.injEq] at hstep
  obtain ⟨first, hfirst, ⟨more, next⟩, hmore, rfl, rfl⟩ := hstep
  rw [← List.append_assoc]
  exact reached_begin (spread_finish hs hfirst) hmore

/-- A step adds its character to those read. -/
theorem reached_step (hs : Reached s ts cs) (hstep : s.step c = some (done, s')) :
    Reached s' (ts ++ done) (cs ++ [c]) := by
  cases hs with
  | between h => exact reached_begin h hstep
  | word letters h =>
    rw [step_word] at hstep
    split_ifs at hstep with hletter
    · cases hstep
      simpa using Reached.word (c :: letters) h
    · exact reached_endBefore (.word letters h) hstep
  | number chars h =>
    rw [step_number] at hstep
    split_ifs at hstep with hnumeric
    · cases hstep
      simpa using Reached.number (c :: chars) h
    · exact reached_endBefore (.number chars h) hstep
  | @string ts cs ds ps h ht =>
    rw [step_string] at hstep
    split_ifs at hstep with hquote hescape hcontrol
    · cases hstep
      subst hquote
      simpa using Reached.between (h.append (.single (.string ht)))
    · cases hstep
      subst hescape
      simpa using Reached.escape h ht
    · cases hstep
      have hpiece : TextSpelled (Piece.char c :: ps).reverse (ds ++ [c]) := by
        rw [List.reverse_cons]
        exact ht.concat (.plain hquote hescape hcontrol)
      simpa using Reached.string h hpiece
  | @escape ts cs ds ps h ht =>
    rw [step_escape] at hstep
    split_ifs at hstep with hunit
    · cases hstep
      subst hunit
      have hnext : Reached (.unit ps 4 0) ts (cs ++ '"' :: ds ++ '\\' :: 'u' :: []) :=
        .unit h ht .nil (by decide) rfl
      simpa using hnext
    · obtain ⟨e, he, heq⟩ := Option.map_eq_some_iff.mp hstep
      cases heq
      have hpiece : TextSpelled (Piece.char e :: ps).reverse (ds ++ ['\\', c]) := by
        rw [List.reverse_cons]
        exact ht.concat (.short he)
      simpa using Reached.string h hpiece
  | @unit ts cs ds hs ps missing value h ht hhex hmissing hlength =>
    obtain ⟨d, hd, heq⟩ := Option.map_eq_some_iff.mp hstep
    cases heq
    have hnext := hhex.concat hd
    have hcount : (hs ++ [c]).length = hs.length + 1 := List.length_append
    split
    · have hpiece : TextSpelled (Piece.unit (16 * value + d) :: ps).reverse
          (ds ++ '\\' :: 'u' :: (hs ++ [c])) := by
        rw [List.reverse_cons]
        exact ht.concat (.unit hnext (by omega))
      simpa using Reached.string h hpiece
    · have hmore : Reached (.unit ps (missing - 1) (16 * value + d)) ts
          (cs ++ '"' :: ds ++ '\\' :: 'u' :: (hs ++ [c])) :=
        .unit h ht hnext (by omega) (by omega)
      simpa using hmore

/-- The tokens that a text completes, read in the given state. -/
def readFrom : Lexing → List Char → Option (List Token)
  | s, [] => s.finish?
  | s, c :: cs => do
    let (done, next) ← s.step c
    return done ++ (← next.readFrom cs)

theorem foldlM_readChar (done : Array Token) (s : Lexing) (cs : List Char) :
    (do
      let (done, s) ← cs.foldlM Token.readChar (done, s)
      return done.toList ++ (← s.finish?)) = (s.readFrom cs).map (done.toList ++ ·) := by
  induction cs generalizing done s with
  | nil =>
    cases h : s.finish? <;> simp [readFrom, h]
  | cons c cs ih =>
    rw [List.foldlM_cons, readFrom, Token.readChar]
    cases hstep : s.step c with
    | none => rfl
    | some next =>
      obtain ⟨more, next⟩ := next
      refine (ih (done ++ more) next).trans ?_
      cases h : next.readFrom cs <;> simp [h]

/-- Reading goes through the text. -/
theorem ofChars?_eq (cs : List Char) : Token.ofChars? cs = readFrom .between cs :=
  (foldlM_readChar #[] .between cs).trans (by simp)

theorem spread_readFrom {ds : List Char} {us : List Token} (hs : Reached s ts cs)
    (h : s.readFrom ds = some us) : Spread (ts ++ us) (cs ++ ds) := by
  induction ds generalizing s ts cs us with
  | nil =>
    rw [List.append_nil]
    exact spread_finish hs h
  | cons c ds ih =>
    simp only [readFrom, Option.bind_eq_bind, Option.bind_eq_some_iff, Option.pure_def,
      Option.some.injEq] at h
    obtain ⟨⟨done, next⟩, hstep, more, hmore, rfl⟩ := h
    simpa using ih (reached_step hs hstep) hmore

end Lexing

/-- What the lexer accepts is tokens and white space. -/
theorem spread_of_ofChars? {cs : List Char} {ts : List Token} (h : Token.ofChars? cs = some ts) :
    Spread ts cs :=
  spread_readFrom (.between .nil) (ofChars?_eq cs ▸ h)

/-! ## Every such text is accepted -/

/-- The token shows itself where it ends. Words and numbers do not. -/
def Token.delimited : Token → Bool
  | .null | .bool _ | .number _ => false
  | .openArray | .closeArray | .openObject | .closeObject | .comma | .colon | .string _ => true

/-- No two words or numbers stand side by side. -/
def Separated (ts : List Token) : Prop :=
  ts.IsChain fun t u => t.delimited = true ∨ u.delimited = true

namespace Lexing

variable {s s' : Lexing} {t : Token} {ts done : List Token} {c : Char} {cs ds rest : List Char}
  {p : Char → Bool}

theorem readFrom_cons (hstep : s.step c = some (done, s')) :
    s.readFrom (c :: rest) = (s'.readFrom rest).map (done ++ ·) := by
  rw [readFrom, hstep]
  cases h : s'.readFrom rest <;> simp [h]

/-- A step that completes nothing. -/
theorem readFrom_silent (hstep : s.step c = some ([], s')) :
    s.readFrom (c :: rest) = s'.readFrom rest := by
  simp [readFrom_cons hstep]

/-! ### Words and numbers -/

/-- What has no end of its own ends in front of the next character that does not belong to it. -/
theorem readFrom_end (hstep : ∀ c, p c = false → s.step c = step.endBefore c s)
    (hfinish : s.finish? = some [t]) (hend : Ends p rest) :
    s.readFrom rest = (readFrom .between rest).map (t :: ·) := by
  cases rest with
  | nil =>
    have hbetween : finish? .between = some [] := rfl
    simp [readFrom, hfinish, hbetween]
  | cons c rest =>
    have hc : s.step c = (begin? c).map fun next => (t :: next.1, next.2) := by
      rw [hstep c (hend c rfl), step.endBefore, hfinish]
      cases begin? c <;> rfl
    cases hbegin : begin? c with
    | none =>
      have hbetween : step .between c = none := hbegin
      simp [readFrom, hc, hbegin, hbetween]
    | some next =>
      have hbetween : step .between c = some next := hbegin
      rw [hbegin] at hc
      rw [readFrom_cons hc, readFrom_cons hbetween]
      simp [Function.comp_def]

theorem readFrom_letters (letters : List Char) (h : ∀ c ∈ ds, c.isLower = true) :
    readFrom (.word letters) (ds ++ rest) = readFrom (.word (ds.reverse ++ letters)) rest := by
  induction ds generalizing letters with
  | nil => rfl
  | cons d ds ih =>
    have hstep : step (.word letters) d = some ([], .word (d :: letters)) := by
      simp [step_word, h d (.head _)]
    rw [List.cons_append, readFrom_silent hstep, ih _ fun c hc => h c (.tail _ hc)]
    simp

theorem readFrom_numerics (chars : List Char) (h : ∀ c ∈ ds, isNumeric c = true) :
    readFrom (.number chars) (ds ++ rest) = readFrom (.number (ds.reverse ++ chars)) rest := by
  induction ds generalizing chars with
  | nil => rfl
  | cons d ds ih =>
    have hstep : step (.number chars) d = some ([], .number (d :: chars)) := by
      simp [step_number, h d (.head _)]
    rw [List.cons_append, readFrom_silent hstep, ih _ fun c hc => h c (.tail _ hc)]
    simp

theorem readFrom_word (hbegin : begin? c = some ([], .word [c])) (hds : ∀ d ∈ ds, d.isLower = true)
    (hword : ofWord? (c :: ds) = some t) (hend : Ends Char.isLower rest) :
    readFrom .between (c :: ds ++ rest) = (readFrom .between rest).map (t :: ·) := by
  have hfinish : finish? (.word (ds.reverse ++ [c])) = some [t] := by
    simp [finish?, hword]
  have hstep : step .between c = some ([], .word [c]) := hbegin
  rw [List.cons_append, readFrom_silent hstep, readFrom_letters _ hds]
  exact readFrom_end (fun d hd => by simp [step_word, hd]) hfinish hend

theorem isNumeric_digit (h : c.isDigit = true) : isNumeric c = true := by
  simp [isNumeric, h]

theorem isNumeric_exponent {e : Option (Bool × List Char)} (h : Numeral.ExponentSpelled e cs) :
    ∀ c ∈ cs, isNumeric c = true := by
  have hmark {m : Char} (hm : m = 'e' ∨ m = 'E') : isNumeric m = true := by
    rcases hm with rfl | rfl <;> rfl
  cases h with
  | absent => exact nofun
  | minus hm hds | plus hm hds =>
    refine List.forall_mem_cons.mpr ⟨hmark hm, List.forall_mem_cons.mpr ⟨rfl, ?_⟩⟩
    exact fun c hc => isNumeric_digit (hds.2 c hc)
  | bare hm hds =>
    exact List.forall_mem_cons.mpr ⟨hmark hm, fun c hc => isNumeric_digit (hds.2 c hc)⟩

/-- A literal starts with a digit or a minus sign, and all its characters are those of numbers. -/
theorem exists_numerics {n : Numeral} (h : n.Spelled cs) : ∃ c ds, cs = c :: ds ∧
    (c.isDigit = true ∨ c = '-') ∧ ∀ d ∈ ds, isNumeric d = true := by
  obtain ⟨⟨⟨hne, hwhole⟩, -, hfraction⟩, exponent, he, rfl⟩ := h
  obtain ⟨w, ws, hws⟩ := List.exists_cons_of_ne_nil hne
  have htail : ∀ d ∈ Numeral.fractionText n.fraction ++ exponent, isNumeric d = true := by
    refine List.forall_mem_append.mpr ⟨?_, isNumeric_exponent he⟩
    cases hn : n.fraction with
    | none => exact nofun
    | some ds =>
      exact List.forall_mem_cons.mpr ⟨rfl, fun c hc => isNumeric_digit ((hfraction ds hn).2 c hc)⟩
  have hall : ∀ d ∈ n.whole ++ (Numeral.fractionText n.fraction ++ exponent),
      isNumeric d = true :=
    List.forall_mem_append.mpr ⟨fun c hc => isNumeric_digit (hwhole c hc), htail⟩
  cases n.negative with
  | true => exact ⟨'-', _, rfl, .inr rfl, hall⟩
  | false =>
    rw [hws] at hall hwhole ⊢
    exact ⟨w, _, rfl, .inl (hwhole w (.head _)), fun d hd => hall d (.tail _ hd)⟩

theorem ne_of_isDigit {k : Char} (h : c.isDigit = true) (hk : k.isDigit = false) : c ≠ k := by
  rintro rfl
  rw [h] at hk
  cases hk

theorem isBlank_number (h : c.isDigit = true ∨ c = '-') : isBlank c = false := by
  rcases h with h | rfl
  · have hne {k : Char} (hk : k.isDigit = false) := ne_of_isDigit h hk
    simp [isBlank, hne (k := ' ') rfl, hne (k := '\t') rfl, hne (k := '\n') rfl,
      hne (k := '\r') rfl]
  · rfl

theorem begin?_number (h : c.isDigit = true ∨ c = '-') : begin? c = some ([], .number [c]) := by
  have hblank := isBlank_number h
  rcases h with h | rfl
  · have hne {k : Char} (hk : k.isDigit = false) := ne_of_isDigit h hk
    simp [begin?, hblank, h, hne (k := '[') rfl, hne (k := ']') rfl, hne (k := '\x7b') rfl,
      hne (k := '\x7d') rfl, hne (k := ',') rfl, hne (k := ':') rfl, hne (k := '"') rfl]
  · rfl

theorem readFrom_number {n : Numeral} (hn : n.Spelled cs) (hend : Ends isNumeric rest) :
    readFrom .between (cs ++ rest) = (readFrom .between rest).map (.number n :: ·) := by
  have hread := Numeral.ofChars?_eq_some_iff.mpr hn
  obtain ⟨c, ds, rfl, hc, hds⟩ := exists_numerics hn
  have hstep : step .between c = some ([], .number [c]) := begin?_number hc
  have hfinish : finish? (.number (ds.reverse ++ [c])) = some [.number n] := by
    simp [finish?, hread]
  rw [List.cons_append, readFrom_silent hstep, readFrom_numerics _ hds]
  exact readFrom_end (fun d hd => by simp [step_number, hd]) hfinish hend

/-! ### Strings -/

theorem readFrom_hex {ps : List Piece} {value : Nat} (h : HexSpelled cs value)
    (hlength : cs.length < 4) :
    readFrom (.unit ps 4 0) (cs ++ rest) = readFrom (.unit ps (4 - cs.length) value) rest := by
  induction h generalizing rest with
  | nil => rfl
  | @concat hs c value d _ hd ih =>
    have hcount : (hs ++ [c]).length = hs.length + 1 := List.length_append
    have hstep : step (.unit ps (4 - hs.length) value) c =
        some ([], .unit ps (4 - (hs ++ [c]).length) (16 * value + d)) := by
      have hmore : ¬4 - hs.length ≤ 1 := by omega
      simp [step_unit, hd, hmore, Nat.sub_sub]
    rw [List.append_assoc, ih (by omega)]
    exact readFrom_silent hstep

theorem readFrom_piece {p : Piece} (ps : List Piece) (hp : PieceSpelled p cs) :
    readFrom (.string ps) (cs ++ rest) = readFrom (.string (p :: ps)) rest := by
  have hbackslash : step (.string ps) '\\' = some ([], .escape ps) := rfl
  cases hp with
  | plain hquote hescape hcontrol =>
    exact readFrom_silent (by simp [step_string, hquote, hescape, hcontrol])
  | @short c e h =>
    have hunit : c ≠ 'u' := by
      rintro rfl
      cases h
    rw [List.cons_append, readFrom_silent hbackslash]
    exact readFrom_silent (by simp [step_escape, hunit, h])
  | unit h hlength =>
    have hu : step (.escape ps) 'u' = some ([], .unit ps 4 0) := rfl
    rw [List.cons_append, readFrom_silent hbackslash, List.cons_append, readFrom_silent hu]
    -- The last digit completes the unit.
    cases h with
    | nil => cases hlength
    | @concat hs c value d hhs hd =>
      have hcount : (hs ++ [c]).length = hs.length + 1 := List.length_append
      have hlast : 4 - hs.length = 1 := by omega
      rw [List.append_assoc, readFrom_hex hhs (by omega), hlast]
      exact readFrom_silent (by simp [step_unit, hd])

theorem readFrom_text {t : Text} (ps : List Piece) (ht : TextSpelled t cs) :
    readFrom (.string ps) (cs ++ rest) = readFrom (.string (t.reverse ++ ps)) rest := by
  induction ht generalizing ps rest with
  | nil => rfl
  | cons hp _ ih =>
    rw [List.append_assoc, readFrom_piece ps hp, ih]
    simp

/-! ### Tokens -/

/-- White space is passed over. -/
theorem readFrom_blank (hc : isBlank c = true) :
    readFrom .between (c :: rest) = readFrom .between rest :=
  readFrom_silent (by simp [step_between, begin?, hc])

theorem readFrom_punctuation (h : begin? c = some ([t], .between)) :
    readFrom .between ([c] ++ rest) = (readFrom .between rest).map (t :: ·) := by
  have hstep : step .between c = some ([t], .between) := h
  exact readFrom_cons hstep

/-- A character that may stand in a word or a number. -/
def isWordlike (c : Char) : Bool := c.isLower || isNumeric c

theorem readFrom_token (ht : t.Spelled cs)
    (hend : t.delimited = false → Ends isWordlike rest) :
    readFrom .between (cs ++ rest) = (readFrom .between rest).map (t :: ·) := by
  have hlower {c : Char} (hc : isWordlike c = false) : c.isLower = false := by
    simp_all [isWordlike]
  have hnumeric {c : Char} (hc : isWordlike c = false) : isNumeric c = false := by
    simp_all [isWordlike]
  cases ht with
  | openArray | closeArray | openObject | closeObject | comma | colon =>
    exact readFrom_punctuation rfl
  | null | yes | no =>
    exact readFrom_word rfl (by simp) rfl ((hend rfl).mono fun _ => hlower)
  | number h => exact readFrom_number h ((hend rfl).mono fun _ => hnumeric)
  | @string t cs h =>
    have hopen : step .between '"' = some ([], .string []) := rfl
    have hclose : step (.string (t.reverse ++ [])) '"' = some ([.string t], .between) := by
      simp [step_string]
    rw [List.append_assoc, List.cons_append, readFrom_silent hopen, readFrom_text [] h]
    exact readFrom_cons hclose

/-- White space and what is delimited ends words and numbers. -/
theorem ends_of_spread (h : Spread ts cs) (hts : ∀ t ∈ ts.head?, t.delimited = true) :
    Ends isWordlike cs := by
  cases h with
  | nil => exact nofun
  | @blank ts b cs hb h =>
    rintro c ⟨⟩
    simp only [isBlank, Bool.or_eq_true, decide_eq_true_eq] at hb
    rcases hb with ((rfl | rfl) | rfl) | rfl <;> rfl
  | token ht h =>
    have ht' := hts _ rfl
    cases ht with
    | openArray | closeArray | openObject | closeObject | comma | colon | string =>
      rintro c ⟨⟩
      rfl
    | null | yes | no | number => cases ht'

theorem readFrom_spread (h : Spread ts cs) (hts : Separated ts) :
    readFrom .between cs = some ts := by
  induction h with
  | nil => rfl
  | blank hc _ ih => rw [readFrom_blank hc, ih hts]
  | @token t ts cs ds ht h ih =>
    obtain ⟨hhead, htail⟩ := List.isChain_cons.mp hts
    have hend (hopen : t.delimited = false) : Ends isWordlike ds := by
      refine ends_of_spread h fun u hu => (hhead u hu).resolve_left ?_
      rw [hopen]
      exact Bool.false_ne_true
    rw [readFrom_token ht hend, ih htail]
    rfl

/-- Behind a delimited token reading goes on as at the start of a text. -/
theorem readFrom_append (h : s.readFrom cs = some ts)
    (hts : ∀ t ∈ ts.getLast?, t.delimited = true) :
    s.readFrom (cs ++ rest) = (readFrom .between rest).map (ts ++ ·) := by
  induction cs generalizing s ts with
  | nil =>
    cases s with
    | between =>
      cases h
      simp
    | word letters =>
      obtain ⟨t, ht, rfl⟩ := Option.map_eq_some_iff.mp h
      unfold ofWord? at ht
      split_ifs at ht <;> cases ht <;> cases hts _ rfl
    | number chars =>
      obtain ⟨n, -, rfl⟩ := Option.map_eq_some_iff.mp h
      cases hts _ rfl
    | string | escape | unit => cases h
  | cons c cs ih =>
    simp only [readFrom, Option.bind_eq_bind, Option.bind_eq_some_iff, Option.pure_def,
      Option.some.injEq] at h
    obtain ⟨⟨done, next⟩, hstep, more, hmore, rfl⟩ := h
    have hlast : ∀ t ∈ more.getLast?, t.delimited = true := by
      intro t ht
      refine hts t ?_
      rw [List.getLast?_append, Option.mem_def.mp ht]
      rfl
    rw [List.cons_append, readFrom_cons hstep, ih hmore hlast]
    simp [Function.comp_def]

end Lexing

/-- White space holds no tokens, and nothing else does. -/
theorem Spread.blank_of_nil {cs : List Char} (h : Spread [] cs) : ∀ c ∈ cs, isBlank c = true := by
  generalize hts : ([] : List Token) = ts at h
  induction h with
  | nil => exact nofun
  | blank hc _ ih => exact List.forall_mem_cons.mpr ⟨hc, ih hts⟩
  | token => cases hts

/-- A token starts with something else than white space. -/
theorem Token.Spelled.exists_cons {t : Token} {cs : List Char} (h : t.Spelled cs) :
    ∃ c ds, cs = c :: ds ∧ isBlank c = false := by
  cases h with
  | number h =>
    obtain ⟨c, ds, rfl, hc, -⟩ := exists_numerics h
    exact ⟨c, ds, rfl, isBlank_number hc⟩
  | openArray | closeArray | openObject | closeObject | comma | colon | null | yes | no | string =>
    exact ⟨_, _, rfl, rfl⟩

/-- A text starts with its first token, whatever follows. -/
theorem Spread.exists_first {t u : Token} {us : List Token} {cs ds : List Char}
    (ht : Spread [t] cs) (hu : Spread (u :: us) (cs ++ ds)) :
    ∃ c es fs, t.Spelled (c :: es) ∧ u.Spelled (c :: fs) := by
  generalize hts : [t] = ts at ht
  induction ht with
  | nil => cases hts
  | @blank _ c cs hc _ ih =>
    generalize htext : c :: cs ++ ds = text at hu
    cases hu with
    | blank _ hu =>
      obtain ⟨rfl, rfl⟩ := List.cons.inj htext
      exact ih hu hts
    | token hu _ =>
      obtain ⟨d, es, rfl, hd⟩ := hu.exists_cons
      obtain ⟨rfl, -⟩ := List.cons.inj htext
      rw [hc] at hd
      cases hd
  | @token _ _ es cs ht _ _ =>
    cases hts
    obtain ⟨c, es, rfl, hc⟩ := ht.exists_cons
    generalize htext : c :: es ++ cs ++ ds = text at hu
    cases hu with
    | blank hblank _ =>
      obtain ⟨rfl, -⟩ := List.cons.inj htext
      rw [hc] at hblank
      cases hblank
    | token hu _ =>
      obtain ⟨d, fs, rfl, -⟩ := hu.exists_cons
      obtain ⟨rfl, -⟩ := List.cons.inj htext
      exact ⟨c, es, fs, ht, hu⟩

/-- **The lexer accepts tokens with white space at will**, if no two words or numbers stand side by
side. -/
theorem ofChars?_of_spread {ts : List Token} {cs : List Char} (h : Spread ts cs)
    (hts : Separated ts) : Token.ofChars? cs = some ts :=
  (ofChars?_eq cs).trans (readFrom_spread h hts)

end NonlinearFit.Json
