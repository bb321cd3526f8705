import NonlinearFit.Json.Value
import Mathlib.Data.List.Basic

/-!
# Values as sequences of tokens

`Json.tokens` writes a value as tokens, and the parser accepts exactly these sequences
(`ofTokens?_eq_some_iff`).

**Nothing else is accepted.** In every state that the parser reaches, the tokens read so far are
those of its stack and goal (`Parsing.Reached`), one case for each goal. At the end they are the
value's.

**Every value is accepted.** Reading the tokens of a value where one is wanted puts the value there
(`foldlM_tokens`), by recursion over the value and its contents.
-/

namespace NonlinearFit.Json

/-- Sequences with commas between them. -/
def separate : List (List Token) → List Token
  | [] => []
  | [ts] => ts
  | ts :: rest => ts ++ .comma :: separate rest

/-- Sequences with a comma behind each. -/
def terminate (tss : List (List Token)) : List Token := tss.flatMap (· ++ [.comma])

theorem separate_concat (tss : List (List Token)) (ts : List Token) :
    separate (tss ++ [ts]) = terminate tss ++ ts := by
  induction tss with
  | nil => rfl
  | cons us tss ih =>
    rw [List.cons_append, separate, ih]
    · simp [terminate]
    · simp

mutual

/-- The tokens of a value. -/
def tokens : Json → List Token
  | null => [.null]
  | bool b => [.bool b]
  | number n => [.number n]
  | string t => [.string t]
  | array items => .openArray :: separate (itemTokens items) ++ [.closeArray]
  | object members => .openObject :: separate (memberTokens members) ++ [.closeObject]

def itemTokens : List Json → List (List Token)
  | [] => []
  | v :: vs => v.tokens :: itemTokens vs

def memberTokens : List (Text × Json) → List (List Token)
  | [] => []
  | (k, v) :: ms => (.string k :: .colon :: v.tokens) :: memberTokens ms

end

theorem itemTokens_eq (vs : List Json) : itemTokens vs = vs.map tokens := by
  induction vs with
  | nil => rfl
  | cons v vs ih => rw [itemTokens, ih, List.map_cons]

/-- The tokens of a member. -/
def entryTokens (m : Text × Json) : List Token := .string m.1 :: .colon :: m.2.tokens

theorem memberTokens_eq (ms : List (Text × Json)) : memberTokens ms = ms.map entryTokens := by
  induction ms with
  | nil => rfl
  | cons m ms ih => rw [memberTokens, ih, List.map_cons, entryTokens]

/-! ## Nothing else is accepted -/

/-- The tokens of an open container up to the place of the next item or member, or of the value that
is missing. -/
def Frame.opened : Frame → List Token
  | .array items => .openArray :: terminate (items.reverse.map tokens)
  | .object ms => .openObject :: terminate (ms.reverse.map entryTokens)
  | .member ms key =>
    .openObject :: terminate (ms.reverse.map entryTokens) ++ [.string key, .colon]

namespace Parsing

/-- The tokens of all open containers, from the outermost to the innermost. -/
def opened : List Frame → List Token
  | [] => []
  | frame :: stack => opened stack ++ frame.opened

/-- The parser has reached a state by reading the tokens. -/
inductive Reached : Parsing → List Token → Prop where
  | value (stack : List Frame) : Reached ⟨.value, stack⟩ (opened stack)
  | firstItem (stack : List Frame) :
      Reached ⟨.firstItem, .array [] :: stack⟩ (opened (.array [] :: stack))
  | firstKey (stack : List Frame) :
      Reached ⟨.firstKey, .object [] :: stack⟩ (opened (.object [] :: stack))
  | key (ms : List (Text × Json)) (stack : List Frame) :
      Reached ⟨.key, .object ms :: stack⟩ (opened (.object ms :: stack))
  | colon (ms : List (Text × Json)) (key : Text) (stack : List Frame) :
      Reached ⟨.colon, .member ms key :: stack⟩ (opened (.object ms :: stack) ++ [.string key])
  | items (v : Json) (items : List Json) (stack : List Frame) :
      Reached ⟨.rest, .array (v :: items) :: stack⟩ (opened (.array items :: stack) ++ v.tokens)
  | members (m : Text × Json) (ms : List (Text × Json)) (stack : List Frame) :
      Reached ⟨.rest, .object (m :: ms) :: stack⟩ (opened (.object ms :: stack) ++ entryTokens m)
  | ended (v : Json) : Reached ⟨.ended v, []⟩ v.tokens

variable {stack : List Frame} {v : Json} {t : Token} {ts : List Token} {p p' : Parsing}

theorem reached_put (h : put? stack v = some p) : Reached p (opened stack ++ v.tokens) := by
  unfold put? at h
  split at h <;> cases h
  · exact .ended v
  · exact .items v ..
  · next ms key s =>
    have htokens : opened (.member ms key :: s) ++ v.tokens =
        opened (.object ms :: s) ++ entryTokens (key, v) := by
      simp [opened, Frame.opened, entryTokens]
    rw [htokens]
    exact .members ..

theorem reached_value (h : value? stack t = some p) : Reached p (opened stack ++ [t]) := by
  cases t with
  | openArray =>
    cases h
    exact .firstItem stack
  | openObject =>
    cases h
    exact .firstKey stack
  | null | bool | number | string => exact reached_put h
  | closeArray | closeObject | comma | colon => cases h

theorem reached_key (ms : List (Text × Json)) (h : key? (.object ms :: stack) t = some p) :
    Reached p (opened (.object ms :: stack) ++ [t]) := by
  cases t with
  | string key =>
    cases h
    exact .colon ms key stack
  | null | bool | number | openArray | openObject | closeArray | closeObject | comma | colon =>
    cases h

/-- An array is closed behind its last item. -/
theorem reached_closeArray {items : List Json} (h : put? stack (.array items) = some p) :
    Reached p (opened stack ++ .openArray :: separate (items.map tokens) ++ [.closeArray]) := by
  simpa [tokens, itemTokens_eq] using reached_put h

theorem reached_closeObject {ms : List (Text × Json)} (h : put? stack (.object ms) = some p) :
    Reached p (opened stack ++ .openObject :: separate (ms.map entryTokens) ++ [.closeObject]) := by
  simpa [tokens, memberTokens_eq] using reached_put h

/-- Behind an item stands a comma or the end. -/
theorem reached_rest_array {items : List Json}
    (h : step ⟨.rest, .array (v :: items) :: stack⟩ t = some p) :
    Reached p (opened (.array items :: stack) ++ v.tokens ++ [t]) := by
  cases t with
  | comma =>
    cases h
    have htokens : opened (.array items :: stack) ++ v.tokens ++ [.comma] =
        opened (.array (v :: items) :: stack) := by
      simp [opened, Frame.opened, terminate]
    rw [htokens]
    exact .value _
  | closeArray =>
    have hclosed := reached_closeArray h
    rw [List.reverse_cons, List.map_append, List.map_singleton, separate_concat] at hclosed
    simpa [opened, Frame.opened] using hclosed
  | null | bool | number | string | openArray | openObject | closeObject | colon => cases h

/-- Behind a member stands a comma or the end. -/
theorem reached_rest_object {m : Text × Json} {ms : List (Text × Json)}
    (h : step ⟨.rest, .object (m :: ms) :: stack⟩ t = some p) :
    Reached p (opened (.object ms :: stack) ++ entryTokens m ++ [t]) := by
  cases t with
  | comma =>
    cases h
    have htokens : opened (.object ms :: stack) ++ entryTokens m ++ [.comma] =
        opened (.object (m :: ms) :: stack) := by
      simp [opened, Frame.opened, terminate]
    rw [htokens]
    exact .key ..
  | closeObject =>
    have hclosed := reached_closeObject h
    rw [List.reverse_cons, List.map_append, List.map_singleton, separate_concat] at hclosed
    simpa [opened, Frame.opened] using hclosed
  | null | bool | number | string | openArray | openObject | closeArray | colon => cases h

/-- A step adds its token to the tokens read. -/
theorem reached_step (hp : Reached p ts) (h : p.step t = some p') : Reached p' (ts ++ [t]) := by
  cases hp with
  | value stack => exact reached_value h
  | firstItem stack =>
    change (if t = .closeArray then close? _ t else value? _ t) = some p' at h
    split at h
    · next ht =>
      subst ht
      simpa [opened, Frame.opened, terminate, separate] using reached_closeArray h
    · exact reached_value h
  | firstKey stack =>
    change (if t = .closeObject then close? _ t else key? _ t) = some p' at h
    split at h
    · next ht =>
      subst ht
      simpa [opened, Frame.opened, terminate, separate] using reached_closeObject h
    · exact reached_key [] h
  | key ms stack => exact reached_key ms h
  | colon ms key stack =>
    change (if t = .colon then some _ else none) = some p' at h
    split at h
    · next ht =>
      subst ht
      cases h
      have htokens : opened (.object ms :: stack) ++ [.string key] ++ [.colon] =
          opened (.member ms key :: stack) := by
        simp [opened, Frame.opened]
      rw [htokens]
      exact .value _
    · cases h
  | items v items stack => exact reached_rest_array h
  | members m ms stack => exact reached_rest_object h
  | ended v => cases h

theorem reached_foldlM (hp : Reached p ts) {us : List Token}
    (h : us.foldlM step p = some p') : Reached p' (ts ++ us) := by
  induction us generalizing p ts with
  | nil =>
    cases h
    simpa using hp
  | cons t us ih =>
    rw [List.foldlM_cons, Option.bind_eq_bind, Option.bind_eq_some_iff] at h
    obtain ⟨q, hq, hrest⟩ := h
    simpa using ih (reached_step hp hq) hrest

/-! ## Every value is accepted -/

/-- No array ends where its first item starts. -/
theorem foldlM_firstItem (v : Json) (vs : List Json) (stack : List Frame) (rest : List Token) :
    (separate (itemTokens (v :: vs)) ++ rest).foldlM step ⟨.firstItem, stack⟩ =
      (separate (itemTokens (v :: vs)) ++ rest).foldlM step ⟨.value, stack⟩ := by
  obtain ⟨us, hus⟩ : ∃ us, separate (itemTokens (v :: vs)) = v.tokens ++ us := by
    cases vs with
    | nil => exact ⟨[], (List.append_nil _).symm⟩
    | cons w ws => exact ⟨_, rfl⟩
  rw [hus]
  cases v <;> rfl

/-- No object ends where its first key stands. -/
theorem foldlM_firstKey (m : Text × Json) (ms : List (Text × Json)) (stack : List Frame)
    (rest : List Token) :
    (separate (memberTokens (m :: ms)) ++ rest).foldlM step ⟨.firstKey, stack⟩ =
      (separate (memberTokens (m :: ms)) ++ rest).foldlM step ⟨.key, stack⟩ := by
  cases ms <;> rfl

mutual

/-- The tokens of a value put the value where it is wanted. -/
theorem foldlM_tokens (v : Json) (stack : List Frame) (rest : List Token) :
    (v.tokens ++ rest).foldlM step ⟨.value, stack⟩ = put? stack v >>= rest.foldlM step :=
  match v with
  | .null | .bool _ | .number _ | .string _ => rfl
  | .array [] | .object [] => rfl
  | .array (v :: vs) => by
    have hopen : ((array (v :: vs)).tokens ++ rest).foldlM step ⟨.value, stack⟩ =
        (separate (itemTokens (v :: vs)) ++ .closeArray :: rest).foldlM step
          ⟨.firstItem, .array [] :: stack⟩ := by
      rw [tokens, List.append_assoc]
      rfl
    rw [hopen, foldlM_firstItem]
    exact foldlM_items v vs [] stack rest
  | .object (m :: ms) => by
    have hopen : ((object (m :: ms)).tokens ++ rest).foldlM step ⟨.value, stack⟩ =
        (separate (memberTokens (m :: ms)) ++ .closeObject :: rest).foldlM step
          ⟨.firstKey, .object [] :: stack⟩ := by
      rw [tokens, List.append_assoc]
      rfl
    rw [hopen, foldlM_firstKey]
    exact foldlM_members m ms [] stack rest
termination_by sizeOf v

/-- The tokens of items, up to the end of the array. -/
theorem foldlM_items (v : Json) (vs items : List Json) (stack : List Frame) (rest : List Token) :
    (separate (itemTokens (v :: vs)) ++ .closeArray :: rest).foldlM step
        ⟨.value, .array items :: stack⟩ =
      put? stack (.array (items.reverse ++ v :: vs)) >>= rest.foldlM step :=
  match vs with
  | [] => by
    have hlast : put? stack (.array (v :: items).reverse) >>= rest.foldlM step =
        put? stack (.array (items.reverse ++ [v])) >>= rest.foldlM step := by
      rw [List.reverse_cons]
    exact (foldlM_tokens v (.array items :: stack) (.closeArray :: rest)).trans hlast
  | w :: ws => by
    have hnext := foldlM_items w ws (v :: items) stack rest
    rw [List.reverse_cons, List.append_assoc] at hnext
    have hsplit : separate (itemTokens (v :: w :: ws)) ++ .closeArray :: rest =
        v.tokens ++ .comma :: (separate (itemTokens (w :: ws)) ++ .closeArray :: rest) := by
      rw [itemTokens, itemTokens, separate, List.append_assoc]
      · rfl
      · exact List.cons_ne_nil _ _
    rw [hsplit, foldlM_tokens]
    exact hnext
termination_by sizeOf (v :: vs)

/-- The tokens of members, up to the end of the object. -/
theorem foldlM_members (m : Text × Json) (ms members : List (Text × Json)) (stack : List Frame)
    (rest : List Token) :
    (separate (memberTokens (m :: ms)) ++ .closeObject :: rest).foldlM step
        ⟨.key, .object members :: stack⟩ =
      put? stack (.object (members.reverse ++ m :: ms)) >>= rest.foldlM step :=
  match m, ms with
  | (k, v), [] => by
    have hlast : put? stack (.object ((k, v) :: members).reverse) >>= rest.foldlM step =
        put? stack (.object (members.reverse ++ [(k, v)])) >>= rest.foldlM step := by
      rw [List.reverse_cons]
    exact (foldlM_tokens v (.member members k :: stack) (.closeObject :: rest)).trans hlast
  | (k, v), m' :: ms => by
    have hnext := foldlM_members m' ms ((k, v) :: members) stack rest
    rw [List.reverse_cons, List.append_assoc] at hnext
    have hsplit : separate (memberTokens ((k, v) :: m' :: ms)) ++ .closeObject :: rest =
        .string k :: .colon :: (v.tokens ++
          .comma :: (separate (memberTokens (m' :: ms)) ++ .closeObject :: rest)) := by
      rw [memberTokens, memberTokens, separate, List.append_assoc]
      · rfl
      · exact List.cons_ne_nil _ _
    rw [hsplit]
    exact (foldlM_tokens v (.member members k :: stack) _).trans hnext
termination_by sizeOf (m :: ms)

end

end Parsing

/-- **The parser accepts exactly the tokens of values.** -/
theorem ofTokens?_eq_some_iff {ts : List Token} {v : Json} :
    ofTokens? ts = some v ↔ ts = v.tokens := by
  unfold ofTokens?
  rw [Option.bind_eq_bind, Option.bind_eq_some_iff]
  constructor
  · rintro ⟨p, hp, hv⟩
    have hreached := Parsing.reached_foldlM (.value []) hp
    rw [Parsing.opened, List.nil_append] at hreached
    split at hv <;> cases hv
    next hgoal =>
    cases hreached <;> cases hgoal
    rfl
  · rintro rfl
    have h := Parsing.foldlM_tokens v [] []
    rw [List.append_nil] at h
    exact ⟨_, h, rfl⟩

/-- Nothing follows the tokens of a value. -/
theorem tokens_prefixFree {v w : Json} {ts : List Token} (h : v.tokens ++ ts = w.tokens) :
    ts = [] := by
  have hread : (v.tokens ++ ts).foldlM Parsing.step Parsing.start =
      ts.foldlM Parsing.step ⟨.ended v, []⟩ :=
    Parsing.foldlM_tokens v [] ts
  cases ts with
  | nil => rfl
  | cons t ts =>
    have hw : ofTokens? (v.tokens ++ t :: ts) = some w := ofTokens?_eq_some_iff.mpr h
    rw [ofTokens?, hread] at hw
    cases hw

end NonlinearFit.Json
