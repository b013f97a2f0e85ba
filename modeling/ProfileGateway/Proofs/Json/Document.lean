import ProfileGateway.Json.Draft
import ProfileGateway.Proofs.Json.Grammar
/-!
# Texts of values

A text spells a value if the tokens of the value stand in it. Whatever text spells a value without flaws, that
value is drafted from it and nothing is left (`Spells.document`); the rendering of a value spells it
(`spells_render`).
-/
namespace ProfileGateway.Json

open Decimal

namespace Draft

mutual

/-- The tokens of a value whose lists and objects are closed. -/
def tokens : Draft → List Token
  | .null => [.null]
  | .bool b => [.bool b]
  | .number l => [.number l]
  | .string s => [.string s]
  | .array items _ => .mark .openBracket :: (itemTokens items ++ [.mark .closeBracket])
  | .object members _ => .mark .openBrace :: (memberTokens members ++ [.mark .closeBrace])
  | .flawed f => [.flawed f]

def itemTokens : List Draft → List Token
  | [] => []
  | [v] => v.tokens
  | v :: vs => v.tokens ++ .mark .comma :: itemTokens vs

def memberTokens : List (Option String × Draft) → List Token
  | [] => []
  | [(k, v)] => .string k :: .mark .colon :: v.tokens
  | (k, v) :: ms => .string k :: .mark .colon :: (v.tokens ++ .mark .comma :: memberTokens ms)

end

/-- A value that can be passed over: it has no flaws, though its strings may hold unpaired surrogates. -/
def Whole (d : Draft) : Prop := d.skipping? = none

end Draft

/-- The text is the value, in any spelling of its strings and exponents and with whitespace between its tokens. -/
def Spells (d : Draft) (s : String) : Prop := d.Whole ∧ Lexes d.tokens s.toList

/-! ## Reading -/

/-- The only ending without a flaw is the closing bracket. -/
theorem Ending.skipping?_eq_none {e : Ending} : e.skipping? = none ↔ e = .closed := by
  constructor
  · intro none
    match e with
    | .closed => rfl
  · rintro rfl
    rfl

/-- No list begins with its closing bracket. -/
theorem Draft.itemTokens_ne_close {vs : List Draft} (nonempty : vs ≠ []) (rest r : List Token) :
    Draft.itemTokens vs ++ rest ≠ .mark .closeBracket :: r := by
  have first (v : Draft) (rest : List Token) : v.tokens ++ rest ≠ .mark .closeBracket :: r := by
    cases v <;> simp [Draft.tokens]
  match vs with
  | [v] => exact first v rest
  | v :: w :: vs =>
    rw [Draft.itemTokens, List.append_assoc]
    · exact first v _
    · exact List.cons_ne_nil w vs

/-- No run of members begins with the closing brace. -/
theorem Draft.memberTokens_ne_close {ms : List (Option String × Draft)} (nonempty : ms ≠ []) (rest r : List Token) :
    Draft.memberTokens ms ++ rest ≠ .mark .closeBrace :: r := by
  match ms with
  | [(k, v)] => simp [Draft.memberTokens]
  | (k, v) :: m :: ms => simp [Draft.memberTokens]

/-- A bracket that is not closed at once begins a list of at least one item. -/
theorem draft_array {ts : List Token} (items : ∀ r, ts ≠ .mark .closeBracket :: r) (fuel : Nat) :
    draft (fuel + 1) (.mark .openBracket :: ts) =
      (.array (draftItems fuel ts).1 (draftItems fuel ts).2.1, (draftItems fuel ts).2.2) := by
  rw [draft]
  exact items

/-- A brace that is not closed at once begins an object of at least one member. -/
theorem draft_object {ts : List Token} (members : ∀ r, ts ≠ .mark .closeBrace :: r) (fuel : Nat) :
    draft (fuel + 1) (.mark .openBrace :: ts) =
      (.object (draftMembers fuel ts).1 (draftMembers fuel ts).2.1, (draftMembers fuel ts).2.2) := by
  rw [draft]
  exact members

-- The steps are bounded by the tokens: each item takes one step besides those of its value, and has a token at least.
mutual

/-- **A value** is drafted from its own tokens, whatever follows them. -/
theorem draft_tokens : (d : Draft) → d.Whole → ∀ {fuel : Nat}, d.tokens.length ≤ fuel → ∀ rest : List Token,
    draft fuel (d.tokens ++ rest) = (d, rest)
  | .null, _, fuel + 1, _, rest => rfl
  | .bool b, _, fuel + 1, _, rest => rfl
  | .number l, _, fuel + 1, _, rest => rfl
  | .string s, _, fuel + 1, _, rest => rfl
  | .array [] ending, whole, fuel + 1, _, rest => by
    obtain rfl := Ending.skipping?_eq_none.1 whole
    rfl
  | .array (v :: vs) ending, whole, fuel + 1, enough, rest => by
    obtain ⟨items, closed⟩ := Option.or_eq_none_iff.1 whole
    obtain rfl := Ending.skipping?_eq_none.1 closed
    simp only [Draft.tokens, List.length_cons, List.length_append, List.length_nil] at enough
    have run := draftItems_tokens (v :: vs) (List.cons_ne_nil v vs) items (show _ < fuel by omega) rest
    rw [Draft.tokens, List.cons_append, List.append_assoc, List.singleton_append,
      draft_array (Draft.itemTokens_ne_close (List.cons_ne_nil v vs) _), run]
  | .object [] ending, whole, fuel + 1, _, rest => by
    obtain rfl := Ending.skipping?_eq_none.1 whole
    rfl
  | .object (m :: ms) ending, whole, fuel + 1, enough, rest => by
    obtain ⟨members, closed⟩ := Option.or_eq_none_iff.1 whole
    obtain rfl := Ending.skipping?_eq_none.1 closed
    simp only [Draft.tokens, List.length_cons, List.length_append, List.length_nil] at enough
    have run := draftMembers_tokens (m :: ms) (List.cons_ne_nil m ms) members (show _ < fuel by omega) rest
    rw [Draft.tokens, List.cons_append, List.append_assoc, List.singleton_append,
      draft_object (Draft.memberTokens_ne_close (List.cons_ne_nil m ms) _), run]

/-- Items are drafted from their own tokens, up to the closing bracket. -/
theorem draftItems_tokens : (vs : List Draft) → vs ≠ [] → Draft.skippingItems? vs = none →
    ∀ {fuel : Nat}, (Draft.itemTokens vs).length < fuel → ∀ rest : List Token,
    draftItems fuel (Draft.itemTokens vs ++ .mark .closeBracket :: rest) = (vs, .closed, rest)
  | [v], _, whole, fuel + 1, enough, rest => by
    have one := draft_tokens v (Option.or_eq_none_iff.1 whole).1 (Nat.le_of_lt_succ enough)
      (.mark .closeBracket :: rest)
    rw [Draft.itemTokens, draftItems, one]
  | v :: w :: vs, _, whole, fuel + 1, enough, rest => by
    obtain ⟨first, more⟩ := Option.or_eq_none_iff.1 whole
    simp only [Draft.itemTokens, List.length_cons, List.length_append] at enough
    have one := draft_tokens v first (show _ ≤ fuel by omega)
      (.mark .comma :: (Draft.itemTokens (w :: vs) ++ .mark .closeBracket :: rest))
    have run := draftItems_tokens (w :: vs) (List.cons_ne_nil w vs) more (show _ < fuel by omega) rest
    rw [Draft.itemTokens, List.append_assoc, List.cons_append, draftItems, one]
    · simp only [run]
    · exact List.cons_ne_nil w vs

/-- Members are drafted from their own tokens, up to the closing brace. -/
theorem draftMembers_tokens : (ms : List (Option String × Draft)) → ms ≠ [] → Draft.skippingMembers? ms = none →
    ∀ {fuel : Nat}, (Draft.memberTokens ms).length < fuel → ∀ rest : List Token,
    draftMembers fuel (Draft.memberTokens ms ++ .mark .closeBrace :: rest) = (ms, .closed, rest)
  | [(k, v)], _, whole, fuel + 1, enough, rest => by
    simp only [Draft.memberTokens, List.length_cons] at enough
    have one := draft_tokens v (Option.or_eq_none_iff.1 whole).1 (show _ ≤ fuel by omega)
      (.mark .closeBrace :: rest)
    rw [Draft.memberTokens, List.cons_append, List.cons_append, draftMembers, one]
  | (k, v) :: m :: ms, _, whole, fuel + 1, enough, rest => by
    obtain ⟨first, more⟩ := Option.or_eq_none_iff.1 whole
    simp only [Draft.memberTokens, List.length_cons, List.length_append] at enough
    have one := draft_tokens v first (show _ ≤ fuel by omega)
      (.mark .comma :: (Draft.memberTokens (m :: ms) ++ .mark .closeBrace :: rest))
    have run := draftMembers_tokens (m :: ms) (List.cons_ne_nil m ms) more (show _ < fuel by omega) rest
    rw [Draft.memberTokens, List.cons_append, List.cons_append, List.append_assoc, List.cons_append, draftMembers,
      one]
    · simp only [run]
    · exact List.cons_ne_nil m ms

end

/-- A text that spells a value is a document of it, with nothing after it. -/
theorem Spells.document {d : Draft} {s : String} (spells : Spells d s) : Document.ofText s = ⟨d, false⟩ := by
  have drafted := draft_tokens d spells.1 (show d.tokens.length ≤ draftSteps d.tokens by unfold draftSteps; omega) []
  rw [List.append_nil] at drafted
  rw [Document.ofText, spells.2.tokens_eq, drafted]
  rfl

/-! ## Rendering -/

/-- A number is spelled as it is written. -/
theorem Literal.spelled_render (l : Literal) : l.Spelled l.render := by
  refine ⟨_, ?_, rfl⟩
  match l.exponent with
  | none => exact .none
  | some (.ofNat n) =>
    have part := ExponentPart.up (.inl rfl) (.inl rfl) (isDigits_numeral n)
    rwa [value_numeral] at part
  | some (.negSucc n) =>
    have part := ExponentPart.down (.inl rfl) (isDigits_numeral (n + 1))
    rwa [value_numeral] at part

/-- A character stands for itself in a string, escaped where it has to be. -/
theorem StringBody.escaped {p : Partway} {c : Char} {cs : List Char} {t : Option String} (free : p.pending = none)
    (rest : StringBody (p.push c) cs t) : StringBody p (escaped c ++ cs) t := by
  unfold Json.escaped
  split
  · exact .escape rfl rest
  · exact .escape rfl rest
  · exact .escape rfl rest
  · exact .escape rfl rest
  · exact .escape rfl rest
  · exact .escape rfl rest
  · exact .escape rfl rest
  · next quote backslash _ _ _ _ _ =>
    split
    · next control =>
      have digits : unit? '0' '0' (Text.hexDigit (c.toNat / 16)) (Text.hexDigit (c.toNat % 16)) = some c.toNat := by
        have zero : Text.hexValue? '0' = some 0 := by decide
        simp [unit?, Text.hexNumber?, zero, Text.hexValue?_hexDigit (c.toNat / 16) (by omega),
          Text.hexValue?_hexDigit (c.toNat % 16) (by omega), Nat.div_add_mod]
      refine .unit digits ?_
      have leading : Partway.isLeading c.toNat = false := by simp [Partway.isLeading]; omega
      have trailing : Partway.isTrailing c.toNat = false := by simp [Partway.isTrailing]; omega
      have same : p.pushUnit c.toNat = p.push c := by
        simp [Partway.pushUnit, Partway.push, free, leading, trailing, Char.ofNat_toNat]
      rwa [same]
    · next printable => exact .plain quote backslash (Nat.le_of_not_lt printable) rest

/-- Characters that are escaped one by one spell the text that they were. -/
theorem StringBody.flatMap_escaped (cs before : List Char) : StringBody ⟨some before, none⟩
    (cs.flatMap Json.escaped ++ ['"']) (some (String.ofList (before.reverse ++ cs))) := by
  induction cs generalizing before with
  | nil =>
    rw [List.append_nil]
    exact .close
  | cons c cs ih =>
    have rest := ih (c :: before)
    rw [List.reverse_cons, List.append_assoc, List.singleton_append] at rest
    rw [List.flatMap_cons, List.append_assoc]
    exact .escaped rfl rest

/-- A text is spelled as it is written. -/
theorem spelled_renderString (s : String) : (Token.string (some s)).Spelled (renderString s) := by
  have body := StringBody.flatMap_escaped s.toList []
  rw [List.reverse_nil, List.nil_append, String.ofList_toList] at body
  exact .string body

/-- A token without whitespace before it, in front of others. -/
theorem Lexes.token {t : Token} {ts : List Token} {cs rest : List Char} (spelled : t.Spelled cs) (ends : t.EndsBefore rest)
    (lexes : Lexes ts rest) : Lexes (t :: ts) (cs ++ rest) :=
  have space : ∀ c ∈ [], isSpace c := List.forall_mem_nil _
  .cons space spelled ends lexes

/-- A mark in front of other tokens, for it may stop anywhere. -/
theorem Lexes.mark {m : Mark} {c : Char} {ts : List Token} {rest : List Char} (mark : mark? c = some m) (lexes : Lexes ts rest) :
    Lexes (.mark m :: ts) (c :: rest) :=
  .token (.mark mark) trivial lexes

/-- A mark may follow a number. -/
theorem EndsNumber.mark {m : Mark} {c : Char} {rest : List Char} (mark : mark? c = some m) : EndsNumber (c :: rest) := by
  rintro d ⟨⟩
  unfold mark? at mark
  split at mark <;> first | decide | cases mark

mutual

/-- A value that is written lexes as its tokens. -/
theorem Lexes.renderChars : (j : Json) → ∀ {ts rest}, EndsNumber rest → Lexes ts rest →
    Lexes ((Draft.ofJson j).tokens ++ ts) (j.renderChars ++ rest)
  | .null, _, _, _, lexes => .token .null trivial lexes
  | .bool true, _, _, _, lexes => .token .bool trivial lexes
  | .bool false, _, _, _, lexes => .token .bool trivial lexes
  | .number l, _, _, ends, lexes => .token (.number l.spelled_render) ends lexes
  | .string s, _, _, _, lexes => .token (spelled_renderString s) trivial lexes
  | .array vs, _, _, _, lexes => by
    have close : mark? ']' = some .closeBracket := rfl
    have items := Lexes.renderItems vs (.mark close) (.mark close lexes)
    simpa [Draft.ofJson, Draft.tokens, Json.renderChars] using Lexes.mark (c := '[') rfl items
  | .object ms, _, _, _, lexes => by
    have close : mark? '\x7d' = some .closeBrace := rfl
    have members := Lexes.renderMembers ms (.mark close) (.mark close lexes)
    simpa [Draft.ofJson, Draft.tokens, Json.renderChars] using Lexes.mark (c := '\x7b') rfl members

theorem Lexes.renderItems : (vs : List Json) → ∀ {ts rest}, EndsNumber rest → Lexes ts rest →
    Lexes (Draft.itemTokens (Draft.ofItems vs) ++ ts) (renderItems vs ++ rest)
  | [], _, _, _, lexes => lexes
  | [v], _, _, ends, lexes => Lexes.renderChars v ends lexes
  | v :: w :: vs, _, _, ends, lexes => by
    have comma : mark? ',' = some .comma := rfl
    have run := Lexes.renderChars v (.mark comma) (.mark comma (Lexes.renderItems (w :: vs) ends lexes))
    simpa [Draft.ofItems, Draft.itemTokens, Json.renderItems] using run

theorem Lexes.renderMembers : (ms : List (String × Json)) → ∀ {ts rest}, EndsNumber rest → Lexes ts rest →
    Lexes (Draft.memberTokens (Draft.ofMembers ms) ++ ts) (renderMembers ms ++ rest)
  | [], _, _, _, lexes => lexes
  | [(k, v)], _, _, ends, lexes => by
    have value := Lexes.mark (c := ':') rfl (Lexes.renderChars v ends lexes)
    simpa [Draft.ofMembers, Draft.memberTokens, Json.renderMembers] using
      Lexes.token (spelled_renderString k) trivial value
  | (k, v) :: m :: ms, _, _, ends, lexes => by
    have comma : mark? ',' = some .comma := rfl
    have run := Lexes.renderChars v (.mark comma) (.mark comma (Lexes.renderMembers (m :: ms) ends lexes))
    have value := Lexes.mark (c := ':') rfl run
    simpa [Draft.ofMembers, Draft.memberTokens, Json.renderMembers] using
      Lexes.token (spelled_renderString k) trivial value

end

mutual

/-- The draft of a value has no flaws. -/
theorem Draft.whole_ofJson : (j : Json) → (Draft.ofJson j).Whole
  | .null | .bool _ | .number _ | .string _ => rfl
  | .array vs => Option.or_eq_none_iff.2 ⟨Draft.whole_ofItems vs, rfl⟩
  | .object ms => Option.or_eq_none_iff.2 ⟨Draft.whole_ofMembers ms, rfl⟩

theorem Draft.whole_ofItems : (vs : List Json) → Draft.skippingItems? (Draft.ofItems vs) = none
  | [] => rfl
  | v :: vs => Option.or_eq_none_iff.2 ⟨Draft.whole_ofJson v, Draft.whole_ofItems vs⟩

theorem Draft.whole_ofMembers : (ms : List (String × Json)) → Draft.skippingMembers? (Draft.ofMembers ms) = none
  | [] => rfl
  | (_, v) :: ms => Option.or_eq_none_iff.2 ⟨Draft.whole_ofJson v, Draft.whole_ofMembers ms⟩

end

/-- **What is written** spells the value that it was written of. -/
theorem spells_render (j : Json) : Spells (.ofJson j) j.render := by
  refine ⟨Draft.whole_ofJson j, ?_⟩
  have ends : EndsNumber [] := by
    rintro c ⟨⟩
  have nothing : Lexes [] [] := .nil (List.forall_mem_nil _)
  simpa [Json.render] using Lexes.renderChars j ends nothing

end ProfileGateway.Json
