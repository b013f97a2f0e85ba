import ProfileGateway.Proofs.Json.Document
/-!
# Texts that can be read

Every text that is read as a value spells it: what is cut off as a token stands there as a token, what is drafted
from tokens without a flaw has these tokens, and so a text has a value exactly if it spells the value and all numbers
of the value can be read (`ofText?_eq_some`).
-/
namespace ProfileGateway.Json

open Decimal

/-! ## Tokens -/

def Token.isFlawed : Token → Bool
  | .flawed _ => true
  | _ => false

/-- No digit follows, for a token would have taken it. -/
def NoDigit (rest : List Char) : Prop := ∀ c ∈ rest.head?, c.isDigit = false

section Scanners

variable {cs rest : List Char} {t : Token}

/-- A word is scanned only where it stands. -/
theorem scanWord_sound {token : Token} {word : List Char} (scanned : scanWord token word cs = (t, rest))
    (sound : t.isFlawed = false) : t = token ∧ cs = word ++ rest := by
  induction word generalizing cs with
  | nil =>
    cases scanned
    exact ⟨rfl, rfl⟩
  | cons w word ih =>
    cases cs with
    | nil =>
      cases scanned
      cases sound
    | cons c cs =>
      rw [scanWord] at scanned
      split at scanned
      · next same =>
        obtain ⟨whole, rfl⟩ := ih scanned
        exact ⟨whole, same ▸ rfl⟩
      · cases scanned
        cases sound

/-! ### Numbers -/

/-- Digits are taken as long as there are any. -/
theorem splitDigits_sound {ds : List Char} (split : splitDigits cs = (ds, rest)) :
    cs = ds ++ rest ∧ (∀ c ∈ ds, c.isDigit) ∧ NoDigit rest := by
  cases split
  refine ⟨List.takeWhile_append_dropWhile.symm, fun c member => List.mem_takeWhile_imp member, fun c first => ?_⟩
  have stop := List.head?_dropWhile_not Char.isDigit cs
  rw [first] at stop
  simpa using stop

/-- What is scanned where a digit is missing is a flaw. -/
theorem sound_of_digits {ds after : List Char} {scan : Scanned}
    (scanned : (if ds.isEmpty then noDigit after else scan) = (t, rest)) (sound : t.isFlawed = false) :
    ds ≠ [] ∧ scan = (t, rest) := by
  cases ds with
  | nil =>
    cases scanned
    cases sound
  | cons d ds => exact ⟨List.cons_ne_nil d ds, scanned⟩

/-- A letter and digits, with or without a sign between them, are an exponent. -/
theorem exponentPart_of_sign {c : Char} {r ds : List Char} (letter : c = 'e' ∨ c = 'E') (digits : isDigits ds = true)
    (split : (if r.head? = some '-' ∨ r.head? = some '+' then r.drop 1 else r) = ds ++ rest) :
    ∃ tail, ExponentPart (some (if r.head? = some '-' then -(value ds : Int) else value ds)) tail ∧
      c :: r = tail ++ rest := by
  by_cases down : r.head? = some '-'
  · obtain ⟨r, rfl⟩ := List.head?_eq_some_iff.1 down
    rw [if_pos (.inl down), List.drop_one, List.tail_cons] at split
    rw [if_pos down, split]
    exact ⟨c :: '-' :: ds, .down letter digits, rfl⟩
  · rw [if_neg down]
    by_cases up : r.head? = some '+'
    · obtain ⟨r, rfl⟩ := List.head?_eq_some_iff.1 up
      rw [if_pos (.inr up), List.drop_one, List.tail_cons] at split
      rw [split]
      exact ⟨c :: ('+' :: ds), .up letter (.inr rfl) digits, rfl⟩
    · rw [if_neg (not_or.2 ⟨down, up⟩)] at split
      rw [split]
      exact ⟨c :: ds, .up letter (.inl rfl) digits, rfl⟩

/-- What is scanned after the digits of a number spells its exponent. -/
theorem scanExponent_sound {negative : Bool} {whole : Nat} {fraction : List (Fin 10)} (stop : NoDigit cs)
    (scanned : scanExponent negative whole fraction cs = (t, rest)) (sound : t.isFlawed = false) :
    ∃ e tail, ExponentPart e tail ∧ cs = tail ++ rest ∧ t = .number ⟨negative, whole, fraction, e⟩ ∧ NoDigit rest := by
  cases cs with
  | nil =>
    cases scanned
    exact ⟨none, [], .none, rfl, rfl, stop⟩
  | cons c r =>
    by_cases letter : c = 'e' ∨ c = 'E'
    · rw [scanExponent, if_pos letter] at scanned
      dsimp only at scanned
      generalize run : splitDigits (if r.head? = some '-' ∨ r.head? = some '+' then r.drop 1 else r) = cut at scanned
      obtain ⟨ds, after⟩ := cut
      obtain ⟨nonempty, scanned⟩ := sound_of_digits scanned sound
      obtain ⟨split, each, ends⟩ := splitDigits_sound run
      obtain ⟨rfl, rfl⟩ := Prod.mk.inj scanned
      obtain ⟨tail, part, whole⟩ := exponentPart_of_sign letter (isDigits_iff.2 ⟨nonempty, each⟩) split
      exact ⟨_, tail, part, whole, rfl, ends⟩
    · rw [scanExponent, if_neg letter] at scanned
      cases scanned
      exact ⟨none, [], .none, rfl, rfl, stop⟩

/-- A digit is written as it was read. -/
theorem digitChar_digitOf {c : Char} (digit : c.isDigit = true) : Nat.digitChar (digitOf c).val = c := by
  obtain ⟨small, char⟩ := digit_of_isDigit digit
  have value : (digitOf c).val = c.toNat - 48 := Nat.mod_eq_of_lt small
  rw [value, char]

/-- What is scanned after the whole part of a number spells its fraction and exponent. -/
theorem scanFraction_sound {negative : Bool} {whole : Nat} (stop : NoDigit cs)
    (scanned : scanFraction negative whole cs = (t, rest)) (sound : t.isFlawed = false) :
    ∃ l : Literal, l.negative = negative ∧ l.whole = whole ∧ t = .number l ∧ NoDigit rest ∧
      ∃ tail, ExponentPart l.exponent tail ∧ cs = l.fractionPart ++ (tail ++ rest) := by
  unfold scanFraction at scanned
  split at scanned
  · next r =>
    dsimp only at scanned
    generalize run : splitDigits r = cut at scanned
    obtain ⟨ds, after⟩ := cut
    obtain ⟨nonempty, scanned⟩ := sound_of_digits scanned sound
    obtain ⟨rfl, digits, stop⟩ := splitDigits_sound run
    obtain ⟨e, tail, part, rfl, rfl, stop⟩ := scanExponent_sound stop scanned sound
    refine ⟨_, rfl, rfl, rfl, stop, tail, part, ?_⟩
    have back : (ds.map digitOf).map (fun d => Nat.digitChar d.val) = ds := by
      rw [List.map_map]
      exact (List.map_congr_left fun c member => digitChar_digitOf (digits c member)).trans (List.map_id _)
    rw [Literal.fractionPart, back, List.isEmpty_map, if_neg (by simpa using nonempty), List.cons_append]
  · obtain ⟨e, tail, part, rfl, rfl, stop⟩ := scanExponent_sound stop scanned sound
    exact ⟨_, rfl, rfl, rfl, stop, tail, part, rfl⟩

/-- What is scanned as a number spells it. -/
theorem scanNumber_sound {negative : Bool} (scanned : scanNumber negative cs = (t, rest)) (sound : t.isFlawed = false) :
    ∃ l part, t = .number l ∧ l.negative = negative ∧ l.Spelled ((if negative then ['-'] else []) ++ part) ∧
      cs = part ++ rest ∧ NoDigit rest := by
  unfold scanNumber at scanned
  generalize run : splitDigits cs = cut at scanned
  obtain ⟨ds, after⟩ := cut
  obtain ⟨nonempty, scanned⟩ := sound_of_digits scanned sound
  obtain ⟨rfl, digits, stop⟩ := splitDigits_sound run
  split at scanned
  · cases scanned
    cases sound
  · next unled =>
    obtain ⟨l, rfl, whole, rfl, ends, tail, part, rfl⟩ := scanFraction_sound stop scanned sound
    have numeral : numeral l.whole = ds := by
      rw [whole]
      exact numeral_value (canonical_iff.2 ⟨isDigits_iff.2 ⟨nonempty, digits⟩, unled⟩)
    refine ⟨l, ds ++ (l.fractionPart ++ tail), rfl, rfl, ⟨tail, part, ?_⟩, by simp, ends⟩
    rw [numeral]
    simp only [List.append_assoc]

/-! ### Strings -/

/-- A string that breaks off is a flaw. -/
theorem breakOff_ne (sound : t.isFlawed = false) (p : Partway) (f : Fault) : p.breakOff f ≠ (t, rest) := by
  intro broken
  cases broken
  cases sound

/-- What is scanned as a string spells it, up to the closing quote. -/
theorem scanString_sound {p : Partway} (scanned : scanString p cs = (t, rest)) (sound : t.isFlawed = false) :
    ∃ s body, t = .string s ∧ cs = body ++ rest ∧ StringBody p body s := by
  fun_induction scanString p cs with
  | case1 | case4 | case5 | case7 | case8 | case9 => exact absurd scanned (breakOff_ne sound _ _)
  | case2 p r =>
    cases scanned
    exact ⟨_, ['"'], rfl, rfl, .close⟩
  | case3 p a b c d r n digits ih =>
    obtain ⟨s, body, rfl, rfl, string⟩ := ih scanned
    exact ⟨s, _, rfl, rfl, .unit digits string⟩
  | case6 p c r _ _ d letter ih =>
    obtain ⟨s, body, rfl, rfl, string⟩ := ih scanned
    exact ⟨s, _, rfl, rfl, .escape letter string⟩
  | case10 p c r quote _ _ escape last printable ih =>
    have backslash : c ≠ '\\' := by
      intro backslash
      cases r with
      | nil => exact last backslash rfl
      | cons d r => exact escape d r backslash rfl
    obtain ⟨s, body, rfl, rfl, string⟩ := ih scanned
    exact ⟨s, _, rfl, rfl, .plain quote backslash (Nat.le_of_not_lt printable) string⟩

/-! ### All tokens -/

/-- What a scanner leaves behind a token: a number goes on as long as there are digits. -/
def Token.StopsBefore (rest : List Char) : Token → Prop
  | .number _ => NoDigit rest
  | _ => True

/-- **What is scanned** as a token spells it, and does not stop in the middle of it. -/
theorem scan_sound {c : Char} {r : List Char} (scanned : scan c r = (t, rest)) (sound : t.isFlawed = false) :
    ∃ part, c :: r = part ++ rest ∧ t.Spelled part ∧ t.StopsBefore rest := by
  unfold scan at scanned
  split at scanned
  · next m mark =>
    cases scanned
    exact ⟨[c], rfl, .mark mark, trivial⟩
  · split at scanned
    · obtain ⟨s, body, rfl, rfl, string⟩ := scanString_sound scanned sound
      exact ⟨_, rfl, .string string, trivial⟩
    · obtain ⟨rfl, rfl⟩ := scanWord_sound scanned sound
      exact ⟨_, rfl, .null, trivial⟩
    · obtain ⟨rfl, rfl⟩ := scanWord_sound scanned sound
      exact ⟨_, rfl, .bool, trivial⟩
    · obtain ⟨rfl, rfl⟩ := scanWord_sound scanned sound
      exact ⟨_, rfl, .bool, trivial⟩
    · obtain ⟨l, part, rfl, -, spelled, rfl, stop⟩ := scanNumber_sound scanned sound
      exact ⟨_, rfl, .number spelled, stop⟩
    · split at scanned
      · obtain ⟨l, part, rfl, -, spelled, whole, stop⟩ := scanNumber_sound scanned sound
        exact ⟨_, whole, .number spelled, stop⟩
      · cases scanned
        cases sound

end Scanners

/-! ## Texts -/

/-- A character that goes on with a number begins no token. -/
theorem scan_of_goesOn {c : Char} (goes : c = '.' ∨ c = 'e' ∨ c = 'E') (r : List Char) :
    isSpace c = false ∧ scan c r = (.flawed .stray, []) := by
  obtain rfl | rfl | rfl := goes <;> exact ⟨rfl, rfl⟩

/-- What would go on with a number cannot stand behind it, since it would be cut off as a flaw. -/
theorem Token.StopsBefore.endsBefore {t : Token} {rest : List Char} {fuel : Nat} (stops : t.StopsBefore rest)
    (enough : rest.length ≤ fuel) (sound : ∀ u ∈ tokensWithin fuel rest, u.isFlawed = false) : t.EndsBefore rest := by
  have next : ∀ c ∈ rest.head?, ¬(c = '.' ∨ c = 'e' ∨ c = 'E') := by
    intro c first goes
    obtain ⟨r, rfl⟩ := List.head?_eq_some_iff.1 first
    obtain ⟨fuel, rfl⟩ : ∃ n, fuel = n + 1 := ⟨fuel - 1, by simp at enough; omega⟩
    obtain ⟨visible, scanned⟩ := scan_of_goesOn goes r
    rw [tokensWithin, List.dropWhile_cons, visible] at sound
    have stray := sound (.flawed .stray) (by simp [scanned])
    cases stray
  cases t with
  | number l =>
    intro c first
    have other := next c first
    simp only [not_or] at other
    exact ⟨stops c first, other⟩
  | _ => exact trivial

/-- No token is spelled by nothing. -/
theorem Token.Spelled.ne_nil {t : Token} {part : List Char} (spelled : t.Spelled part) : part ≠ [] := by
  have ends : t.EndsBefore [] := by
    cases t <;> simp [Token.EndsBefore, EndsNumber]
  obtain ⟨c, r, rfl, -⟩ := spelled.scan_eq ends
  exact List.cons_ne_nil c r

/-- The tokens that a text is cut into stand in it, unless it is cut at a flaw. -/
theorem lexes_of_tokensWithin {fuel : Nat} {cs : List Char} (enough : cs.length ≤ fuel)
    (sound : ∀ t ∈ tokensWithin fuel cs, t.isFlawed = false) : Lexes (tokensWithin fuel cs) cs := by
  induction fuel generalizing cs with
  | zero =>
    obtain rfl := List.length_eq_zero_iff.1 (Nat.le_zero.1 enough)
    exact .nil (List.forall_mem_nil _)
  | succ fuel ih =>
    have apart : cs.takeWhile isSpace ++ cs.dropWhile isSpace = cs := List.takeWhile_append_dropWhile
    have space : ∀ c ∈ cs.takeWhile isSpace, isSpace c := fun c member => List.mem_takeWhile_imp member
    rw [tokensWithin] at sound ⊢
    cases visible : cs.dropWhile isSpace with
    | nil =>
      rw [visible, List.append_nil] at apart
      rw [apart] at space
      exact .nil space
    | cons c r =>
      rw [visible] at sound apart
      dsimp only at sound ⊢
      obtain ⟨first, others⟩ := List.forall_mem_cons.1 sound
      have scanned : scan c r = ((scan c r).1, (scan c r).2) := rfl
      obtain ⟨part, whole, spelled, stops⟩ := scan_sound scanned first
      -- A token takes a character at least, so what is left of the fuel is enough for the rest.
      have shorter : (scan c r).2.length ≤ fuel := by
        have taken := List.length_pos_iff.2 spelled.ne_nil
        rw [← apart, whole, List.length_append, List.length_append] at enough
        omega
      rw [← apart, whole, ← List.append_assoc]
      exact .cons space spelled (stops.endsBefore shorter others) (ih shorter others)

/-! ## Drafts -/

/-- A comma stands before all items but the first. -/
theorem Draft.itemTokens_cons {v : Draft} {vs : List Draft} (more : vs ≠ []) :
    Draft.itemTokens (v :: vs) = v.tokens ++ .mark .comma :: Draft.itemTokens vs := by
  obtain ⟨w, vs, rfl⟩ := List.exists_cons_of_ne_nil more
  rfl

/-- A comma stands before all members but the first. -/
theorem Draft.memberTokens_cons {k : Option String} {v : Draft} {ms : List (Option String × Draft)} (more : ms ≠ []) :
    Draft.memberTokens ((k, v) :: ms) =
      .string k :: .mark .colon :: (v.tokens ++ .mark .comma :: Draft.memberTokens ms) := by
  obtain ⟨m, ms, rfl⟩ := List.exists_cons_of_ne_nil more
  rfl

/-- What holds of commas holds of all tokens of a list exactly if it holds of those of its items. -/
theorem Draft.forall_itemTokens_cons {p : Token → Prop} (comma : p (.mark .comma)) {v : Draft} {vs : List Draft} :
    (∀ t ∈ Draft.itemTokens (v :: vs), p t) ↔ (∀ t ∈ v.tokens, p t) ∧ ∀ t ∈ Draft.itemTokens vs, p t := by
  cases vs with
  | nil => exact ⟨fun each => ⟨each, List.forall_mem_nil _⟩, And.left⟩
  | cons w vs =>
    rw [Draft.itemTokens_cons (List.cons_ne_nil w vs), List.forall_mem_append, List.forall_mem_cons]
    exact and_congr_right fun _ => and_iff_right comma

/-- What holds of commas and colons holds of all tokens of an object exactly if it holds of its names and of those of
its values. -/
theorem Draft.forall_memberTokens_cons {p : Token → Prop} (comma : p (.mark .comma)) (colon : p (.mark .colon))
    {k : Option String} {v : Draft} {ms : List (Option String × Draft)} :
    (∀ t ∈ Draft.memberTokens ((k, v) :: ms), p t) ↔
      p (.string k) ∧ (∀ t ∈ v.tokens, p t) ∧ ∀ t ∈ Draft.memberTokens ms, p t := by
  cases ms with
  | nil =>
    refine List.forall_mem_cons.trans (and_congr_right fun _ => List.forall_mem_cons.trans ?_)
    exact ⟨fun each => ⟨each.2, List.forall_mem_nil _⟩, fun each => ⟨colon, each.1⟩⟩
  | cons m ms =>
    rw [Draft.memberTokens_cons (List.cons_ne_nil m ms), List.forall_mem_cons, List.forall_mem_cons,
      List.forall_mem_append, List.forall_mem_cons]
    exact and_congr_right fun _ => (and_iff_right colon).trans (and_congr_right fun _ => and_iff_right comma)

/-- Without a comma or a closing bracket there is a flaw. -/
theorem Ending.skipping?_neither (ts : List Token) : (Ending.neither ts).skipping? ≠ none := by
  cases ts <;> exact Option.some_ne_none _

-- The induction is on the steps. What is drafted of a list that goes on after a comma is not empty, or the list
-- would not be closed.
mutual

/-- A value without flaws is made of the tokens in front, and nothing else is taken. -/
theorem draft_sound : (fuel : Nat) → ∀ {ts : List Token}, (draft fuel ts).1.Whole →
    ts = (draft fuel ts).1.tokens ++ (draft fuel ts).2
  | fuel + 1, ts, whole => by
    unfold draft at whole ⊢
    split at whole
    · cases whole
    · rfl
    · rfl
    · rfl
    · rfl
    · cases whole
    · rfl
    · obtain ⟨items, closed⟩ := Option.or_eq_none_iff.1 whole
      have run := (draftItems_sound fuel items closed).2
      simp only [Draft.tokens, List.cons_append, List.append_assoc, List.nil_append]
      rw [← run]
    · rfl
    · obtain ⟨members, closed⟩ := Option.or_eq_none_iff.1 whole
      have run := (draftMembers_sound fuel members closed).2
      simp only [Draft.tokens, List.cons_append, List.append_assoc, List.nil_append]
      rw [← run]
    · cases whole

/-- Items without flaws are made of the tokens up to the closing bracket. -/
theorem draftItems_sound : (fuel : Nat) → ∀ {ts : List Token}, Draft.skippingItems? (draftItems fuel ts).1 = none →
    (draftItems fuel ts).2.1.skipping? = none → (draftItems fuel ts).1 ≠ [] ∧
    ts = Draft.itemTokens (draftItems fuel ts).1 ++ .mark .closeBracket :: (draftItems fuel ts).2.2
  | 0, _ => by
    intro _ closed
    cases closed
  | fuel + 1, ts => by
    have first := @draft_sound fuel ts
    unfold draftItems
    generalize draft fuel ts = drafted at first ⊢
    obtain ⟨v, rest⟩ := drafted
    dsimp only at first ⊢
    split
    · next r =>
      intro items closed
      obtain ⟨one, others⟩ := Option.or_eq_none_iff.1 items
      obtain ⟨more, run⟩ := draftItems_sound fuel others closed
      refine ⟨List.cons_ne_nil _ _, ?_⟩
      rw [first one, Draft.itemTokens_cons more, List.append_assoc, List.cons_append, ← run]
    · next r =>
      intro items _
      obtain ⟨one, -⟩ := Option.or_eq_none_iff.1 items
      exact ⟨List.cons_ne_nil _ _, first one⟩
    · intro _ closed
      exact absurd closed (Ending.skipping?_neither _)

/-- Members without flaws are made of the tokens up to the closing brace. -/
theorem draftMembers_sound : (fuel : Nat) → ∀ {ts : List Token},
    Draft.skippingMembers? (draftMembers fuel ts).1 = none → (draftMembers fuel ts).2.1.skipping? = none →
    (draftMembers fuel ts).1 ≠ [] ∧
    ts = Draft.memberTokens (draftMembers fuel ts).1 ++ .mark .closeBrace :: (draftMembers fuel ts).2.2
  | 0, _ => by
    intro _ closed
    cases closed
  | fuel + 1, ts => by
    unfold draftMembers
    split
    · next k r =>
      have first := @draft_sound fuel r
      generalize draft fuel r = drafted at first ⊢
      obtain ⟨v, rest⟩ := drafted
      dsimp only at first ⊢
      split
      · next r =>
        intro members closed
        obtain ⟨one, others⟩ := Option.or_eq_none_iff.1 members
        obtain ⟨more, run⟩ := draftMembers_sound fuel others closed
        refine ⟨List.cons_ne_nil _ _, ?_⟩
        rw [first one, Draft.memberTokens_cons more, List.cons_append, List.cons_append, List.append_assoc,
          List.cons_append, ← run]
      · next r =>
        intro members _
        obtain ⟨one, -⟩ := Option.or_eq_none_iff.1 members
        refine ⟨List.cons_ne_nil _ _, ?_⟩
        rw [first one]
        rfl
      · intro _ closed
        exact absurd closed (Ending.skipping?_neither _)
    · intro members
      cases members
    · intro members
      cases members
    · intro _ closed
      cases Ending.skipping?_eq_none.1 closed

end

mutual

/-- A value without flaws has no flawed tokens. -/
theorem Draft.sound_tokens : (d : Draft) → d.Whole → ∀ t ∈ d.tokens, t.isFlawed = false
  | .null, _ | .bool _, _ | .number _, _ | .string _, _ => by simp [Draft.tokens, Token.isFlawed]
  | .array items ending, whole => by
    have each := Draft.sound_itemTokens items (Option.or_eq_none_iff.1 whole).1
    simpa [Draft.tokens, Token.isFlawed, or_imp, forall_and] using each
  | .object members ending, whole => by
    have each := Draft.sound_memberTokens members (Option.or_eq_none_iff.1 whole).1
    simpa [Draft.tokens, Token.isFlawed, or_imp, forall_and] using each

theorem Draft.sound_itemTokens : (vs : List Draft) → Draft.skippingItems? vs = none →
    ∀ t ∈ Draft.itemTokens vs, t.isFlawed = false
  | [], _ => List.forall_mem_nil _
  | v :: vs, whole => by
    obtain ⟨one, others⟩ := Option.or_eq_none_iff.1 whole
    exact (Draft.forall_itemTokens_cons (p := fun t => t.isFlawed = false) rfl).2
      ⟨Draft.sound_tokens v one, Draft.sound_itemTokens vs others⟩

theorem Draft.sound_memberTokens : (ms : List (Option String × Draft)) → Draft.skippingMembers? ms = none →
    ∀ t ∈ Draft.memberTokens ms, t.isFlawed = false
  | [], _ => List.forall_mem_nil _
  | (k, v) :: ms, whole => by
    obtain ⟨one, others⟩ := Option.or_eq_none_iff.1 whole
    exact (Draft.forall_memberTokens_cons (p := fun t => t.isFlawed = false) rfl rfl).2
      ⟨rfl, Draft.sound_tokens v one, Draft.sound_memberTokens ms others⟩

end

/-- A text that is cut into the tokens of a value spells it. -/
theorem spells_of_tokens {d : Draft} {s : String} (whole : d.Whole) (cut : tokens s.toList = d.tokens) :
    Spells d s := by
  have sound := d.sound_tokens whole
  refine ⟨whole, ?_⟩
  rw [← cut] at sound ⊢
  exact lexes_of_tokensWithin Nat.le.refl sound

/-- **A document without flaws** is the value that its text spells. -/
theorem spells_iff {d : Draft} {s : String} : Spells d s ↔ Document.ofText s = ⟨d, false⟩ ∧ d.Whole := by
  constructor
  · intro spells
    exact ⟨spells.document, spells.1⟩
  · rintro ⟨read, whole⟩
    have all := @draft_sound (draftSteps (tokens s.toList)) (tokens s.toList)
    unfold Document.ofText at read
    dsimp only at read
    generalize draft (draftSteps (tokens s.toList)) (tokens s.toList) = drafted at read all
    obtain ⟨value, rest⟩ := drafted
    obtain ⟨rfl, trailing⟩ := Document.mk.inj read
    obtain rfl : rest = [] := by simpa using trailing
    exact spells_of_tokens whole ((all whole).trans (List.append_nil _))

/-! ## Values -/

mutual

/-- All numbers can be read: none is too large for a double. -/
def Readable : Json → Prop
  | .number l => l.number?.isSome
  | .array items => ReadableItems items
  | .object members => ReadableMembers members
  | _ => True

def ReadableItems : List Json → Prop
  | [] => True
  | v :: vs => v.Readable ∧ ReadableItems vs

def ReadableMembers : List (String × Json) → Prop
  | [] => True
  | (_, v) :: ms => v.Readable ∧ ReadableMembers ms

end

/-- Members can be read if each of them can. -/
theorem readableMembers_iff {ms : List (String × Json)} : ReadableMembers ms ↔ ∀ m ∈ ms, m.2.Readable := by
  induction ms with
  | nil => simp [ReadableMembers]
  | cons m ms ih => rw [ReadableMembers, ih, List.forall_mem_cons]

mutual

/-- A value that can be read is that of its draft. -/
theorem Draft.toJson?_ofJson : (j : Json) → j.Readable → (Draft.ofJson j).toJson? = some j
  | .null, _ | .bool _, _ | .string _, _ => rfl
  | .number l, readable => if_pos readable
  | .array items, readable => by
    simp only [Draft.ofJson, Draft.toJson?, if_true, Draft.toItems?_ofItems items readable, Option.map_some]
  | .object members, readable => by
    simp only [Draft.ofJson, Draft.toJson?, if_true, Draft.toMembers?_ofMembers members readable, Option.map_some]

/-- Items that can be read are those of their drafts. -/
theorem Draft.toItems?_ofItems : (items : List Json) → ReadableItems items →
    Draft.toItems? (Draft.ofItems items) = some items
  | [], _ => rfl
  | v :: vs, readable => by
    simp only [Draft.ofItems, Draft.toItems?, Draft.toJson?_ofJson v readable.1, Draft.toItems?_ofItems vs readable.2,
      Option.bind_some, Option.map_some]

/-- Members that can be read are those of their drafts. -/
theorem Draft.toMembers?_ofMembers : (ms : List (String × Json)) → ReadableMembers ms →
    Draft.toMembers? (Draft.ofMembers ms) = some ms
  | [], _ => rfl
  | (k, v) :: ms, readable => by
    simp only [Draft.ofMembers, Draft.toMembers?, Draft.toJson?_ofJson v readable.1,
      Draft.toMembers?_ofMembers ms readable.2, Option.map_some]

end

mutual

/-- A draft that is a value is the draft of that value, and can be read. -/
theorem Draft.eq_ofJson : (d : Draft) → ∀ {j : Json}, d.toJson? = some j → d = .ofJson j ∧ j.Readable
  | .null, _, rfl | .bool _, _, rfl => ⟨rfl, trivial⟩
  | .number l, j, read => by
    unfold Draft.toJson? at read
    split at read
    · next readable =>
      cases read
      exact ⟨rfl, readable⟩
    · cases read
  | .string s, j, read => by
    obtain ⟨s, rfl, rfl⟩ := Option.map_eq_some_iff.1 read
    exact ⟨rfl, trivial⟩
  | .array items ending, j, read => by
    unfold Draft.toJson? at read
    split at read
    · next closed =>
      obtain ⟨js, all, rfl⟩ := Option.map_eq_some_iff.1 read
      obtain ⟨rfl, readable⟩ := Draft.eq_ofItems items all
      exact ⟨closed ▸ rfl, readable⟩
    · cases read
  | .object members ending, j, read => by
    unfold Draft.toJson? at read
    split at read
    · next closed =>
      obtain ⟨ms, all, rfl⟩ := Option.map_eq_some_iff.1 read
      obtain ⟨rfl, readable⟩ := Draft.eq_ofMembers members all
      exact ⟨closed ▸ rfl, readable⟩
    · cases read

/-- Drafts that are items are the drafts of those items. -/
theorem Draft.eq_ofItems : (ds : List Draft) → ∀ {js : List Json}, Draft.toItems? ds = some js →
    ds = Draft.ofItems js ∧ ReadableItems js
  | [], _, rfl => ⟨rfl, trivial⟩
  | d :: ds, js, read => by
    obtain ⟨j, one, others⟩ := Option.bind_eq_some_iff.1 read
    obtain ⟨js, all, rfl⟩ := Option.map_eq_some_iff.1 others
    obtain ⟨rfl, first⟩ := Draft.eq_ofJson d one
    obtain ⟨rfl, rest⟩ := Draft.eq_ofItems ds all
    exact ⟨rfl, first, rest⟩

/-- Drafts that are members are the drafts of those members, names included. -/
theorem Draft.eq_ofMembers : (ds : List (Option String × Draft)) → ∀ {ms : List (String × Json)},
    Draft.toMembers? ds = some ms → ds = Draft.ofMembers ms ∧ ReadableMembers ms
  | [], _, rfl => ⟨rfl, trivial⟩
  | (k, d) :: ds, ms, read => by
    unfold Draft.toMembers? at read
    split at read
    · next name j one =>
      obtain ⟨ms, all, rfl⟩ := Option.map_eq_some_iff.1 read
      obtain ⟨rfl, first⟩ := Draft.eq_ofJson d one
      obtain ⟨rfl, rest⟩ := Draft.eq_ofMembers ds all
      exact ⟨rfl, first, rest⟩
    · cases read

end

mutual

/-- No two values have one draft. -/
theorem Draft.ofJson_inj : (j : Json) → ∀ {j' : Json}, Draft.ofJson j = Draft.ofJson j' → j = j'
  | .null, .null, _ => rfl
  | .bool _, .bool _, same => congrArg Json.bool (Draft.bool.inj same)
  | .number _, .number _, same => congrArg Json.number (Draft.number.inj same)
  | .string _, .string _, same => congrArg Json.string (Option.some.inj (Draft.string.inj same))
  | .array items, .array _, same => congrArg Json.array (Draft.ofItems_inj items (Draft.array.inj same).1)
  | .object members, .object _, same => congrArg Json.object (Draft.ofMembers_inj members (Draft.object.inj same).1)

/-- No two lists have one draft. -/
theorem Draft.ofItems_inj : (items : List Json) → ∀ {items' : List Json},
    Draft.ofItems items = Draft.ofItems items' → items = items'
  | [], [], _ => rfl
  | v :: vs, v' :: vs', same => by
    obtain ⟨first, others⟩ := List.cons.inj same
    rw [Draft.ofJson_inj v first, Draft.ofItems_inj vs others]

/-- No two objects have one draft. -/
theorem Draft.ofMembers_inj : (ms : List (String × Json)) → ∀ {ms' : List (String × Json)},
    Draft.ofMembers ms = Draft.ofMembers ms' → ms = ms'
  | [], [], _ => rfl
  | (k, v) :: ms, (k', v') :: ms', same => by
    obtain ⟨first, others⟩ := List.cons.inj same
    obtain ⟨name, value⟩ := Prod.mk.inj first
    rw [Option.some.inj name, Draft.ofJson_inj v value, Draft.ofMembers_inj ms others]

end

/-- **A text has a value** exactly if it spells the value and all numbers of the value can be read. -/
theorem ofText?_eq_some {s : String} {j : Json} : ofText? s = some j ↔ Spells (.ofJson j) s ∧ j.Readable := by
  constructor
  · intro read
    unfold ofText? at read
    dsimp only at read
    split at read
    · cases read
    · next alone =>
      obtain ⟨value, readable⟩ := Draft.eq_ofJson _ read
      refine ⟨spells_iff.2 ⟨?_, Draft.whole_ofJson j⟩, readable⟩
      rw [← value, ← Bool.eq_false_iff.2 alone]
  · rintro ⟨spells, readable⟩
    rw [ofText?, spells.document]
    exact Draft.toJson?_ofJson j readable

/-! ## Drafts that are values -/

/-- A number that a double can hold, a string without unpaired surrogates, or a token of another sort. -/
def Token.Legible : Token → Prop
  | .number l => l.number?.isSome
  | .string s => s.isSome
  | _ => True

instance : (t : Token) → Decidable t.Legible
  | .number l => inferInstanceAs (Decidable (l.number?.isSome = true))
  | .string s => inferInstanceAs (Decidable (s.isSome = true))
  | .mark _ | .null | .bool _ | .flawed _ => isTrue trivial

mutual

/-- A draft without flaws is a value exactly if all its numbers and strings can be read. -/
theorem Draft.toJson?_isSome : (d : Draft) → d.Whole → (d.toJson?.isSome ↔ ∀ t ∈ d.tokens, t.Legible)
  | .null, _ | .bool _, _ => by simp [Draft.toJson?, Draft.tokens, Token.Legible]
  | .number l, _ => by
    rw [Draft.tokens, List.forall_mem_singleton, Draft.toJson?]
    split <;> simp_all [Token.Legible]
  | .string s, _ => by
    rw [Draft.tokens, List.forall_mem_singleton, Draft.toJson?, Option.isSome_map]
    rfl
  | .array items ending, whole => by
    obtain ⟨each, closed⟩ := Option.or_eq_none_iff.1 whole
    obtain rfl := Ending.skipping?_eq_none.1 closed
    simpa [Draft.toJson?, Draft.tokens, Token.Legible, or_imp, forall_and] using Draft.toItems?_isSome items each
  | .object members ending, whole => by
    obtain ⟨each, closed⟩ := Option.or_eq_none_iff.1 whole
    obtain rfl := Ending.skipping?_eq_none.1 closed
    simpa [Draft.toJson?, Draft.tokens, Token.Legible, or_imp, forall_and] using Draft.toMembers?_isSome members each

/-- Items without flaws are values exactly if all their tokens are legible. -/
theorem Draft.toItems?_isSome : (ds : List Draft) → Draft.skippingItems? ds = none →
    ((Draft.toItems? ds).isSome ↔ ∀ t ∈ Draft.itemTokens ds, t.Legible)
  | [], _ => ⟨fun _ => List.forall_mem_nil _, fun _ => rfl⟩
  | d :: ds, whole => by
    obtain ⟨one, others⟩ := Option.or_eq_none_iff.1 whole
    rw [Draft.forall_itemTokens_cons trivial, ← Draft.toJson?_isSome d one, ← Draft.toItems?_isSome ds others,
      Draft.toItems?]
    cases d.toJson? <;> simp

/-- Members without flaws are values exactly if all their tokens are legible, names included. -/
theorem Draft.toMembers?_isSome : (ms : List (Option String × Draft)) → Draft.skippingMembers? ms = none →
    ((Draft.toMembers? ms).isSome ↔ ∀ t ∈ Draft.memberTokens ms, t.Legible)
  | [], _ => ⟨fun _ => List.forall_mem_nil _, fun _ => rfl⟩
  | (k, d) :: ms, whole => by
    obtain ⟨one, others⟩ := Option.or_eq_none_iff.1 whole
    have parts : (Draft.toMembers? ((k, d) :: ms)).isSome =
        (k.isSome && (d.toJson?.isSome && (Draft.toMembers? ms).isSome)) := by
      cases k <;> cases read : d.toJson? <;> simp [Draft.toMembers?, read]
    rw [Draft.forall_memberTokens_cons trivial trivial, ← Draft.toJson?_isSome d one,
      ← Draft.toMembers?_isSome ms others, parts, Bool.and_eq_true, Bool.and_eq_true]
    rfl

end

mutual

/-- How deep arrays and objects are nested, whether or not they can be read. -/
def Draft.depth : Draft → Nat
  | .array items _ => Draft.depthOfItems items + 1
  | .object members _ => Draft.depthOfMembers members + 1
  | _ => 0

def Draft.depthOfItems : List Draft → Nat
  | [] => 0
  | v :: vs => max v.depth (Draft.depthOfItems vs)

def Draft.depthOfMembers : List (Option String × Draft) → Nat
  | [] => 0
  | (_, v) :: ms => max v.depth (Draft.depthOfMembers ms)

end

mutual

/-- A value is nested as deeply as its draft. -/
theorem Draft.depth_ofJson : (j : Json) → (Draft.ofJson j).depth = j.depth
  | .null | .bool _ | .number _ | .string _ => rfl
  | .array items => congrArg (· + 1) (Draft.depth_ofItems items)
  | .object members => congrArg (· + 1) (Draft.depth_ofMembers members)

theorem Draft.depth_ofItems : (items : List Json) → Draft.depthOfItems (Draft.ofItems items) = Json.depthOfItems items
  | [] => rfl
  | v :: vs => congrArg₂ max (Draft.depth_ofJson v) (Draft.depth_ofItems vs)

theorem Draft.depth_ofMembers : (members : List (String × Json)) →
    Draft.depthOfMembers (Draft.ofMembers members) = Json.depthOfMembers members
  | [] => rfl
  | (_, v) :: ms => congrArg₂ max (Draft.depth_ofJson v) (Draft.depth_ofMembers ms)

end

/-- Members are drafted one by one. -/
theorem Draft.ofMembers_eq_map (members : List (String × Json)) :
    Draft.ofMembers members = members.map fun m => (some m.1, Draft.ofJson m.2) := by
  induction members with
  | nil => rfl
  | cons m ms ih => rw [List.map_cons, ← ih, Draft.ofMembers]

end ProfileGateway.Json
