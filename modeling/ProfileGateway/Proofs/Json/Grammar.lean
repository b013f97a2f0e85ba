import Mathlib.Data.List.TakeWhile
import ProfileGateway.Json.Token
import ProfileGateway.Proofs.Decimal
/-!
# Spellings of tokens

What may stand in a text for each token, and that a text is cut into the tokens that stand in it with whitespace
around them (`Lexes.tokens`).
-/
namespace ProfileGateway.Json

open Decimal

/-! ## Numbers -/

/-- What may stand for an exponent: a letter of either case, a sign, and digits that may have leading zeros. -/
inductive ExponentPart : Option Int → List Char → Prop
  | none : ExponentPart none []
  | up {mark sign ds} (letter : mark = 'e' ∨ mark = 'E') (plus : sign = [] ∨ sign = ['+'])
    (digits : isDigits ds = true) : ExponentPart (some (value ds)) (mark :: (sign ++ ds))
  | down {mark ds} (letter : mark = 'e' ∨ mark = 'E') (digits : isDigits ds = true) :
    ExponentPart (some (-(value ds : Int))) (mark :: '-' :: ds)

namespace Literal

def fractionPart (l : Literal) : List Char :=
  if l.fraction.isEmpty then [] else '.' :: l.fraction.map fun d => Nat.digitChar d.val

/-- A literal can be spelled in one way up to its exponent, since its whole part has no leading zeros. -/
def Spelled (l : Literal) (cs : List Char) : Prop :=
  ∃ tail, ExponentPart l.exponent tail ∧
    cs = (if l.negative then ['-'] else []) ++ numeral l.whole ++ l.fractionPart ++ tail

end Literal

/-- A number stops before a character that cannot go on with it. -/
def EndsNumber (rest : List Char) : Prop :=
  ∀ c ∈ rest.head?, c.isDigit = false ∧ c ≠ '.' ∧ c ≠ 'e' ∧ c ≠ 'E'

/-- Digits are split from what does not go on with them. -/
theorem splitDigits_append {ds rest : List Char} (digits : ∀ c ∈ ds, c.isDigit)
    (stop : ∀ c ∈ rest.head?, c.isDigit = false) : splitDigits (ds ++ rest) = (ds, rest) := by
  have none : rest.takeWhile Char.isDigit = [] ∧ rest.dropWhile Char.isDigit = rest := by
    cases rest with
    | nil => exact ⟨rfl, rfl⟩
    | cons c rest => simp [stop c rfl]
  rw [splitDigits, List.takeWhile_append_of_pos digits, List.dropWhile_append_of_pos digits, none.1, none.2,
    List.append_nil]

/-! ### Scanning a number -/

section Number

variable {e : Option Int} {tail rest : List Char}

/-- Neither digit nor point follows the digits before an exponent. -/
theorem ExponentPart.stop (part : ExponentPart e tail) (ends : EndsNumber rest) :
    ∀ c ∈ (tail ++ rest).head?, c.isDigit = false ∧ c ≠ '.' := by
  cases part with
  | none => exact fun c first => ⟨(ends c first).1, (ends c first).2.1⟩
  | up letter | down letter =>
    rintro c ⟨⟩
    obtain rfl | rfl := letter <;> decide

/-- An exponent is scanned in any spelling. -/
theorem scanExponent_eq (negative : Bool) (whole : Nat) (fraction : List (Fin 10)) (part : ExponentPart e tail)
    (ends : EndsNumber rest) :
    scanExponent negative whole fraction (tail ++ rest) = (.number ⟨negative, whole, fraction, e⟩, rest) := by
  have stop : ∀ c ∈ rest.head?, c.isDigit = false := fun c first => (ends c first).1
  cases part with
  | none =>
    cases rest with
    | nil => rfl
    | cons c rest =>
      obtain ⟨-, -, lower, upper⟩ := ends c rfl
      simp [scanExponent, lower, upper]
  | @up mark sign ds letter plus digits =>
    obtain ⟨nonempty, digits⟩ := isDigits_iff.1 digits
    obtain ⟨d, ds, rfl⟩ := List.exists_cons_of_ne_nil nonempty
    have unsigned : d ≠ '-' ∧ d ≠ '+' := by
      constructor <;> rintro rfl <;> exact absurd (digits _ List.mem_cons_self) (by decide)
    have run := splitDigits_append digits stop
    rw [List.cons_append] at run
    obtain rfl | rfl := plus <;> simp [scanExponent, letter, unsigned, run]
  | @down mark ds letter digits =>
    obtain ⟨nonempty, digits⟩ := isDigits_iff.1 digits
    simp [scanExponent, letter, splitDigits_append digits stop, nonempty]

/-- A fraction is scanned, and the exponent after it in any spelling. -/
theorem scanFraction_eq (l : Literal) (part : ExponentPart l.exponent tail) (ends : EndsNumber rest) :
    scanFraction l.negative l.whole (l.fractionPart ++ (tail ++ rest)) = (.number l, rest) := by
  have stop := part.stop ends
  unfold Literal.fractionPart
  split
  · next empty =>
    rw [List.isEmpty_iff] at empty
    have plain := scanExponent_eq l.negative l.whole [] part ends
    rw [← empty] at plain
    rw [List.nil_append, ← plain, empty]
    cases whole : tail ++ rest with
    | nil => rfl
    | cons c cs =>
      rw [whole] at stop
      unfold scanFraction
      split
      · next first => exact absurd (List.head_eq_of_cons_eq first) (stop c rfl).2
      · rfl
  · next given =>
    have digits : ∀ c ∈ l.fraction.map fun d => Nat.digitChar d.val, c.isDigit := by
      have each : ∀ d : Fin 10, (Nat.digitChar d.val).isDigit = true := by decide
      intro c member
      obtain ⟨d, -, rfl⟩ := List.mem_map.1 member
      exact each d
    have back : (l.fraction.map fun d => Nat.digitChar d.val).map digitOf = l.fraction := by
      have each : ∀ d : Fin 10, digitOf (Nat.digitChar d.val) = d := by decide
      rw [List.map_map]
      exact (List.map_congr_left fun d _ => each d).trans (List.map_id _)
    rw [List.cons_append, scanFraction, splitDigits_append digits fun c first => (stop c first).1]
    simp only [List.isEmpty_map, given, Bool.false_eq_true, if_false, back]
    exact scanExponent_eq l.negative l.whole l.fraction part ends

/-- A number is scanned, once its sign has been. -/
theorem scanNumber_eq (l : Literal) (part : ExponentPart l.exponent tail) (ends : EndsNumber rest) :
    scanNumber l.negative (numeral l.whole ++ (l.fractionPart ++ (tail ++ rest))) = (.number l, rest) := by
  obtain ⟨nonempty, digits⟩ := isDigits_iff.1 (isDigits_numeral l.whole)
  have stop : ∀ c ∈ (l.fractionPart ++ (tail ++ rest)).head?, c.isDigit = false := by
    unfold Literal.fractionPart
    split
    · exact fun c first => (part.stop ends c first).1
    · rintro c ⟨⟩
      rfl
  have plain := (canonical_numeral l.whole).unled
  rw [scanNumber, splitDigits_append digits stop]
  simp only [List.isEmpty_iff, nonempty, plain, if_false, value_numeral]
  exact scanFraction_eq l part ends

end Number

/-! ## Strings -/

/-- What may follow the opening quote, up to the closing one, and the text of the string. -/
inductive StringBody : Partway → List Char → Option String → Prop
  | close {p} : StringBody p ['"'] p.finish
  | plain {p c cs t} (quote : c ≠ '"') (backslash : c ≠ '\\') (printable : 0x20 ≤ c.toNat)
    (rest : StringBody (p.push c) cs t) : StringBody p (c :: cs) t
  | escape {p c d cs t} (letter : unescape? c = some d) (rest : StringBody (p.push d) cs t) :
    StringBody p ('\\' :: c :: cs) t
  | unit {p a b c d n cs t} (digits : unit? a b c d = some n) (rest : StringBody (p.pushUnit n) cs t) :
    StringBody p ('\\' :: 'u' :: a :: b :: c :: d :: cs) t

/-- A string is scanned in any spelling, up to the closing quote. -/
theorem StringBody.scan_eq {p : Partway} {cs : List Char} {t : Option String} (body : StringBody p cs t)
    (rest : List Char) : scanString p (cs ++ rest) = (.string t, rest) := by
  induction body with
  | close => rfl
  | plain quote backslash printable _ ih =>
    rw [List.cons_append, scanString, if_neg (Nat.not_lt.2 printable), ih]
    · exact quote
    · exact fun _ _ _ _ _ first _ => backslash first
    · exact fun _ first _ => backslash first
    · exact fun _ _ first _ => backslash first
    · exact fun first _ => backslash first
  | @escape p c d cs t letter _ ih =>
    have other : c ≠ 'u' := by
      rintro rfl
      cases letter
    rw [List.cons_append, List.cons_append, scanString]
    · simp only [letter, ih]
    · exact fun _ _ _ _ _ u _ => other u
    · exact other
  | unit digits _ ih =>
    simp only [List.cons_append, scanString, digits, ih]

/-! ## Tokens -/

inductive Token.Spelled : Token → List Char → Prop
  | mark {m c} (mark : mark? c = some m) : Spelled (.mark m) [c]
  | null : Spelled .null "null".toList
  | bool {b} : Spelled (.bool b) (if b then "true" else "false").toList
  | number {l cs} (literal : l.Spelled cs) : Spelled (.number l) cs
  | string {t cs} (body : StringBody .start cs t) : Spelled (.string t) ('"' :: cs)

/-- Where a token may end: only a number needs a character after it that is not its own. -/
def Token.EndsBefore (rest : List Char) : Token → Prop
  | .number _ => EndsNumber rest
  | _ => True

/-- What holds of no whitespace tells a character from whitespace. -/
theorem visible_of {p : Char → Bool} {c : Char} (holds : p c = true)
    (blanks : [' ', '\t', '\n', '\r'].any p = false) : isSpace c = false := by
  have other : ∀ b ∈ [' ', '\t', '\n', '\r'], c ≠ b := by
    rintro b blank rfl
    exact List.any_eq_false.1 blanks c blank holds
  simp only [List.forall_mem_cons, ne_eq] at other
  simp [isSpace, other]

/-- What begins with a digit is scanned as a number. -/
theorem scan_of_isDigit {c : Char} (digit : c.isDigit) (r : List Char) : scan c r = scanNumber false (c :: r) := by
  have unmarked : mark? c = none := by
    unfold mark?
    split <;> first | rfl | exact absurd digit (by decide)
  unfold scan
  rw [unmarked]
  dsimp only
  split <;> first | exact absurd digit (by decide) | exact if_pos digit

/-- A token is scanned in any spelling if what follows does not go on with it. -/
theorem Token.Spelled.scan_eq {t : Token} {cs rest : List Char} (spelled : t.Spelled cs)
    (ends : t.EndsBefore rest) :
    ∃ c r, cs = c :: r ∧ isSpace c = false ∧ scan c (r ++ rest) = (t, rest) := by
  cases spelled with
  | @mark m c mark =>
    have visible := visible_of (p := fun c => (mark? c).isSome) (Option.isSome_of_eq_some mark) rfl
    refine ⟨c, [], rfl, visible, ?_⟩
    unfold scan
    rw [mark]
    rfl
  | null => exact ⟨'n', _, rfl, rfl, rfl⟩
  | @bool b =>
    cases b with
    | false => exact ⟨'f', _, rfl, rfl, rfl⟩
    | true => exact ⟨'t', _, rfl, rfl, rfl⟩
  | @number l cs literal =>
    obtain ⟨tail, part, rfl⟩ := literal
    have number := scanNumber_eq l part ends
    cases sign : l.negative with
    | true =>
      refine ⟨'-', _, rfl, rfl, ?_⟩
      rw [sign] at number
      have scanned : scan '-' = scanNumber true := rfl
      simpa [scanned] using number
    | false =>
      obtain ⟨nonempty, digits⟩ := isDigits_iff.1 (isDigits_numeral l.whole)
      obtain ⟨d, ds, whole⟩ := List.exists_cons_of_ne_nil nonempty
      have digit : d.isDigit := digits d (whole ▸ List.mem_cons_self)
      rw [sign, whole] at number
      refine ⟨d, ds ++ l.fractionPart ++ tail, by simp [whole], visible_of digit rfl, ?_⟩
      rw [scan_of_isDigit digit]
      simpa using number
  | @string t cs body => exact ⟨'"', cs, rfl, rfl, body.scan_eq rest⟩

/-! ## Texts -/

/-- The tokens stand in the text one after the other, with whitespace before each and at the end. -/
inductive Lexes : List Token → List Char → Prop
  | nil {blank} (space : ∀ c ∈ blank, isSpace c) : Lexes [] blank
  | cons {blank t cs ts rest} (space : ∀ c ∈ blank, isSpace c) (spelled : t.Spelled cs)
    (ends : t.EndsBefore rest) (lexes : Lexes ts rest) : Lexes (t :: ts) (blank ++ cs ++ rest)

/-- One step for each character is enough to find all tokens. -/
theorem tokensWithin_of_lexes {ts : List Token} {cs : List Char} (lexes : Lexes ts cs) {fuel : Nat}
    (enough : cs.length ≤ fuel) : tokensWithin fuel cs = ts := by
  induction lexes generalizing fuel with
  | nil space =>
    cases fuel with
    | zero => rfl
    | succ fuel => rw [tokensWithin, List.dropWhile_eq_nil_iff.2 space]
  | @cons blank t cs ts rest space spelled ends lexes ih =>
    obtain ⟨c, r, rfl, visible, scanned⟩ := spelled.scan_eq ends
    simp only [List.length_append, List.length_cons] at enough
    obtain ⟨fuel, rfl⟩ : ∃ n, fuel = n + 1 := ⟨fuel - 1, by omega⟩
    have first : (blank ++ c :: r ++ rest).dropWhile isSpace = c :: (r ++ rest) := by
      rw [List.append_assoc, List.dropWhile_append_of_pos space, List.cons_append, List.dropWhile_cons, visible]
      rfl
    rw [tokensWithin, first]
    simp only [scanned, ih (show rest.length ≤ fuel by omega)]

/-- A text is cut into the tokens that stand in it. -/
theorem Lexes.tokens_eq {ts : List Token} {cs : List Char} (lexes : Lexes ts cs) : tokens cs = ts :=
  tokensWithin_of_lexes lexes Nat.le.refl

end ProfileGateway.Json
