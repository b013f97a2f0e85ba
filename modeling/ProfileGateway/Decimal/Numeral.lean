/-!
# Decimal numerals

Natural numbers and integers written in base ten, and reading a run of ASCII digits. A numeral reads back as
the number it was written from.
-/
namespace ProfileGateway.Decimal

def numeral (n : Nat) : List Char := Nat.toDigits 10 n

/-- A minus sign in front of a negative number, and nothing in front of any other. -/
def signedNumeral : Int → List Char
  | .ofNat n => numeral n
  | .negSucc n => '-' :: numeral (n + 1)

/-- The digits of `n` as text. -/
def text (n : Nat) : String := String.ofList (numeral n)

def signedText (n : Int) : String := String.ofList (signedNumeral n)

/-- One or more ASCII digits and nothing else. -/
def isDigits (cs : List Char) : Bool := !cs.isEmpty && cs.all Char.isDigit

/-- The number that a run of digits stands for. -/
def value (cs : List Char) : Nat := Nat.ofDigitChars 10 cs 0

theorem isDigits_iff {cs : List Char} : isDigits cs = true ↔ cs ≠ [] ∧ ∀ c ∈ cs, c.isDigit := by
  simp [isDigits]

@[simp] theorem isDigits_numeral (n : Nat) : isDigits (numeral n) = true :=
  isDigits_iff.2 ⟨Nat.toDigits_ne_nil, fun _ h => Nat.isDigit_of_mem_toDigits (by decide) (by decide) h⟩

@[simp] theorem value_numeral (n : Nat) : value (numeral n) = n := Nat.ofDigitChars_ten_toDigits

@[simp] theorem toList_text (n : Nat) : (text n).toList = numeral n := String.toList_ofList

end ProfileGateway.Decimal
