/-!
# Hexadecimal digits

Digits are written in lower case and read in either case. A digit reads back as its value.
-/
namespace ProfileGateway.Text

/-- The digit for a value below sixteen. -/
def hexDigit (v : Nat) : Char := Nat.digitChar v

def hexValue? (c : Char) : Option Nat :=
  if c.isDigit then some (c.toNat - 48)
  else if 'a' ≤ c ∧ c ≤ 'f' then some (c.toNat - 87)
  else if 'A' ≤ c ∧ c ≤ 'F' then some (c.toNat - 55)
  else none

theorem hexValue?_hexDigit : ∀ v < 16, hexValue? (hexDigit v) = some v := by decide

/-- The lowest `width` digits of `n`, highest first. -/
def hexDigits : Nat → Nat → List Char
  | 0, _ => []
  | width + 1, n => hexDigits width (n / 16) ++ [hexDigit (n % 16)]

/-- The number that digits stand for, behind what `high` holds already. -/
def hexNumber? (high : Nat) : List Char → Option Nat
  | [] => some high
  | c :: cs => (hexValue? c).bind fun v => hexNumber? (16 * high + v) cs

/-- The digits of `n` without leading zeros. -/
def hexNumeral (n : Nat) : List Char := Nat.toDigits 16 n

@[simp] theorem length_hexDigits (width n : Nat) : (hexDigits width n).length = width := by
  induction width generalizing n with
  | zero => rfl
  | succ width ih => simp [hexDigits, ih]

end ProfileGateway.Text
