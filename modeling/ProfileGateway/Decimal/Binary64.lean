/-!
# Double-precision numbers

Finite numbers of 64 bits in exact arithmetic on natural numbers. A magnitude is `significand · 2^unit / 2^1074`:
every finite double is a whole number of the smallest one, `2^-1074`. Results are rounded to the nearest
magnitude, ties going to the even significand.
-/
namespace ProfileGateway.Decimal

/-- The whole number nearest to `a / b`; of two that are equally near, the even one. -/
def divNearest (a b : Nat) : Nat :=
  let q := a / b
  if 2 * (a % b) < b then q
  else if b < 2 * (a % b) then q + 1
  else if q % 2 = 0 then q else q + 1

/-- A finite number that is not negative. The significand has at most 53 bits, and has all of them unless the
unit is the smallest. -/
structure Magnitude where
  significand : Nat
  unit : Nat
deriving DecidableEq, Repr

namespace Magnitude

/-- The reciprocal of the smallest positive magnitude. -/
def scale : Nat := Nat.pow 2 1074

/-- The largest unit a finite number has. -/
def maxUnit : Nat := 2045

/-- The magnitude as a number of smallest magnitudes. -/
def steps (m : Magnitude) : Nat := m.significand * Nat.pow 2 m.unit

def zero : Magnitude := ⟨0, 0⟩

def isZero (m : Magnitude) : Bool := m.significand == 0

/-- The magnitude nearest to `num / den`, or nothing if that is too large to be finite. -/
def nearest? (num den : Nat) : Option Magnitude :=
  let whole := num * scale / den
  let unit := if whole < Nat.pow 2 53 then 0 else whole.log2 - 52
  let significand := divNearest (num * scale) (den * Nat.pow 2 unit)
  let m : Magnitude := if significand = Nat.pow 2 53 then ⟨Nat.pow 2 52, unit + 1⟩ else ⟨significand, unit⟩
  if m.unit ≤ maxUnit then some m else none

def ofNat? (n : Nat) : Option Magnitude := nearest? n 1

def mul? (a b : Magnitude) : Option Magnitude := nearest? (a.steps * b.steps) (scale * scale)

/-- The rounded quotient; nothing for a divisor of zero. -/
def div? (a b : Magnitude) : Option Magnitude :=
  if b.isZero then none else nearest? a.steps b.steps

end Magnitude

/-- A finite double. Zero has a sign. -/
structure Binary64 where
  negative : Bool
  magnitude : Magnitude
deriving DecidableEq, Repr

end ProfileGateway.Decimal
