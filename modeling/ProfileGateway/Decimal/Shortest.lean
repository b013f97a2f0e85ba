import ProfileGateway.Decimal.Binary64
import ProfileGateway.Decimal.Numeral
/-!
# Shortest decimals

A double is written with the fewest digits that read back as it, and of those with the nearest. For each number
of digits the two neighbours of the value on that decimal grid are tried in exact arithmetic; the first grid with
a neighbour between the halfway points to the adjacent doubles wins.
-/
namespace ProfileGateway.Decimal

/-- The number `digits · 10^exponent`. -/
structure Scientific where
  digits : Nat
  exponent : Int
deriving DecidableEq, Repr

namespace Scientific

/-- The power of ten of the leading digit. -/
def leading (d : Scientific) : Int := d.exponent + (numeral d.digits).length - 1

/-- `d ≤ num / den`, cross-multiplied. -/
def le (d : Scientific) (num den : Nat) : Bool :=
  d.digits * Nat.pow 10 d.exponent.toNat * den ≤ num * Nat.pow 10 (-d.exponent).toNat

/-- `num / den ≤ d`, cross-multiplied. -/
def ge (d : Scientific) (num den : Nat) : Bool :=
  num * Nat.pow 10 (-d.exponent).toNat ≤ d.digits * Nat.pow 10 d.exponent.toNat * den

/-- `num / den` on the grid of multiples of `10^exponent`, rounded down. -/
def floor (num den : Nat) (exponent : Int) : Scientific :=
  ⟨num * Nat.pow 10 (-exponent).toNat / (den * Nat.pow 10 exponent.toNat), exponent⟩

/-- The next point of the same grid. -/
def succ (d : Scientific) : Scientific := ⟨d.digits + 1, d.exponent⟩

/-- The same number without zeros at the end of its digits. -/
def strip (d : Scientific) : Nat → Scientific
  | 0 => d
  | fuel + 1 => if d.digits % 10 = 0 ∧ d.digits ≠ 0 then strip ⟨d.digits / 10, d.exponent + 1⟩ fuel else d

end Scientific

namespace Magnitude

/-- The power of ten of the leading digit of `num / den`, for a positive quotient. -/
def leadingPower (num den : Nat) : Int :=
  if den ≤ num then (numeral (num / den)).length - 1
  else -(numeral ((den + num - 1) / num - 1)).length

/-- The halfway points below and above, in quarters of the smallest magnitude. The gap below a power of two is
half the gap above it. -/
def bounds (m : Magnitude) : Nat × Nat :=
  let below := if m.significand = Nat.pow 2 52 ∧ 0 < m.unit then 1 else 2
  ((4 * m.significand - below) * Nat.pow 2 m.unit, (4 * m.significand + 2) * Nat.pow 2 m.unit)

/-- The decimal rounds to `m`: it lies between the halfway points, which count if the significand is even. -/
def accepts (m : Magnitude) (d : Scientific) : Bool :=
  let (lo, hi) := m.bounds
  if m.significand % 2 = 0 then d.ge lo (4 * scale) && d.le hi (4 * scale)
  else !d.le lo (4 * scale) && !d.ge hi (4 * scale)

/-- The accepted neighbour of `m` on the grid of `10^exponent`; of two the nearer, of two equally near the even. -/
def neighbour? (m : Magnitude) (exponent : Int) : Option Scientific :=
  let low := Scientific.floor m.steps scale exponent
  let high := low.succ
  let middle : Scientific := ⟨(2 * low.digits + 1) * 5, exponent - 1⟩
  match m.accepts low, m.accepts high with
  | true, false => some low
  | false, true => some high
  | false, false => none
  | true, true =>
    if !middle.le m.steps scale then some low
    else if !middle.ge m.steps scale then some high
    else if low.digits % 2 = 0 then some low else some high

/-- The shortest decimal that reads back as `m`, with no zero at its end. -/
def shortest (m : Magnitude) : Scientific :=
  if m.isZero then ⟨0, 0⟩
  else
    let top := leadingPower m.steps scale
    match (List.range 17).findSome? fun (n : Nat) => m.neighbour? (top - n) with
    | some d => d.strip 20
    | none => ⟨m.steps, 0⟩

end Magnitude

/-! ## Layout -/

/-- Which numbers are written without an exponent: those whose leading digit has a power of ten in this range. -/
structure Layout where
  plainFrom : Int
  plainTo : Int

/-- Plain notation, with at least one digit after the point. -/
def plainText (d : Scientific) : List Char :=
  let ds := numeral d.digits
  if 0 ≤ d.exponent then ds ++ List.replicate d.exponent.toNat '0' ++ ['.', '0']
  else
    let places := (-d.exponent).toNat
    if places < ds.length then ds.take (ds.length - places) ++ '.' :: ds.drop (ds.length - places)
    else '0' :: '.' :: List.replicate (places - ds.length) '0' ++ ds

/-- One digit before the point, the others after it, and an exponent that always has its sign. -/
def exponentText (d : Scientific) : List Char :=
  let ds := numeral d.digits
  let mantissa := if ds.length ≤ 1 then ds else ds.take 1 ++ '.' :: ds.drop 1
  let sign := if d.leading < 0 then '-' else '+'
  mantissa ++ 'e' :: sign :: numeral d.leading.natAbs

def Layout.render (l : Layout) (x : Binary64) : List Char :=
  let d := x.magnitude.shortest
  let body := if l.plainFrom ≤ d.leading ∧ d.leading ≤ l.plainTo then plainText d else exponentText d
  if x.negative then '-' :: body else body

end ProfileGateway.Decimal
