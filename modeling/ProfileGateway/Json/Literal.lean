import ProfileGateway.Decimal.Shortest
/-!
# Number literals

A number as a JSON text writes it, and the number that is read from it: an integer if it has neither fraction
nor exponent and fits 64 bits, a double otherwise. Digits beyond 64 bits only count as places.
-/
namespace ProfileGateway.Json

open Decimal

/-- Sign, whole part, digits after the point (none if there is no point), and exponent if there is one. -/
structure Literal where
  negative : Bool
  whole : Nat
  fraction : List (Fin 10)
  exponent : Option Int
deriving DecidableEq, Repr

/-- What a literal is read as. -/
inductive Number
  | int (n : Int)
  | float (x : Binary64)
deriving DecidableEq, Repr

/-- Doubles are plain from `0.00001` up to sixteen digits before the point. -/
def floatLayout : Layout := ⟨-5, 15⟩

def Number.render : Number → List Char
  | .int n => signedNumeral n
  | .float x => floatLayout.render x

namespace Literal

def ofInt (n : Int) : Literal := ⟨n < 0, n.natAbs, [], none⟩

def isInteger (l : Literal) : Bool := l.fraction.isEmpty && l.exponent.isNone

def render (l : Literal) : List Char :=
  (if l.negative then ['-'] else []) ++ numeral l.whole ++
    (if l.fraction.isEmpty then [] else '.' :: l.fraction.map fun d => Nat.digitChar d.val) ++
    (match l.exponent with
     | none => []
     | some e => 'e' :: signedNumeral e)

/-! ## Reading as a double -/

/-- Appends digits to `n` as long as the result fits 64 bits; also the number of digits left over. -/
def absorb (n : Nat) : List Nat → Nat × Nat
  | [] => (n, 0)
  | d :: ds => if 10 * n + d < UInt64.size then absorb (10 * n + d) ds else (n, ds.length + 1)

/-- The significand of at most 64 bits and the power of ten it is to be scaled by, exponent apart. -/
def significand (l : Literal) : Nat × Int :=
  let (whole, dropped) := absorb 0 ((numeral l.whole).map fun c => c.toNat - 48)
  let (all, ignored) := absorb whole (l.fraction.map Fin.val)
  (all, dropped - (l.fraction.length - ignored : Nat))

/-- The largest power of ten that is one step of scaling. -/
def maxPower : Nat := 308

def powerOfTen? (k : Nat) : Option Magnitude := Magnitude.ofNat? (Nat.pow 10 k)

/-- `m · 10^e`, rounded at each step. A negative exponent beyond one step takes several, and stops early at zero.
Nothing if the result is too large. -/
def scaleBy? (m : Magnitude) (e : Int) : Nat → Option Magnitude
  | 0 => some m
  | steps + 1 =>
    if e.natAbs ≤ maxPower then
      (powerOfTen? e.natAbs).bind fun p => if 0 ≤ e then m.mul? p else m.div? p
    else if m.isZero then some m
    else if 0 ≤ e then none
    else (powerOfTen? maxPower).bind fun p => (m.div? p).bind fun m' => scaleBy? m' (e + maxPower) steps

/-- A significand of 64 bits has become zero after three steps. -/
def maxSteps : Nat := 4

/-- Exponents beyond 32 bits stand for infinity or zero. -/
def maxExponent : Nat := 0x7fffffff

def magnitude? (l : Literal) : Option Magnitude :=
  let (n, power) := l.significand
  let e := l.exponent.getD 0
  if maxExponent < e.natAbs then
    if n ≠ 0 ∧ 0 < e then none else some .zero
  else (Magnitude.ofNat? n).bind fun m => scaleBy? m (power + e) maxSteps

/-- The number read from a literal; nothing for one too large for a double. -/
def number? (l : Literal) : Option Number :=
  let float := l.magnitude?.map fun m => Number.float ⟨l.negative, m⟩
  if l.isInteger then
    if l.negative then if 0 < l.whole ∧ l.whole ≤ 0x8000000000000000 then some (.int (-l.whole)) else float
    else if l.whole < UInt64.size then some (.int l.whole) else float
  else float

end Literal
end ProfileGateway.Json
