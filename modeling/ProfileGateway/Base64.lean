/-!
# Base64

Bytes as characters of a 64-letter alphabet, six bits each, with or without padding. Two alphabets differ in the
last two letters. Reading is strict: exactly the padding that writing adds (or none at all), no unused bits set,
no other character.
-/
namespace ProfileGateway.Base64

inductive Alphabet
  | standard
  | urlSafe
deriving DecidableEq, Repr

/-- An alphabet, and whether the text is filled up to a multiple of four characters. -/
structure Scheme where
  alphabet : Alphabet
  padded : Bool
deriving DecidableEq, Repr

namespace Alphabet

/-- The letters for 62 and 63. -/
def lastTwo : Alphabet → Char × Char
  | standard => ('+', '/')
  | urlSafe => ('-', '_')

/-- The letter for a value below 64. -/
def letter (a : Alphabet) (v : Nat) : Char :=
  if v < 26 then Char.ofNat (65 + v)
  else if v < 52 then Char.ofNat (71 + v)
  else if v < 62 then Char.ofNat (v - 4)
  else if v = 62 then a.lastTwo.1
  else a.lastTwo.2

def value? (a : Alphabet) (c : Char) : Option Nat :=
  if 'A' ≤ c ∧ c ≤ 'Z' then some (c.toNat - 65)
  else if 'a' ≤ c ∧ c ≤ 'z' then some (c.toNat - 71)
  else if c.isDigit then some (c.toNat + 4)
  else if c = a.lastTwo.1 then some 62
  else if c = a.lastTwo.2 then some 63
  else none

end Alphabet

/-! ## Groups of eight bits and groups of six -/

/-- The bits of the bytes in groups of six, the last group filled up with zeros. -/
def sextets : List UInt8 → List Nat
  | [] => []
  | [a] => [a.toNat / 4, a.toNat % 4 * 16]
  | [a, b] => [a.toNat / 4, a.toNat % 4 * 16 + b.toNat / 16, b.toNat % 16 * 4]
  | a :: b :: c :: rest =>
    [a.toNat / 4, a.toNat % 4 * 16 + b.toNat / 16, b.toNat % 16 * 4 + c.toNat / 64, c.toNat % 64] ++ sextets rest

/-- The bytes whose sextets these are. A group of one is no byte, and bits beyond the last byte must be zero. -/
def bytes? : List Nat → Option (List UInt8)
  | [] => some []
  | [_] => none
  | [a, b] => if b % 16 = 0 then some [UInt8.ofNat (a * 4 + b / 16)] else none
  | [a, b, c] =>
    if c % 4 = 0 then some [UInt8.ofNat (a * 4 + b / 16), UInt8.ofNat (b % 16 * 16 + c / 4)] else none
  | a :: b :: c :: d :: rest =>
    (bytes? rest).map fun bs =>
      UInt8.ofNat (a * 4 + b / 16) :: UInt8.ofNat (b % 16 * 16 + c / 4) :: UInt8.ofNat (c % 4 * 64 + d) :: bs

/-! ## Padding -/

/-- What fills a text of `n` letters up to a multiple of four. -/
def padding (n : Nat) : List Char :=
  match n % 4 with
  | 2 => ['=', '=']
  | 3 => ['=']
  | _ => []

/-- The text without its padding, if it has what its scheme asks for. -/
def Scheme.unpad? (s : Scheme) (cs : List Char) : Option (List Char) :=
  if s.padded then
    let body := cs.takeWhile (· ≠ '=')
    if cs = body ++ padding body.length then some body else none
  else some cs

def Scheme.encode (s : Scheme) (bs : List UInt8) : List Char :=
  let body := (sextets bs).map s.alphabet.letter
  if s.padded then body ++ padding body.length else body

def Scheme.decode? (s : Scheme) (cs : List Char) : Option (List UInt8) :=
  (s.unpad? cs).bind fun body => (body.mapM s.alphabet.value?).bind bytes?

end ProfileGateway.Base64
