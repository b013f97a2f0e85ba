import ProfileGateway.Text.Hex
/-!
# Universally unique identifiers

An identifier is a number below 2¹²⁸, ordered as numbers are. It is printed as 32 lower-case hexadecimal digits
in groups of 8, 4, 4, 4 and 12. Four spellings are read: that form, the digits without hyphens, the hyphenated
form in braces, and the hyphenated form after `urn:uuid:`; letters may be of either case in all of them.
-/
namespace ProfileGateway

structure Uuid where
  toNat : Nat
  toNat_lt : toNat < Nat.pow 2 128
deriving DecidableEq, Repr

namespace Uuid

@[ext] theorem ext {a b : Uuid} (h : a.toNat = b.toNat) : a = b := by
  cases a; cases b; cases h; rfl

instance : LT Uuid := ⟨fun a b => a.toNat < b.toNat⟩

instance (a b : Uuid) : Decidable (a < b) := inferInstanceAs (Decidable (a.toNat < b.toNat))

theorem lt_def {a b : Uuid} : a < b ↔ a.toNat < b.toNat := Iff.rfl

/-! ## Printing -/

/-- Exactly 32 digits. -/
def digits (u : Uuid) : List Char := Text.hexDigits 32 u.toNat

/-- Groups of 8, 4, 4, 4 and all that is left, with hyphens between them. -/
def hyphenate (cs : List Char) : List Char :=
  cs.take 8 ++ '-' :: (cs.drop 8).take 4 ++ '-' :: (cs.drop 12).take 4 ++ '-' :: (cs.drop 16).take 4 ++
    '-' :: cs.drop 20

def print (u : Uuid) : String := String.ofList (hyphenate u.digits)

/-! ## Reading -/

/-- The identifier of 32 hexadecimal digits. -/
def ofDigits? (cs : List Char) : Option Uuid :=
  if cs.length = 32 then
    (Text.hexNumber? 0 cs).bind fun n => if h : n < Nat.pow 2 128 then some ⟨n, h⟩ else none
  else none

/-- The digits of the hyphenated form, if the hyphens stand where they should. -/
def unhyphenate? (cs : List Char) : Option (List Char) :=
  let ds := cs.take 8 ++ (cs.drop 9).take 4 ++ (cs.drop 14).take 4 ++ (cs.drop 19).take 4 ++ cs.drop 24
  if hyphenate ds = cs then some ds else none

def ofHyphenated? (cs : List Char) : Option Uuid := (unhyphenate? cs).bind ofDigits?

/-- What follows `urn:uuid:`, which may be in any case. -/
def afterUrn? (cs : List Char) : Option (List Char) :=
  if (cs.take 9).map Char.toLower = "urn:uuid:".toList then some (cs.drop 9) else none

/-- What stands between braces. -/
def insideBraces? (cs : List Char) : Option (List Char) :=
  if cs.head? = some '\x7b' ∧ cs.getLast? = some '\x7d' then some (cs.drop 1).dropLast else none

/-- Reads any of the four spellings; blanks around them are not skipped. -/
def parseChars? (cs : List Char) : Option Uuid :=
  if cs.length = 32 then ofDigits? cs
  else if cs.length = 36 then ofHyphenated? cs
  else if cs.length = 38 then (insideBraces? cs).bind ofHyphenated?
  else if cs.length = 45 then (afterUrn? cs).bind ofHyphenated?
  else none

def parse? (s : String) : Option Uuid := parseChars? s.toList

end Uuid
end ProfileGateway
