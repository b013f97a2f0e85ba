import ProfileGateway.Decimal.Numeral
import ProfileGateway.Outcome.Status
/-!
# Pages

Listings are handed out in pages. A page token is the decimal numeral of the offset at which the next page
begins. One record more than a page holds is fetched, to tell whether there is a next page.
-/
namespace ProfileGateway.Page

def defaultSize : Nat := 20

def maxSize : Nat := 100

/-- The size of a page for a size asked for. -/
def sizeFor (requested : Int32) : Nat :=
  if requested ≤ 0 then defaultSize else min requested.toInt.toNat maxSize

/-- The largest offset. -/
def maxOffset : Nat := 0x7fffffff

/-! ## Tokens -/

/-- The token of an offset; none is below zero. -/
def printToken (offset : Int) : String := Decimal.text offset.toNat

/-- The offset of a token. The empty token is the beginning, and so is any negative number. -/
def readToken (token : String) : Except Refusal Nat :=
  let cs := token.toList
  if cs.isEmpty then .ok 0
  else
    let negative := cs.head? = some '-'
    let digits := if negative then cs.drop 1 else cs
    if !Decimal.isDigits digits then .error .tokenNotNumeric
    else if digits.head? = some '0' ∧ (negative ∨ 1 < digits.length) then .error .tokenNotCanonical
    else if negative then .ok 0
    else if Decimal.value digits ≤ maxOffset then .ok (Decimal.value digits)
    else .error .tokenOutOfRange

end Page

open Page

/-- The records of a page, and the token of the next one, which is empty for the last page. -/
structure Page (α : Type) where
  items : List α
  nextToken : String
deriving DecidableEq, Repr

def Page.hasNext {α : Type} (p : Page α) : Bool := p.nextToken ≠ ""

/-- The part of a listing that a request asks for: where it begins and how many records it holds. -/
structure Window where
  limit : Nat
  offset : Nat
deriving DecidableEq, Repr

namespace Window

def ofRequest (pageSize : Int32) (token : String) : Except Refusal Window :=
  (readToken token).map fun offset => ⟨sizeFor pageSize, offset⟩

/-- How many records to fetch. -/
def fetchSize (w : Window) : Nat := w.limit + 1

/-- The page among the records fetched. If there are more than fit, the next page begins after this one, unless
that is beyond the largest offset. -/
def page {α : Type} (w : Window) (records : List α) : Except Refusal (Page α) :=
  if records.length ≤ w.limit then .ok ⟨records, ""⟩
  else if w.offset + w.limit ≤ maxOffset then
    .ok ⟨records.take w.limit, printToken (w.offset + w.limit : Nat)⟩
  else .error .tokenOutOfRange

end Window
end ProfileGateway
