import ProfileGateway.Caller.Metadata
import ProfileGateway.Outcome.Failure
/-!
# Preconditions of writes

A write may expect a version, given in the request or as an entity tag in `If-Match`. Versions are written as
quoted tags and read from tags that are bare, quoted or weak.
-/
namespace ProfileGateway

namespace Etag

/-- The tag of a version. -/
def ofVersion (v : Int64) : String := String.ofList ('"' :: Decimal.signedNumeral v.toInt ++ ['"'])

/-- What follows the mark of a weak tag, or all of a tag without one. -/
def dropWeak (cs : List Char) : List Char := if cs.take 2 = ['W', '/'] then cs.drop 2 else cs

/-- What stands between a pair of quotes, or all of a tag that is not in quotes. -/
def dropQuotes (cs : List Char) : List Char :=
  if 2 ≤ cs.length ∧ cs.head? = some '"' ∧ cs.getLast? = some '"' then (cs.drop 1).dropLast else cs

/-- The version that a tag names; nothing for `*`, which matches any version. -/
def parse (raw : String) : Except Refusal (Option Int64) :=
  let tag := Text.trimChars raw.toList
  if tag = ['*'] then .ok none
  else
    let digits := dropQuotes (dropWeak tag)
    if Decimal.isDigits digits ∧ Decimal.value digits < 0x8000000000000000 then
      .ok (some (.ofNat (Decimal.value digits)))
    else .error (.malformedIfMatch (String.ofList tag))

end Etag

/-- The version that a write expects, if any. -/
structure Precondition where
  expectedVersion : Option Int64
deriving DecidableEq, Repr

namespace Precondition

/-- Any version will do. -/
def any : Precondition := ⟨none⟩

def exactly (v : Int64) : Precondition := ⟨some v⟩

def isAny (p : Precondition) : Bool := p.expectedVersion.isNone

/-- The precondition of a request: a version of its own wins over `If-Match`. -/
def ofRequest (expectedVersion : Option Int64) (metadata : Option Metadata) : Except Refusal Precondition :=
  match expectedVersion with
  | some v => if v < 0 then .error .negativeVersion else .ok (.exactly v)
  | none =>
    match metadata.bind Metadata.ifMatch with
    | some tag => (Etag.parse tag).map Precondition.mk
    | none => .ok .any

/-- The failure of a write onto a stored version that is not the one expected. -/
def check (p : Precondition) (stored : Int64) : Except Failure Unit :=
  match p.expectedVersion with
  | some v => if v = stored then .ok () else .error (.versionConflict v stored)
  | none => .ok ()

end Precondition
end ProfileGateway
