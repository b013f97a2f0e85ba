import ProfileGateway.Base64
import ProfileGateway.Json.Draft
import ProfileGateway.Text.Blank
/-!
# Identity claims

An identity token is a JSON object of claims in Base64, in one of three schemes. The subject is the first claim
among `sub`, `user_id` and `uid` that is a text other than blanks, or a number.
-/
namespace ProfileGateway.Claims

open Base64

/-- The schemes that a token may use, in the order in which they are tried. -/
def schemes : List Scheme := [⟨.urlSafe, false⟩, ⟨.urlSafe, true⟩, ⟨.standard, true⟩]

/-- The claims that may name the subject, the strongest first. -/
def subjectNames : List String := ["sub", "user_id", "uid"]

/-- The deepest nesting of claims, their object included. -/
def maxDepth : Nat := 127

/-- The text of a claim that can be a subject. -/
def subject? : Json → Option String
  | .string s => Text.trimmed? s
  | .number l => l.number?.map fun n => String.ofList n.render
  | _ => none

/-- The members of a claims object. -/
def ofText? (s : String) : Option (List (String × Json)) :=
  match Json.ofText? s with
  | some (.object members) => if (Json.object members).depth ≤ maxDepth then some members else none
  | _ => none

/-- The subject of claims; the last of several claims of one name counts. -/
def subjectOf? (members : List (String × Json)) : Option String :=
  subjectNames.findSome? fun name => (Json.member? members name).bind subject?

/-- The bytes of a token, by the first scheme that it fits. -/
def tokenBytes? (token : String) : Option (List UInt8) :=
  schemes.findSome? fun scheme => scheme.decode? token.toList

/-- The text that bytes encode, if they are well-formed. -/
def textOf? (bytes : List UInt8) : Option String :=
  (ByteArray.mk bytes.toArray).utf8Decode?.map fun cs => String.ofList cs.toList

/-- The subject that a token names. -/
def subjectOfToken? (token : String) : Option String := do
  let bytes ← tokenBytes? token
  let text ← textOf? bytes
  let members ← ofText? text
  subjectOf? members

end ProfileGateway.Claims
