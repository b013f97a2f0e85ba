import ProfileGateway.Json.Literal
import ProfileGateway.Text.Quoted
/-!
# What can be wrong with a JSON input

Causes for refusing an input, from a text that breaks off to a value that does not fit its field, and their
wording.
-/
namespace ProfileGateway.Json

/-- How a text fails to be JSON. -/
inductive Fault
  | endOfInput
  | malformed
deriving DecidableEq, Repr

/-- What stands in the input in place of what was wanted. -/
inductive Found
  | null
  | bool (b : Bool)
  | number (n : Number)
  | string (s : String)
  | sequence
  | map
deriving DecidableEq, Repr

inductive ReadError
  | fault (f : Fault)
  | invalidType (found : Found) (want : String)
  | invalidValue (n : Int) (want : String)
  | unknownField (name : String) (known : List String)
  | unknownVariant (name : String) (known : List String)
  | duplicateField (name : String)
  | missingField (name : String)
  /-- A list of `length` values given for a record that has `count` fields. -/
  | shortRecord (length : Nat) (record : String) (count : Nat)
  | longRecord (length : Nat)
  | badUuid
deriving DecidableEq, Repr

def tick : String := "\x60"

def ticked (s : String) : String := tick ++ s ++ tick

def Found.render : Found → String
  | null => "null"
  | bool b => "boolean " ++ ticked (if b then "true" else "false")
  | number (.int n) => "integer " ++ ticked (Decimal.signedText n)
  | number (.float x) => "floating point " ++ ticked (String.ofList (floatLayout.render x))
  | string s => "string " ++ Text.quoted s
  | sequence => "sequence"
  | map => "map"

def oneOf (names : List String) : String := "expected one of " ++ ", ".intercalate (names.map ticked)

def ReadError.message : ReadError → String
  | fault .endOfInput => "unexpected end of input"
  | fault .malformed => "syntax error"
  | invalidType found want => "invalid type: " ++ found.render ++ ", expected " ++ want
  | invalidValue n want => "invalid value: " ++ (Found.number (.int n)).render ++ ", expected " ++ want
  | unknownField name known => "unknown field " ++ ticked name ++ ", " ++ oneOf known
  | unknownVariant name known => "unknown variant " ++ ticked name ++ ", " ++ oneOf known
  | duplicateField name => "duplicate field " ++ ticked name
  | missingField name => "missing field " ++ ticked name
  | shortRecord length record count =>
    "invalid length " ++ Decimal.text length ++ ", expected struct " ++ record ++ " with " ++ Decimal.text count ++
      (if count = 1 then " element" else " elements")
  | longRecord length => "invalid length " ++ Decimal.text length ++ ", expected fewer elements in array"
  | badUuid => "UUID parsing failed"

end ProfileGateway.Json
