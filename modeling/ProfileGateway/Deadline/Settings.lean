import ProfileGateway.Deadline.Timeout
import ProfileGateway.Json.Record
import ProfileGateway.Text.Blank
/-!
# Settings

The timeouts of each kind in milliseconds, each of them optional, from a JSON text or from named variables. The
two sources read numbers by rules of their own.
-/
namespace ProfileGateway

structure Settings where
  commandTimeout : Option UInt64
  queryTimeout : Option UInt64
  defaultTimeout : Option UInt64
deriving DecidableEq, Repr

namespace Settings

/-- Why settings cannot be loaded. -/
inductive LoadError
  | malformed (e : Json.ReadError)
  | notANumber (name value : String)
deriving DecidableEq, Repr

namespace LoadError

/-- The name of the kind of error. -/
def kindName : LoadError → String
  | malformed _ => "Malformed"
  | notANumber _ _ => "InvalidValue"

def message : LoadError → String
  | malformed e => "Malformed configuration: " ++ e.message
  | notANumber name value =>
    "Invalid configuration value: " ++ name ++ " must be a non-negative integer, got " ++ Text.quoted value

end LoadError

/-- The timeouts that follow from the settings. -/
def timeouts (c : Settings) : TimeoutPolicy :=
  let millis (n : Option UInt64) := n.map fun n => Duration.ofMillis n.toNat
  .ofConfigured (millis c.commandTimeout) (millis c.queryTimeout) (millis c.defaultTimeout)

/-! ## From a JSON text -/

def fields : Json.Fields (Option UInt64 × Option UInt64 × Option UInt64 × Unit) :=
  .optional "command_timeout_ms" .uint64 <| .optional "query_timeout_ms" .uint64 <|
    .optional "default_timeout_ms" .uint64 .done

/-- Members other than the three timeouts are refused. -/
def codec : Json.Codec Settings :=
  .record ⟨"BoundaryConfig", true, true⟩ fields
    (fun (command, query, default, _) => ⟨command, query, default⟩)
    (fun c => (c.commandTimeout, c.queryTimeout, c.defaultTimeout, ()))

def ofJson (s : String) : Except LoadError Settings :=
  match codec.ofText s with
  | .ok c => .ok c
  | .error e => .error (.malformed e)

/-! ## From variables -/

def commandVariable : String := "CATALOG_COMMAND_TIMEOUT_MS"

def queryVariable : String := "CATALOG_QUERY_TIMEOUT_MS"

def defaultVariable : String := "CATALOG_DEFAULT_TIMEOUT_MS"

/-- Digits after at most one plus sign, if their value fits 64 bits. -/
def millis? (cs : List Char) : Option UInt64 :=
  let digits := if cs.head? = some '+' then cs.drop 1 else cs
  if Decimal.isDigits digits ∧ Decimal.value digits < UInt64.size then some (.ofNat (Decimal.value digits)) else none

/-- A variable's value; blank is the same as not set. -/
def readVariable (name : String) (value : Option String) : Except LoadError (Option UInt64) :=
  match value with
  | none => .ok none
  | some raw =>
    if Text.blank raw then .ok none
    else
      match millis? (Text.trimChars raw.toList) with
      | some n => .ok (some n)
      | none => .error (.notANumber name raw)

def ofVariables (lookup : String → Option String) : Except LoadError Settings := do
  let command ← readVariable commandVariable (lookup commandVariable)
  let query ← readVariable queryVariable (lookup queryVariable)
  let default ← readVariable defaultVariable (lookup defaultVariable)
  return ⟨command, query, default⟩

end Settings
end ProfileGateway
