import ProfileGateway.Json.Draft
import ProfileGateway.Uuid
/-!
# Codecs

How the values of a type are written as JSON and read from a draft. A scalar of another kind is refused once it
has been read, a list or an object at its bracket.
-/
namespace ProfileGateway.Json

structure Codec (α : Type) where
  write : α → Json
  read : Draft → Except ReadError α

namespace Codec

/-- The refusal of a value that is not of the kind wanted. -/
def mismatch (want : String) : Draft → ReadError
  | .null => .invalidType .null want
  | .bool b => .invalidType (.bool b) want
  | .number l =>
    match l.number? with
    | none => .fault .malformed
    | some n => .invalidType (.number n) want
  | .string none => .fault .malformed
  | .string (some s) => .invalidType (.string s) want
  | .array _ _ => .invalidType .sequence want
  | .object _ _ => .invalidType .map want
  | .flawed f => .fault f.reading

/-! ## Scalars -/

def string : Codec String where
  write s := .string s
  read
    | .string (some s) => .ok s
    | d => .error (mismatch "a string" d)

def bool : Codec Bool where
  write b := .bool b
  read
    | .bool b => .ok b
    | d => .error (mismatch "a boolean" d)

/-- Integers from `low` to `high`, under the name of their type. -/
def integer {α : Type} (want : String) (low high : Int) (toInt : α → Int) (ofInt : Int → α) : Codec α where
  write a := .ofInt (toInt a)
  read
    | .number l =>
      match l.number? with
      | some (.int n) => if low ≤ n ∧ n ≤ high then .ok (ofInt n) else .error (.invalidValue n want)
      | _ => .error (mismatch want (.number l))
    | d => .error (mismatch want d)

def int32 : Codec Int32 := integer "i32" (-0x80000000) 0x7fffffff Int32.toInt Int32.ofInt

def int64 : Codec Int64 := integer "i64" (-0x8000000000000000) 0x7fffffffffffffff Int64.toInt Int64.ofInt

def uint32 : Codec UInt32 := integer "u32" 0 0xffffffff (fun n => n.toNat) (fun n => .ofNat n.toNat)

def uint64 : Codec UInt64 := integer "u64" 0 0xffffffffffffffff (fun n => n.toNat) (fun n => .ofNat n.toNat)

def uuid : Codec Uuid where
  write u := .string u.print
  read
    | .string (some s) =>
      match Uuid.parse? s with
      | some u => .ok u
      | none => .error .badUuid
    | d => .error (mismatch "a formatted UUID string" d)

/-! ## Options and lists -/

def option {α : Type} (c : Codec α) : Codec (Option α) where
  write := Json.ofOption c.write
  read
    | .null => .ok none
    | d => (c.read d).map some

/-- The fault of an ending that is not the closing bracket. -/
def checkEnding (e : Ending) : Except ReadError Unit :=
  match e.reading? with
  | none => .ok ()
  | some f => .error (.fault f)

def readItems {α : Type} (c : Codec α) (ending : Ending) : List Draft → Except ReadError (List α)
  | [] => (checkEnding ending).map fun _ => []
  | d :: ds => do
    let a ← c.read d
    let as ← readItems c ending ds
    return a :: as

def list {α : Type} (c : Codec α) : Codec (List α) where
  write as := .array (as.map c.write)
  read
    | .array items ending => readItems c ending items
    | d => .error (mismatch "a sequence" d)

/-! ## Choices between names -/

/-- A value among those that have a name; also read from an object whose one member has the name and a null. A
name is a string, so anything else after the brace is a fault of the text. -/
def choice {α : Type} (all : List α) (name : α → String) : Codec α where
  write a := .string (name a)
  read d :=
    let find (s : String) : Except ReadError α :=
      match all.find? fun a => name a = s with
      | some a => .ok a
      | none => .error (.unknownVariant s (all.map name))
    match d with
    | .string (some s) => find s
    | .object ((some k, v) :: rest) ending => do
      let a ← find k
      match v, rest, ending with
      | .null, [], .closed => return a
      | .null, [], .unclosed f => .error (.fault f.reading)
      | .null, _, _ => .error (.fault .malformed)
      | v, _, _ => .error (mismatch "unit" v)
    | .object [] ending => .error (.fault (ending.reading?.getD .malformed))
    | .flawed .missing => .error (.fault .endOfInput)
    | .flawed (.brokenString reading skipping) => .error (.fault (Flaw.brokenString reading skipping).reading)
    | _ => .error (.fault .malformed)

/-! ## Whole inputs -/

/-- Reads a text that holds one value. In a text a list that is too long for a record is malformed. -/
def ofText {α : Type} (c : Codec α) (s : String) : Except ReadError α :=
  let d := Document.ofText s
  match c.read d.value with
  | .ok a => if d.trailing then .error (.fault .malformed) else .ok a
  | .error (.longRecord _) => .error (.fault .malformed)
  | .error e => .error e

/-- Reads a value, with the members of its objects in order of their names. -/
def ofValue {α : Type} (c : Codec α) (j : Json) : Except ReadError α := c.read (.ofJson j.sorted)

def toText {α : Type} (c : Codec α) (a : α) : String := (c.write a).render

end Codec
end ProfileGateway.Json
