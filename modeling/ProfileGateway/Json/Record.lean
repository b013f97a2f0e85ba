import ProfileGateway.Json.Codec
/-!
# Records

Records are written as objects with all their fields in order of declaration. They are read from an object in any
order of members, or from the list of their fields in order. The first problem in the order of the input is
reported; a field that is missing shows only at the end of the object.
-/
namespace ProfileGateway.Json

/-- What a reader of a record insists on. -/
structure RecordRules where
  name : String
  /-- A list may be shorter than the record. -/
  lenient : Bool
  /-- Members of unknown names are refused, not passed over. -/
  exact : Bool

/-- The fields of a record in order, with the value that stands for a member left out. -/
inductive Fields : Type → Type 1
  | done : Fields Unit
  | field {α β : Type} (name : String) (codec : Codec α) (absent : Option α) (rest : Fields β) : Fields (α × β)

/-- A member's draft, by name. -/
def draftOf? (name : String) : List (Option String × Draft) → Option Draft
  | [] => none
  | m :: ms => if m.1 = some name then some m.2 else draftOf? name ms

namespace Fields

def names : {τ : Type} → Fields τ → List String
  | _, .done => []
  | _, .field name _ _ rest => name :: rest.names

def write : {τ : Type} → Fields τ → τ → List (String × Json)
  | _, .done, _ => []
  | _, .field name codec _ rest, v => (name, codec.write v.1) :: rest.write v.2

/-- The problem that a draft is for the field of a name, if there is such a field. -/
def problem? : {τ : Type} → Fields τ → String → Draft → Option ReadError
  | _, .done, _, _ => none
  | _, .field name codec _ rest, k, d =>
    if k = name then
      match codec.read d with
      | .ok _ => none
      | .error e => some e
    else rest.problem? k d

/-- Goes through the members in order; `seen` holds the names of the fields that have come. -/
def checkMembers {τ : Type} (rules : RecordRules) (fs : Fields τ) (seen : List String) :
    List (Option String × Draft) → Except ReadError Unit
  | [] => .ok ()
  | (none, _) :: _ => .error (.fault .malformed)
  | (some k, d) :: ms =>
    if k ∈ fs.names then
      if k ∈ seen then .error (.duplicateField k)
      else
        match fs.problem? k d with
        | some e => .error e
        | none => fs.checkMembers rules (k :: seen) ms
    else if rules.exact then .error (.unknownField k fs.names)
    else
      match d.skipping? with
      | some f => .error (.fault f)
      | none => fs.checkMembers rules seen ms

/-- The fields in order, each from the member of its name. -/
def ofMembers : {τ : Type} → Fields τ → List (Option String × Draft) → Except ReadError τ
  | _, .done, _ => .ok ()
  | _, .field name codec absent rest, ms => do
    let a ← match draftOf? name ms, absent with
      | some d, _ => codec.read d
      | none, some a => .ok a
      | none, none => .error (.missingField name)
    let b ← rest.ofMembers ms
    return (a, b)

/-- The fields in order, each from the next item; `count` items have come before. -/
def ofItems (rules : RecordRules) (total : Nat) (ending : Ending) :
    {τ : Type} → Fields τ → Nat → List Draft → Except ReadError τ
  | _, .done, _, [] => Codec.checkEnding ending
  | _, .done, count, d :: ds => .error (.longRecord (count + (d :: ds).length))
  | _, .field _ codec _ rest, count, d :: ds => do
    let a ← codec.read d
    let b ← rest.ofItems rules total ending (count + 1) ds
    return (a, b)
  | _, .field _ _ absent rest, count, [] => do
    Codec.checkEnding ending
    match rules.lenient, absent with
    | true, some a => do
      let b ← rest.ofItems rules total ending count []
      return (a, b)
    | _, _ => .error (.shortRecord count rules.name total)

def read {τ : Type} (rules : RecordRules) (fs : Fields τ) : Draft → Except ReadError τ
  | .object members ending => do
    fs.checkMembers rules [] members
    Codec.checkEnding ending
    fs.ofMembers members
  | .array items ending => fs.ofItems rules fs.names.length ending 0 items
  | d => .error (Codec.mismatch ("struct " ++ rules.name) d)

end Fields

/-- A record given by its fields and the two ways between them and the record. -/
def Codec.record {α τ : Type} (rules : RecordRules) (fs : Fields τ) (make : τ → α) (parts : α → τ) : Codec α where
  write a := .object (fs.write (parts a))
  read d := (fs.read rules d).map make

/-- A record all of whose fields must be given, options apart. -/
def RecordRules.strict (name : String) : RecordRules := ⟨name, false, false⟩

/-- A record whose fields all have defaults. -/
def RecordRules.defaulted (name : String) : RecordRules := ⟨name, true, false⟩

namespace Fields

variable {α β : Type}

/-- A field that must be given. -/
def required (name : String) (codec : Codec α) (rest : Fields β) : Fields (α × β) := .field name codec none rest

/-- A field that is empty when left out. -/
def optional (name : String) (codec : Codec α) (rest : Fields β) : Fields (Option α × β) :=
  .field name codec.option (some none) rest

/-- A field with a default. -/
def defaulting (name : String) (codec : Codec α) (default : α) (rest : Fields β) : Fields (α × β) :=
  .field name codec (some default) rest

end Fields
end ProfileGateway.Json
