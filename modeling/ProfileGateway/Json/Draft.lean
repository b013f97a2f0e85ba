import ProfileGateway.Json.Basic
import ProfileGateway.Json.Token
/-!
# Drafts

What a text says as a JSON value, as far as it can be read: a flaw in the text is a leaf of the value. A reader
that goes through a draft in order meets the first problem of the text first, be it a flaw or a value that does
not fit.
-/
namespace ProfileGateway.Json

/-- How a list or an object ends. -/
inductive Ending
  | closed
  /-- Neither a comma nor the closing bracket follows. -/
  | unclosed (f : Flaw)
  /-- No name follows the opening brace or a comma, but this token or the end of the input. -/
  | unnamed (t : Option Token)
deriving DecidableEq, Repr

inductive Draft
  | null
  | bool (b : Bool)
  | number (l : Literal)
  | string (text : Option String)
  | array (items : List Draft) (ending : Ending)
  | object (members : List (Option String × Draft)) (ending : Ending)
  | flawed (f : Flaw)
deriving Repr, Inhabited

namespace Ending

/-- The flaw at the end, if it is not the closing bracket. -/
def flaw? : Ending → Option Flaw
  | closed => none
  | unclosed f => some f
  | unnamed none => some .missing
  | unnamed (some (.flawed (.brokenString r s))) => some (.brokenString r s)
  | unnamed (some _) => some .stray

def reading? (e : Ending) : Option Fault := e.flaw?.map Flaw.reading

def skipping? (e : Ending) : Option Fault := e.flaw?.map Flaw.skipping

/-- The ending at tokens that should begin with a comma or a closing bracket. -/
def neither : List Token → Ending
  | [] => .unclosed .missing
  | _ :: _ => .unclosed .stray

end Ending

/-! ## From tokens -/

mutual

/-- The value at the front of the tokens, and the tokens after it. Nothing follows a flaw. -/
def draft : Nat → List Token → Draft × List Token
  | 0, _ => (.flawed .missing, [])
  | fuel + 1, ts =>
    match ts with
    | [] => (.flawed .missing, [])
    | .null :: r => (.null, r)
    | .bool b :: r => (.bool b, r)
    | .number l :: r => (.number l, r)
    | .string s :: r => (.string s, r)
    | .flawed f :: _ => (.flawed f, [])
    | .mark .openBracket :: .mark .closeBracket :: r => (.array [] .closed, r)
    | .mark .openBracket :: r =>
      let (items, ending, rest) := draftItems fuel r
      (.array items ending, rest)
    | .mark .openBrace :: .mark .closeBrace :: r => (.object [] .closed, r)
    | .mark .openBrace :: r =>
      let (members, ending, rest) := draftMembers fuel r
      (.object members ending, rest)
    | .mark _ :: _ => (.flawed .stray, [])

/-- The items of a list that has at least one. -/
def draftItems : Nat → List Token → List Draft × Ending × List Token
  | 0, _ => ([], .unclosed .missing, [])
  | fuel + 1, ts =>
    let (v, rest) := draft fuel ts
    match rest with
    | .mark .comma :: r =>
      let (vs, ending, rest) := draftItems fuel r
      (v :: vs, ending, rest)
    | .mark .closeBracket :: r => ([v], .closed, r)
    | ts => ([v], .neither ts, [])

/-- The members of an object that has at least one. -/
def draftMembers : Nat → List Token → List (Option String × Draft) × Ending × List Token
  | 0, _ => ([], .unclosed .missing, [])
  | fuel + 1, ts =>
    match ts with
    | .string k :: .mark .colon :: r =>
      let (v, rest) := draft fuel r
      match rest with
      | .mark .comma :: r =>
        let (ms, ending, rest) := draftMembers fuel r
        ((k, v) :: ms, ending, rest)
      | .mark .closeBrace :: r => ([(k, v)], .closed, r)
      | ts => ([(k, v)], .neither ts, [])
    | [.string k] => ([(k, .flawed .missing)], .closed, [])
    | .string k :: _ => ([(k, .flawed .stray)], .closed, [])
    | ts => ([], .unnamed ts.head?, [])

end

/-- A value takes two steps for each of its tokens at most. -/
def draftSteps (ts : List Token) : Nat := 2 * ts.length + 2

/-- A whole text: its value, and whether anything follows that. -/
structure Document where
  value : Draft
  trailing : Bool

def Document.ofText (s : String) : Document :=
  let ts := tokens s.toList
  let (v, rest) := draft (draftSteps ts) ts
  ⟨v, !rest.isEmpty⟩

namespace Draft

/-! ## Passing over a value -/

mutual

/-- The first fault of a value that is only passed over. -/
def skipping? : Draft → Option Fault
  | .array items ending => (skippingItems? items).or ending.skipping?
  | .object members ending => (skippingMembers? members).or ending.skipping?
  | .flawed f => some f.skipping
  | _ => none

def skippingItems? : List Draft → Option Fault
  | [] => none
  | v :: vs => v.skipping?.or (skippingItems? vs)

def skippingMembers? : List (Option String × Draft) → Option Fault
  | [] => none
  | (_, v) :: ms => v.skipping?.or (skippingMembers? ms)

end

/-! ## Drafts without flaws -/

mutual

def ofJson : Json → Draft
  | .null => .null
  | .bool b => .bool b
  | .number l => .number l
  | .string s => .string (some s)
  | .array items => .array (ofItems items) .closed
  | .object members => .object (ofMembers members) .closed

def ofItems : List Json → List Draft
  | [] => []
  | v :: vs => ofJson v :: ofItems vs

def ofMembers : List (String × Json) → List (Option String × Draft)
  | [] => []
  | (k, v) :: ms => (some k, ofJson v) :: ofMembers ms

end

mutual

/-- The value of a draft without flaws whose strings and numbers can all be read. -/
def toJson? : Draft → Option Json
  | .null => some .null
  | .bool b => some (.bool b)
  | .number l => if l.number?.isSome then some (.number l) else none
  | .string s => s.map .string
  | .array items ending => if ending = .closed then (toItems? items).map .array else none
  | .object members ending => if ending = .closed then (toMembers? members).map .object else none
  | .flawed _ => none

def toItems? : List Draft → Option (List Json)
  | [] => some []
  | v :: vs => (toJson? v).bind fun j => (toItems? vs).map (j :: ·)

def toMembers? : List (Option String × Draft) → Option (List (String × Json))
  | [] => some []
  | (k, v) :: ms =>
    match k, toJson? v with
    | some k, some j => (toMembers? ms).map ((k, j) :: ·)
    | _, _ => none

end

end Draft

/-- The value of a text that is one readable JSON value and nothing else. -/
def ofText? (s : String) : Option Json :=
  let d := Document.ofText s
  if d.trailing then none else d.value.toJson?

end ProfileGateway.Json
