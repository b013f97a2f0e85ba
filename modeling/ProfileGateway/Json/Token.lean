import ProfileGateway.Json.ReadError
/-!
# Tokens of a JSON text

A text is cut into marks, words, numbers and strings, up to the first place where that is impossible. What is
wrong there can depend on whether the value is read or only passed over, so a broken token keeps both answers;
a string with an unpaired surrogate can be passed over but not read.
-/
namespace ProfileGateway.Json

/-- Why no value can be read at a place. -/
inductive Flaw
  /-- The input ends. -/
  | missing
  /-- Something stands there that begins no value, or a mark is left out. -/
  | stray
  /-- A word or number breaks off. -/
  | broken (reading skipping : Fault)
  | brokenString (reading skipping : Fault)
deriving DecidableEq, Repr

namespace Flaw

/-- The fault met by reading the value. -/
def reading : Flaw → Fault
  | missing => .endOfInput
  | stray => .malformed
  | broken r _ => r
  | brokenString r _ => r

/-- The fault met by passing over the value. -/
def skipping : Flaw → Fault
  | missing => .endOfInput
  | stray => .malformed
  | broken _ s => s
  | brokenString _ s => s

end Flaw

inductive Mark
  | openBrace
  | closeBrace
  | openBracket
  | closeBracket
  | colon
  | comma
deriving DecidableEq, Repr

inductive Token
  | mark (m : Mark)
  | null
  | bool (b : Bool)
  | number (l : Literal)
  /-- A string, without its text if that holds an unpaired surrogate. -/
  | string (text : Option String)
  | flawed (f : Flaw)
deriving DecidableEq, Repr

/-- Insignificant whitespace. -/
def isSpace (c : Char) : Bool := c = ' ' || c = '\t' || c = '\n' || c = '\r'

def mark? : Char → Option Mark
  | '\x7b' => some .openBrace
  | '\x7d' => some .closeBrace
  | '[' => some .openBracket
  | ']' => some .closeBracket
  | ':' => some .colon
  | ',' => some .comma
  | _ => none

/-- A token and what follows it; nothing follows a flaw. -/
abbrev Scanned := Token × List Char

/-! ## Words -/

def scanWord (token : Token) : List Char → List Char → Scanned
  | [], cs => (token, cs)
  | _ :: _, [] => (.flawed (.broken .endOfInput .endOfInput), [])
  | w :: ws, c :: cs => if c = w then scanWord token ws cs else (.flawed (.broken .malformed .malformed), [])

/-! ## Numbers -/

/-- The digits at the front, and what follows them. -/
def splitDigits (cs : List Char) : List Char × List Char := (cs.takeWhile Char.isDigit, cs.dropWhile Char.isDigit)

/-- A digit is wanted: an end of input there is malformed when the number is only passed over. -/
def noDigit (rest : List Char) : Scanned :=
  (.flawed (.broken (if rest.isEmpty then .endOfInput else .malformed) .malformed), [])

def digitOf (c : Char) : Fin 10 := Fin.ofNat 10 (c.toNat - 48)

def scanExponent (negative : Bool) (whole : Nat) (fraction : List (Fin 10)) (cs : List Char) : Scanned :=
  let plain : Scanned := (.number ⟨negative, whole, fraction, none⟩, cs)
  match cs with
  | c :: r =>
    if c = 'e' ∨ c = 'E' then
      let down := r.head? = some '-'
      let (ds, rest) := splitDigits (if down ∨ r.head? = some '+' then r.drop 1 else r)
      if ds.isEmpty then noDigit rest
      else
        let e : Int := Decimal.value ds
        (.number ⟨negative, whole, fraction, some (if down then -e else e)⟩, rest)
    else plain
  | [] => plain

def scanFraction (negative : Bool) (whole : Nat) (cs : List Char) : Scanned :=
  match cs with
  | '.' :: r =>
    let (ds, rest) := splitDigits r
    if ds.isEmpty then noDigit rest else scanExponent negative whole (ds.map digitOf) rest
  | _ => scanExponent negative whole [] cs

/-- A number after its sign. A zero is no leading digit of a longer whole part. -/
def scanNumber (negative : Bool) (cs : List Char) : Scanned :=
  let (ds, rest) := splitDigits cs
  if ds.isEmpty then noDigit rest
  else if ds.head? = some '0' ∧ 1 < ds.length then (.flawed (.broken .malformed .malformed), [])
  else scanFraction negative (Decimal.value ds) rest

/-! ## Strings -/

/-- The text of a string so far, in reverse: nothing once it can no longer be read. A leading surrogate waits for
its second half. -/
structure Partway where
  text : Option (List Char)
  pending : Option Nat

namespace Partway

def start : Partway := ⟨some [], none⟩

/-- Adds a character; a surrogate that waits has missed its second half. -/
def push (p : Partway) (c : Char) : Partway :=
  if p.pending.isSome then ⟨none, none⟩ else ⟨p.text.map (c :: ·), none⟩

def isLeading (n : Nat) : Bool := 0xD800 ≤ n && n < 0xDC00

def isTrailing (n : Nat) : Bool := 0xDC00 ≤ n && n < 0xE000

/-- Adds the code unit of an escape. -/
def pushUnit (p : Partway) (n : Nat) : Partway :=
  match p.pending with
  | some lead =>
    if isTrailing n then
      ⟨p.text.map (Char.ofNat (0x10000 + (lead - 0xD800) * 0x400 + (n - 0xDC00)) :: ·), none⟩
    else ⟨none, none⟩
  | none =>
    if isLeading n then ⟨p.text, some n⟩
    else if isTrailing n then ⟨none, none⟩
    else ⟨p.text.map (Char.ofNat n :: ·), none⟩

/-- The whole text at the closing quote. -/
def finish (p : Partway) : Option String :=
  if p.pending.isSome then none else p.text.map fun cs => String.ofList cs.reverse

/-- The string breaks off: reading it may have failed before. -/
def breakOff (p : Partway) (f : Fault) : Scanned :=
  (.flawed (.brokenString (if p.text.isNone then .malformed else f) f), [])

end Partway

/-- The code unit of an escape's four digits. -/
def unit? (a b c d : Char) : Option Nat := Text.hexNumber? 0 [a, b, c, d]

/-- The character that a one-letter escape stands for. -/
def unescape? : Char → Option Char
  | '"' => some '"'
  | '\\' => some '\\'
  | '/' => some '/'
  | 'b' => some '\x08'
  | 'f' => some '\x0c'
  | 'n' => some '\n'
  | 'r' => some '\r'
  | 't' => some '\t'
  | _ => none

def utf8Length (cs : List Char) : Nat := cs.foldl (fun n c => n + c.utf8Size) 0

/-- Fewer than four characters are left for an escape of four digits. Four bytes would do to be malformed. -/
def noUnit (rest : List Char) : Fault := if utf8Length rest < 4 then .endOfInput else .malformed

/-- A string after its opening quote. -/
def scanString (p : Partway) : List Char → Scanned
  | [] => p.breakOff .endOfInput
  | '"' :: r => (.string p.finish, r)
  | '\\' :: 'u' :: a :: b :: c :: d :: r =>
    match unit? a b c d with
    | some n => scanString (p.pushUnit n) r
    | none => p.breakOff .malformed
  | '\\' :: 'u' :: r => p.breakOff (noUnit r)
  | '\\' :: c :: r =>
    match unescape? c with
    | some c => scanString (p.push c) r
    | none => p.breakOff .malformed
  | ['\\'] => p.breakOff .endOfInput
  | c :: r => if c.toNat < 0x20 then p.breakOff .malformed else scanString (p.push c) r

/-! ## Texts -/

/-- The token that begins with `c`. -/
def scan (c : Char) (r : List Char) : Scanned :=
  match mark? c with
  | some m => (.mark m, r)
  | none =>
    match c with
    | '"' => scanString .start r
    | 'n' => scanWord .null "ull".toList r
    | 't' => scanWord (.bool true) "rue".toList r
    | 'f' => scanWord (.bool false) "alse".toList r
    | '-' => scanNumber true r
    | c => if c.isDigit then scanNumber false (c :: r) else (.flawed .stray, [])

/-- The tokens of at most `fuel` characters. -/
def tokensWithin : Nat → List Char → List Token
  | 0, _ => []
  | fuel + 1, cs =>
    match cs.dropWhile isSpace with
    | [] => []
    | c :: r =>
      let (token, rest) := scan c r
      token :: tokensWithin fuel rest

/-- The tokens of a text, up to the first flaw. -/
def tokens (cs : List Char) : List Token := tokensWithin cs.length cs

end ProfileGateway.Json
