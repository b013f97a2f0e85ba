import Mathlib.Data.List.Basic
import Mathlib.Logic.Relation
import ProfileGateway.Proofs.Caller.Tokens
import ProfileGateway.Proofs.Json.NumberText
import ProfileGateway.Proofs.Json.Reading
/-!
# The subject of a token

Which of the claims of a token is its subject, and what may change in the claims without changing it
(`Claims.subject_selection`). Claims are written as a JSON text in any spelling, and the text as a token in any scheme.
-/
namespace ProfileGateway.Claims

open Base64 Json

variable {text : String} {members members' : List (String × Json)} {name : String} {value : Json} {subject : String}

/-! ## Tokens of texts -/

/-- The bytes of a text in UTF-8. -/
def bytesOf (text : String) : List UInt8 := text.toByteArray.data.toList

/-- Bytes are a text exactly if they are its bytes. -/
theorem textOf?_eq_some {bytes : List UInt8} : textOf? bytes = some text ↔ bytes = bytesOf text := by
  unfold textOf? bytesOf
  constructor
  · intro decoded
    obtain ⟨cs, valid, rfl⟩ := Option.map_eq_some_iff.1 decoded
    have whole := ByteArray.utf8Encode_get_utf8Decode? (h := Option.isSome_of_eq_some valid)
    simp only [valid, Option.get_some] at whole
    rw [String.toByteArray_ofList, whole]
  · rintro rfl
    have same : ByteArray.mk text.toByteArray.data.toList.toArray = text.toList.utf8Encode :=
      String.utf8Encode_toList.symm
    rw [same, List.utf8Decode?_utf8Encode, Option.map_some, List.toList_toArray, String.ofList_toList]

/-- The token is the text in one of the schemes. -/
def Carries (token text : String) : Prop := ∃ s ∈ schemes, s.decode? token.toList = some (bytesOf text)

/-- The token of a text in a scheme. -/
def encoded (s : Scheme) (text : String) : String := String.ofList (s.encode (bytesOf text))

/-- A text that is encoded in a known scheme is carried. -/
theorem carries_encoded {s : Scheme} (known : s ∈ schemes) (text : String) : Carries (encoded s text) text := by
  refine ⟨s, known, ?_⟩
  rw [encoded, String.toList_ofList, s.decode?_encode]

/-- The subject of a token is that of the text that it carries. -/
theorem Carries.subject_eq {token : String} (carries : Carries token text) :
    subjectOfToken? token = (ofText? text).bind subjectOf? := by
  simp only [subjectOfToken?, tokenBytes?_eq_some.2 carries, textOf?_eq_some.2 rfl, Option.bind_eq_bind,
    Option.bind_some]

/-! ## Claims -/

/-- A text of claims: one JSON object with numbers that can be read, nested no deeper than is allowed. -/
structure ClaimsText (text : String) (members : List (String × Json)) : Prop where
  spells : Spells (.ofJson (.object members)) text
  readable : (Json.object members).Readable
  shallow : (Json.object members).depth ≤ maxDepth

/-- **Claims are accepted** exactly if they are a text of claims. -/
theorem ofText?_eq_some : ofText? text = some members ↔ ClaimsText text members := by
  constructor
  · intro read
    unfold ofText? at read
    split at read
    · next ms value =>
      obtain ⟨spells, readable⟩ := Json.ofText?_eq_some.1 value
      split at read
      · next shallow =>
        cases read
        exact ⟨spells, readable, shallow⟩
      · cases read
    · cases read
  · rintro ⟨spells, readable, shallow⟩
    rw [ofText?, Json.ofText?_eq_some.2 ⟨spells, readable⟩]
    exact if_pos shallow

/-- The value of the last claim of a name, the one that counts. -/
def lastClaim? (members : List (String × Json)) (name : String) : Option Json :=
  (members.filter (·.1 = name)).getLast?.map Prod.snd

/-- The last claim counts if it has the name, and else those before it. -/
theorem lastClaim?_concat (members : List (String × Json)) (m : String × Json) (name : String) :
    lastClaim? (members ++ [m]) name = if m.1 = name then some m.2 else lastClaim? members name := by
  unfold lastClaim?
  rw [List.filter_append]
  by_cases named : m.1 = name <;> simp [named]

/-- Going through the claims in order finds the last one of the name. -/
theorem member?_eq_lastClaim? (members : List (String × Json)) (name : String) :
    Json.member? members name = lastClaim? members name := by
  rw [← List.reverse_reverse members]
  generalize members.reverse = ms
  induction ms with
  | nil => rfl
  | cons m ms ih =>
    rw [List.reverse_cons, lastClaim?_concat, ← ih, Json.member?, List.foldl_append]
    rfl

/-! ## Values -/

/-- A value that names a subject: a text other than blanks, without the blanks around it, or a number. -/
inductive Names : Json → String → Prop
  | text {s : String} (filled : Text.blank s = false) : Names (.string s) (Text.trim s)
  | number {l : Literal} {n : Number} (read : l.number? = some n) : Names (.number l) (String.ofList n.render)

/-- A value that names nobody. -/
inductive Idle : Json → Prop
  | null : Idle .null
  | bool {b : Bool} : Idle (.bool b)
  | array {items : List Json} : Idle (.array items)
  | object {members : List (String × Json)} : Idle (.object members)
  | blank {s : String} (blank : Text.blank s = true) : Idle (.string s)

/-- A claim gives the subject that it names. -/
theorem subject?_eq_some : subject? value = some subject ↔ Names value subject := by
  constructor
  · intro found
    cases value with
    | number l =>
      obtain ⟨n, read, rfl⟩ := Option.map_eq_some_iff.1 found
      exact .number read
    | string s =>
      have found : Text.trimmed? s = some subject := found
      cases blank : Text.blank s with
      | true =>
        rw [Text.trimmed?, if_pos blank] at found
        cases found
      | false =>
        rw [Text.trimmed?_of_filled blank] at found
        cases found
        exact .text blank
    | _ => cases found
  · intro names
    cases names with
    | text filled => exact Text.trimmed?_of_filled filled
    | number read => exact Option.map_eq_some_iff.2 ⟨_, read, rfl⟩

/-- A claim that can be read gives no subject exactly if it names nobody. -/
theorem subject?_eq_none (readable : value.Readable) : subject? value = none ↔ Idle value := by
  constructor
  · intro missing
    cases value with
    | null => exact .null
    | bool b => exact .bool
    | number l =>
      have read : l.number?.isSome := readable
      rw [Option.map_eq_none_iff.1 missing] at read
      cases read
    | string s =>
      refine .blank (of_not_not fun filled => ?_)
      have found : subject? (.string s) = some (Text.trim s) := if_neg filled
      rw [missing] at found
      cases found
    | array items => exact .array
    | object members => exact .object
  · intro idle
    cases idle with
    | blank blank => exact if_pos blank
    | _ => rfl

/-- A subject is neither blank nor has blanks around it. -/
theorem Names.trimmed (names : Names value subject) : Text.trimmed? subject = some subject := by
  cases names with
  | @text s filled =>
    have shown := (Text.trimmed?_eq_some.1 (Text.trimmed?_of_filled filled)).2
    exact Text.trimmed?_eq_some.2 ⟨Text.trim_trim s, shown⟩
  | @number l n read => exact n.trimmed?_render

/-! ## Selection -/

/-- There is no claim of the name, or its value names nobody. -/
def Unused (members : List (String × Json)) (name : String) : Prop :=
  ∀ value, lastClaim? members name = some value → Idle value

/-- The subject is that of the first name whose claim names one. -/
def Selects (members : List (String × Json)) (subject : String) : Prop :=
  ∃ stronger name weaker, subjectNames = stronger ++ name :: weaker ∧
    (∀ other ∈ stronger, Unused members other) ∧ ∃ value, lastClaim? members name = some value ∧ Names value subject

/-- The last claim of a name is one of the claims. -/
theorem mem_of_lastClaim? (found : lastClaim? members name = some value) : (name, value) ∈ members := by
  obtain ⟨m, last, rfl⟩ := Option.map_eq_some_iff.1 found
  obtain ⟨member, named⟩ := List.mem_filter.1 (List.mem_of_getLast? last)
  rwa [← of_decide_eq_true named]

/-- A name gives no subject exactly if it is unused. -/
theorem unused_iff (readable : ∀ m ∈ members, m.2.Readable) :
    (lastClaim? members name).bind subject? = none ↔ Unused members name := by
  rw [Option.bind_eq_none_iff]
  constructor
  · intro each value found
    exact (subject?_eq_none (readable _ (mem_of_lastClaim? found))).1 (each value found)
  · intro unused value found
    exact (subject?_eq_none (readable _ (mem_of_lastClaim? found))).2 (unused value found)

/-- The subject is the first that the names give, the strongest first. -/
theorem subjectOf?_eq_findSome? (members : List (String × Json)) :
    subjectOf? members = subjectNames.findSome? fun name => (lastClaim? members name).bind subject? := by
  simp only [subjectOf?, member?_eq_lastClaim?]

/-- **A subject is found** exactly if the claims select it. -/
theorem subjectOf?_eq_some (readable : ∀ m ∈ members, m.2.Readable) :
    subjectOf? members = some subject ↔ Selects members subject := by
  rw [subjectOf?_eq_findSome?, List.findSome?_eq_some_iff]
  unfold Selects
  simp only [unused_iff readable, Option.bind_eq_some_iff, subject?_eq_some]
  constructor
  · rintro ⟨stronger, name, weaker, names, found, unused⟩
    exact ⟨stronger, name, weaker, names, unused, found⟩
  · rintro ⟨stronger, name, weaker, names, unused, found⟩
    exact ⟨stronger, name, weaker, names, found, unused⟩

/-- No subject is found exactly if all names are unused. -/
theorem subjectOf?_eq_none (readable : ∀ m ∈ members, m.2.Readable) :
    subjectOf? members = none ↔ ∀ name ∈ subjectNames, Unused members name := by
  simp only [subjectOf?_eq_findSome?, List.findSome?_eq_none_iff, unused_iff readable]

/-- The subject depends on the claims that may name it, and on nothing else. -/
theorem subjectOf?_congr (same : ∀ name ∈ subjectNames, lastClaim? members' name = lastClaim? members name) :
    subjectOf? members' = subjectOf? members := by
  rw [subjectOf?_eq_findSome?, subjectOf?_eq_findSome?, ← List.head?_filterMap, ← List.head?_filterMap,
    List.filterMap_congr fun name used => by rw [same name used]]

/-! ## Revisions -/

/-- One change of claims that leaves their subject as it is. -/
inductive Revised : List (String × Json) → List (String × Json) → Prop
  /-- Neighbours with different names change places. -/
  | swap (before after : List (String × Json)) {a b : String × Json} (distinct : a.1 ≠ b.1) :
    Revised (before ++ a :: b :: after) (before ++ b :: a :: after)
  /-- A claim that names no subject comes in, with any value that can be read and is not nested too deeply. -/
  | add (before after : List (String × Json)) {m : String × Json} (other : m.1 ∉ subjectNames)
    (readable : m.2.Readable) (shallow : m.2.depth < maxDepth) : Revised (before ++ after) (before ++ m :: after)
  | remove (before after : List (String × Json)) {m : String × Json} (other : m.1 ∉ subjectNames) :
    Revised (before ++ m :: after) (before ++ after)

/-- Claims in another order, if no two of them have one name. -/
theorem revised_of_perm (distinct : (members.map Prod.fst).Nodup) (perm : members.Perm members') :
    Relation.ReflTransGen Revised members members' := by
  -- Behind any other members, since the induction leaves the first ones of the list in front.
  have within (before : List (String × Json)) :
      Relation.ReflTransGen Revised (before ++ members) (before ++ members') := by
    induction perm generalizing before with
    | nil => exact .refl
    | cons m _ ih =>
      have rest := ih (List.nodup_cons.1 distinct).2 (before ++ [m])
      rwa [List.append_assoc, List.append_assoc] at rest
    | swap a b ms =>
      have other : b.1 ≠ a.1 := by
        intro same
        simp [same] at distinct
      exact .single (.swap before ms other)
    | trans first _ ih ih' => exact (ih distinct before).trans (ih' ((first.map Prod.fst).nodup_iff.1 distinct) before)
  exact within []

/-- A revision keeps the claims that may name the subject. -/
theorem Revised.lastClaim?_eq (revised : Revised members members') (used : name ∈ subjectNames) :
    lastClaim? members' name = lastClaim? members name := by
  have kept : members'.filter (·.1 = name) = members.filter (·.1 = name) := by
    cases revised with
    | @swap before after a b distinct =>
      have apart : ¬(a.1 = name ∧ b.1 = name) := fun both => distinct (both.1.trans both.2.symm)
      by_cases first : a.1 = name <;> by_cases second : b.1 = name <;> simp_all
    | @add before after m other readable shallow =>
      have different : m.1 ≠ name := fun same => other (same ▸ used)
      simp [different]
    | @remove before after m other =>
      have different : m.1 ≠ name := fun same => other (same ▸ used)
      simp [different]
  rw [lastClaim?, kept, lastClaim?]

/-- Claims that are accepted, in whatever text. -/
def Acceptable (members : List (String × Json)) : Prop := ∀ m ∈ members, m.2.Readable ∧ m.2.depth < maxDepth

theorem depthOfMembers_lt_iff : Json.depthOfMembers members < maxDepth ↔ ∀ m ∈ members, m.2.depth < maxDepth := by
  induction members with
  | nil => simp [Json.depthOfMembers, maxDepth]
  | cons m ms ih => rw [Json.depthOfMembers, Nat.max_lt, ih, List.forall_mem_cons]

/-- Claims are acceptable one by one exactly if they are so together. -/
theorem acceptable_iff :
    Acceptable members ↔ (Json.object members).Readable ∧ (Json.object members).depth ≤ maxDepth := by
  rw [Json.Readable, readableMembers_iff, Json.depth, Nat.succ_le_iff, depthOfMembers_lt_iff]
  exact ⟨fun each => ⟨fun m hm => (each m hm).1, fun m hm => (each m hm).2⟩,
    fun both m hm => ⟨both.1 m hm, both.2 m hm⟩⟩

theorem ClaimsText.acceptable (claims : ClaimsText text members) : Acceptable members :=
  acceptable_iff.2 ⟨claims.readable, claims.shallow⟩

theorem Acceptable.readable (acceptable : Acceptable members) : ∀ m ∈ members, m.2.Readable := fun m hm =>
  (acceptable m hm).1

/-- Acceptable claims are a text of claims in any text that spells them. -/
theorem Acceptable.claimsText (acceptable : Acceptable members) (spells : Spells (.ofJson (.object members)) text) :
    ClaimsText text members :=
  have accepted := acceptable_iff.1 acceptable
  ⟨spells, accepted.1, accepted.2⟩

/-- A revision keeps claims acceptable. -/
theorem Revised.acceptable (revised : Revised members members') (acceptable : Acceptable members) :
    Acceptable members' := by
  intro m member
  cases revised with
  | swap before after => exact acceptable m (by simpa [or_left_comm] using member)
  | @add before after added other readable shallow =>
    obtain rfl | old : m = added ∨ m ∈ before ++ after := by simpa [or_left_comm] using member
    · exact ⟨readable, shallow⟩
    · exact acceptable m old
  | @remove before after removed other =>
    have old : m ∈ before ++ removed :: after := by
      simp only [List.mem_append, List.mem_cons] at member ⊢
      exact member.imp_right .inr
    exact acceptable m old

/-- **Revised claims** are as acceptable as before, and select the same subject. -/
theorem subjectOf?_of_revised (run : Relation.ReflTransGen Revised members members') (acceptable : Acceptable members) :
    Acceptable members' ∧ subjectOf? members' = subjectOf? members := by
  -- Each step keeps the claims that count, but only claims that are accepted have a subject to speak of.
  have steps : Acceptable members' ∧ ∀ name ∈ subjectNames, lastClaim? members' name = lastClaim? members name := by
    induction run with
    | refl => exact ⟨acceptable, fun _ _ => rfl⟩
    | tail _ step ih =>
      exact ⟨step.acceptable ih.1, fun name used => (step.lastClaim?_eq used).trans (ih.2 name used)⟩
  exact ⟨steps.1, subjectOf?_congr steps.2⟩

/-! ## Tokens -/

/-- A token has a subject exactly if it carries a text of claims that has it. -/
theorem subjectOfToken?_eq_some {token : String} : subjectOfToken? token = some subject ↔
    ∃ text members, Carries token text ∧ ClaimsText text members ∧ subjectOf? members = some subject := by
  simp only [subjectOfToken?, Option.bind_eq_bind, Option.bind_eq_some_iff, tokenBytes?_eq_some, textOf?_eq_some,
    ofText?_eq_some]
  constructor
  · rintro ⟨bytes, reads, text, rfl, members, claims, found⟩
    exact ⟨text, members, reads, claims, found⟩
  · rintro ⟨text, members, reads, claims, found⟩
    exact ⟨bytesOf text, reads, text, rfl, members, claims, found⟩

/-- Texts of the same tokens are the same claims, or neither is any. -/
theorem ofText?_of_lexes {ts : List Token} {text' : String} (lexes : Lexes ts text.toList)
    (lexes' : Lexes ts text'.toList) : ofText? text' = ofText? text := by
  have same : Document.ofText text' = Document.ofText text := by
    rw [Document.ofText, Document.ofText, lexes.tokens_eq, lexes'.tokens_eq]
  rw [ofText?, ofText?, Json.ofText?, Json.ofText?, same]

/-- The claims, in any text, have the subject that the text has. -/
def Keeps (text : String) (members : List (String × Json)) : Prop :=
  ∀ text', Spells (.ofJson (.object members)) text' → ClaimsText text' members ∧
    ∀ token token', Carries token text → Carries token' text' → subjectOfToken? token' = subjectOfToken? token

/-- What claims in a text say about the subject of its tokens. -/
structure Selection (text : String) (members : List (String × Json)) : Prop where
  carried : ∀ s ∈ schemes, Carries (encoded s text) text
  /-- The first claim that names a subject wins, whatever the stronger ones are instead. -/
  first : ∀ token, Carries token text → ∀ subject, subjectOfToken? token = some subject ↔ Selects members subject
  revised : ∀ members', Relation.ReflTransGen Revised members members' → Keeps text members'
  reordered : ∀ members', (members.map Prod.fst).Nodup → members.Perm members' → Keeps text members'

/-- The subject of a token is that of its claims. -/
theorem ClaimsText.subject_eq (claims : ClaimsText text members) {token : String} (carries : Carries token text) :
    subjectOfToken? token = subjectOf? members := by
  rw [carries.subject_eq, ofText?_eq_some.2 claims, Option.bind_some]

/-- Claims keep their subject when they are revised, in any text and scheme. -/
theorem ClaimsText.keeps (claims : ClaimsText text members) (run : Relation.ReflTransGen Revised members members') :
    Keeps text members' := by
  obtain ⟨acceptable, same⟩ := subjectOf?_of_revised run claims.acceptable
  intro text' spells
  have claims' := acceptable.claimsText spells
  refine ⟨claims', fun token token' carries carries' => ?_⟩
  rw [claims.subject_eq carries, claims'.subject_eq carries', same]

/-- What claims select is what tokens of them have as their subject. -/
theorem ClaimsText.selection (claims : ClaimsText text members) : Selection text members := by
  constructor
  case carried => exact fun s known => carries_encoded known text
  case first =>
    intro token carries subject
    rw [claims.subject_eq carries, subjectOf?_eq_some claims.acceptable.readable]
  case revised => exact fun members' run => claims.keeps run
  case reordered => exact fun members' distinct perm => claims.keeps (revised_of_perm distinct perm)

/-- A token has no subject exactly if none of its claims could be one. -/
theorem subjectOfToken?_eq_none {token : String} : subjectOfToken? token = none ↔
    ∀ text members, Carries token text → ClaimsText text members → ∀ name ∈ subjectNames, Unused members name := by
  rw [Option.eq_none_iff_forall_ne_some]
  constructor
  · intro nobody text members carries claims
    have missing : subjectOf? members = none := by
      rw [Option.eq_none_iff_forall_ne_some]
      intro subject found
      exact nobody subject (subjectOfToken?_eq_some.2 ⟨text, members, carries, claims, found⟩)
    exact (subjectOf?_eq_none claims.acceptable.readable).1 missing
  · intro unused subject named
    obtain ⟨text, members, carries, claims, found⟩ := subjectOfToken?_eq_some.1 named
    rw [(subjectOf?_eq_none claims.acceptable.readable).2 (unused text members carries claims)] at found
    cases found

/-- A subject is never blank, nor has it blanks at its ends. -/
theorem trimmed_of_subjectOfToken? {token : String} (named : subjectOfToken? token = some subject) :
    Text.trim subject = subject ∧ subject ≠ "" := by
  obtain ⟨text, members, -, claims, found⟩ := subjectOfToken?_eq_some.1 named
  obtain ⟨-, -, -, -, -, value, -, names⟩ := (subjectOf?_eq_some claims.acceptable.readable).1 found
  exact Text.trimmed?_eq_some.1 names.trimmed

/-- **The subject of a token** is what its claims select, in whatever text and scheme they are written, and a token
that names nobody carries no claims that would select one. -/
theorem subject_selection :
    (∀ text members, ClaimsText text members → Selection text members) ∧
    (∀ token, subjectOfToken? token = none ↔
      ∀ text members, Carries token text → ClaimsText text members → ∀ name ∈ subjectNames, Unused members name) ∧
    (∀ token subject, subjectOfToken? token = some subject → Text.trim subject = subject ∧ subject ≠ "") ∧
    ∀ ts text text', Lexes ts text.toList → Lexes ts text'.toList → ∀ token token',
      Carries token text → Carries token' text' → subjectOfToken? token' = subjectOfToken? token := by
  refine ⟨?_, ?_, ?_, ?_⟩
  · intro text members claims
    exact claims.selection
  · intro token
    exact subjectOfToken?_eq_none
  · intro token subject named
    exact trimmed_of_subjectOfToken? named
  · intro ts text text' lexes lexes' token token' carries carries'
    rw [carries.subject_eq, carries'.subject_eq, ofText?_of_lexes lexes lexes']

/-- Claims that give `sub` twice, blanks at last. -/
def shadowedClaims : List (String × Json) :=
  [("uid", .string "c"), ("sub", .string "a"), ("user_id", .ofInt 7), ("sub", .string "  ")]

def shadowedText : String := "\x7b\"uid\":\"c\", \"sub\":\"\\u0061\", \"user_id\": 7, \"sub\":\"  \" \x7d"

/-- A claim that comes twice, one that is blank and one with a name in escapes. -/
theorem subject_selection_shadowed :
    ClaimsText shadowedText shadowedClaims ∧
      subjectOfToken? (encoded ⟨.urlSafe, false⟩ shadowedText) = some "7" ∧
      subjectOfToken? (encoded ⟨.standard, true⟩ (Json.object (("name", .null) :: shadowedClaims)).render) =
        some "7" := by
  have seven : (Literal.ofInt 7).number? = some (.int 7) := by decide +kernel
  have spells : Spells (.ofJson (.object shadowedClaims)) shadowedText :=
    spells_of_tokens (Draft.whole_ofJson _) (by decide +kernel)
  have claims : ClaimsText shadowedText shadowedClaims :=
    ⟨spells, ⟨trivial, trivial, Option.isSome_of_eq_some seven, trivial, trivial⟩, by decide⟩
  have selects : Selects shadowedClaims "7" := by
    refine ⟨["sub"], "user_id", ["uid"], rfl, ?_, .ofInt 7, rfl, .number seven⟩
    rintro other (_ | ⟨_, ⟨⟩⟩) value ⟨⟩
    exact .blank (by decide)
  have added : Revised shadowedClaims (("name", .null) :: shadowedClaims) :=
    .add [] shadowedClaims (by decide) trivial (by decide)
  have selection := subject_selection.1 shadowedText shadowedClaims claims
  have carries := selection.carried ⟨.urlSafe, false⟩ (by decide)
  have named := (selection.first _ carries "7").2 selects
  refine ⟨claims, named, ?_⟩
  rw [← named]
  exact (selection.revised _ (.single added) _ (spells_render _)).2 _ _ carries (carries_encoded (by decide) _)

end ProfileGateway.Claims
