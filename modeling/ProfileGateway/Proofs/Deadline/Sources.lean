import ProfileGateway.Proofs.Deadline.Unlimited
import ProfileGateway.Proofs.Json.NumberText
import ProfileGateway.Proofs.Json.Reading
import ProfileGateway.Proofs.Json.RoundTrip
/-!
# The sources of settings

An object and three variables say the same settings in two languages, and both are read as what they say. The variables
are refused for the first one that cannot be read, and an object for any member that is none of the three
(`Settings.sources_agree`).
-/
namespace ProfileGateway.Settings

open Json

variable {c : Settings} {n : UInt64} {s : String}

section Sequence

variable {ε α β : Type} {x : Except ε α} {next : α → Except ε β} {b : β} {e : ε}

/-- What follows a result has a value exactly if both have one. -/
theorem bind_eq_ok : x.bind next = .ok b ↔ ∃ a, x = .ok a ∧ next a = .ok b := by
  cases x <;> simp [Except.bind]

/-- The first failure is the one that counts. -/
theorem bind_eq_error : x.bind next = .error e ↔ x = .error e ∨ ∃ a, x = .ok a ∧ next a = .error e := by
  cases x <;> simp [Except.bind]

end Sequence

/-! ## Objects -/

/-- The member that holds the milliseconds of a kind. -/
def memberName : OperationKind → String
  | .command => "command_timeout_ms"
  | .query => "query_timeout_ms"
  | .default => "default_timeout_ms"

/-- The member of a kind, a null if nothing is configured for it. -/
def member (c : Settings) (kind : OperationKind) : String × Json :=
  (memberName kind, Json.ofOption (fun n : UInt64 => .ofNat n.toNat) (c.configured kind))

/-- The members hold the settings, in any order. What is not configured may be left out. -/
structure HeldBy (c : Settings) (ms : List (String × Json)) : Prop where
  own : ∀ m ∈ ms, ∃ kind, m = c.member kind
  once : (ms.map Prod.fst).Nodup
  present : ∀ kind n, c.configured kind = some n → memberName kind ∈ ms.map Prod.fst

/-- The values of the fields. -/
def parts (c : Settings) : Option UInt64 × Option UInt64 × Option UInt64 × Unit :=
  (c.commandTimeout, c.queryTimeout, c.defaultTimeout, ())

/-- Settings are written as one member of each kind. -/
theorem mem_write {m : String × Json} : m ∈ fields.write c.parts ↔ ∃ kind, m = c.member kind := by
  constructor
  · rintro (_ | ⟨_, _ | ⟨_, _ | ⟨_, ⟨⟩⟩⟩⟩)
    · exact ⟨.command, rfl⟩
    · exact ⟨.query, rfl⟩
    · exact ⟨.default, rfl⟩
  · rintro ⟨_ | _ | _, rfl⟩
    · exact .head _
    · exact .tail _ (.head _)
    · exact .tail _ (.tail _ (.head _))

/-- The names of the fields are those of the kinds. -/
theorem mem_names {name : String} : name ∈ fields.names ↔ ∃ kind, memberName kind = name := by
  have written : name ∈ fields.names ↔ ∃ m, (∃ kind, m = (⟨none, none, none⟩ : Settings).member kind) ∧ m.1 = name := by
    simp only [← mem_write, ← List.mem_map, fields.names_write]
  rw [written]
  constructor
  · rintro ⟨_, ⟨kind, rfl⟩, rfl⟩
    exact ⟨kind, rfl⟩
  · rintro ⟨kind, rfl⟩
    exact ⟨_, ⟨kind, rfl⟩, rfl⟩

/-- What is left out is not configured. -/
theorem defaults_eq : fields.defaults = fields.write (⟨none, none, none⟩ : Settings).parts := rfl

theorem lawful_fields : fields.Lawful := by simp [fields]

/-- Members that hold settings present them, in any order. -/
theorem HeldBy.presents {ms : List (String × Json)} (held : c.HeldBy ms) :
    fields.Presents c.parts (ms.map fun m => (m.1, Draft.ofJson m.2)) := by
  have names : (ms.map fun m => (m.1, Draft.ofJson m.2)).map Prod.fst = ms.map Prod.fst := by
    rw [List.map_map]
    rfl
  constructor
  case known => exact List.forall_mem_map.2 fun m own _ => ⟨m.2, mem_write.2 (held.own m own), .refl m.2⟩
  case unknown => exact List.forall_mem_map.2 fun m _ _ => Draft.whole_ofJson m.2
  case once =>
    rw [names]
    exact held.once.filter _
  case present =>
    intro m written
    obtain ⟨kind, rfl⟩ := mem_write.1 written
    rw [names]
    cases given : c.configured kind with
    | none =>
      refine .inr (defaults_eq ▸ mem_write.2 ⟨kind, ?_⟩)
      rw [member, given]
      cases kind <;> rfl
    | some n => exact .inl (held.present kind n given)

/-- A text of members that hold settings is read as these. -/
theorem ofJson_of_held {ms : List (String × Json)} (held : c.HeldBy ms) (spells : Spells (.ofJson (.object ms)) s) :
    ofJson s = .ok c := by
  have own : ∀ m ∈ ms.map fun m => (m.1, Draft.ofJson m.2), m.1 ∈ fields.names := by
    refine List.forall_mem_map.2 fun m own => ?_
    obtain ⟨kind, rfl⟩ := held.own m own
    exact mem_names.2 ⟨kind, rfl⟩
  have read : codec.read (.ofJson (.object ms)) = .ok c := by
    rw [Draft.ofJson, Draft.ofMembers_eq_named]
    exact Codec.read_of_presents lawful_fields (fun _ => rfl) (fun m member foreign => absurd (own m member) foreign)
      held.presents
  rw [ofJson, Codec.ofText_of_spells spells read]

/-- A member that is of no kind makes a text malformed. -/
theorem ofJson_of_foreign {ms : List (Option String × Draft)} {ending : Ending} (spells : Spells (.object ms ending) s)
    {m : Option String × Draft} (member : m ∈ ms) (foreign : ∀ kind, m.1 ≠ some (memberName kind)) :
    ∃ e, ofJson s = .error (.malformed e) := by
  have refused : ∃ e, codec.read (.object ms ending) = .error e := by
    refine Codec.read_of_foreign rfl member fun name field => ?_
    obtain ⟨kind, rfl⟩ := mem_names.1 field
    exact foreign kind
  obtain ⟨e, refused⟩ := Codec.ofText_of_refused spells refused
  exact ⟨e, by rw [ofJson, refused]⟩

/-! ## Variables -/

/-- The variable that holds the milliseconds of a kind. -/
def variableName : OperationKind → String
  | .command => commandVariable
  | .query => queryVariable
  | .default => defaultVariable

/-- What a variable may hold for the milliseconds of a kind. Where nothing is configured it is not set or blank, and
otherwise it holds their numeral, perhaps with a plus sign and zeros in front, between blanks. -/
inductive Means : Option String → Option UInt64 → Prop
  | unset : Means none none
  | blank {raw : String} (blank : Text.blank raw = true) : Means (some raw) none
  | numeral {n : UInt64} {before sign after : String} {zeros : Nat} (left : Text.blank before = true)
    (signed : sign = "" ∨ sign = "+") (right : Text.blank after = true) :
    Means (some (before ++ (sign ++ String.ofList (List.replicate zeros '0') ++ Decimal.text n.toNat) ++ after)) (some n)

/-- Digits after at most one plus sign. -/
def Signed (cs digits : List Char) : Prop := Decimal.isDigits digits = true ∧ (cs = digits ∨ cs = '+' :: digits)

/-- A value that is not blank and not, between blanks, digits of a number of 64 bits after at most one plus sign. -/
def Unreadable (raw : String) : Prop :=
  Text.blank raw = false ∧ ¬∃ digits, Signed (Text.trimChars raw.toList) digits ∧ Decimal.value digits < UInt64.size

/-! ### Numbers -/

/-- What may be signed is digits after a plus sign or none. -/
theorem signed_iff {cs digits : List Char} :
    Signed cs digits ↔ Decimal.isDigits digits = true ∧ digits = if cs.head? = some '+' then cs.drop 1 else cs := by
  refine and_congr_right fun all => ⟨?_, fun same => ?_⟩
  · rintro (rfl | rfl)
    · rw [if_neg (Decimal.head?_ne all (by decide))]
    · rfl
  · split at same
    · next plus =>
      obtain ⟨rest, rfl⟩ := List.head?_eq_some_iff.1 plus
      exact .inr (congrArg _ same.symm)
    · exact .inl same.symm

/-- Milliseconds are read of digits whose value fits 64 bits, signed or not. -/
theorem millis?_eq_some {cs : List Char} :
    millis? cs = some n ↔ ∃ digits, Signed cs digits ∧ Decimal.value digits = n.toNat := by
  simp only [millis?, signed_iff]
  generalize (if cs.head? = some '+' then cs.drop 1 else cs) = plain
  constructor
  · intro read
    split at read
    · next fits =>
      cases read
      exact ⟨plain, ⟨fits.1, rfl⟩, (UInt64.toNat_ofNat_of_lt fits.2).symm⟩
    · cases read
  · rintro ⟨digits, ⟨all, rfl⟩, value⟩
    rw [if_pos ⟨all, value ▸ n.toNat_lt⟩, value, UInt64.ofNat_toNat]

/-- Nothing else is read as milliseconds. -/
theorem millis?_eq_none {cs : List Char} :
    millis? cs = none ↔ ¬∃ digits, Signed cs digits ∧ Decimal.value digits < UInt64.size := by
  rw [Option.eq_none_iff_forall_ne_some]
  constructor
  · rintro none ⟨digits, signed, fits⟩
    exact none _ (millis?_eq_some.2 ⟨digits, signed, (UInt64.toNat_ofNat_of_lt fits).symm⟩)
  · intro unreadable n read
    obtain ⟨digits, signed, value⟩ := millis?_eq_some.1 read
    exact unreadable ⟨digits, signed, value ▸ n.toNat_lt⟩

/-- What is read as a number has no blanks in it. -/
theorem Signed.solid {cs digits : List Char} (signed : Signed cs digits) :
    cs ≠ [] ∧ ∀ c ∈ cs, Text.isBlank c = false := by
  obtain ⟨isDigits, form⟩ := signed
  obtain ⟨some, digit⟩ := Decimal.isDigits_iff.1 isDigits
  have solid : ∀ c ∈ digits, Text.isBlank c = false := fun c member =>
    Decimal.isBlank_of_isNumberChar (Decimal.isNumberChar_of_isDigit (digit c member))
  obtain rfl | rfl := form
  · exact ⟨some, solid⟩
  · exact ⟨List.cons_ne_nil _ _, List.forall_mem_cons.2 ⟨by decide, solid⟩⟩

/-- A text means the number that is left of it without blanks. -/
theorem means_some_iff {raw : String} :
    Means (some raw) (some n) ↔ ∃ digits, Signed (Text.trimChars raw.toList) digits ∧ Decimal.value digits = n.toNat := by
  constructor
  · rintro (_ | _ | @⟨_, before, sign, after, zeros, left, signed, right⟩)
    have form : Signed (sign ++ String.ofList (List.replicate zeros '0') ++ Decimal.text n.toNat).toList
        (List.replicate zeros '0' ++ Decimal.numeral n.toNat) := by
      refine ⟨Decimal.isDigits_zeros zeros n.toNat, ?_⟩
      obtain rfl | rfl := signed <;> simp
    refine ⟨_, ?_, (Decimal.value_zeros zeros _).trans (Decimal.value_numeral n.toNat)⟩
    rw [← Text.toList_trim, Text.trim_padded left right, Text.toList_trim, Text.trimChars_of_solid form.solid.2]
    exact form
  · rintro ⟨digits, ⟨all, form⟩, value⟩
    obtain ⟨before, after, left, right, padded⟩ := Text.exists_padding raw
    obtain ⟨zeros, same⟩ := Decimal.exists_zeros all
    rw [value] at same
    have holds {sign : String} (signed : sign = "" ∨ sign = "+")
        (trimmed : Text.trimChars raw.toList = sign.toList ++ digits) : Means (some raw) (some n) := by
      have trim : Text.trim raw = sign ++ String.ofList (List.replicate zeros '0') ++ Decimal.text n.toNat := by
        rw [← String.toList_inj, Text.toList_trim, trimmed, same]
        simp
      rw [padded, trim]
      exact .numeral left signed right
    obtain plain | plus := form
    · exact holds (.inl rfl) plain
    · exact holds (.inr rfl) plus

/-! ### One variable -/

variable {name : String} {value : Option String} {v : Option UInt64} {e : LoadError}

/-- A variable is read as what it means. -/
theorem readVariable_eq_ok : readVariable name value = .ok v ↔ Means value v := by
  cases value with
  | none =>
    constructor
    · rintro ⟨⟩
      exact .unset
    · rintro ⟨⟩
      rfl
  | some raw =>
    by_cases blank : Text.blank raw = true
    · rw [readVariable, if_pos blank]
      constructor
      · rintro ⟨⟩
        exact .blank blank
      · intro means
        cases v with
        | none => rfl
        | some n =>
          obtain ⟨digits, signed, -⟩ := means_some_iff.1 means
          exact absurd (Text.trimChars_eq_nil_iff.2 blank) signed.solid.1
    · rw [readVariable, if_neg blank]
      cases v with
      | none =>
        refine iff_of_false ?_ ?_
        · split <;> nofun
        · rintro (_ | filled)
          exact blank filled
      | some n =>
        rw [means_some_iff, ← millis?_eq_some]
        split
        · next read => simp [read]
        · next read => simp [read]

/-- A variable is refused, under its name, exactly if it can not be read. -/
theorem readVariable_eq_error :
    readVariable name value = .error e ↔ ∃ raw, value = some raw ∧ Unreadable raw ∧ e = .notANumber name raw := by
  cases value with
  | none => exact iff_of_false nofun (by rintro ⟨_, ⟨⟩, _⟩)
  | some raw =>
    have only : (∃ raw', some raw = some raw' ∧ Unreadable raw' ∧ e = .notANumber name raw') ↔
        Unreadable raw ∧ e = .notANumber name raw := by
      simp
    rw [only, readVariable, Unreadable, ← millis?_eq_none]
    split
    · next blank => simp [blank]
    · next filled =>
      rw [Bool.not_eq_true] at filled
      split
      · next read => simp [read]
      · next read => simp [read, filled, eq_comm]

/-! ### The three in turn -/

variable {lookup : String → Option String} {kind : OperationKind}

/-- The kind is the first in order for which something holds. -/
def FirstFor (holds : OperationKind → Prop) (kind : OperationKind) : Prop :=
  ∃ before after, OperationKind.all = before ++ kind :: after ∧ (∀ k ∈ before, ¬holds k) ∧ holds kind

theorem FirstFor.holds {holds : OperationKind → Prop} (first : FirstFor holds kind) : holds kind := by
  obtain ⟨-, -, -, -, here⟩ := first
  exact here

/-- The first kind of which something holds comes before all others of which it does. -/
theorem firstFor_iff {holds : OperationKind → Prop} : FirstFor holds kind ↔ holds kind ∧
    (kind = .query → ¬holds .command) ∧ (kind = .default → ¬holds .command ∧ ¬holds .query) := by
  constructor
  · rintro ⟨before, after, split, none, here⟩
    match before with
    | [] =>
      cases split
      exact ⟨here, nofun, nofun⟩
    | [_] =>
      cases split
      exact ⟨here, fun _ => none _ (.head _), nofun⟩
    | [_, _] =>
      cases split
      exact ⟨here, nofun, fun _ => ⟨none _ (.head _), none _ (.tail _ (.head _))⟩⟩
    | _ :: _ :: _ :: _ => simp [OperationKind.all] at split
  · rintro ⟨here, second, third⟩
    cases kind with
    | command => exact ⟨[], [.query, .default], rfl, List.forall_mem_nil _, here⟩
    | query => exact ⟨[.command], [.default], rfl, by simpa using second rfl, here⟩
    | default => exact ⟨[.command, .query], [], rfl, by simpa using third rfl, here⟩

/-- The variable of the kind has a value that cannot be read. -/
def Refused (lookup : String → Option String) (kind : OperationKind) : Prop :=
  ∃ raw, lookup (variableName kind) = some raw ∧ Unreadable raw

/-- What is read from the variable of a kind. -/
def reading (lookup : String → Option String) (kind : OperationKind) : Except LoadError (Option UInt64) :=
  readVariable (variableName kind) (lookup (variableName kind))

/-- What fails to be read is refused. -/
theorem refused_of_error (failed : reading lookup kind = .error e) : Refused lookup kind := by
  obtain ⟨raw, given, unreadable, -⟩ := readVariable_eq_error.1 failed
  exact ⟨raw, given, unreadable⟩

/-- What is not refused is read. -/
theorem not_refused_iff : ¬Refused lookup kind ↔ ∃ v, reading lookup kind = .ok v := by
  constructor
  · intro readable
    cases read : reading lookup kind with
    | ok v => exact ⟨v, rfl⟩
    | error e => exact absurd (refused_of_error read) readable
  · rintro ⟨v, read⟩ ⟨raw, given, unreadable⟩
    have failed : reading lookup kind = .error (.notANumber (variableName kind) raw) :=
      readVariable_eq_error.2 ⟨raw, given, unreadable, rfl⟩
    exact nomatch read.symm.trans failed

/-- The variables are read in order, up to the first that is refused. -/
theorem ofVariables_eq : ofVariables lookup =
    (reading lookup .command).bind fun command => (reading lookup .query).bind fun query =>
      (reading lookup .default).bind fun default => .ok ⟨command, query, default⟩ := rfl

/-- Variables are settings exactly if each means what is configured. -/
theorem ofVariables_eq_ok :
    ofVariables lookup = .ok c ↔ ∀ kind, Means (lookup (variableName kind)) (c.configured kind) := by
  have each (kind) : Means (lookup (variableName kind)) (c.configured kind) ↔
      reading lookup kind = .ok (c.configured kind) := readVariable_eq_ok.symm
  simp only [each, ofVariables_eq, bind_eq_ok]
  constructor
  · rintro ⟨command, readCommand, query, readQuery, default, readDefault, ⟨⟩⟩
    intro kind
    cases kind <;> assumption
  · intro all
    exact ⟨_, all .command, _, all .query, _, all .default, rfl⟩

/-- The first variable that is refused, in the order of the kinds, decides the error. -/
theorem ofVariables_eq_error : ofVariables lookup = .error e ↔
    ∃ kind, FirstFor (Refused lookup) kind ∧ reading lookup kind = .error e := by
  simp only [ofVariables_eq, bind_eq_error, firstFor_iff]
  constructor
  · -- An error shows only behind variables that have been read.
    rintro (failed | ⟨command, readCommand, failed | ⟨query, readQuery, failed | ⟨_, _, ⟨⟩⟩⟩⟩)
    · exact ⟨.command, ⟨refused_of_error failed, nofun, nofun⟩, failed⟩
    · exact ⟨.query, ⟨refused_of_error failed, fun _ => not_refused_iff.2 ⟨_, readCommand⟩, nofun⟩, failed⟩
    · exact ⟨.default, ⟨refused_of_error failed, nofun, fun _ =>
        ⟨not_refused_iff.2 ⟨_, readCommand⟩, not_refused_iff.2 ⟨_, readQuery⟩⟩⟩, failed⟩
  · rintro ⟨_ | _ | _, ⟨-, second, third⟩, failed⟩
    · exact .inl failed
    · obtain ⟨command, readCommand⟩ := not_refused_iff.1 (second rfl)
      exact .inr ⟨command, readCommand, .inl failed⟩
    · obtain ⟨⟨command, readCommand⟩, query, readQuery⟩ := (third rfl).imp not_refused_iff.1 not_refused_iff.1
      exact .inr ⟨command, readCommand, .inr ⟨query, readQuery, .inl failed⟩⟩

/-! ## Both sources -/

/-- How settings are had from objects and from variables. -/
structure SourcesAgree : Prop where
  /-- A text of an object that holds the settings is read as them. -/
  object : ∀ c ms s, HeldBy c ms → Spells (.ofJson (.object ms)) s → ofJson s = .ok c
  /-- Variables are read as the settings that they mean, and as no others. -/
  meant : ∀ c lookup, ofVariables lookup = .ok c ↔ ∀ kind, Means (lookup (variableName kind)) (c.configured kind)
  /-- Variables fail exactly if some value cannot be read. -/
  fails : ∀ lookup, (∃ e, ofVariables lookup = .error e) ↔ ∃ kind, Refused lookup kind
  /-- The error names the first of them. -/
  first : ∀ lookup e, ofVariables lookup = .error e ↔ ∃ kind raw, FirstFor (Refused lookup) kind ∧
    lookup (variableName kind) = some raw ∧ e = .notANumber (variableName kind) raw
  /-- No text of an object with another member is accepted. -/
  foreign : ∀ ms ending s, Spells (.object ms ending) s → (∃ m ∈ ms, ∀ kind, m.1 ≠ some (memberName kind)) →
    ∃ e, ofJson s = .error (.malformed e)

/-- **The sources of settings agree**: an object that holds settings and variables that mean them are both read as them. -/
theorem sources_agree : SourcesAgree := by
  refine ⟨fun _ _ _ => ofJson_of_held, fun _ _ => ofVariables_eq_ok, ?fails, ?first, ?foreign⟩
  case fails =>
    intro lookup
    constructor
    · rintro ⟨e, failed⟩
      obtain ⟨kind, first, -⟩ := ofVariables_eq_error.1 failed
      exact ⟨kind, first.holds⟩
    · rintro ⟨kind, refused⟩
      cases loaded : ofVariables lookup with
      | error e => exact ⟨e, rfl⟩
      | ok c =>
        exact absurd refused (not_refused_iff.2 ⟨_, readVariable_eq_ok.2 (ofVariables_eq_ok.1 loaded kind)⟩)
  case first =>
    intro lookup e
    rw [ofVariables_eq_error]
    simp only [reading, readVariable_eq_error]
    constructor
    · rintro ⟨kind, first, raw, given, -, rfl⟩
      exact ⟨kind, raw, first, given, rfl⟩
    · rintro ⟨kind, raw, first, given, rfl⟩
      obtain ⟨raw', given', unreadable⟩ := first.holds
      obtain rfl : raw' = raw := Option.some_inj.1 (given'.symm.trans given)
      exact ⟨kind, first, raw', given, unreadable, rfl⟩
  case foreign =>
    rintro ms ending s spells ⟨m, member, foreign⟩
    exact ofJson_of_foreign spells member foreign

/-- A variable for each kind and none besides. -/
def lookupOf (value : OperationKind → Option String) (name : String) : Option String :=
  (OperationKind.all.find? fun kind => variableName kind = name).bind value

theorem lookupOf_variableName (value : OperationKind → Option String) (kind : OperationKind) :
    lookupOf value (variableName kind) = value kind := by
  cases kind <;> rfl

/-- Seven milliseconds for commands and the longest default. -/
def spelled : Settings := ⟨some 7, none, some 18446744073709551615⟩

/-- An object with a null for what is not configured and an escaped name. -/
def spelledText : String :=
  "\x7b \"default_timeout_ms\": 18446744073709551615, \"query_timeout_ms\": null, \"\\u0063ommand_timeout_ms\": 7 \x7d"

theorem sources_agree_spelled :
    let value : OperationKind → Option String
      | .command => some "\t+007 "
      | .query => some " "
      | .default => some "18446744073709551615"
    let refused : OperationKind → Option String
      | .command => some " "
      | .query => some "-1"
      | .default => some "18446744073709551616"
    ofJson spelledText = .ok spelled ∧ ofVariables (lookupOf value) = .ok spelled ∧
      ofVariables (lookupOf refused) = .error (.notANumber queryVariable "-1") ∧
      ∃ e, ofJson "\x7b \"query_timeout\": 5 \x7d" = .error (.malformed e) := by
  intro value refused
  have agree := sources_agree
  have held : spelled.HeldBy [spelled.member .default, spelled.member .query, spelled.member .command] := by
    refine ⟨?_, by decide, fun kind _ _ => by cases kind <;> decide⟩
    rintro m (_ | ⟨_, _ | ⟨_, _ | ⟨_, ⟨⟩⟩⟩⟩) <;> exact ⟨_, rfl⟩
  have spells : Spells (.ofJson (.object [spelled.member .default, spelled.member .query, spelled.member .command]))
      spelledText := spells_of_tokens (Draft.whole_ofJson _) (by decide +kernel)
  have meant (kind) : Means (lookupOf value (variableName kind)) (spelled.configured kind) := by
    rw [lookupOf_variableName]
    cases kind with
    | command => exact means_some_iff.2 (millis?_eq_some.1 (by decide +kernel))
    | query => exact .blank (by decide)
    | default => exact means_some_iff.2 (millis?_eq_some.1 (by decide +kernel))
  have first : FirstFor (Refused (lookupOf refused)) .query := by
    refine firstFor_iff.2 ⟨⟨"-1", rfl, by decide, millis?_eq_none.1 (by decide +kernel)⟩, fun _ => ?_, nofun⟩
    rintro ⟨raw, given, filled, -⟩
    obtain rfl : " " = raw := Option.some_inj.1 given
    exact absurd filled (by decide)
  have other : Spells (.object [(some "query_timeout", .number (.ofInt 5))] .closed) "\x7b \"query_timeout\": 5 \x7d" :=
    spells_of_tokens rfl (by decide +kernel)
  refine ⟨agree.object _ _ _ held spells, (agree.meant _ _).2 meant, (agree.first _ _).2 ⟨.query, "-1", first, rfl, rfl⟩,
    agree.foreign _ _ _ other ⟨_, .head _, fun kind => ?_⟩⟩
  cases kind <;> decide

end ProfileGateway.Settings
