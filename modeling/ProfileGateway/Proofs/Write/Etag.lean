import ProfileGateway.Proofs.Operation.Occasion
import ProfileGateway.Proofs.Write.TagForms
/-!
# Tags of versions

The tag of a version that is not negative reads back as that version, also when it is marked as weak and when it has
been sent as a header; the tags of negative versions are malformed. So a write that sends the tag it was shown expects
the version that it was shown (`Etag.ofRequest_shown`).
-/
namespace ProfileGateway

namespace Etag

/-- The sign of a version is the sign of the integer it stands for. -/
theorem nonneg_iff {v : Int64} : 0 ≤ v ↔ 0 ≤ v.toInt := by
  rw [Int64.le_iff_toInt_le, Int64.toInt_zero]

/-- The numeral of a version consists of digits only when the version is not negative. -/
theorem digitsOf_signedNumeral {v v' : Int64} : DigitsOf v' (Decimal.signedNumeral v.toInt) ↔ 0 ≤ v ∧ v' = v := by
  rw [nonneg_iff, ← Int64.toInt_inj]
  have small := v.toInt_lt
  generalize v.toInt = i at small
  cases i with
  | ofNat n =>
    change (n : Int) < 2 ^ 63 at small
    change DigitsOf v' (Decimal.numeral n) ↔ _
    constructor
    · rintro ⟨-, -, value⟩
      rw [value, Decimal.value_numeral]
      exact ⟨Int.natCast_nonneg n, rfl⟩
    · rintro ⟨-, same⟩
      refine ⟨Decimal.isDigits_numeral n, ?_, ?_⟩
      · rw [Decimal.value_numeral]
        omega
      · rw [same, Decimal.value_numeral]
        rfl
  | negSucc n =>
    refine iff_of_false (fun named => ?_) fun sign => absurd sign.1 (by omega)
    exact Decimal.head?_ne named.digits (by decide : Char.isDigit '-' = false) rfl

/-- No tag is read as a negative version. -/
theorem nonneg_of_parse {raw : String} {v : Int64} (read : parse raw = .ok (some v)) : 0 ≤ v := by
  rw [nonneg_iff, (parse_eq_some.1 read).value]
  exact Int.natCast_nonneg _

/-- The tags of a version, strong and weak. -/
inductive Tags (v : Int64) : String → Prop
  | strong : Tags v (ofVersion v)
  | weak : Tags v ("W/" ++ ofVersion v)

section Tags

variable {v v' : Int64} {tag before after : String}

/-- The tag of a version is its numeral in quotes. -/
theorem toList_ofVersion (v : Int64) : (ofVersion v).toList = '"' :: (Decimal.signedNumeral v.toInt ++ ['"']) :=
  String.toList_ofList

theorem toList_weak (v : Int64) :
    ("W/" ++ ofVersion v).toList = 'W' :: ('/' :: '"' :: Decimal.signedNumeral v.toInt ++ ['"']) := by
  rw [String.toList_append, toList_ofVersion]
  rfl

/-- A tag begins with a quote or with the mark, and it ends with a quote. -/
theorem Tags.ends (tags : Tags v tag) : ∃ a cs, Text.isBlank a = false ∧ tag.toList = a :: (cs ++ ['"']) := by
  cases tags with
  | strong => exact ⟨'"', _, by decide, toList_ofVersion v⟩
  | weak => exact ⟨'W', _, by decide, toList_weak v⟩

theorem Tags.chars_eq (tags : Tags v tag) : chars tag = tag.toList := by
  obtain ⟨a, cs, first, whole⟩ := tags.ends
  rw [chars, whole, Text.trimChars_between first (by decide)]

theorem Tags.filled (tags : Tags v tag) : Text.blank tag = false := by
  obtain ⟨a, cs, first, whole⟩ := tags.ends
  rw [Text.blank, whole, List.all_cons, first, Bool.false_and]

/-- What the reader looks at in a tag of a version is the numeral of it. -/
theorem Tags.dropped (tags : Tags v tag) : dropQuotes (dropWeak tag.toList) = Decimal.signedNumeral v.toInt := by
  cases tags with
  | strong => rw [toList_ofVersion, dropWeak_of_head (by simp), dropQuotes_quoted]
  | weak =>
    rw [toList_weak, List.cons_append, dropWeak_marked]
    exact dropQuotes_quoted _

/-- Blanks around a tag are not read. -/
theorem parse_trim (s : String) : parse (Text.trim s) = parse s := by
  rw [parse, parse, Text.toList_trim, Text.trimChars_trimChars]

/-- Blanks around a tag do not matter. -/
theorem parse_padded (left : Text.blank before = true) (right : Text.blank after = true) (s : String) :
    parse (before ++ s ++ after) = parse s := by
  rw [← parse_trim, Text.trim_padded left right, parse_trim]

/-- A tag of a version is read if and only if the version is not negative, and then as this version. -/
theorem Tags.parse_eq_some (tags : Tags v tag) : parse tag = .ok (some v') ↔ 0 ≤ v ∧ v' = v := by
  rw [Etag.parse_eq_some, tags.chars_eq, tags.dropped, digitsOf_signedNumeral]

/-- Tags of negative versions are malformed. -/
theorem Tags.parse_eq_error (tags : Tags v tag) (negative : v < 0) : ∃ r, parse tag = .error r := by
  cases read : parse tag with
  | error r => exact ⟨r, rfl⟩
  | ok version =>
    cases version with
    | none =>
      have star := tags.chars_eq.symm.trans (parse_eq_none.1 read)
      obtain ⟨a, cs, -, whole⟩ := tags.ends
      simp [whole] at star
    | some v' => exact absurd (tags.parse_eq_some.1 read).1 (Int64.not_le.2 negative)

theorem parse_ofVersion (nonneg : 0 ≤ v) : parse (ofVersion v) = .ok (some v) :=
  Tags.strong.parse_eq_some.2 ⟨nonneg, rfl⟩

end Tags
end Etag

/-- A request without a version is decided by the value of the header, unless that is blank. -/
theorem Precondition.ofRequest_header {seen : Option Metadata} {raw : String}
    (ifMatch : seen.bind Metadata.ifMatch = Text.trimmed? raw) :
    ofRequest none seen = if Text.blank raw = true then .ok .any else (Etag.parse raw).map Precondition.mk := by
  rw [ofRequest, ifMatch, Text.trimmed?]
  by_cases nothing : Text.blank raw = true
  · rw [if_pos nothing, if_pos nothing]
  · rw [if_neg nothing, if_neg nothing]
    exact congrArg (Except.map Precondition.mk) (Etag.parse_trim raw)

/-- A call that sends the tag of a version, and no version of its own, expects that version. -/
theorem Etag.ofRequest_shown {v : Int64} {call : Arrival} {h : Headers} (nonneg : 0 ≤ v)
    (metadata : call.metadata = .ofHeaders h) (sent : h.get? Headers.ifMatchName = some (ofVersion v)) :
    Precondition.ofRequest none call.carried = .ok (.exactly v) := by
  have tagged : call.metadata.ifMatch = Text.trimmed? (ofVersion v) := by
    rw [metadata, Metadata.ofHeaders]
    dsimp only
    rw [Headers.getTrimmed?, sent, Option.bind_some]
  have shown : call.metadata.ifMatch.isSome := by
    rw [tagged, Text.trimmed?, Tags.strong.filled]
    rfl
  have filled : call.metadata.isEmpty = false := by
    simp [Metadata.isEmpty, Option.isNone_eq_false_iff.2 shown]
  have carried : call.carried = some call.metadata := by simp [Arrival.carried, Context.carrying, filled]
  have ifMatch : call.carried.bind Metadata.ifMatch = Text.trimmed? (ofVersion v) := by
    rw [carried, Option.bind_some, tagged]
  rw [Precondition.ofRequest_header ifMatch, Tags.strong.filled, parse_ofVersion nonneg]
  rfl

end ProfileGateway
