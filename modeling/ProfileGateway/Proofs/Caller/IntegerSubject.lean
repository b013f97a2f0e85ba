import ProfileGateway.Proofs.Caller.Subject
import ProfileGateway.Proofs.Json.Integers
/-!
# Integers as subjects

A claim may give its subject as an integer. What becomes of it depends on whether the integer fits a number of 64 bits:
if it does, the subject is its numeral, and if not, the text of a double, which other integers may have too
(`Claims.integer_subjects`).
-/
namespace ProfileGateway.Claims

open Base64 Decimal Json

/-- The token says that the subject is the number. -/
def SubjectIs (token : String) (l : Literal) : Prop :=
  ∃ text, Carries token text ∧ Spells (.ofJson (.object [("sub", .number l)])) text

variable {token : String} {l : Literal}

/-- The subject is the number as it is written after it was read. -/
theorem SubjectIs.subject_eq (given : SubjectIs token l) :
    subjectOfToken? token = l.number?.map fun n => String.ofList n.render := by
  obtain ⟨text, carries, spells⟩ := given
  cases read : l.number? with
  | none =>
    have unread : (Draft.ofJson (.object [("sub", .number l)])).toJson? = none := by
      simp [Draft.ofJson, Draft.ofMembers, Draft.toJson?, Draft.toMembers?, read]
    have nothing : ofText? text = none := by
      rw [ofText?, Json.ofText?, spells.document]
      simp only [unread, Bool.false_eq_true, if_false]
    rw [carries.subject_eq, nothing]
    rfl
  | some n =>
    have claims : ClaimsText text [("sub", .number l)] :=
      ⟨spells, ⟨Option.isSome_of_eq_some read, trivial⟩, show 1 ≤ maxDepth by decide⟩
    refine (claims.subject_eq carries).trans ((subjectOf?_eq_some claims.acceptable.readable).2 ?_)
    exact ⟨[], "sub", ["user_id", "uid"], rfl, List.forall_mem_nil _, .number l, rfl, .number read⟩

/-- An integer that fits 64 bits is its own numeral. -/
theorem SubjectIs.eq_signedText (given : SubjectIs token l) (integer : l.isInteger = true) (fits : l.Fits) :
    subjectOfToken? token = some (signedText l.value) := by
  rw [given.subject_eq, Literal.number?_of_fits integer fits]
  rfl

/-- An integer that does not fit is written like the double that it is read as. -/
theorem SubjectIs.eq_double (given : SubjectIs token l) (integer : l.isInteger = true) (wide : ¬l.Fits) :
    subjectOfToken? token = l.magnitude?.map fun m => String.ofList (floatLayout.render ⟨l.negative, m⟩) := by
  rw [given.subject_eq, Literal.number?_of_not_fits integer wide, Option.map_map]
  rfl

/-- The text of a double is no numeral. -/
theorem SubjectIs.ne_signedText (given : SubjectIs token l) (integer : l.isInteger = true) (wide : ¬l.Fits) (n : Int) :
    subjectOfToken? token ≠ some (signedText n) := by
  rw [given.eq_double integer wide]
  intro numeral
  obtain ⟨m, -, same⟩ := Option.map_eq_some_iff.1 numeral
  exact (floatLayout.likeDouble_render _).ne_signedNumeral n (String.ofList_injective same)

/-- The token of the claims `{"sub": n}`, without whitespace. -/
def tokenOf (n : Int) : String := encoded ⟨.urlSafe, false⟩ (Json.object [("sub", .ofInt n)]).render

theorem subjectIs_tokenOf (n : Int) : SubjectIs (tokenOf n) (.ofInt n) :=
  ⟨_, carries_encoded (by decide) _, spells_render _⟩

/-- What becomes of an integer that a token gives as its subject. -/
structure IntegerSubject (token : String) (l : Literal) : Prop where
  /-- The subject is the numeral exactly if the integer fits. -/
  numeral : subjectOfToken? token = some (signedText l.value) ↔ l.Fits
  double : ¬l.Fits →
    subjectOfToken? token = l.magnitude?.map fun m => String.ofList (floatLayout.render ⟨l.negative, m⟩)
  /-- Only integers that do not fit can have the subject of another. -/
  apart : ∀ token' l' subject, SubjectIs token' l' → l'.isInteger = true → subjectOfToken? token = some subject →
    subjectOfToken? token' = some subject → l.value = l'.value ∨ ¬l.Fits ∧ ¬l'.Fits
  /-- Beyond 64 bits the last digit makes no difference. -/
  merged : ∀ token' l', SubjectIs token' l' → l'.isInteger = true → l.negative = l'.negative →
    UInt64.size ≤ l.whole → UInt64.size ≤ l'.whole → l.whole / 10 = l'.whole / 10 →
    subjectOfToken? token = subjectOfToken? token'

/-- **Integers as subjects.** One that fits 64 bits has its numeral for a subject, and no other integer has that. Any
other has the text of a double, which it may share. -/
theorem integer_subjects (integer : l.isInteger = true) (given : SubjectIs token l) : IntegerSubject token l := by
  constructor
  case numeral =>
    refine ⟨fun exact => of_not_not fun wide => ?_, given.eq_signedText integer⟩
    exact given.ne_signedText integer wide _ exact
  case double => exact fun wide => given.eq_double integer wide
  case apart =>
    intro token' l' subject given' integer' found found'
    by_cases fits : l.Fits <;> by_cases fits' : l'.Fits
    · have own := given.eq_signedText integer fits
      have other := given'.eq_signedText integer' fits'
      have same : signedText l.value = signedText l'.value :=
        Option.some.inj (own.symm.trans (found.trans (found'.symm.trans other)))
      exact .inl (signedNumeral_injective (String.ofList_injective same))
    · rw [given.eq_signedText integer fits, ← found'] at found
      exact absurd found.symm (given'.ne_signedText integer' fits' _)
    · rw [given'.eq_signedText integer' fits', ← found] at found'
      exact absurd found'.symm (given.ne_signedText integer fits _)
    · exact .inr ⟨fits, fits'⟩
  case merged =>
    intro token' l' given' integer' sign wide wide' same
    rw [given.subject_eq, given'.subject_eq, Literal.number?_of_wide integer integer' sign wide wide' same]

/-- The largest integer that fits, and the smallest. -/
theorem integer_subjects_bounds :
    subjectOfToken? (tokenOf 18446744073709551615) = some "18446744073709551615" ∧
      subjectOfToken? (tokenOf (-9223372036854775808)) = some "-9223372036854775808" := by
  have largest := integer_subjects rfl (subjectIs_tokenOf 18446744073709551615)
  have smallest := integer_subjects rfl (subjectIs_tokenOf (-9223372036854775808))
  exact ⟨largest.numeral.2 ⟨by decide, by decide, by decide⟩, smallest.numeral.2 ⟨by decide, by decide, by decide⟩⟩

/-- The first two integers that are too large for 64 bits. -/
theorem integer_subjects_merged :
    tokenOf 18446744073709551616 = "eyJzdWIiOjE4NDQ2NzQ0MDczNzA5NTUxNjE2fQ" ∧
      tokenOf 18446744073709551617 = "eyJzdWIiOjE4NDQ2NzQ0MDczNzA5NTUxNjE3fQ" ∧
      signedText 18446744073709551616 = "18446744073709551616" ∧
      subjectOfToken? (tokenOf 18446744073709551616) = some "1.8446744073709552e+19" ∧
      subjectOfToken? (tokenOf 18446744073709551617) = some "1.8446744073709552e+19" := by
  decide +kernel

end ProfileGateway.Claims
