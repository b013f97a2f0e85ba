import ProfileGateway.Outcome.Disclosure
import ProfileGateway.Proofs.Caller.Headers
import ProfileGateway.Proofs.Caller.Influence
import ProfileGateway.Proofs.Write.Etag
/-!
# From headers to preconditions

What a write asks of the stored version is said by the version of its request, and by the last `If-Match` of its call
if the request has none. A write that asks for a negative version is refused, and any other is let through onto the
stored versions that it asks for (`Precondition.resolves`).
-/
namespace ProfileGateway.Precondition

/-- What a request with this version and this value of `If-Match` asks of the stored version: to be a certain one, or
nothing. The header is not heeded beside a version of the request. -/
inductive Asks : Option Int64 → Option String → Option Int64 → Prop
  | version {v header} : Asks (some v) header (some v)
  | absent : Asks none none none
  | blank {raw} (nothing : Text.blank raw = true) : Asks none (some raw) none
  | star {before after} (left : Text.blank before = true) (right : Text.blank after = true) :
    Asks none (some (before ++ "*" ++ after)) none
  | tag {before after tag v} (left : Text.blank before = true) (right : Text.blank after = true)
    (tags : Etag.Tags v tag) : Asks none (some (before ++ tag ++ after)) (some v)

/-- The answer to a request that asks this of the stored version. -/
structure Answers (asked : Option Int64) (answer : Except Refusal Precondition) : Prop where
  refused : (∃ r, answer = .error r ∧ r.status.code = .invalidArgument) ↔ ∃ v, asked = some v ∧ v < 0
  passes : (∀ v, asked = some v → 0 ≤ v) →
    ∃ p, answer = .ok p ∧ ∀ stored, p.check stored = .ok () ↔ ∀ v, asked = some v → stored = v

section Answers

variable {v : Int64} {r : Refusal}

/-- A precondition holds if the stored version is the expected one, or none is expected. -/
theorem check_eq_ok {p : Precondition} {stored : Int64} :
    p.check stored = .ok () ↔ ∀ v, p.expectedVersion = some v → stored = v := by
  unfold check
  cases p.expectedVersion with
  | none => simp
  | some v =>
    dsimp only
    split
    · next same => simp [same]
    · next other =>
      have unlike : stored ≠ v := Ne.symm other
      simp [unlike]

/-- A failing check is a conflict of the versions that it compares. -/
theorem check_eq_error {p : Precondition} {stored : Int64} {f : Failure} (failed : p.check stored = .error f) :
    ∃ v, p.expectedVersion = some v ∧ v ≠ stored ∧ f = .versionConflict v stored := by
  unfold check at failed
  split at failed
  · next v expected =>
    split at failed
    · cases failed
    · next other => exact ⟨v, expected, other, (Except.error.inj failed).symm⟩
  · cases failed

/-- A precondition asks of the stored version what it has been made of. -/
theorem answers_ok {asked : Option Int64} (nonneg : ∀ v, asked = some v → 0 ≤ v) : Answers asked (.ok ⟨asked⟩) where
  refused := by
    constructor
    · rintro ⟨r, ⟨⟩, -⟩
    · rintro ⟨v, expected, negative⟩
      exact absurd (nonneg v expected) (Int64.not_le.2 negative)
  passes _ := ⟨⟨asked⟩, rfl, fun _ => check_eq_ok⟩

/-- A negative version is answered by a refusal. -/
theorem answers_error (negative : v < 0) : Answers (some v) (.error r) where
  refused := ⟨fun _ => ⟨v, rfl, negative⟩, fun _ => ⟨r, rfl, rfl⟩⟩
  passes nonneg := absurd (nonneg v rfl) (Int64.not_le.2 negative)

end Answers

/-! ## The two sources -/

section Sources

variable {v : Int64} {tag : String} {seen : Option Metadata} {header : Option String} {expected asked : Option Int64}

/-- A version in the payload decides, whatever the headers say. -/
theorem answers_version : Answers (some v) (ofRequest (some v) seen) := by
  rw [ofRequest]
  split
  · next negative => exact answers_error negative
  · next nonneg => exact answers_ok (by rintro _ ⟨⟩; exact Int64.not_lt.1 nonneg)

/-- A tag of a version asks for this version. -/
theorem answers_tag (tags : Etag.Tags v tag) : Answers (some v) ((Etag.parse tag).map Precondition.mk) := by
  by_cases negative : v < 0
  · obtain ⟨r, refused⟩ := tags.parse_eq_error negative
    rw [refused]
    exact answers_error negative
  · have nonneg := Int64.not_lt.1 negative
    rw [tags.parse_eq_some.2 ⟨nonneg, rfl⟩]
    exact answers_ok (by rintro _ ⟨⟩; exact nonneg)

theorem answers_any : Answers none (.ok .any) := answers_ok nofun

/-- The answer is to what the request and the header ask for. -/
theorem answers_of_asks (ifMatch : seen.bind Metadata.ifMatch = header.bind Text.trimmed?)
    (asks : Asks expected header asked) : Answers asked (ofRequest expected seen) := by
  cases asks with
  | version => exact answers_version
  | absent =>
    rw [ofRequest, ifMatch]
    exact answers_any
  | blank nothing =>
    rw [ofRequest_header ifMatch, if_pos nothing]
    exact answers_any
  | star left right =>
    have filled : ¬Text.blank "*" = true := by decide
    have read : Etag.parse "*" = .ok none := by rfl
    rw [ofRequest_header ifMatch, Text.blank_padded left right, if_neg filled, Etag.parse_padded left right, read]
    exact answers_any
  | tag left right tags =>
    have filled : ¬Text.blank _ = true := Bool.eq_false_iff.1 tags.filled
    rw [ofRequest_header ifMatch, Text.blank_padded left right, if_neg filled, Etag.parse_padded left right]
    exact answers_tag tags

/-- No negative version is expected, wherever it comes from. -/
theorem nonneg_of_ofRequest {p : Precondition} (resolved : ofRequest expected seen = .ok p)
    (expects : p.expectedVersion = some v) : 0 ≤ v := by
  unfold ofRequest at resolved
  split at resolved
  · split at resolved
    · cases resolved
    · next nonneg =>
      cases resolved
      cases expects
      exact Int64.not_lt.1 nonneg
  · split at resolved
    · obtain ⟨version, read, rfl⟩ := map_eq_ok.1 resolved
      exact Etag.nonneg_of_parse (read.trans (congrArg Except.ok expects))
    · cases resolved
      cases expects

end Sources

/-- **Preconditions resolve** from the headers of a call to what the request and its last `If-Match` ask for: a negative
version is refused, and otherwise a check passes on the versions that are asked for. A value that is not blank is read
as a tag. -/
theorem resolves {call : Arrival} {entries : List (String × String)} (brings : call.Brings (.ofList entries))
    (expected : Option Int64) :
    let header := Headers.lastValue? entries Headers.ifMatchName
    let answer := ofRequest expected call.carried
    (∀ asked, Asks expected header asked → Answers asked answer) ∧
      (∀ raw, expected = none → header = some raw → Text.blank raw = false →
        answer = (Etag.parse raw).map Precondition.mk) ∧
      answer = ofRequest expected (some (.ofHeaders (.ofList entries))) ∧
      ∀ p, answer = .ok p → (∀ v, p.expectedVersion = some v → 0 ≤ v) ∧
        ∀ stored f, p.check stored = .error f → f.kind = .versionConflict ∧ f.status.code = .aborted := by
  intro header answer
  have seen : call.carried.bind Metadata.ifMatch = (Metadata.ofHeaders (.ofList entries)).ifMatch :=
    carried_bind brings rfl
  have ifMatch : call.carried.bind Metadata.ifMatch = header.bind Text.trimmed? := by
    rw [seen, Metadata.ofHeaders]
    dsimp only
    rw [Headers.getTrimmed?, Headers.get?_ofList]
  refine ⟨fun asked => answers_of_asks ifMatch, ?read, precondition_congr fun _ => seen, fun p resolved => ⟨?_, ?_⟩⟩
  case read =>
    rintro raw rfl sent filled
    rw [sent] at ifMatch
    exact (ofRequest_header ifMatch).trans (if_neg (Bool.eq_false_iff.1 filled))
  · exact fun v => nonneg_of_ofRequest resolved
  · intro stored f failed
    obtain ⟨v, -, -, rfl⟩ := check_eq_error failed
    exact ⟨rfl, rfl⟩

/-- Of two values of `If-Match` the last one counts, a weak tag between blanks; a version of the request is refused in
front of either. -/
theorem resolves_weak :
    let entries := [("If-Match", "no tag"), ("IF-MATCH", " W/\"7\"\t"), ("If-None-Match", "*")]
    let call := Arrival.ofHeaders (.ofList entries) "fresh"
    Headers.lastValue? entries Headers.ifMatchName = some " W/\"7\"\t" ∧
      (∃ p, ofRequest none call.carried = .ok p ∧ ∀ stored, p.check stored = .ok () ↔ stored = 7) ∧
      ∃ r, ofRequest (some (-1)) call.carried = .error r ∧ r.status.code = .invalidArgument := by
  intro entries call
  have brings : call.Brings (.ofList entries) := brings_ofHeaders _ _
  have last : Headers.lastValue? entries Headers.ifMatchName = some " W/\"7\"\t" := by decide +kernel
  have asks : Asks none (Headers.lastValue? entries Headers.ifMatchName) (some 7) := by
    rw [last]
    exact .tag (by decide : Text.blank " " = true) (by decide : Text.blank "\t" = true) (.weak : Etag.Tags 7 _)
  have answered := (resolves brings none).1 (some 7) asks
  obtain ⟨p, resolved, passes⟩ := answered.passes (by rintro v ⟨⟩; decide)
  refine ⟨last, ⟨p, resolved, fun stored => (passes stored).trans (by simp)⟩, ?_⟩
  exact ((resolves brings (some (-1))).1 (some (-1)) .version).refused.2 ⟨-1, rfl, by decide⟩

end ProfileGateway.Precondition
