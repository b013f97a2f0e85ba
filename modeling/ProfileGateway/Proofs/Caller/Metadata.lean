import ProfileGateway.Caller.Metadata
import ProfileGateway.Proofs.Caller.Headers
import ProfileGateway.Proofs.Caller.Subject
/-!
# Resolved metadata

What headers resolve to depends on the last value under each name and on nothing else, and the fields of resolved
metadata fit together (`Metadata.resolved_of_entries`).
-/
namespace ProfileGateway

namespace Headers

/-- The headers are what the entries leave when they are inserted one after the other. -/
structure Holds (h : Headers) (entries : List (String × String)) : Prop where
  /-- A header has the value of the last entry under its name. -/
  value : ∀ name value, h.get? name = some value ↔ LastUnder entries name value
  missing : ∀ name, h.get? name = none ↔ ∀ e ∈ entries, ¬Text.SameName e.1 name
  trimmed : ∀ name t, h.getTrimmed? name = some t ↔
    ∃ value, h.get? name = some value ∧ Text.blank value = false ∧ t = Text.trim value
  /-- There are as many headers as different names. -/
  size : ∃ names, DistinctNames entries names ∧ h.size = names.length

/-- Headers hold what the list of them says, for every name. -/
theorem holds_ofList (entries : List (String × String)) : (ofList entries).Holds entries where
  value name value := by rw [get?_ofList, lastValue?_eq_some]
  missing name := by rw [get?_ofList, lastValue?_eq_none]
  trimmed name t := getTrimmed?_eq_some
  size := exists_distinctNames entries

end Headers

namespace Metadata

/-- The names of the headers that metadata are resolved from. -/
def headerNames : List String :=
  [Headers.identityName, Headers.idempotencyKeyName, Headers.ifMatchName, Headers.ifNoneMatchName]

/-- The texts that are there. -/
def texts (m : Metadata) : List String :=
  m.idempotencyKey.toList ++ m.ifMatch.toList ++ m.ifNoneMatch.toList ++ m.callerId.toList ++
    (m.identityToken.map Secret.expose).toList

/-- The fields fit together, and they fit the headers. -/
structure Coherent (m : Metadata) (h : Headers) : Prop where
  invalid : m.identityInvalid = true ↔ h.Filled Headers.identityName ∧ m.callerId = none
  trimmed : ∀ t ∈ m.texts, Text.trim t = t ∧ Text.blank t = false
  /-- There is no caller without a token. -/
  token : m.callerId.isSome → m.identityToken.isSome
  empty : m.isEmpty = true ↔ ∀ name ∈ headerNames, ¬h.Filled name

section

variable (h : Headers)

theorem callerId_ofHeaders :
    (ofHeaders h).callerId = (h.getTrimmed? Headers.identityName).bind Claims.subjectOfToken? := rfl

/-- An identity is invalid exactly if a token was sent that names nobody. -/
theorem identityInvalid_ofHeaders : (ofHeaders h).identityInvalid = true ↔
    (h.getTrimmed? Headers.identityName).isSome ∧ (ofHeaders h).callerId = none := by
  rw [← Option.isNone_iff_eq_none]
  exact Bool.and_eq_true_iff

/-- No text of the metadata is blank or has blanks at its ends. -/
theorem trimmed_of_mem_texts {t : String} (member : t ∈ (ofHeaders h).texts) : Text.trim t = t ∧ t ≠ "" := by
  simp only [texts, ofHeaders, List.mem_append, Option.mem_toList, Option.map_map] at member
  obtain (((key | ifMatch) | ifNoneMatch) | caller) | token := member
  · exact Headers.trimmed_of_getTrimmed? key
  · exact Headers.trimmed_of_getTrimmed? ifMatch
  · exact Headers.trimmed_of_getTrimmed? ifNoneMatch
  · obtain ⟨token, -, subject⟩ := Option.bind_eq_some_iff.1 caller
    exact Claims.trimmed_of_subjectOfToken? subject
  · obtain ⟨token, sent, rfl⟩ := Option.map_eq_some_iff.1 token
    exact Headers.trimmed_of_getTrimmed? sent

/-- Without a token there is neither a caller nor anything invalid, so the headers alone decide. -/
theorem isEmpty_ofHeaders :
    (ofHeaders h).isEmpty = true ↔ ∀ name ∈ headerNames, h.getTrimmed? name = none := by
  simp only [headerNames, List.forall_mem_cons, List.not_mem_nil, false_imp_iff, implies_true, and_true]
  cases token : h.getTrimmed? Headers.identityName <;> simp [isEmpty, ofHeaders, token, and_assoc]

/-- The fields of metadata say the same of the headers. -/
theorem coherent_ofHeaders : (ofHeaders h).Coherent h where
  invalid := by rw [identityInvalid_ofHeaders, Headers.isSome_getTrimmed?]
  trimmed t member := by
    obtain ⟨trimmed, filled⟩ := trimmed_of_mem_texts h member
    refine ⟨trimmed, Bool.eq_false_iff.2 fun blank => filled ?_⟩
    rw [← trimmed, Text.blank_iff.1 blank]
  token caller := by
    rw [callerId_ofHeaders] at caller
    cases sent : h.getTrimmed? Headers.identityName with
    | none =>
      rw [sent] at caller
      cases caller
    | some token => simp [ofHeaders, sent]
  empty := by simp only [isEmpty_ofHeaders, Headers.getTrimmed?_eq_none]

end

/-- Metadata depend on the values of headers alone. -/
theorem ofHeaders_congr {h h' : Headers} (same : ∀ name, h'.get? name = h.get? name) : ofHeaders h' = ofHeaders h := by
  simp only [ofHeaders, Headers.getTrimmed?, same]

/-- **Metadata are resolved** from the last value under each name: neither the order of entries under different names
nor the case of letters in a name changes them or the request id. -/
theorem resolved_of_entries (entries : List (String × String)) :
    (Headers.ofList entries).Holds entries ∧
      (∀ entries', Relation.ReflTransGen Headers.Rewritten entries entries' →
        ofHeaders (.ofList entries') = ofHeaders (.ofList entries) ∧
          (Headers.ofList entries').requestId? = (Headers.ofList entries).requestId?) ∧
      (ofHeaders (.ofList entries)).Coherent (.ofList entries) := by
  refine ⟨Headers.holds_ofList entries, ?_, coherent_ofHeaders _⟩
  intro entries' run
  have same := Headers.get?_of_rewritten run
  refine ⟨ofHeaders_congr same, ?_⟩
  rw [Headers.requestId?, Headers.requestId?, Headers.getTrimmed?, Headers.getTrimmed?, same]

/-- The last two of three names are different, since only the case of ASCII letters is of no account. The token is that
of claims without a subject. -/
theorem resolved_of_entries_recased :
    let entries := [("If-Match", "\"7\""), ("É", "1"), ("é", "2"), ("IF-MATCH", " \"8\"\t"), ("X-Identity-Claims", "e30=")]
    let entries' := [("If-Match", "\"7\""), ("é", "2"), ("É", "1"), ("if-match", " \"8\"\t"), ("X-Identity-Claims", "e30=")]
    (Headers.ofList entries).get? "if-Match" = some " \"8\"\t" ∧
      (Headers.ofList entries).getTrimmed? "if-Match" = some "\"8\"" ∧
      ofHeaders (.ofList entries') = ofHeaders (.ofList entries) ∧
      (ofHeaders (.ofList entries)).identityInvalid = true := by
  intro entries entries'
  obtain ⟨holds, kept, coherent⟩ := resolved_of_entries entries
  have different : ¬Text.SameName "É" "é" := by
    rw [← Text.lower_eq_lower_iff]
    decide +kernel
  have same : Text.SameName "IF-MATCH" "if-match" := Text.lower_eq_lower_iff.1 (by decide +kernel)
  have value : (Headers.ofList entries).get? "if-Match" = some " \"8\"\t" := by
    refine (holds.value _ _).2 ⟨[_, _, _], "IF-MATCH", [("X-Identity-Claims", "e30=")], rfl, ?_, ?_⟩
    · exact Text.lower_eq_lower_iff.1 (by decide +kernel)
    · refine List.forall_mem_singleton.2 fun named => ?_
      exact absurd (Text.lower_eq_lower_iff.2 named) (by decide +kernel)
  have sent : (Headers.ofList entries).get? Headers.identityName = some "e30=" := by decide +kernel
  have nobody : (ofHeaders (.ofList entries)).callerId = none := by decide +kernel
  refine ⟨value, (holds.trimmed _ _).2 ⟨_, value, by decide, by decide⟩, (kept entries' ?_).1, ?_⟩
  · exact (Relation.ReflTransGen.single (.swap [_] _ different)).tail (.recase [_, _, _] _ _ same)
  · exact coherent.invalid.2 ⟨⟨_, sent, by decide⟩, nobody⟩

end Metadata
end ProfileGateway
