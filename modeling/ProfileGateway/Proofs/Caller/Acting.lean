import ProfileGateway.Proofs.Operation.Occasion
/-!
# The acting user

Whoever acts for a request is the user that it names, and the subject of the identity token only if it names nobody
(`resolve_eq_ok`). A user id that is no id is not passed over (`resolve_of_malformed`).
-/
namespace ProfileGateway

/-- The user that a request and the headers of its call name: the one of the request, unless that is blank, and
otherwise the subject of the identity token. -/
inductive ActsFor (h : Headers) : Option String → Uuid → Prop
  | requested {raw user} (filled : Text.trim raw ≠ "") (names : Uuid.parse? (Text.trim raw) = some user) :
    ActsFor h (some raw) user
  | caller {requested token subject user} (blank : ∀ raw, requested = some raw → Text.trim raw = "")
      (sent : h.getTrimmed? Headers.identityName = some token)
      (claims : Claims.subjectOfToken? token = some subject)
      (names : Uuid.parse? (Text.trim subject) = some user) : ActsFor h requested user

/-- The call arrives with these headers, and its context carries nothing else. -/
structure Arrival.Brings (call : Arrival) (h : Headers) : Prop where
  metadata : call.metadata = .ofHeaders h
  bare : call.context.metadata = none

/-- A field names the user that it spells, blanks left aside. -/
theorem ofField_eq_ok {field raw : String} {user : Uuid} :
    Uuid.ofField field raw = .ok user ↔ Uuid.parse? (Text.trim raw) = some user := by
  unfold Uuid.ofField
  cases Uuid.parse? (Text.trim raw) <;> simp

/-- A field that spells no id is refused under its name. -/
theorem ofField_eq_error {field raw : String} (h : Uuid.parse? (Text.trim raw) = none) :
    Uuid.ofField field raw = .error (.notUuid field) := by
  rw [Uuid.ofField, h]

section Acting

variable {call : Arrival} {h : Headers}

/-- A call that arrives with headers brings them. -/
theorem brings_ofHeaders (h : Headers) (fresh : String) : (Arrival.ofHeaders h fresh).Brings h := ⟨rfl, rfl⟩

/-- Headers that resolve to nothing are not attached. -/
theorem carried_cases (brings : call.Brings h) :
    call.carried = some (.ofHeaders h) ∨ (call.carried = none ∧ Metadata.ofHeaders h = .empty) := by
  rw [Arrival.carried, Context.carrying, brings.metadata]
  split
  · next nothing => exact .inr ⟨brings.bare, Metadata.isEmpty_iff.1 nothing⟩
  · exact .inl rfl

/-- What a context carries of the headers is what they say, for empty metadata say nothing. -/
theorem carried_bind (brings : call.Brings h) {α : Type} {field : Metadata → Option α} (absent : field .empty = none) :
    call.carried.bind field = field (.ofHeaders h) := by
  rcases carried_cases brings with carried | ⟨carried, nothing⟩
  · rw [carried, Option.bind_some]
  · rw [carried, nothing, Option.bind_none, absent]

/-- A context carries the metadata of the headers, or none. -/
theorem carried_of_brings (brings : call.Brings h) {m : Metadata} (carried : call.carried = some m) :
    m = .ofHeaders h := by
  rw [Arrival.carried, Context.carrying, brings.metadata] at carried
  split at carried
  · rw [brings.bare] at carried
    cases carried
  · exact (Option.some.inj carried).symm

/-- A request that names nobody acts for the caller. -/
theorem actsFor_of_caller (brings : call.Brings h) {requested : Option String} {user : Uuid}
    (blank : ∀ raw, requested = some raw → Text.trim raw = "") (acting : ActingUser.caller call.carried = .ok user) :
    ActsFor h requested user := by
  unfold ActingUser.caller at acting
  cases carried : call.carried with
  | none => simp [carried] at acting
  | some m =>
    cases carried_of_brings brings carried
    simp only [carried, Metadata.ofHeaders] at acting
    cases sent : h.getTrimmed? Headers.identityName with
    | none => simp [sent] at acting
    | some token =>
      cases claims : Claims.subjectOfToken? token with
      | none => simp [sent, claims] at acting
      | some subject =>
        simp only [sent, Option.bind_some, claims] at acting
        exact .caller blank sent claims (ofField_eq_ok.1 acting)

/-- The caller is the user that the claims of its token name. -/
theorem caller_of_claims (brings : call.Brings h) {token subject : String} {user : Uuid}
    (sent : h.getTrimmed? Headers.identityName = some token) (claims : Claims.subjectOfToken? token = some subject)
    (names : Uuid.parse? (Text.trim subject) = some user) : ActingUser.caller call.carried = .ok user := by
  have filled : (Metadata.ofHeaders h).isEmpty = false := by simp [Metadata.isEmpty, Metadata.ofHeaders, sent]
  have carried : call.carried = some (.ofHeaders h) := by
    simp [Arrival.carried, Context.carrying, brings.metadata, filled]
  unfold ActingUser.caller
  simp only [carried, Metadata.ofHeaders, sent, Option.bind_some, claims]
  exact ofField_eq_ok.2 names

/-- Whoever acts for a request is the user that it and its headers name. -/
theorem resolve_eq_ok (brings : call.Brings h) {requested : Option String} {user : Uuid} :
    ActingUser.resolve requested call.carried = .ok user ↔ ActsFor h requested user := by
  constructor
  · intro acting
    cases requested with
    | none => exact actsFor_of_caller brings (fun raw h => nomatch h) acting
    | some raw =>
      rw [ActingUser.resolve] at acting
      split at acting
      · next blank =>
        refine actsFor_of_caller brings ?_ acting
        rintro _ ⟨⟩
        exact Text.blank_iff.1 blank
      · next filled => exact .requested (fun empty => filled (Text.blank_iff.2 empty)) (ofField_eq_ok.1 acting)
  · intro acts
    cases acts with
    | requested filled names =>
      rw [ActingUser.resolve, if_neg (mt Text.blank_iff.1 filled)]
      exact ofField_eq_ok.2 names
    | caller blank sent claims names =>
      have acting := caller_of_claims brings sent claims names
      cases requested with
      | none => exact acting
      | some raw => rw [ActingUser.resolve, if_pos (Text.blank_iff.2 (blank raw rfl)), acting]

/-- A user id that is no id is not passed over. -/
theorem resolve_of_malformed {raw : String} (filled : Text.trim raw ≠ "")
    (malformed : Uuid.parse? (Text.trim raw) = none) (metadata : Option Metadata) :
    ActingUser.resolve (some raw) metadata = .error (.notUuid "user_id") := by
  have shown : Text.blank raw ≠ true := mt Text.blank_iff.1 filled
  rw [ActingUser.resolve, if_neg shown, ofField_eq_error malformed]

end Acting

end ProfileGateway
