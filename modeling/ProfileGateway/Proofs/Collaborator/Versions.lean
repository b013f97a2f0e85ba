import ProfileGateway.Collaborator.Store
/-!
# Versions in the store

The version of a user's profile moves by one with an update of that profile which the store accepts, and by nothing
else that the store is asked.
-/
namespace ProfileGateway

namespace Store

/-- The version of a user's profile. -/
def version? (s : Store) (u : Uuid) : Option Int64 := (s.profiles.get? u).map Profile.version

/-- The store with a profile of this user. -/
def withProfile (s : Store) (u : Uuid) (p : Profile) : Store := { s with profiles := s.profiles.insert u p }

theorem version?_withProfile (s : Store) (u u' : Uuid) (p : Profile) :
    (s.withProfile u p).version? u' = if u = u' then some p.version else s.version? u' := by
  unfold version? withProfile
  rw [Table.get?_insert]
  split <;> rfl

/-- **An update** finds no profile, or finds another version than it expects, or moves the version by one. -/
theorem updateProfile_cases (s : Store) (c : ProfileChange) :
    (s.version? c.userId = none ∧ s.updateProfile c = (.error (profileNotFound c.userId), s)) ∨
    ∃ v, s.version? c.userId = some v ∧
      ((∃ n, c.precondition = .exactly n ∧ n ≠ v ∧ s.updateProfile c = (.error (.versionConflict n v), s)) ∨
        ∃ p, (∀ n, c.precondition = .exactly n → n = v) ∧ p.version = v + 1 ∧
          s.updateProfile c = (.ok p, s.withProfile c.userId p)) := by
  unfold updateProfile profile version?
  cases s.profiles.get? c.userId with
  | none => exact .inl ⟨rfl, rfl⟩
  | some p =>
    refine .inr ⟨p.version, rfl, ?_⟩
    obtain ⟨expected⟩ := c.precondition
    cases expected with
    | none => exact .inr ⟨applyUpdate c p, fun n h => (nomatch h), rfl, rfl⟩
    | some n =>
      by_cases same : n = p.version
      · refine .inr ⟨applyUpdate c p, fun m h => ?_, rfl, ?_⟩
        · cases h
          exact same
        · simp only [Precondition.check, same, if_true]
          rfl
      · refine .inl ⟨n, rfl, same, ?_⟩
        simp only [Precondition.check, same, if_false]

/-- Whatever else the store is asked, no version changes. -/
theorem version?_answer {c : Call} (other : c.source ≠ .updateProfile) (s : Store) (u : Uuid) :
    (answer c s).2.version? u = s.version? u := by
  cases c with
  | updateProfile change => exact absurd rfl other
  | removeEngagement write =>
    simp only [answer, removeEngagement]
    split <;> rfl
  | getProfile | addEngagement | listEngagements | favoritesAmong | listWatchHistory | stats | projections => rfl

end Store

namespace Conditions

variable (c : Conditions)

/-- An update that is not made to fail comes to the store. -/
theorem answer_update (change : ProfileChange) (s : Store) : c.backend.answer (.updateProfile change) s =
    match c.failure .updateProfile with
    | some f => (.error f, s)
    | none => s.updateProfile change := rfl

theorem version?_answer {call : Call} (other : call.source ≠ .updateProfile) (s : Store) (u : Uuid) :
    (c.backend.answer call s).2.version? u = s.version? u := by
  simp only [backend]
  split
  · rfl
  · split
    · rfl
    · exact Store.version?_answer other s u

/-- A profile that is answered is the one in the store. -/
theorem version?_of_get {u : Uuid} {s : Store} {p : Profile}
    (answered : (c.backend.answer (.getProfile u) s).1 = .ok p) : s.version? u = some p.version := by
  simp only [backend, RowOverrides.rows?, Store.answer, Store.profile, Call.source] at answered
  unfold Store.version?
  split at answered
  · cases answered
  · cases stored : s.profiles.get? u with
    | none => simp [stored] at answered
    | some q =>
      simp only [stored] at answered
      cases answered
      rfl

end Conditions
end ProfileGateway
