import ProfileGateway.Collaborator.Store
import ProfileGateway.Deadline.Settings
import ProfileGateway.Proofs.Caller.Acting
import ProfileGateway.Proofs.Operation.Calls
import ProfileGateway.Proofs.Operation.Engagements
import ProfileGateway.Proofs.Operation.Inputs
import ProfileGateway.Proofs.Operation.Profiles
/-!
# Validation before effects

An operation with an invalid input is refused for the first of them and asks nobody. With valid inputs a write asks
exactly once, and nothing asks a source twice, whatever is answered. Whoever is asked on behalf of a user is told of
the user that the request and its headers name (`Occasion.validates_first`).
-/
namespace ProfileGateway

open Operation

/-! ## On whose behalf -/

/-- The user on whose behalf a call is made. -/
def Call.user? : Call → Option Uuid
  | getProfile user | listEngagements user _ _ _ | favoritesAmong user _ | listWatchHistory user _ _ => some user
  | updateProfile change => some change.userId
  | addEngagement write | removeEngagement write => some write.userId
  | stats _ | projections _ => none

namespace Operation

/-- The user that the request of an operation names. Deletion acts for nobody. -/
def userId? : Operation → Option String
  | getProfile r => r.userId
  | updateProfile r => r.userId
  | deleteProfile _ => none
  | addEngagement r | removeEngagement r => r.userId
  | listFavorites r => r.userId
  | listWatchHistory r => r.userId
  | batchGetFavorites r => r.userId

theorem acting_of_listing {ctx : Context} {userId : Option String} {pageSize : Int32} {pageToken : String}
    {v : Uuid × Window} (h : listing ctx userId pageSize pageToken = .ok v) :
    ActingUser.resolve userId ctx.metadata = .ok v.1 := by
  unfold listing at h
  cases acting : ActingUser.resolve userId ctx.metadata with
  | error e => simp [acting, bind, Except.bind] at h
  | ok user =>
    cases window : Window.ofRequest pageSize pageToken with
    | error e => simp [acting, window, bind, Except.bind] at h
    | ok w =>
      rw [acting, window] at h
      cases h
      rfl

/-- A call on behalf of a user names the acting user of its operation. -/
theorem MayAsk.acting {ctx : Context} {op : Operation} {c : Call} {user : Uuid} (h : op.MayAsk ctx c)
    (told : c.user? = some user) : ActingUser.resolve op.userId? ctx.metadata = .ok user := by
  cases h with
  | profile acting | batch _ acting =>
    cases told
    exact acting
  | update accepted =>
    cases told
    exact (profileChange_spec accepted).1
  | add accepted | remove accepted =>
    cases told
    exact (engagementChange_spec accepted).1
  | favorites accepted | history accepted =>
    cases told
    exact acting_of_listing accepted
  | favoritesProjections | favoritesStats | historyProjections | batchStats => cases told

/-- A user id that is given and malformed is refused whoever calls. -/
theorem refusal?_of_malformed {op : Operation} {raw : String} (names : op.userId? = some raw)
    (filled : Text.trim raw ≠ "") (malformed : Uuid.parse? (Text.trim raw) = none) (metadata : Option Metadata) :
    op.refusal? metadata = some (.notUuid "user_id") := by
  have refused := resolve_of_malformed filled malformed metadata
  cases op with
  | deleteProfile r => cases names
  | _ r =>
    change r.userId = some raw at names
    simp only [refusal?, checks, names, refused]
    rfl

end Operation

/-! ## The law -/

namespace Occasion

variable {σ : Type} {x : Occasion σ} {op : Operation}

/-- An operation that is refused has asked nobody. -/
theorem serve_of_refused {e : Refusal} (refused : op.refusal? x.call.carried = some e) :
    (x.serve op).result = .error e.status ∧ (x.serve op).asked = [] := by
  rw [← x.metadata_context op] at refused
  have still : x.course op = .still (.error e.status) x.store := by
    rw [course, script_of_refused refused]
    rfl
  have uncut : x.Uncut op := by
    rw [uncut_iff, still]
    exact inTime_self _ _
  obtain ⟨result, -, asked, -⟩ := serve_uncut uncut
  rw [still] at result asked
  exact ⟨result, asked⟩

/-- An operation of one call that is not refused makes it. -/
theorem single_asked {ω : Type} {accepted : Except Refusal ω} {call : ω → Call}
    {respond : (w : ω) → (call w).Reply → List Event × op.Response}
    (shape : op.script (x.context op) = .single accepted call respond) (valid : refusalOf accepted = none) :
    ∃ w, (x.serve op).asked = [call w] := by
  rcases single_cases shape with ⟨e, refused, -⟩ | ⟨w, -, asked, -⟩
  · rw [refused] at valid
    cases valid
  · exact ⟨w, asked⟩

/-- A write with valid inputs asks once, and where it writes. -/
theorem write_once {source : Source} (writes : op.writesTo? = some source)
    (valid : op.refusal? x.call.carried = none) : ∃ c, (x.serve op).asked = [c] ∧ c.source = source := by
  rw [← x.metadata_context op] at valid
  cases op with
  | updateProfile r =>
    cases writes
    obtain ⟨change, asked⟩ := single_asked (script_updateProfile _ r) ((refusalOf_profileChange r).trans valid)
    exact ⟨_, asked, rfl⟩
  | addEngagement r =>
    cases writes
    obtain ⟨write, asked⟩ := single_asked (script_addEngagement _ r) ((refusalOf_engagementChange r).trans valid)
    exact ⟨_, asked, rfl⟩
  | removeEngagement r =>
    cases writes
    obtain ⟨write, asked⟩ := single_asked (script_removeEngagement _ r) ((refusalOf_engagementChange r).trans valid)
    exact ⟨_, asked, rfl⟩
  | _ => cases writes

/-- What holds of all operations on an occasion, whatever the collaborators do. -/
structure ValidatesFirst (x : Occasion σ) (h : Headers) : Prop where
  /-- An operation with an invalid input is refused for the first of them and asks nobody. -/
  refused : ∀ (op : Operation) (e : Refusal), op.refusal? x.call.carried = some e →
    (x.serve op).result = .error ⟨.invalidArgument, e.message⟩ ∧ (x.serve op).asked = []
  /-- A write with valid inputs asks exactly once. -/
  writes : ∀ (op : Operation) (source : Source), op.writesTo? = some source → op.refusal? x.call.carried = none →
    ∃ c, (x.serve op).asked = [c] ∧ c.source = source
  /-- No operation asks a source twice. -/
  once : ∀ (op : Operation), ((x.serve op).asked.map Call.source).Nodup
  /-- The acting user is the one that the request and the headers name. -/
  acting : ∀ requested user, ActingUser.resolve requested x.call.carried = .ok user ↔ ActsFor h requested user
  /-- A call on behalf of a user names the user that the request and the headers name. -/
  user : ∀ (op : Operation), ∀ c ∈ (x.serve op).asked, ∀ user, c.user? = some user → ActsFor h op.userId? user
  /-- A request that names its user by something that is no id is refused, whoever the caller is. -/
  malformed : ∀ (op : Operation) (raw : String), op.userId? = some raw → Text.trim raw ≠ "" →
    Uuid.parse? (Text.trim raw) = none →
    (x.serve op).result = .error ⟨.invalidArgument, "user_id must be a valid UUID"⟩ ∧ (x.serve op).asked = []

/-- **Validation comes before effects**, one call is the most, and the right user is named. -/
theorem validates_first (x : Occasion σ) {h : Headers} (brings : x.call.Brings h) : x.ValidatesFirst h := by
  constructor
  case refused =>
    intro op e refused
    exact serve_of_refused refused
  case writes =>
    intro op source writes valid
    exact write_once writes valid
  case once =>
    intro op
    exact asked_once x op
  case acting =>
    intro requested user
    exact resolve_eq_ok brings
  case user =>
    intro op c asked user told
    have acting := (mayAsk_of_asked asked).acting told
    rw [metadata_context] at acting
    exact (resolve_eq_ok brings).1 acting
  case malformed =>
    intro op raw names filled malformed
    exact serve_of_refused (refusal?_of_malformed names filled malformed x.call.carried)

/-! ## A store that refuses every update -/

/-- The headers of the user `1`. -/
def signedIn : Headers :=
  .ofList [("X-Identity-Claims", "eyJzdWIiOiIwMDAwMDAwMC0wMDAwLTAwMDAtMDAwMC0wMDAwMDAwMDAwMDEifQ==")]

/-- The profile store takes its time and then answers every update with a conflict. -/
def conflicting : Occasion Store where
  backend := Conditions.backend {
    delay := fun s => if s = .updateProfile then .ofMillis 2 else .zero
    failure := fun s => if s = .updateProfile then some (.versionConflict 3 4) else none
    rows := .none }
  policy := .standard
  call := .ofHeaders signedIn "conflicting"
  now := .start
  store := ⟨.empty, [], [], .empty, .empty, 0⟩

/-- A foreign path, a plain update and a malformed id, in front of a store where versions conflict. -/
theorem validates_first_conflicting :
    let masked : Operation :=
      .updateProfile ⟨some (Uuid.ofNat 1).print, some "new", none, none, ["bio", "name"], some (-1)⟩
    let plain : Operation := .updateProfile ⟨some "  ", some "new", none, none, [], none⟩
    let misnamed : Operation := .getProfile ⟨some "nobody"⟩
    (conflicting.serve masked).result = .error ⟨.invalidArgument, "unsupported update_mask path: name"⟩ ∧
      (∃ c, (conflicting.serve plain).asked = [c] ∧ c.source = .updateProfile ∧
        ActsFor signedIn (some "  ") (.ofNat 1)) ∧
      (conflicting.serve misnamed).result = .error ⟨.invalidArgument, "user_id must be a valid UUID"⟩ := by
  intro masked plain misnamed
  have law := conflicting.validates_first (h := signedIn) ⟨rfl, rfl⟩
  have acting : ActingUser.resolve (some "  ") conflicting.call.carried = .ok (.ofNat 1) := by decide +kernel
  obtain ⟨c, asked, source⟩ := law.writes plain .updateProfile rfl (by decide +kernel)
  refine ⟨?_, ⟨c, asked, source, (law.acting _ _).1 acting⟩, ?_⟩
  · exact (law.refused masked (.unknownMaskPath "name") (by decide +kernel)).1
  · exact (law.malformed misnamed "nobody" rfl (by decide +kernel) (by decide +kernel)).1

end Occasion
end ProfileGateway
