import ProfileGateway.Script.Run
/-!
# The in-memory store

Collaborators that keep everything in one store: profiles, projections and stats by id, engagements and the watch
log as lists. For tests of failure and delay, each source can be made to fail, to wait or to return given rows.
-/
namespace ProfileGateway

structure Store where
  profiles : Table Uuid Profile
  engagements : List Engagement
  watchLog : List WatchLogEntry
  projections : RowsById VideoProjection
  stats : RowsById VideoStats
  /-- The time that new engagements are stamped with. -/
  clockMs : Int64

namespace Store

/-! ## Reading -/

/-- A window of records, the latest first. Records of one time stay in their order. -/
def latest {α : Type} (time : α → Int64) (offset limit : Nat) (records : List α) : List α :=
  ((records.mergeSort fun a b => decide (time b ≤ time a)).drop offset).take limit

/-- The records known of ids, in the order of the ids. -/
def known {ρ : Type} (t : RowsById ρ) (ids : List Uuid) : List ρ := ids.filterMap t.get?

def profileNotFound (user : Uuid) : Failure := .notFound ("profile " ++ user.print ++ " not found")

def profile (s : Store) (user : Uuid) : Except Failure Profile :=
  match s.profiles.get? user with
  | some p => .ok p
  | none => .error (profileNotFound user)

/-- The engagements of a user of one kind. -/
def engagementsOf (s : Store) (user : Uuid) (kind : EngagementKind) : List Engagement :=
  s.engagements.filter fun e => e.userId = user ∧ e.kind = kind

def historyOf (s : Store) (user : Uuid) : List WatchLogEntry := s.watchLog.filter fun e => e.userId = user

/-- The videos among those asked for that the user has as favorites. -/
def favoritesAmong (s : Store) (user : Uuid) (ids : List Uuid) : List Uuid :=
  ids.filter fun u => (s.engagementsOf user .favorite).any fun e => e.videoId = u

/-! ## Writing -/

/-- A profile after an update, one version further. -/
def applyUpdate (u : ProfileChange) (p : Profile) : Profile :=
  { p with
    displayName := u.displayName.getD p.displayName
    avatarUrl := u.avatarUrl.getD p.avatarUrl
    bio := u.bio.getD p.bio
    version := p.version + 1 }

/-- The profile must be there and have the version that the update expects. -/
def updateProfile (s : Store) (u : ProfileChange) : Except Failure Profile × Store :=
  match s.profile u.userId with
  | .error f => (.error f, s)
  | .ok p =>
    match u.precondition.check p.version with
    | .error f => (.error f, s)
    | .ok () =>
      let p := applyUpdate u p
      (.ok p, { s with profiles := s.profiles.insert u.userId p })

def addEngagement (s : Store) (w : EngagementChange) : Engagement × Store :=
  let e : Engagement := ⟨w.userId, w.videoId, w.kind, s.clockMs⟩
  (e, { s with engagements := s.engagements ++ [e] })

/-- Removes every engagement of the write's user, video and kind; there must be one. -/
def removeEngagement (s : Store) (w : EngagementChange) : Except Failure Unit × Store :=
  if s.engagements.any w.concerns then
    (.ok (), { s with engagements := s.engagements.filter fun e => !w.concerns e })
  else (.error (.notFound "engagement not found"), s)

/-! ## As collaborators -/

def answer : (c : Call) → Store → Except Failure c.Reply × Store
  | .getProfile user, s => (s.profile user, s)
  | .updateProfile u, s => s.updateProfile u
  | .addEngagement w, s =>
    let (e, s) := s.addEngagement w
    (.ok e, s)
  | .removeEngagement w, s => s.removeEngagement w
  | .listEngagements user kind offset limit, s =>
    (.ok (latest Engagement.createdAtMs offset limit (s.engagementsOf user kind)), s)
  | .favoritesAmong user ids, s => (.ok (s.favoritesAmong user ids), s)
  | .listWatchHistory user offset limit, s =>
    (.ok (latest WatchLogEntry.watchedAtMs offset limit (s.historyOf user)), s)
  | .stats ids, s => (.ok (known s.stats ids), s)
  | .projections ids, s => (.ok (known s.projections ids), s)

end Store

/-- Rows that sources return in place of their own. -/
structure RowOverrides where
  engagements : Option (List Engagement)
  favorites : Option (List Uuid)
  history : Option (List WatchLogEntry)
  stats : Option (List VideoStats)
  projections : Option (List VideoProjection)

def RowOverrides.none : RowOverrides := ⟨.none, .none, .none, .none, .none⟩

/-- The rows that a call returns in place of its source's own, if there are any. -/
def RowOverrides.rows? (o : RowOverrides) : (c : Call) → Option c.Reply
  | .listEngagements _ _ _ _ => o.engagements
  | .favoritesAmong _ _ => o.favorites
  | .listWatchHistory _ _ _ => o.history
  | .stats _ => o.stats
  | .projections _ => o.projections
  | .getProfile _ | .updateProfile _ | .addEngagement _ | .removeEngagement _ => .none

/-- How sources are made to behave during a call. -/
structure Conditions where
  delay : Source → Duration
  failure : Source → Option Failure
  rows : RowOverrides

def Conditions.normal : Conditions := ⟨fun _ => .zero, fun _ => none, .none⟩

/-- The store under conditions: after its delay a source fails, or returns the rows it was given, or answers from
the store. -/
def Conditions.backend (c : Conditions) : Backend Store where
  delay call := c.delay call.source
  answer call s :=
    match c.failure call.source with
    | some f => (.error f, s)
    | none =>
      match c.rows.rows? call with
      | some rows => (.ok rows, s)
      | none => Store.answer call s

end ProfileGateway
