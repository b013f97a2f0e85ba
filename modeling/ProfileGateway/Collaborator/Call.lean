import ProfileGateway.Collaborator.Record
import ProfileGateway.Write.Precondition
/-!
# Calls to collaborators

What the gateway asks of the profile store, the engagement store, the watch log and the sources of video data,
and what each of them replies with.
-/
namespace ProfileGateway

/-- What to change in a profile; absent fields stay as they are. -/
structure ProfileChange where
  userId : Uuid
  displayName : Option String
  avatarUrl : Option String
  bio : Option String
  precondition : Precondition
  idempotencyKey : Option String
deriving DecidableEq, Repr

structure EngagementChange where
  userId : Uuid
  videoId : Uuid
  kind : EngagementKind
  idempotencyKey : Option String
deriving DecidableEq, Repr

/-- The engagement is of the user, video and kind that are written. -/
def EngagementChange.concerns (w : EngagementChange) (e : Engagement) : Bool :=
  e.userId = w.userId ∧ e.videoId = w.videoId ∧ e.kind = w.kind

/-- Who is called. -/
inductive Source
  | getProfile
  | updateProfile
  | addEngagement
  | removeEngagement
  | listEngagements
  | favorites
  | watchHistory
  | stats
  | projection
deriving DecidableEq, Repr

def Source.name : Source → String
  | getProfile => "get_profile"
  | updateProfile => "update_profile"
  | addEngagement => "add_engagement"
  | removeEngagement => "remove_engagement"
  | listEngagements => "list_engagements"
  | favorites => "favorites"
  | watchHistory => "watch_history"
  | stats => "stats"
  | projection => "projection"

inductive Call
  | getProfile (user : Uuid)
  | updateProfile (update : ProfileChange)
  | addEngagement (write : EngagementChange)
  | removeEngagement (write : EngagementChange)
  | listEngagements (user : Uuid) (kind : EngagementKind) (offset limit : Nat)
  | favoritesAmong (user : Uuid) (ids : List Uuid)
  | listWatchHistory (user : Uuid) (offset limit : Nat)
  | stats (ids : List Uuid)
  | projections (ids : List Uuid)
deriving DecidableEq, Repr

namespace Call

def source : Call → Source
  | getProfile _ => .getProfile
  | updateProfile _ => .updateProfile
  | addEngagement _ => .addEngagement
  | removeEngagement _ => .removeEngagement
  | listEngagements _ _ _ _ => .listEngagements
  | favoritesAmong _ _ => .favorites
  | listWatchHistory _ _ _ => .watchHistory
  | stats _ => .stats
  | projections _ => .projection

/-- What a call replies with when it succeeds. -/
abbrev Reply : Call → Type
  | getProfile _ => Profile
  | updateProfile _ => Profile
  | addEngagement _ => Engagement
  | removeEngagement _ => Unit
  | listEngagements _ _ _ _ => List Engagement
  | favoritesAmong _ _ => List Uuid
  | listWatchHistory _ _ _ => List WatchLogEntry
  | stats _ => List VideoStats
  | projections _ => List VideoProjection

end Call
end ProfileGateway
