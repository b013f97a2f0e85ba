import ProfileGateway.Caller.ActingUser
import ProfileGateway.Deadline.Context
import ProfileGateway.Listing.Page
import ProfileGateway.Operation.Message
import ProfileGateway.Script.Basic
import ProfileGateway.Write.UpdateMask
/-!
# Operations

The operations of the gateway as scripts. Each resolves the acting user first and checks the rest of its input
before it calls anyone. Listings read one page from a primary source and join to it what secondary sources know
of its videos.
-/
namespace ProfileGateway

/-- A request of one of the operations. -/
inductive Operation
  | getProfile (request : GetProfileRequest)
  | updateProfile (request : UpdateProfileRequest)
  | deleteProfile (request : DeleteProfileRequest)
  | addEngagement (request : EngagementRequest)
  | removeEngagement (request : EngagementRequest)
  | listFavorites (request : ListFavoritesRequest)
  | listWatchHistory (request : ListWatchHistoryRequest)
  | batchGetFavorites (request : BatchGetFavoritesRequest)
deriving DecidableEq, Repr

namespace Operation

def name : Operation → String
  | getProfile _ => "get_profile"
  | updateProfile _ => "update_profile"
  | deleteProfile _ => "delete_profile"
  | addEngagement _ => "add_engagement"
  | removeEngagement _ => "remove_engagement"
  | listFavorites _ => "list_favorites"
  | listWatchHistory _ => "list_watch_history"
  | batchGetFavorites _ => "batch_get_favorites"

def kind : Operation → OperationKind
  | getProfile _ | listFavorites _ | listWatchHistory _ | batchGetFavorites _ => .query
  | updateProfile _ | deleteProfile _ | addEngagement _ | removeEngagement _ => .command

/-- What the operation answers with when it succeeds. -/
abbrev Response : Operation → Type
  | getProfile _ => ProfileView
  | updateProfile _ => ProfileView
  | deleteProfile _ => Unit
  | addEngagement _ => EngagementResponse
  | removeEngagement _ => Unit
  | listFavorites _ => ListFavoritesResponse
  | listWatchHistory _ => ListWatchHistoryResponse
  | batchGetFavorites _ => BatchGetFavoritesResponse

/-! ## Profiles -/

/-- A profile with the tag of its version. -/
def viewOf (p : Profile) : ProfileView := ⟨p, Etag.ofVersion p.version⟩

def runGetProfile (ctx : Context) (r : GetProfileRequest) : Script ProfileView := do
  let user ← .accept (ActingUser.resolve r.userId ctx.metadata)
  let profile ← .call (.getProfile user)
  return viewOf profile

/-- The fields that a mask may name. -/
def maskPaths : List String := ["display_name", "avatar_url", "bio"]

/-- The write of an update: the user, then the mask, then the precondition are checked. -/
def profileChange (ctx : Context) (r : UpdateProfileRequest) : Except Refusal ProfileChange := do
  let userId ← ActingUser.resolve r.userId ctx.metadata
  let mask ← UpdateMask.ofPaths maskPaths r.updateMask
  let precondition ← Precondition.ofRequest r.expectedVersion ctx.metadata
  return {
    userId
    displayName := mask.select "display_name" r.displayName
    avatarUrl := mask.select "avatar_url" r.avatarUrl
    bio := mask.select "bio" r.bio
    precondition
    idempotencyKey := ctx.metadata.bind Metadata.idempotencyKey }

def runUpdateProfile (ctx : Context) (r : UpdateProfileRequest) : Script ProfileView := do
  let update ← .accept (profileChange ctx r)
  let profile ← .call (.updateProfile update)
  .log (ctx.event (.profileUpdated profile.userId profile.version)) (.done (viewOf profile))

/-! ## Engagements -/

/-- The write of an engagement: the user, then the video, then the kind are checked. -/
def engagementChange (ctx : Context) (r : EngagementRequest) : Except Refusal EngagementChange := do
  let userId ← ActingUser.resolve r.userId ctx.metadata
  let videoId ← Uuid.ofField "video_id" r.videoId
  let kind ← EngagementKind.parse r.kind
  return { userId, videoId, kind, idempotencyKey := ctx.metadata.bind Metadata.idempotencyKey }

def runAddEngagement (ctx : Context) (r : EngagementRequest) : Script EngagementResponse := do
  let write ← .accept (engagementChange ctx r)
  let engagement ← .call (.addEngagement write)
  return ⟨engagement⟩

def runRemoveEngagement (ctx : Context) (r : EngagementRequest) : Script Unit := do
  let write ← .accept (engagementChange ctx r)
  .call (.removeEngagement write)

/-! ## Listings -/

def projectionLookup (asked : IdSet) : Branch (RowsById VideoProjection) :=
  batchLookup Source.projection.name asked fun ids => ⟨.projections ids, id⟩

def statsLookup (asked : IdSet) : Branch (RowsById VideoStats) :=
  batchLookup Source.stats.name asked fun ids => ⟨.stats ids, id⟩

/-- The items of a page of favorites. -/
def favoriteItems (videos : RowsById VideoProjection) (stats : RowsById VideoStats) (page : List Engagement) :
    List FavoriteItem :=
  page.map fun e => ⟨e, videos.attach e.videoId, stats.attach e.videoId⟩

/-- The user and the window of a listing. -/
def listing (ctx : Context) (userId : Option String) (pageSize : Int32) (pageToken : String) :
    Except Refusal (Uuid × Window) := do
  let user ← ActingUser.resolve userId ctx.metadata
  let window ← Window.ofRequest pageSize pageToken
  return (user, window)

def runListFavorites (ctx : Context) (r : ListFavoritesRequest) : Script ListFavoritesResponse := do
  let (user, window) ← .accept (listing ctx r.userId r.pageSize r.pageToken)
  let rows ← .call (.listEngagements user .favorite window.offset window.fetchSize)
  let page ← .accept (window.page rows)
  let asked := IdSet.ofList (page.items.map Engagement.videoId)
  let (videos, stats) ← .joined (projectionLookup asked) (statsLookup asked)
  return ⟨favoriteItems videos stats page.items, page.nextToken⟩

def historyItems (videos : RowsById VideoProjection) (page : List WatchLogEntry) : List WatchHistoryItem :=
  page.map fun e => ⟨e, videos.attach e.videoId⟩

def runListWatchHistory (ctx : Context) (r : ListWatchHistoryRequest) : Script ListWatchHistoryResponse := do
  let (user, window) ← .accept (listing ctx r.userId r.pageSize r.pageToken)
  let rows ← .call (.listWatchHistory user window.offset window.fetchSize)
  let page ← .accept (window.page rows)
  let asked := IdSet.ofList (page.items.map WatchLogEntry.videoId)
  let videos ← .lookup (projectionLookup asked)
  return ⟨historyItems videos page.items, page.nextToken⟩

/-! ## Batches -/

/-- The most ids that a batch may name. -/
def batchLimit : Nat := 100

/-- The ids in order of their first occurrence, each once. -/
def firsts : List Uuid → List Uuid
  | [] => []
  | u :: us => u :: (firsts us).filter (· ≠ u)

def parseIds (field : String) : List String → Except Refusal (List Uuid)
  | [] => .ok []
  | raw :: rest => do
    let u ← Uuid.ofField field raw
    let us ← parseIds field rest
    return u :: us

/-- The distinct ids of a batch: every entry must be an id, and then there must not be too many. -/
def batchIds (raw : List String) : Except Refusal (List Uuid) := do
  let ids ← parseIds "video_ids" raw
  if batchLimit < (firsts ids).length then .error (.tooManyIds batchLimit) else .ok (firsts ids)

def favoritesLookup (user : Uuid) (asked : IdSet) : Branch (RowsById Uuid) :=
  batchLookup Source.favorites.name asked fun ids => ⟨.favoritesAmong user ids, id⟩

/-- The stats of a batch, if they are asked for. -/
def statsLookupIf (wanted : Bool) (asked : IdSet) : Branch (Option (RowsById VideoStats)) :=
  if wanted then Branch.map some (statsLookup asked) else .ready none

/-- What is known of each id of a batch. -/
def favoriteStates (favorites : RowsById Uuid) (stats : Option (RowsById VideoStats)) (ids : List Uuid) :
    List FavoriteState :=
  ids.map fun u => ⟨u, favorites.contains u, stats.map fun t => t.attach u⟩

def runBatchGetFavorites (ctx : Context) (r : BatchGetFavoritesRequest) :
    Script BatchGetFavoritesResponse := do
  let user ← .accept (ActingUser.resolve r.userId ctx.metadata)
  let ids ← .accept (batchIds r.videoIds)
  let asked := IdSet.ofList ids
  let (favorites, stats) ← .joined (favoritesLookup user asked) (statsLookupIf r.includeStats asked)
  return ⟨favoriteStates favorites stats ids⟩

/-! ## All of them -/

def script (ctx : Context) : (op : Operation) → Script op.Response
  | getProfile r => runGetProfile ctx r
  | updateProfile r => runUpdateProfile ctx r
  | deleteProfile _ => .fail .deleteUnsupported
  | addEngagement r => runAddEngagement ctx r
  | removeEngagement r => runRemoveEngagement ctx r
  | listFavorites r => runListFavorites ctx r
  | listWatchHistory r => runListWatchHistory ctx r
  | batchGetFavorites r => runBatchGetFavorites ctx r

end Operation
end ProfileGateway
