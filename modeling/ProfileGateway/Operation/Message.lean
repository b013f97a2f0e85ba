import ProfileGateway.Collaborator.Record
/-!
# Requests and responses

The messages of the gateway and their written forms. Every field of a request has a default; the fields of a
response must all be given.
-/
namespace ProfileGateway

open Json

/-! ## Requests -/

structure GetProfileRequest where
  userId : Option String
deriving DecidableEq, Repr

structure UpdateProfileRequest where
  userId : Option String
  displayName : Option String
  avatarUrl : Option String
  bio : Option String
  updateMask : List String
  expectedVersion : Option Int64
deriving DecidableEq, Repr

structure DeleteProfileRequest where
  userId : Option String
deriving DecidableEq, Repr

structure EngagementRequest where
  userId : Option String
  videoId : String
  kind : String
deriving DecidableEq, Repr

structure ListFavoritesRequest where
  userId : Option String
  pageSize : Int32
  pageToken : String
deriving DecidableEq, Repr

structure ListWatchHistoryRequest where
  userId : Option String
  pageSize : Int32
  pageToken : String
deriving DecidableEq, Repr

structure BatchGetFavoritesRequest where
  userId : Option String
  videoIds : List String
  includeStats : Bool
deriving DecidableEq, Repr

/-! ## Responses -/

structure ProfileView where
  profile : Profile
  etag : String
deriving DecidableEq, Repr

structure EngagementResponse where
  engagement : Engagement
deriving DecidableEq, Repr

structure FavoriteItem where
  engagement : Engagement
  video : VideoProjection
  stats : VideoStats
deriving DecidableEq, Repr

structure ListFavoritesResponse where
  items : List FavoriteItem
  nextPageToken : String
deriving DecidableEq, Repr

structure WatchHistoryItem where
  entry : WatchLogEntry
  video : VideoProjection
deriving DecidableEq, Repr

structure ListWatchHistoryResponse where
  items : List WatchHistoryItem
  nextPageToken : String
deriving DecidableEq, Repr

structure FavoriteState where
  videoId : Uuid
  favorited : Bool
  stats : Option VideoStats
deriving DecidableEq, Repr

structure BatchGetFavoritesResponse where
  states : List FavoriteState
deriving DecidableEq, Repr

/-! ## Written forms of requests -/

def GetProfileRequest.codec : Codec GetProfileRequest :=
  .record (.defaulted "GetProfileRequest") (.optional "user_id" .string .done)
    (fun (userId, _) => ⟨userId⟩) (fun r => (r.userId, ()))

def UpdateProfileRequest.codec : Codec UpdateProfileRequest :=
  .record (.defaulted "UpdateProfileRequest")
    (.optional "user_id" .string <| .optional "display_name" .string <| .optional "avatar_url" .string <|
      .optional "bio" .string <| .defaulting "update_mask" (.list .string) [] <|
      .optional "expected_version" .int64 .done)
    (fun (userId, displayName, avatarUrl, bio, updateMask, expectedVersion, _) =>
      ⟨userId, displayName, avatarUrl, bio, updateMask, expectedVersion⟩)
    (fun r => (r.userId, r.displayName, r.avatarUrl, r.bio, r.updateMask, r.expectedVersion, ()))

def DeleteProfileRequest.codec : Codec DeleteProfileRequest :=
  .record (.defaulted "DeleteProfileRequest") (.optional "user_id" .string .done)
    (fun (userId, _) => ⟨userId⟩) (fun r => (r.userId, ()))

def EngagementRequest.codec : Codec EngagementRequest :=
  .record (.defaulted "EngagementRequest")
    (.optional "user_id" .string <| .defaulting "video_id" .string "" <| .defaulting "kind" .string "" .done)
    (fun (userId, videoId, kind, _) => ⟨userId, videoId, kind⟩)
    (fun r => (r.userId, r.videoId, r.kind, ()))

def ListFavoritesRequest.codec : Codec ListFavoritesRequest :=
  .record (.defaulted "ListFavoritesRequest")
    (.optional "user_id" .string <| .defaulting "page_size" .int32 0 <|
      .defaulting "page_token" .string "" .done)
    (fun (userId, pageSize, pageToken, _) => ⟨userId, pageSize, pageToken⟩)
    (fun r => (r.userId, r.pageSize, r.pageToken, ()))

def ListWatchHistoryRequest.codec : Codec ListWatchHistoryRequest :=
  .record (.defaulted "ListWatchHistoryRequest")
    (.optional "user_id" .string <| .defaulting "page_size" .int32 0 <|
      .defaulting "page_token" .string "" .done)
    (fun (userId, pageSize, pageToken, _) => ⟨userId, pageSize, pageToken⟩)
    (fun r => (r.userId, r.pageSize, r.pageToken, ()))

def BatchGetFavoritesRequest.codec : Codec BatchGetFavoritesRequest :=
  .record (.defaulted "BatchGetFavoritesRequest")
    (.optional "user_id" .string <| .defaulting "video_ids" (.list .string) [] <|
      .defaulting "include_stats" .bool false .done)
    (fun (userId, videoIds, includeStats, _) => ⟨userId, videoIds, includeStats⟩)
    (fun r => (r.userId, r.videoIds, r.includeStats, ()))

/-! ## Written forms of responses -/

def ProfileView.codec : Codec ProfileView :=
  .record (.strict "ProfileView") (.required "profile" Profile.codec <| .required "etag" .string .done)
    (fun (profile, etag, _) => ⟨profile, etag⟩) (fun v => (v.profile, v.etag, ()))

def EngagementResponse.codec : Codec EngagementResponse :=
  .record (.strict "EngagementResponse") (.required "engagement" Engagement.codec .done)
    (fun (engagement, _) => ⟨engagement⟩) (fun r => (r.engagement, ()))

def FavoriteItem.codec : Codec FavoriteItem :=
  .record (.strict "FavoriteItem")
    (.required "engagement" Engagement.codec <| .required "video" VideoProjection.codec <|
      .required "stats" VideoStats.codec .done)
    (fun (engagement, video, stats, _) => ⟨engagement, video, stats⟩)
    (fun i => (i.engagement, i.video, i.stats, ()))

def ListFavoritesResponse.codec : Codec ListFavoritesResponse :=
  .record (.strict "ListFavoritesResponse")
    (.required "items" (.list FavoriteItem.codec) <| .required "next_page_token" .string .done)
    (fun (items, nextPageToken, _) => ⟨items, nextPageToken⟩) (fun r => (r.items, r.nextPageToken, ()))

def WatchHistoryItem.codec : Codec WatchHistoryItem :=
  .record (.strict "WatchHistoryItem")
    (.required "entry" WatchLogEntry.codec <| .required "video" VideoProjection.codec .done)
    (fun (entry, video, _) => ⟨entry, video⟩) (fun i => (i.entry, i.video, ()))

def ListWatchHistoryResponse.codec : Codec ListWatchHistoryResponse :=
  .record (.strict "ListWatchHistoryResponse")
    (.required "items" (.list WatchHistoryItem.codec) <| .required "next_page_token" .string .done)
    (fun (items, nextPageToken, _) => ⟨items, nextPageToken⟩) (fun r => (r.items, r.nextPageToken, ()))

def FavoriteState.codec : Codec FavoriteState :=
  .record (.strict "FavoriteState")
    (.required "video_id" .uuid <| .required "favorited" .bool <| .optional "stats" VideoStats.codec .done)
    (fun (videoId, favorited, stats, _) => ⟨videoId, favorited, stats⟩)
    (fun s => (s.videoId, s.favorited, s.stats, ()))

def BatchGetFavoritesResponse.codec : Codec BatchGetFavoritesResponse :=
  .record (.strict "BatchGetFavoritesResponse") (.required "states" (.list FavoriteState.codec) .done)
    (fun (states, _) => ⟨states⟩) (fun r => (r.states, ()))

end ProfileGateway
