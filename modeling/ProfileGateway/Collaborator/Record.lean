import ProfileGateway.Json.Record
import ProfileGateway.Outcome.Status
import ProfileGateway.Text.Ascii
import ProfileGateway.Text.Blank
/-!
# Records of the collaborators

What the profile store, the engagement store, the watch log and the sources of video data hold, and how each
record is written as JSON.
-/
namespace ProfileGateway

open Json

structure Profile where
  userId : Uuid
  displayName : String
  avatarUrl : String
  bio : String
  version : Int64
deriving DecidableEq, Repr

inductive EngagementKind
  | favorite
  | like
  | watchLater
deriving DecidableEq, Repr

namespace EngagementKind

def all : List EngagementKind := [favorite, like, watchLater]

def name : EngagementKind → String
  | favorite => "favorite"
  | like => "like"
  | watchLater => "watch_later"

/-- Reads a name in any case and with blanks around it. -/
def parse (raw : String) : Except Refusal EngagementKind :=
  let s := Text.lower (Text.trim raw)
  match all.find? fun k => k.name = s with
  | some k => .ok k
  | none => .error (.unknownEngagementKind s)

end EngagementKind

structure Engagement where
  userId : Uuid
  videoId : Uuid
  kind : EngagementKind
  createdAtMs : Int64
deriving DecidableEq, Repr

structure WatchLogEntry where
  userId : Uuid
  videoId : Uuid
  positionSecs : UInt32
  watchedAtMs : Int64
deriving DecidableEq, Repr

/-- What is shown of a video. -/
structure VideoProjection where
  videoId : Uuid
  title : String
  thumbnailUrl : String
  durationSecs : UInt32
deriving DecidableEq, Repr

/-- What stands for a video that nothing is known of. -/
def VideoProjection.empty (videoId : Uuid) : VideoProjection := ⟨videoId, "", "", 0⟩

structure VideoStats where
  videoId : Uuid
  views : UInt64
  favorites : UInt64
deriving DecidableEq, Repr

def VideoStats.zero (videoId : Uuid) : VideoStats := ⟨videoId, 0, 0⟩

/-! ## Written form -/

def Profile.codec : Codec Profile :=
  .record (.strict "Profile")
    (.required "user_id" .uuid <| .required "display_name" .string <| .required "avatar_url" .string <|
      .required "bio" .string <| .required "version" .int64 .done)
    (fun (userId, displayName, avatarUrl, bio, version, _) => ⟨userId, displayName, avatarUrl, bio, version⟩)
    (fun p => (p.userId, p.displayName, p.avatarUrl, p.bio, p.version, ()))

def EngagementKind.codec : Codec EngagementKind := .choice EngagementKind.all EngagementKind.name

def Engagement.codec : Codec Engagement :=
  .record (.strict "Engagement")
    (.required "user_id" .uuid <| .required "video_id" .uuid <| .required "kind" EngagementKind.codec <|
      .required "created_at_ms" .int64 .done)
    (fun (userId, videoId, kind, createdAtMs, _) => ⟨userId, videoId, kind, createdAtMs⟩)
    (fun e => (e.userId, e.videoId, e.kind, e.createdAtMs, ()))

def WatchLogEntry.codec : Codec WatchLogEntry :=
  .record (.strict "WatchLogEntry")
    (.required "user_id" .uuid <| .required "video_id" .uuid <| .required "position_secs" .uint32 <|
      .required "watched_at_ms" .int64 .done)
    (fun (userId, videoId, positionSecs, watchedAtMs, _) => ⟨userId, videoId, positionSecs, watchedAtMs⟩)
    (fun e => (e.userId, e.videoId, e.positionSecs, e.watchedAtMs, ()))

def VideoProjection.codec : Codec VideoProjection :=
  .record (.strict "VideoProjection")
    (.required "video_id" .uuid <| .required "title" .string <| .required "thumbnail_url" .string <|
      .required "duration_secs" .uint32 .done)
    (fun (videoId, title, thumbnailUrl, durationSecs, _) => ⟨videoId, title, thumbnailUrl, durationSecs⟩)
    (fun v => (v.videoId, v.title, v.thumbnailUrl, v.durationSecs, ()))

def VideoStats.codec : Codec VideoStats :=
  .record (.strict "VideoStats")
    (.required "video_id" .uuid <| .required "views" .uint64 <| .required "favorites" .uint64 .done)
    (fun (videoId, views, favorites, _) => ⟨videoId, views, favorites⟩)
    (fun s => (s.videoId, s.views, s.favorites, ()))

end ProfileGateway
