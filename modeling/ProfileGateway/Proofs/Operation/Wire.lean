import ProfileGateway.Operation.Message
import ProfileGateway.Proofs.Json.RoundTrip
/-!
# Messages on the wire

Every request, every response and every record of the collaborators is read back from what is written of it,
however that is varied; a request is also read from an object that lacks fields that hold their defaults
(`wire_round_trip`).
-/
namespace ProfileGateway

open Json

/-- The types of what is sent and received. -/
inductive WireType
  | profile
  | engagementKind
  | engagement
  | watchLogEntry
  | videoProjection
  | videoStats
  | getProfileRequest
  | updateProfileRequest
  | deleteProfileRequest
  | engagementRequest
  | listFavoritesRequest
  | listWatchHistoryRequest
  | batchGetFavoritesRequest
  | profileView
  | engagementResponse
  | favoriteItem
  | listFavoritesResponse
  | watchHistoryItem
  | listWatchHistoryResponse
  | favoriteState
  | batchGetFavoritesResponse

namespace WireType

def Value : WireType → Type
  | profile => Profile
  | engagementKind => EngagementKind
  | engagement => Engagement
  | watchLogEntry => WatchLogEntry
  | videoProjection => VideoProjection
  | videoStats => VideoStats
  | getProfileRequest => GetProfileRequest
  | updateProfileRequest => UpdateProfileRequest
  | deleteProfileRequest => DeleteProfileRequest
  | engagementRequest => EngagementRequest
  | listFavoritesRequest => ListFavoritesRequest
  | listWatchHistoryRequest => ListWatchHistoryRequest
  | batchGetFavoritesRequest => BatchGetFavoritesRequest
  | profileView => ProfileView
  | engagementResponse => EngagementResponse
  | favoriteItem => FavoriteItem
  | listFavoritesResponse => ListFavoritesResponse
  | watchHistoryItem => WatchHistoryItem
  | listWatchHistoryResponse => ListWatchHistoryResponse
  | favoriteState => FavoriteState
  | batchGetFavoritesResponse => BatchGetFavoritesResponse

def codec : (w : WireType) → Codec w.Value
  | profile => Profile.codec
  | engagementKind => EngagementKind.codec
  | engagement => Engagement.codec
  | watchLogEntry => WatchLogEntry.codec
  | videoProjection => VideoProjection.codec
  | videoStats => VideoStats.codec
  | getProfileRequest => GetProfileRequest.codec
  | updateProfileRequest => UpdateProfileRequest.codec
  | deleteProfileRequest => DeleteProfileRequest.codec
  | engagementRequest => EngagementRequest.codec
  | listFavoritesRequest => ListFavoritesRequest.codec
  | listWatchHistoryRequest => ListWatchHistoryRequest.codec
  | batchGetFavoritesRequest => BatchGetFavoritesRequest.codec
  | profileView => ProfileView.codec
  | engagementResponse => EngagementResponse.codec
  | favoriteItem => FavoriteItem.codec
  | listFavoritesResponse => ListFavoritesResponse.codec
  | watchHistoryItem => WatchHistoryItem.codec
  | listWatchHistoryResponse => ListWatchHistoryResponse.codec
  | favoriteState => FavoriteState.codec
  | batchGetFavoritesResponse => BatchGetFavoritesResponse.codec

/-- The request all of whose fields hold their defaults. -/
def initial? : (w : WireType) → Option w.Value
  | getProfileRequest => some (⟨none⟩ : GetProfileRequest)
  | updateProfileRequest => some (⟨none, none, none, none, [], none⟩ : UpdateProfileRequest)
  | deleteProfileRequest => some (⟨none⟩ : DeleteProfileRequest)
  | engagementRequest => some (⟨none, "", ""⟩ : EngagementRequest)
  | listFavoritesRequest => some (⟨none, 0, ""⟩ : ListFavoritesRequest)
  | listWatchHistoryRequest => some (⟨none, 0, ""⟩ : ListWatchHistoryRequest)
  | batchGetFavoritesRequest => some (⟨none, [], false⟩ : BatchGetFavoritesRequest)
  | _ => none

end WireType

/-! ## Records -/

@[simp] theorem Profile.lawful_codec : Profile.codec.Lawful := Codec.lawful_record (by simp) rfl fun _ => rfl

@[simp] theorem EngagementKind.lawful_codec : EngagementKind.codec.Lawful :=
  Codec.lawful_choice (by rintro (_ | _ | _) <;> decide) (by rintro (_ | _ | _) (_ | _ | _) <;> decide)

@[simp] theorem Engagement.lawful_codec : Engagement.codec.Lawful := Codec.lawful_record (by simp) rfl fun _ => rfl

@[simp] theorem WatchLogEntry.lawful_codec : WatchLogEntry.codec.Lawful :=
  Codec.lawful_record (by simp) rfl fun _ => rfl

@[simp] theorem VideoProjection.lawful_codec : VideoProjection.codec.Lawful :=
  Codec.lawful_record (by simp) rfl fun _ => rfl

@[simp] theorem VideoStats.lawful_codec : VideoStats.codec.Lawful := Codec.lawful_record (by simp) rfl fun _ => rfl

@[simp] theorem VideoStats.present_codec : VideoStats.codec.Present := Codec.present_record

@[simp] theorem FavoriteItem.lawful_codec : FavoriteItem.codec.Lawful :=
  Codec.lawful_record (by simp) rfl fun _ => rfl

@[simp] theorem WatchHistoryItem.lawful_codec : WatchHistoryItem.codec.Lawful :=
  Codec.lawful_record (by simp) rfl fun _ => rfl

@[simp] theorem FavoriteState.lawful_codec : FavoriteState.codec.Lawful :=
  Codec.lawful_record (by simp) rfl fun _ => rfl

/-! ## Round trips -/

namespace WireType

/-- Every type that goes over the wire has a lawful codec. -/
theorem lawful_codec : (w : WireType) → w.codec.Lawful
  | profile => Profile.lawful_codec
  | engagementKind => EngagementKind.lawful_codec
  | engagement => Engagement.lawful_codec
  | watchLogEntry => WatchLogEntry.lawful_codec
  | videoProjection => VideoProjection.lawful_codec
  | videoStats => VideoStats.lawful_codec
  | favoriteItem => FavoriteItem.lawful_codec
  | watchHistoryItem => WatchHistoryItem.lawful_codec
  | favoriteState => FavoriteState.lawful_codec
  | getProfileRequest | updateProfileRequest | deleteProfileRequest | engagementRequest | listFavoritesRequest
  | listWatchHistoryRequest | batchGetFavoritesRequest | profileView | engagementResponse | listFavoritesResponse
  | listWatchHistoryResponse | batchGetFavoritesResponse => Codec.lawful_record (by simp) rfl fun _ => rfl

/-- The members that a type has defaults for may be left out. -/
theorem omits_codec : (w : WireType) → ∀ initial ∈ w.initial?, w.codec.Omits initial
  | getProfileRequest, _, rfl | updateProfileRequest, _, rfl | deleteProfileRequest, _, rfl
  | engagementRequest, _, rfl | listFavoritesRequest, _, rfl | listWatchHistoryRequest, _, rfl
  | batchGetFavoritesRequest, _, rfl => Codec.omits_record (by simp) rfl (fun _ => rfl) rfl

/-- What is written of a value is read as the value, and so is every text of a variation of it. A request is also
read from the texts of objects that lack fields which hold their defaults. -/
structure RoundTrips (w : WireType) : Prop where
  written : ∀ a, w.codec.ofText (w.codec.toText a) = .ok a
  varied : ∀ a d s, Varied (w.codec.write a) d → Spells d s → w.codec.ofText s = .ok a
  abridged : ∀ initial ∈ w.initial?, ∀ a d s, Abridged (w.codec.write initial) (w.codec.write a) d → Spells d s →
    w.codec.ofText s = .ok a

end WireType

theorem wire_round_trip (w : WireType) : w.RoundTrips where
  written a := Codec.ofText_of_spells (spells_render _) (w.lawful_codec a _ (Varied.refl _))
  varied a d _ varied spells := Codec.ofText_of_spells spells (w.lawful_codec a d varied)
  abridged initial given a d _ abridged spells :=
    Codec.ofText_of_spells spells (w.omits_codec initial given a d abridged)

/-- A request as a list, and as an object in another order with a member left out and one that it does not know. -/
theorem wire_round_trip_rearranged :
    EngagementRequest.codec.ofText "[\"ann\",\"v\",\"like\"]" = .ok ⟨some "ann", "v", "like"⟩ ∧
    EngagementRequest.codec.ofText "\x7b\"video_id\":\"v\",\"more\":[null],\"user_id\":\"ann\"\x7d" =
      .ok ⟨some "ann", "v", ""⟩ := by
  have law := wire_round_trip .engagementRequest
  constructor
  · have list : Varied (EngagementRequest.codec.write ⟨some "ann", "v", "like"⟩)
        (.ofJson (.array [.string "ann", .string "v", .string "like"])) :=
      .positional (.cons .string (.cons .string (.cons .string .nil)))
    exact law.varied _ _ _ list (spells_render _)
  · let user : String × Json := ("user_id", .string "ann")
    let video : String × Json := ("video_id", .string "v")
    let more : String × Json := ("more", .array [.null])
    have part : [user, video].Sublist [user, video, ("kind", .string "")] := by simp
    have left : ∀ m ∈ [user, video, ("kind", .string "")], m ∉ [user, video] →
        m ∈ [("user_id", .null), ("video_id", .string ""), ("kind", .string "")] := by simp +contextual
    have order : ([video, more] ++ [user]).Perm ([user] ++ [video, more]) := List.perm_append_comm
    have object : Abridged (EngagementRequest.codec.write ⟨none, "", ""⟩)
        (EngagementRequest.codec.write ⟨some "ann", "v", ""⟩) (.ofJson (.object [video, more, user])) :=
      .ofJson part left (List.forall_mem_singleton.2 (by decide)) order
    exact law.abridged _ rfl _ _ _ object (spells_render _)

end ProfileGateway
