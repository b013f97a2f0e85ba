import ProfileGateway.Proofs.Listing.FanOut
import ProfileGateway.Proofs.Listing.Walk
/-!
# Whole listings

A client that sends back every token it is given receives all favorites, or all of the watch history, of a user, each
record once and in order, whatever sizes it asks for (`listing_walk`).
-/
namespace ProfileGateway

open Operation Page

/-- The records and the token of a response. -/
def ListFavoritesResponse.page (r : ListFavoritesResponse) : Page Engagement :=
  ⟨r.items.map FavoriteItem.engagement, r.nextPageToken⟩

/-- The records and the token of a response. -/
def ListWatchHistoryResponse.page (r : ListWatchHistoryResponse) : Page WatchLogEntry :=
  ⟨r.items.map WatchHistoryItem.entry, r.nextPageToken⟩

namespace Occasion

variable {σ : Type}

/-- The acting user has these favorites, and no source fails. -/
structure HoldsFavorites (x : Occasion σ) (userId : Option String) (listing : List Engagement) : Prop where
  primary : ∃ user, ActingUser.resolve userId x.call.carried = .ok user ∧ ∀ offset limit,
    (x.backend.answer (.listEngagements user .favorite offset limit) x.store).1 = .ok ((listing.drop offset).take limit)
  projections : ∀ ids s, ¬HardFails (x.backend.answer (.projections ids) s).1
  stats : ∀ ids s, ¬HardFails (x.backend.answer (.stats ids) s).1

/-- The acting user has this watch history, and no source fails. -/
structure HoldsHistory (x : Occasion σ) (userId : Option String) (listing : List WatchLogEntry) : Prop where
  primary : ∃ user, ActingUser.resolve userId x.call.carried = .ok user ∧ ∀ offset limit,
    (x.backend.answer (.listWatchHistory user offset limit) x.store).1 = .ok ((listing.drop offset).take limit)
  projections : ∀ ids s, ¬HardFails (x.backend.answer (.projections ids) s).1

variable {x : Occasion σ}

/-! ## Lookups that are answered -/

/-- Two lookups from sources without hard failures both settle. -/
theorem both_succeeds (projections : ∀ ids s, ¬HardFails (x.backend.answer (.projections ids) s).1)
    (stats : ∀ ids s, ¬HardFails (x.backend.answer (.stats ids) s).1) (asked : IdSet) (s : σ) :
    ∃ v, (Course.both x.backend (projectionLookup asked) (statsLookup asked) s).result = .ok v := by
  cases blank : asked.isEmpty with
  | true =>
    rw [projectionLookup_of_empty blank, statsLookup_of_empty blank]
    exact ⟨_, rfl⟩
  | false =>
    have left : ¬HardFails (x.backend.together (.projections asked.ids) (.stats asked.ids) s).1 := by
      unfold Backend.together
      split <;> exact projections _ _
    have right : ¬HardFails (x.backend.together (.projections asked.ids) (.stats asked.ids) s).2 := by
      unfold Backend.together
      split <;> exact stats _ _
    rw [projectionLookup_of_ne blank, statsLookup_of_ne blank, Course.both_result, settleLookup_soft left,
      settleLookup_soft right]
    exact ⟨_, rfl⟩

theorem lookup_succeeds (projections : ∀ ids s, ¬HardFails (x.backend.answer (.projections ids) s).1) (asked : IdSet)
    (s : σ) : ∃ v, ((Script.lookup (projectionLookup asked)).course x.backend s).result = .ok v := by
  cases blank : asked.isEmpty with
  | true =>
    rw [projectionLookup_of_empty blank]
    exact ⟨_, rfl⟩
  | false =>
    rw [projectionLookup_of_ne blank, Script.course_lookup]
    exact ⟨_, settleLookup_soft (projections _ _)⟩

/-! ## Answers -/

/-- The answer to a request is the page of the listing in its window. -/
theorem HoldsFavorites.answer {r : ListFavoritesRequest} {listing : List Engagement} {window : Window}
    (holds : x.HoldsFavorites r.userId listing) (asks : Window.ofRequest r.pageSize r.pageToken = .ok window)
    (uncut : x.Uncut (.listFavorites r)) :
    (x.serve (.listFavorites r)).result.map ListFavoritesResponse.page =
      (window.pageOf listing).mapError Refusal.status := by
  obtain ⟨user, acting, answered⟩ := holds.primary
  have reads : x.ReadsFavorites r user window ((listing.drop window.offset).take window.fetchSize) :=
    ⟨acting, asks, answered _ _⟩
  rw [(serve_uncut uncut).1, Window.pageOf]
  cases fits : window.page ((listing.drop window.offset).take window.fetchSize) with
  | error e =>
    rw [course_listFavorites, reads.fetched, fits]
    rfl
  | ok page =>
    obtain ⟨v, both⟩ := both_succeeds holds.projections holds.stats
      (IdSet.ofList (page.items.map Engagement.videoId)) (x.afterFavorites user window)
    rw [(reads.course fits).1, both]
    simp [Except.map, ListFavoritesResponse.page, favoriteItems, Function.comp_def]

/-- The answer to a request is the page of the listing in its window. -/
theorem HoldsHistory.answer {r : ListWatchHistoryRequest} {listing : List WatchLogEntry} {window : Window}
    (holds : x.HoldsHistory r.userId listing) (asks : Window.ofRequest r.pageSize r.pageToken = .ok window)
    (uncut : x.Uncut (.listWatchHistory r)) :
    (x.serve (.listWatchHistory r)).result.map ListWatchHistoryResponse.page =
      (window.pageOf listing).mapError Refusal.status := by
  obtain ⟨user, acting, answered⟩ := holds.primary
  have reads : x.ReadsHistory r user window ((listing.drop window.offset).take window.fetchSize) :=
    ⟨acting, asks, answered _ _⟩
  rw [(serve_uncut uncut).1, Window.pageOf]
  cases fits : window.page ((listing.drop window.offset).take window.fetchSize) with
  | error e =>
    rw [course_listWatchHistory, reads.fetched, fits]
    rfl
  | ok page =>
    obtain ⟨v, looked⟩ := lookup_succeeds holds.projections
      (IdSet.ofList (page.items.map WatchLogEntry.videoId)) (x.afterHistory user window)
    rw [(reads.course fits).1, looked]
    simp [Except.map, ListWatchHistoryResponse.page, historyItems, Function.comp_def]

end Occasion

/-! ## The walks -/

section Walks

variable {σ : Type} (visits : Nat → Occasion σ) (userIds : Nat → Option String) (sizes : Nat → Int32)

/-- One of the requests of a walk through favorites. -/
def favoritesRequest (i : Nat) (token : String) : ListFavoritesRequest := ⟨userIds i, sizes i, token⟩

/-- One of the requests of a walk through watch history. -/
def historyRequest (i : Nat) (token : String) : ListWatchHistoryRequest := ⟨userIds i, sizes i, token⟩

/-- The walk of a client through favorites. -/
def favoritesWalk : Nat → Walk Engagement :=
  Walk.after fun i token =>
    ((visits i).serve (.listFavorites (favoritesRequest userIds sizes i token))).result.map ListFavoritesResponse.page

/-- The walk of a client through watch history. -/
def historyWalk : Nat → Walk WatchLogEntry :=
  Walk.after fun i token =>
    ((visits i).serve (.listWatchHistory (historyRequest userIds sizes i token))).result.map
      ListWatchHistoryResponse.page

/-- A walk through a listing receives all of it, whatever sizes it asks for, and fails at most where the offset of the
next page is beyond the largest one. -/
theorem listing_walk :
    (∀ listing, (∀ i, (visits i).HoldsFavorites (userIds i) listing) →
      (∀ i token, (favoritesWalk visits userIds sizes i).standing = .asking token →
        (visits i).Uncut (.listFavorites (favoritesRequest userIds sizes i token))) →
      Walk.Walked listing sizes (favoritesWalk visits userIds sizes)) ∧
    ∀ listing, (∀ i, (visits i).HoldsHistory (userIds i) listing) →
      (∀ i token, (historyWalk visits userIds sizes i).standing = .asking token →
        (visits i).Uncut (.listWatchHistory (historyRequest userIds sizes i token))) →
      Walk.Walked listing sizes (historyWalk visits userIds sizes) := by
  constructor
  · intro listing holds uncut
    refine Walk.walked_of_pages fun i token asking reads => ?_
    refine Occasion.HoldsFavorites.answer (holds i) ?_ (uncut i token asking)
    rw [favoritesRequest, Window.ofRequest, reads]
    rfl
  · intro listing holds uncut
    refine Walk.walked_of_pages fun i token asking reads => ?_
    refine Occasion.HoldsHistory.answer (holds i) ?_ (uncut i token asking)
    rw [historyRequest, Window.ofRequest, reads]
    rfl

end Walks

/-! ## A walk through the in-memory store -/

namespace Occasion

/-- The in-memory store lists the favorites of a user, the latest first. -/
theorem holdsFavorites_of_store {x : Occasion Store} {userId : Option String} {user : Uuid}
    (normal : x.backend = Conditions.normal.backend) (acting : ActingUser.resolve userId x.call.carried = .ok user) :
    x.HoldsFavorites userId ((x.store.engagementsOf user .favorite).mergeSort fun a b =>
      decide (b.createdAtMs ≤ a.createdAtMs)) where
  primary := ⟨user, acting, fun _ _ => by rw [normal]; rfl⟩
  projections ids s := by
    rw [normal]
    exact not_hardFails_ok _
  stats ids s := by
    rw [normal]
    exact not_hardFails_ok _

/-- The in-memory store lists the watch history of a user, the latest first. -/
theorem holdsHistory_of_store {x : Occasion Store} {userId : Option String} {user : Uuid}
    (normal : x.backend = Conditions.normal.backend) (acting : ActingUser.resolve userId x.call.carried = .ok user) :
    x.HoldsHistory userId ((x.store.historyOf user).mergeSort fun a b => decide (b.watchedAtMs ≤ a.watchedAtMs)) where
  primary := ⟨user, acting, fun _ _ => by rw [normal]; rfl⟩
  projections ids s := by
    rw [normal]
    exact not_hardFails_ok _

/-- A user with three favorites, two of them of one video, and two views. -/
def browsing : Occasion Store where
  backend := Conditions.normal.backend
  policy := ⟨.zero, .zero, .zero⟩
  call := ⟨.root "browsing", .empty⟩
  now := .start
  store := {
    profiles := .empty
    engagements := [⟨.ofNat 1, .ofNat 5, .favorite, 30⟩, ⟨.ofNat 1, .ofNat 9, .like, 25⟩,
      ⟨.ofNat 1, .ofNat 3, .favorite, 20⟩, ⟨.ofNat 1, .ofNat 5, .favorite, 10⟩]
    watchLog := [⟨.ofNat 1, .ofNat 3, 8, 20⟩, ⟨.ofNat 1, .ofNat 3, 4, 10⟩]
    projections := .empty
    stats := .empty
    clockMs := 0 }

end Occasion

theorem listing_walk_browsing :
    let visits := fun _ : Nat => Occasion.browsing
    let userIds := fun _ : Nat => some (Uuid.ofNat 1).print
    let sizes := fun i : Nat => if i = 0 then (2 : Int32) else -1
    (favoritesWalk visits userIds sizes 4).pages.flatten = [⟨.ofNat 1, .ofNat 5, .favorite, 30⟩,
        ⟨.ofNat 1, .ofNat 3, .favorite, 20⟩, ⟨.ofNat 1, .ofNat 5, .favorite, 10⟩] ∧
      (historyWalk visits userIds sizes 3).pages.flatten =
        [⟨.ofNat 1, .ofNat 3, 8, 20⟩, ⟨.ofNat 1, .ofNat 3, 4, 10⟩] := by
  intro visits userIds sizes
  have acting : ActingUser.resolve (some (Uuid.ofNat 1).print) Occasion.browsing.call.carried = .ok (.ofNat 1) := by
    decide +kernel
  have favorites := (listing_walk visits userIds sizes).1 _ (fun _ => Occasion.holdsFavorites_of_store rfl acting)
    fun _ _ _ => Occasion.uncut_of_unlimited rfl
  have history := (listing_walk visits userIds sizes).2 _ (fun _ => Occasion.holdsHistory_of_store rfl acting)
    fun _ _ _ => Occasion.uncut_of_unlimited rfl
  rw [List.mergeSort_of_pairwise (by decide +kernel)] at favorites history
  exact ⟨(favorites.complete (by decide)).whole, (history.complete (by decide)).whole⟩

end ProfileGateway
