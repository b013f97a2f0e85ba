import ProfileGateway.Proofs.Caller.Acting
import ProfileGateway.Proofs.Listing.WholeListing
import ProfileGateway.Proofs.Write.Atomicity
/-!
# The two reads of favorites

A batch tells of each of its videos whether it is a favorite, and a walk through the listing hands out the favorites one
by one. They read the same store in two ways, the batch by membership among the ids that it asks for and the listing
page after page, and each asks the stats source for ids of its own. Both come to the same, of every store that clients
can bring about (`favorite_reads_agree`). What each read comes to is therefore said of the store alone, first.
-/
namespace ProfileGateway

open Operation Page

/-! ## Stores that come about -/

/-- Every row of a table belongs to the id that it stands under. -/
def RowsById.Keyed {ρ : Type} [Row ρ] (t : RowsById ρ) : Prop := ∀ u r, t.get? u = some r → Row.key r = u

namespace Store

/-- The store that is filled with records. -/
def ofRecords (profiles : List Profile) (engagements : List Engagement) (watchLog : List WatchLogEntry)
    (projections : List VideoProjection) (stats : List VideoStats) (clockMs : Int64) : Store where
  profiles := .ofList (profiles.map fun p => (p.userId, p))
  engagements
  watchLog
  projections := .ofRows projections
  stats := .ofRows stats
  clockMs

/-- The store was filled with records, and then clients took turns before it. -/
inductive Reachable : Store → Prop
  | filled (profiles engagements watchLog projections stats clockMs) :
    Reachable (ofRecords profiles engagements watchLog projections stats clockMs)
  | next {s : Store} (reached : Reachable s) (t : Turn) : Reachable (t.next s)

/-- No turn touches the rows of the secondary sources. -/
theorem Reachable.keyed {s : Store} (reached : s.Reachable) :
    RowsById.Keyed s.projections ∧ RowsById.Keyed s.stats := by
  induction reached with
  | filled => exact ⟨fun _ _ => RowsById.key_of_get?, fun _ _ => RowsById.key_of_get?⟩
  | @next s _ t ih =>
    have rest := (t.next_step s).sameRest
    rw [rest.projections, rest.stats]
    exact ih

/-! ## Rows of a source, joined back -/

section Known

variable {ρ : Type} {t : RowsById ρ}

theorem known_concat (t : RowsById ρ) (ids : List Uuid) (v : Uuid) :
    known t (ids ++ [v]) = known t ids ++ (t.get? v).toList := by
  rw [known, List.filterMap_append]
  cases h : t.get? v <;> simp [known, h]

/-- Of the rows of some ids the last one of an id is its row in the table. -/
theorem lastRow?_known [Row ρ] (keyed : t.Keyed) (ids : List Uuid) (u : Uuid) :
    lastRow? (known t ids) u = if u ∈ ids then t.get? u else none := by
  rw [← List.reverse_reverse ids]
  induction ids.reverse with
  | nil => rfl
  | cons v vs ih =>
    rw [List.reverse_cons, known_concat]
    cases row : t.get? v with
    | none =>
      rw [Option.toList_none, List.append_nil, ih]
      by_cases same : u = v
      · subst same
        simp [row]
      · simp [same]
    | some r =>
      have own : Row.key r = v := keyed v r row
      rw [Option.toList_some, lastRow?_concat, ih, own]
      by_cases same : v = u
      · subst same
        simp [row]
      · simp [same, Ne.symm same]

/-- What is joined to an id does not depend on the other ids that are asked for. -/
theorem attach_known [Joinable ρ] (keyed : t.Keyed) {ids : List Uuid} {u : Uuid} (asked : u ∈ ids) :
    (RowsById.ofRows (known t ids)).attach u = t.attach u := by
  rw [RowsById.attach_ofRows, lastRow, lastRow?_known keyed, if_pos asked, RowsById.attach]

end Known

theorem contains_ofRows {us : List Uuid} {u : Uuid} : (RowsById.ofRows us).contains u = true ↔ u ∈ us := by
  rw [Table.contains, RowsById.get?_ofRows]
  simp [lastRow?, Row.key]

/-! ## What each read is to return -/

/-- The favorites of a user, the latest first. -/
def favorites (s : Store) (user : Uuid) : List Engagement :=
  (s.engagementsOf user .favorite).mergeSort fun a b => decide (b.createdAtMs ≤ a.createdAtMs)

/-- A favorite with what the store has of its video. -/
def favoriteItem (s : Store) (e : Engagement) : FavoriteItem :=
  ⟨e, s.projections.attach e.videoId, s.stats.attach e.videoId⟩

/-- What the store has of a video for a user, with or without its stats. -/
def favoriteState (s : Store) (user : Uuid) (includeStats : Bool) (u : Uuid) : FavoriteState :=
  ⟨u, (s.engagementsOf user .favorite).any fun e => e.videoId = u,
    if includeStats then some (s.stats.attach u) else none⟩

/-- The two ways to read a store agree. -/
theorem favorited_iff (s : Store) (user : Uuid) (includeStats : Bool) (u : Uuid) :
    (s.favoriteState user includeStats u).favorited = true ↔
      ∃ item ∈ (s.favorites user).map s.favoriteItem, item.engagement.videoId = u := by
  simp only [favoriteState, favorites, List.any_eq_true, decide_eq_true_eq, List.mem_map, List.mem_mergeSort]
  constructor
  · rintro ⟨e, held, same⟩
    exact ⟨s.favoriteItem e, ⟨e, held, rfl⟩, same⟩
  · rintro ⟨_, ⟨e, held, rfl⟩, same⟩
    exact ⟨e, held, same⟩

/-- The statistics of a listed item are those that the state of its video shows. -/
theorem stats_favoriteState (s : Store) (user : Uuid) {item : FavoriteItem}
    (listed : item ∈ (s.favorites user).map s.favoriteItem) :
    (s.favoriteState user true item.engagement.videoId).stats = some item.stats := by
  obtain ⟨e, -, rfl⟩ := List.mem_map.1 listed
  rfl

end Store

/-! ## Lookups in a store that is left alone -/

/-- No failure is injected, and no rows are given in place of the store's own. -/
structure Conditions.Plain (c : Conditions) : Prop where
  failure : ∀ source, c.failure source = none
  rows : c.rows = .none

section Lookups

variable {c : Conditions} {s : Store}

/-- Under plain conditions the collaborators answer what the store holds. -/
theorem Conditions.Plain.answer (plain : c.Plain) (call : Call) (s : Store) :
    c.backend.answer call s = Store.answer call s := by
  simp only [Conditions.backend, plain.failure, plain.rows]
  cases call <;> rfl

/-- Two branches that are answered and leave the store alone come to both values, whoever is first. -/
theorem Course.both_of_replies {σ β γ : Type} {b : Backend σ} {left : Branch β} {right : Branch γ} {s : σ} {x : β}
    {y : γ} {events events' : List Event} (l : left.reply b s = (⟨events, .ok x⟩, s))
    (r : right.reply b s = (⟨events', .ok y⟩, s)) : (Course.both b left right s).result = .ok (x, y) := by
  unfold Course.both
  dsimp only
  split <;> simp [l, r, Except.map]

/-- A lookup comes to the rows that it is answered with, and to none if there is nothing to ask for. -/
theorem batchLookup_reply {σ ρ : Type} [Row ρ] {b : Backend σ} {s : σ} {source : String} {asked : IdSet}
    {fetch : List Uuid → Ask (List ρ)} {reply : (fetch asked.ids).call.Reply}
    (answered : b.answer (fetch asked.ids).call s = (.ok reply, s))
    (unasked : asked.ids = [] → (fetch asked.ids).read reply = []) :
    (batchLookup source asked fetch).reply b s = (⟨[], .ok (.ofRows ((fetch asked.ids).read reply))⟩, s) := by
  cases blank : asked.isEmpty with
  | true =>
    rw [batchLookup_of_empty blank, unasked (List.isEmpty_iff.1 blank)]
    rfl
  | false =>
    rw [batchLookup_of_ne blank]
    simp only [Branch.reply, answered]
    rfl

theorem Branch.reply_map {σ β γ : Type} (b : Backend σ) (branch : Branch β) (f : β → γ) (s : σ) :
    (branch.map f).reply b s =
      (⟨(branch.reply b s).1.events, (branch.reply b s).1.result.map f⟩, (branch.reply b s).2) := by
  cases branch <;> rfl

/-- A lookup of projections replies those that the store has among the ids. -/
theorem projectionLookup_reply (plain : c.Plain) (asked : IdSet) (s : Store) :
    (projectionLookup asked).reply c.backend s = (⟨[], .ok (.ofRows (Store.known s.projections asked.ids))⟩, s) :=
  batchLookup_reply (plain.answer _ s) fun none => by rw [none]; rfl

theorem statsLookup_reply (plain : c.Plain) (asked : IdSet) (s : Store) :
    (statsLookup asked).reply c.backend s = (⟨[], .ok (.ofRows (Store.known s.stats asked.ids))⟩, s) :=
  batchLookup_reply (plain.answer _ s) fun none => by rw [none]; rfl

/-- A lookup of favorites replies the favorites of the user among the ids. -/
theorem favoritesLookup_reply (plain : c.Plain) (user : Uuid) (asked : IdSet) (s : Store) :
    (favoritesLookup user asked).reply c.backend s = (⟨[], .ok (.ofRows (s.favoritesAmong user asked.ids))⟩, s) :=
  batchLookup_reply (plain.answer _ s) fun none => by rw [none]; rfl

theorem statsLookupIf_reply (plain : c.Plain) (wanted : Bool) (asked : IdSet) (s : Store) :
    (statsLookupIf wanted asked).reply c.backend s =
      (⟨[], .ok (if wanted then some (.ofRows (Store.known s.stats asked.ids)) else none)⟩, s) := by
  cases wanted with
  | false => rfl
  | true =>
    rw [statsLookupIf, if_pos rfl, Branch.reply_map, statsLookup_reply plain]
    rfl

end Lookups

/-! ## Joins of a store's own rows -/

section Joins

variable {s : Store}

/-- A page joined with what the store has shows each favorite as the store does. -/
theorem favoriteItems_known (reached : s.Reachable) (page : List Engagement) :
    let ids := (IdSet.ofList (page.map Engagement.videoId)).ids
    favoriteItems (.ofRows (Store.known s.projections ids)) (.ofRows (Store.known s.stats ids)) page =
      page.map s.favoriteItem := by
  refine List.map_congr_left fun e listed => ?_
  have asked : e.videoId ∈ (IdSet.ofList (page.map Engagement.videoId)).ids :=
    IdSet.mem_ofList.2 (List.mem_map_of_mem listed)
  rw [Store.attach_known reached.keyed.1 asked, Store.attach_known reached.keyed.2 asked, Store.favoriteItem]

/-- States joined with what the store has are the states in the store. -/
theorem favoriteStates_known (reached : s.Reachable) (user : Uuid) (includeStats : Bool) (ids : List Uuid) :
    let asked := (IdSet.ofList ids).ids
    favoriteStates (.ofRows (s.favoritesAmong user asked))
        (if includeStats then some (.ofRows (Store.known s.stats asked)) else none) ids =
      ids.map (s.favoriteState user includeStats) := by
  refine List.map_congr_left fun u named => ?_
  have asked : u ∈ (IdSet.ofList ids).ids := IdSet.mem_ofList.2 named
  have favorited : (RowsById.ofRows (s.favoritesAmong user (IdSet.ofList ids).ids)).contains u =
      (s.engagementsOf user .favorite).any fun e => e.videoId = u := by
    rw [Bool.eq_iff_iff, Store.contains_ofRows, Store.favoritesAmong, List.mem_filter]
    exact and_iff_right asked
  rw [favorited, Store.favoriteState]
  cases includeStats with
  | false => rfl
  | true =>
    simp only [if_true, Option.map_some]
    rw [Store.attach_known reached.keyed.2 asked]

end Joins

/-! ## Answers -/

/-- Cutting a page out of records does not look into the records. -/
theorem Window.page_map {α β : Type} (w : Window) (f : α → β) (rows : List α) :
    w.page (rows.map f) = (w.page rows).map fun page => ⟨page.items.map f, page.nextToken⟩ := by
  unfold page
  rw [List.length_map]
  split
  · rfl
  · split
    · rw [← List.map_take]
      rfl
    · rfl

/-- Entries that are ids are read as these ids. -/
theorem parseIds_eq_ok (field : String) {raw : List String} {ids : List Uuid}
    (names : raw.map (fun entry => Uuid.parse? (Text.trim entry)) = ids.map some) : parseIds field raw = .ok ids := by
  induction raw generalizing ids with
  | nil =>
    cases List.map_eq_nil_iff.1 names.symm
    rfl
  | cons entry rest ih =>
    cases ids with
    | nil => cases names
    | cons u us =>
      obtain ⟨first, others⟩ := List.cons.inj names
      rw [parseIds, ofField_eq_ok.2 first, ih others]
      rfl

/-- The items and the token of a response. -/
def ListFavoritesResponse.itemPage (r : ListFavoritesResponse) : Page FavoriteItem := ⟨r.items, r.nextPageToken⟩

namespace Setting

/-- A read for this user with which nothing interferes. -/
structure Undisturbed (x : Setting) (s : Store) (user : Uuid) (userId : Option String) (op : Operation) : Prop where
  plain : x.conditions.Plain
  acting : ActingUser.resolve userId x.call.carried = .ok user
  uncut : (x.occasion s).Uncut op

variable {x : Setting} {s : Store} {user : Uuid}

/-- A listing answers with a page of the favorites, each with what the store has of its video. -/
theorem Undisturbed.listing {r : ListFavoritesRequest} {window : Window} (reached : s.Reachable)
    (undisturbed : x.Undisturbed s user r.userId (.listFavorites r))
    (asks : Window.ofRequest r.pageSize r.pageToken = .ok window) :
    (x.serve (.listFavorites r) s).result.map ListFavoritesResponse.itemPage =
      (window.pageOf ((s.favorites user).map s.favoriteItem)).mapError Refusal.status := by
  obtain ⟨plain, acting, uncut⟩ := undisturbed
  have answered := plain.answer (.listEngagements user .favorite window.offset window.fetchSize) s
  have reads : (x.occasion s).ReadsFavorites r user window
      (((s.favorites user).drop window.offset).take window.fetchSize) :=
    ⟨acting, asks, congrArg Prod.fst answered⟩
  have store : (x.occasion s).afterFavorites user window = s := congrArg Prod.snd answered
  rw [serve, (Occasion.serve_uncut uncut).1, Window.pageOf, ← List.map_drop, ← List.map_take, Window.page_map]
  cases fits : window.page (((s.favorites user).drop window.offset).take window.fetchSize) with
  | error e =>
    rw [Occasion.course_listFavorites, reads.fetched, fits]
    rfl
  | ok page =>
    have both := Course.both_of_replies
      (projectionLookup_reply plain (IdSet.ofList (page.items.map Engagement.videoId)) s)
      (statsLookup_reply plain (IdSet.ofList (page.items.map Engagement.videoId)) s)
    have items := favoriteItems_known reached page.items
    rw [(reads.course fits).1, store]
    change ((Course.both x.conditions.backend _ _ s).result.map _).map _ = _
    rw [both]
    simp only [Except.map, ListFavoritesResponse.itemPage, items, mapError_ok]

/-- A batch answers with what the store has of each of its ids. -/
theorem Undisturbed.batch {r : BatchGetFavoritesRequest} {ids : List Uuid} (reached : s.Reachable)
    (undisturbed : x.Undisturbed s user r.userId (.batchGetFavorites r))
    (names : r.videoIds.map (fun entry => Uuid.parse? (Text.trim entry)) = ids.map some)
    (few : (firsts ids).length ≤ batchLimit) :
    (x.serve (.batchGetFavorites r) s).result =
      .ok ⟨(firsts ids).map (s.favoriteState user r.includeStats)⟩ := by
  obtain ⟨plain, acting, uncut⟩ := undisturbed
  have accepted : batchIds r.videoIds = .ok (firsts ids) := by
    rw [batchIds, parseIds_eq_ok "video_ids" names]
    exact if_neg (Nat.not_lt.2 few)
  have both := Course.both_of_replies (favoritesLookup_reply plain user (IdSet.ofList (firsts ids)) s)
    (statsLookupIf_reply plain r.includeStats (IdSet.ofList (firsts ids)) s)
  have states := favoriteStates_known reached user r.includeStats (firsts ids)
  rw [serve, (Occasion.serve_uncut uncut).1, Occasion.course_batchGetFavorites]
  change (Course.bind (.still ((ActingUser.resolve r.userId x.call.carried).mapError Refusal.status) s) _).result = _
  rw [acting, mapError_ok, Course.bind_still, accepted, mapError_ok, Course.bind_still, Course.bind_map]
  change (Course.both x.conditions.backend _ _ s).result.map _ = _
  rw [both]
  simp only [Except.map, states]

end Setting

/-! ## The agreement -/

/-- The walk of a client through favorites, with the items that it receives. -/
def favoriteItemsWalk (s : Store) (visits : Nat → Setting) (userIds : Nat → Option String) (sizes : Nat → Int32) :
    Nat → Walk FavoriteItem :=
  Walk.after fun i token =>
    ((visits i).serve (.listFavorites (favoritesRequest userIds sizes i token)) s).result.map
      ListFavoritesResponse.itemPage

section Agreement

variable {s : Store} {user : Uuid} {visits : Nat → Setting} {userIds : Nat → Option String} {sizes : Nat → Int32}

/-- Every request of the walk is for this user, and nothing interferes with it. -/
def WalksUndisturbed (s : Store) (user : Uuid) (visits : Nat → Setting) (userIds : Nat → Option String)
    (sizes : Nat → Int32) : Prop :=
  ∀ i token, (favoriteItemsWalk s visits userIds sizes i).standing = .asking token →
    (visits i).Undisturbed s user (userIds i) (.listFavorites (favoritesRequest userIds sizes i token))

/-- The walk receives every favorite, with what the store has of its video. -/
theorem favoriteItemsWalk_walked (reached : s.Reachable) (walks : WalksUndisturbed s user visits userIds sizes) :
    Walk.Walked ((s.favorites user).map s.favoriteItem) sizes (favoriteItemsWalk s visits userIds sizes) := by
  refine Walk.walked_of_pages fun i token asking reads => ?_
  refine Setting.Undisturbed.listing reached (walks i token asking) ?_
  rw [favoritesRequest, Window.ofRequest, reads]
  rfl

/-- **The two reads of favorites agree.** Of every store that clients can bring about, a batch marks as favorites those
of its videos that a walk through the listing of the same user comes across, whatever page sizes it asks for, and
attaches to them the stats that the listing attaches. The walk comes to its end, and it leaves the store as it is. -/
theorem favorite_reads_agree (reached : s.Reachable) (few : (s.engagementsOf user .favorite).length ≤ 2147483648)
    (walks : WalksUndisturbed s user visits userIds sizes)
    {visit : Setting} {r : BatchGetFavoritesRequest} {ids : List Uuid}
    (asks : visit.Undisturbed s user r.userId (.batchGetFavorites r))
    (names : r.videoIds.map (fun entry => Uuid.parse? (Text.trim entry)) = ids.map some)
    (fits : (firsts ids).length ≤ 100) :
    let walk := favoriteItemsWalk s visits userIds sizes ((s.engagementsOf user .favorite).length + 1)
    walk.standing = .complete ∧
      (∀ i token, ((visits i).serve (.listFavorites (favoritesRequest userIds sizes i token)) s).store = s) ∧
      ∃ response, (visit.serve (.batchGetFavorites r) s).result = .ok response ∧
        response.states.map FavoriteState.videoId = firsts ids ∧
        ∀ state ∈ response.states,
          (state.favorited = true ↔ ∃ item ∈ walk.pages.flatten, item.engagement.videoId = state.videoId) ∧
          (r.includeStats = true → ∀ item ∈ walk.pages.flatten, item.engagement.videoId = state.videoId →
            state.stats = some item.stats) := by
  intro walk
  have length : ((s.favorites user).map s.favoriteItem).length = (s.engagementsOf user .favorite).length := by
    rw [List.length_map, Store.favorites, List.length_mergeSort]
  have whole := (favoriteItemsWalk_walked reached walks).complete (by rw [length]; exact few)
  rw [length] at whole
  have batch := Setting.Undisturbed.batch reached asks names fits
  refine ⟨whole.standing, fun i token => Setting.store_of_reads rfl, _, batch, ?_, ?_⟩
  · rw [List.map_map]
    exact List.map_id'' (fun _ => rfl) _
  · intro state mem
    obtain ⟨u, -, rfl⟩ := List.mem_map.1 mem
    rw [whole.whole]
    refine ⟨s.favorited_iff user r.includeStats u, ?_⟩
    rintro wanted item listed rfl
    rw [wanted]
    exact s.stats_favoriteState user listed

end Agreement

/-! ## Two favorites and a video that is liked -/

/-- The user `1` has two favorites, of which the stats source knows one, and likes another video. -/
def twoAndALike : Store :=
  .ofRecords [] [⟨.ofNat 1, .ofNat 5, .favorite, 30⟩, ⟨.ofNat 1, .ofNat 9, .like, 25⟩,
    ⟨.ofNat 1, .ofNat 3, .favorite, 20⟩] [] [] [⟨.ofNat 5, 7, 2⟩] 0

/-- A call that has all the time there is. -/
def unhurried : Setting :=
  ⟨⟨.zero, .zero, .zero⟩, { Conditions.normal with delay := fun _ => .ofMillis 1 }, ⟨.root "unhurried", .empty⟩, .start⟩

/-- A favorite and a video that is liked only: both reads show the first, and neither takes the second for one. -/
theorem favorite_reads_agree_liked :
    let user := some (Uuid.ofNat 1).print
    let walk := favoriteItemsWalk twoAndALike (fun _ => unhurried) (fun _ => user) (fun _ => 1) 3
    let batch : BatchGetFavoritesRequest :=
      ⟨user, [(Uuid.ofNat 5).print, (Uuid.ofNat 9).print, (Uuid.ofNat 5).print], true⟩
    (unhurried.serve (.batchGetFavorites batch) twoAndALike).result =
        .ok ⟨[⟨.ofNat 5, true, some ⟨.ofNat 5, 7, 2⟩⟩, ⟨.ofNat 9, false, some (.zero (.ofNat 9))⟩]⟩ ∧
      walk.standing = .complete ∧
      (∃ item ∈ walk.pages.flatten, item.engagement.videoId = .ofNat 5) ∧
      (∀ item ∈ walk.pages.flatten, item.engagement.videoId = .ofNat 5 → item.stats = ⟨.ofNat 5, 7, 2⟩) ∧
      ¬∃ item ∈ walk.pages.flatten, item.engagement.videoId = .ofNat 9 := by
  intro user walk batch
  have reached : twoAndALike.Reachable := .filled ..
  have length : (twoAndALike.engagementsOf (.ofNat 1) .favorite).length = 2 := by decide +kernel
  have acting : ActingUser.resolve user unhurried.call.carried = .ok (.ofNat 1) := by decide +kernel
  have undisturbed : ∀ op, unhurried.Undisturbed twoAndALike (.ofNat 1) user op :=
    fun op => ⟨⟨fun _ => rfl, rfl⟩, acting, Occasion.uncut_of_unlimited (by cases op <;> rfl)⟩
  have walks : WalksUndisturbed twoAndALike (.ofNat 1) (fun _ => unhurried) (fun _ => user) (fun _ => 1) :=
    fun _ _ _ => undisturbed _
  have names : batch.videoIds.map (fun entry => Uuid.parse? (Text.trim entry)) =
    [.ofNat 5, .ofNat 9, .ofNat 5].map some := by decide +kernel
  have served : (unhurried.serve (.batchGetFavorites batch) twoAndALike).result =
    .ok ⟨[⟨.ofNat 5, true, some ⟨.ofNat 5, 7, 2⟩⟩, ⟨.ofNat 9, false, some (.zero (.ofNat 9))⟩]⟩ := by decide +kernel
  obtain ⟨complete, -, response, result, -, states⟩ := favorite_reads_agree reached (by rw [length]; decide) walks
    (undisturbed (.batchGetFavorites batch)) names (by decide +kernel)
  rw [length] at complete states
  cases Except.ok.inj (result.symm.trans served)
  have favorite := states ⟨.ofNat 5, true, some ⟨.ofNat 5, 7, 2⟩⟩ (by simp)
  have liked := states ⟨.ofNat 9, false, some (.zero (.ofNat 9))⟩ (by simp)
  refine ⟨served, complete, favorite.1.1 rfl, fun item listed same => ?_, fun listed => ?_⟩
  · exact (Option.some.inj (favorite.2 rfl item listed same)).symm
  · exact nomatch liked.1.2 listed

end ProfileGateway
