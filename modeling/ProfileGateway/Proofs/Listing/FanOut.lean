import ProfileGateway.Collaborator.Store
import ProfileGateway.Deadline.Settings
import ProfileGateway.Proofs.Listing.Window
import ProfileGateway.Proofs.Operation.Reads
/-!
# Fan-out joins

A listing that succeeds has one item for each record of its page: the record itself, and of each secondary source
the last row for the record's video. A secondary source is asked once at most, for the ids of the page and no
others, and not at all for an empty page (`fanout_join`).
-/
namespace ProfileGateway

open Operation

/-- The ids that records refer to, each once and in ascending order. -/
structure AscendingIds (ids refs : List Uuid) : Prop where
  ascending : ids.Pairwise (· < ·)
  mem_iff : ∀ u, u ∈ ids ↔ u ∈ refs

theorem IdSet.ascendingIds (refs : List Uuid) : AscendingIds (ofList refs).ids refs :=
  ⟨(ofList refs).ascending, fun _ => mem_ofList⟩

/-! ## Lookups -/

section Lookups

variable {asked : IdSet}

/-- The projections of some ids are asked for in one call. -/
theorem projectionLookup_of_ne (h : asked.isEmpty = false) : projectionLookup asked =
    .ask (.projections asked.ids) fun reply => settleLookup Source.projection.name asked reply := by
  rw [projectionLookup, batchLookup_of_ne h]
  simp only [Except.map_id]
  rfl

theorem statsLookup_of_ne (h : asked.isEmpty = false) : statsLookup asked =
    .ask (.stats asked.ids) fun reply => settleLookup Source.stats.name asked reply := by
  rw [statsLookup, batchLookup_of_ne h]
  simp only [Except.map_id]
  rfl

theorem projectionLookup_of_empty (h : asked.isEmpty = true) : projectionLookup asked = .ready .empty :=
  batchLookup_of_empty h

theorem statsLookup_of_empty (h : asked.isEmpty = true) : statsLookup asked = .ready .empty :=
  batchLookup_of_empty h

theorem IdSet.isEmpty_eq_false {refs : List Uuid} (h : refs ≠ []) : (ofList refs).isEmpty = false := by
  rw [Bool.eq_false_iff]
  exact mt isEmpty_ofList.1 h

end Lookups

/-! ## What the primary source was asked and what it answered -/

namespace Occasion

variable {σ : Type}

/-- A listing of favorites acts for this user, asks for this window and is answered with these records. -/
structure ReadsFavorites (x : Occasion σ) (r : ListFavoritesRequest) (user : Uuid) (window : Window)
    (rows : List Engagement) : Prop where
  acting : ActingUser.resolve r.userId x.call.carried = .ok user
  asks : Window.ofRequest r.pageSize r.pageToken = .ok window
  answered : (x.backend.answer (.listEngagements user .favorite window.offset window.fetchSize) x.store).1 = .ok rows

/-- A listing of watch history acts for this user, asks for this window and is answered with these records. -/
structure ReadsHistory (x : Occasion σ) (r : ListWatchHistoryRequest) (user : Uuid) (window : Window)
    (rows : List WatchLogEntry) : Prop where
  acting : ActingUser.resolve r.userId x.call.carried = .ok user
  asks : Window.ofRequest r.pageSize r.pageToken = .ok window
  answered : (x.backend.answer (.listWatchHistory user window.offset window.fetchSize) x.store).1 = .ok rows

/-- The store once the favorites have been listed. -/
def afterFavorites (x : Occasion σ) (user : Uuid) (window : Window) : σ :=
  (x.backend.answer (.listEngagements user .favorite window.offset window.fetchSize) x.store).2

/-- The store once the watch history has been listed. -/
def afterHistory (x : Occasion σ) (user : Uuid) (window : Window) : σ :=
  (x.backend.answer (.listWatchHistory user window.offset window.fetchSize) x.store).2

variable {x : Occasion σ} {user : Uuid} {window : Window}

/-- How the page of a request that can be read is fetched. -/
theorem ReadsFavorites.fetched {r : ListFavoritesRequest} {rows : List Engagement}
    (reads : x.ReadsFavorites r user window rows) :
    fetchPage x.backend (x.accepted r.userId r.pageSize r.pageToken) favoritesAsk x.store =
      ⟨(window.page rows).mapError Refusal.status, (x.backend.delay (favoritesAsk (user, window)).call),
        x.afterFavorites user window, [(favoritesAsk (user, window)).call], []⟩ :=
  fetchPage_of_reply (v := (user, window)) (accepted_eq_ok.2 ⟨reads.acting, reads.asks⟩) reads.answered

theorem ReadsHistory.fetched {r : ListWatchHistoryRequest} {rows : List WatchLogEntry}
    (reads : x.ReadsHistory r user window rows) :
    fetchPage x.backend (x.accepted r.userId r.pageSize r.pageToken) historyAsk x.store =
      ⟨(window.page rows).mapError Refusal.status, (x.backend.delay (historyAsk (user, window)).call),
        x.afterHistory user window, [(historyAsk (user, window)).call], []⟩ :=
  fetchPage_of_reply (v := (user, window)) (accepted_eq_ok.2 ⟨reads.acting, reads.asks⟩) reads.answered

/-- Once the page fits, the two lookups for its videos follow, and nothing else. -/
theorem ReadsFavorites.course {r : ListFavoritesRequest} {rows : List Engagement} {page : Page Engagement}
    (reads : x.ReadsFavorites r user window rows) (fits : window.page rows = .ok page) :
    let asked := IdSet.ofList (page.items.map Engagement.videoId)
    let both := Course.both x.backend (projectionLookup asked) (statsLookup asked) (x.afterFavorites user window)
    (x.course (.listFavorites r)).result =
        both.result.map (fun v => ⟨favoriteItems v.1 v.2 page.items, page.nextToken⟩) ∧
      (x.course (.listFavorites r)).calls =
        .listEngagements user .favorite window.offset window.fetchSize :: both.calls := by
  intro asked both
  rw [course_listFavorites, reads.fetched, fits, mapError_ok, Course.bind_ok]
  dsimp only
  rw [Course.bind_map]
  exact ⟨rfl, rfl⟩

/-- The history looks up the projections only. -/
theorem ReadsHistory.course {r : ListWatchHistoryRequest} {rows : List WatchLogEntry} {page : Page WatchLogEntry}
    (reads : x.ReadsHistory r user window rows) (fits : window.page rows = .ok page) :
    let asked := IdSet.ofList (page.items.map WatchLogEntry.videoId)
    let lookup := (Script.lookup (projectionLookup asked)).course x.backend (x.afterHistory user window)
    (x.course (.listWatchHistory r)).result =
        lookup.result.map (fun videos => ⟨historyItems videos page.items, page.nextToken⟩) ∧
      (x.course (.listWatchHistory r)).calls =
        .listWatchHistory user window.offset window.fetchSize :: lookup.calls := by
  intro asked lookup
  rw [course_listWatchHistory, reads.fetched, fits, mapError_ok, Course.bind_ok]
  dsimp only
  rw [Course.bind_map]
  exact ⟨rfl, rfl⟩

/-- A listing of favorites comes to a page, or fails after asking its primary source at most. -/
theorem listFavorites_cases (x : Occasion σ) (r : ListFavoritesRequest) :
    (∃ user window rows page, x.ReadsFavorites r user window rows ∧ window.page rows = .ok page) ∨
    (∃ e, (x.course (.listFavorites r)).result = .error e) ∧
      ∀ c ∈ (x.course (.listFavorites r)).calls, c.source = .listEngagements := by
  rcases fetchPage_cases x.backend (x.accepted r.userId r.pageSize r.pageToken) favoritesAsk x.store with
    ⟨v, rows, page, valid, answered, fits⟩ | ⟨⟨e, failed⟩, calls⟩
  · obtain ⟨acting, asks⟩ := accepted_eq_ok.1 valid
    exact .inl ⟨v.1, v.2, rows, page, ⟨acting, asks, answered⟩, fits⟩
  · right
    rw [course_listFavorites, Course.bind_of_error failed]
    refine ⟨⟨e, rfl⟩, fun c hc => ?_⟩
    obtain ⟨v, rfl⟩ := calls c hc
    rfl

/-- A listing of watch history comes to a page, or fails after asking its primary source at most. -/
theorem listWatchHistory_cases (x : Occasion σ) (r : ListWatchHistoryRequest) :
    (∃ user window rows page, x.ReadsHistory r user window rows ∧ window.page rows = .ok page) ∨
    (∃ e, (x.course (.listWatchHistory r)).result = .error e) ∧
      ∀ c ∈ (x.course (.listWatchHistory r)).calls, c.source = .watchHistory := by
  rcases fetchPage_cases x.backend (x.accepted r.userId r.pageSize r.pageToken) historyAsk x.store with
    ⟨v, rows, page, valid, answered, fits⟩ | ⟨⟨e, failed⟩, calls⟩
  · obtain ⟨acting, asks⟩ := accepted_eq_ok.1 valid
    exact .inl ⟨v.1, v.2, rows, page, ⟨acting, asks, answered⟩, fits⟩
  · right
    rw [course_listWatchHistory, Course.bind_of_error failed]
    refine ⟨⟨e, rfl⟩, fun c hc => ?_⟩
    obtain ⟨v, rfl⟩ := calls c hc
    rfl

/-- What the projection source and the stats source answer when they are asked together for these ids. -/
def favoritesReplies (x : Occasion σ) (user : Uuid) (window : Window) (ids : List Uuid) :
    Except Failure (List VideoProjection) × Except Failure (List VideoStats) :=
  x.backend.together (.projections ids) (.stats ids) (x.afterFavorites user window)

/-- What the projection source answers after the watch history has been listed. -/
def historyReply (x : Occasion σ) (user : Uuid) (window : Window) (ids : List Uuid) :
    Except Failure (List VideoProjection) :=
  (x.backend.answer (.projections ids) (x.afterHistory user window)).1

/-! ## Items -/

/-- Joined rows, seen from the rows themselves: the last one of each video counts. -/
theorem favoriteItems_ofRows (videos : List VideoProjection) (stats : List VideoStats) (page : List Engagement) :
    favoriteItems (.ofRows videos) (.ofRows stats) page =
      page.map fun e => ⟨e, lastRow videos e.videoId, lastRow stats e.videoId⟩ := by
  simp only [favoriteItems, RowsById.attach_ofRows]

theorem historyItems_ofRows (videos : List VideoProjection) (page : List WatchLogEntry) :
    historyItems (.ofRows videos) page = page.map fun e => ⟨e, lastRow videos e.videoId⟩ := by
  simp only [historyItems, RowsById.attach_ofRows]

/-- What a listing of favorites with records on its page comes to, from the answers of its secondary sources. -/
theorem ReadsFavorites.result {r : ListFavoritesRequest} {rows : List Engagement} {page : Page Engagement}
    (reads : x.ReadsFavorites r user window rows) (fits : window.page rows = .ok page) (filled : page.items ≠ []) :
    let asked := IdSet.ofList (page.items.map Engagement.videoId)
    let replies := x.favoritesReplies user window asked.ids
    (x.course (.listFavorites r)).result =
      (joinResults (leftFirst (x.backend.delay (.projections asked.ids)) (x.backend.delay (.stats asked.ids)))
        (settleLookup Source.projection.name asked replies.1).result
        (settleLookup Source.stats.name asked replies.2).result).map
          fun v => ⟨favoriteItems v.1 v.2 page.items, page.nextToken⟩ := by
  have ids := IdSet.isEmpty_eq_false (mt List.map_eq_nil_iff.1 filled : page.items.map Engagement.videoId ≠ [])
  rw [(reads.course fits).1, projectionLookup_of_ne ids, statsLookup_of_ne ids, Course.both_result]
  rfl

/-- What a listing of watch history with records on its page comes to, from the answer of the projection source. -/
theorem ReadsHistory.result {r : ListWatchHistoryRequest} {rows : List WatchLogEntry} {page : Page WatchLogEntry}
    (reads : x.ReadsHistory r user window rows) (fits : window.page rows = .ok page) (filled : page.items ≠ []) :
    let asked := IdSet.ofList (page.items.map WatchLogEntry.videoId)
    (x.course (.listWatchHistory r)).result =
      (settleLookup Source.projection.name asked (x.historyReply user window asked.ids)).result.map
        fun videos => ⟨historyItems videos page.items, page.nextToken⟩ := by
  have ids := IdSet.isEmpty_eq_false (mt List.map_eq_nil_iff.1 filled : page.items.map WatchLogEntry.videoId ≠ [])
  rw [(reads.course fits).1, projectionLookup_of_ne ids, Script.course_lookup]
  rfl

/-- What a response lists is the page, joined with the rows the collaborators replied. -/
theorem ReadsFavorites.items {r : ListFavoritesRequest} {rows : List Engagement} {page : Page Engagement}
    {response : ListFavoritesResponse} (reads : x.ReadsFavorites r user window rows)
    (fits : window.page rows = .ok page) (success : (x.course (.listFavorites r)).result = .ok response) :
    let replies := x.favoritesReplies user window (IdSet.ofList (page.items.map Engagement.videoId)).ids
    response.items =
      page.items.map fun e => ⟨e, lastRow (rowsOf replies.1) e.videoId, lastRow (rowsOf replies.2) e.videoId⟩ := by
  by_cases blank : page.items = []
  · rw [(reads.course fits).1, blank] at success
    cases success
    rw [blank]
    rfl
  · rw [reads.result fits blank] at success
    obtain ⟨v, joined, rfl⟩ := map_eq_ok.1 success
    obtain ⟨videos, stats⟩ := joinResults_eq_ok.1 joined
    change favoriteItems v.1 v.2 page.items = _
    rw [(settleLookup_eq_ok videos).2, (settleLookup_eq_ok stats).2, favoriteItems_ofRows]

theorem ReadsHistory.items {r : ListWatchHistoryRequest} {rows : List WatchLogEntry} {page : Page WatchLogEntry}
    {response : ListWatchHistoryResponse} (reads : x.ReadsHistory r user window rows)
    (fits : window.page rows = .ok page) (success : (x.course (.listWatchHistory r)).result = .ok response) :
    let reply := x.historyReply user window (IdSet.ofList (page.items.map WatchLogEntry.videoId)).ids
    response.items = page.items.map fun e => ⟨e, lastRow (rowsOf reply) e.videoId⟩ := by
  by_cases blank : page.items = []
  · rw [(reads.course fits).1, blank] at success
    cases success
    rw [blank]
    rfl
  · rw [reads.result fits blank] at success
    obtain ⟨videos, settled, rfl⟩ := map_eq_ok.1 success
    change historyItems videos page.items = _
    rw [(settleLookup_eq_ok settled).2, historyItems_ofRows]

/-! ## Calls -/

/-- The calls to a source are one at most, which asks for the ids of a page that has some. -/
structure AsksOnce (asked : List Call) (source : Source) (call : List Uuid → Call) (onPage : List Uuid → Prop) :
    Prop where
  once : asked.countP (fun c => c.source = source) ≤ 1
  ids : ∀ c ∈ asked, c.source = source → ∃ ids refs, c = call ids ∧ onPage refs ∧ refs ≠ [] ∧ AscendingIds ids refs

/-- A source that is not asked at all, but another one. -/
theorem AsksOnce.of_unasked {asked : List Call} {primary source : Source} {call : List Uuid → Call}
    {onPage : List Uuid → Prop} (only : ∀ c ∈ asked, c.source = primary) (other : primary ≠ source) :
    AsksOnce asked source call onPage where
  once := by
    have none : asked.countP (fun c => c.source = source) = 0 := by
      rw [List.countP_eq_zero]
      intro c hc
      rw [only c hc]
      simpa using other
    omega
  ids c hc h := absurd ((only c hc).symm.trans h) other

/-- A source that is asked after the primary source, if there are ids to ask for. -/
theorem AsksOnce.of_calls {asked rest : List Call} {primary : Call} {refs : List Uuid} {source : Source}
    {call : List Uuid → Call} {onPage : List Uuid → Prop} (page : onPage refs)
    (calls : asked <+: primary :: if refs = [] then [] else rest) (other : primary.source ≠ source)
    (once : rest.countP (fun c => c.source = source) ≤ 1)
    (same : ∀ c ∈ rest, c.source = source → c = call (IdSet.ofList refs).ids) : AsksOnce asked source call onPage where
  once := by
    refine Nat.le_trans calls.sublist.countP_le ?_
    rw [List.countP_cons_of_neg (by simpa using other)]
    split
    · exact Nat.zero_le 1
    · exact once
  ids c hc h := by
    rcases List.mem_cons.1 (calls.mem hc) with rfl | mem
    · exact absurd h other
    · split at mem
      · cases mem
      · next filled => exact ⟨_, refs, same c mem h, page, filled, IdSet.ascendingIds refs⟩

/-- A listing of favorites asks for the ids of its page, if there are any, and for nothing else after its page. -/
theorem ReadsFavorites.calls {r : ListFavoritesRequest} {rows : List Engagement} {page : Page Engagement}
    (reads : x.ReadsFavorites r user window rows) (fits : window.page rows = .ok page) :
    let refs := page.items.map Engagement.videoId
    (x.serve (.listFavorites r)).asked <+: .listEngagements user .favorite window.offset window.fetchSize ::
      if refs = [] then [] else [.projections (IdSet.ofList refs).ids, .stats (IdSet.ofList refs).ids] := by
  intro refs
  refine asked_within.trans ?_
  rw [(reads.course fits).2]
  split
  · next blank =>
    change page.items.map Engagement.videoId = [] at blank
    rw [blank]
    exact List.prefix_rfl
  · next filled =>
    have ids := IdSet.isEmpty_eq_false filled
    rw [projectionLookup_of_ne ids, statsLookup_of_ne ids, List.prefix_cons_inj]
    exact Course.both_calls _ _ _ _

/-- A listing of watch history asks for the ids of its page, if there are any, and for nothing else after its page. -/
theorem ReadsHistory.calls {r : ListWatchHistoryRequest} {rows : List WatchLogEntry} {page : Page WatchLogEntry}
    (reads : x.ReadsHistory r user window rows) (fits : window.page rows = .ok page) :
    let refs := page.items.map WatchLogEntry.videoId
    (x.serve (.listWatchHistory r)).asked <+: .listWatchHistory user window.offset window.fetchSize ::
      if refs = [] then [] else [.projections (IdSet.ofList refs).ids] := by
  intro refs
  refine asked_within.trans ?_
  rw [(reads.course fits).2]
  split
  · next blank =>
    change page.items.map WatchLogEntry.videoId = [] at blank
    rw [blank]
    exact List.prefix_rfl
  · next filled =>
    have ids := IdSet.isEmpty_eq_false filled
    rw [projectionLookup_of_ne ids, List.prefix_cons_inj, Script.course_lookup]
    exact List.prefix_rfl

/-! ## The law -/

variable (x)

/-- The ids that a page of favorites refers to. -/
def FavoritesPage (r : ListFavoritesRequest) (refs : List Uuid) : Prop :=
  ∃ user window rows, x.ReadsFavorites r user window rows ∧ refs = (rows.take window.limit).map Engagement.videoId

/-- The ids that a page of watch history refers to. -/
def HistoryPage (r : ListWatchHistoryRequest) (refs : List Uuid) : Prop :=
  ∃ user window rows, x.ReadsHistory r user window rows ∧ refs = (rows.take window.limit).map WatchLogEntry.videoId

/-- The response joins the last rows of its video to each record of the page. -/
def JoinsFavorites (r : ListFavoritesRequest) (response : ListFavoritesResponse) : Prop :=
  ∃ user window rows ids, x.ReadsFavorites r user window rows ∧
    AscendingIds ids ((rows.take window.limit).map Engagement.videoId) ∧
    let replies := x.favoritesReplies user window ids
    response.items = (rows.take window.limit).map fun e =>
      ⟨e, lastRow (rowsOf replies.1) e.videoId, lastRow (rowsOf replies.2) e.videoId⟩

/-- The response joins the last row of its video to each record of the page. -/
def JoinsHistory (r : ListWatchHistoryRequest) (response : ListWatchHistoryResponse) : Prop :=
  ∃ user window rows ids, x.ReadsHistory r user window rows ∧
    AscendingIds ids ((rows.take window.limit).map WatchLogEntry.videoId) ∧
    response.items = (rows.take window.limit).map fun e =>
      ⟨e, lastRow (rowsOf (x.historyReply user window ids)) e.videoId⟩

variable {x}

/-- Every response is a join of the page with the last rows of its videos. -/
theorem joinsFavorites_of_ok {r : ListFavoritesRequest} {response : ListFavoritesResponse}
    (success : (x.serve (.listFavorites r)).result = .ok response) : x.JoinsFavorites r response := by
  have course := course_of_ok success
  rcases x.listFavorites_cases r with ⟨user, window, rows, page, reads, fits⟩ | ⟨⟨e, failed⟩, -⟩
  · have items := reads.items fits course
    rw [Window.items_page fits] at items
    exact ⟨user, window, rows, _, reads, IdSet.ascendingIds _, items⟩
  · rw [failed] at course
    cases course

theorem joinsHistory_of_ok {r : ListWatchHistoryRequest} {response : ListWatchHistoryResponse}
    (success : (x.serve (.listWatchHistory r)).result = .ok response) : x.JoinsHistory r response := by
  have course := course_of_ok success
  rcases x.listWatchHistory_cases r with ⟨user, window, rows, page, reads, fits⟩ | ⟨⟨e, failed⟩, -⟩
  · have items := reads.items fits course
    rw [Window.items_page fits] at items
    exact ⟨user, window, rows, _, reads, IdSet.ascendingIds _, items⟩
  · rw [failed] at course
    cases course

/-- The three parts of an item are of one video. -/
theorem JoinsFavorites.sameVideo {r : ListFavoritesRequest} {response : ListFavoritesResponse}
    (joins : x.JoinsFavorites r response) : ∀ i ∈ response.items,
      i.video.videoId = i.engagement.videoId ∧ i.stats.videoId = i.engagement.videoId := by
  obtain ⟨user, window, rows, ids, -, -, items⟩ := joins
  intro i hi
  rw [items] at hi
  obtain ⟨e, -, rfl⟩ := List.mem_map.1 hi
  exact ⟨key_lastRow (ρ := VideoProjection) _ _, key_lastRow (ρ := VideoStats) _ _⟩

/-- Both parts of an item are of one video. -/
theorem JoinsHistory.sameVideo {r : ListWatchHistoryRequest} {response : ListWatchHistoryResponse}
    (joins : x.JoinsHistory r response) : ∀ i ∈ response.items, i.video.videoId = i.entry.videoId := by
  obtain ⟨user, window, rows, ids, -, -, items⟩ := joins
  intro i hi
  rw [items] at hi
  obtain ⟨e, -, rfl⟩ := List.mem_map.1 hi
  exact key_lastRow (ρ := VideoProjection) _ _

/-- Both sources are asked once at most, for exactly the videos of the page. -/
theorem favorites_asksOnce (r : ListFavoritesRequest) :
    AsksOnce (x.serve (.listFavorites r)).asked .projection .projections (x.FavoritesPage r) ∧
      AsksOnce (x.serve (.listFavorites r)).asked .stats .stats (x.FavoritesPage r) := by
  rcases x.listFavorites_cases r with ⟨user, window, rows, page, reads, fits⟩ | ⟨-, primary⟩
  · have onPage : x.FavoritesPage r (page.items.map Engagement.videoId) :=
      ⟨user, window, rows, reads, by rw [Window.items_page fits]⟩
    constructor
    · apply AsksOnce.of_calls onPage (reads.calls fits) <;> simp [Call.source]
    · apply AsksOnce.of_calls onPage (reads.calls fits) <;> simp [Call.source]
  · have asked : ∀ c ∈ (x.serve (.listFavorites r)).asked, c.source = .listEngagements := by
      intro c hc
      exact primary c (asked_within.mem hc)
    exact ⟨.of_unasked asked (by decide), .of_unasked asked (by decide)⟩

/-- The history asks for projections in this way and never for statistics. -/
theorem history_asksOnce (r : ListWatchHistoryRequest) :
    AsksOnce (x.serve (.listWatchHistory r)).asked .projection .projections (x.HistoryPage r) ∧
      ∀ c ∈ (x.serve (.listWatchHistory r)).asked, c.source ≠ .stats := by
  rcases x.listWatchHistory_cases r with ⟨user, window, rows, page, reads, fits⟩ | ⟨-, primary⟩
  · have onPage : x.HistoryPage r (page.items.map WatchLogEntry.videoId) :=
      ⟨user, window, rows, reads, by rw [Window.items_page fits]⟩
    constructor
    · apply AsksOnce.of_calls onPage (reads.calls fits) <;> simp [Call.source]
    · intro c hc
      rcases List.mem_cons.1 ((reads.calls fits).mem hc) with rfl | mem
      · simp [Call.source]
      · split at mem
        · cases mem
        · rw [List.mem_singleton.1 mem]
          simp [Call.source]
  · have asked : ∀ c ∈ (x.serve (.listWatchHistory r)).asked, c.source = .watchHistory := by
      intro c hc
      exact primary c (asked_within.mem hc)
    refine ⟨.of_unasked asked (by decide), ?_⟩
    intro c hc
    rw [asked c hc]
    decide

variable (x)

/-- A listing that succeeds joins to each record of its page the last row of its video from each secondary source,
and whatever comes of it, asks each of them once at most, for the ids of its page. -/
theorem fanout_join :
    (∀ r : ListFavoritesRequest,
      (∀ response, (x.serve (.listFavorites r)).result = .ok response → x.JoinsFavorites r response ∧
        ∀ i ∈ response.items, i.video.videoId = i.engagement.videoId ∧ i.stats.videoId = i.engagement.videoId) ∧
      AsksOnce (x.serve (.listFavorites r)).asked .projection .projections (x.FavoritesPage r) ∧
      AsksOnce (x.serve (.listFavorites r)).asked .stats .stats (x.FavoritesPage r)) ∧
    ∀ r : ListWatchHistoryRequest,
      (∀ response, (x.serve (.listWatchHistory r)).result = .ok response → x.JoinsHistory r response ∧
        ∀ i ∈ response.items, i.video.videoId = i.entry.videoId) ∧
      AsksOnce (x.serve (.listWatchHistory r)).asked .projection .projections (x.HistoryPage r) ∧
      ∀ c ∈ (x.serve (.listWatchHistory r)).asked, c.source ≠ .stats := by
  constructor
  · intro r
    refine ⟨?_, favorites_asksOnce r⟩
    intro response success
    have joins := joinsFavorites_of_ok success
    exact ⟨joins, joins.sameVideo⟩
  · intro r
    refine ⟨?_, history_asksOnce r⟩
    intro response success
    have joins := joinsHistory_of_ok success
    exact ⟨joins, joins.sameVideo⟩

end Occasion

/-! ## Sources that answer out of turn -/

namespace Occasion

/-- The primary sources return one record more than fits on a page of two, and one video twice. The projection
source returns a video twice and another one that nobody asked for, the stats source has no data. -/
def unruly : Occasion Store where
  backend := Conditions.backend {
    delay := fun _ => .zero
    failure := fun s => if s = .stats then some (.notFound "no stats") else none
    rows := {
      engagements := some [⟨.ofNat 1, .ofNat 5, .favorite, 30⟩, ⟨.ofNat 1, .ofNat 3, .favorite, 20⟩,
        ⟨.ofNat 1, .ofNat 7, .favorite, 10⟩]
      favorites := none
      history := some [⟨.ofNat 1, .ofNat 3, 8, 30⟩, ⟨.ofNat 1, .ofNat 3, 4, 20⟩, ⟨.ofNat 1, .ofNat 9, 2, 10⟩]
      stats := none
      projections := some [⟨.ofNat 3, "first", "", 1⟩, ⟨.ofNat 9, "foreign", "", 2⟩, ⟨.ofNat 3, "last", "", 3⟩] } }
  policy := .standard
  call := ⟨.root "unruly", .empty⟩
  now := .start
  store := ⟨.empty, [], [], .empty, .empty, 0⟩

/-- Two favorites of the user `1`, joined to the last projection of the one and to nothing of the other. -/
def unrulyFavorites : ListFavoritesResponse where
  items := [⟨⟨.ofNat 1, .ofNat 5, .favorite, 30⟩, .empty (.ofNat 5), .zero (.ofNat 5)⟩,
    ⟨⟨.ofNat 1, .ofNat 3, .favorite, 20⟩, ⟨.ofNat 3, "last", "", 3⟩, .zero (.ofNat 3)⟩]
  nextPageToken := "2"

/-- Two records of one video in the watch history of the user `1`. -/
def unrulyHistory : ListWatchHistoryResponse where
  items := [⟨⟨.ofNat 1, .ofNat 3, 8, 30⟩, ⟨.ofNat 3, "last", "", 3⟩⟩,
    ⟨⟨.ofNat 1, .ofNat 3, 4, 20⟩, ⟨.ofNat 3, "last", "", 3⟩⟩]
  nextPageToken := "2"

/-- Rows that come twice or that nobody asked for are joined as the law says. -/
theorem fanout_join_unruly :
    let favorites : ListFavoritesRequest := ⟨some (Uuid.ofNat 1).print, 2, ""⟩
    let history : ListWatchHistoryRequest := ⟨some (Uuid.ofNat 1).print, 2, ""⟩
    (unruly.serve (.listFavorites favorites)).result = .ok unrulyFavorites ∧
      unruly.JoinsFavorites favorites unrulyFavorites ∧
      (unruly.serve (.listWatchHistory history)).result = .ok unrulyHistory ∧
      unruly.JoinsHistory history unrulyHistory := by
  intro favorites history
  have served : (unruly.serve (.listFavorites favorites)).result = .ok unrulyFavorites := by decide +kernel
  have seen : (unruly.serve (.listWatchHistory history)).result = .ok unrulyHistory := by decide +kernel
  have law := unruly.fanout_join
  exact ⟨served, ((law.1 favorites).1 _ served).1, seen, ((law.2 history).1 _ seen).1⟩

end Occasion
end ProfileGateway
