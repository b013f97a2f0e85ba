import ProfileGateway.Proofs.Listing.LastRow
import ProfileGateway.Proofs.Operation.Occasion
import ProfileGateway.Proofs.Script.Together
/-!
# Courses of the operations that read

A listing reads a page of its primary source and then looks up the ids of that page; a batch looks up the ids that
it is given. The first half is the same for all listings (`fetchPage`), and no secondary source is asked before it
has come to a page.
-/
namespace ProfileGateway

open Operation

/-! ## The page of a listing -/

section Fetch

variable {σ α : Type}

/-- The first half of a listing: the page of the records that the primary source returns. -/
def fetchPage (b : Backend σ) (accepted : Except Refusal (Uuid × Window)) (primary : Uuid × Window → Ask (List α))
    (s : σ) : Course σ (Page α) :=
  (Course.still (accepted.mapError Refusal.status) s).bind fun v s =>
    ((Script.call (primary v).call).course b s).bind fun reply s =>
      .still ((v.2.page ((primary v).read reply)).mapError Refusal.status) s

variable {b : Backend σ} {accepted : Except Refusal (Uuid × Window)} {primary : Uuid × Window → Ask (List α)} {s : σ}

/-- A page is cut out of the rows that were replied. -/
theorem fetchPage_of_reply {v : Uuid × Window} {reply : (primary v).call.Reply} (valid : accepted = .ok v)
    (answered : (b.answer (primary v).call s).1 = .ok reply) :
    fetchPage b accepted primary s = ⟨(v.2.page ((primary v).read reply)).mapError Refusal.status,
      b.delay (primary v).call, (b.answer (primary v).call s).2, [(primary v).call], []⟩ := by
  simp [fetchPage, valid, Course.still, Script.course_call, answered]

/-- A listing comes to a page, or ends after its primary call at the latest. -/
theorem fetchPage_cases (b : Backend σ) (accepted : Except Refusal (Uuid × Window))
    (primary : Uuid × Window → Ask (List α)) (s : σ) :
    (∃ v reply page, accepted = .ok v ∧ (b.answer (primary v).call s).1 = .ok reply ∧
      v.2.page ((primary v).read reply) = .ok page) ∨
    (∃ e, (fetchPage b accepted primary s).result = .error e) ∧
      ∀ c ∈ (fetchPage b accepted primary s).calls, ∃ v, c = (primary v).call := by
  cases valid : accepted with
  | error r => exact .inr ⟨⟨r.status, rfl⟩, fun c hc => by cases hc⟩
  | ok v =>
    cases answered : (b.answer (primary v).call s).1 with
    | error f =>
      have failed : fetchPage b (.ok v) primary s =
          ⟨.error f.status, b.delay (primary v).call, (b.answer (primary v).call s).2, [(primary v).call],
            f.events⟩ := by
        simp [fetchPage, Course.bind, Course.still, Script.course_call, answered]
      rw [failed]
      exact .inr ⟨⟨f.status, rfl⟩, fun c hc => ⟨v, List.mem_singleton.1 hc⟩⟩
    | ok reply =>
      cases fits : v.2.page ((primary v).read reply) with
      | error r =>
        rw [fetchPage_of_reply rfl answered, fits]
        exact .inr ⟨⟨r.status, rfl⟩, fun c hc => ⟨v, List.mem_singleton.1 hc⟩⟩
      | ok page => exact .inl ⟨v, reply, page, rfl, answered, fits⟩

end Fetch

namespace Occasion

variable {σ : Type} (x : Occasion σ)

/-- The user and the window that a listing is accepted with. -/
def accepted (userId : Option String) (pageSize : Int32) (pageToken : String) : Except Refusal (Uuid × Window) := do
  let user ← ActingUser.resolve userId x.call.carried
  let window ← Window.ofRequest pageSize pageToken
  return (user, window)

theorem listing_context (op : Operation) (userId : Option String) (pageSize : Int32) (pageToken : String) :
    listing (x.context op) userId pageSize pageToken = x.accepted userId pageSize pageToken := by
  rw [listing, metadata_context, accepted]

variable {x}

/-- A listing is accepted if its user and its window are. -/
theorem accepted_eq_ok {userId : Option String} {pageSize : Int32} {pageToken : String} {v : Uuid × Window} :
    x.accepted userId pageSize pageToken = .ok v ↔
      ActingUser.resolve userId x.call.carried = .ok v.1 ∧ Window.ofRequest pageSize pageToken = .ok v.2 := by
  unfold accepted
  cases ActingUser.resolve userId x.call.carried <;> cases Window.ofRequest pageSize pageToken <;>
    simp [bind, Except.bind, pure, Except.pure, Prod.ext_iff]

variable (x)

/-- How favorites are asked for. -/
def favoritesAsk (v : Uuid × Window) : Ask (List Engagement) :=
  ⟨.listEngagements v.1 .favorite v.2.offset v.2.fetchSize, id⟩

/-- How watch history is asked for. -/
def historyAsk (v : Uuid × Window) : Ask (List WatchLogEntry) :=
  ⟨.listWatchHistory v.1 v.2.offset v.2.fetchSize, id⟩

/-- Listing favorites: the page first, then both lookups together. -/
theorem course_listFavorites (r : ListFavoritesRequest) : x.course (.listFavorites r) =
    (fetchPage x.backend (x.accepted r.userId r.pageSize r.pageToken) favoritesAsk x.store).bind fun page s =>
      let asked := IdSet.ofList (page.items.map Engagement.videoId)
      (Course.both x.backend (projectionLookup asked) (statsLookup asked) s).bind fun v s =>
        .still (.ok ⟨favoriteItems v.1 v.2 page.items, page.nextToken⟩) s := by
  simp only [course, script, runListFavorites, Script.course_bind, Script.course_accept, listing_context,
    Script.course_joined, fetchPage, Course.bind_assoc]
  rfl

/-- Listing the history: the page first, then the projections. -/
theorem course_listWatchHistory (r : ListWatchHistoryRequest) : x.course (.listWatchHistory r) =
    (fetchPage x.backend (x.accepted r.userId r.pageSize r.pageToken) historyAsk x.store).bind fun page s =>
      let asked := IdSet.ofList (page.items.map WatchLogEntry.videoId)
      ((Script.lookup (projectionLookup asked)).course x.backend s).bind fun videos s =>
        .still (.ok ⟨historyItems videos page.items, page.nextToken⟩) s := by
  simp only [course, script, runListWatchHistory, Script.course_bind, Script.course_accept, listing_context,
    fetchPage, Course.bind_assoc]
  rfl

/-- A batch: the checks first, then the favorites and, if they are wanted, the statistics. -/
theorem course_batchGetFavorites (r : BatchGetFavoritesRequest) : x.course (.batchGetFavorites r) =
    (Course.still ((ActingUser.resolve r.userId x.call.carried).mapError Refusal.status) x.store).bind fun user s =>
      (Course.still ((batchIds r.videoIds).mapError Refusal.status) s).bind fun ids s =>
        let asked := IdSet.ofList ids
        (Course.both x.backend (favoritesLookup user asked) (statsLookupIf r.includeStats asked) s).bind fun v s =>
          .still (.ok ⟨favoriteStates v.1 v.2 ids⟩) s := by
  simp only [course, script, runBatchGetFavorites, Script.course_bind, Script.course_accept, metadata_context,
    Script.course_joined]
  rfl

end Occasion
end ProfileGateway
