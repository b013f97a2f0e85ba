import ProfileGateway.Proofs.Listing.WholeListing
/-!
# Walks that end

A client that sends back the tokens that it is given asks for larger and larger offsets, and so it stops, with an empty
token or with a failure, whatever the collaborators return and however much of it (`windows_advance`). What it receives
need not be one listing: the collaborators may return other records for every request, and more than they were asked
for.
-/
namespace ProfileGateway

open Page

namespace Walk

variable {α : Type}

/-- A client that begins with a token of its own. -/
def holding (token : String) : Walk α := ⟨[], .asking token⟩

/-- Where some more requests lead to. -/
def onwards (answer : Nat → String → Except Status (Page α)) (w : Walk α) : Nat → Walk α
  | 0 => w
  | i + 1 => (onwards answer w i).step (answer i)

/-- Each next page begins where the page before it ends. -/
def Continues (sizes : Nat → Int32) (answer : Nat → String → Except Status (Page α)) : Prop :=
  ∀ i token page offset, readToken token = .ok offset → answer i token = .ok page → page.hasNext = true →
    readToken page.nextToken = .ok (offset + sizeFor (sizes i))

/-- The walk asks for ever larger offsets, and it ends. -/
structure Advances (sizes : Nat → Int32) (first : Nat) (walk : Nat → Walk α) : Prop where
  /-- A request asks for what is behind the pages of all requests before it. -/
  asked : ∀ i token, (walk i).standing = .asking token → readToken token = .ok (first + offsetAt sizes i)
  increasing : ∀ i j token token' offset offset', i < j → (walk i).standing = .asking token →
    (walk j).standing = .asking token' → readToken token = .ok offset → readToken token' = .ok offset' → offset < offset'
  ends : ∃ n ≤ 2147483648 - first, (walk n).Stopped ∧ ∀ j, n ≤ j → walk j = walk n
  few : ∀ i, (walk i).pages.length ≤ 2147483648 - first

section

variable {answer : Nat → String → Except Status (Page α)} {sizes : Nat → Int32} {first : Nat} {w : Walk α}

theorem stopped_iff : w.Stopped ↔ ∀ token, w.standing ≠ .asking token := by
  obtain ⟨pages, standing⟩ := w
  cases standing <;> simp [Stopped]

/-- A client asks on exactly with the token of a page that it has just received. -/
theorem asking_of_step {answer : String → Except Status (Page α)} {token' : String}
    (asking : (w.step answer).standing = .asking token') :
    ∃ token page, w.standing = .asking token ∧ answer token = .ok page ∧ page.hasNext = true ∧
      page.nextToken = token' := by
  obtain ⟨pages, standing⟩ := w
  cases standing with
  | asking token =>
    simp only [step] at asking
    cases answered : answer token with
    | error s =>
      rw [answered] at asking
      cases asking
    | ok page =>
      rw [answered] at asking
      dsimp only at asking
      split at asking
      · next hasNext =>
        cases asking
        exact ⟨token, page, rfl, answered, hasNext, rfl⟩
      · cases asking
  | complete | failed => cases asking

/-- Offsets ascend strictly, since every page has room for a record. -/
theorem offsetAt_lt (sizes : Nat → Int32) {i j : Nat} (before : i < j) : offsetAt sizes i < offsetAt sizes j := by
  induction before with
  | refl => exact Nat.lt_add_of_pos_right (sizeFor_pos _)
  | step _ ih => exact Nat.lt_of_lt_of_le ih (Nat.le_add_right _ _)

/-- A step receives one page at most. -/
theorem length_pages_step (answer : String → Except Status (Page α)) :
    (w.step answer).pages.length ≤ w.pages.length + 1 := by
  unfold step
  split
  · split
    · simp
    · exact Nat.le_succ _
  · exact Nat.le_succ _
  · exact Nat.le_succ _

/-- After some steps there are no more new pages than steps. -/
theorem length_pages_onwards (i : Nat) : (onwards answer w i).pages.length ≤ w.pages.length + i := by
  induction i with
  | zero => exact Nat.le_refl _
  | succ i ih =>
    have more := length_pages_step (w := onwards answer w i) (answer i)
    rw [onwards]
    omega

/-- A walk that has stopped stays as it is. -/
theorem onwards_of_stopped {n j : Nat} (stopped : (onwards answer w n).Stopped) (later : n ≤ j) :
    onwards answer w j = onwards answer w n := by
  induction later with
  | refl => rfl
  | step _ ih => rw [onwards, ih, step_of_stopped stopped]

/-- What a client asks for is behind all the pages that it has received. -/
theorem asked_of_continues {token token' : String} (continues : Continues sizes answer)
    (read : readToken token = .ok first) {i : Nat} (asking : (onwards answer (holding token) i).standing = .asking token') :
    readToken token' = .ok (first + offsetAt sizes i) := by
  induction i generalizing token' with
  | zero =>
    cases asking
    exact read
  | succ i ih =>
    obtain ⟨before, page, asked, answered, hasNext, rfl⟩ := asking_of_step asking
    rw [offsetAt, ← Nat.add_assoc]
    exact continues i before page _ (ih asked) answered hasNext

/-- If each page continues where it ended, a walk asks for ever larger offsets and stops before they run out. -/
theorem advances_of_continues {token : String} (continues : Continues sizes answer)
    (read : readToken token = .ok first) : Advances sizes first (onwards answer (holding token)) := by
  have asked (i : Nat) (token' : String) (asking : (onwards answer (holding token) i).standing = .asking token') :=
    asked_of_continues continues read asking
  have stopped : (onwards answer (holding token) (2147483648 - first)).Stopped := by
    rw [stopped_iff]
    intro token' asking
    -- Every page takes up one offset at least, and by now there are none left.
    have inRange := (readToken_eq_ok.1 (asked _ _ asking)).offset_le
    have far := le_offsetAt sizes (2147483648 - first)
    omega
  refine ⟨asked, ?_, ⟨_, Nat.le_refl _, stopped, fun j later => onwards_of_stopped stopped later⟩, fun i => ?_⟩
  · intro i j token' token'' offset offset' before asking asking' reads reads'
    cases (asked i token' asking).symm.trans reads
    cases (asked j token'' asking').symm.trans reads'
    exact Nat.add_lt_add_left (offsetAt_lt sizes before) first
  · rcases Nat.le_total i (2147483648 - first) with early | late
    · exact Nat.le_trans (length_pages_onwards i) (by simpa [holding] using early)
    · rw [onwards_of_stopped stopped late]
      exact Nat.le_trans (length_pages_onwards _) (by simp [holding])

end

end Walk

/-! ## Answers with whatever records there are -/

/-- The answer to a request is the page of the records that are fetched for its window, or the failure to fetch them. -/
def windowAnswer {α : Type} (sizes : Nat → Int32) (fetch : Nat → Window → Except Status (List α)) (i : Nat)
    (token : String) : Except Status (Page α) := do
  let w ← (Window.ofRequest (sizes i) token).mapError Refusal.status
  let rows ← fetch i w
  (w.page rows).mapError Refusal.status

/-- Pages that are cut out of whatever was fetched continue where they end. -/
theorem windowAnswer_continues {α : Type} (sizes : Nat → Int32) (fetch : Nat → Window → Except Status (List α)) :
    Walk.Continues sizes (windowAnswer sizes fetch) := by
  intro i token page offset read answered hasNext
  rw [windowAnswer, Window.ofRequest_of_readToken read] at answered
  cases fetched : fetch i ⟨sizeFor (sizes i), offset⟩ with
  | error s => simp [fetched, bind, Except.bind] at answered
  | ok rows =>
    cases fits : (⟨sizeFor (sizes i), offset⟩ : Window).page rows with
    | error e => simp [fetched, fits, bind, Except.bind] at answered
    | ok page' =>
      simp only [mapError_ok, fetched, fits, bind, Except.bind, Except.ok.injEq] at answered
      subst answered
      exact Window.readToken_nextToken fits hasNext

namespace Occasion

variable {σ : Type}

/-- The next page of favorites starts behind this one. -/
theorem nextPage_of_favorites {x : Occasion σ} {r : ListFavoritesRequest} {response : ListFavoritesResponse}
    {offset : Nat} (success : (x.serve (.listFavorites r)).result = .ok response)
    (read : readToken r.pageToken = .ok offset) (hasNext : response.page.hasNext = true) :
    readToken response.page.nextToken = .ok (offset + sizeFor r.pageSize) := by
  have course := course_of_ok success
  rcases x.listFavorites_cases r with ⟨user, window, rows, page, reads, fits⟩ | ⟨⟨e, failed⟩, -⟩
  · rw [(reads.course fits).1] at course
    obtain ⟨v, -, rfl⟩ := map_eq_ok.1 course
    have behind : page.hasNext = true → _ := Window.readToken_behind read reads.asks fits
    exact behind hasNext
  · rw [failed] at course
    cases course

theorem nextPage_of_history {x : Occasion σ} {r : ListWatchHistoryRequest} {response : ListWatchHistoryResponse}
    {offset : Nat} (success : (x.serve (.listWatchHistory r)).result = .ok response)
    (read : readToken r.pageToken = .ok offset) (hasNext : response.page.hasNext = true) :
    readToken response.page.nextToken = .ok (offset + sizeFor r.pageSize) := by
  have course := course_of_ok success
  rcases x.listWatchHistory_cases r with ⟨user, window, rows, page, reads, fits⟩ | ⟨⟨e, failed⟩, -⟩
  · rw [(reads.course fits).1] at course
    obtain ⟨v, -, rfl⟩ := map_eq_ok.1 course
    have behind : page.hasNext = true → _ := Window.readToken_behind read reads.asks fits
    exact behind hasNext
  · rw [failed] at course
    cases course

end Occasion

section Operations

variable {σ : Type} (visits : Nat → Occasion σ) (userIds : Nat → Option String) (sizes : Nat → Int32)

/-- The answers to a client that lists favorites. -/
def favoritesAnswer (i : Nat) (token : String) : Except Status (Page Engagement) :=
  ((visits i).serve (.listFavorites (favoritesRequest userIds sizes i token))).result.map ListFavoritesResponse.page

/-- The answers to a client that lists watch history. -/
def historyAnswer (i : Nat) (token : String) : Except Status (Page WatchLogEntry) :=
  ((visits i).serve (.listWatchHistory (historyRequest userIds sizes i token))).result.map
    ListWatchHistoryResponse.page

/-- The pages of favorites continue where they end, whatever happens between two requests. -/
theorem favoritesAnswer_continues : Walk.Continues sizes (favoritesAnswer visits userIds sizes) := by
  intro i token page offset read answered hasNext
  rw [favoritesAnswer, map_eq_ok] at answered
  obtain ⟨response, success, rfl⟩ := answered
  exact Occasion.nextPage_of_favorites (r := favoritesRequest userIds sizes i token) success read hasNext

theorem historyAnswer_continues : Walk.Continues sizes (historyAnswer visits userIds sizes) := by
  intro i token page offset read answered hasNext
  rw [historyAnswer, map_eq_ok] at answered
  obtain ⟨response, success, rfl⟩ := answered
  exact Occasion.nextPage_of_history (r := historyRequest userIds sizes i token) success read hasNext

end Operations

/-- **Walks end.** A token that is read makes a window of 1 to 100 records at its offset, and the page of whatever was
fetched for it is followed, if at all, by one that begins right behind it. So a client that sends back the tokens that it
is given asks for ever larger offsets and stops, whatever records are fetched for each of its requests, and also on every
occasion on which it lists favorites or watch history. -/
theorem windows_advance :
    (∀ size token offset, readToken token = .ok offset →
      ∃ w, Window.ofRequest size token = .ok w ∧ w.offset = offset ∧ w.Bounded ∧
        ∀ (α : Type) (rows : List α), w.Pages rows) ∧
    (∀ (α : Type) sizes (fetch : Nat → Window → Except Status (List α)) token first, readToken token = .ok first →
      Walk.Advances sizes first (Walk.onwards (windowAnswer sizes fetch) (.holding token))) ∧
    ∀ (σ : Type) (visits : Nat → Occasion σ) userIds sizes token first, readToken token = .ok first →
      Walk.Advances sizes first (Walk.onwards (favoritesAnswer visits userIds sizes) (.holding token)) ∧
      Walk.Advances sizes first (Walk.onwards (historyAnswer visits userIds sizes) (.holding token)) := by
  refine ⟨?_, ?_, ?_⟩
  · intro size token offset read
    have bounded := Window.bounded_of_readToken read size
    exact ⟨_, Window.ofRequest_of_readToken read size, rfl, bounded, fun _ rows => bounded.pages rows⟩
  · intro α sizes fetch token first read
    exact Walk.advances_of_continues (windowAnswer_continues sizes fetch) read
  · intro σ visits userIds sizes token first read
    exact ⟨Walk.advances_of_continues (favoritesAnswer_continues visits userIds sizes) read,
      Walk.advances_of_continues (historyAnswer_continues visits userIds sizes) read⟩

/-- Two hundred records are returned for each request, close to the largest offset. -/
def overfullWalk : Nat → Walk Nat :=
  Walk.onwards (windowAnswer (fun _ => 100) fun _ _ => .ok (List.range 200)) (.holding "2147483500")

/-- One page is received; the next one would end where no token leads. -/
theorem windows_advance_overfull :
    (overfullWalk 1).standing = .asking "2147483600" ∧
      (overfullWalk 2).standing = .failed Refusal.tokenOutOfRange.status ∧
      readToken "2147483600" = .ok (2147483500 + Walk.offsetAt (fun _ => 100) 1) ∧
      (∀ i, (overfullWalk i).pages.length ≤ 148) := by
  have advances := windows_advance.2.1 Nat (fun _ => 100) (fun _ _ => .ok (List.range 200)) "2147483500" 2147483500 rfl
  have asking : (overfullWalk 1).standing = .asking "2147483600" := by decide +kernel
  exact ⟨asking, by decide +kernel, advances.asked 1 _ asking, advances.few⟩

end ProfileGateway
