import ProfileGateway.Proofs.Listing.Window
/-!
# Walks through a listing

A client begins with the empty token and sends back every token that it is given, until it is given the empty one.
If each request is answered with the page of one listing at the offset of its token, the pages together are that
listing, whatever sizes the requests ask for (`Walk.walked_of_pages`). The walk can only end early where the offset of
the next page is beyond the largest one.
-/
namespace ProfileGateway

open Page

/-- The page of a listing that lies in a window. -/
def Window.pageOf {α : Type} (w : Window) (listing : List α) : Except Refusal (Page α) :=
  w.page ((listing.drop w.offset).take w.fetchSize)

section PageOf

variable {α : Type} {w : Window} {listing : List α}

/-- The last page has what is left, and no token. -/
theorem Window.pageOf_last (last : listing.length ≤ w.offset + w.limit) :
    w.pageOf listing = .ok ⟨listing.drop w.offset, ""⟩ := by
  have few : (listing.drop w.offset).length ≤ w.limit := by
    rw [List.length_drop]
    omega
  rw [pageOf, fetchSize, List.take_of_length_le (by omega), page_eq_ok, tokenBehind, if_neg (Nat.not_lt.2 few),
    List.take_of_length_le few]
  exact ⟨fun many => absurd many (Nat.not_lt.2 few), rfl⟩

theorem Window.fetched_length (more : w.offset + w.limit < listing.length) :
    w.limit < ((listing.drop w.offset).take w.fetchSize).length := by
  rw [List.length_take, List.length_drop, fetchSize]
  omega

/-- A page with records behind it is full, and its token is the offset behind it. -/
theorem Window.pageOf_middle (more : w.offset + w.limit < listing.length) (inRange : w.offset + w.limit ≤ maxOffset) :
    w.pageOf listing = .ok ⟨(listing.drop w.offset).take w.limit, printToken (w.offset + w.limit : Nat)⟩ := by
  rw [pageOf, page_eq_ok, tokenBehind, if_pos (fetched_length more), List.take_take, fetchSize,
    Nat.min_eq_left (Nat.le_succ _)]
  exact ⟨fun _ => inRange, rfl⟩

theorem Window.pageOf_beyond (more : w.offset + w.limit < listing.length) (beyond : maxOffset < w.offset + w.limit) :
    w.pageOf listing = .error .tokenOutOfRange :=
  page_eq_error.2 ⟨⟨fetched_length more, beyond⟩, rfl⟩

end PageOf

/-! ## The client -/

/-- What a client does next: it sends a token, or it stops, after the last page or after a failure. -/
inductive Standing
  | asking (token : String)
  | complete
  | failed (status : Status)
deriving DecidableEq

/-- The pages that a client has received, and what it does next. -/
structure Walk (α : Type) where
  pages : List (List α)
  standing : Standing
deriving DecidableEq

namespace Walk

variable {α : Type}

def start : Walk α := ⟨[], .asking ""⟩

/-- The client sends its token, if there is one, and takes the answer. -/
def step (answer : String → Except Status (Page α)) (w : Walk α) : Walk α :=
  match w.standing with
  | .asking token =>
    match answer token with
    | .ok page => ⟨w.pages ++ [page.items], if page.hasNext then .asking page.nextToken else .complete⟩
    | .error s => ⟨w.pages, .failed s⟩
  | .complete | .failed _ => w

/-- The walk after some requests, each of which is answered in its own way. -/
def after (answer : Nat → String → Except Status (Page α)) : Nat → Walk α
  | 0 => start
  | i + 1 => (after answer i).step (answer i)

/-- The client has received an empty token or a failure. -/
def Stopped (w : Walk α) : Prop := w.standing = .complete ∨ ∃ s, w.standing = .failed s

/-- A walk that has stopped does not step. -/
theorem step_of_stopped {answer : String → Except Status (Page α)} {w : Walk α} (stopped : w.Stopped) :
    w.step answer = w := by
  rcases stopped with complete | ⟨s, failed⟩
  · simp only [step, complete]
  · simp only [step, failed]

/-! ## Where it leads -/

section Track

variable (listing : List α) (sizes : Nat → Int32)

/-- The offset of a page: the sizes of the pages before it. -/
def offsetAt (sizes : Nat → Int32) : Nat → Nat
  | 0 => 0
  | i + 1 => offsetAt sizes i + sizeFor (sizes i)

/-- These are the first pages of the listing, all of them full. -/
structure Reaches (i : Nat) (pages : List (List α)) : Prop where
  count : pages.length = i
  upTo : pages.flatten = listing.take (offsetAt sizes i)
  full : ∀ j page, pages[j]? = some page → page.length = sizeFor (sizes j)

/-- The client has all the pages before this one and asks for it. -/
structure Underway (i : Nat) (w : Walk α) : Prop where
  token : ∃ token, w.standing = .asking token ∧ readToken token = .ok (offsetAt sizes i)
  reaches : Reaches listing sizes i w.pages
  inside : i = 0 ∨ offsetAt sizes i < listing.length

/-- The client has the whole listing, in full pages up to the last one. -/
structure Complete (w : Walk α) : Prop where
  standing : w.standing = .complete
  whole : w.pages.flatten = listing
  full : ∀ j page, w.pages[j]? = some page → j + 1 < w.pages.length → page.length = sizeFor (sizes j)

/-- The client has all the pages before one that ends beyond the largest offset, and was refused that one. -/
structure Refused (w : Walk α) : Prop where
  standing : w.standing = .failed Refusal.tokenOutOfRange.status
  reaches : Reaches listing sizes w.pages.length w.pages
  beyond : 2147483647 < offsetAt sizes w.pages.length + sizeFor (sizes w.pages.length)
  long : 2147483648 < listing.length

/-- Where the client is after `i` requests. -/
def OnTrack (i : Nat) (w : Walk α) : Prop :=
  Underway listing sizes i w ∨ Complete listing sizes w ∨ Refused listing sizes w

/-- The walk is on its track throughout, and it ends. It ends with the whole listing if that is not too long. -/
structure Walked (walk : Nat → Walk α) : Prop where
  onTrack : ∀ i, OnTrack listing sizes i (walk i)
  ends : Complete listing sizes (walk (listing.length + 1)) ∨ Refused listing sizes (walk (listing.length + 1))
  complete : listing.length ≤ 2147483648 → Complete listing sizes (walk (listing.length + 1))

end Track

variable {listing : List α} {sizes : Nat → Int32} {i : Nat} {w : Walk α}

/-- Each page takes up one offset at least. -/
theorem le_offsetAt (sizes : Nat → Int32) (i : Nat) : i ≤ offsetAt sizes i := by
  induction i with
  | zero => exact Nat.le_refl 0
  | succ i ih =>
    have pos := sizeFor_pos (sizes i)
    simp only [offsetAt]
    omega

theorem underway_start : Underway listing sizes 0 start where
  token := ⟨"", rfl, rfl⟩
  reaches := ⟨rfl, rfl, fun j page h => by simp [start] at h⟩
  inside := .inl rfl

/-- One more page. -/
theorem Reaches.snoc {pages : List (List α)} (reaches : Reaches listing sizes i pages)
    (more : offsetAt sizes (i + 1) ≤ listing.length) :
    Reaches listing sizes (i + 1) (pages ++ [(listing.drop (offsetAt sizes i)).take (sizeFor (sizes i))]) where
  count := by simp [reaches.count]
  upTo := by
    rw [List.flatten_append, reaches.upTo, List.flatten_singleton, offsetAt, List.take_add]
  full j page h := by
    rcases Nat.lt_or_ge j pages.length with earlier | last
    · rw [List.getElem?_append_left earlier] at h
      exact reaches.full j page h
    · rw [List.getElem?_append_right last, List.getElem?_singleton] at h
      split at h
      · next first =>
        have same : j = i := by
          have := reaches.count
          omega
        cases h
        simp only [offsetAt] at more
        rw [same, List.length_take, List.length_drop]
        omega
      · cases h

/-- The last page completes the listing. -/
theorem Reaches.complete {pages : List (List α)} (reaches : Reaches listing sizes i pages) :
    Complete listing sizes ⟨pages ++ [listing.drop (offsetAt sizes i)], .complete⟩ where
  standing := rfl
  whole := by
    rw [List.flatten_append, reaches.upTo, List.flatten_singleton, List.take_append_drop]
  full j page h notLast := by
    have earlier : j < pages.length := by simpa using notLast
    rw [List.getElem?_append_left earlier] at h
    exact reaches.full j page h

/-- What one request leads to. -/
theorem Underway.step {answer : String → Except Status (Page α)} (underway : Underway listing sizes i w)
    (answers : ∀ token, w.standing = .asking token → readToken token = .ok (offsetAt sizes i) →
      answer token = ((⟨sizeFor (sizes i), offsetAt sizes i⟩ : Window).pageOf listing).mapError Refusal.status) :
    OnTrack listing sizes (i + 1) (w.step answer) := by
  obtain ⟨⟨token, asking, reads⟩, reaches, -⟩ := underway
  have answered := answers token asking reads
  obtain ⟨pages, standing⟩ := w
  dsimp only at asking reaches
  subst asking
  by_cases last : listing.length ≤ offsetAt sizes i + sizeFor (sizes i)
  · rw [Window.pageOf_last last] at answered
    refine .inr (.inl ?_)
    simp only [Walk.step, answered, mapError_ok]
    exact reaches.complete
  · have more := Nat.not_le.1 last
    by_cases inRange : offsetAt sizes i + sizeFor (sizes i) ≤ maxOffset
    · rw [Window.pageOf_middle more inRange] at answered
      refine .inl ?_
      have hasNext : (Page.hasNext ⟨(listing.drop (offsetAt sizes i)).take (sizeFor (sizes i)),
          printToken (offsetAt sizes i + sizeFor (sizes i) : Nat)⟩) = true :=
        decide_eq_true (printToken_ne_empty _)
      simp only [Walk.step, answered, mapError_ok, hasNext, if_true]
      exact ⟨⟨_, rfl, readToken_printToken inRange⟩, reaches.snoc (Nat.le_of_lt more), .inr more⟩
    · have beyond := Nat.not_le.1 inRange
      rw [Window.pageOf_beyond more beyond] at answered
      refine .inr (.inr ?_)
      simp only [Walk.step, answered, mapError_error]
      have count := reaches.count
      refine ⟨rfl, by rwa [count], by rw [count]; exact beyond, ?_⟩
      simp only [maxOffset] at beyond
      omega

/-- Requests that are answered with the pages of one listing lead through all of it. -/
theorem walked_of_pages {answer : Nat → String → Except Status (Page α)}
    (answers : ∀ i token, (after answer i).standing = .asking token → readToken token = .ok (offsetAt sizes i) →
      answer i token = ((⟨sizeFor (sizes i), offsetAt sizes i⟩ : Window).pageOf listing).mapError Refusal.status) :
    Walked listing sizes (after answer) := by
  have onTrack : ∀ i, OnTrack listing sizes i (after answer i) := by
    intro i
    induction i with
    | zero => exact .inl underway_start
    | succ i ih =>
      rcases ih with underway | stopped
      · exact underway.step (answers i)
      · have still : (after answer i).Stopped :=
          stopped.imp (fun complete => complete.standing) fun refused => ⟨_, refused.standing⟩
        rw [after, step_of_stopped still]
        exact .inr stopped
  have ends : Complete listing sizes (after answer (listing.length + 1)) ∨
      Refused listing sizes (after answer (listing.length + 1)) := by
    rcases onTrack (listing.length + 1) with underway | stopped
    · have far := le_offsetAt sizes (listing.length + 1)
      have inside := underway.inside
      omega
    · exact stopped
  refine ⟨onTrack, ends, fun short => ?_⟩
  rcases ends with complete | refused
  · exact complete
  · exact absurd refused.long (Nat.not_lt.2 short)

end Walk
end ProfileGateway
