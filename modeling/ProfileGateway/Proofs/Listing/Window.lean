import ProfileGateway.Proofs.Listing.Token
/-!
# Windows

A window holds from 1 to 100 records, wherever it begins. The page in it is made of the first records that were
fetched, however many these are, and the next page begins right behind it (`Window.Bounded.pages`).
-/
namespace ProfileGateway

open Page

section Sizes

variable (requested : Int32)

theorem Page.sizeFor_pos : 0 < sizeFor requested := by
  unfold sizeFor
  split
  · decide
  · next positive =>
    rw [Int32.not_le, Int32.lt_iff_toInt_lt, Int32.toInt_zero] at positive
    have : 0 < maxSize := by decide
    omega

theorem Page.sizeFor_le : sizeFor requested ≤ 100 := by
  unfold sizeFor
  split
  · decide
  · exact Nat.min_le_right _ _

end Sizes

namespace Window

/-! ## Bounds -/

/-- The bounds of a window. One more record than it holds is fetched, and that many can be asked for. -/
structure Bounded (w : Window) : Prop where
  limit_pos : 1 ≤ w.limit
  limit_le : w.limit ≤ 100
  offset_le : w.offset ≤ 2147483647
  fetchSize_eq : w.fetchSize = w.limit + 1
  fetchSize_le : w.fetchSize ≤ 2147483647

/-- The window of a request whose token is read. -/
theorem ofRequest_of_readToken {token : String} {offset : Nat} (read : readToken token = .ok offset) (size : Int32) :
    ofRequest size token = .ok ⟨sizeFor size, offset⟩ := by
  rw [ofRequest, read]
  rfl

/-- Such a window is within the bounds. -/
theorem bounded_of_readToken {token : String} {offset : Nat} (read : readToken token = .ok offset) (size : Int32) :
    Bounded ⟨sizeFor size, offset⟩ where
  limit_pos := sizeFor_pos size
  limit_le := sizeFor_le size
  offset_le := (readToken_eq_ok.1 read).offset_le
  fetchSize_eq := rfl
  fetchSize_le := by
    have small := sizeFor_le size
    simp only [fetchSize]
    omega

/-! ## Pages -/

section Pages

variable {α : Type} {w : Window} {rows : List α} {page : Page α} {e : Refusal}

/-- The token that is given out with the page of these records. -/
def tokenBehind (w : Window) (rows : List α) : String :=
  if w.limit < rows.length then printToken (w.offset + w.limit : Nat) else ""

/-- A page is followed by a token only if more rows than it has room for were fetched. -/
theorem tokenBehind_ne_empty : w.tokenBehind rows ≠ "" ↔ w.limit < rows.length := by
  unfold tokenBehind
  split
  · next many => exact iff_of_true (printToken_ne_empty _) many
  · next few => exact iff_of_false (fun ne => ne rfl) few

/-- The page of records that all fit, and of those that do not. -/
theorem page_of_few (few : ¬w.limit < rows.length) : w.page rows = .ok ⟨rows.take w.limit, w.tokenBehind rows⟩ := by
  rw [Window.page, if_pos (Nat.not_lt.1 few), tokenBehind, if_neg few, List.take_of_length_le (Nat.not_lt.1 few)]

/-- A page with rows behind it fails only if the next offset has no token. -/
theorem page_of_many (many : w.limit < rows.length) : w.page rows =
    if w.offset + w.limit ≤ maxOffset then .ok ⟨rows.take w.limit, w.tokenBehind rows⟩ else .error .tokenOutOfRange := by
  rw [Window.page, if_neg (Nat.not_le.2 many), tokenBehind, if_pos many]

/-- When a page is made, and which. -/
theorem page_eq_ok : w.page rows = .ok page ↔
    (w.limit < rows.length → w.offset + w.limit ≤ maxOffset) ∧ page = ⟨rows.take w.limit, w.tokenBehind rows⟩ := by
  by_cases many : w.limit < rows.length
  · by_cases inRange : w.offset + w.limit ≤ maxOffset <;> simp [page_of_many many, many, inRange, eq_comm]
  · simp [page_of_few many, many, eq_comm]

/-- The one reason why a page fails. -/
theorem page_eq_error : w.page rows = .error e ↔
    (w.limit < rows.length ∧ maxOffset < w.offset + w.limit) ∧ e = .tokenOutOfRange := by
  by_cases many : w.limit < rows.length
  · by_cases beyond : maxOffset < w.offset + w.limit
    · simp [page_of_many many, many, beyond, Nat.not_le.2 beyond, eq_comm]
    · simp [page_of_many many, many, beyond, Nat.not_lt.1 beyond]
  · simp [page_of_few many, many]

/-- A page holds the first records, as many as fit. -/
theorem items_page (fits : w.page rows = .ok page) : page.items = rows.take w.limit := by
  rw [(page_eq_ok.1 fits).2]

/-- A page that was made has a next one if rows were left over. -/
theorem hasNext_page (fits : w.page rows = .ok page) : page.hasNext = true ↔ w.limit < rows.length := by
  rw [(page_eq_ok.1 fits).2, Page.hasNext, decide_eq_true_eq, tokenBehind_ne_empty]

/-- The next page begins where this one ends. -/
theorem readToken_nextToken (fits : w.page rows = .ok page) (next : page.hasNext = true) :
    readToken page.nextToken = .ok (w.offset + w.limit) := by
  have many := (hasNext_page fits).1 next
  obtain ⟨inRange, rfl⟩ := page_eq_ok.1 fits
  rw [tokenBehind, if_pos many]
  exact readToken_printToken (inRange many)

/-- The page behind the page that was asked for. -/
theorem readToken_behind {size : Int32} {token : String} {offset : Nat} (read : readToken token = .ok offset)
    (asks : ofRequest size token = .ok w) (fits : w.page rows = .ok page) (next : page.hasNext = true) :
    readToken page.nextToken = .ok (offset + sizeFor size) := by
  rw [ofRequest_of_readToken read] at asks
  cases asks
  exact readToken_nextToken fits next

/-- What comes of a window and the records that were fetched for it. -/
structure Pages (w : Window) (rows : List α) : Prop where
  fails_iff : (∃ e, w.page rows = .error e) ↔ w.limit < rows.length ∧ 2147483647 < w.offset + w.limit
  refused : ∀ e, w.page rows = .error e → e.status.code = .invalidArgument
  items : ∀ page, w.page rows = .ok page → page.items = rows.take (min w.limit rows.length)
  hasNext_iff : ∀ page, w.page rows = .ok page → (page.hasNext = true ↔ w.limit < rows.length)
  next : ∀ page, w.page rows = .ok page → page.hasNext = true →
    readToken page.nextToken = .ok (w.offset + w.limit) ∧ w.offset < w.offset + w.limit

theorem Bounded.pages (bounded : w.Bounded) (rows : List α) : w.Pages rows where
  fails_iff := by simp [page_eq_error, maxOffset]
  refused _ _ := rfl
  items page fits := by
    rw [items_page fits, ← List.take_take, List.take_length]
  hasNext_iff page fits := hasNext_page fits
  next page fits hasNext := ⟨readToken_nextToken fits hasNext, Nat.lt_add_of_pos_right bounded.limit_pos⟩

end Pages

end Window
end ProfileGateway
