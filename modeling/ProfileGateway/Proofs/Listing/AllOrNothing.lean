import ProfileGateway.Proofs.Listing.FanOut
/-!
# All or nothing

Two sources that are asked together are both heard or the call fails. Their answers alone decide which of the two
it is, and what comes of a call that succeeds; how long they wait decides between two failures and nothing else
(`fanout_allOrNothing`). That a source has no data is as good as an answer without rows.
-/
namespace ProfileGateway

open Operation

/-- What two sources answer when they are asked together, how long each of them waits, and what comes of it. -/
structure Joint (β γ ρ : Type) where
  left : Except Failure (List β)
  right : Except Failure (List γ)
  leftDelay : Duration
  rightDelay : Duration
  result : Except Status ρ
deriving DecidableEq

/-- The answer, with no rows in place of no data. -/
def emptied {β : Type} : Except Failure (List β) → Except Failure (List β)
  | .ok rows => .ok rows
  | .error f => if f.kind = .notFound then .ok [] else .error f

/-- The law of two sources that are asked together in the calls that are served so. -/
structure AllOrNothing {β γ ρ : Type} (left right : Source) (served : Joint β γ ρ → Prop) : Prop where
  /-- A call succeeds exactly if neither source fails other than for want of data. -/
  succeeds_iff : ∀ j, served j → ((∃ response, j.result = .ok response) ↔ ¬HardFails j.left ∧ ¬HardFails j.right)
  /-- The response of a call that succeeds is the same whatever the delays. -/
  timeless : ∀ j j', served j → served j' → j.left = j'.left → j.right = j'.right →
    ¬HardFails j.left → ¬HardFails j.right → j.result = j'.result
  /-- A call that fails names a source that failed, and no later than the other one if that failed too. -/
  first_failure : ∀ j, served j → HardFails j.left ∨ HardFails j.right →
    HardFails j.left ∧ (HardFails j.right → j.leftDelay.nanos ≤ j.rightDelay.nanos) ∧
      j.result = .error ⟨.internal, left.name ++ " lookup failed"⟩ ∨
    HardFails j.right ∧ (HardFails j.left → j.rightDelay.nanos ≤ j.leftDelay.nanos) ∧
      j.result = .error ⟨.internal, right.name ++ " lookup failed"⟩
  /-- No rows in place of no data, of either source or of both, lead to the same result. -/
  silent : ∀ j j', served j → served j' → j.leftDelay = j'.leftDelay → j.rightDelay = j'.rightDelay →
    emptied j.left = emptied j'.left → emptied j.right = emptied j'.right → j.result = j'.result

/-! ## Answers and their results -/

section Answers

variable {β γ ρ : Type} [Row β] [Row γ]

/-- How a lookup settles depends on its rows only, not on what it asked for or on why there are none. -/
theorem settleLookup_emptied (source : String) (asked asked' : IdSet) (reply : Except Failure (List β)) :
    (settleLookup source asked (emptied reply)).result = (settleLookup source asked' reply).result := by
  cases reply with
  | ok rows => rfl
  | error f =>
    by_cases h : f.kind = .notFound
    · rw [settleLookup_soft (not_hardFails_of_notFound h)]
      simp only [emptied, h, if_true]
      rfl
    · have hard : HardFails (.error f : Except Failure (List β)) := ⟨f, rfl, h⟩
      simp only [emptied, h, if_false]
      rw [settleLookup_hard hard, settleLookup_hard hard]

/-- The result is that of the two lookups joined, and a response made from their rows. -/
def Joint.Settles (left right : Source) (respond : RowsById β × RowsById γ → ρ) (j : Joint β γ ρ) : Prop :=
  ∃ asked, j.result = (joinResults (leftFirst j.leftDelay j.rightDelay)
    (settleLookup left.name asked j.left).result (settleLookup right.name asked j.right).result).map respond

variable {left right : Source} {respond : RowsById β × RowsById γ → ρ} {j j' : Joint β γ ρ}

namespace Joint.Settles

/-- Without a hard failure both tables are joined. -/
theorem result_of_soft (settles : j.Settles left right respond) (l : ¬HardFails j.left) (r : ¬HardFails j.right) :
    j.result = .ok (respond (.ofRows (rowsOf j.left), .ofRows (rowsOf j.right))) := by
  obtain ⟨asked, result⟩ := settles
  rw [result, settleLookup_soft l, settleLookup_soft r]
  rfl

/-- A hard failure on the left is named, unless the right one came first. -/
theorem result_of_left (settles : j.Settles left right respond) (l : HardFails j.left)
    (first : HardFails j.right → leftFirst j.leftDelay j.rightDelay = true) :
    j.result = .error (.lookupFailed left.name) := by
  obtain ⟨asked, result⟩ := settles
  rw [result, settleLookup_hard l]
  by_cases r : HardFails j.right
  · simp [settleLookup_hard r, joinResults, first r, Except.map]
  · simp [settleLookup_soft r, joinResults, Except.map]

/-- A hard failure on the right is named, if the left one did not come first. -/
theorem result_of_right (settles : j.Settles left right respond) (r : HardFails j.right)
    (first : HardFails j.left → leftFirst j.leftDelay j.rightDelay = false) :
    j.result = .error (.lookupFailed right.name) := by
  obtain ⟨asked, result⟩ := settles
  rw [result, settleLookup_hard r]
  by_cases l : HardFails j.left
  · simp [settleLookup_hard l, joinResults, first l, Except.map]
  · simp [settleLookup_soft l, joinResults, Except.map]

/-- One of the sources that failed is named. -/
theorem first_failure (settles : j.Settles left right respond) (hard : HardFails j.left ∨ HardFails j.right) :
    HardFails j.left ∧ (HardFails j.right → j.leftDelay.nanos ≤ j.rightDelay.nanos) ∧
      j.result = .error ⟨.internal, left.name ++ " lookup failed"⟩ ∨
    HardFails j.right ∧ (HardFails j.left → j.rightDelay.nanos ≤ j.leftDelay.nanos) ∧
      j.result = .error ⟨.internal, right.name ++ " lookup failed"⟩ := by
  by_cases named : HardFails j.left ∧ (HardFails j.right → leftFirst j.leftDelay j.rightDelay = true)
  · obtain ⟨l, first⟩ := named
    exact .inl ⟨l, fun r => le_of_leftFirst (first r), settles.result_of_left l first⟩
  · have r : HardFails j.right := by
      rcases hard with l | r
      · exact Classical.byContradiction fun h => named ⟨l, fun r => absurd r h⟩
      · exact r
    have later : HardFails j.left → leftFirst j.leftDelay j.rightDelay = false := fun l =>
      Bool.eq_false_iff.2 fun first => named ⟨l, fun _ => first⟩
    exact .inr ⟨r, fun l => le_of_not_leftFirst (later l), settles.result_of_right r later⟩

/-- A joint lookup succeeds if and only if neither side fails hard. -/
theorem succeeds_iff (settles : j.Settles left right respond) :
    (∃ response, j.result = .ok response) ↔ ¬HardFails j.left ∧ ¬HardFails j.right := by
  constructor
  · rintro ⟨response, success⟩
    rw [← not_or]
    intro hard
    rcases settles.first_failure hard with ⟨-, -, failed⟩ | ⟨-, -, failed⟩ <;>
      · rw [failed] at success
        cases success
  · rintro ⟨l, r⟩
    exact ⟨_, settles.result_of_soft l r⟩

/-- Joint lookups that take equally long and settle to the same rows have the same result. -/
theorem silent (settles : j.Settles left right respond) (settles' : j'.Settles left right respond)
    (leftDelay : j.leftDelay = j'.leftDelay) (rightDelay : j.rightDelay = j'.rightDelay)
    (l : emptied j.left = emptied j'.left) (r : emptied j.right = emptied j'.right) : j.result = j'.result := by
  obtain ⟨asked, result⟩ := settles
  obtain ⟨asked', result'⟩ := settles'
  rw [result, result', leftDelay, rightDelay, ← settleLookup_emptied left.name asked' asked j.left,
    ← settleLookup_emptied right.name asked' asked j.right, l, r, settleLookup_emptied left.name asked' asked',
    settleLookup_emptied right.name asked' asked']

end Joint.Settles

/-- The law holds of calls whose results are those of the two lookups joined. -/
theorem AllOrNothing.of_settles {served : Joint β γ ρ → Prop}
    (settles : ∀ j, served j → j.Settles left right respond) : AllOrNothing left right served where
  succeeds_iff j h := (settles j h).succeeds_iff
  timeless j j' h h' l r softLeft softRight := by
    have result := (settles j h).result_of_soft softLeft softRight
    rw [l] at softLeft
    rw [r] at softRight
    have result' := (settles j' h').result_of_soft softLeft softRight
    rw [result, result', l, r]
  first_failure j h := (settles j h).first_failure
  silent j j' h h' := (settles j h).silent (settles j' h')

end Answers

/-! ## Listings of favorites -/

/-- A listing of favorites is served with this page of its primary source, and its secondary sources answer so. -/
def FavoritesServed (page : Page Engagement) (j : Joint VideoProjection VideoStats ListFavoritesResponse) : Prop :=
  ∃ (σ : Type) (x : Occasion σ) (r : ListFavoritesRequest) (user : Uuid) (window : Window) (rows : List Engagement),
    x.ReadsFavorites r user window rows ∧ window.page rows = .ok page ∧ page.items ≠ [] ∧
      x.Uncut (.listFavorites r) ∧
    let ids := (IdSet.ofList (page.items.map Engagement.videoId)).ids
    j = { left := (x.favoritesReplies user window ids).1
          right := (x.favoritesReplies user window ids).2
          leftDelay := x.backend.delay (.projections ids)
          rightDelay := x.backend.delay (.stats ids)
          result := (x.serve (.listFavorites r)).result }

/-- A page of favorites settles the two lookups it was made from. -/
theorem FavoritesServed.settles {page : Page Engagement} {j : Joint VideoProjection VideoStats ListFavoritesResponse}
    (served : FavoritesServed page j) :
    j.Settles .projection .stats fun v => ⟨favoriteItems v.1 v.2 page.items, page.nextToken⟩ := by
  obtain ⟨σ, x, r, user, window, rows, reads, fits, filled, uncut, rfl⟩ := served
  refine ⟨IdSet.ofList (page.items.map Engagement.videoId), ?_⟩
  dsimp only
  rw [(Occasion.serve_uncut uncut).1, reads.result fits filled]

/-! ## Batches -/

namespace Occasion

variable {σ : Type}

/-- A batch acts for this user and names these ids. -/
structure ReadsBatch (x : Occasion σ) (r : BatchGetFavoritesRequest) (user : Uuid) (ids : List Uuid) : Prop where
  acting : ActingUser.resolve r.userId x.call.carried = .ok user
  names : batchIds r.videoIds = .ok ids

theorem favoritesLookup_of_ne {user : Uuid} {asked : IdSet} (named : asked.isEmpty = false) :
    favoritesLookup user asked = .ask (.favoritesAmong user asked.ids) fun reply =>
      settleLookup Source.favorites.name asked reply := by
  rw [favoritesLookup, batchLookup_of_ne named]
  simp only [Except.map_id]
  rfl

theorem statsLookupIf_of_ne {asked : IdSet} (named : asked.isEmpty = false) :
    statsLookupIf true asked = .ask (.stats asked.ids) fun reply =>
      ⟨(settleLookup Source.stats.name asked reply).events,
        (settleLookup Source.stats.name asked reply).result.map some⟩ := by
  rw [statsLookupIf, if_pos rfl, statsLookup_of_ne named]
  rfl

/-- What the favorites source and the stats source answer when they are asked together for these ids. -/
def batchReplies (x : Occasion σ) (user : Uuid) (ids : List Uuid) :
    Except Failure (List Uuid) × Except Failure (List VideoStats) :=
  x.backend.together (.favoritesAmong user ids) (.stats ids) x.store

theorem joinResults_map_right {β γ δ ρ : Type} (leftFirst : Bool) (x : Except Status β) (y : Except Status γ)
    (f : γ → δ) (g : β × δ → ρ) :
    (joinResults leftFirst x (y.map f)).map g = (joinResults leftFirst x y).map fun v => g (v.1, f v.2) := by
  cases x <;> cases y <;> rfl

variable {x : Occasion σ} {r : BatchGetFavoritesRequest} {user : Uuid} {ids : List Uuid}

/-- A batch with statistics looks up favorites and statistics side by side. -/
theorem ReadsBatch.course (reads : x.ReadsBatch r user ids) :
    let asked := IdSet.ofList ids
    let both := Course.both x.backend (favoritesLookup user asked) (statsLookupIf r.includeStats asked) x.store
    (x.course (.batchGetFavorites r)).result = both.result.map (fun v => ⟨favoriteStates v.1 v.2 ids⟩) ∧
      (x.course (.batchGetFavorites r)).calls = both.calls := by
  intro asked both
  rw [course_batchGetFavorites, reads.acting, mapError_ok, Course.bind_still, reads.names, mapError_ok,
    Course.bind_still, Course.bind_map]
  exact ⟨rfl, rfl⟩

/-- What a batch with stats and at least one id comes to, from the answers of its sources. -/
theorem ReadsBatch.result (reads : x.ReadsBatch r user ids) (filled : ids ≠ []) (stats : r.includeStats = true) :
    let asked := IdSet.ofList ids
    let replies := x.batchReplies user asked.ids
    (x.course (.batchGetFavorites r)).result =
      (joinResults (leftFirst (x.backend.delay (.favoritesAmong user asked.ids)) (x.backend.delay (.stats asked.ids)))
        (settleLookup Source.favorites.name asked replies.1).result
        (settleLookup Source.stats.name asked replies.2).result).map
          fun v => ⟨favoriteStates v.1 (some v.2) ids⟩ := by
  intro asked replies
  have named : asked.isEmpty = false := IdSet.isEmpty_eq_false filled
  rw [reads.course.1, favoritesLookup_of_ne named, stats, statsLookupIf_of_ne named, Course.both_result,
    joinResults_map_right]
  rfl

end Occasion

/-- A batch with stats is served that names these ids, and its sources answer so. -/
def BatchServed (ids : List Uuid) (j : Joint Uuid VideoStats BatchGetFavoritesResponse) : Prop :=
  ∃ (σ : Type) (x : Occasion σ) (r : BatchGetFavoritesRequest) (user : Uuid),
    x.ReadsBatch r user ids ∧ ids ≠ [] ∧ r.includeStats = true ∧ x.Uncut (.batchGetFavorites r) ∧
    let asked := (IdSet.ofList ids).ids
    j = { left := (x.batchReplies user asked).1
          right := (x.batchReplies user asked).2
          leftDelay := x.backend.delay (.favoritesAmong user asked)
          rightDelay := x.backend.delay (.stats asked)
          result := (x.serve (.batchGetFavorites r)).result }

/-- A batch of states settles the two lookups it was made from. -/
theorem BatchServed.settles {ids : List Uuid} {j : Joint Uuid VideoStats BatchGetFavoritesResponse}
    (served : BatchServed ids j) :
    j.Settles .favorites .stats fun v => ⟨favoriteStates v.1 (some v.2) ids⟩ := by
  obtain ⟨σ, x, r, user, reads, filled, stats, uncut, rfl⟩ := served
  refine ⟨IdSet.ofList ids, ?_⟩
  dsimp only
  rw [(Occasion.serve_uncut uncut).1, reads.result filled stats]

/-! ## The law -/

/-- Listings of favorites and batches with stats are all or nothing, whichever of their sources completes first. -/
theorem fanout_allOrNothing :
    (∀ page, AllOrNothing .projection .stats (FavoritesServed page)) ∧
      ∀ ids, AllOrNothing .favorites .stats (BatchServed ids) := by
  constructor
  · intro page
    apply AllOrNothing.of_settles
    intro j served
    exact served.settles
  · intro ids
    apply AllOrNothing.of_settles
    intro j served
    exact served.settles

/-! ## Two sources that fail -/

namespace Occasion

/-- The projection source and the stats source fail, the latter first. The favorites source has no data. -/
def failing : Occasion Store where
  backend := Conditions.backend {
    delay := fun s => if s = .projection then .ofMillis 2 else if s = .stats then .ofMillis 1 else .zero
    failure := fun s =>
      if s = .projection then some ⟨.internal, "down"⟩
      else if s = .stats then some ⟨.unsupportedInput, "bad ids"⟩
      else if s = .favorites then some (.notFound "no favorites")
      else none
    rows := { RowOverrides.none with engagements := some [⟨.ofNat 1, .ofNat 5, .favorite, 30⟩] } }
  policy := .standard
  call := ⟨.root "failing", .empty⟩
  now := .start
  store := ⟨.empty, [], [], .empty, .empty, 0⟩

end Occasion

theorem fanout_allOrNothing_failing :
    let list : ListFavoritesRequest := ⟨some (Uuid.ofNat 1).print, 0, ""⟩
    let batch : BatchGetFavoritesRequest := ⟨some (Uuid.ofNat 1).print, [(Uuid.ofNat 5).print], true⟩
    (Occasion.failing.serve (.listFavorites list)).result = .error ⟨.internal, "stats lookup failed"⟩ ∧
      (Occasion.failing.serve (.batchGetFavorites batch)).result = .error ⟨.internal, "stats lookup failed"⟩ := by
  intro list batch
  have listed : FavoritesServed ⟨[⟨.ofNat 1, .ofNat 5, .favorite, 30⟩], ""⟩
      ⟨.error ⟨.internal, "down"⟩, .error ⟨.unsupportedInput, "bad ids"⟩, .ofMillis 2, .ofMillis 1,
        (Occasion.failing.serve (.listFavorites list)).result⟩ :=
    ⟨Store, .failing, list, .ofNat 1, ⟨20, 0⟩, [⟨.ofNat 1, .ofNat 5, .favorite, 30⟩],
      ⟨by decide +kernel, by decide +kernel, by decide +kernel⟩, by decide +kernel, by decide, by decide +kernel,
      by decide +kernel⟩
  have looked : BatchServed [.ofNat 5]
      ⟨.error (.notFound "no favorites"), .error ⟨.unsupportedInput, "bad ids"⟩, .zero, .ofMillis 1,
        (Occasion.failing.serve (.batchGetFavorites batch)).result⟩ :=
    ⟨Store, .failing, batch, .ofNat 1, ⟨by decide +kernel, by decide +kernel⟩, by decide, by decide,
      by decide +kernel, by decide +kernel⟩
  constructor
  · rcases (fanout_allOrNothing.1 _).first_failure _ listed (.inl ⟨_, rfl, by decide⟩) with
      ⟨-, first, -⟩ | ⟨-, -, failed⟩
    · exact absurd (first ⟨_, rfl, by decide⟩) (by decide)
    · dsimp only at failed
      rw [failed]
      decide +kernel
  · rcases (fanout_allOrNothing.2 _).first_failure _ looked (.inr ⟨_, rfl, by decide⟩) with
      ⟨hard, -, -⟩ | ⟨-, -, failed⟩
    · exact absurd hard (not_hardFails_of_notFound rfl)
    · dsimp only at failed
      rw [failed]
      decide +kernel

end ProfileGateway
