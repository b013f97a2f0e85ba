import ProfileGateway.Proofs.Listing.AllOrNothing
import ProfileGateway.Proofs.Operation.Profiles
/-!
# The time of operations

How long an operation takes when no deadline cuts it, from what its sources answer and how long they wait
(`Occasion.freeTime`), and that its course takes exactly that long (`Occasion.elapsed_course`). Sources that are asked
together end with the first of them that fails, and otherwise with the slowest.
-/
namespace ProfileGateway

open Operation

instance {ρ : Type} (reply : Except Failure (List ρ)) : Decidable (HardFails reply) :=
  match reply with
  | .ok rows => isFalse (not_hardFails_ok rows)
  | .error f => decidable_of_iff (f.kind ≠ .notFound) (by simp [HardFails])

/-! ## Secondary sources -/

/-- A secondary source that is asked: how long it waits, and whether it then fails other than for want of data. -/
structure Secondary where
  wait : Duration
  fails : Bool
deriving DecidableEq, Repr

def Secondary.ofReply {ρ : Type} (wait : Duration) (reply : Except Failure (List ρ)) : Secondary :=
  ⟨wait, HardFails reply⟩

/-- How long sources take that are asked together: until the first of them fails, or all have answered. -/
def secondaryTime (sources : List Secondary) : Duration :=
  let waits (ss : List Secondary) := ss.map fun s => s.wait.nanos
  match (waits (sources.filter Secondary.fails)).min? with
  | some first => ⟨first⟩
  | none => ⟨(waits sources).max?.getD 0⟩

theorem secondaryTime_singleton (s : Secondary) : secondaryTime [s] = s.wait := by
  obtain ⟨wait, fails⟩ := s
  cases fails <;> rfl

/-- Two sources take as long as the slower one if neither fails, and else as the first that fails. -/
theorem secondaryTime_pair (w w' : Duration) (f f' : Bool) : (secondaryTime [⟨w, f⟩, ⟨w', f'⟩]).nanos =
    match f, f' with
    | false, false => max w.nanos w'.nanos
    | true, false => w.nanos
    | false, true => w'.nanos
    | true, true => min w.nanos w'.nanos := by
  cases f <;> cases f' <;> rfl

/-! ## Two lookups -/

section Lookups

variable {σ β γ : Type} (b : Backend σ)

/-- Two calls made at the same time take as long as their sources do together. -/
theorem Course.both_elapsed (c c' : Call) (v : Except Failure c.Reply → Verdict β)
    (v' : Except Failure c'.Reply → Verdict γ) (s : σ) :
    (Course.both b (.ask c v) (.ask c' v') s).elapsed =
      secondaryTime [⟨b.delay c, !(v (b.together c c' s).1).result.isOk⟩,
        ⟨b.delay c', !(v' (b.together c c' s).2).result.isOk⟩] := by
  apply Duration.ext
  rw [secondaryTime_pair]
  unfold Course.both Backend.together
  simp only [Branch.delay, Branch.reply]
  -- Whoever is settled first: if it fails its wait is all that counts, and if not the other's is.
  by_cases first : leftFirst (b.delay c) (b.delay c') = true
  · have order := le_of_leftFirst first
    simp only [first, if_true]
    cases left : (v (b.answer c s).1).result <;>
      cases right : (v' (b.answer c' (b.answer c s).2).1).result <;> simp [Except.isOk, Except.toBool, order]
  · have order := le_of_not_leftFirst (Bool.eq_false_iff.2 first)
    simp only [first, if_false, Bool.false_eq_true]
    cases right : (v' (b.answer c' s).1).result <;>
      cases left : (v (b.answer c (b.answer c' s).2).1).result <;> simp [Except.isOk, Except.toBool, order]

/-- A lookup that is not joined by another one takes its own time. -/
theorem Course.both_ready_elapsed (left : Branch β) (value : γ) (s : σ) :
    (Course.both b left (.ready value) s).elapsed = left.delay b := by
  have still : (Branch.ready value).delay b = .zero := rfl
  unfold Course.both
  rw [still]
  by_cases first : leftFirst (left.delay b) .zero = true
  · have none : left.delay b = .zero := Duration.ext (Nat.le_zero.1 (le_of_leftFirst first))
    simp only [first, if_true]
    cases (left.reply b s).1.result with
    | error e => rfl
    | ok a => exact none.symm
  · simp only [first, if_false, Bool.false_eq_true]
    rfl

theorem isOk_map {ε : Type} (x : Except ε β) (f : β → γ) : (x.map f).isOk = x.isOk := by
  cases x <;> rfl

/-- A lookup fails exactly if its source fails other than for want of data. -/
theorem settleLookup_isOk {ρ : Type} [Row ρ] (source : String) (asked : IdSet) (reply : Except Failure (List ρ)) :
    (!(settleLookup source asked reply).result.isOk) = decide (HardFails reply) := by
  by_cases hard : HardFails reply
  · rw [settleLookup_hard hard, decide_eq_true hard]
    rfl
  · rw [settleLookup_soft hard, decide_eq_false hard]
    rfl

end Lookups

/-! ## Listings -/

section Listing

variable {σ α β : Type}

/-- How long a listing takes: nothing if its input is refused, the time of its primary source, and after a page of
records that of the secondary sources which are asked about it. -/
def listingTime (b : Backend σ) (accepted : Except Refusal (Uuid × Window)) (primary : Uuid × Window → Ask (List α))
    (s : σ) (secondaries : Uuid × Window → List α → List Secondary) : Duration :=
  match accepted with
  | .error _ => .zero
  | .ok v =>
    match (b.answer (primary v).call s).1 with
    | .error _ => b.delay (primary v).call
    | .ok reply =>
      match v.2.page ((primary v).read reply) with
      | .error _ => b.delay (primary v).call
      | .ok page => b.delay (primary v).call + secondaryTime (secondaries v page.items)

/-- A listing takes the time of its primary source, and that of the secondary ones after a page. -/
theorem elapsed_listing {b : Backend σ} {accepted : Except Refusal (Uuid × Window)}
    {primary : Uuid × Window → Ask (List α)} {s : σ} {secondaries : Uuid × Window → List α → List Secondary}
    {rest : Page α → σ → Course σ β}
    (onPage : ∀ v page, (rest page (b.answer (primary v).call s).2).elapsed = secondaryTime (secondaries v page.items)) :
    ((fetchPage b accepted primary s).bind rest).elapsed = listingTime b accepted primary s secondaries := by
  unfold listingTime
  cases accepted with
  | error e => rfl
  | ok v =>
    dsimp only
    cases answered : (b.answer (primary v).call s).1 with
    | error f => simp [fetchPage, Course.bind, Course.still, Script.course_call, answered]
    | ok reply =>
      rw [fetchPage_of_reply rfl answered]
      dsimp only
      cases v.2.page ((primary v).read reply) with
      | error e => rfl
      | ok page =>
        rw [mapError_ok, Course.bind_ok]
        dsimp only
        rw [onPage]

end Listing

/-! ## Operations -/

namespace Occasion

variable {σ : Type} (x : Occasion σ)

/-- The secondary sources that a page of favorites is looked up in. -/
def favoritesSecondaries (v : Uuid × Window) (page : List Engagement) : List Secondary :=
  if page = [] then []
  else
    let ids := (IdSet.ofList (page.map Engagement.videoId)).ids
    let replies := x.favoritesReplies v.1 v.2 ids
    [.ofReply (x.backend.delay (.projections ids)) replies.1, .ofReply (x.backend.delay (.stats ids)) replies.2]

/-- The secondary source that a page of watch history is looked up in. -/
def historySecondaries (v : Uuid × Window) (page : List WatchLogEntry) : List Secondary :=
  if page = [] then []
  else
    let ids := (IdSet.ofList (page.map WatchLogEntry.videoId)).ids
    [.ofReply (x.backend.delay (.projections ids)) (x.historyReply v.1 v.2 ids)]

/-- The sources that a batch is looked up in; without stats it is one. -/
def batchSecondaries (user : Uuid) (ids : List Uuid) (includeStats : Bool) : List Secondary :=
  if ids = [] then []
  else
    let ids := (IdSet.ofList ids).ids
    let replies := x.batchReplies user ids
    if includeStats then
      [.ofReply (x.backend.delay (.favoritesAmong user ids)) replies.1,
        .ofReply (x.backend.delay (.stats ids)) replies.2]
    else
      [.ofReply (x.backend.delay (.favoritesAmong user ids)) (x.backend.answer (.favoritesAmong user ids) x.store).1]

/-- How long an operation takes that asks once. -/
def singleTime {ω : Type} (accepted : Except Refusal ω) (call : ω → Call) : Duration :=
  match accepted with
  | .error _ => .zero
  | .ok w => x.backend.delay (call w)

/-- How long an operation takes when nothing cuts it. -/
def freeTime : Operation → Duration
  | .getProfile r => x.singleTime (ActingUser.resolve r.userId x.call.carried) .getProfile
  | .updateProfile r => x.singleTime (x.change r) .updateProfile
  | .deleteProfile _ => .zero
  | .addEngagement r => x.singleTime (engagementChange (x.context (.addEngagement r)) r) .addEngagement
  | .removeEngagement r => x.singleTime (engagementChange (x.context (.removeEngagement r)) r) .removeEngagement
  | .listFavorites r =>
    listingTime x.backend (x.accepted r.userId r.pageSize r.pageToken) favoritesAsk x.store x.favoritesSecondaries
  | .listWatchHistory r =>
    listingTime x.backend (x.accepted r.userId r.pageSize r.pageToken) historyAsk x.store x.historySecondaries
  | .batchGetFavorites r =>
    match ActingUser.resolve r.userId x.call.carried, batchIds r.videoIds with
    | .ok user, .ok ids => secondaryTime (x.batchSecondaries user ids r.includeStats)
    | _, _ => .zero

variable {x}

/-- An operation that asks once takes the time of its source, if it asks at all. -/
theorem elapsed_single {op : Operation} {ω : Type} {accepted : Except Refusal ω} {call : ω → Call}
    {respond : (w : ω) → (call w).Reply → List Event × op.Response}
    (shape : op.script (x.context op) = .single accepted call respond) :
    (x.course op).elapsed = x.singleTime accepted call := by
  rw [course, shape]
  cases valid : accepted with
  | error e =>
    rw [Script.single_of_refused rfl]
    rfl
  | ok w => exact (Script.course_single_of_accepted x.backend respond x.store rfl).2.1

/-- The two lookups of a page of favorites take the time of its secondary sources. -/
theorem both_favorites_elapsed (v : Uuid × Window) (page : List Engagement) :
    let asked := IdSet.ofList (page.map Engagement.videoId)
    (Course.both x.backend (projectionLookup asked) (statsLookup asked) (x.afterFavorites v.1 v.2)).elapsed =
      secondaryTime (x.favoritesSecondaries v page) := by
  intro asked
  by_cases empty : page = []
  · have none : asked.isEmpty = true := IdSet.isEmpty_ofList.2 (by rw [empty]; rfl)
    rw [projectionLookup_of_empty none, statsLookup_of_empty none, favoritesSecondaries, if_pos empty]
    rfl
  · have filled : asked.isEmpty = false := IdSet.isEmpty_eq_false (mt List.map_eq_nil_iff.1 empty)
    rw [projectionLookup_of_ne filled, statsLookup_of_ne filled, Course.both_elapsed, favoritesSecondaries,
      if_neg empty, settleLookup_isOk, settleLookup_isOk]
    rfl

/-- The lookup of a page of watch history takes the time of its secondary source. -/
theorem lookup_history_elapsed (v : Uuid × Window) (page : List WatchLogEntry) :
    let asked := IdSet.ofList (page.map WatchLogEntry.videoId)
    ((Script.lookup (projectionLookup asked)).course x.backend (x.afterHistory v.1 v.2)).elapsed =
      secondaryTime (x.historySecondaries v page) := by
  intro asked
  rw [Script.course_lookup]
  by_cases empty : page = []
  · have none : asked.isEmpty = true := IdSet.isEmpty_ofList.2 (by rw [empty]; rfl)
    rw [projectionLookup_of_empty none, historySecondaries, if_pos empty]
    rfl
  · have filled : asked.isEmpty = false := IdSet.isEmpty_eq_false (mt List.map_eq_nil_iff.1 empty)
    rw [projectionLookup_of_ne filled, historySecondaries, if_neg empty, secondaryTime_singleton]
    rfl

/-- The lookups of a batch take the time of its sources. -/
theorem both_batch_elapsed (user : Uuid) (ids : List Uuid) (includeStats : Bool) :
    let asked := IdSet.ofList ids
    (Course.both x.backend (favoritesLookup user asked) (statsLookupIf includeStats asked) x.store).elapsed =
      secondaryTime (x.batchSecondaries user ids includeStats) := by
  intro asked
  by_cases empty : ids = []
  · have none : asked.isEmpty = true := IdSet.isEmpty_ofList.2 empty
    rw [batchSecondaries, if_pos empty, favoritesLookup, batchLookup_of_empty none]
    cases includeStats with
    | false => rfl
    | true =>
      rw [statsLookupIf, if_pos rfl, statsLookup_of_empty none]
      rfl
  · have filled : asked.isEmpty = false := IdSet.isEmpty_eq_false empty
    rw [batchSecondaries, if_neg empty, favoritesLookup_of_ne filled]
    cases includeStats with
    | false =>
      have alone := Course.both_ready_elapsed x.backend (.ask (.favoritesAmong user asked.ids) fun reply =>
        settleLookup Source.favorites.name asked reply) (none : Option (RowsById VideoStats)) x.store
      refine Eq.trans alone ?_
      rw [if_neg Bool.false_ne_true, secondaryTime_singleton]
      rfl
    | true =>
      rw [statsLookupIf_of_ne filled, Course.both_elapsed, isOk_map, settleLookup_isOk, settleLookup_isOk]
      rfl

/-- **The course of an operation** takes its time. -/
theorem elapsed_course (x : Occasion σ) (op : Operation) : (x.course op).elapsed = x.freeTime op := by
  cases op with
  | getProfile r =>
    rw [elapsed_single (script_getProfile _ r), metadata_context]
    rfl
  | updateProfile r => exact elapsed_single (script_updateProfile _ r)
  | deleteProfile r => rfl
  | addEngagement r => exact elapsed_single (script_addEngagement _ r)
  | removeEngagement r => exact elapsed_single (script_removeEngagement _ r)
  | listFavorites r =>
    rw [course_listFavorites]
    apply elapsed_listing
    intro v page
    dsimp only
    rw [Course.bind_map]
    exact both_favorites_elapsed v page.items
  | listWatchHistory r =>
    rw [course_listWatchHistory]
    apply elapsed_listing
    intro v page
    dsimp only
    rw [Course.bind_map]
    exact lookup_history_elapsed v page.items
  | batchGetFavorites r =>
    rw [course_batchGetFavorites, freeTime]
    cases ActingUser.resolve r.userId x.call.carried with
    | error e => rfl
    | ok user =>
      cases batchIds r.videoIds with
      | error e => rfl
      | ok ids =>
        rw [mapError_ok, Course.bind_still, mapError_ok, Course.bind_still, Course.bind_map]
        exact both_batch_elapsed user ids r.includeStats

end Occasion
end ProfileGateway
