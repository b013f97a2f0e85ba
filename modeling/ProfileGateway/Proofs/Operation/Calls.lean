import ProfileGateway.Proofs.Operation.Occasion
import ProfileGateway.Proofs.Script.Asks
/-!
# The calls of the operations

Which calls each operation may make, and that it makes them only with an input that it has accepted
(`Operation.script_asks`). Whatever is to be said of all calls of an operation is a case analysis on
`Operation.MayAsk`. No source is asked twice (`Occasion.asked_once`).
-/
namespace ProfileGateway

namespace Operation

/-- The calls that an operation may make. -/
inductive MayAsk (ctx : Context) : Operation → Call → Prop
  | profile {r user} (acting : ActingUser.resolve r.userId ctx.metadata = .ok user) :
    MayAsk ctx (.getProfile r) (.getProfile user)
  | update {r change} (accepted : profileChange ctx r = .ok change) :
    MayAsk ctx (.updateProfile r) (.updateProfile change)
  | add {r write} (accepted : engagementChange ctx r = .ok write) : MayAsk ctx (.addEngagement r) (.addEngagement write)
  | remove {r write} (accepted : engagementChange ctx r = .ok write) :
    MayAsk ctx (.removeEngagement r) (.removeEngagement write)
  | favorites {r v} (accepted : listing ctx r.userId r.pageSize r.pageToken = .ok v) :
    MayAsk ctx (.listFavorites r) (.listEngagements v.1 .favorite v.2.offset v.2.fetchSize)
  | favoritesProjections {r v} (ids) (accepted : listing ctx r.userId r.pageSize r.pageToken = .ok v) :
    MayAsk ctx (.listFavorites r) (.projections ids)
  | favoritesStats {r v} (ids) (accepted : listing ctx r.userId r.pageSize r.pageToken = .ok v) :
    MayAsk ctx (.listFavorites r) (.stats ids)
  | history {r v} (accepted : listing ctx r.userId r.pageSize r.pageToken = .ok v) :
    MayAsk ctx (.listWatchHistory r) (.listWatchHistory v.1 v.2.offset v.2.fetchSize)
  | historyProjections {r v} (ids) (accepted : listing ctx r.userId r.pageSize r.pageToken = .ok v) :
    MayAsk ctx (.listWatchHistory r) (.projections ids)
  | batch {r user ids} (asked) (acting : ActingUser.resolve r.userId ctx.metadata = .ok user)
      (names : batchIds r.videoIds = .ok ids) : MayAsk ctx (.batchGetFavorites r) (.favoritesAmong user asked)
  | batchStats {r user ids} (asked) (acting : ActingUser.resolve r.userId ctx.metadata = .ok user)
      (names : batchIds r.videoIds = .ok ids) : MayAsk ctx (.batchGetFavorites r) (.stats asked)

/-- Where an operation writes. -/
def writesTo? : Operation → Option Source
  | updateProfile _ => some .updateProfile
  | addEngagement _ => some .addEngagement
  | removeEngagement _ => some .removeEngagement
  | _ => none

theorem projectionLookup_calls {asked : IdSet} {c : Call} (h : c ∈ (projectionLookup asked).calls) :
    c = .projections asked.ids := batchLookup_calls h

theorem statsLookup_calls {asked : IdSet} {c : Call} (h : c ∈ (statsLookup asked).calls) : c = .stats asked.ids :=
  batchLookup_calls h

theorem favoritesLookup_calls {user : Uuid} {asked : IdSet} {c : Call} (h : c ∈ (favoritesLookup user asked).calls) :
    c = .favoritesAmong user asked.ids := batchLookup_calls h

theorem statsLookupIf_calls {wanted : Bool} {asked : IdSet} {c : Call} (h : c ∈ (statsLookupIf wanted asked).calls) :
    c = .stats asked.ids := by
  cases wanted with
  | false => cases h
  | true =>
    have same : (Branch.map some (statsLookup asked)).calls = (statsLookup asked).calls := by
      cases statsLookup asked <;> rfl
    rw [statsLookupIf, if_pos rfl, same] at h
    exact statsLookup_calls h

/-- **The calls of an operation** are these and no others. -/
theorem script_asks (ctx : Context) (op : Operation) : (op.script ctx).Asks (op.MayAsk ctx) := by
  cases op with
  | getProfile r =>
    apply Script.asks_accept_bind
    intro user acting
    exact (Script.asks_call (.profile acting)).bind fun _ => trivial
  | updateProfile r =>
    apply Script.asks_accept_bind
    intro change accepted
    exact (Script.asks_call (.update accepted)).bind fun _ => trivial
  | deleteProfile r => exact trivial
  | addEngagement r =>
    apply Script.asks_accept_bind
    intro write accepted
    exact (Script.asks_call (.add accepted)).bind fun _ => trivial
  | removeEngagement r =>
    apply Script.asks_accept_bind
    intro write accepted
    exact Script.asks_call (.remove accepted)
  | listFavorites r =>
    apply Script.asks_accept_bind
    rintro ⟨user, window⟩ accepted
    apply (Script.asks_call (.favorites accepted)).bind
    intro rows
    apply Script.asks_accept_bind
    intro page _
    refine (Script.asks_joined fun c h => ?_).bind fun _ => trivial
    rcases List.mem_append.1 h with h | h
    · exact projectionLookup_calls h ▸ .favoritesProjections _ accepted
    · exact statsLookup_calls h ▸ .favoritesStats _ accepted
  | listWatchHistory r =>
    apply Script.asks_accept_bind
    rintro ⟨user, window⟩ accepted
    apply (Script.asks_call (.history accepted)).bind
    intro rows
    apply Script.asks_accept_bind
    intro page _
    refine (Script.asks_lookup fun c h => ?_).bind fun _ => trivial
    exact projectionLookup_calls h ▸ .historyProjections _ accepted
  | batchGetFavorites r =>
    apply Script.asks_accept_bind
    intro user acting
    apply Script.asks_accept_bind
    intro ids names
    refine (Script.asks_joined fun c h => ?_).bind fun _ => trivial
    rcases List.mem_append.1 h with h | h
    · exact favoritesLookup_calls h ▸ .batch _ acting names
    · exact statsLookupIf_calls h ▸ .batchStats _ acting names

/-- No operation but an update writes a profile. -/
theorem MayAsk.source_ne {ctx : Context} {op : Operation} {c : Call} (h : op.MayAsk ctx c)
    (other : ∀ r, op ≠ .updateProfile r) : c.source ≠ .updateProfile := by
  cases h with
  | @update r _ _ => exact absurd rfl (other r)
  | _ => exact nofun

end Operation

/-! ## One call at most -/

namespace Operation

/-- The sources that an operation may ask, in the order in which it does. -/
def sources : Operation → List Source
  | getProfile _ => [.getProfile]
  | updateProfile _ => [.updateProfile]
  | deleteProfile _ => []
  | addEngagement _ => [.addEngagement]
  | removeEngagement _ => [.removeEngagement]
  | listFavorites _ => [.listEngagements, .projection, .stats]
  | listWatchHistory _ => [.watchHistory, .projection]
  | batchGetFavorites _ => [.favorites, .stats]

/-- Every operation asks the sources it lists, in their order. -/
theorem script_asksInTurn {σ : Type} (b : Backend σ) (ctx : Context) (op : Operation) :
    (op.script ctx).AsksInTurn b op.sources := by
  cases op with
  | getProfile r =>
    apply Script.asksInTurn_accept_bind
    intro user
    exact (Script.asksInTurn_call (.getProfile user)).bind fun _ => Script.asksInTurn_done _
  | updateProfile r =>
    apply Script.asksInTurn_accept_bind
    intro change
    exact (Script.asksInTurn_call (.updateProfile change)).bind fun _ s => List.nil_sublist _
  | deleteProfile r => exact fun s => List.nil_sublist _
  | addEngagement r =>
    apply Script.asksInTurn_accept_bind
    intro write
    exact (Script.asksInTurn_call (.addEngagement write)).bind fun _ => Script.asksInTurn_done _
  | removeEngagement r =>
    apply Script.asksInTurn_accept_bind
    intro write
    exact Script.asksInTurn_call (.removeEngagement write)
  | listFavorites r =>
    apply Script.asksInTurn_accept_bind
    rintro ⟨user, window⟩
    refine (Script.asksInTurn_call (.listEngagements user .favorite window.offset window.fetchSize)).bind fun rows => ?_
    apply Script.asksInTurn_accept_bind
    intro page
    refine (Script.asksInTurn_joined (fun c h => ?_) fun c h => ?_).bind fun _ => Script.asksInTurn_done _
    · rw [projectionLookup_calls h, Call.source]
    · rw [statsLookup_calls h, Call.source]
  | listWatchHistory r =>
    apply Script.asksInTurn_accept_bind
    rintro ⟨user, window⟩
    refine (Script.asksInTurn_call (.listWatchHistory user window.offset window.fetchSize)).bind fun rows => ?_
    apply Script.asksInTurn_accept_bind
    intro page
    refine (Script.asksInTurn_lookup fun c h => ?_).bind fun _ => Script.asksInTurn_done _
    rw [projectionLookup_calls h, Call.source]
  | batchGetFavorites r =>
    apply Script.asksInTurn_accept_bind
    intro user
    apply Script.asksInTurn_accept_bind
    intro ids
    refine (Script.asksInTurn_joined (fun c h => ?_) fun c h => ?_).bind fun _ => Script.asksInTurn_done _
    · rw [favoritesLookup_calls h, Call.source]
    · rw [statsLookupIf_calls h, Call.source]

/-- No operation lists a source twice. -/
theorem nodup_sources (op : Operation) : op.sources.Nodup := by
  cases op <;> simp [sources]

end Operation

namespace Occasion

variable {σ : Type} {x : Occasion σ} {op : Operation}

/-- A call is made only if the operation may make it, however the operation ends. -/
theorem mayAsk_of_asked {c : Call} (h : c ∈ (x.serve op).asked) : op.MayAsk (x.context op) c :=
  (op.script_asks (x.context op)).of_mem_calls (asked_within.mem h)

/-- No source is asked twice. -/
theorem asked_once (x : Occasion σ) (op : Operation) : ((x.serve op).asked.map Call.source).Nodup := by
  have inTurn := op.script_asksInTurn x.backend (x.context op) x.store
  exact op.nodup_sources.sublist ((asked_within.sublist.map Call.source).trans inTurn)

/-- An operation keeps what its calls keep, however it ends. -/
theorem serve_keeps {P : σ → Prop} (answers : ∀ c, op.MayAsk (x.context op) c → ∀ s, P s → P (x.backend.answer c s).2)
    (start : P x.store) : P (x.serve op).store := by
  rw [serve_store]
  exact Script.run_keeps (op.script_asks (x.context op)) answers _ start

end Occasion
end ProfileGateway
