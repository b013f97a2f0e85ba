import Mathlib.Data.List.Dedup
import Mathlib.Data.List.Sort
import ProfileGateway.Proofs.Listing.FanOut
/-!
# Bulk lookups

A lookup of ids asks its source once at most, for all of the ids at once, and what comes of it is a table of the last
row of each id (`BulkLookup.last_wins`). What is asked and what is kept of the answer depend on the ids and the rows
alone, not on the kind of the rows.
-/
namespace ProfileGateway

/-! ## What is asked -/

/-- Ascending ids are fixed by their members. -/
theorem AscendingIds.unique {ids ids' refs refs' : List Uuid} (asc : AscendingIds ids refs)
    (asc' : AscendingIds ids' refs') (same : ∀ u, u ∈ refs ↔ u ∈ refs') : ids = ids' := by
  have irrefl : Std.Irrefl (fun u v : Uuid => u < v) := ⟨fun u => Nat.lt_irrefl u.toNat⟩
  have trans : IsTrans Uuid (fun u v => u < v) := ⟨fun _ _ _ => Nat.lt_trans⟩
  refine List.Pairwise.eq_of_mem_iff asc.ascending asc'.ascending fun u => ?_
  rw [asc.mem_iff, asc'.mem_iff, same]

theorem IdSet.ext {k k' : IdSet} (h : k.ids = k'.ids) : k = k' := by
  cases k; cases k'; cases h; rfl

/-- What is asked for depends on the set of ids alone. -/
theorem IdSet.ofList_congr {refs refs' : List Uuid} (same : ∀ u, u ∈ refs ↔ u ∈ refs') : ofList refs = ofList refs' :=
  IdSet.ext ((ascendingIds refs).unique (ascendingIds refs') same)

/-! ## What is kept -/

section Rows

variable {ρ : Type}

/-- The table is the map from ids to the last of the rows that belong to them. -/
structure RowsById.LastOf [Row ρ] (table : RowsById ρ) (rows : List ρ) : Prop where
  get? : ∀ u, table.get? u = lastRow? rows u
  contains : ∀ u, table.contains u = true ↔ u ∈ rows.map Row.key
  size : table.size = (rows.map Row.key).dedup.length

/-- A key has a last row if it is the key of some row. -/
theorem lastRow?_isSome [Row ρ] {rows : List ρ} {u : Uuid} :
    (lastRow? rows u).isSome = true ↔ u ∈ rows.map Row.key := by
  simp [lastRow?]

/-- A table of rows keeps the last of each key, and no other key. -/
theorem RowsById.lastOf_ofRows [Row ρ] (rows : List ρ) : (ofRows rows).LastOf rows := by
  have contains : ∀ u, (ofRows rows).contains u = true ↔ u ∈ rows.map Row.key := by
    intro u
    rw [Table.contains, get?_ofRows]
    exact lastRow?_isSome
  refine ⟨get?_ofRows rows, contains, ?_⟩
  have keys : (ofRows rows).keys.Perm (rows.map Row.key).dedup := by
    rw [List.perm_ext_iff_of_nodup (ofRows rows).nodup_keys (List.nodup_dedup _)]
    intro u
    rw [← Table.contains_iff, contains, List.mem_dedup]
  rw [← Table.length_keys, keys.length_eq]

/-- What is joined to an id: the last of its rows, or the row that stands for an id without one. It has that id. -/
structure RowsById.Joins [Joinable ρ] (table : RowsById ρ) (rows : List ρ) (u : Uuid) : Prop where
  key : Row.key (table.attach u) = u
  known : ∀ r, lastRow? rows u = some r → table.attach u = r
  unknown : u ∉ rows.map Row.key → table.attach u = Joinable.unknown u

/-- What such a table attaches to an id. -/
theorem RowsById.LastOf.joins [Joinable ρ] {table : RowsById ρ} {rows : List ρ} (last : table.LastOf rows) (u : Uuid) :
    table.Joins rows u := by
  have attached : table.attach u = lastRow rows u := by rw [attach, last.get?, lastRow]
  refine ⟨?_, ?_, ?_⟩
  · rw [attached]
    exact key_lastRow rows u
  · intro r some
    rw [attached, lastRow, some, Option.getD_some]
  · intro absent
    have none : lastRow? rows u = none := Option.not_isSome_iff_eq_none.1 (mt lastRow?_isSome.1 absent)
    rw [attached, lastRow, none, Option.getD_none]

end Rows

/-! ## Lookups -/

/-- A lookup of ids in one source. -/
structure BulkLookup (σ ρ : Type) [Row ρ] where
  backend : Backend σ
  context : Context
  source : String
  fetch : List Uuid → Ask (List ρ)
  ids : List Uuid
  world : World σ

namespace BulkLookup

variable {σ ρ : Type} [Row ρ] (x : BulkLookup σ ρ)

def script : Script (RowsById ρ) := .lookup (batchLookup x.source (.ofList x.ids) x.fetch)

/-- How the lookup ends without a deadline, and the world after it. -/
def ran : Finish (RowsById ρ) × World σ := x.script.run x.backend x.context.unbounded x.world

/-- What the source answers when it is asked for these ids. -/
def answer (asked : List Uuid) : Except Failure (List ρ) :=
  (x.backend.answer (x.fetch asked).call x.world.store).1.map (x.fetch asked).read

/-- What becomes of a lookup. -/
structure Refines : Prop where
  /-- Without ids nobody is asked, and the table is empty. -/
  unasked : x.ids = [] → x.ran = (.returned .empty, x.world)
  /-- The source is asked once, for each of the ids once and in ascending order. -/
  asked : x.ids ≠ [] → ∃ asked, AscendingIds asked x.ids ∧
    x.ran.2.calls = x.world.calls ++ [x.context.record (x.fetch asked).call] ∧
    (∀ rows, x.answer asked = .ok rows →
      x.ran.1 = .returned (.ofRows rows) ∧ (RowsById.ofRows rows).LastOf rows) ∧
    (∀ f, x.answer asked = .error f → f.kind = .notFound → x.ran.1 = .returned (.ofRows [])) ∧
    ∀ f, x.answer asked = .error f → f.kind ≠ .notFound → x.ran.1 = .failed ⟨.internal, x.source ++ " lookup failed"⟩
  /-- Other ids that are the same set are looked up in the same way. -/
  respelled : ∀ ids, (∀ u, u ∈ ids ↔ u ∈ x.ids) → { x with ids }.script = x.script

/-- Running a lookup by itself follows its course. -/
theorem ran_eq : x.ran = (.ofExcept (x.script.course x.backend x.world.store).result,
    x.world.after x.context (x.script.course x.backend x.world.store)) :=
  x.script.run_follows x.backend x.context x.world

variable {x}

theorem ran_of_none (none : x.ids = []) : x.ran = (.returned .empty, x.world) := by
  rw [ran, script, batchLookup_of_empty (IdSet.isEmpty_ofList.2 none)]
  rfl

/-- Some ids are asked for all at once, and the answer alone decides what comes of it. -/
theorem ran_of_some (some : x.ids ≠ []) :
    let asked := (IdSet.ofList x.ids).ids
    x.ran.2.calls = x.world.calls ++ [x.context.record (x.fetch asked).call] ∧
      x.ran.1 = .ofExcept (settleLookup x.source (.ofList x.ids) (x.answer asked)).result := by
  intro asked
  rw [ran_eq, script, batchLookup_of_ne (IdSet.isEmpty_eq_false some), Script.course_lookup]
  exact ⟨rfl, rfl⟩

/-- **A bulk lookup** makes the map from ids to the last of their rows out of one answer. -/
theorem last_wins :
    (∀ {σ ρ : Type} [Row ρ] (x : BulkLookup σ ρ), x.Refines) ∧
    ∀ {ρ : Type} [Joinable ρ] (table : RowsById ρ) (rows : List ρ), table.LastOf rows → ∀ u, table.Joins rows u := by
  constructor
  · intro σ ρ _ x
    refine ⟨ran_of_none, ?asked, ?respelled⟩
    case asked =>
      intro some
      obtain ⟨calls, finish⟩ := ran_of_some some
      refine ⟨_, IdSet.ascendingIds x.ids, calls, ?_, ?_, ?_⟩
      · intro rows answered
        rw [finish, answered]
        exact ⟨rfl, RowsById.lastOf_ofRows rows⟩
      · intro f answered nothing
        rw [finish, answered, settleLookup_soft (not_hardFails_of_notFound nothing)]
        rfl
      · intro f answered hard
        rw [finish, answered, settleLookup_hard ⟨f, rfl, hard⟩]
        rfl
    case respelled =>
      intro ids same
      simp only [script, IdSet.ofList_congr same]
  · intro ρ _ table rows last u
    exact last.joins u

/-! ## A source that returns an id twice and another that nobody asked for -/

/-- Two rows of one video and a row of another. -/
def unevenRows : List VideoStats := [⟨.ofNat 3, 1, 0⟩, ⟨.ofNat 9, 5, 5⟩, ⟨.ofNat 3, 2, 8⟩]

/-- Two ids are looked up, one of them given twice. -/
def repetitive : BulkLookup Store VideoStats where
  backend := Conditions.backend { Conditions.normal with
    rows := { RowOverrides.none with stats := some unevenRows } }
  context := .root "repetitive"
  source := "stats"
  fetch := fun ids => ⟨.stats ids, id⟩
  ids := [.ofNat 7, .ofNat 3, .ofNat 7]
  world := .start .start ⟨.empty, [], [], .empty, .empty, 0⟩

/-- Repeated ids are asked for once, and of repeated rows the last one counts. -/
theorem last_wins_repetitive : ∃ table : RowsById VideoStats, repetitive.ran.1 = .returned table ∧
    (∃ asked, AscendingIds asked repetitive.ids ∧ repetitive.ran.2.calls.map CallRecord.call = [.stats asked]) ∧
      table.size = 2 ∧ table.contains (.ofNat 9) = true ∧
        table.attach (.ofNat 3) = ⟨.ofNat 3, 2, 8⟩ ∧ table.attach (.ofNat 7) = .zero (.ofNat 7) := by
  obtain ⟨asked, ascending, calls, rows, -⟩ := (last_wins.1 repetitive).asked (List.cons_ne_nil _ _)
  obtain ⟨returned, last⟩ := rows unevenRows rfl
  have joins := last_wins.2 _ _ last
  refine ⟨_, returned, ⟨asked, ascending, by rw [calls]; rfl⟩, ?_, ?_, ?_, ?_⟩
  · rw [last.size]
    decide
  · rw [last.contains]
    decide
  · exact (joins (.ofNat 3)).known _ (by decide)
  · exact (joins (.ofNat 7)).unknown (by decide)

end BulkLookup
end ProfileGateway
