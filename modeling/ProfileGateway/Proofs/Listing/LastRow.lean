import ProfileGateway.Script.Basic
/-!
# The last row of an id

What a join attaches to an id is the last row that the source gave for it, and what a source is asked for is a set
of ids in ascending order. A source that knows nothing of a batch has given no rows; any other failure is hard.
-/
namespace ProfileGateway

/-! ## Rows -/

section Rows

variable {ρ : Type}

/-- The last of the rows that belong to an id. -/
def lastRow? [Row ρ] (rows : List ρ) (u : Uuid) : Option ρ := (rows.filter fun r => Row.key r = u).getLast?

/-- The last row of an id, or the one that stands for an id that no row belongs to. -/
def lastRow [Joinable ρ] (rows : List ρ) (u : Uuid) : ρ := (lastRow? rows u).getD (Joinable.unknown u)

/-- A row that comes later takes the place of those with its key. -/
theorem lastRow?_concat [Row ρ] (rows : List ρ) (r : ρ) (u : Uuid) :
    lastRow? (rows ++ [r]) u = if Row.key r = u then some r else lastRow? rows u := by
  unfold lastRow?
  rw [List.filter_append]
  by_cases h : Row.key r = u <;> simp [h]

/-- A table of rows gives the last row of a key. -/
theorem RowsById.get?_ofRows [Row ρ] (rows : List ρ) (u : Uuid) : (ofRows rows).get? u = lastRow? rows u := by
  rw [← List.reverse_reverse rows]
  induction rows.reverse with
  | nil => rfl
  | cons r rs ih => rw [List.reverse_cons, ofRows_concat, Table.get?_insert, lastRow?_concat, ih]

/-- What is attached to a key is its last row, or the empty one. -/
theorem RowsById.attach_ofRows [Joinable ρ] (rows : List ρ) (u : Uuid) : (ofRows rows).attach u = lastRow rows u := by
  rw [attach, get?_ofRows, lastRow]

theorem key_lastRow [Joinable ρ] (rows : List ρ) (u : Uuid) : Row.key (lastRow rows u) = u := by
  rw [← RowsById.attach_ofRows]
  exact RowsById.key_attach rows u

end Rows

/-! ## Sets of ids -/

namespace IdSet

theorem mem_foldl_insert {ids : List Uuid} {k : IdSet} {u : Uuid} :
    u ∈ (ids.foldl insert k).ids ↔ u ∈ ids ∨ u ∈ k.ids := by
  induction ids generalizing k with
  | nil => simp
  | cons v vs ih =>
    rw [List.foldl_cons, ih, mem_insert, List.mem_cons, or_left_comm, or_assoc]

/-- A set made from a list has the members of the list. -/
theorem mem_ofList {ids : List Uuid} {u : Uuid} : u ∈ (ofList ids).ids ↔ u ∈ ids := by
  rw [ofList, mem_foldl_insert]
  simp [empty]

theorem isEmpty_ofList {ids : List Uuid} : (ofList ids).isEmpty = true ↔ ids = [] := by
  rw [isEmpty, List.isEmpty_iff, List.eq_nil_iff_forall_not_mem, List.eq_nil_iff_forall_not_mem]
  simp only [mem_ofList]

end IdSet

/-! ## Answers of sources -/

section Answers

variable {ρ : Type}

/-- The source fails, and not for want of data. -/
def HardFails (reply : Except Failure (List ρ)) : Prop := ∃ f, reply = .error f ∧ f.kind ≠ .notFound

theorem not_hardFails_ok (rows : List ρ) : ¬HardFails (.ok rows) := by
  rintro ⟨f, failed, -⟩
  cases failed

/-- Having nothing is not a failure of a lookup. -/
theorem not_hardFails_of_notFound {f : Failure} (kind : f.kind = .notFound) :
    ¬HardFails (.error f : Except Failure (List ρ)) := by
  rintro ⟨g, failed, other⟩
  cases failed
  exact other kind

/-- The rows of an answer; a failure gives none. -/
def rowsOf : Except Failure (List ρ) → List ρ
  | .ok rows => rows
  | .error _ => []

/-- A reply that is not a hard failure settles to a table of its rows. -/
theorem settleLookup_soft [Row ρ] {source : String} {asked : IdSet} {reply : Except Failure (List ρ)}
    (soft : ¬HardFails reply) : (settleLookup source asked reply).result = .ok (.ofRows (rowsOf reply)) := by
  cases reply with
  | ok rows => rfl
  | error f =>
    have kind : f.kind = .notFound := Classical.byContradiction fun h => soft ⟨f, rfl, h⟩
    simp only [settleLookup, kind]
    rfl

/-- A hard failure settles to the failure of the lookup, with the name of its source. -/
theorem settleLookup_hard [Row ρ] {source : String} {asked : IdSet} {reply : Except Failure (List ρ)}
    (hard : HardFails reply) : (settleLookup source asked reply).result = .error (.lookupFailed source) := by
  obtain ⟨f, rfl, kind⟩ := hard
  unfold settleLookup
  split
  · next h => cases h
  · next h =>
    cases h
    split
    · next h => exact absurd h kind
    · rfl

/-- A lookup that settles had no hard failure. -/
theorem settleLookup_eq_ok [Row ρ] {source : String} {asked : IdSet} {reply : Except Failure (List ρ)}
    {table : RowsById ρ} (h : (settleLookup source asked reply).result = .ok table) :
    ¬HardFails reply ∧ table = .ofRows (rowsOf reply) := by
  have soft : ¬HardFails reply := fun hard => by rw [settleLookup_hard hard] at h; cases h
  rw [settleLookup_soft soft] at h
  exact ⟨soft, (Except.ok.inj h).symm⟩

end Answers

/-! ## Lookups -/

section Lookups

variable {ρ : Type} [Row ρ] {source : String} {asked : IdSet} {fetch : List Uuid → Ask (List ρ)}

/-- Without ids nobody is asked. -/
theorem batchLookup_of_empty (blank : asked.isEmpty = true) : batchLookup source asked fetch = .ready .empty := by
  rw [batchLookup, if_pos blank]

/-- With ids there is one call, for all of them at once. -/
theorem batchLookup_of_ne (filled : asked.isEmpty = false) : batchLookup source asked fetch =
    .ask (fetch asked.ids).call fun reply => settleLookup source asked (reply.map (fetch asked.ids).read) := by
  unfold batchLookup
  rw [filled]
  rfl

end Lookups
end ProfileGateway
