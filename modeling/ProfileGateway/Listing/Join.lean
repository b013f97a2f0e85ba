import ProfileGateway.Collaborator.Record
import ProfileGateway.Table
/-!
# Joining by id

The records of a page refer to videos. Their distinct ids are looked up at once in each secondary source, and the
rows of the source are joined back by id. The row that joins an id has that id, whatever the source returned.
-/
namespace ProfileGateway

/-! ## Sets of ids -/

/-- Adds an id to ids in ascending order, unless it is there. -/
def insertId (u : Uuid) : List Uuid → List Uuid
  | [] => [u]
  | v :: vs => if u < v then u :: v :: vs else if u = v then v :: vs else v :: insertId u vs

theorem mem_insertId {u v : Uuid} {vs : List Uuid} : v ∈ insertId u vs ↔ v = u ∨ v ∈ vs := by
  induction vs with
  | nil => simp [insertId]
  | cons w ws ih =>
    unfold insertId
    split
    · simp
    · split
      · next h => subst h; simp
      · simp only [List.mem_cons, ih]
        exact or_left_comm

theorem ascending_insertId {u : Uuid} {vs : List Uuid} (h : vs.Pairwise (· < ·)) :
    (insertId u vs).Pairwise (· < ·) := by
  induction vs with
  | nil => simp [insertId]
  | cons w ws ih =>
    have ⟨hw, hws⟩ := List.pairwise_cons.1 h
    unfold insertId
    split
    · next hu =>
      refine List.pairwise_cons.2 ⟨fun x hx => ?_, h⟩
      rcases List.mem_cons.1 hx with rfl | hx
      · exact hu
      · exact Nat.lt_trans hu (hw x hx)
    · next hu =>
      split
      · exact h
      · next hne =>
        refine List.pairwise_cons.2 ⟨fun x hx => ?_, ih hws⟩
        rcases mem_insertId.1 hx with rfl | hx
        · have hn : x.toNat ≠ w.toNat := fun he => hne (Uuid.ext he)
          rw [Uuid.lt_def] at hu ⊢
          omega
        · exact hw x hx

/-- Ids of one lookup, each once and in ascending order. -/
structure IdSet where
  ids : List Uuid
  ascending : ids.Pairwise (· < ·)

namespace IdSet

def empty : IdSet := ⟨[], .nil⟩

def insert (k : IdSet) (u : Uuid) : IdSet := ⟨insertId u k.ids, ascending_insertId k.ascending⟩

def ofList (ids : List Uuid) : IdSet := ids.foldl insert empty

def size (k : IdSet) : Nat := k.ids.length

def isEmpty (k : IdSet) : Bool := k.ids.isEmpty

def contains (k : IdSet) (u : Uuid) : Bool := k.ids.contains u

@[simp] theorem mem_insert {k : IdSet} {u v : Uuid} : v ∈ (k.insert u).ids ↔ v = u ∨ v ∈ k.ids :=
  mem_insertId

end IdSet

/-! ## Rows by id -/

/-- Rows that belong to an id. -/
class Row (ρ : Type) where
  key : ρ → Uuid

/-- Rows of which one stands for any id that nothing is known of. -/
class Joinable (ρ : Type) extends Row ρ where
  unknown : Uuid → ρ
  key_unknown : ∀ u, key (unknown u) = u

instance : Row Uuid := ⟨id⟩

instance : Joinable VideoProjection where
  key := VideoProjection.videoId
  unknown := VideoProjection.empty
  key_unknown _ := rfl

instance : Joinable VideoStats where
  key := VideoStats.videoId
  unknown := VideoStats.zero
  key_unknown _ := rfl

/-- The rows of a source by id. -/
abbrev RowsById (ρ : Type) := Table Uuid ρ

namespace RowsById

variable {ρ : Type}

/-- Of several rows of one id the last stays. -/
def ofRows [Row ρ] (rows : List ρ) : RowsById ρ := .ofList (rows.map fun r => (Row.key r, r))

/-- The row of an id, or the one that stands for an id of which nothing is known. -/
def attach [Joinable ρ] (t : RowsById ρ) (u : Uuid) : ρ := (t.get? u).getD (Joinable.unknown u)

theorem ofRows_concat [Row ρ] (rows : List ρ) (r : ρ) :
    ofRows (rows ++ [r]) = (ofRows rows).insert (Row.key r) r := by
  simp [ofRows, Table.ofList_concat]

/-- A row is found under its own key. -/
theorem key_of_get? [Row ρ] {rows : List ρ} {u : Uuid} {r : ρ} (h : (ofRows rows).get? u = some r) :
    Row.key r = u := by
  rw [← List.reverse_reverse rows] at h
  generalize rows.reverse = rs at h
  induction rs with
  | nil => simp [ofRows, Table.ofList] at h
  | cons x xs ih =>
    rw [List.reverse_cons, ofRows_concat, Table.get?_insert] at h
    split at h
    · next hk => cases h; exact hk
    · exact ih h

/-- What is attached to an id has this id as its key. -/
theorem key_attach [Joinable ρ] (rows : List ρ) (u : Uuid) : Row.key ((ofRows rows).attach u) = u := by
  unfold attach
  cases h : (ofRows rows).get? u with
  | none => exact Joinable.key_unknown u
  | some r => exact key_of_get? h

end RowsById
end ProfileGateway
