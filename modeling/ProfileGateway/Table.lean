/-!
# Tables

Finite maps whose keys stay in the order in which they first came. Writing a key that is there replaces its
value, so a table made from a list holds the last value of each key.
-/
namespace ProfileGateway

/-- The entries with `k` set to `v`, in place if `k` is there and at the end otherwise. -/
def setEntry {κ ν : Type} [DecidableEq κ] (k : κ) (v : ν) : List (κ × ν) → List (κ × ν)
  | [] => [(k, v)]
  | e :: es => if e.1 = k then (k, v) :: es else e :: setEntry k v es

/-- The value at `k`. -/
def valueAt? {κ ν : Type} [DecidableEq κ] (k : κ) : List (κ × ν) → Option ν
  | [] => none
  | e :: es => if e.1 = k then some e.2 else valueAt? k es

section Entries

variable {κ ν : Type} [DecidableEq κ] {k k' : κ} {v : ν} {es : List (κ × ν)}

/-- A key that is there keeps its place, and any other comes last. -/
theorem keys_setEntry :
    (setEntry k v es).map Prod.fst = if k ∈ es.map Prod.fst then es.map Prod.fst else es.map Prod.fst ++ [k] := by
  induction es with
  | nil => rfl
  | cons e es ih =>
    by_cases h : e.1 = k
    · simp [setEntry, h]
    · have h' : k ≠ e.1 := fun he => h he.symm
      simp only [setEntry, h, if_false, List.map_cons, ih, List.mem_cons, h', false_or]
      split <;> simp

/-- No key comes twice. -/
theorem nodup_setEntry (h : (es.map Prod.fst).Nodup) : ((setEntry k v es).map Prod.fst).Nodup := by
  rw [keys_setEntry]
  split
  · exact h
  · next hk =>
    rw [List.nodup_append]
    exact ⟨h, by simp, fun a ha b hb => by rw [List.mem_singleton.1 hb]; exact fun he => hk (he ▸ ha)⟩

/-- The key has the new value, and all others keep theirs. -/
theorem valueAt?_setEntry : valueAt? k' (setEntry k v es) = if k = k' then some v else valueAt? k' es := by
  induction es with
  | nil => rfl
  | cons e es ih =>
    by_cases h : e.1 = k
    · subst h
      by_cases hk : e.1 = k' <;> simp [setEntry, valueAt?, hk]
    · by_cases hk : e.1 = k'
      · have hk' : k ≠ k' := fun he => h (hk.trans he.symm)
        simp [setEntry, valueAt?, hk, hk', hk'.symm]
      · simp [setEntry, valueAt?, h, hk, ih]

/-- There is a value exactly at the keys. -/
theorem valueAt?_isSome_iff : (valueAt? k es).isSome ↔ k ∈ es.map Prod.fst := by
  induction es with
  | nil => simp [valueAt?]
  | cons e es ih =>
    by_cases h : e.1 = k
    · simp [valueAt?, h]
    · have h' : k ≠ e.1 := fun he => h he.symm
      simp [valueAt?, h, h', ih]

end Entries

/-- A finite map with its keys in order of first arrival. -/
structure Table (κ ν : Type) where
  entries : List (κ × ν)
  distinct : (entries.map Prod.fst).Nodup

namespace Table

variable {κ ν : Type} [DecidableEq κ]

def empty : Table κ ν := ⟨[], List.nodup_nil⟩

instance : Inhabited (Table κ ν) := ⟨empty⟩

def get? (t : Table κ ν) (k : κ) : Option ν := valueAt? k t.entries

def contains (t : Table κ ν) (k : κ) : Bool := (t.get? k).isSome

def size (t : Table κ ν) : Nat := t.entries.length

def isEmpty (t : Table κ ν) : Bool := t.entries.isEmpty

def insert (t : Table κ ν) (k : κ) (v : ν) : Table κ ν :=
  ⟨setEntry k v t.entries, nodup_setEntry t.distinct⟩

/-- Every entry of the list in turn, so that the last of a key stays. -/
def ofList (es : List (κ × ν)) : Table κ ν := es.foldl (fun t e => t.insert e.1 e.2) empty

/-- The last entry of a list is written last. -/
theorem ofList_concat (es : List (κ × ν)) (e : κ × ν) : ofList (es ++ [e]) = (ofList es).insert e.1 e.2 := by
  simp [ofList]

def keys (t : Table κ ν) : List κ := t.entries.map Prod.fst

def values (t : Table κ ν) : List ν := t.entries.map Prod.snd

@[simp] theorem get?_empty (k : κ) : (empty : Table κ ν).get? k = none := rfl

/-- A key that is written has its value, and all others keep theirs. -/
theorem get?_insert (t : Table κ ν) (k k' : κ) (v : ν) :
    (t.insert k v).get? k' = if k = k' then some v else t.get? k' := valueAt?_setEntry

/-- The keys after writing are those before and the one that was written. -/
theorem mem_keys_insert {t : Table κ ν} {k k' : κ} {v : ν} : k' ∈ (t.insert k v).keys ↔ k' = k ∨ k' ∈ t.keys := by
  rw [keys, insert, keys_setEntry, keys]
  split
  · next there => exact ⟨.inr, fun either => either.elim (fun same => same ▸ there) id⟩
  · rw [List.mem_append, List.mem_singleton, or_comm]

/-- A table contains its keys. -/
theorem contains_iff {t : Table κ ν} {k : κ} : t.contains k ↔ k ∈ t.keys := valueAt?_isSome_iff

omit [DecidableEq κ] in
theorem nodup_keys (t : Table κ ν) : t.keys.Nodup := t.distinct

omit [DecidableEq κ] in
@[simp] theorem length_keys (t : Table κ ν) : t.keys.length = t.size := List.length_map ..

end Table
end ProfileGateway
