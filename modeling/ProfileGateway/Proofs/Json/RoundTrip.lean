import Mathlib.Data.List.Forall2
import Mathlib.Data.List.Nodup
import ProfileGateway.Json.Record
import ProfileGateway.Proofs.Json.Document
import ProfileGateway.Proofs.Json.Integers
import ProfileGateway.Proofs.Uuid
/-!
# Variations of a written value

A written value may come back varied: members in another order, among members that its records do not know, or a
record as the list of its fields. A codec is lawful if it reads every variation of what it writes as the value it
was written from, and the codecs of records are if those of their fields are (`Codec.lawful_record`).
-/
namespace ProfileGateway.Json

/-! ## Variations -/

/-- Members whose names can be read. -/
def named (ms : List (String × Draft)) : List (Option String × Draft) := ms.map fun m => (some m.1, m.2)

/-- The members `given` and others, in any order. The others have none of the names, and values that can be passed
over. -/
def Arranges (names : List String) (given ms : List (String × Draft)) : Prop :=
  ∃ others : List (String × Draft), (∀ m ∈ others, m.1 ∉ names ∧ m.2.Whole) ∧ ms.Perm (given ++ others)

/-- Forms in which a written value may come back. What is written as an object is a record. Those that are values of
JSON again can be had as texts by rendering them (`spells_render`). -/
inductive Varied : Json → Draft → Prop
  | null : Varied .null .null
  | bool {b} : Varied (.bool b) (.bool b)
  | number {l} : Varied (.number l) (.number l)
  | string {s} : Varied (.string s) (.string (some s))
  | array {js ds} (items : List.Forall₂ Varied js ds) : Varied (.array js) (.array ds .closed)
  | positional {members ds} (values : List.Forall₂ Varied (members.map Prod.snd) ds) :
    Varied (.object members) (.array ds .closed)
  | object {members ds ms} (values : List.Forall₂ Varied (members.map Prod.snd) ds)
    (arranged : Arranges (members.map Prod.fst) ((members.map Prod.fst).zip ds) ms) :
    Varied (.object members) (.object (named ms) .closed)

/-- An object that lacks some of the members that `initial` has too, and is varied otherwise. -/
inductive Abridged : Json → Json → Draft → Prop
  | object {initial members given : List (String × Json)} {ds ms} (part : given.Sublist members)
    (left : ∀ m ∈ members, m ∉ given → m ∈ initial) (values : List.Forall₂ Varied (given.map Prod.snd) ds)
    (arranged : Arranges (members.map Prod.fst) ((given.map Prod.fst).zip ds) ms) :
    Abridged (.object initial) (.object members) (.object (named ms) .closed)

/-- Members are drafted under their own names. -/
theorem Draft.ofMembers_eq_named (members : List (String × Json)) :
    Draft.ofMembers members = named (members.map fun m => (m.1, Draft.ofJson m.2)) := by
  induction members with
  | nil => rfl
  | cons m members ih => rw [Draft.ofMembers, ih]; rfl

/-- Names put back to the drafts of their values are the members again. -/
theorem zip_ofItems (members : List (String × Json)) :
    (members.map Prod.fst).zip (Draft.ofItems (members.map Prod.snd)) =
      members.map fun m => (m.1, Draft.ofJson m.2) := by
  induction members with
  | nil => rfl
  | cons m members ih => rw [List.map_cons, List.map_cons, Draft.ofItems, List.zip_cons_cons, ih, List.map_cons]

mutual

/-- What is written is a variation of itself. -/
theorem Varied.refl : (j : Json) → Varied j (.ofJson j)
  | .null => .null
  | .bool _ => .bool
  | .number _ => .number
  | .string _ => .string
  | .array js => .array (Varied.refl_items js)
  | .object members => by
    rw [Draft.ofJson, Draft.ofMembers_eq_named]
    refine .object (Varied.refl_members members) ⟨[], List.forall_mem_nil _, ?_⟩
    rw [zip_ofItems, List.append_nil]

/-- Values are spelled by their own drafts. -/
theorem Varied.refl_items : (js : List Json) → List.Forall₂ Varied js (Draft.ofItems js)
  | [] => .nil
  | j :: js => .cons (Varied.refl j) (Varied.refl_items js)

theorem Varied.refl_members : (members : List (String × Json)) →
    List.Forall₂ Varied (members.map Prod.snd) (Draft.ofItems (members.map Prod.snd))
  | [] => .nil
  | (_, j) :: members => .cons (Varied.refl j) (Varied.refl_members members)

end

/-- Members of JSON in any order, some left out and others among them. -/
theorem Abridged.ofJson {initial members given others ms : List (String × Json)} (part : given.Sublist members)
    (left : ∀ m ∈ members, m ∉ given → m ∈ initial) (foreign : ∀ m ∈ others, m.1 ∉ members.map Prod.fst)
    (order : ms.Perm (given ++ others)) : Abridged (.object initial) (.object members) (.ofJson (.object ms)) := by
  rw [Draft.ofJson, Draft.ofMembers_eq_named]
  refine .object part left (Varied.refl_members given) ⟨others.map fun m => (m.1, .ofJson m.2), ?_, ?_⟩
  · exact List.forall_mem_map.2 fun m other => ⟨foreign m other, Draft.whole_ofJson m.2⟩
  · rw [zip_ofItems, ← List.map_append]
    exact order.map _

/-- A text is not varied: its draft is the text itself. -/
theorem Varied.eq_string {s : String} {d : Draft} (varied : Varied (.string s) d) : d = .string (some s) := by
  cases varied
  rfl

/-- Nothing but null is drafted as null. -/
theorem Varied.null_iff {j : Json} {d : Draft} (varied : Varied j d) : j = .null ↔ d = .null := by
  cases varied <;> simp

/-- An integer of 64 bits, signed or not, is read as itself. -/
theorem Literal.number?_ofInt {n : Int} (low : -0x8000000000000000 ≤ n) (high : n ≤ 0xffffffffffffffff) :
    (Literal.ofInt n).number? = some (.int n) := by
  have value := value_ofInt n
  have fits : (Literal.ofInt n).Fits := by
    refine ⟨by omega, by omega, fun negative => ?_⟩
    have below : n < 0 := of_decide_eq_true negative
    show 0 < n.natAbs
    omega
  rw [number?_of_fits rfl fits, value]

namespace Codec

variable {α : Type}

/-- Every variation of what is written from a value is read as the value. -/
def Lawful (c : Codec α) : Prop := ∀ a d, Varied (c.write a) d → c.read d = .ok a

/-- No value is written as a null. -/
def Present (c : Codec α) : Prop := ∀ a, c.write a ≠ .null

/-- What can be read back tells apart what is written. -/
theorem Lawful.write_injective {c : Codec α} (lawful : c.Lawful) {a b : α} (same : c.write a = c.write b) :
    a = b := by
  have read := lawful a _ (Varied.refl (c.write a))
  rw [lawful b _ (same ▸ Varied.refl (c.write a))] at read
  exact (Except.ok.inj read).symm

/-! ## Scalars -/

/-- Texts are read back. -/
@[simp] theorem lawful_string : string.Lawful := by
  rintro s d ⟨⟩
  rfl

@[simp] theorem lawful_bool : bool.Lawful := by
  rintro b d ⟨⟩
  rfl

/-- Integers are read back, whatever type they are of, if all of them fit the range that is asked for and 64 bits. -/
theorem lawful_integer {want : String} {low high : Int} {toInt : α → Int} {ofInt : Int → α}
    (wide : -0x8000000000000000 ≤ low ∧ high ≤ 0xffffffffffffffff)
    (range : ∀ a, low ≤ toInt a ∧ toInt a ≤ high) (inverse : ∀ a, ofInt (toInt a) = a) :
    (integer want low high toInt ofInt).Lawful := by
  rintro a d ⟨⟩
  have number := Literal.number?_ofInt (Int.le_trans wide.1 (range a).1) (Int.le_trans (range a).2 wide.2)
  simp only [integer, number, range a, and_self, if_true, inverse]

@[simp] theorem lawful_int32 : int32.Lawful :=
  lawful_integer (by decide) (fun n => ⟨n.le_toInt, Int.le_of_lt_add_one n.toInt_lt⟩) Int32.ofInt_toInt

@[simp] theorem lawful_int64 : int64.Lawful :=
  lawful_integer (by decide) (fun n => ⟨n.le_toInt, Int.le_of_lt_add_one n.toInt_lt⟩) Int64.ofInt_toInt

@[simp] theorem lawful_uint32 : uint32.Lawful :=
  lawful_integer (by decide) (fun n => ⟨by omega, by have := n.toNat_lt; omega⟩) fun n => by simp

@[simp] theorem lawful_uint64 : uint64.Lawful :=
  lawful_integer (by decide) (fun n => ⟨by omega, by have := n.toNat_lt; omega⟩) fun n => by simp

/-- Ids are read back, in the spelling in which they are written. -/
@[simp] theorem lawful_uuid : uuid.Lawful := by
  intro u d varied
  obtain rfl : d = .string (some u.print) := varied.eq_string
  simp only [uuid, Uuid.parse?_print]

/-! ## Options, lists and choices -/

@[simp] theorem present_string : string.Present := fun _ => nofun

@[simp] theorem present_int64 : int64.Present := fun _ => nofun

@[simp] theorem present_uint64 : uint64.Present := fun _ => nofun

/-- What is not null is read as the value that may be missing. -/
theorem read_option {c : Codec α} {d : Draft} (given : d ≠ .null) : c.option.read d = (c.read d).map some := by
  cases d with
  | null => exact absurd rfl given
  | _ => rfl

/-- A value that may be missing is read back, unless null could also be the value. -/
@[simp] theorem Lawful.option {c : Codec α} (lawful : c.Lawful) (present : c.Present) : c.option.Lawful := by
  intro value d varied
  cases value with
  | none =>
    obtain rfl : d = .null := varied.null_iff.1 rfl
    rfl
  | some a =>
    have given : d ≠ .null := fun null => present a (varied.null_iff.2 null)
    rw [read_option given, lawful a d varied]
    rfl

/-- Items are read back one after the other. -/
theorem Lawful.readItems {c : Codec α} (lawful : c.Lawful) {as : List α} {ds : List Draft}
    (items : List.Forall₂ Varied (as.map c.write) ds) : readItems c .closed ds = .ok as := by
  induction as generalizing ds with
  | nil =>
    cases items
    rfl
  | cons a as ih =>
    cases items with
    | cons first items =>
      rw [Codec.readItems, lawful a _ first, ih items]
      rfl

/-- Lists are read back, as their items are. -/
@[simp] theorem Lawful.list {c : Codec α} (lawful : c.Lawful) : c.list.Lawful := by
  rintro as d varied
  cases varied with
  | array items => exact lawful.readItems items

/-- One of several names is read back if no two of them are the same. -/
theorem lawful_choice {all : List α} {name : α → String} (complete : ∀ a, a ∈ all)
    (injective : Function.Injective name) : (choice all name).Lawful := by
  intro a d varied
  obtain rfl : d = .string (some (name a)) := varied.eq_string
  obtain ⟨b, found⟩ := Option.isSome_iff_exists.1 (List.find?_isSome.2 ⟨a, complete a, decide_eq_true rfl⟩ :
    (all.find? fun b => name b = name a).isSome)
  obtain rfl : b = a := injective (by simpa using List.find?_some found)
  simp only [choice, found]

end Codec

/-! ## Records -/

namespace Fields

variable {τ : Type}

/-- The codecs of the fields are lawful, and no two fields have one name. -/
def Lawful : {τ : Type} → Fields τ → Prop
  | _, .done => True
  | _, .field name codec _ rest => codec.Lawful ∧ name ∉ rest.names ∧ rest.Lawful

/-- The members that may be left out, each with the value that stands for it. -/
def defaults : {τ : Type} → Fields τ → List (String × Json)
  | _, .done => []
  | _, .field name codec absent rest => (absent.toList.map fun a => (name, codec.write a)) ++ rest.defaults

/-- A record is written under the names of its fields, in their order. -/
theorem names_write : {τ : Type} → (fs : Fields τ) → (v : τ) → (fs.write v).map Prod.fst = fs.names
  | _, .done, _ => rfl
  | _, .field name _ _ rest, v => congrArg (name :: ·) (rest.names_write v.2)

/-- What is written stands under the name of a field. -/
theorem mem_names {fs : Fields τ} {v : τ} {m : String × Json} (member : m ∈ fs.write v) : m.1 ∈ fs.names := by
  rw [← fs.names_write v]
  exact List.mem_map_of_mem member

/-- What is left out stands for a field, too. -/
theorem mem_names_of_default : {τ : Type} → {fs : Fields τ} → {m : String × Json} → m ∈ fs.defaults →
    m.1 ∈ fs.names
  | _, .field name codec absent rest, m, member => by
    obtain own | other := List.mem_append.1 member
    · obtain ⟨a, -, rfl⟩ := List.mem_map.1 own
      exact List.mem_cons_self
    · exact List.mem_cons_of_mem name (mem_names_of_default other)

/-- No two fields of a record have one name. -/
theorem Lawful.nodup_names {fs : Fields τ} (lawful : fs.Lawful) : fs.names.Nodup := by
  induction fs with
  | done => exact List.nodup_nil
  | field _ _ _ _ ih =>
    obtain ⟨-, other, lawful⟩ := lawful
    exact List.nodup_cons.2 ⟨other, ih lawful⟩

section Kinds

variable {α β : Type} {name : String} {codec : Codec α} {default : α} {rest : Fields β}

@[simp] theorem names_done : names .done = [] := rfl

@[simp] theorem names_required : (required name codec rest).names = name :: rest.names := rfl

@[simp] theorem names_optional : (optional name codec rest).names = name :: rest.names := rfl

@[simp] theorem names_defaulting : (defaulting name codec default rest).names = name :: rest.names := rfl

@[simp] theorem lawful_done : Lawful .done := trivial

@[simp] theorem lawful_required :
    (required name codec rest).Lawful ↔ codec.Lawful ∧ name ∉ rest.names ∧ rest.Lawful := Iff.rfl

@[simp] theorem lawful_optional :
    (optional name codec rest).Lawful ↔ codec.option.Lawful ∧ name ∉ rest.names ∧ rest.Lawful := Iff.rfl

@[simp] theorem lawful_defaulting :
    (defaulting name codec default rest).Lawful ↔ codec.Lawful ∧ name ∉ rest.names ∧ rest.Lawful := Iff.rfl

end Kinds

/-! ### From a list -/

/-- A record is read back from the list of its values, in the order of its fields. -/
theorem Lawful.ofItems {fs : Fields τ} (lawful : fs.Lawful) (rules : RecordRules) (total count : Nat) (v : τ)
    {ds : List Draft} (values : List.Forall₂ Varied ((fs.write v).map Prod.snd) ds) :
    fs.ofItems rules total .closed count ds = .ok v := by
  induction fs generalizing count ds with
  | done =>
    cases values
    rfl
  | field _ _ _ _ ih =>
    obtain ⟨own, -, lawful⟩ := lawful
    cases values with
    | cons first values =>
      rw [Fields.ofItems, own v.1 _ first, ih lawful (count + 1) v.2 values]
      rfl

/-! ### From an object -/

/-- The members hold the value: those under names of fields are variations of what the fields are written as,
fields without a member have defaults, and other members can be passed over. -/
structure Presents (fs : Fields τ) (v : τ) (ms : List (String × Draft)) : Prop where
  known : ∀ m ∈ ms, m.1 ∈ fs.names → ∃ j, (m.1, j) ∈ fs.write v ∧ Varied j m.2
  unknown : ∀ m ∈ ms, m.1 ∉ fs.names → m.2.Whole
  once : ((ms.map Prod.fst).filter (· ∈ fs.names)).Nodup
  present : ∀ m ∈ fs.write v, m.1 ∈ ms.map Prod.fst ∨ m ∈ fs.defaults

/-- There is no problem with what was written for a field. -/
theorem Lawful.problem?_eq_none {fs : Fields τ} (lawful : fs.Lawful) {v : τ} {k : String} {j : Json} {d : Draft}
    (member : (k, j) ∈ fs.write v) (varied : Varied j d) : fs.problem? k d = none := by
  induction fs with
  | done => cases member
  | field name _ _ _ ih =>
    obtain ⟨own, other, lawful⟩ := lawful
    obtain here | there := List.mem_cons.1 member
    · cases here
      rw [problem?, if_pos rfl, own v.1 d varied]
    · have different : k ≠ name := fun same => other (same ▸ mem_names there)
      rw [problem?, if_neg different]
      exact ih lawful there

/-- Members pass the check if each field is given once and fits, and what is not a field may be there and is whole. -/
theorem checkMembers_eq_ok {rules : RecordRules} {fs : Fields τ} {ms : List (String × Draft)} {seen : List String}
    (inexact : ∀ m ∈ ms, m.1 ∉ fs.names → rules.exact = false)
    (known : ∀ m ∈ ms, m.1 ∈ fs.names → fs.problem? m.1 m.2 = none)
    (unknown : ∀ m ∈ ms, m.1 ∉ fs.names → m.2.Whole) (once : ((ms.map Prod.fst).filter (· ∈ fs.names)).Nodup)
    (fresh : ∀ m ∈ ms, m.1 ∈ fs.names → m.1 ∉ seen) : fs.checkMembers rules seen (named ms) = .ok () := by
  induction ms generalizing seen with
  | nil => rfl
  | cons m ms ih =>
    obtain ⟨passed, inexact⟩ := List.forall_mem_cons.1 inexact
    obtain ⟨problem, known⟩ := List.forall_mem_cons.1 known
    obtain ⟨whole, unknown⟩ := List.forall_mem_cons.1 unknown
    obtain ⟨new, fresh⟩ := List.forall_mem_cons.1 fresh
    rw [named, List.map_cons, checkMembers]
    rw [List.map_cons, List.filter_cons] at once
    by_cases field : m.1 ∈ fs.names
    · rw [if_pos (decide_eq_true field), List.nodup_cons] at once
      rw [if_pos field, if_neg (new field), problem field]
      refine ih inexact known unknown once.2 fun n member field' seen => ?_
      obtain same | earlier := List.mem_cons.1 seen
      · exact once.1 (List.mem_filter.2 ⟨same ▸ List.mem_map_of_mem member, decide_eq_true field⟩)
      · exact fresh n member field' earlier
    · rw [if_neg (by simpa using field)] at once
      simp only [field, passed field, if_false, Bool.false_eq_true]
      rw [show m.2.skipping? = none from whole field]
      exact ih inexact known unknown once fresh

/-- If members of unknown names are refused, all members that pass are under names of fields. -/
theorem mem_names_of_checkMembers {rules : RecordRules} (exact : rules.exact = true) {fs : Fields τ}
    {ms : List (Option String × Draft)} {seen : List String} (checked : fs.checkMembers rules seen ms = .ok ()) :
    ∀ m ∈ ms, ∃ name ∈ fs.names, m.1 = some name := by
  induction ms generalizing seen with
  | nil => exact List.forall_mem_nil _
  | cons m ms ih =>
    obtain ⟨_ | name, d⟩ := m
    · cases checked
    · by_cases field : name ∈ fs.names
      · simp only [checkMembers, field, if_true] at checked
        split at checked
        · cases checked
        · split at checked
          · cases checked
          · exact List.forall_mem_cons.2 ⟨⟨name, field, rfl⟩, ih checked⟩
      · simp only [checkMembers, field, exact, if_false, if_true] at checked
        cases checked

/-- What is found under a name is a member of that name; if nothing is found there is none. -/
theorem draftOf?_named (name : String) (ms : List (String × Draft)) :
    (∃ d, (name, d) ∈ ms ∧ draftOf? name (named ms) = some d) ∨
      (name ∉ ms.map Prod.fst ∧ draftOf? name (named ms) = none) := by
  induction ms with
  | nil => exact .inr ⟨List.not_mem_nil, rfl⟩
  | cons m ms ih =>
    rw [named, List.map_cons, draftOf?]
    by_cases same : m.1 = name
    · subst same
      exact .inl ⟨m.2, List.mem_cons_self, if_pos rfl⟩
    · rw [if_neg (by simpa using same)]
      obtain ⟨d, member, found⟩ | ⟨absent, none⟩ := ih
      · exact .inl ⟨d, List.mem_cons_of_mem m member, found⟩
      · refine .inr ⟨?_, none⟩
        rintro (_ | ⟨_, member⟩)
        · exact same rfl
        · exact absent member

/-- Each field is read from its member, or has a default where its member is left out. -/
theorem Lawful.ofMembers {fs : Fields τ} (lawful : fs.Lawful) {v : τ} {ms : List (String × Draft)}
    (given : ∀ k j, (k, j) ∈ fs.write v → (∃ d, draftOf? k (named ms) = some d ∧ Varied j d) ∨
      (draftOf? k (named ms) = none ∧ (k, j) ∈ fs.defaults)) : fs.ofMembers (named ms) = .ok v := by
  induction fs with
  | done => rfl
  | field name codec _ rest ih =>
    obtain ⟨own, other, lawful⟩ := lawful
    have rests : rest.ofMembers (named ms) = .ok v.2 := by
      refine ih lawful fun k j member => ?_
      refine (given k j (List.mem_cons_of_mem _ member)).imp_right fun ⟨missing, default⟩ => ⟨missing, ?_⟩
      -- The default of this field is none of a later one, whose name is another.
      obtain here | there := List.mem_append.1 default
      · obtain ⟨a, -, same⟩ := List.mem_map.1 here
        cases same
        exact absurd (mem_names member) other
      · exact there
    obtain ⟨d, found, varied⟩ | ⟨missing, default⟩ := given name (codec.write v.1) List.mem_cons_self
    · simp only [Fields.ofMembers, found, own v.1 d varied, rests]
      rfl
    · obtain here | there := List.mem_append.1 default
      · obtain ⟨a, stands, same⟩ := List.mem_map.1 here
        obtain rfl : a = v.1 := own.write_injective (Prod.mk.inj same).2
        rw [Option.mem_toList] at stands
        simp only [Fields.ofMembers, missing, stands, rests]
        rfl
      · exact absurd (mem_names_of_default there) other

/-- An object that presents a record is read as that record. -/
theorem Presents.read {fs : Fields τ} (lawful : fs.Lawful) {rules : RecordRules} {v : τ} {ms : List (String × Draft)}
    (inexact : ∀ m ∈ ms, m.1 ∉ fs.names → rules.exact = false) (presents : fs.Presents v ms) :
    fs.read rules (.object (named ms) .closed) = .ok v := by
  have checked : fs.checkMembers rules [] (named ms) = .ok () := by
    refine checkMembers_eq_ok inexact (fun m member field => ?_) presents.unknown presents.once
      fun m _ _ => List.not_mem_nil
    obtain ⟨j, written, varied⟩ := presents.known m member field
    exact lawful.problem?_eq_none written varied
  have members : fs.ofMembers (named ms) = .ok v := by
    refine lawful.ofMembers fun k j written => ?_
    obtain ⟨d, member, found⟩ | ⟨absent, missing⟩ := draftOf?_named k ms
    · obtain ⟨i, written', varied⟩ := presents.known (k, d) member (mem_names written)
      have nodup : ((fs.write v).map Prod.fst).Nodup := by
        rw [names_write]
        exact lawful.nodup_names
      cases List.inj_on_of_nodup_map nodup written written' rfl
      exact .inl ⟨d, found, varied⟩
    · exact .inr ⟨missing, (presents.present (k, j) written).resolve_left absent⟩
  rw [Fields.read, checked]
  exact members

/-- Each draft belongs to the value that stands at its place. -/
theorem exists_of_mem_zip {given : List (String × Json)} {ds : List Draft} {m : String × Draft}
    (values : List.Forall₂ Varied (given.map Prod.snd) ds) (member : m ∈ (given.map Prod.fst).zip ds) :
    ∃ j, (m.1, j) ∈ given ∧ Varied j m.2 := by
  induction given generalizing ds with
  | nil => cases member
  | cons g given ih =>
    cases values with
    | cons first values =>
      obtain rfl | member := List.mem_cons.1 member
      · exact ⟨g.2, List.mem_cons_self, first⟩
      · obtain ⟨j, written, varied⟩ := ih values member
        exact ⟨j, List.mem_cons_of_mem g written, varied⟩

/-- Any arrangement of what is written, with other members between it and defaults left out, presents the record. -/
theorem Lawful.presents {fs : Fields τ} (lawful : fs.Lawful) {v : τ} {given : List (String × Json)}
    {ds : List Draft} {ms : List (String × Draft)} (part : given.Sublist (fs.write v))
    (left : ∀ m ∈ fs.write v, m ∉ given → m ∈ fs.defaults) (values : List.Forall₂ Varied (given.map Prod.snd) ds)
    (arranged : Arranges fs.names ((given.map Prod.fst).zip ds) ms) : fs.Presents v ms := by
  obtain ⟨others, foreign, perm⟩ := arranged
  have names : ((given.map Prod.fst).zip ds).map Prod.fst = given.map Prod.fst := by
    have length := values.length_eq
    rw [List.length_map] at length
    exact List.map_fst_zip (by rw [List.length_map, length])
  have own : given.map Prod.fst |>.Sublist fs.names := by
    rw [← fs.names_write v]
    exact part.map Prod.fst
  have names' : (ms.map Prod.fst).Perm (given.map Prod.fst ++ others.map Prod.fst) := by
    rw [← names, ← List.map_append]
    exact perm.map Prod.fst
  have cases (m) (member : m ∈ ms) : m ∈ (given.map Prod.fst).zip ds ∨ m ∈ others :=
    List.mem_append.1 (perm.subset member)
  constructor
  case known =>
    intro m member field
    obtain here | there := cases m member
    · obtain ⟨j, written, varied⟩ := exists_of_mem_zip values here
      exact ⟨j, part.subset written, varied⟩
    · exact absurd field (foreign m there).1
  case unknown =>
    intro m member field
    obtain here | there := cases m member
    · obtain ⟨j, written, -⟩ := exists_of_mem_zip values here
      exact absurd (mem_names (part.subset written)) field
    · exact (foreign m there).2
  case once =>
    have outside : (others.map Prod.fst).filter (· ∈ fs.names) = [] := by
      simpa using fun k d other => (foreign (k, d) other).1
    rw [(names'.filter _).nodup_iff, List.filter_append, outside, List.append_nil]
    exact (own.nodup lawful.nodup_names).filter _
  case present =>
    intro m written
    by_cases kept : m ∈ given
    · exact .inl (names'.symm.subset (List.mem_append_left _ (List.mem_map_of_mem kept)))
    · exact .inr (left m written kept)

end Fields

namespace Codec

variable {α τ : Type} {rules : RecordRules} {fs : Fields τ} {make : τ → α} {parts : α → τ}

/-- The codec reads every value from an object that lacks some of the members that `initial` shares with it. -/
def Omits (c : Codec α) (initial : α) : Prop :=
  ∀ a d, Abridged (c.write initial) (c.write a) d → c.read d = .ok a

/-- A record is never written as null. -/
@[simp] theorem present_record : (record rules fs make parts).Present := fun _ => nofun

/-- Records are read back, however their members are arranged. -/
theorem lawful_record (lawful : fs.Lawful) (inexact : rules.exact = false) (inverse : ∀ a, make (parts a) = a) :
    (record rules fs make parts).Lawful := by
  intro a d varied
  have varied : Varied (.object (fs.write (parts a))) d := varied
  have read : fs.read rules d = .ok (parts a) := by
    cases varied with
    | positional values => exact lawful.ofItems rules fs.names.length 0 (parts a) values
    | object values arranged =>
      rw [fs.names_write] at arranged
      refine (lawful.presents (List.Sublist.refl _) (fun m written left => absurd written left) values ?_).read
        lawful fun _ _ _ => inexact
      rwa [fs.names_write]
  simp only [record, read]
  exact congrArg Except.ok (inverse a)

/-- Members that say no more than the defaults may be left out of a record. -/
theorem omits_record (lawful : fs.Lawful) (inexact : rules.exact = false) (inverse : ∀ a, make (parts a) = a)
    {initial : α} (defaults : fs.write (parts initial) = fs.defaults) : (record rules fs make parts).Omits initial := by
  intro a d abridged
  have abridged : Abridged (.object (fs.write (parts initial))) (.object (fs.write (parts a))) d := abridged
  have read : fs.read rules d = .ok (parts a) := by
    cases abridged with
    | object part left values arranged =>
      rw [fs.names_write] at arranged
      rw [defaults] at left
      exact (lawful.presents part left values arranged).read lawful fun _ _ _ => inexact
  simp only [record, read]
  exact congrArg Except.ok (inverse a)

/-- Members that hold a value are read as it. -/
theorem read_of_presents (lawful : fs.Lawful) (inverse : ∀ a, make (parts a) = a) {a : α} {ms : List (String × Draft)}
    (inexact : ∀ m ∈ ms, m.1 ∉ fs.names → rules.exact = false) (presents : fs.Presents (parts a) ms) :
    (record rules fs make parts).read (.object (named ms) .closed) = .ok a := by
  simp only [record, presents.read lawful inexact]
  exact congrArg Except.ok (inverse a)

/-- If members of unknown names are refused, so is an object with one. -/
theorem read_of_foreign (exact : rules.exact = true) {ms : List (Option String × Draft)} {ending : Ending}
    {m : Option String × Draft} (member : m ∈ ms) (foreign : ∀ name ∈ fs.names, m.1 ≠ some name) :
    ∃ e, (record rules fs make parts).read (.object ms ending) = .error e := by
  cases checked : fs.checkMembers rules [] ms with
  | ok =>
    obtain ⟨name, field, same⟩ := Fields.mem_names_of_checkMembers exact checked m member
    exact absurd same (foreign name field)
  | error e =>
    refine ⟨e, ?_⟩
    simp only [record, Fields.read, checked]
    rfl

/-! ## Texts -/

/-- A text is refused if its value is. -/
theorem ofText_of_refused {c : Codec α} {d : Draft} {s : String} (spells : Spells d s)
    (refused : ∃ e, c.read d = .error e) : ∃ e, c.ofText s = .error e := by
  obtain ⟨e, refused⟩ := refused
  rw [ofText, spells.document]
  simp only [refused]
  cases e <;> exact ⟨_, rfl⟩

/-- A text is read as the draft that it spells. -/
theorem ofText_of_spells {c : Codec α} {d : Draft} {s : String} {a : α} (spells : Spells d s)
    (read : c.read d = .ok a) : c.ofText s = .ok a := by
  simp only [ofText, spells.document, read, Bool.false_eq_true, if_false]

end Codec

end ProfileGateway.Json
