import Mathlib.Data.List.Induction
import Mathlib.Logic.Relation
import Mathlib.Tactic.Choose
import ProfileGateway.Caller.Headers
import ProfileGateway.Proofs.Text
/-!
# Values of headers

A header has the last value that is given for its name in any letter case (`Headers.get?_ofList`), and there are as many
headers as there are different names (`Headers.exists_distinctNames`). So it is of no account in which order entries under
different names come, or in which case a name is written (`Headers.get?_of_rewritten`).
-/
namespace ProfileGateway.Headers

/-- The last value given for the name, in any case of ASCII letters. -/
def lastValue? (entries : List (String × String)) (name : String) : Option String :=
  (entries.filter fun e => Text.lower e.1 = Text.lower name).getLast?.map Prod.snd

section LastValue

variable (entries : List (String × String)) (e : String × String) (name : String)

/-- The last header is put in last. -/
theorem ofList_concat : ofList (entries ++ [e]) = (ofList entries).insert e.1 e.2 := by
  rw [ofList, List.foldl_append, List.foldl_cons, List.foldl_nil, ofList]

/-- The last header counts if it has the name, and else those before it. -/
theorem lastValue?_concat : lastValue? (entries ++ [e]) name =
    if Text.lower e.1 = Text.lower name then some e.2 else lastValue? entries name := by
  rw [lastValue?, List.filter_append, List.filter_cons, List.filter_nil]
  split
  · next named =>
    rw [if_pos (of_decide_eq_true named), List.getLast?_concat]
    rfl
  · next other => rw [if_neg (mt decide_eq_true other), List.append_nil, lastValue?]

/-- **A header is found** under any spelling of its name, with the value that came last. -/
theorem get?_ofList : (ofList entries).get? name = lastValue? entries name := by
  rw [← List.reverse_reverse entries]
  generalize entries.reverse = rs
  induction rs with
  | nil => rfl
  | cons e rs ih => rw [List.reverse_cons, ofList_concat, get?_insert, ih, lastValue?_concat]

end LastValue

variable {h h' : Headers} {entries entries' : List (String × String)} {name value : String}

/-! ## The last entry under a name -/

/-- The last entry under the name has the value. -/
def LastUnder (entries : List (String × String)) (name value : String) : Prop :=
  ∃ before given after, entries = before ++ (given, value) :: after ∧ Text.SameName given name ∧
    ∀ e ∈ after, ¬Text.SameName e.1 name

/-- The last value is that of a header after which none has the name. -/
theorem lastValue?_eq_some : lastValue? entries name = some value ↔ LastUnder entries name value := by
  unfold lastValue? LastUnder
  simp only [Option.map_eq_some_iff, List.getLast?_filter, List.find?_eq_some_iff_append, Text.lower_eq_lower_iff,
    decide_eq_true_eq, Bool.not_eq_true', decide_eq_false_iff_not]
  constructor
  · rintro ⟨e, ⟨named, later, earlier, reversed, others⟩, rfl⟩
    refine ⟨earlier.reverse, e.1, later.reverse, ?_, named, fun e member => others e (List.mem_reverse.1 member)⟩
    rw [← List.reverse_reverse entries, reversed]
    simp
  · rintro ⟨before, given, after, rfl, named, others⟩
    refine ⟨(given, value), ⟨named, after.reverse, before.reverse, by simp, fun e member => ?_⟩, rfl⟩
    exact others e (List.mem_reverse.1 member)

/-- There is no value exactly if no header has the name. -/
theorem lastValue?_eq_none : lastValue? entries name = none ↔ ∀ e ∈ entries, ¬Text.SameName e.1 name := by
  simp [lastValue?, Text.lower_eq_lower_iff]

/-! ## Trimmed values -/

/-- The header is there, and it is not blank. -/
def Filled (h : Headers) (name : String) : Prop := ∃ value, h.get? name = some value ∧ Text.blank value = false

/-- A trimmed value is that of a header that is not blank. -/
theorem getTrimmed?_eq_some {t : String} :
    h.getTrimmed? name = some t ↔ ∃ value, h.get? name = some value ∧ Text.blank value = false ∧ t = Text.trim value := by
  rw [getTrimmed?, Option.bind_eq_some_iff]
  refine exists_congr fun value => and_congr_right fun _ => ?_
  unfold Text.trimmed?
  cases Text.blank value <;> simp [eq_comm]

/-- There is a trimmed value exactly if the header is filled. -/
theorem isSome_getTrimmed? : (h.getTrimmed? name).isSome ↔ h.Filled name := by
  rw [Option.isSome_iff_exists]
  simp only [getTrimmed?_eq_some, Filled]
  constructor
  · rintro ⟨-, value, found, filled, -⟩
    exact ⟨value, found, filled⟩
  · rintro ⟨value, found, filled⟩
    exact ⟨_, value, found, filled, rfl⟩

theorem getTrimmed?_eq_none : h.getTrimmed? name = none ↔ ¬h.Filled name := by
  rw [← isSome_getTrimmed?, Option.not_isSome_iff_eq_none]

/-- A trimmed value is not empty and has no blanks at its ends. -/
theorem trimmed_of_getTrimmed? {t : String} (found : h.getTrimmed? name = some t) : Text.trim t = t ∧ t ≠ "" := by
  obtain ⟨value, -, filled, rfl⟩ := getTrimmed?_eq_some.1 found
  refine ⟨Text.trim_trim value, fun nothing => ?_⟩
  rw [Text.blank_iff.2 nothing] at filled
  cases filled

/-! ## How many there are -/

/-- Each name of the entries, once and in one of its spellings. -/
structure DistinctNames (entries : List (String × String)) (names : List String) : Prop where
  given : ∀ name ∈ names, ∃ e ∈ entries, e.1 = name
  all : ∀ e ∈ entries, ∃ name ∈ names, Text.SameName e.1 name
  distinct : names.Pairwise fun name name' => ¬Text.SameName name name'

/-- Headers are kept under their names in lower case. -/
theorem mem_keys_ofList {key : String} : key ∈ (ofList entries).table.keys ↔ ∃ e ∈ entries, Text.lower e.1 = key := by
  induction entries using List.reverseRecOn with
  | nil => simp [ofList, empty, Table.empty, Table.keys]
  | append_singleton entries e ih =>
    rw [ofList_concat, insert, Table.mem_keys_insert, ih]
    simp [or_and_right, exists_or, eq_comm, or_comm]

/-- There are as many headers as different names. -/
theorem exists_distinctNames (entries : List (String × String)) :
    ∃ names, DistinctNames entries names ∧ (ofList entries).size = names.length := by
  have each : ∀ key ∈ (ofList entries).table.keys, ∃ name, (∃ e ∈ entries, e.1 = name) ∧ Text.lower name = key := by
    intro key member
    obtain ⟨e, given, lower⟩ := mem_keys_ofList.1 member
    exact ⟨e.1, ⟨e, given, rfl⟩, lower⟩
  choose! spelling given lower using each
  refine ⟨(ofList entries).table.keys.map spelling, ⟨?given, ?all, ?distinct⟩, ?size⟩
  case given => exact List.forall_mem_map.2 given
  case all =>
    intro e member
    have key := mem_keys_ofList.2 ⟨e, member, rfl⟩
    exact ⟨_, List.mem_map_of_mem key, Text.lower_eq_lower_iff.1 (lower _ key).symm⟩
  case distinct =>
    rw [List.pairwise_map]
    refine (ofList entries).table.nodup_keys.imp_of_mem fun key key' different same => different ?_
    rw [← lower _ key, ← lower _ key', Text.lower_eq_lower_iff.2 same]
  case size => rw [List.length_map, Table.length_keys, size]

/-! ## What makes no difference -/

/-- One change of entries that leaves every header as it is. -/
inductive Rewritten : List (String × String) → List (String × String) → Prop
  /-- Neighbours under different names change places. -/
  | swap (before after : List (String × String)) {a b : String × String} (different : ¬Text.SameName a.1 b.1) :
    Rewritten (before ++ a :: b :: after) (before ++ b :: a :: after)
  /-- Letters of a name change their case. -/
  | recase (before after : List (String × String)) {name name' : String} (value : String)
    (same : Text.SameName name name') : Rewritten (before ++ (name, value) :: after) (before ++ (name', value) :: after)

/-- The values under a name stay in their order. -/
theorem Rewritten.lastValue?_eq (rewritten : Rewritten entries entries') (name : String) :
    lastValue? entries' name = lastValue? entries name := by
  unfold lastValue?
  rw [← List.getLast?_map, ← List.getLast?_map]
  congr 1
  cases rewritten with
  | @swap before after a b different =>
    have apart : ¬(Text.lower a.1 = Text.lower name ∧ Text.lower b.1 = Text.lower name) := fun both =>
      different (Text.lower_eq_lower_iff.1 (both.1.trans both.2.symm))
    by_cases first : Text.lower a.1 = Text.lower name <;> by_cases second : Text.lower b.1 = Text.lower name <;>
      simp_all
  | recase before after value same =>
    rw [← Text.lower_eq_lower_iff] at same
    simp only [List.filter_append, List.filter_cons, same]
    split <;> simp

/-- Rewriting the names of headers in another case, or changing the order of different ones, changes no look-up. -/
theorem get?_of_rewritten (run : Relation.ReflTransGen Rewritten entries entries') (name : String) :
    (ofList entries').get? name = (ofList entries).get? name := by
  rw [get?_ofList, get?_ofList]
  induction run with
  | refl => rfl
  | tail _ step ih => rw [step.lastValue?_eq, ih]

end ProfileGateway.Headers
