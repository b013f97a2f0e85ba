import ProfileGateway.Proofs.Decimal
import ProfileGateway.Proofs.Text
import ProfileGateway.Write.Precondition
/-!
# Forms of tags

A tag names a version by digits that stand alone, in quotes, or in quotes behind the mark of a weak tag. Reading drops
the mark and the quotes independently of each other, and so it also accepts the mark in front of digits without quotes.
But for these it reads the three forms and nothing else (`Etag.tag_forms`).
-/
namespace ProfileGateway.Etag

/-- The forms of a tag with these digits. -/
inductive Form (ds : List Char) : List Char → Prop
  | bare : Form ds ds
  | strong : Form ds ('"' :: (ds ++ ['"']))
  | weak : Form ds ('W' :: '/' :: '"' :: (ds ++ ['"']))

/-- The digits of a version. -/
structure DigitsOf (v : Int64) (ds : List Char) : Prop where
  digits : Decimal.isDigits ds = true
  inRange : Decimal.value ds ≤ 9223372036854775807
  value : v.toInt = Decimal.value ds

/-- The tag names the version in one of the three forms. -/
def Names (v : Int64) (tag : List Char) : Prop := ∃ ds, DigitsOf v ds ∧ Form ds tag

/-- The tag is marked as weak, and its digits are not in quotes. -/
def NamesUnquoted (v : Int64) (tag : List Char) : Prop := ∃ ds, DigitsOf v ds ∧ tag = 'W' :: '/' :: ds

/-! ## What is left of a tag -/

section Dropping

variable {ds tag : List Char}

theorem dropWeak_marked (cs : List Char) : dropWeak ('W' :: '/' :: cs) = cs := rfl

theorem dropWeak_of_head (other : tag.head? ≠ some 'W') : dropWeak tag = tag := by
  refine if_neg fun marked => other ?_
  have first := congrArg List.head? marked
  rwa [List.head?_take, if_neg (by decide)] at first

theorem dropQuotes_quoted (cs : List Char) : dropQuotes ('"' :: (cs ++ ['"'])) = cs := by
  have ends : 2 ≤ ('"' :: (cs ++ ['"'])).length ∧ ('"' :: (cs ++ ['"'])).head? = some '"' ∧
      ('"' :: (cs ++ ['"'])).getLast? = some '"' :=
    ⟨by simp, rfl, by rw [← List.cons_append, List.getLast?_concat]⟩
  rw [dropQuotes, if_pos ends, List.drop_one, List.tail_cons, List.dropLast_concat]

theorem dropQuotes_of_head (other : tag.head? ≠ some '"') : dropQuotes tag = tag :=
  if_neg fun ends => other ends.2.1

/-- Quotes are dropped in pairs or not at all. -/
theorem dropQuotes_cases (cs : List Char) : dropQuotes cs = cs ∨ cs = '"' :: (dropQuotes cs ++ ['"']) := by
  unfold dropQuotes
  split
  · next ends => exact .inr (Text.between_of_ends ends.1 ends.2.1 ends.2.2)
  · exact .inl rfl

/-- A weak mark is dropped where it stands and nowhere else. -/
theorem dropWeak_cases (cs : List Char) : dropWeak cs = cs ∨ cs = 'W' :: '/' :: dropWeak cs := by
  unfold dropWeak
  split
  · next marked =>
    have whole := List.take_append_drop 2 cs
    rw [marked] at whole
    exact .inr whole.symm
  · exact .inl rfl

/-- The digits are left over from the three forms, and from one that is not among them. -/
theorem dropped_iff (digits : Decimal.isDigits ds = true) :
    dropQuotes (dropWeak tag) = ds ↔ Form ds tag ∨ tag = 'W' :: '/' :: ds := by
  have unquoted := dropQuotes_of_head (Decimal.head?_ne digits (by decide))
  constructor
  · rintro rfl
    rcases dropWeak_cases tag with unmarked | marked
    · rw [unmarked]
      rcases dropQuotes_cases tag with bare | quoted
      · rw [bare]
        exact .inl .bare
      · left
        have form : Form (dropQuotes tag) _ := .strong
        rwa [← quoted] at form
    · rcases dropQuotes_cases (dropWeak tag) with bare | quoted
      · right
        rwa [bare]
      · left
        have form : Form (dropQuotes (dropWeak tag)) _ := .weak
        rwa [← quoted, ← marked] at form
  · rintro (form | rfl)
    · cases form with
      | bare => rw [dropWeak_of_head (Decimal.head?_ne digits (by decide)), unquoted]
      | strong => rw [dropWeak_of_head (by simp), dropQuotes_quoted]
      | weak => rw [dropWeak_marked, dropQuotes_quoted]
    · rw [dropWeak_marked, unquoted]

end Dropping

/-! ## What is read -/

/-- A tag without the blanks around it. -/
def chars (raw : String) : List Char := Text.trimChars raw.toList

section Reading

variable {raw : String} {v : Int64} {ds tag : List Char}

/-- The digits of a version are decimal digits whose value fits. -/
theorem digitsOf_iff : DigitsOf v ds ↔
    (Decimal.isDigits ds = true ∧ Decimal.value ds < 0x8000000000000000) ∧ Int64.ofNat (Decimal.value ds) = v := by
  constructor
  · rintro ⟨digits, inRange, value⟩
    have small : Decimal.value ds < 0x8000000000000000 := by omega
    refine ⟨⟨digits, small⟩, Int64.toInt_inj.1 ?_⟩
    rw [Int64.toInt_ofNat_of_lt small, value]
  · rintro ⟨⟨digits, small⟩, rfl⟩
    exact ⟨digits, by omega, Int64.toInt_ofNat_of_lt small⟩

/-- Only the star asks for any version. -/
theorem parse_eq_none : parse raw = .ok none ↔ chars raw = ['*'] := by
  unfold parse chars
  dsimp only
  split
  · next star => exact iff_of_true rfl star
  · next other => split <;> simp [other]

/-- The digits that are left over name the version. -/
theorem parse_eq_some :
    parse raw = .ok (some v) ↔ DigitsOf v (dropQuotes (dropWeak (chars raw))) := by
  unfold parse chars
  dsimp only
  split
  · next star =>
    rw [star]
    refine iff_of_false (by simp) fun named => ?_
    exact absurd named.digits (by decide)
  · rw [digitsOf_iff]
    split
    · next digits => simp [digits]
    · next other => simp [other]

/-- A tag that is refused is quoted in the refusal as it stands after trimming. -/
theorem malformed_of_parse {r : Refusal} (refused : parse raw = .error r) :
    r = .malformedIfMatch (String.ofList (chars raw)) := by
  unfold parse at refused
  dsimp only at refused
  split at refused
  · cases refused
  · split at refused
    · cases refused
    · cases refused
      rfl

/-- The reader accepts the documented forms and, beyond these, the weak mark without quotes. -/
theorem digitsOf_dropped_iff : DigitsOf v (dropQuotes (dropWeak tag)) ↔ Names v tag ∨ NamesUnquoted v tag := by
  constructor
  · intro named
    rcases (dropped_iff named.digits).1 rfl with form | unquoted
    · exact .inl ⟨_, named, form⟩
    · exact .inr ⟨_, named, unquoted⟩
  · rintro (⟨ds, named, form⟩ | ⟨ds, named, unquoted⟩)
    · rwa [(dropped_iff named.digits).2 (.inl form)]
    · rwa [(dropped_iff named.digits).2 (.inr unquoted)]

/-- The form without quotes is none of the three. -/
theorem not_names_of_unquoted {v' : Int64} (unquoted : NamesUnquoted v tag) : ¬Names v' tag := by
  obtain ⟨ds, named, rfl⟩ := unquoted
  rintro ⟨ds', named', form⟩
  cases form with
  | bare => exact Decimal.head?_ne named'.digits (by decide : Char.isDigit 'W' = false) rfl
  | weak => exact Decimal.head?_ne named.digits (by decide : Char.isDigit '"' = false) rfl

end Reading

/-- The answer to a tag that reads the three forms and `*`, and takes nothing else for a tag. -/
structure ReadsForms (tag : List Char) (answer : Except Refusal (Option Int64)) : Prop where
  star : answer = .ok none ↔ tag = ['*']
  version : ∀ v, answer = .ok (some v) ↔ Names v tag
  otherwise : tag ≠ ['*'] → (∀ v, ¬Names v tag) → ∃ r, answer = .error r ∧ r.status.code = .invalidArgument

/-- **Tags are read** by their forms, unless a mark stands in front of digits without quotes: such a tag is of none of
the forms and names a version all the same. -/
theorem tag_forms (raw : String) :
    (ReadsForms (chars raw) (parse raw) ↔ ∀ v, ¬NamesUnquoted v (chars raw)) ∧
      (∀ v, parse raw = .ok (some v) ↔ Names v (chars raw) ∨ NamesUnquoted v (chars raw)) ∧
      (∀ v v', NamesUnquoted v (chars raw) → ¬Names v' (chars raw)) ∧
      (parse raw = .ok none ↔ chars raw = ['*']) ∧
      ∀ r, parse raw = .error r → r = .malformedIfMatch (String.ofList (chars raw)) := by
  have named : ∀ v, parse raw = .ok (some v) ↔ Names v (chars raw) ∨ NamesUnquoted v (chars raw) := fun v =>
    parse_eq_some.trans digitsOf_dropped_iff
  refine ⟨⟨?unread, ?read⟩, named, fun v v' => not_names_of_unquoted, parse_eq_none, fun r => malformed_of_parse⟩
  case unread =>
    intro reads v unquoted
    exact not_names_of_unquoted unquoted ((reads.version v).1 ((named v).2 (.inr unquoted)))
  case read =>
    intro none
    refine ⟨parse_eq_none, fun v => (named v).trans (or_iff_left (none v)), fun other unnamed => ?_⟩
    cases answer : parse raw with
    | error r => exact ⟨r, rfl, rfl⟩
    | ok version =>
      cases version with
      | none => exact absurd (parse_eq_none.1 answer) other
      | some v => exact absurd ((named v).1 answer) (not_or.2 ⟨unnamed v, none v⟩)

/-- The mark in front of a `3` without quotes. -/
theorem tag_forms_unquoted :
    parse "W/3" = .ok (some 3) ∧ ¬ReadsForms (chars "W/3") (parse "W/3") := by
  have tag : chars "W/3" = ['W', '/', '3'] := by decide
  have named : NamesUnquoted 3 ['W', '/', '3'] := ⟨['3'], ⟨by decide, by decide, by decide⟩, rfl⟩
  have read : parse "W/3" = .ok (some 3) := by
    rw [parse_eq_some, tag]
    exact digitsOf_dropped_iff.2 (.inr named)
  refine ⟨read, fun reads => ?_⟩
  rw [tag] at reads
  exact not_names_of_unquoted named ((reads.version 3).1 read)

end ProfileGateway.Etag
