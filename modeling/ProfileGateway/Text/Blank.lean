/-!
# Blank characters

The characters with the Unicode property `White_Space`, and the removal of blanks from both ends of a text.
Trimming twice is trimming once, and what is left begins and ends with a character that is not blank.
-/
namespace ProfileGateway.Text

/-- The characters with the property `White_Space`, as first and last code points. -/
def blankRanges : List (Nat × Nat) :=
  [(0x09, 0x0D), (0x20, 0x20), (0x85, 0x85), (0xA0, 0xA0), (0x1680, 0x1680), (0x2000, 0x200A),
   (0x2028, 0x2029), (0x202F, 0x202F), (0x205F, 0x205F), (0x3000, 0x3000)]

def isBlank (c : Char) : Bool :=
  blankRanges.any fun r => r.1 ≤ c.toNat && c.toNat ≤ r.2

def dropBlanks (cs : List Char) : List Char := cs.dropWhile isBlank

def trimChars (cs : List Char) : List Char := (dropBlanks (dropBlanks cs).reverse).reverse

/-- The text without the blanks at its ends. -/
def trim (s : String) : String := String.ofList (trimChars s.toList)

/-- Nothing but blanks. -/
def blank (s : String) : Bool := s.toList.all isBlank

/-- The trimmed text, unless nothing is left of it. -/
def trimmed? (s : String) : Option String := if blank s then none else some (trim s)

/-! ## What is left -/

section

variable {cs : List Char} {c : Char}

/-- No blank is left in front. -/
theorem isBlank_of_head?_dropBlanks (h : (dropBlanks cs).head? = some c) : isBlank c = false := by
  have := List.head?_dropWhile_not isBlank cs
  unfold dropBlanks at h
  simpa [h] using this

/-- There is nothing to drop before a character that is no blank. -/
theorem dropBlanks_eq_self (h : ∀ c, cs.head? = some c → isBlank c = false) : dropBlanks cs = cs := by
  cases cs with
  | nil => rfl
  | cons c cs => simp [dropBlanks, h c rfl]

@[simp] theorem dropBlanks_dropBlanks (cs : List Char) : dropBlanks (dropBlanks cs) = dropBlanks cs :=
  dropBlanks_eq_self fun _ => isBlank_of_head?_dropBlanks

/-- Nothing is left exactly of blanks. -/
theorem dropBlanks_eq_nil_iff : dropBlanks cs = [] ↔ cs.all isBlank := by
  induction cs with
  | nil => simp [dropBlanks]
  | cons c cs ih => by_cases h : isBlank c <;> simp_all [dropBlanks]

/-- After the blanks in front, only those behind are dropped. -/
theorem trimChars_prefix (cs : List Char) : trimChars cs <+: dropBlanks cs := by
  have h : dropBlanks (dropBlanks cs).reverse <:+ (dropBlanks cs).reverse := List.dropWhile_suffix _
  simpa [trimChars] using List.reverse_prefix.2 h

/-- A trimmed text does not begin with a blank. -/
theorem isBlank_of_head?_trimChars (h : (trimChars cs).head? = some c) : isBlank c = false := by
  obtain ⟨rest, hr⟩ := trimChars_prefix cs
  refine isBlank_of_head?_dropBlanks (?_ : (dropBlanks cs).head? = some c)
  rw [← hr, List.head?_append, h, Option.some_or]

/-- A trimmed text is left as it is. -/
@[simp] theorem trimChars_trimChars (cs : List Char) : trimChars (trimChars cs) = trimChars cs := by
  have h : dropBlanks (trimChars cs) = trimChars cs :=
    dropBlanks_eq_self fun _ => isBlank_of_head?_trimChars
  rw [trimChars, h, trimChars, List.reverse_reverse, dropBlanks_dropBlanks]

/-- Nothing is left exactly of blanks. -/
theorem trimChars_eq_nil_iff : trimChars cs = [] ↔ cs.all isBlank := by
  rw [trimChars, List.reverse_eq_nil_iff, dropBlanks_eq_nil_iff, List.all_reverse, ← dropBlanks_eq_nil_iff,
    dropBlanks_dropBlanks, dropBlanks_eq_nil_iff]

/-- Blanks in front are dropped first of all. -/
theorem dropBlanks_append {before : List Char} (blank : ∀ c ∈ before, isBlank c = true) :
    dropBlanks (before ++ cs) = dropBlanks cs := List.dropWhile_append_of_pos blank

/-- Blanks at the ends make no difference. -/
theorem trimChars_padded {before after : List Char} (left : ∀ c ∈ before, isBlank c = true)
    (right : ∀ c ∈ after, isBlank c = true) : trimChars (before ++ cs ++ after) = trimChars cs := by
  have behind : dropBlanks (dropBlanks (cs ++ after)).reverse = dropBlanks (dropBlanks cs).reverse := by
    by_cases nothing : cs.all isBlank = true
    · have all : dropBlanks cs = [] := dropBlanks_eq_nil_iff.2 nothing
      have both : dropBlanks (cs ++ after) = [] := dropBlanks_eq_nil_iff.2 (by
        rw [List.all_append, nothing, Bool.true_and, List.all_eq_true]
        exact right)
      rw [all, both]
    · have apart : dropBlanks (cs ++ after) = dropBlanks cs ++ after := by
        have shown : (dropBlanks cs).isEmpty = false := by
          rw [List.isEmpty_eq_false_iff]
          exact mt dropBlanks_eq_nil_iff.1 nothing
        unfold dropBlanks at shown ⊢
        rw [List.dropWhile_append, shown]
        rfl
      rw [apart, List.reverse_append, dropBlanks_append fun c hc => right c (List.mem_reverse.1 hc)]
  rw [trimChars, trimChars, List.append_assoc, dropBlanks_append left, behind]

end

@[simp] theorem toList_trim (s : String) : (trim s).toList = trimChars s.toList := by simp [trim]

@[simp] theorem trim_trim (s : String) : trim (trim s) = trim s := by simp [trim]

/-- Blank texts at the ends make no difference. -/
theorem trim_padded {before s after : String} (left : blank before = true) (right : blank after = true) :
    trim (before ++ s ++ after) = trim s := by
  rw [blank, List.all_eq_true] at left right
  rw [trim, String.toList_append, String.toList_append, trimChars_padded left right, trim]

/-- A text is blank exactly if nothing is left of it. -/
theorem blank_iff {s : String} : blank s = true ↔ trim s = "" := by
  rw [blank, ← trimChars_eq_nil_iff, ← toList_trim, String.toList_eq_nil_iff]

end ProfileGateway.Text
