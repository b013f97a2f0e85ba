import Mathlib.Data.List.Forall2
import ProfileGateway.Text.Ascii
import ProfileGateway.Text.Blank
/-!
# Texts by their ends and up to letter case

A text that begins and ends with other characters than blanks is not trimmed (`Text.trimChars_eq_self`). Two texts are
the same in lower case if they differ in the case of ASCII letters and in nothing else (`Text.lower_eq_lower_iff`).
-/
namespace ProfileGateway.Text

variable {cs : List Char}

/-- A text that neither begins nor ends with a blank is left as it is. -/
theorem trimChars_eq_self (first : ∀ c, cs.head? = some c → isBlank c = false)
    (last : ∀ c, cs.getLast? = some c → isBlank c = false) : trimChars cs = cs := by
  have kept : dropBlanks cs.reverse = cs.reverse := dropBlanks_eq_self fun c h => last c (List.head?_reverse ▸ h)
  rw [trimChars, dropBlanks_eq_self first, kept, List.reverse_reverse]

/-- A text without blanks is left as it is. -/
theorem trimChars_of_solid (solid : ∀ c ∈ cs, isBlank c = false) : trimChars cs = cs :=
  trimChars_eq_self (fun c first => solid c (List.mem_of_head? first)) fun c last =>
    solid c (List.mem_of_getLast? last)

/-- What stands between two characters that are no blanks is left as it is. -/
theorem trimChars_between {a b : Char} (first : isBlank a = false) (last : isBlank b = false) (cs : List Char) :
    trimChars (a :: (cs ++ [b])) = a :: (cs ++ [b]) := by
  refine trimChars_eq_self (fun c head => ?_) fun c tail => ?_
  · cases head
    exact first
  · rw [← List.cons_append, List.getLast?_concat] at tail
    cases tail
    exact last

/-- A text of two characters or more is what stands between its ends, and they. -/
theorem between_of_ends {a b : Char} (long : 2 ≤ cs.length) (first : cs.head? = some a) (last : cs.getLast? = some b) :
    cs = a :: ((cs.drop 1).dropLast ++ [b]) := by
  obtain ⟨rest, rfl⟩ := List.head?_eq_some_iff.1 first
  cases rest with
  | nil => simp at long
  | cons c rest =>
    rw [List.getLast?_cons_cons] at last
    obtain ⟨inside, whole⟩ := List.getLast?_eq_some_iff.1 last
    rw [whole, List.drop_one, List.tail_cons, List.dropLast_concat]

/-- A text that is not blank is trimmed. -/
theorem trimmed?_of_filled {s : String} (filled : blank s = false) : trimmed? s = some (trim s) :=
  if_neg (Bool.eq_false_iff.1 filled)

/-- What is left of a text is never empty. -/
theorem trimmed?_eq_some {s t : String} : trimmed? s = some t ↔ trim s = t ∧ t ≠ "" := by
  unfold trimmed?
  split
  · next nothing => simp [blank_iff.1 nothing, eq_comm]
  · next filled =>
    have shown : trim s ≠ "" := mt blank_iff.2 filled
    constructor
    · rintro ⟨⟩
      exact ⟨rfl, shown⟩
    · rintro ⟨rfl, -⟩
      rfl

/-- A text is blank with blanks around it exactly if it is without them. -/
theorem blank_padded {before s after : String} (left : blank before = true) (right : blank after = true) :
    blank (before ++ s ++ after) = blank s := by
  rw [Bool.eq_iff_iff, blank_iff, blank_iff, trim_padded left right]

/-- A text is what is left of it when it is trimmed, between blanks. -/
theorem exists_padding (s : String) :
    ∃ before after, blank before = true ∧ blank after = true ∧ s = before ++ trim s ++ after := by
  have blanks (cs : List Char) : (cs.takeWhile isBlank).all isBlank = true := List.all_takeWhile
  have front : s.toList.takeWhile isBlank ++ dropBlanks s.toList = s.toList := List.takeWhile_append_dropWhile
  have back : trimChars s.toList ++ ((dropBlanks s.toList).reverse.takeWhile isBlank).reverse = dropBlanks s.toList := by
    rw [trimChars, dropBlanks, ← List.reverse_append, List.takeWhile_append_dropWhile, List.reverse_reverse]
  refine ⟨.ofList (s.toList.takeWhile isBlank), .ofList ((dropBlanks s.toList).reverse.takeWhile isBlank).reverse,
    ?_, ?_, ?_⟩
  · rw [blank, String.toList_ofList, blanks]
  · rw [blank, String.toList_ofList, List.all_reverse, blanks]
  · rw [← String.toList_inj, String.toList_append, String.toList_append, String.toList_ofList, String.toList_ofList,
      toList_trim, List.append_assoc, back, front]

/-! ## Letter case -/

/-- A capital letter of ASCII and the small one. -/
def CasePair (capital small : Char) : Prop :=
  'A'.toNat ≤ capital.toNat ∧ capital.toNat ≤ 'Z'.toNat ∧ small.toNat = capital.toNat + 32

/-- The same character, or the same letter of ASCII in the other case. -/
def Alike (c d : Char) : Prop := c = d ∨ CasePair c d ∨ CasePair d c

/-- One name, spelled with letters of any case. -/
def SameName (s t : String) : Prop := List.Forall₂ Alike s.toList t.toList

/-- The letters from A to Z move up by 32, and nothing else moves. -/
theorem toNat_toLower (c : Char) :
    c.toLower.toNat = if 'A'.toNat ≤ c.toNat ∧ c.toNat ≤ 'Z'.toNat then c.toNat + 32 else c.toNat := by
  have high : 'Z'.val.toNat = 90 := rfl
  have shift : ('a'.val - 'A'.val).toNat = 32 := rfl
  unfold Char.toLower
  simp only [ge_iff_le, UInt32.le_iff_toNat_le, Char.toNat]
  split
  · rw [UInt32.toNat_add, shift]
    omega
  · rfl

/-- Characters agree in lower case exactly if they are alike. -/
theorem toLower_eq_toLower_iff {c d : Char} : c.toLower = d.toLower ↔ Alike c d := by
  have low : 'A'.toNat = 65 := rfl
  have high : 'Z'.toNat = 90 := rfl
  unfold Alike CasePair
  rw [← Char.toNat_inj, ← Char.toNat_inj, toNat_toLower, toNat_toLower, low, high]
  split <;> split <;> omega

/-- Texts agree in lower case exactly if they are one name. -/
theorem lower_eq_lower_iff {s t : String} : lower s = lower t ↔ SameName s t := by
  rw [lower, lower, String.ofList_inj, ← List.forall₂_eq_eq_eq, List.forall₂_map_left_iff,
    List.forall₂_map_right_iff]
  simp only [toLower_eq_toLower_iff]
  exact Iff.rfl

end ProfileGateway.Text
