import ProfileGateway.Proofs.Text
import ProfileGateway.Uuid
/-!
# Spellings of identifiers

An identifier has four spellings, in letters of either case, and these are what is read as the identifier
(`Uuid.parseChars?_eq_some`). An entry that names one may have blanks around it (`Uuid.parse?_trim_eq_some`).
-/
namespace ProfileGateway

/-! ## Digits -/

namespace Text

/-- Only ASCII letters have a lower case here. -/
theorem toLower_of_beyond {c : Char} (beyond : ¬c.toNat < 128) : c.toLower = c :=
  dif_neg fun upper => beyond (Nat.lt_of_le_of_lt upper.2 (by decide))

/-- The value of a digit is its place among the digits in lower case. -/
theorem hexValue?_eq_find? (c : Char) :
    hexValue? c = (List.range 16).find? fun v => c.toLower = hexDigit v := by
  have ascii : ∀ n < 128, hexValue? (Char.ofNat n) =
      (List.range 16).find? fun v => (Char.ofNat n).toLower = hexDigit v := by decide +kernel
  by_cases small : c.toNat < 128
  · rw [← Char.ofNat_toNat c]
    exact ascii c.toNat small
  · -- Nothing beyond ASCII is a digit or has a case.
    have beyond : ∀ b : Char, b.toNat < 128 → ¬c ≤ b := fun b low le => small (Nat.lt_of_le_of_lt le low)
    have digit : c.isDigit = false := by
      rw [Char.isDigit, Bool.and_eq_false_iff]
      exact .inr (decide_eq_false (beyond '9' (by decide)))
    have lower : c.toLower = c := toLower_of_beyond small
    have none : hexValue? c = none := by
      simp only [hexValue?, digit, beyond 'f' (by decide), beyond 'F' (by decide), and_false, Bool.false_eq_true,
        if_false]
    have low : ∀ v < 16, (hexDigit v).toNat < 128 := by decide
    rw [none, eq_comm, List.find?_eq_none]
    intro v range
    rw [lower, decide_eq_true_eq]
    rintro rfl
    exact small (low v (List.mem_range.1 range))

/-- No two values have one digit. -/
theorem hexDigit_injective : ∀ v < 16, ∀ w < 16, hexDigit v = hexDigit w → v = w := by decide

/-- A character has the value of the digit that it is in lower case. -/
theorem hexValue?_eq_some {c : Char} {v : Nat} : hexValue? c = some v ↔ v < 16 ∧ c.toLower = hexDigit v := by
  rw [hexValue?_eq_find?]
  constructor
  · intro found
    exact ⟨List.mem_range.1 (List.mem_of_find?_eq_some found), by simpa using List.find?_some found⟩
  · rintro ⟨range, digit⟩
    obtain ⟨w, found⟩ := Option.isSome_iff_exists.1 (List.find?_isSome.2
      ⟨v, List.mem_range.2 range, decide_eq_true digit⟩ : ((List.range 16).find? fun v => c.toLower = hexDigit v).isSome)
    have digit' : c.toLower = hexDigit w := by simpa using List.find?_some found
    rw [found, hexDigit_injective v range w (List.mem_range.1 (List.mem_of_find?_eq_some found)) (digit ▸ digit')]

/-- A hexadecimal number grows by its last digit. -/
theorem hexNumber?_concat (high : Nat) (cs : List Char) (c : Char) : hexNumber? high (cs ++ [c]) =
    (hexNumber? high cs).bind fun n => (hexValue? c).map fun v => 16 * n + v := by
  induction cs generalizing high with
  | nil => cases h : hexValue? c <;> simp [hexNumber?, h]
  | cons d cs ih =>
    rw [List.cons_append, hexNumber?, hexNumber?]
    cases hexValue? d with
    | none => rfl
    | some v => exact ih (16 * high + v)

/-- The numbers that digits stand for are the ones that are written with them, in whatever case. -/
theorem hexNumber?_eq_some {high n : Nat} {cs : List Char} : hexNumber? high cs = some n ↔
    cs.map Char.toLower = hexDigits cs.length n ∧ high = n / Nat.pow 16 cs.length := by
  have power (k : Nat) : Nat.pow 16 (k + 1) = 16 * Nat.pow 16 k := Nat.pow_succ'
  rw [← List.reverse_reverse cs]
  induction cs.reverse generalizing n with
  | nil => simp [hexNumber?, hexDigits]
  | cons c cs ih =>
    simp only [List.reverse_cons, hexNumber?_concat, Option.bind_eq_some_iff, Option.map_eq_some_iff, ih,
      hexValue?_eq_some, List.map_append, List.map_cons, List.map_nil, List.length_append, List.length_singleton,
      hexDigits]
    constructor
    · rintro ⟨m, ⟨digits, rfl⟩, v, ⟨range, digit⟩, rfl⟩
      have quotient : (16 * m + v) / 16 = m := by omega
      have remainder : (16 * m + v) % 16 = v := by omega
      rw [quotient, remainder, digits, digit, power, ← Nat.div_div_eq_div_mul, quotient]
      exact ⟨rfl, rfl⟩
    · rintro ⟨digits, rfl⟩
      obtain ⟨front, last⟩ := List.append_inj' digits rfl
      refine ⟨n / 16, ⟨front, ?_⟩, n % 16, ⟨Nat.mod_lt n (by decide), List.head_eq_of_cons_eq last⟩, by omega⟩
      rw [power, Nat.div_div_eq_div_mul]

end Text

namespace Uuid

/-! ## Forms -/

/-- The texts that are read as an id, in letters of either case. -/
inductive Spelled (u : Uuid) : List Char → Prop
  | digits {cs} (same : cs.map Char.toLower = u.digits) : Spelled u cs
  | hyphenated {cs} (same : cs.map Char.toLower = hyphenate u.digits) : Spelled u cs
  | braced {cs} (same : cs.map Char.toLower = hyphenate u.digits) : Spelled u ('\x7b' :: (cs ++ ['\x7d']))
  | urn {mark cs} (urn : mark.map Char.toLower = "urn:uuid:".toList)
    (same : cs.map Char.toLower = hyphenate u.digits) : Spelled u (mark ++ cs)

/-- Every id has thirty-two digits. -/
theorem length_digits (u : Uuid) : u.digits.length = 32 := Text.length_hexDigits 32 u.toNat

/-- Digits in any case spell the id that they are in lower case. -/
theorem ofDigits?_eq_some {cs : List Char} {u : Uuid} :
    ofDigits? cs = some u ↔ cs.map Char.toLower = u.digits := by
  have spaced : Nat.pow 16 32 = Nat.pow 2 128 := by decide
  unfold ofDigits? digits
  constructor
  · intro read
    split at read
    · next length =>
      obtain ⟨n, number, read⟩ := Option.bind_eq_some_iff.1 read
      split at read
      · cases read
        rw [Text.hexNumber?_eq_some, length] at number
        exact number.1
      · cases read
    · cases read
  · intro same
    have length : cs.length = 32 := by simpa using congrArg List.length same
    have number : Text.hexNumber? 0 cs = some u.toNat := by
      rw [Text.hexNumber?_eq_some, length, same, spaced, Nat.div_eq_of_lt u.toNat_lt]
      exact ⟨rfl, rfl⟩
    rw [if_pos length, number]
    exact dif_pos u.toNat_lt

/-- Hyphens stand between groups of eight, four, four, four and twelve digits. -/
theorem hyphenate_append {a b c d e : List Char} (ha : a.length = 8) (hb : b.length = 4) (hc : c.length = 4)
    (hd : d.length = 4) :
    hyphenate (a ++ b ++ c ++ d ++ e) = a ++ '-' :: b ++ '-' :: c ++ '-' :: d ++ '-' :: e := by
  simp (disch := omega) [hyphenate, List.drop_append, List.drop_eq_nil_of_le, ha, hb, hc]

/-- Digits in five groups. -/
theorem groups_of_digits {ds : List Char} (length : ds.length = 32) : ∃ a b c d e : List Char,
    ds = a ++ b ++ c ++ d ++ e ∧ a.length = 8 ∧ b.length = 4 ∧ c.length = 4 ∧ d.length = 4 ∧ e.length = 12 := by
  refine ⟨ds.take 8, (ds.drop 8).take 4, (ds.drop 12).take 4, (ds.drop 16).take 4, ds.drop 20, ?_, ?_⟩
  · have whole := List.take_append_drop 8 ds
    rw [← List.take_append_drop 4 (ds.drop 8), ← List.take_append_drop 4 (List.drop 4 (ds.drop 8)),
      ← List.take_append_drop 4 (List.drop 4 (List.drop 4 (ds.drop 8)))] at whole
    simpa [List.drop_drop] using whole.symm
  · simp [length]

/-- Four hyphens are added to thirty-two digits. -/
theorem length_hyphenate {ds : List Char} (length : ds.length = 32) : (hyphenate ds).length = 36 := by
  obtain ⟨a, b, c, d, e, rfl, ha, hb, hc, hd, he⟩ := groups_of_digits length
  rw [hyphenate_append ha hb hc hd]
  simp [ha, hb, hc, hd, he]

/-- Hyphens that were put in can be taken out again. -/
theorem unhyphenate?_hyphenate {ds : List Char} (length : ds.length = 32) :
    unhyphenate? (hyphenate ds) = some ds := by
  obtain ⟨a, b, c, d, e, rfl, ha, hb, hc, hd, -⟩ := groups_of_digits length
  have groups : let cs := hyphenate (a ++ b ++ c ++ d ++ e)
      cs.take 8 ++ (cs.drop 9).take 4 ++ (cs.drop 14).take 4 ++ (cs.drop 19).take 4 ++ cs.drop 24 =
        a ++ b ++ c ++ d ++ e := by
    rw [hyphenate_append ha hb hc hd]
    simp (disch := omega) [List.drop_append, List.drop_eq_nil_of_le, ha, hb, hc, hd]
  unfold unhyphenate?
  dsimp only at groups ⊢
  rw [groups, if_pos rfl]

/-- A hyphen has no case. -/
theorem eq_hyphen_of_toLower {c : Char} (lower : c.toLower = '-') : c = '-' := by
  have ascii : ∀ n < 128, (Char.ofNat n).toLower = '-' → Char.ofNat n = '-' := by decide +kernel
  by_cases small : c.toNat < 128
  · rw [← Char.ofNat_toNat c] at lower ⊢
    exact ascii c.toNat small lower
  · rwa [Text.toLower_of_beyond small] at lower

/-- Hyphens stay where they are when the case of the digits changes. -/
theorem map_hyphenate (ds : List Char) : (hyphenate ds).map Char.toLower = hyphenate (ds.map Char.toLower) := by
  simp [hyphenate, show '-'.toLower = '-' by decide]

/-- Hyphenated digits in any case spell the id that they are in lower case. -/
theorem ofHyphenated?_eq_some {cs : List Char} {u : Uuid} :
    ofHyphenated? cs = some u ↔ cs.map Char.toLower = hyphenate u.digits := by
  unfold ofHyphenated?
  rw [Option.bind_eq_some_iff]
  constructor
  · rintro ⟨ds, plain, read⟩
    unfold unhyphenate? at plain
    dsimp only at plain
    split at plain
    · next shape =>
      cases plain
      rw [← shape, map_hyphenate, ofDigits?_eq_some.1 read]
    · cases plain
  · intro same
    obtain ⟨a, b, c, d, e, groups, ha, hb, hc, hd, he⟩ := groups_of_digits u.length_digits
    rw [groups, hyphenate_append ha hb hc hd] at same
    simp only [List.append_assoc, List.cons_append, List.map_eq_append_iff, List.map_eq_cons_iff] at same
    obtain ⟨a', _, rfl, rfl, _, _, rfl, h₁, b', _, rfl, rfl, _, _, rfl, h₂, c', _, rfl, rfl, _, _, rfl, h₃, d', _,
      rfl, rfl, _, e', rfl, h₄, rfl⟩ := same
    rw [eq_hyphen_of_toLower h₁, eq_hyphen_of_toLower h₂, eq_hyphen_of_toLower h₃, eq_hyphen_of_toLower h₄]
    rw [List.length_map] at ha hb hc hd he
    have shape := hyphenate_append (e := e') ha hb hc hd
    have length : (a' ++ b' ++ c' ++ d' ++ e').length = 32 := by simp [ha, hb, hc, hd, he]
    refine ⟨a' ++ b' ++ c' ++ d' ++ e', ?_, ?_⟩
    · rw [← unhyphenate?_hyphenate length, shape]
      simp
    · rw [ofDigits?_eq_some, groups]
      simp

/-! ## Reading -/

/-- A text between braces. -/
theorem braces_of_ends {cs : List Char} (ends : cs.head? = some '\x7b' ∧ cs.getLast? = some '\x7d') :
    cs = '\x7b' :: ((cs.drop 1).dropLast ++ ['\x7d']) := by
  refine Text.between_of_ends ?_ ends.1 ends.2
  obtain ⟨rest, rfl⟩ := List.head?_eq_some_iff.1 ends.1
  cases rest with
  | nil => exact absurd ends.2 (by decide)
  | cons c rest => simp

/-- **An id is read** from its spellings, and from nothing else. -/
theorem parseChars?_eq_some {cs : List Char} {u : Uuid} : parseChars? cs = some u ↔ u.Spelled cs := by
  have plain := u.length_digits
  have long := length_hyphenate plain
  constructor
  · intro read
    unfold parseChars? at read
    split at read
    · exact .digits (ofDigits?_eq_some.1 read)
    · split at read
      · exact .hyphenated (ofHyphenated?_eq_some.1 read)
      · split at read
        · obtain ⟨inside, braces, read⟩ := Option.bind_eq_some_iff.1 read
          unfold insideBraces? at braces
          split at braces
          · next ends =>
            cases braces
            rw [braces_of_ends ends]
            exact .braced (ofHyphenated?_eq_some.1 read)
          · cases braces
        · split at read
          · obtain ⟨rest, mark, read⟩ := Option.bind_eq_some_iff.1 read
            unfold afterUrn? at mark
            split at mark
            · next urn =>
              cases mark
              rw [← List.take_append_drop 9 cs]
              exact .urn urn (ofHyphenated?_eq_some.1 read)
            · cases mark
          · cases read
  · rintro (same | same | same | ⟨urn, same⟩)
    · have length : cs.length = 32 := by simpa [plain] using congrArg List.length same
      rw [parseChars?, if_pos length, ofDigits?_eq_some.2 same]
    · have length : cs.length = 36 := by simpa [long] using congrArg List.length same
      simp [parseChars?, length, ofHyphenated?_eq_some.2 same]
    · next cs =>
      have length : cs.length = 36 := by simpa [long] using congrArg List.length same
      have inside : insideBraces? ('\x7b' :: (cs ++ ['\x7d'])) = some cs := by
        rw [insideBraces?, if_pos ⟨rfl, by rw [← List.cons_append, List.getLast?_concat]⟩, List.drop_one,
          List.tail_cons, List.dropLast_concat]
      simp [parseChars?, length, inside, ofHyphenated?_eq_some.2 same]
    · next mark cs =>
      have length : cs.length = 36 := by simpa [long] using congrArg List.length same
      have nine : mark.length = 9 := by simpa using congrArg List.length urn
      have after : afterUrn? (mark ++ cs) = some cs := by
        rw [afterUrn?, List.take_left' nine, if_pos urn, List.drop_left' nine]
      simp [parseChars?, length, nine, after, ofHyphenated?_eq_some.2 same]

/-! ## Digits and hyphens -/

/-- The entry is a spelling of the id, maybe with blanks around it. -/
def Names (u : Uuid) (entry : String) : Prop := u.Spelled (Text.trimChars entry.toList)

/-- A text is read as the id that it names, blanks at its ends left aside. -/
theorem parse?_trim_eq_some {entry : String} {u : Uuid} : parse? (Text.trim entry) = some u ↔ u.Names entry := by
  rw [parse?, Text.toList_trim, parseChars?_eq_some, Names]

/-- An id reads back from the form in which it is printed. -/
theorem parse?_print (u : Uuid) : parse? u.print = some u := by
  have lower : ∀ v < 16, (Text.hexDigit v).toLower = Text.hexDigit v := by decide
  have digits (width n : Nat) : (Text.hexDigits width n).map Char.toLower = Text.hexDigits width n := by
    induction width generalizing n with
    | zero => rfl
    | succ width ih => simp [Text.hexDigits, ih, lower (n % 16) (Nat.mod_lt n (by decide))]
  rw [parse?, parseChars?_eq_some, print, String.toList_ofList]
  refine .hyphenated ?_
  rw [map_hyphenate, Uuid.digits, digits]

end Uuid
end ProfileGateway
