import ProfileGateway.Decimal.Numeral
/-!
# Canonical numerals

The numeral of a number has no zero in front of other digits, and digits without such a zero are the numeral of their
value (`Decimal.numeral_value`). So each number has one canonical numeral. Any other digits of its value have zeros in
front of that (`Decimal.exists_zeros`).
-/
namespace ProfileGateway.Decimal

/-- The numeral of a number other than zero does not begin with a zero. -/
theorem head?_numeral {n : Nat} (pos : 0 < n) : (numeral n).head? ≠ some '0' := by
  induction n using Nat.strongRecOn with
  | ind n ih =>
    by_cases digit : n < 10
    · have first : ∀ m < 10, 0 < m → m.digitChar ≠ '0' := by decide
      rw [numeral, Nat.toDigits_of_lt_base digit]
      simpa using first n digit pos
    · have shorter := ih (n / 10) (by omega) (by omega)
      rw [numeral, Nat.toDigits_of_base_le (by decide) (Nat.not_lt.1 digit), List.head?_append]
      rw [numeral] at shorter
      cases h : (Nat.toDigits 10 (n / 10)).head? with
      | none => exact absurd (List.head?_eq_none_iff.1 h) Nat.toDigits_ne_nil
      | some c => rwa [h] at shorter

/-- Digits do not begin with what is no digit. -/
theorem head?_ne {cs : List Char} {c : Char} (digits : isDigits cs = true) (other : c.isDigit = false) :
    cs.head? ≠ some c := by
  intro head
  have digit := (isDigits_iff.1 digits).2 c (List.mem_of_head? head)
  exact absurd (other.symm.trans digit) (by decide)

/-- A numeral with a zero in front is the zero. -/
theorem numeral_of_zero {n : Nat} (zero : (numeral n).head? = some '0') : numeral n = ['0'] := by
  rcases Nat.eq_zero_or_pos n with rfl | pos
  · exact Nat.toDigits_zero 10
  · exact absurd zero (head?_numeral pos)

/-- Digits, with no zero in front of others. -/
structure Canonical (cs : List Char) : Prop where
  digits : isDigits cs = true
  plain : cs.head? = some '0' → cs = ['0']

/-- Nothing canonical is a zero in front of other digits. -/
theorem Canonical.unled {cs : List Char} (canonical : Canonical cs) : ¬(cs.head? = some '0' ∧ 1 < cs.length) := by
  rintro ⟨zero, long⟩
  rw [canonical.plain zero] at long
  exact absurd long (by decide)

/-- Digits are canonical unless a zero stands in front of others. -/
theorem canonical_iff {cs : List Char} :
    Canonical cs ↔ isDigits cs = true ∧ ¬(cs.head? = some '0' ∧ 1 < cs.length) := by
  constructor
  · intro canonical
    exact ⟨canonical.digits, canonical.unled⟩
  · rintro ⟨digits, unled⟩
    refine ⟨digits, fun zero => ?_⟩
    obtain ⟨rest, rfl⟩ := List.head?_eq_some_iff.1 zero
    have short : rest = [] := List.length_eq_zero_iff.1 (by simpa [zero] using unled)
    rw [short]

/-- Numerals have no zeros in front. -/
theorem canonical_numeral (n : Nat) : Canonical (numeral n) := ⟨isDigits_numeral n, numeral_of_zero⟩

/-- The value of digits grows by the last one. -/
theorem value_concat (cs : List Char) (c : Char) : value (cs ++ [c]) = 10 * value cs + (c.toNat - 48) := by
  rw [value, Nat.ofDigitChars_append, Nat.ofDigitChars_cons, Nat.ofDigitChars_nil, value]
  rfl

/-- A digit stands for the number that it is the digit of. -/
theorem digit_of_isDigit {c : Char} (digit : c.isDigit = true) : c.toNat - 48 < 10 ∧ (c.toNat - 48).digitChar = c := by
  have bounds : 48 ≤ c.toNat ∧ c.toNat ≤ 57 := by
    simpa [Char.isDigit, UInt32.le_iff_toNat_le] using digit
  have small : c.toNat - 48 < 10 := by omega
  refine ⟨small, Char.toNat_inj.1 ?_⟩
  rw [Nat.toNat_digitChar_of_lt_ten small]
  omega

/-- What stands in front of the last of several canonical digits is canonical, and more than a zero. -/
theorem Canonical.of_concat {cs : List Char} {c : Char} (canonical : Canonical (cs ++ [c])) (several : cs ≠ []) :
    Canonical cs ∧ cs.head? ≠ some '0' := by
  have head : (cs ++ [c]).head? = cs.head? := by
    rw [List.head?_append, Option.or_of_isSome (List.isSome_head?.2 several)]
  have unled : cs.head? ≠ some '0' := by
    intro zero
    have short := congrArg List.length (canonical.plain (head.trans zero))
    simp only [List.length_append, List.length_singleton] at short
    exact several (List.length_eq_zero_iff.1 (by omega))
  have digits := (isDigits_iff.1 canonical.digits).2
  exact ⟨⟨isDigits_iff.2 ⟨several, fun d hd => digits d (List.mem_append_left _ hd)⟩, fun zero => absurd zero unled⟩,
    unled⟩

/-- **Canonical digits** are the numeral of their value. -/
theorem numeral_value {cs : List Char} (canonical : Canonical cs) : numeral (value cs) = cs := by
  rw [← List.reverse_reverse cs] at canonical ⊢
  generalize cs.reverse = rs at canonical ⊢
  induction rs with
  | nil => exact absurd canonical.digits (by decide)
  | cons c rs ih =>
    rw [List.reverse_cons] at canonical ⊢
    obtain ⟨small, char⟩ := digit_of_isDigit ((isDigits_iff.1 canonical.digits).2 c (by simp))
    have last : numeral (c.toNat - 48) = [c] := by rw [numeral, Nat.toDigits_of_lt_base small, char]
    by_cases single : rs.reverse = []
    · have alone : value [c] = c.toNat - 48 := by simpa [value] using value_concat [] c
      rw [single, List.nil_append, alone, last]
    · obtain ⟨before, unled⟩ := canonical.of_concat single
      have same := ih before
      have pos : 0 < value rs.reverse := by
        refine Nat.pos_of_ne_zero fun zero => unled ?_
        rw [← same, zero, numeral, Nat.toDigits_zero]
        rfl
      calc numeral (value (rs.reverse ++ [c]))
          = numeral (10 * value rs.reverse + (c.toNat - 48)) := by rw [value_concat]
        _ = numeral (value rs.reverse) ++ numeral (c.toNat - 48) :=
          (Nat.toDigits_append_toDigits (by decide) pos small).symm
        _ = rs.reverse ++ [c] := by rw [same, last]

/-! ## Leading zeros -/

/-- Zeros in front count for nothing. -/
theorem value_zeros (zeros : Nat) (cs : List Char) : value (List.replicate zeros '0' ++ cs) = value cs := by
  induction zeros with
  | zero => rfl
  | succ zeros ih =>
    rw [List.replicate_succ, List.cons_append, value, Nat.ofDigitChars_cons]
    exact ih

theorem isDigits_zeros (zeros n : Nat) : isDigits (List.replicate zeros '0' ++ numeral n) = true := by
  obtain ⟨some, digits⟩ := isDigits_iff.1 (isDigits_numeral n)
  refine isDigits_iff.2 ⟨List.append_ne_nil_of_right_ne_nil _ some, fun c member => ?_⟩
  obtain zero | digit := List.mem_append.1 member
  · rw [List.eq_of_mem_replicate zero]
    rfl
  · exact digits c digit

/-- Digits are zeros in front of the numeral of their value. -/
theorem exists_zeros {cs : List Char} (digits : isDigits cs = true) :
    ∃ zeros, cs = List.replicate zeros '0' ++ numeral (value cs) := by
  by_cases canonical : Canonical cs
  · exact ⟨0, (numeral_value canonical).symm⟩
  · match cs, canonical with
    | c :: cs, canonical =>
      rw [canonical_iff, not_and, Decidable.not_not] at canonical
      obtain ⟨zero, long⟩ := canonical digits
      obtain rfl : c = '0' := Option.some_inj.1 zero
      have more : cs ≠ [] := List.length_pos_iff.1 (Nat.lt_of_succ_lt_succ long)
      have others := fun d member => (isDigits_iff.1 digits).2 d (List.mem_cons_of_mem _ member)
      obtain ⟨zeros, same⟩ := exists_zeros (isDigits_iff.2 ⟨more, others⟩)
      have value : value ('0' :: cs) = value cs := value_zeros 1 cs
      exact ⟨zeros + 1, by rw [value, List.replicate_succ, List.cons_append, ← same]⟩

end ProfileGateway.Decimal
