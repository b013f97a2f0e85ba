import ProfileGateway.Listing.Page
import ProfileGateway.Proofs.Decimal
/-!
# Page tokens

A token is the empty text, the canonical numeral of an offset that is not too large, or a number below zero, which is
the beginning as the empty text is (`Page.readToken_eq_ok`). Printing and reading are inverse to each other but for
those texts that are the beginning without being its numeral (`Page.tokens_invert`).
-/
namespace ProfileGateway.Page

theorem toList_printToken (n : Nat) : (printToken n).toList = Decimal.numeral n := Decimal.toList_text n

theorem printToken_ne_empty (n : Nat) : printToken n ≠ "" := by
  intro blank
  have numeral := toList_printToken n
  rw [blank] at numeral
  exact Nat.toDigits_ne_nil numeral.symm

/-! ## Reading -/

/-- The texts that are tokens, with their offsets. -/
inductive Denotes : String → Nat → Prop
  | beginning : Denotes "" 0
  | offset {token} (canonical : Decimal.Canonical token.toList)
    (inRange : Decimal.value token.toList ≤ 2147483647) : Denotes token (Decimal.value token.toList)
  | belowZero {token ds} (signed : token.toList = '-' :: ds) (digits : Decimal.isDigits ds = true)
    (first : ds.head? ≠ some '0') : Denotes token 0

/-- A text that is a token, if at all, as a numeral. -/
structure Unsigned (token : String) : Prop where
  filled : token ≠ ""
  unsigned : token.toList.head? ≠ some '-'

section Reading

variable {token : String} {offset : Nat}

/-- A token with a sign stands for zero if canonical digits follow it. -/
theorem readToken_signed {ds : List Char} (signed : token.toList = '-' :: ds) : readToken token =
    if Decimal.isDigits ds = true then if ds.head? = some '0' then .error .tokenNotCanonical else .ok 0
    else .error .tokenNotNumeric := by
  unfold readToken
  rw [signed]
  by_cases digits : Decimal.isDigits ds = true <;> simp [digits]

/-- A token without a sign: digits, canonical, in range, in this order. -/
theorem readToken_unsigned (unsigned : Unsigned token) : readToken token =
    if Decimal.isDigits token.toList = true then
      if token.toList.head? = some '0' ∧ 1 < token.toList.length then .error .tokenNotCanonical
      else if Decimal.value token.toList ≤ maxOffset then .ok (Decimal.value token.toList)
      else .error .tokenOutOfRange
    else .error .tokenNotNumeric := by
  have filled : token.toList.isEmpty = false := by
    rw [List.isEmpty_eq_false_iff]
    exact mt String.toList_eq_nil_iff.1 unsigned.filled
  unfold readToken
  simp only [filled, unsigned.unsigned, Bool.false_eq_true, if_false, false_or]
  by_cases digits : Decimal.isDigits token.toList = true <;> simp [digits]

theorem unsigned_of_digits (digits : Decimal.isDigits token.toList = true) : Unsigned token where
  filled blank := by
    rw [blank] at digits
    exact absurd digits (by decide)
  unsigned := Decimal.head?_ne digits (by decide)

/-- It is accepted if its digits are canonical and its value is in range. -/
theorem readToken_unsigned_eq_ok (unsigned : Unsigned token) : readToken token = .ok offset ↔
    Decimal.Canonical token.toList ∧ Decimal.value token.toList ≤ maxOffset ∧ Decimal.value token.toList = offset := by
  rw [readToken_unsigned unsigned, Decimal.canonical_iff]
  by_cases digits : Decimal.isDigits token.toList = true
  · rw [if_pos digits]
    split
    · next led => simp [led]
    · next plain =>
      split
      · next inRange => simp [digits, plain, inRange]
      · next beyond => simp [beyond]
  · simp [digits]

/-- The tokens that are accepted, with the offset of each. -/
theorem readToken_eq_ok : readToken token = .ok offset ↔ Denotes token offset := by
  constructor
  · intro read
    by_cases blank : token = ""
    · cases blank
      cases read
      exact .beginning
    · by_cases signed : token.toList.head? = some '-'
      · obtain ⟨ds, chars⟩ := List.head?_eq_some_iff.1 signed
        rw [readToken_signed chars] at read
        split at read
        · next digits =>
          split at read
          · cases read
          · next first =>
            cases read
            exact .belowZero chars digits first
        · cases read
      · obtain ⟨canonical, inRange, rfl⟩ := (readToken_unsigned_eq_ok ⟨blank, signed⟩).1 read
        exact .offset canonical inRange
  · rintro (_ | ⟨canonical, inRange⟩ | ⟨signed, digits, first⟩)
    · rfl
    · exact (readToken_unsigned_eq_ok (unsigned_of_digits canonical.digits)).2 ⟨canonical, inRange, rfl⟩
    · rw [readToken_signed signed, if_pos digits, if_neg first]

/-- No token stands for an offset beyond the largest one. -/
theorem Denotes.offset_le (denotes : Denotes token offset) : offset ≤ 2147483647 := by
  cases denotes with
  | beginning | belowZero => exact Nat.zero_le _
  | offset _ inRange => exact inRange

end Reading

/-! ## Printing and reading -/

/-- A printed token is read back. -/
theorem readToken_printToken {n : Nat} (inRange : n ≤ maxOffset) : readToken (printToken n) = .ok n := by
  have canonical := Decimal.canonical_numeral n
  have value := Decimal.value_numeral n
  rw [← toList_printToken] at canonical value
  exact (readToken_unsigned_eq_ok (unsigned_of_digits canonical.digits)).2 ⟨canonical, value.symm ▸ inRange, value⟩

/-- An unsigned token that is read is printed back. -/
theorem printToken_of_readToken {token : String} {offset : Nat} (read : readToken token = .ok offset)
    (unsigned : Unsigned token) : printToken offset = token := by
  obtain ⟨canonical, -, rfl⟩ := (readToken_unsigned_eq_ok unsigned).1 read
  rw [← String.toList_inj, toList_printToken, Decimal.numeral_value canonical]

/-- **Tokens** are read as offsets exactly if they denote them, and all other texts are refused. What is printed for an
offset is read as that offset, or as the beginning if it is below zero. A token that is a numeral is printed for the
offset that it is read as, so no two of these stand for one offset. -/
theorem tokens_invert :
    (∀ token offset, readToken token = .ok offset ↔ Denotes token offset) ∧
    (∀ token, (∀ offset, ¬Denotes token offset) →
      ∃ refusal : Refusal, readToken token = .error refusal ∧ refusal.status.code = .invalidArgument) ∧
    (∀ n : Int32, readToken (printToken n.toInt) = .ok (max n.toInt 0).toNat) ∧
    (∀ token offset, readToken token = .ok offset → Unsigned token → printToken offset = token) ∧
    ∀ token token' offset, readToken token = .ok offset → readToken token' = .ok offset →
      Unsigned token → Unsigned token' → token = token' := by
  refine ⟨fun _ _ => readToken_eq_ok, ?_, ?_, fun _ _ => printToken_of_readToken, ?_⟩
  · intro token none
    cases read : readToken token with
    | ok offset => exact absurd (readToken_eq_ok.1 read) (none offset)
    | error refusal => exact ⟨refusal, rfl, rfl⟩
  · intro n
    have small := n.toInt_lt
    have kept : (max n.toInt 0).toNat = n.toInt.toNat := by omega
    have clamped : printToken n.toInt = printToken (n.toInt.toNat : Nat) := rfl
    have inRange : n.toInt.toNat ≤ maxOffset := by
      rw [maxOffset]
      omega
    rw [kept, clamped, readToken_printToken inRange]
  · intro token token' offset read read' unsigned unsigned'
    rw [← printToken_of_readToken read unsigned, printToken_of_readToken read' unsigned']

theorem tokens_invert_edges :
    Denotes "2147483647" 2147483647 ∧ Denotes "-99999999999999" 0 ∧
      (∀ token, Unsigned token → readToken token = .ok 2147483647 → token = "2147483647") ∧
      readToken (printToken (-5)) = .ok 0 := by
  obtain ⟨denotes, -, printed, -, unique⟩ := tokens_invert
  have largest : readToken "2147483647" = .ok 2147483647 := by rfl
  refine ⟨(denotes _ _).1 largest, (denotes _ _).1 rfl, fun token unsigned read => ?_, printed (-5)⟩
  exact unique _ _ _ read largest unsigned ⟨by decide, by decide⟩

end ProfileGateway.Page
