import ProfileGateway.Json.Literal
/-!
# Integer literals

An integer that fits 64 bits, with or without a sign, is read as itself, and any other as a double. Such a double has no
more than the digits that fit: beyond 64 bits the last digit of an integer makes no difference to what is read
(`Literal.number?_of_wide`).
-/
namespace ProfileGateway.Json.Literal

open Decimal

variable {l l' : Literal}

/-- The integer that is written, apart from fraction and exponent. -/
def value (l : Literal) : Int := if l.negative then -l.whole else l.whole

/-- The literal of an integer has its value. -/
theorem value_ofInt (n : Int) : (ofInt n).value = n := by
  unfold value ofInt
  by_cases negative : n < 0
  · rw [if_pos (decide_eq_true negative)]
    show -(n.natAbs : Int) = n
    omega
  · rw [if_neg (mt of_decide_eq_true negative)]
    show (n.natAbs : Int) = n
    omega

/-- What fits 64 bits, with or without a sign. A zero with a minus sign is nothing of that kind. -/
structure Fits (l : Literal) : Prop where
  low : -0x8000000000000000 ≤ l.value
  high : l.value < 0x10000000000000000
  signed : l.negative = true → 0 < l.whole

/-- Negative integers fit 64 bits down to -2⁶³; a zero with a sign does not count as an integer. -/
theorem fits_of_negative (negative : l.negative = true) :
    l.Fits ↔ 0 < l.whole ∧ l.whole ≤ 0x8000000000000000 := by
  have value : l.value = -l.whole := if_pos negative
  constructor
  · rintro ⟨low, -, signed⟩
    have pos := signed negative
    omega
  · rintro ⟨pos, bound⟩
    exact ⟨by omega, by omega, fun _ => pos⟩

/-- Integers without a sign fit 64 bits below 2⁶⁴. -/
theorem fits_of_unsigned (unsigned : l.negative = false) : l.Fits ↔ l.whole < UInt64.size := by
  have value : l.value = l.whole := if_neg (Bool.eq_false_iff.1 unsigned)
  have size : UInt64.size = 0x10000000000000000 := rfl
  constructor
  · rintro ⟨-, high, -⟩
    omega
  · intro bound
    refine ⟨by omega, by omega, fun negative => ?_⟩
    rw [unsigned] at negative
    cases negative

/-- An integer that fits is read as itself. -/
theorem number?_of_fits (integer : l.isInteger = true) (fits : l.Fits) : l.number? = some (.int l.value) := by
  unfold number?
  dsimp only
  rw [if_pos integer]
  cases negative : l.negative with
  | true =>
    have value : l.value = -l.whole := if_pos negative
    rw [if_pos rfl, if_pos ((fits_of_negative negative).1 fits), value]
  | false =>
    have value : l.value = l.whole := if_neg (Bool.eq_false_iff.1 negative)
    rw [if_neg (by decide), if_pos ((fits_of_unsigned negative).1 fits), value]

/-- An integer that does not fit is read as a double. -/
theorem number?_of_not_fits (integer : l.isInteger = true) (wide : ¬l.Fits) :
    l.number? = l.magnitude?.map fun m => .float ⟨l.negative, m⟩ := by
  unfold number?
  dsimp only
  rw [if_pos integer]
  cases negative : l.negative with
  | true => rw [if_pos rfl, if_neg (mt (fits_of_negative negative).2 wide)]
  | false => rw [if_neg (by decide), if_neg (mt (fits_of_unsigned negative).2 wide)]

/-- One digit more is absorbed if all before it were and the significand has room for it. -/
theorem absorb_concat (n : Nat) (ds : List Nat) (d : Nat) : absorb n (ds ++ [d]) =
    if (absorb n ds).2 = 0 ∧ 10 * (absorb n ds).1 + d < UInt64.size then (10 * (absorb n ds).1 + d, 0)
    else ((absorb n ds).1, (absorb n ds).2 + 1) := by
  induction ds generalizing n with
  | nil => simp [absorb]
  | cons e ds ih =>
    rw [List.cons_append, absorb, absorb]
    split
    · exact ih (10 * n + e)
    · simp

/-- The digits of a number. -/
def digits (n : Nat) : List Nat := (numeral n).map fun c => c.toNat - 48

/-- A digit stands as far behind zero as it counts. -/
theorem toNat_digitChar_sub {d : Nat} (small : d < 10) : d.digitChar.toNat - 48 = d := by
  rw [Nat.toNat_digitChar_of_lt_ten small]
  omega

theorem digits_of_lt {n : Nat} (small : n < 10) : digits n = [n] := by
  rw [digits, numeral, Nat.toDigits_of_lt_base small, List.map_singleton, toNat_digitChar_sub small]

/-- The last digit of a number, and those before it. -/
theorem digits_of_le {n : Nat} (large : 10 ≤ n) : digits n = digits (n / 10) ++ [n % 10] := by
  rw [digits, numeral, Nat.toDigits_of_base_le (by decide) large, List.map_append, List.map_singleton,
    toNat_digitChar_sub (Nat.mod_lt n (by decide)), digits, numeral]

/-- A number of 64 bits is taken in whole; of a larger one the last digit is lost. -/
theorem absorb_digits (n : Nat) :
    (n < UInt64.size → absorb 0 (digits n) = (n, 0)) ∧
    (UInt64.size ≤ n →
      absorb 0 (digits n) = ((absorb 0 (digits (n / 10))).1, (absorb 0 (digits (n / 10))).2 + 1)) := by
  have size : UInt64.size = 0x10000000000000000 := rfl
  -- The digits of a number are those of its tenth and one more, which is taken in if all before it were and it fits.
  induction n using Nat.strongRecOn with
  | ind n ih =>
    by_cases small : n < 10
    · refine ⟨fun _ => ?_, fun wide => absurd wide (by omega)⟩
      rw [digits_of_lt small]
      simp [absorb]
      omega
    · obtain ⟨fits, wide⟩ := ih (n / 10) (by omega)
      rw [digits_of_le (Nat.not_lt.1 small), absorb_concat]
      constructor
      · intro bound
        rw [fits (by omega), if_pos ⟨rfl, by omega⟩, Nat.div_add_mod]
      · intro bound
        refine if_neg fun all => ?_
        by_cases before : n / 10 < UInt64.size
        · rw [fits before] at all
          omega
        · rw [wide (Nat.not_lt.1 before)] at all
          cases all.1

/-- An integer is written without fraction and exponent. -/
theorem isInteger_iff : l.isInteger = true ↔ l.fraction = [] ∧ l.exponent = none := by
  simp [isInteger]

/-- Beyond 64 bits the last digit of an integer makes no difference. -/
theorem number?_of_wide (integer : l.isInteger = true) (integer' : l'.isInteger = true)
    (sign : l.negative = l'.negative) (wide : UInt64.size ≤ l.whole) (wide' : UInt64.size ≤ l'.whole)
    (same : l.whole / 10 = l'.whole / 10) : l.number? = l'.number? := by
  have size : UInt64.size = 0x10000000000000000 := rfl
  obtain ⟨fraction, exponent⟩ := isInteger_iff.1 integer
  obtain ⟨fraction', exponent'⟩ := isInteger_iff.1 integer'
  have absorbed : absorb 0 (digits l.whole) = absorb 0 (digits l'.whole) := by
    rw [(absorb_digits l.whole).2 wide, (absorb_digits l'.whole).2 wide', same]
  have significand : l.significand = l'.significand := by
    unfold digits at absorbed
    rw [significand, significand, absorbed, fraction, fraction']
  have magnitude : l.magnitude? = l'.magnitude? := by
    rw [magnitude?, magnitude?, significand, exponent, exponent']
  have large (k : Literal) (wide : UInt64.size ≤ k.whole) : ¬k.Fits := by
    cases negative : k.negative with
    | true =>
      rw [fits_of_negative negative]
      omega
    | false =>
      rw [fits_of_unsigned negative]
      omega
  rw [number?_of_not_fits integer (large l wide), number?_of_not_fits integer' (large l' wide'), magnitude, sign]

end ProfileGateway.Json.Literal
