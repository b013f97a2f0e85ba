import Mathlib.Data.List.TakeWhile
import ProfileGateway.Base64
/-!
# Base64, written and read

What a scheme writes it reads back (`Scheme.decode?_encode`). A text that several schemes accept means the same
bytes in all of them (`Scheme.decode?_agree`): the alphabets differ only in letters that the other one refuses, and
padding is no letter of either.
-/
namespace ProfileGateway.Base64

/-! ## Letters -/

namespace Alphabet

/-- A letter has the value that it was written for. -/
theorem value?_letter (a : Alphabet) {v : Nat} (small : v < 64) : a.value? (a.letter v) = some v := by
  have all : ∀ a : Alphabet, ∀ v < 64, a.value? (a.letter v) = some v := by
    intro a
    cases a <;> decide
  exact all a v small

/-- Padding is no letter. -/
theorem value?_padding (a : Alphabet) : a.value? '=' = none := by cases a <;> decide

/-- Padding is no letter. -/
theorem ne_padding {a : Alphabet} {c : Char} {v : Nat} (h : a.value? c = some v) : c ≠ '=' := by
  rintro rfl
  rw [value?_padding] at h
  cases h

/-- A character that is a letter of both alphabets has one value. -/
theorem value?_agree {a a' : Alphabet} {c : Char} {v v' : Nat} (h : a.value? c = some v) (h' : a'.value? c = some v') :
    v = v' := by
  unfold value? at h h'
  by_cases upper : 'A' ≤ c ∧ c ≤ 'Z'
  · rw [if_pos upper] at h h'
    exact Option.some.inj (h.symm.trans h')
  by_cases lower : 'a' ≤ c ∧ c ≤ 'z'
  · rw [if_neg upper, if_pos lower] at h h'
    exact Option.some.inj (h.symm.trans h')
  by_cases digit : c.isDigit = true
  · rw [if_neg upper, if_neg lower, if_pos digit] at h h'
    exact Option.some.inj (h.symm.trans h')
  rw [if_neg upper, if_neg lower, if_neg digit] at h h'
  -- What is left are the last two letters, which the alphabets do not share.
  cases a <;> cases a' <;> simp only [lastTwo] at h h' <;> grind

end Alphabet

/-! ## Groups -/

/-- Sextets are of six bits. -/
theorem sextets_lt (bs : List UInt8) : ∀ v ∈ sextets bs, v < 64 := by
  induction bs using sextets.induct with
  | case1 => simp [sextets]
  | case2 a =>
    have := a.toNat_lt
    simp only [sextets, List.mem_cons, List.not_mem_nil, or_false, forall_eq_or_imp, forall_eq]
    omega
  | case3 a b =>
    have := a.toNat_lt
    have := b.toNat_lt
    simp only [sextets, List.mem_cons, List.not_mem_nil, or_false, forall_eq_or_imp, forall_eq]
    omega
  | case4 a b c rest ih =>
    have := a.toNat_lt
    have := b.toNat_lt
    have := c.toNat_lt
    simp only [sextets, List.cons_append, List.nil_append, List.mem_cons, forall_eq_or_imp]
    exact ⟨by omega, by omega, by omega, by omega, ih⟩

/-- The byte of a number, if that is the number of a byte. -/
theorem ofNat_eq {a : UInt8} {n : Nat} (h : n = a.toNat) : UInt8.ofNat n = a := by
  rw [h, UInt8.ofNat_toNat]

/-- Bytes come back from their sextets. -/
theorem bytes?_sextets (bs : List UInt8) : bytes? (sextets bs) = some bs := by
  induction bs using sextets.induct with
  | case1 => rfl
  | case2 a =>
    have unused : a.toNat % 4 * 16 % 16 = 0 := by omega
    have first := ofNat_eq (a := a) (n := a.toNat / 4 * 4 + a.toNat % 4 * 16 / 16) (by omega)
    simp only [sextets, bytes?, unused, first, if_true]
  | case3 a b =>
    have := b.toNat_lt
    have unused : b.toNat % 16 * 4 % 4 = 0 := by omega
    have first := ofNat_eq (a := a) (n := a.toNat / 4 * 4 + (a.toNat % 4 * 16 + b.toNat / 16) / 16) (by omega)
    have second := ofNat_eq (a := b)
      (n := (a.toNat % 4 * 16 + b.toNat / 16) % 16 * 16 + b.toNat % 16 * 4 / 4) (by omega)
    simp only [sextets, bytes?, unused, first, second, if_true]
  | case4 a b c rest ih =>
    have := b.toNat_lt
    have := c.toNat_lt
    have first := ofNat_eq (a := a) (n := a.toNat / 4 * 4 + (a.toNat % 4 * 16 + b.toNat / 16) / 16) (by omega)
    have second := ofNat_eq (a := b)
      (n := (a.toNat % 4 * 16 + b.toNat / 16) % 16 * 16 + (b.toNat % 16 * 4 + c.toNat / 64) / 4) (by omega)
    have third := ofNat_eq (a := c) (n := (b.toNat % 16 * 4 + c.toNat / 64) % 4 * 64 + c.toNat % 64) (by omega)
    simp only [sextets, List.cons_append, List.nil_append, bytes?, ih, Option.map_some, first, second, third]

/-! ## Letters in a row -/

/-- Sextets come back from their letters. -/
theorem mapM_value?_letter (a : Alphabet) {vs : List Nat} (small : ∀ v ∈ vs, v < 64) :
    (vs.map a.letter).mapM a.value? = some vs := by
  induction vs with
  | nil => rfl
  | cons v vs ih =>
    obtain ⟨first, rest⟩ := List.forall_mem_cons.1 small
    rw [List.map_cons, List.mapM_cons, a.value?_letter first, ih rest]
    rfl

/-- A text of letters in both alphabets has one sequence of values, and no padding. -/
theorem mapM_value?_agree {a a' : Alphabet} {cs : List Char} {vs vs' : List Nat} (h : cs.mapM a.value? = some vs)
    (h' : cs.mapM a'.value? = some vs') : vs = vs' := by
  induction cs generalizing vs vs' with
  | nil => simp_all
  | cons c cs ih =>
    simp only [List.mapM_cons, Option.bind_eq_bind, Option.bind_eq_some_iff, Option.pure_def, Option.some.injEq] at h h'
    obtain ⟨v, first, ws, rest, rfl⟩ := h
    obtain ⟨v', first', ws', rest', rfl⟩ := h'
    rw [Alphabet.value?_agree first first', ih rest rest']

theorem ne_padding_of_mapM {a : Alphabet} {cs : List Char} {vs : List Nat} (h : cs.mapM a.value? = some vs) :
    ∀ c ∈ cs, c ≠ '=' := by
  induction cs generalizing vs with
  | nil => simp
  | cons c cs ih =>
    simp only [List.mapM_cons, Option.bind_eq_bind, Option.bind_eq_some_iff] at h
    obtain ⟨v, first, ws, rest, -⟩ := h
    exact List.forall_mem_cons.2 ⟨Alphabet.ne_padding first, ih rest⟩

/-! ## Schemes -/

namespace Scheme

/-- Where the padding begins. -/
theorem takeWhile_padding {body : List Char} (letters : ∀ c ∈ body, c ≠ '=') (n : Nat) :
    (body ++ padding n).takeWhile (· ≠ '=') = body := by
  have none : (padding n).takeWhile (· ≠ '=') = [] := by
    unfold padding
    split <;> rfl
  rw [List.takeWhile_append_of_pos (by simpa using letters), none, List.append_nil]

/-- What a scheme writes it reads back. -/
theorem decode?_encode (s : Scheme) (bs : List UInt8) : s.decode? (s.encode bs) = some bs := by
  have values := mapM_value?_letter s.alphabet (sextets_lt bs)
  have body : s.unpad? (s.encode bs) = some ((sextets bs).map s.alphabet.letter) := by
    unfold unpad? encode
    cases s.padded with
    | false => rfl
    | true => simp only [if_true, takeWhile_padding (ne_padding_of_mapM values)]
  rw [decode?, body, Option.bind_some, values, Option.bind_some, bytes?_sextets]

/-- The letters of a text that is accepted are those before its padding, whatever the scheme. -/
theorem letters_of_decode? {s : Scheme} {cs : List Char} {bs : List UInt8} (h : s.decode? cs = some bs) :
    ∃ vs, (cs.takeWhile (· ≠ '=')).mapM s.alphabet.value? = some vs ∧ bytes? vs = some bs := by
  obtain ⟨body, unpadded, rest⟩ := Option.bind_eq_some_iff.1 h
  obtain ⟨vs, values, bytes⟩ := Option.bind_eq_some_iff.1 rest
  have same : cs.takeWhile (· ≠ '=') = body := by
    unfold unpad? at unpadded
    split at unpadded
    · dsimp only at unpadded
      split at unpadded
      · exact Option.some.inj unpadded
      · cases unpadded
    · cases unpadded
      exact List.takeWhile_eq_self_iff.2 (by simpa using ne_padding_of_mapM values)
  rw [same]
  exact ⟨vs, values, bytes⟩

/-- **A text that two schemes accept** means the same bytes in both. -/
theorem decode?_agree {s s' : Scheme} {cs : List Char} {bs bs' : List UInt8} (h : s.decode? cs = some bs)
    (h' : s'.decode? cs = some bs') : bs = bs' := by
  obtain ⟨vs, values, bytes⟩ := letters_of_decode? h
  obtain ⟨vs', values', bytes'⟩ := letters_of_decode? h'
  cases mapM_value?_agree values values'
  exact Option.some.inj (bytes.symm.trans bytes')

end Scheme
end ProfileGateway.Base64
