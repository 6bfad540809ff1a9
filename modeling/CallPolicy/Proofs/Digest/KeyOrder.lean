import CallPolicy.CallGraph.Cache
import CallPolicy.Proofs.Digest.Base62
import CallPolicy.Proofs.Text.ByteOrder
import Mathlib.Data.List.Induction
import Mathlib.Data.Nat.Digits.Defs

/-! Keys of one width, in the order of their hashes.

Ten digits to the base 62 are too few for some words and eleven are enough for all, so each word is
written with its own digits and zeros in front. In texts of one length the first difference decides, as it
does in numbers, because the digits come in the order of their codes.
-/

set_option autoImplicit false

namespace CallPolicy.Digest.Base62

/-! ### Digits -/

/-- The digits in the order of what they stand for. -/
def alphabet : List Char :=
  "0123456789ABCDEFGHIJKLMNOPQRSTUVWXYZabcdefghijklmnopqrstuvwxyz".toList

theorem alphabet_eq : alphabet = (List.range 62).map digit := by
  decide

theorem digit_mem_alphabet {n : Nat} (small : n < 62) : digit n ∈ alphabet := by
  rw [alphabet_eq]
  exact List.mem_map_of_mem (List.mem_range.2 small)

/-- A digit stands for its position in the alphabet. -/
theorem digitValue_eq_idxOf {char : Char} (known : char ∈ alphabet) : digitValue char = alphabet.idxOf char := by
  have every : ∀ number : Fin 62, alphabet.idxOf (digit number) = number := by decide
  rw [alphabet_eq] at known
  obtain ⟨n, inRange, rfl⟩ := List.mem_map.1 known
  have small := List.mem_range.1 inRange
  rw [digitValue_digit small, every ⟨n, small⟩]

theorem digit_toNat {n : Nat} (small : n < 62) :
    (digit n).toNat = if n < 10 then 48 + n else if n < 36 then 55 + n else 61 + n := by
  have every : ∀ number : Fin 62, (digit number).toNat =
      if number.val < 10 then 48 + number.val else if number.val < 36 then 55 + number.val else 61 + number.val := by
    decide
  exact every ⟨n, small⟩

theorem digit_lt_digit {first second : Nat} (less : first < second) (small : second < 62) : digit first < digit second := by
  have codes : (digit first).toNat < (digit second).toNat := by
    rw [digit_toNat (by omega), digit_toNat small]
    split_ifs <;> omega
  exact codes

/-- The number that digits stand for is made up of their positions in the alphabet. -/
theorem value_eq_ofDigits {chars : List Char} (known : chars ⊆ alphabet) :
    value chars = Nat.ofDigits 62 (chars.map alphabet.idxOf).reverse := by
  induction chars using List.reverseRecOn with
  | nil => rfl
  | append_singleton chars char ih =>
    obtain ⟨before, last⟩ := List.append_subset.1 known
    rw [value_concat, ih before, digitValue_eq_idxOf (last List.mem_cons_self), List.map_append, List.reverse_append,
      List.map_singleton, List.reverse_singleton, List.singleton_append, Nat.ofDigits_cons, Nat.add_comm]

/-! ### Words of a width -/

theorem digits_length (count n : Nat) : (digits count n).length = count := by
  induction count generalizing n with
  | zero => rfl
  | succ count ih => rw [digits, List.length_append, ih, List.length_singleton]

theorem digits_subset (count n : Nat) : digits count n ⊆ alphabet := by
  induction count generalizing n with
  | zero => exact List.nil_subset _
  | succ count ih =>
    have last : digit (n % 62) ∈ alphabet := digit_mem_alphabet (Nat.mod_lt n (by decide))
    exact List.append_subset.2 ⟨ih _, List.cons_subset.2 ⟨last, List.nil_subset _⟩⟩

theorem quotient_fits {count n : Nat} (fits : n < 62 ^ (count + 1)) : n / 62 < 62 ^ count := by
  rw [Nat.div_lt_iff_lt_mul (by decide), ← Nat.pow_succ]
  exact fits

/-- Where they fit, these are the digits that a number has of its own, taken off one by one, with zeros to
fill up the width. -/
theorem digits_eq_padded {count n : Nat} (fits : n < 62 ^ count) :
    digits count n = (((Nat.digits 62 n).map digit).rightpad count '0').reverse := by
  induction count generalizing n with
  | zero =>
    obtain rfl : n = 0 := by simpa using fits
    rfl
  | succ count ih =>
    rw [digits, ih (quotient_fits fits)]
    rcases Nat.eq_zero_or_pos n with rfl | positive
    · have zero : digit 0 = '0' := rfl
      simp [List.rightpad, zero, ← List.replicate_succ, List.replicate_succ']
    · rw [Nat.digits_def' (by decide) positive]
      simp [List.rightpad]

theorem append_lt_append {first second rest others : List Char} (less : first < second)
    (sameLength : first.length = second.length) : first ++ rest < second ++ others := by
  induction less with
  | nil => cases sameLength
  | rel less => exact .rel less
  | cons _ ih => exact .cons (ih (Nat.succ.inj sameLength))

theorem digits_lt_digits {count first second : Nat} (less : first < second) (fits : second < 62 ^ count) :
    digits count first < digits count second := by
  induction count generalizing first second with
  | zero =>
    rw [Nat.pow_zero] at fits
    omega
  | succ count ih =>
    rw [digits, digits]
    -- The last digits only decide where all digits before them agree.
    have quotients : first / 62 ≤ second / 62 := Nat.div_le_div_right (Nat.le_of_lt less)
    rcases Nat.eq_or_lt_of_le quotients with same | lower
    · have last : digit (first % 62) < digit (second % 62) :=
        digit_lt_digit (by omega) (Nat.mod_lt second (by decide))
      rw [same]
      exact List.append_left_lt (.rel last)
    · exact append_lt_append (ih lower (quotient_fits fits)) (by rw [digits_length, digits_length])

/-! ### Keys -/

theorem word_fits (word : UInt64) : word.toNat < 62 ^ width :=
  Nat.lt_trans word.toNat_lt (by decide)

theorem encode_lt_encode {first second : UInt64} (less : first < second) :
    Text.utf8 (encode first) < Text.utf8 (encode second) := by
  have inOrder := digits_lt_digits (UInt64.lt_iff_toNat_lt.1 less) (word_fits second)
  rw [Text.utf8, Text.utf8, encode, encode, String.toList_ofList, String.toList_ofList]
  exact Text.flatMap_utf8_lt inOrder

theorem encode_lt_iff (first second : UInt64) : Text.utf8 (encode first) < Text.utf8 (encode second) ↔ first < second := by
  constructor
  · intro less
    by_contra notLess
    rcases UInt64.lt_or_eq_of_le (UInt64.not_lt.1 notLess) with greater | same
    · exact List.lt_asymm less (encode_lt_encode greater)
    · rw [same] at less
      exact List.lt_irrefl _ less
  · exact encode_lt_encode

/-- A word is written with eleven digits of the alphabet, its own ones behind zeros. Read by their positions
they give it back, and the bytes of two words are in the order of the words. So keys are the same only
where the hashes are. -/
theorem encode_exact :
    (∀ word other : UInt64,
      (encode word).length = 11 ∧ (encode word).toList ⊆ alphabet ∧
      (encode word).toList = (((Nat.digits 62 word.toNat).map digit).rightpad 11 '0').reverse ∧
      Nat.ofDigits 62 ((encode word).toList.map alphabet.idxOf).reverse = word.toNat ∧
      (Text.utf8 (encode word) < Text.utf8 (encode other) ↔ word < other)) ∧
    ∀ (unit other : SourceUnit) (function otherFunction : String),
      Cache.key unit function = Cache.key other otherFunction ↔
        XxHash64.hash (message unit.language.name function unit.text) =
          XxHash64.hash (message other.language.name otherFunction other.text) := by
  refine ⟨fun word other => ⟨?_, ?_, ?_, ?_, encode_lt_iff word other⟩, ?_⟩
  · rw [encode, String.length_ofList, digits_length, width]
  · rw [encode, String.toList_ofList]
    exact digits_subset _ _
  · rw [encode, String.toList_ofList]
    exact digits_eq_padded (word_fits word)
  · rw [← value_eq_ofDigits, value_encode]
    rw [encode, String.toList_ofList]
    exact digits_subset _ _
  · exact fun unit other function otherFunction => encode_injective.eq_iff

end CallPolicy.Digest.Base62
