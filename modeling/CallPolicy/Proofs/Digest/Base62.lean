import CallPolicy.Digest.Base62
import Mathlib.Algebra.GroupWithZero.Nat

/-! Words are read back from their digits to the base 62, so different words are written differently. -/

set_option autoImplicit false

namespace CallPolicy.Digest.Base62

/-- The number that a digit stands for. -/
def digitValue (char : Char) : Nat :=
  if char.toNat < 58 then char.toNat - 48
  else if char.toNat < 91 then char.toNat - 55
  else char.toNat - 61

theorem digitValue_digit {n : Nat} (small : n < 62) : digitValue (digit n) = n := by
  have every : ∀ number : Fin 62, digitValue (digit number) = number := by decide
  exact every ⟨n, small⟩

/-- The number that digits stand for, the most significant one first. -/
def value (chars : List Char) : Nat :=
  chars.foldl (fun number char => 62 * number + digitValue char) 0

theorem value_concat (chars : List Char) (char : Char) :
    value (chars ++ [char]) = 62 * value chars + digitValue char := by
  simp only [value, List.foldl_append, List.foldl_cons, List.foldl_nil]

/-- So many digits hold a number up to that power of the base. -/
theorem value_digits (count n : Nat) : value (digits count n) = n % 62 ^ count := by
  induction count generalizing n with
  | zero => simp [digits, value, Nat.mod_one]
  | succ count ih =>
    have last : digitValue (digit (n % 62)) = n % 62 := digitValue_digit (Nat.mod_lt n (by decide))
    calc value (digits (count + 1) n)
        = 62 * (n / 62 % 62 ^ count) + n % 62 := by rw [digits, value_concat, ih, last]
      _ = n % 62 ^ (count + 1) := by rw [Nat.pow_succ', Nat.mod_mul, Nat.add_comm]

theorem value_encode (word : UInt64) : value (encode word).toList = word.toNat := by
  have fits : word.toNat < 62 ^ width := Nat.lt_trans word.toNat_lt (by decide)
  rw [encode, String.toList_ofList, value_digits, Nat.mod_eq_of_lt fits]

theorem encode_injective : Function.Injective encode := by
  intro first second same
  apply UInt64.toNat_inj.1
  rw [← value_encode first, ← value_encode second, same]

end CallPolicy.Digest.Base62
