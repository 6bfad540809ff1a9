import CallPolicy.Text.Utf8
import Mathlib.Data.List.Basic
import Mathlib.Tactic.SplitIfs

/-! Texts in the order of their bytes.

A character that comes later has the greater bytes, whatever follows, so the order of texts by
characters is their order by bytes.
-/

set_option autoImplicit false

namespace CallPolicy.Text

theorem utf8EncodeChar_lt {first second : Char} (less : first < second) (rest others : List UInt8) :
    String.utf8EncodeChar first ++ rest < String.utf8EncodeChar second ++ others := by
  have less : first.val.toNat < second.val.toNat := less
  have bound : second.val.toNat < 0x110000 := by
    rcases second.valid with small | large
    · exact Nat.lt_trans small (by omega)
    · exact large.2
  unfold String.utf8EncodeChar
  generalize first.val.toNat = code at less ⊢
  generalize second.val.toNat = greater at less bound ⊢
  -- Of two lengths the greater one has the greater first byte; within one length the digits decide.
  dsimp only
  split_ifs
  all_goals simp only [List.cons_append, List.nil_append, List.cons_lt_cons_iff, UInt8.lt_iff_toNat_lt,
    ← UInt8.toNat_inj, UInt8.toNat_ofNat']
  all_goals simp (disch := omega) only [Nat.mod_eq_of_lt]
  all_goals omega

theorem flatMap_utf8_lt {first second : List Char} (less : first < second) :
    first.flatMap String.utf8EncodeChar < second.flatMap String.utf8EncodeChar := by
  induction less with
  | @nil head rest =>
    rw [List.flatMap_nil, List.flatMap_cons]
    cases encoded : String.utf8EncodeChar head with
    | nil => exact absurd encoded String.utf8EncodeChar_ne_nil
    | cons byte bytes => exact List.nil_lt_cons byte _
  | rel less =>
    rw [List.flatMap_cons, List.flatMap_cons]
    exact utf8EncodeChar_lt less _ _
  | cons _ ih =>
    rw [List.flatMap_cons, List.flatMap_cons]
    exact List.append_left_lt ih

/-- The order of texts is that of their bytes. -/
theorem utf8_lt_iff (first second : String) : utf8 first < utf8 second ↔ first < second := by
  constructor
  · intro less
    by_contra notLess
    by_cases greater : second < first
    · exact List.lt_asymm less (flatMap_utf8_lt greater)
    · have same : first = second := String.le_antisymm greater notLess
      rw [same] at less
      exact List.lt_irrefl _ less
  · exact flatMap_utf8_lt

theorem utf8_injective : Function.Injective utf8 := by
  intro first second same
  refine String.le_antisymm ?_ ?_
  · intro less
    exact List.lt_irrefl _ (same ▸ (utf8_lt_iff second first).2 less)
  · intro less
    exact List.lt_irrefl _ (same ▸ (utf8_lt_iff first second).2 less)

end CallPolicy.Text
