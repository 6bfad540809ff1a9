import CallPolicy.Json.Reader

/-! Strings read back.

Every character is read as itself from its escape, whatever has been read before it.
-/

set_option autoImplicit false

namespace CallPolicy.Json

theorem hexDigit_control : ∀ n < 32, hexUnit? '0' '0' (hexDigit (n / 16)) (hexDigit (n % 16)) = some n := by
  decide

theorem readString_unescaped (read : List Char) (whole : Bool) {c code : Char} (rest : List Char)
    (escaped : unescaped? code = some c) (short : code ≠ 'u') :
    readString read whole none ('\\' :: code :: rest) = readString (c :: read) whole none rest := by
  rw [readString]
  · simp [escaped]
  · intro a b c d rest same
    exact absurd same short

theorem readString_control (read : List Char) (whole : Bool) {c : Char} (rest : List Char) (control : c.toNat < 32) :
    readString read whole none
      ('\\' :: 'u' :: '0' :: '0' :: hexDigit (c.toNat / 16) :: hexDigit (c.toNat % 16) :: rest) =
        readString (c :: read) whole none rest := by
  -- Control characters lie below the surrogates, so four digits are the whole character.
  have notHigh : isHighHalf c.toNat = false := by
    simp [isHighHalf]
    omega
  have notLow : isLowHalf c.toNat = false := by
    simp [isLowHalf]
    omega
  simp [readString, hexDigit_control c.toNat control, notHigh, notLow]

theorem readString_plain (read : List Char) (whole : Bool) {c : Char} (rest : List Char) (printable : ¬ c.toNat < 32)
    (noQuote : c ≠ '"') (noEscape : c ≠ '\\') :
    readString read whole none (c :: rest) = readString (c :: read) whole none rest := by
  rw [readString]
  · simp [printable]
  · exact noQuote
  · intro a b c d rest same
    exact absurd same noEscape
  · intro code rest same
    exact absurd same noEscape

theorem readString_escape (read : List Char) (whole : Bool) (c : Char) (rest : List Char) :
    readString read whole none (escape c ++ rest) = readString (c :: read) whole none rest := by
  unfold escape
  by_cases quote : c = '"'
  · subst quote
    exact readString_unescaped read whole rest rfl (by decide)
  by_cases backslash : c = '\\'
  · subst backslash
    exact readString_unescaped read whole rest rfl (by decide)
  by_cases newline : c = '\n'
  · subst newline
    exact readString_unescaped read whole rest rfl (by decide)
  by_cases back : c = '\r'
  · subst back
    exact readString_unescaped read whole rest rfl (by decide)
  by_cases tab : c = '\t'
  · subst tab
    exact readString_unescaped read whole rest rfl (by decide)
  by_cases erase : c = '\x08'
  · subst erase
    exact readString_unescaped read whole rest rfl (by decide)
  by_cases feed : c = '\x0c'
  · subst feed
    exact readString_unescaped read whole rest rfl (by decide)
  -- No short escape is left.
  rw [if_neg quote, if_neg backslash, if_neg newline, if_neg back, if_neg tab, if_neg erase, if_neg feed]
  by_cases control : c.toNat < 32
  · rw [if_pos control]
    exact readString_control read whole rest control
  · rw [if_neg control]
    exact readString_plain read whole rest control quote backslash

theorem readString_escapes (read characters rest : List Char) :
    readString read true none (characters.flatMap escape ++ '"' :: rest) =
      some (some (String.ofList (read.reverse ++ characters)), rest) := by
  induction characters generalizing read with
  | nil => simp [readString]
  | cons c characters ih =>
    rw [List.flatMap_cons, List.append_assoc, readString_escape, ih, List.reverse_cons, List.append_assoc]
    rfl

/-- A quoted text is read after its opening quote. -/
theorem readString_quoted (text : String) (rest : List Char) :
    readString [] true none (text.toList.flatMap escape ++ '"' :: rest) = some (some text, rest) := by
  rw [readString_escapes, List.reverse_nil, List.nil_append, String.ofList_toList]

theorem quoted_append (text : String) (rest : List Char) :
    quoted text ++ rest = '"' :: (text.toList.flatMap escape ++ '"' :: rest) := by
  simp [quoted]

end CallPolicy.Json
