import CallPolicy.Json.Reader

/-! Numbers read back.

What is read of a number depends on its characters alone, as long as what follows cannot belong
to it. Integers of 64 bits read back; of a double it is up to its digits whether it does.
-/

set_option autoImplicit false

namespace CallPolicy.Json

/-- A character that can stand in a number. -/
def isNumberChar (c : Char) : Bool :=
  isDigit c || c = '-' || c = '+' || c = '.' || c = 'e' || c = 'E'

/-- No number goes on into this text. -/
def Separated (text : List Char) : Prop :=
  ∀ c ∈ text.head?, isNumberChar c = false

theorem separated_nil : Separated [] := by
  simp [Separated]

theorem separated_cons {c : Char} {text : List Char} (apart : isNumberChar c = false) : Separated (c :: text) := by
  simpa [Separated] using apart

theorem Separated.head_ne {c : Char} {text : List Char} (separated : Separated (c :: text)) {other : Char}
    (member : isNumberChar other = true) : c ≠ other := by
  intro same
  subst same
  have apart := separated c (by simp)
  rw [member] at apart
  cases apart

theorem Separated.no_digits {text : List Char} (separated : Separated text) : text.takeWhile isDigit = [] := by
  cases text with
  | nil => rfl
  | cons c rest =>
    have apart := separated c (by simp)
    simp only [isNumberChar, Bool.or_eq_false_iff] at apart
    rw [List.takeWhile_cons_of_neg (by simp [apart.1.1.1.1.1])]

theorem digits_append (text : List Char) {rest : List Char} (separated : Separated rest) :
    (text ++ rest).takeWhile isDigit = text.takeWhile isDigit := by
  -- The digits end where the text does, or before.
  rw [List.takeWhile_append, separated.no_digits, List.append_nil]
  split
  · next whole => exact ((List.takeWhile_prefix isDigit).eq_of_length whole).symm
  · rfl

theorem after_digits_append (text rest : List Char) :
    (text ++ rest).drop (text.takeWhile isDigit).length = text.drop (text.takeWhile isDigit).length ++ rest :=
  List.drop_append_of_le_length (List.takeWhile_prefix isDigit).length_le

/-! ### What follows a number -/

/-- The sign of an exponent, and what is after it. -/
def exponentSign : List Char → Bool × List Char
  | '+' :: rest => (false, rest)
  | '-' :: rest => (true, rest)
  | rest => (false, rest)

theorem exponentSign_bare {text : List Char} (noPlus : text.head? ≠ some '+') (noMinus : text.head? ≠ some '-') :
    exponentSign text = (false, text) := by
  unfold exponentSign
  split
  · simp at noPlus
  · simp at noMinus
  · rfl

theorem exponentSign_suffix (text : List Char) : (exponentSign text).2 <:+ text := by
  unfold exponentSign
  split
  · exact List.suffix_cons _ _
  · exact List.suffix_cons _ _
  · exact List.suffix_refl _

theorem exponentSign_append (text : List Char) {rest : List Char} (separated : Separated rest) :
    exponentSign (text ++ rest) = ((exponentSign text).1, (exponentSign text).2 ++ rest) := by
  cases text with
  | nil =>
    have noPlus : rest.head? ≠ some '+' := fun same => absurd (separated '+' same) (by decide)
    have noMinus : rest.head? ≠ some '-' := fun same => absurd (separated '-' same) (by decide)
    exact exponentSign_bare noPlus noMinus
  | cons c text =>
    by_cases plus : c = '+'
    · subst plus
      rfl
    by_cases minus : c = '-'
    · subst minus
      rfl
    rw [exponentSign_bare (by simpa using plus) (by simpa using minus),
      exponentSign_bare (by simpa using plus) (by simpa using minus)]

theorem readExponent_mark {c : Char} (mark : c = 'e' ∨ c = 'E') (text : List Char) :
    readExponent (c :: text) =
      if ((exponentSign text).2.takeWhile isDigit).isEmpty then none
      else some (some ((exponentSign text).1, (exponentSign text).2.takeWhile isDigit),
        (exponentSign text).2.drop ((exponentSign text).2.takeWhile isDigit).length) := by
  have marked : (decide (c = 'e') || decide (c = 'E')) = true := by simpa using mark
  simp only [readExponent, marked, if_true]
  rfl

theorem readExponent_unmarked {c : Char} (unmarked : ¬ (c = 'e' ∨ c = 'E')) (text : List Char) :
    readExponent (c :: text) = some (none, c :: text) := by
  have unmarked : (decide (c = 'e') || decide (c = 'E')) = false := by simpa using unmarked
  simp [readExponent, unmarked]

theorem readExponent_separated {rest : List Char} (separated : Separated rest) : readExponent rest = some (none, rest) := by
  cases rest with
  | nil => rfl
  | cons c rest =>
    refine readExponent_unmarked ?_ rest
    rintro (same | same)
    · exact separated.head_ne (by decide) same
    · exact separated.head_ne (by decide) same

theorem readExponent_suffix {text left : List Char} {exponent : Option (Bool × List Char)}
    (read : readExponent text = some (exponent, left)) : left <:+ text := by
  cases text with
  | nil =>
    cases read
    exact List.suffix_refl _
  | cons c text =>
    by_cases mark : c = 'e' ∨ c = 'E'
    · rw [readExponent_mark mark] at read
      split at read
      · cases read
      · cases read
        exact (List.drop_suffix _ _).trans ((exponentSign_suffix text).trans (List.suffix_cons c text))
    · rw [readExponent_unmarked mark] at read
      cases read
      exact List.suffix_refl _

theorem readExponent_append {text left rest : List Char} {exponent : Option (Bool × List Char)}
    (read : readExponent text = some (exponent, left)) (separated : Separated rest) :
    readExponent (text ++ rest) = some (exponent, left ++ rest) := by
  cases text with
  | nil =>
    cases read
    exact readExponent_separated separated
  | cons c text =>
    rw [List.cons_append]
    by_cases mark : c = 'e' ∨ c = 'E'
    · rw [readExponent_mark mark] at read ⊢
      rw [exponentSign_append text separated, digits_append _ separated, after_digits_append]
      split at read
      · cases read
      · next digits =>
        cases read
        rw [if_neg digits]
    · rw [readExponent_unmarked mark] at read ⊢
      cases read
      rfl

/-! ### Numbers -/

/-- What is read after the first digits of a number. -/
def readAfterDigits (negative : Bool) (whole : List Char) : List Char → Option (Document × List Char)
  | '.' :: rest => do
    let places := rest.takeWhile isDigit
    if places.isEmpty then none
    else
      let (exponent, rest) ← readExponent (rest.drop places.length)
      some (.number (decimalValue negative whole (some places) exponent), rest)
  | rest => do
    let (exponent, rest) ← readExponent rest
    match exponent with
    | none => some (.number (integerValue negative whole), rest)
    | some _ => some (.number (decimalValue negative whole none exponent), rest)

theorem readNumber_eq (negative : Bool) (text : List Char) :
    readNumber negative text =
      if (text.takeWhile isDigit).isEmpty ||
          ((text.takeWhile isDigit).head? = some '0' && 1 < (text.takeWhile isDigit).length) then none
      else readAfterDigits negative (text.takeWhile isDigit) (text.drop (text.takeWhile isDigit).length) := by
  unfold readNumber readAfterDigits
  rfl

theorem readAfterDigits_point (negative : Bool) (whole text : List Char) :
    readAfterDigits negative whole ('.' :: text) =
      if (text.takeWhile isDigit).isEmpty then none
      else (readExponent (text.drop (text.takeWhile isDigit).length)).map fun read =>
        (.number (decimalValue negative whole (some (text.takeWhile isDigit)) read.1), read.2) := by
  simp only [readAfterDigits]
  split
  · rfl
  · cases readExponent (text.drop (text.takeWhile isDigit).length) <;> rfl

theorem readAfterDigits_bare (negative : Bool) (whole : List Char) {text : List Char} (noPoint : text.head? ≠ some '.') :
    readAfterDigits negative whole text = (readExponent text).map fun read =>
      (.number (if read.1.isNone then integerValue negative whole else decimalValue negative whole none read.1), read.2) := by
  unfold readAfterDigits
  split
  · simp at noPoint
  · rcases readExponent text with _ | ⟨_ | _, _⟩ <;> rfl

theorem readAfterDigits_suffix {negative : Bool} {whole text left : List Char} {document : Document}
    (read : readAfterDigits negative whole text = some (document, left)) : left <:+ text := by
  by_cases point : text.head? = some '.'
  · obtain ⟨text, rfl⟩ := List.head?_eq_some_iff.1 point
    rw [readAfterDigits_point] at read
    split at read
    · cases read
    · obtain ⟨⟨exponent, left⟩, inner, same⟩ := Option.map_eq_some_iff.1 read
      cases same
      exact (readExponent_suffix inner).trans ((List.drop_suffix _ _).trans (List.suffix_cons _ _))
  · rw [readAfterDigits_bare _ _ point] at read
    obtain ⟨⟨exponent, left⟩, inner, same⟩ := Option.map_eq_some_iff.1 read
    cases same
    exact readExponent_suffix inner

theorem readAfterDigits_append {negative : Bool} {whole text left rest : List Char} {document : Document}
    (read : readAfterDigits negative whole text = some (document, left)) (separated : Separated rest) :
    readAfterDigits negative whole (text ++ rest) = some (document, left ++ rest) := by
  by_cases point : text.head? = some '.'
  · obtain ⟨text, rfl⟩ := List.head?_eq_some_iff.1 point
    rw [List.cons_append]
    rw [readAfterDigits_point] at read ⊢
    rw [digits_append text separated, after_digits_append]
    split at read
    · cases read
    · next digits =>
      obtain ⟨⟨exponent, left⟩, inner, same⟩ := Option.map_eq_some_iff.1 read
      cases same
      rw [if_neg digits, readExponent_append inner separated]
      rfl
  · rw [readAfterDigits_bare _ _ point] at read
    obtain ⟨⟨exponent, left⟩, inner, same⟩ := Option.map_eq_some_iff.1 read
    cases same
    -- The point could come from what follows only if nothing of the number were left.
    have noPoint : (text ++ rest).head? ≠ some '.' := by
      cases text with
      | nil => exact fun same => absurd (separated '.' same) (by decide)
      | cons c text => exact point
    rw [readAfterDigits_bare _ _ noPoint, readExponent_append inner separated]
    rfl

theorem readNumber_suffix {negative : Bool} {text left : List Char} {document : Document}
    (read : readNumber negative text = some (document, left)) : left <:+ text := by
  rw [readNumber_eq] at read
  split at read
  · cases read
  · exact (readAfterDigits_suffix read).trans (List.drop_suffix _ _)

/-- A number is read the same whatever text follows it. -/
theorem readNumber_append {negative : Bool} {text left rest : List Char} {document : Document}
    (read : readNumber negative text = some (document, left)) (separated : Separated rest) :
    readNumber negative (text ++ rest) = some (document, left ++ rest) := by
  rw [readNumber_eq] at read ⊢
  rw [digits_append text separated, after_digits_append]
  split at read
  · cases read
  · next digits =>
    rw [if_neg digits]
    exact readAfterDigits_append read separated

/-! ### Integers -/

theorem toDigits_all_digits (n : Nat) : ∀ c ∈ Nat.toDigits 10 n, isDigit c = true :=
  fun _ member => Nat.isDigit_of_mem_toDigits (by decide) (by decide) member

theorem toDigits_head {n : Nat} (positive : 0 < n) : (Nat.toDigits 10 n).head? ≠ some '0' := by
  -- By induction on the digits: one more at the end leaves the first one where it is.
  induction n using Nat.base_induction 10 (by decide) with
  | single n small =>
    rw [Nat.toDigits_of_lt_base small]
    decide +revert
  | digit n last small whole ih =>
    rw [← Nat.toDigits_append_toDigits (by decide) whole small, List.head?_append,
      Option.or_of_isSome (List.isSome_head?.2 Nat.toDigits_ne_nil)]
    exact ih whole

theorem toDigits_value (n : Nat) : (Nat.toDigits 10 n).foldl (fun n c => n * 10 + digitValue c) 0 = n := by
  have value := Nat.ofDigitChars_ten_toDigits (n := n)
  rw [Nat.ofDigitChars_eq_foldl] at value
  simp only [Nat.mul_comm 10] at value
  exact value

/-- No digit is out of place at the front. -/
theorem toDigits_plain (n : Nat) :
    ((Nat.toDigits 10 n).isEmpty || ((Nat.toDigits 10 n).head? = some '0' && 1 < (Nat.toDigits 10 n).length)) = false := by
  have whole : (Nat.toDigits 10 n).isEmpty = false := by simp
  rcases Nat.eq_zero_or_pos n with zero | positive
  · subst zero
    rfl
  · simp [whole, toDigits_head positive]

theorem readNumber_toDigits (negative : Bool) (n : Nat) {rest : List Char} (separated : Separated rest) :
    readNumber negative (Nat.toDigits 10 n ++ rest) = some (.number (integerValue negative (Nat.toDigits 10 n)), rest) := by
  have digits : (Nat.toDigits 10 n ++ rest).takeWhile isDigit = Nat.toDigits 10 n := by
    rw [List.takeWhile_append_of_pos (toDigits_all_digits n), separated.no_digits, List.append_nil]
  have noPoint : rest.head? ≠ some '.' := fun same => absurd (separated '.' same) (by decide)
  rw [readNumber_eq, digits, toDigits_plain, if_neg Bool.false_ne_true, List.drop_left, readAfterDigits_bare _ _ noPoint,
    readExponent_separated separated]
  rfl

theorem integerValue_toDigits {n : Nat} (bound : n ≤ greatestWord) :
    integerValue false (Nat.toDigits 10 n) = some (.integer n) := by
  simp only [integerValue, toDigits_value, if_neg (Nat.not_lt.2 bound), Bool.false_eq_true, if_false]

theorem integerValue_neg_toDigits {n : Nat} (positive : 0 < n) (bound : n ≤ negativeLimit) :
    integerValue true (Nat.toDigits 10 n) = some (.integer (-n)) := by
  have word : ¬ greatestWord < n := by
    unfold greatestWord negativeLimit at *
    omega
  have limits : (decide (n = 0) || decide (negativeLimit < n)) = false := by
    simp
    omega
  simp only [integerValue, toDigits_value, if_neg word, if_true, limits, Bool.false_eq_true, if_false]

/-! ### Doubles -/

theorem isNumberChar_of_digit {c : Char} (digit : isDigit c = true) : isNumberChar c = true := by
  simp [isNumberChar, digit]

theorem significantDigits_digits (decimal : Decimal) : ∀ c ∈ decimal.significantDigits, isDigit c = true := by
  intro c member
  have kept : c ∈ decimal.digits := by
    have inside := (List.dropWhile_suffix _).subset (List.mem_reverse.1 member)
    exact List.mem_reverse.1 inside
  exact toDigits_all_digits _ c kept

theorem positional_digits {digits : List Char} (power : Int) (all : ∀ c ∈ digits, isDigit c = true) :
    (∀ c ∈ (Binary64.positional digits power).1, isDigit c = true) ∧
      ∀ c ∈ (Binary64.positional digits power).2, isDigit c = true := by
  have zero : isDigit '0' = true := by decide
  cases power with
  | ofNat power =>
    constructor
    · intro c member
      rcases List.mem_append.1 member with member | member
      · exact all c (List.mem_of_mem_take member)
      · exact (List.eq_of_mem_replicate member) ▸ zero
    · intro c member
      exact all c (List.mem_of_mem_drop member)
  | negSucc power =>
    constructor
    · intro c member
      exact (List.mem_singleton.1 member) ▸ zero
    · intro c member
      rcases List.mem_append.1 member with member | member
      · exact (List.eq_of_mem_replicate member) ▸ zero
      · exact all c member

theorem powerText_numberChars (power : Int) : ∀ c ∈ Binary64.powerText power, isNumberChar c = true := by
  intro c member
  simp only [Binary64.powerText, List.mem_cons] at member
  rcases member with mark | sign | digit
  · exact mark ▸ by decide
  · subst sign
    split <;> decide
  · exact isNumberChar_of_digit (toDigits_all_digits _ c digit)

theorem signText_numberChars (x : Binary64) : ∀ c ∈ x.signText, isNumberChar c = true := by
  unfold Binary64.signText
  split
  · exact List.forall_mem_singleton.2 (by decide)
  · exact List.forall_mem_nil _

/-- The text of a double is made of what can stand in a number. -/
theorem jsonText_numberChars (x : Binary64) : ∀ c ∈ x.jsonText, isNumberChar c = true := by
  have sign := signText_numberChars x
  have point : isNumberChar '.' = true := by decide
  unfold Binary64.jsonText
  split
  · have zero : "0.0".toList.all isNumberChar = true := by decide
    exact List.forall_mem_append.2 ⟨sign, List.all_eq_true.1 zero⟩
  · have digits := significantDigits_digits x.shortest
    dsimp only
    split
    · obtain ⟨whole, places⟩ := positional_digits x.shortest.power digits
      have front := List.forall_mem_append.2 ⟨sign, fun c member => isNumberChar_of_digit (whole c member)⟩
      refine List.forall_mem_append.2 ⟨front, List.forall_mem_cons.2 ⟨point, ?_⟩⟩
      split
      · exact List.forall_mem_singleton.2 (by decide)
      · exact fun c member => isNumberChar_of_digit (places c member)
    · have power := powerText_numberChars x.shortest.power
      have numbers : ∀ c ∈ x.shortest.significantDigits, isNumberChar c = true :=
        fun c member => isNumberChar_of_digit (digits c member)
      split
      · next digit same =>
        rw [same] at numbers
        exact List.forall_mem_append.2 ⟨sign, List.forall_mem_cons.2 ⟨numbers _ List.mem_cons_self, power⟩⟩
      · next digit places _ same =>
        rw [same] at numbers
        obtain ⟨first, others⟩ := List.forall_mem_cons.1 numbers
        have middle : ∀ c ∈ digit :: '.' :: places, isNumberChar c = true :=
          List.forall_mem_cons.2 ⟨first, List.forall_mem_cons.2 ⟨point, others⟩⟩
        exact List.forall_mem_append.2 ⟨List.forall_mem_append.2 ⟨sign, middle⟩, power⟩
      · exact List.forall_mem_append.2 ⟨sign, List.forall_mem_cons.2 ⟨by decide, power⟩⟩

end CallPolicy.Json
