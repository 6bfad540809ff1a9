import CallPolicy.Proofs.Json.Numbers
import CallPolicy.Proofs.Json.Strings

/-! Values read back from their text.

The text of a value is read to a document, whatever follows it. The document becomes the value
again wherever it may nest as deep as the value does, and becomes nothing elsewhere.
-/

set_option autoImplicit false

namespace CallPolicy

open Json (Value)

/-- Written as JSON and read again, the number is the same. -/
def Binary64.ReadsBack (x : Binary64) : Prop :=
  Value.ofText (Value.float x).compactText = some (.float x)

namespace Json

namespace Value

/-- A value that JSON can carry: its integers have 64 bits, its other numbers read back, and its
objects have each key once, in order. -/
inductive Portable : Value → Prop where
  | null : Portable .null
  | bool (value : Bool) : Portable (.bool value)
  | integer {value : Int} (low : -(negativeLimit : Int) ≤ value) (high : value ≤ (greatestWord : Int)) :
      Portable (.integer value)
  | float {value : Binary64} (readsBack : value.ReadsBack) : Portable (.float value)
  | string (value : String) : Portable (.string value)
  | list {items : List Value} (all : ∀ item ∈ items, Portable item) : Portable (.list items)
  | object {members : List (String × Value)} (ordered : Keyed.Ordered members)
      (all : ∀ entry ∈ members, Portable entry.2) : Portable (.object members)

/-- A value that has a text. Its members may come in any order, as fields of a record do. -/
inductive Writable : Value → Prop where
  | null : Writable .null
  | bool (value : Bool) : Writable (.bool value)
  | integer {value : Int} (low : -(negativeLimit : Int) ≤ value) (high : value ≤ (greatestWord : Int)) :
      Writable (.integer value)
  | float {value : Binary64} (readsBack : value.ReadsBack) : Writable (.float value)
  | string (value : String) : Writable (.string value)
  | list {items : List Value} (all : ∀ item ∈ items, Writable item) : Writable (.list items)
  | object {members : List (String × Value)} (all : ∀ entry ∈ members, Writable entry.2) : Writable (.object members)

theorem Portable.writable {value : Value} (portable : value.Portable) : value.Writable := by
  induction portable with
  | null => exact .null
  | bool value => exact .bool value
  | integer low high => exact .integer low high
  | float readsBack => exact .float readsBack
  | string text => exact .string text
  | list all ih => exact .list ih
  | object ordered all ih => exact .object ih

mutual

/-- The document that a value is written as. -/
def document : Value → Document
  | .null => .null
  | .bool value => .bool value
  | .integer value => .number (some (.integer value))
  | .float value => .number (some (.float value))
  | .string value => .string (some value)
  | .list items => .list (documents items)
  | .object members => .object (memberDocuments members)

def documents : List Value → List Document
  | [] => []
  | value :: rest => value.document :: documents rest

def memberDocuments : List (String × Value) → List (Option String × Document)
  | [] => []
  | (key, value) :: rest => (some key, value.document) :: memberDocuments rest

end

end Value

theorem skipBlanks_cons {c : Char} (rest : List Char) (front : isBlank c = false) : skipBlanks (c :: rest) = c :: rest :=
  List.dropWhile_cons_of_neg (by simp [front])

theorem isBlank_of_numberChar {c : Char} (number : isNumberChar c = true) : isBlank c = false := by
  rw [← Bool.not_eq_true]
  intro blank
  simp only [isBlank, Bool.or_eq_true, decide_eq_true_eq] at blank
  rcases blank with ((same | same) | same) | same <;> subst same <;> cases number

/-! ### Scalars -/

theorem readDocument_minus (fuel : Nat) (text : List Char) :
    readDocument (fuel + 1) ('-' :: text) = readNumber true text :=
  rfl

theorem readDocument_number (fuel : Nat) {c : Char} (text : List Char) (number : isNumberChar c = true) (unsigned : c ≠ '-') :
    readDocument (fuel + 1) (c :: text) = readNumber false (c :: text) := by
  rw [readDocument, skipBlanks_cons text (isBlank_of_numberChar number)]
  split
  -- Every other pattern begins with a character that no number has.
  all_goals first | rfl | (next same => cases same; first | exact absurd rfl unsigned | cases number)

theorem readDocument_quote (fuel : Nat) (text : List Char) :
    readDocument (fuel + 1) ('"' :: text) =
      (readString [] true none text).map fun read => (.string read.1, read.2) :=
  rfl

theorem readDocument_quoted (fuel : Nat) (text : String) (rest : List Char) :
    readDocument (fuel + 1) (quoted text ++ rest) = some (.string (some text), rest) := by
  rw [quoted_append, readDocument_quote, readString_quoted]
  rfl

theorem readDocument_integer (fuel : Nat) {value : Int} {rest : List Char} (low : -(negativeLimit : Int) ≤ value)
    (high : value ≤ (greatestWord : Int)) (separated : Separated rest) :
    readDocument (fuel + 1) (integerText value ++ rest) = some (.number (some (.integer value)), rest) := by
  unfold integerText
  split
  · next negative =>
    have magnitude : -(value.natAbs : Int) = value := by omega
    rw [List.cons_append, readDocument_minus, readNumber_toDigits _ _ separated,
      integerValue_neg_toDigits (by omega) (by omega), magnitude]
  · next positive =>
    have magnitude : (value.natAbs : Int) = value := by omega
    obtain ⟨c, digits, front⟩ := List.exists_cons_of_ne_nil (Nat.toDigits_ne_nil (n := value.natAbs) (b := 10))
    have digit : isDigit c = true := toDigits_all_digits value.natAbs c (front ▸ List.mem_cons_self)
    have unsigned : c ≠ '-' := by
      intro same
      subst same
      cases digit
    have read := readNumber_toDigits false value.natAbs separated
    rw [integerValue_toDigits (by omega), magnitude, front] at read
    rw [front, List.cons_append, readDocument_number fuel _ (isNumberChar_of_digit digit) unsigned]
    exact read

/-- Reading a text of number characters does not depend on what follows it. -/
theorem readDocument_append_of_numberChars {text left rest : List Char} {document : Document} {fuel : Nat}
    (numbers : ∀ c ∈ text, isNumberChar c = true) (read : readDocument fuel text = some (document, left))
    (separated : Separated rest) (other : Nat) :
    left <:+ text ∧ readDocument (other + 1) (text ++ rest) = some (document, left ++ rest) := by
  cases fuel with
  | zero => cases read
  | succ fuel =>
    cases text with
    | nil => cases read
    | cons c text =>
      have number := numbers c List.mem_cons_self
      by_cases minus : c = '-'
      · subst minus
        rw [readDocument_minus] at read
        refine ⟨(readNumber_suffix read).trans (List.suffix_cons _ _), ?_⟩
        rw [List.cons_append, readDocument_minus]
        exact readNumber_append read separated
      · rw [readDocument_number fuel text number minus] at read
        refine ⟨readNumber_suffix read, ?_⟩
        rw [List.cons_append, readDocument_number other _ number minus]
        exact readNumber_append read separated

theorem value?_eq_float {document : Document} {depth : Nat} {x : Binary64}
    (same : document.value? depth = some (.float x)) : document = .number (some (.float x)) := by
  unfold Document.value? at same
  split at same <;> simp_all

/-- A double that reads back does so in front of any text. -/
theorem readDocument_float (fuel : Nat) {x : Binary64} {rest : List Char} (readsBack : x.ReadsBack)
    (separated : Separated rest) :
    readDocument (fuel + 1) (x.jsonText ++ rest) = some (.number (some (.float x)), rest) := by
  unfold Binary64.ReadsBack Value.ofText Value.compactText at readsBack
  rw [String.toList_ofList] at readsBack
  obtain ⟨document, whole, same⟩ := Option.bind_eq_some_iff.1 readsBack
  have same := value?_eq_float same
  subst same
  unfold Document.ofText at whole
  split at whole
  · next document left read =>
    split at whole
    · next blank =>
      cases whole
      obtain ⟨suffix, append⟩ := readDocument_append_of_numberChars (jsonText_numberChars x) read separated fuel
      -- No blank can be left of a text of number characters.
      have nothing : left = [] := by
        cases left with
        | nil => rfl
        | cons c left =>
          have number := jsonText_numberChars x c (suffix.subset List.mem_cons_self)
          rw [skipBlanks_cons left (isBlank_of_numberChar number)] at blank
          cases blank
      rw [append, nothing]
      rfl
    · cases whole
  · cases whole

/-! ### Blanks -/

/-- Nothing but blanks. -/
def Blank (text : List Char) : Prop :=
  ∀ c ∈ text, isBlank c = true

theorem blank_nil : Blank [] :=
  List.forall_mem_nil _

theorem Blank.skip {gap : List Char} (blank : Blank gap) (text : List Char) :
    skipBlanks (gap ++ text) = skipBlanks text :=
  List.dropWhile_append_of_pos blank

theorem Blank.skip_to {gap : List Char} (blank : Blank gap) {c : Char} (text : List Char) (front : isBlank c = false) :
    skipBlanks (gap ++ c :: text) = c :: text := by
  rw [blank.skip, skipBlanks_cons text front]

/-- No number goes on into a blank. -/
theorem Blank.separated {gap rest : List Char} (blank : Blank gap) (separated : Separated rest) :
    Separated (gap ++ rest) := by
  cases gap with
  | nil => exact separated
  | cons c gap =>
    have isBlank := blank c List.mem_cons_self
    refine separated_cons (Bool.eq_false_iff.2 fun number => ?_)
    rw [isBlank_of_numberChar number] at isBlank
    cases isBlank

theorem readDocument_gap (fuel : Nat) {gap : List Char} (blank : Blank gap) (text : List Char) :
    readDocument fuel (gap ++ text) = readDocument fuel text := by
  cases fuel with
  | zero => rw [readDocument, readDocument]
  | succ fuel => rw [readDocument, blank.skip, ← readDocument]

theorem readItems_gap (fuel : Nat) {gap : List Char} (blank : Blank gap) (text : List Char) :
    readItems fuel (gap ++ text) = readItems fuel text := by
  cases fuel with
  | zero => rw [readItems, readItems]
  | succ fuel => simp only [readItems, readDocument_gap fuel blank]

theorem readMembers_gap (fuel : Nat) {gap : List Char} (blank : Blank gap) (text : List Char) :
    readMembers fuel (gap ++ text) = readMembers fuel text := by
  cases fuel with
  | zero => rw [readMembers, readMembers]
  | succ fuel => simp only [readMembers, blank.skip]

/-! ### Lists and objects -/

theorem readDocument_bracket (fuel : Nat) (text : List Char) :
    readDocument (fuel + 1) ('[' :: text) =
      match skipBlanks text with
      | ']' :: rest => some (.list [], rest)
      | rest => (readItems fuel rest).map fun read => (.list read.1, read.2) :=
  rfl

theorem readDocument_list (fuel : Nat) {gap : List Char} (blank : Blank gap) {c : Char} (text : List Char)
    (front : isBlank c = false) (more : c ≠ ']') :
    readDocument (fuel + 1) ('[' :: (gap ++ c :: text)) =
      (readItems fuel (c :: text)).map fun read => (.list read.1, read.2) := by
  rw [readDocument_bracket, blank.skip_to text front]
  split
  · next same =>
    cases same
    exact absurd rfl more
  · rfl

theorem readDocument_brace (fuel : Nat) (text : List Char) :
    readDocument (fuel + 1) ('\x7b' :: text) =
      match skipBlanks text with
      | '\x7d' :: rest => some (.object [], rest)
      | rest => (readMembers fuel rest).map fun read => (.object read.1, read.2) :=
  rfl

theorem readDocument_object (fuel : Nat) {gap : List Char} (blank : Blank gap) (text : List Char) :
    readDocument (fuel + 1) ('\x7b' :: (gap ++ '"' :: text)) =
      (readMembers fuel ('"' :: text)).map fun read => (.object read.1, read.2) := by
  rw [readDocument_brace, blank.skip_to text (by decide)]
  rfl

theorem readItems_last {fuel : Nat} {text closing rest : List Char} {item : Document} (blank : Blank closing)
    (read : readDocument fuel text = some (item, closing ++ ']' :: rest)) :
    readItems (fuel + 1) text = some ([item], rest) := by
  simp [readItems, read, blank.skip_to rest (show isBlank ']' = false by decide)]

theorem readItems_more {fuel : Nat} {text later rest : List Char} {item : Document} {items : List Document}
    (read : readDocument fuel text = some (item, ',' :: later)) (others : readItems fuel later = some (items, rest)) :
    readItems (fuel + 1) text = some (item :: items, rest) := by
  simp [readItems, read, others, skipBlanks_cons later (show isBlank ',' = false by decide)]

theorem readMembers_last {fuel : Nat} {key : String} {text closing rest : List Char} {value : Document}
    (blank : Blank closing) (read : readDocument fuel text = some (value, closing ++ '\x7d' :: rest)) :
    readMembers (fuel + 1) (quoted key ++ ':' :: text) = some ([(some key, value)], rest) := by
  rw [quoted_append]
  simp [readMembers, readString_quoted, read, skipBlanks_cons _ (show isBlank '"' = false by decide),
    skipBlanks_cons _ (show isBlank ':' = false by decide), blank.skip_to rest (show isBlank '\x7d' = false by decide)]

theorem readMembers_more {fuel : Nat} {key : String} {text later rest : List Char} {value : Document}
    {members : List (Option String × Document)} (read : readDocument fuel text = some (value, ',' :: later))
    (others : readMembers fuel later = some (members, rest)) :
    readMembers (fuel + 1) (quoted key ++ ':' :: text) = some ((some key, value) :: members, rest) := by
  rw [quoted_append]
  simp [readMembers, readString_quoted, read, others, skipBlanks_cons _ (show isBlank '"' = false by decide),
    skipBlanks_cons _ (show isBlank ':' = false by decide), skipBlanks_cons _ (show isBlank ',' = false by decide)]

/-! ### Texts of documents -/

/-- The text is read to the document, whatever may follow it. -/
structure Document.Reads (document : Document) (text : List Char) : Prop where
  front : ∃ c rest, text = c :: rest ∧ isBlank c = false ∧ c ≠ ']'
  reads : ∀ fuel rest, Separated rest → text.length < fuel → readDocument fuel (text ++ rest) = some (document, rest)

theorem separated_comma (text : List Char) : Separated (',' :: text) :=
  separated_cons (by decide)

theorem separated_bracket (text : List Char) : Separated (']' :: text) :=
  separated_cons (by decide)

theorem separated_brace (text : List Char) : Separated ('\x7d' :: text) :=
  separated_cons (by decide)

/-- Texts with a comma between two of them, each after the same gap. -/
def joined (gap : List Char) : List (List Char) → List Char
  | [] => []
  | [text] => gap ++ text
  | text :: next :: rest => gap ++ text ++ ',' :: joined gap (next :: rest)

theorem joined_front (gap text : List Char) (texts : List (List Char)) :
    ∃ rest, joined gap (text :: texts) = gap ++ (text ++ rest) := by
  cases texts with
  | nil => exact ⟨[], by rw [joined, List.append_nil]⟩
  | cons next texts => exact ⟨_, by rw [joined, List.append_assoc]⟩

variable {gap closing : List Char}

theorem readItems_joined (gapBlank : Blank gap) (closingBlank : Blank closing) (items : List (Document × List Char))
    (some_item : items ≠ []) (all : ∀ item ∈ items, item.1.Reads item.2) (fuel : Nat) (rest : List Char)
    (enough : (joined gap (items.map (·.2))).length + 1 < fuel) :
    readItems fuel (joined gap (items.map (·.2)) ++ (closing ++ ']' :: rest)) = some (items.map (·.1), rest) := by
  induction items generalizing fuel with
  | nil => exact absurd rfl some_item
  | cons item others ih =>
    obtain ⟨here, later⟩ := List.forall_mem_cons.1 all
    cases fuel with
    | zero => omega
    | succ fuel =>
      cases others with
      | nil =>
        simp only [List.map_cons, List.map_nil, joined, List.length_append] at enough ⊢
        rw [List.append_assoc, readItems_gap _ gapBlank]
        exact readItems_last closingBlank
          (here.reads fuel _ (closingBlank.separated (separated_bracket rest)) (by omega))
      | cons next others =>
        simp only [List.map_cons, joined, List.length_append, List.length_cons] at enough ih ⊢
        -- One unit of fuel has been spent, and at least a comma of the text.
        have following := ih (by simp) later fuel (by omega)
        have read := here.reads fuel _ (separated_comma (joined gap (next.2 :: others.map (·.2)) ++ (closing ++ ']' :: rest)))
          (by omega)
        rw [List.append_assoc, List.append_assoc, readItems_gap _ gapBlank, List.cons_append]
        exact readItems_more read following

/-- A key and the text of its value. -/
def keyedText (gap : List Char) (key : String) (text : List Char) : List Char :=
  quoted key ++ ':' :: (gap ++ text)

theorem readMembers_joined {inner : List Char} (gapBlank : Blank gap) (innerBlank : Blank inner)
    (closingBlank : Blank closing) (members : List (String × Document × List Char)) (some_member : members ≠ [])
    (all : ∀ entry ∈ members, entry.2.1.Reads entry.2.2) (fuel : Nat) (rest : List Char)
    (enough : (joined gap (members.map fun entry => keyedText inner entry.1 entry.2.2)).length + 1 < fuel) :
    readMembers fuel (joined gap (members.map fun entry => keyedText inner entry.1 entry.2.2) ++
        (closing ++ '\x7d' :: rest)) =
      some (members.map fun entry => (some entry.1, entry.2.1), rest) := by
  induction members generalizing fuel with
  | nil => exact absurd rfl some_member
  | cons entry others ih =>
    obtain ⟨here, later⟩ := List.forall_mem_cons.1 all
    cases fuel with
    | zero => omega
    | succ fuel =>
      cases others with
      | nil =>
        simp only [List.map_cons, List.map_nil, joined, keyedText, List.length_append, List.length_cons] at enough ⊢
        have read := here.reads fuel _ (closingBlank.separated (separated_brace rest)) (by omega)
        rw [← readDocument_gap _ innerBlank] at read
        rw [List.append_assoc, readMembers_gap _ gapBlank, List.append_assoc, List.cons_append, List.append_assoc]
        exact readMembers_last closingBlank read
      | cons next others =>
        simp only [List.map_cons, joined, List.length_append, List.length_cons] at enough ih ⊢
        have following := ih (by simp) later fuel (by omega)
        have short : entry.2.2.length ≤ (keyedText inner entry.1 entry.2.2).length := by
          simp only [keyedText, List.length_append, List.length_cons]
          omega
        have read := here.reads fuel _ (separated_comma
          (joined gap (keyedText inner next.1 next.2.2 :: others.map fun entry => keyedText inner entry.1 entry.2.2) ++
            (closing ++ '\x7d' :: rest))) (by omega)
        rw [← readDocument_gap _ innerBlank] at read
        rw [List.append_assoc, List.append_assoc, readMembers_gap _ gapBlank, keyedText, List.append_assoc,
          List.cons_append, List.append_assoc]
        exact readMembers_more read following

/-- Lists are read whatever blanks stand before their items and before their end. -/
theorem Document.reads_list (gapBlank : Blank gap) (closingBlank : Blank closing) (items : List (Document × List Char))
    (all : ∀ item ∈ items, item.1.Reads item.2) :
    (Document.list (items.map (·.1))).Reads ('[' :: (joined gap (items.map (·.2)) ++ (closing ++ [']']))) where
  front := ⟨'[', _, rfl, by decide, by decide⟩
  reads fuel rest separated enough := by
    cases fuel with
    | zero => omega
    | succ fuel =>
      simp only [List.length_cons, List.length_append] at enough
      simp only [List.cons_append, List.append_assoc, List.nil_append]
      cases items with
      | nil =>
        rw [List.map_nil, joined, List.nil_append, readDocument_bracket, closingBlank.skip_to rest (by decide)]
        rfl
      | cons item others =>
        obtain ⟨c, text, front, visible, more⟩ := (all item List.mem_cons_self).front
        have read := readItems_joined gapBlank closingBlank (item :: others) (by simp) all fuel rest (by omega)
        -- The bracket is followed by the front of the first item.
        obtain ⟨after, begins⟩ := joined_front gap item.2 (others.map (·.2))
        rw [List.map_cons, begins, front, List.cons_append, List.append_assoc] at read ⊢
        rw [readItems_gap _ gapBlank] at read
        rw [List.cons_append] at read ⊢
        rw [readDocument_list fuel gapBlank _ visible more, read]
        rfl

theorem Document.reads_object {inner : List Char} (gapBlank : Blank gap) (innerBlank : Blank inner)
    (closingBlank : Blank closing) (members : List (String × Document × List Char))
    (all : ∀ entry ∈ members, entry.2.1.Reads entry.2.2) :
    (Document.object (members.map fun entry => (some entry.1, entry.2.1))).Reads
      ('\x7b' :: (joined gap (members.map fun entry => keyedText inner entry.1 entry.2.2) ++ (closing ++ ['\x7d']))) where
  front := ⟨'\x7b', _, rfl, by decide, by decide⟩
  reads fuel rest separated enough := by
    cases fuel with
    | zero => omega
    | succ fuel =>
      simp only [List.length_cons, List.length_append] at enough
      simp only [List.cons_append, List.append_assoc, List.nil_append]
      cases members with
      | nil =>
        rw [List.map_nil, joined, List.nil_append, readDocument_brace, closingBlank.skip_to rest (by decide)]
        rfl
      | cons entry others =>
        have read := readMembers_joined gapBlank innerBlank closingBlank (entry :: others) (by simp) all fuel rest (by omega)
        obtain ⟨after, begins⟩ := joined_front gap (keyedText inner entry.1 entry.2.2)
          (others.map fun entry => keyedText inner entry.1 entry.2.2)
        rw [List.map_cons, begins, keyedText, List.append_assoc, List.append_assoc, quoted_append] at read ⊢
        rw [readMembers_gap _ gapBlank] at read
        rw [List.cons_append] at read ⊢
        rw [readDocument_object fuel gapBlank, read]
        rfl

theorem Document.reads_string (text : String) : (Document.string (some text)).Reads (quoted text) where
  front := ⟨'"', text.toList.flatMap escape ++ ['"'], rfl, by decide, by decide⟩
  reads fuel rest separated enough := by
    cases fuel with
    | zero => omega
    | succ fuel => exact readDocument_quoted fuel text rest

theorem front_of_numberChars {text : List Char} (numbers : ∀ c ∈ text, isNumberChar c = true) (some_char : text ≠ []) :
    ∃ c rest, text = c :: rest ∧ isBlank c = false ∧ c ≠ ']' := by
  obtain ⟨c, rest, same⟩ := List.exists_cons_of_ne_nil some_char
  have number := numbers c (same ▸ List.mem_cons_self)
  refine ⟨c, rest, same, isBlank_of_numberChar number, ?_⟩
  intro bracket
  subst bracket
  cases number

theorem integerText_numberChars (value : Int) : ∀ c ∈ integerText value, isNumberChar c = true := by
  have digits : ∀ c ∈ Nat.toDigits 10 value.natAbs, isNumberChar c = true :=
    fun c member => isNumberChar_of_digit (toDigits_all_digits _ c member)
  unfold integerText
  split
  · exact List.forall_mem_cons.2 ⟨by decide, digits⟩
  · exact digits

theorem Document.reads_integer {value : Int} (low : -(negativeLimit : Int) ≤ value) (high : value ≤ (greatestWord : Int)) :
    (Document.number (some (.integer value))).Reads (integerText value) where
  front := by
    have filled : integerText value ≠ [] := by
      unfold integerText
      split <;> simp
    exact front_of_numberChars (integerText_numberChars value) filled
  reads fuel rest separated enough := by
    cases fuel with
    | zero => omega
    | succ fuel => exact readDocument_integer fuel low high separated

theorem Document.reads_float {value : Binary64} (readsBack : value.ReadsBack) :
    (Document.number (some (.float value))).Reads value.jsonText where
  front := by
    have filled : value.jsonText ≠ [] := by
      intro empty
      have read := readDocument_float 0 readsBack separated_nil
      rw [empty] at read
      cases read
    exact front_of_numberChars (jsonText_numberChars value) filled
  reads fuel rest separated enough := by
    cases fuel with
    | zero => omega
    | succ fuel => exact readDocument_float fuel readsBack separated

theorem Document.reads_null : Document.null.Reads "null".toList where
  front := ⟨'n', _, rfl, by decide, by decide⟩
  reads fuel rest separated enough := by
    cases fuel with
    | zero => omega
    | succ fuel => rfl

theorem Document.reads_bool (value : Bool) : (Document.bool value).Reads (Value.bool value).compact := by
  cases value with
  | true =>
    refine ⟨⟨'t', _, rfl, by decide, by decide⟩, fun fuel rest _ enough => ?_⟩
    cases fuel with
    | zero => omega
    | succ fuel => rfl
  | false =>
    refine ⟨⟨'f', _, rfl, by decide, by decide⟩, fun fuel rest _ enough => ?_⟩
    cases fuel with
    | zero => omega
    | succ fuel => rfl

/-- A whole text holds the document that it is read to. -/
theorem Document.Reads.ofText {document : Document} {text : List Char} (reads : document.Reads text) :
    Document.ofText text = some document := by
  have read := reads.reads (text.length + 1) [] separated_nil (Nat.lt_succ_self _)
  rw [List.append_nil] at read
  rw [Document.ofText, read]
  rfl

/-! ### Texts of values -/

namespace Value

theorem documents_eq_map (items : List Value) : documents items = items.map document := by
  induction items with
  | nil => rfl
  | cons item rest ih => rw [documents, ih, List.map_cons]

theorem memberDocuments_eq_map (members : List (String × Value)) :
    memberDocuments members = members.map fun entry => (some entry.1, entry.2.document) := by
  induction members with
  | nil => rfl
  | cons entry rest ih => rw [memberDocuments, ih, List.map_cons]

theorem compactItems_eq_joined (items : List Value) : compactItems items = joined [] (items.map compact) := by
  induction items with
  | nil => rfl
  | cons item rest ih =>
    cases rest with
    | nil => rfl
    | cons next rest => simpa [compactItems, joined] using ih

theorem compactMembers_eq_joined (members : List (String × Value)) :
    compactMembers members = joined [] (members.map fun entry => keyedText [] entry.1 entry.2.compact) := by
  induction members with
  | nil => rfl
  | cons entry rest ih =>
    cases rest with
    | nil => rfl
    | cons next rest => simpa [compactMembers, joined, keyedText] using ih

theorem prettyItems_eq_joined (level : Nat) (items : List Value) :
    prettyItems level items = joined (newLine level) (items.map (prettyAt level)) := by
  induction items with
  | nil => simp [prettyItems, joined]
  | cons item rest ih =>
    cases rest with
    | nil => simp [prettyItems, joined]
    | cons next rest => simpa [prettyItems, joined] using ih

theorem prettyMembers_eq_joined (level : Nat) (members : List (String × Value)) :
    prettyMembers level members =
      joined (newLine level) (members.map fun entry => keyedText [' '] entry.1 (prettyAt level entry.2)) := by
  induction members with
  | nil => simp [prettyMembers, joined]
  | cons entry rest ih =>
    cases rest with
    | nil => simp [prettyMembers, joined, keyedText]
    | cons next rest => simpa [prettyMembers, joined, keyedText] using ih

theorem blank_newLine (level : Nat) : Blank (newLine level) := by
  intro c member
  rcases List.mem_cons.1 member with same | member
  · exact same ▸ rfl
  · exact (List.eq_of_mem_replicate member) ▸ rfl

/-- The compact text of a value is read to its document. -/
theorem Writable.reads_compact {value : Value} (writable : value.Writable) : value.document.Reads value.compact := by
  induction writable with
  | null => exact Document.reads_null
  | bool value => exact Document.reads_bool value
  | integer low high => exact Document.reads_integer low high
  | float readsBack => exact Document.reads_float readsBack
  | string text => exact Document.reads_string text
  | @list items all ih =>
    have reads := Document.reads_list blank_nil blank_nil (items.map fun item => (item.document, item.compact))
      (List.forall_mem_map.2 ih)
    simpa [document, documents_eq_map, compact, compactItems_eq_joined, Function.comp_def] using reads
  | @object members all ih =>
    have reads := Document.reads_object blank_nil blank_nil blank_nil
      (members.map fun entry => (entry.1, entry.2.document, entry.2.compact)) (List.forall_mem_map.2 ih)
    simpa [document, memberDocuments_eq_map, compact, compactMembers_eq_joined, Function.comp_def] using reads

/-- So is its text with an item on each line. -/
theorem Writable.reads_pretty {value : Value} (writable : value.Writable) (level : Nat) :
    value.document.Reads (value.prettyAt level) := by
  induction writable generalizing level with
  | null => rw [prettyAt]; exact Document.reads_null
  | bool value => cases value <;> rw [prettyAt] <;> exact Document.reads_bool _
  | integer low high => rw [prettyAt]; exact Document.reads_integer low high
  | float readsBack => rw [prettyAt]; exact Document.reads_float readsBack
  | string text => rw [prettyAt]; exact Document.reads_string text
  | @list items all ih =>
    cases items with
    | nil =>
      rw [prettyAt]
      exact Document.reads_list blank_nil blank_nil [] (List.forall_mem_nil _)
    | cons item rest =>
      have reads := Document.reads_list (blank_newLine (level + 1)) (blank_newLine level)
        ((item :: rest).map fun item => (item.document, item.prettyAt (level + 1)))
        (List.forall_mem_map.2 fun item member => ih item member (level + 1))
      rw [List.map_map, List.map_map] at reads
      rw [document, documents_eq_map, prettyAt, prettyItems_eq_joined, List.cons_append, List.cons_append,
        List.append_assoc]
      · exact reads
      · exact List.cons_ne_nil _ _
  | @object members all ih =>
    cases members with
    | nil =>
      rw [prettyAt]
      exact Document.reads_object blank_nil blank_nil blank_nil [] (List.forall_mem_nil _)
    | cons entry rest =>
      have space : Blank [' '] := List.forall_mem_singleton.2 rfl
      have reads := Document.reads_object (blank_newLine (level + 1)) space (blank_newLine level)
        ((entry :: rest).map fun entry => (entry.1, entry.2.document, entry.2.prettyAt (level + 1)))
        (List.forall_mem_map.2 fun entry member => ih entry member (level + 1))
      rw [List.map_map, List.map_map] at reads
      rw [document, memberDocuments_eq_map, prettyAt, prettyMembers_eq_joined, List.cons_append,
        List.cons_append, List.append_assoc]
      · exact reads
      · exact List.cons_ne_nil _ _

end Value

/-! ### Depth -/

theorem itemValues?_documents {items : List Value} {depth : Nat}
    (all : ∀ item ∈ items, item.document.value? depth = if item.depth ≤ depth then some item else none) :
    itemValues? depth (Value.documents items) = if Value.depths items ≤ depth then some items else none := by
  induction items with
  | nil => simp [Value.documents, itemValues?, Value.depths]
  | cons item rest ih =>
    obtain ⟨here, later⟩ := List.forall_mem_cons.1 all
    simp only [Value.documents, itemValues?, here, ih later, Value.depths, Nat.max_le]
    by_cases fits : item.depth ≤ depth
    · by_cases others : Value.depths rest ≤ depth <;> simp [fits, others]
    · simp [fits]

theorem memberValues?_memberDocuments {members read : List (String × Value)} {depth : Nat}
    (ordered : Keyed.Ordered (read ++ members))
    (all : ∀ entry ∈ members, entry.2.document.value? depth = if entry.2.depth ≤ depth then some entry.2 else none) :
    memberValues? depth (Value.memberDocuments members) read =
      if Value.memberDepths members ≤ depth then some (read ++ members) else none := by
  induction members generalizing read with
  | nil => simp [Value.memberDocuments, memberValues?, Value.memberDepths]
  | cons entry rest ih =>
    obtain ⟨key, value⟩ := entry
    obtain ⟨here, later⟩ := List.forall_mem_cons.1 all
    have greater : ∀ entry ∈ read, entry.1 < key :=
      fun entry member => (List.pairwise_append.1 ordered).2.2 entry member (key, value) List.mem_cons_self
    -- The entry goes to the end of what has been read, and the order holds as before.
    have shifted : read ++ (key, value) :: rest = (read ++ [(key, value)]) ++ rest := by simp
    rw [shifted] at ordered ⊢
    simp only [Value.memberDocuments, memberValues?, here, Value.memberDepths, Nat.max_le]
    by_cases fits : value.depth ≤ depth
    · simp [fits, Keyed.put_greatest greater, ih ordered later]
    · simp [fits]

/-- A document becomes its value where that is not too deep. -/
theorem Value.Portable.value?_document {value : Value} (portable : value.Portable) (depth : Nat) :
    value.document.value? depth = if value.depth ≤ depth then some value else none := by
  induction portable generalizing depth with
  | null => simp [Value.document, Document.value?, Value.depth]
  | bool value => simp [Value.document, Document.value?, Value.depth]
  | integer low high => simp [Value.document, Document.value?, Value.depth]
  | float readsBack => simp [Value.document, Document.value?, Value.depth]
  | string text => simp [Value.document, Document.value?, Value.depth]
  | @list items all ih =>
    cases depth with
    | zero => simp [Value.document, Document.value?, Value.depth]
    | succ depth =>
      rw [Value.document, Document.value?, itemValues?_documents fun item member => ih item member depth, Value.depth]
      by_cases fits : Value.depths items ≤ depth <;> simp [fits]
  | @object members ordered all ih =>
    cases depth with
    | zero => simp [Value.document, Document.value?, Value.depth]
    | succ depth =>
      have ordered : Keyed.Ordered ([] ++ members) := ordered
      rw [Value.document, Document.value?, memberValues?_memberDocuments ordered fun entry member => ih entry member depth,
        Value.depth]
      by_cases fits : Value.memberDepths members ≤ depth <;> simp [fits]

end Json

end CallPolicy
