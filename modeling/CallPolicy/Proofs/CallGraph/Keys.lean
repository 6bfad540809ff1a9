import CallPolicy.Proofs.CallGraph.Memoization
import CallPolicy.Proofs.Digest.Base62
import CallPolicy.Proofs.Text.ByteOrder

/-! Requests that share an entry of the cache.

What is hashed has a zero byte after the language and one after the name of the function. Names of
languages have no zero byte, so the language is always told apart. A function name may have one, and
then name and source can be divided in two ways.
-/

set_option autoImplicit false

namespace CallPolicy

/-- Two texts around a separator that may stand in them: either both agree, or one of the first
texts goes on past the separator. -/
theorem append_separator_eq_iff {α : Type} {separator : α} {first second rest others : List α} :
    first ++ separator :: rest = second ++ separator :: others ↔
      (first = second ∧ rest = others) ∨
      (∃ middle, second = first ++ separator :: middle ∧ rest = middle ++ separator :: others) ∨
      (∃ middle, first = second ++ separator :: middle ∧ others = middle ++ separator :: rest) := by
  constructor
  · intro same
    rcases List.append_eq_append_iff.1 same with ⟨more, longer, divided⟩ | ⟨more, longer, divided⟩
    · rcases List.cons_eq_append_iff.1 divided with ⟨rfl, rest_eq⟩ | ⟨middle, rfl, rest_eq⟩
      · cases rest_eq
        exact .inl ⟨by rw [longer, List.append_nil], rfl⟩
      · exact .inr (.inl ⟨middle, longer, rest_eq⟩)
    · rcases List.cons_eq_append_iff.1 divided with ⟨rfl, rest_eq⟩ | ⟨middle, rfl, rest_eq⟩
      · cases rest_eq
        exact .inl ⟨by rw [longer, List.append_nil], rfl⟩
      · exact .inr (.inr ⟨middle, longer, rest_eq⟩)
  · rintro (⟨rfl, rfl⟩ | ⟨middle, rfl, rfl⟩ | ⟨middle, rfl, rfl⟩)
    · rfl
    · simp only [List.append_assoc, List.cons_append]
    · simp only [List.append_assoc, List.cons_append]

namespace Digest

/-- The texts between which `message` puts its zero bytes, as one text. -/
def joined (language function source : String) : String :=
  language ++ "\x00" ++ function ++ "\x00" ++ source

theorem message_eq_utf8 (language function source : String) :
    message language function source = Text.utf8 (joined language function source) := by
  have zero : String.utf8EncodeChar '\x00' = [0] := by decide
  simp [message, joined, Text.utf8, zero]

theorem message_eq_iff {language function source otherLanguage otherFunction otherSource : String} :
    message language function source = message otherLanguage otherFunction otherSource ↔
      language.toList ++ '\x00' :: (function.toList ++ '\x00' :: source.toList) =
        otherLanguage.toList ++ '\x00' :: (otherFunction.toList ++ '\x00' :: otherSource.toList) := by
  rw [message_eq_utf8, message_eq_utf8, Text.utf8_injective.eq_iff, ← String.toList_inj]
  simp [joined]

end Digest

theorem Language.zero_not_mem_name (language : Language) : '\x00' ∉ language.name.toList := by
  cases language <;> decide

theorem Language.name_injective : Function.Injective Language.name := by
  intro first second same
  have recognized : ofName? first.name = ofName? second.name := congrArg ofName? same
  simpa only [ofName?_name, Option.some.injEq] using recognized

namespace Request

/-- What is hashed for a request. -/
def message (request : Request) : List UInt8 :=
  Digest.message request.unit.language.name request.function request.unit.text

/-- The name of the second request goes on past a zero character, and the source of the first one
begins with what follows there. -/
def Overlaps (first second : Request) : Prop :=
  first.unit.language = second.unit.language ∧
    ∃ middle : String, second.function = first.function ++ "\x00" ++ middle ∧
      first.unit.text = middle ++ "\x00" ++ second.unit.text

/-- Different messages with one hash. -/
def Collides (first second : Request) : Prop :=
  first.message ≠ second.message ∧ Digest.XxHash64.hash first.message = Digest.XxHash64.hash second.message

theorem overlaps_iff {first second : Request} (sameLanguage : first.unit.language = second.unit.language) :
    first.Overlaps second ↔
      ∃ middle, second.function.toList = first.function.toList ++ '\x00' :: middle ∧
        first.unit.text.toList = middle ++ '\x00' :: second.unit.text.toList := by
  constructor
  · rintro ⟨_, middle, longer, divided⟩
    exact ⟨middle.toList, by simp [longer], by simp [divided]⟩
  · rintro ⟨middle, longer, divided⟩
    refine ⟨sameLanguage, String.ofList middle, ?_, ?_⟩
    · exact String.toList_inj.1 (by simp [longer])
    · exact String.toList_inj.1 (by simp [divided])

theorem language_eq_of_message_eq {first second : Request} (same : first.message = second.message) :
    first.unit.language = second.unit.language := by
  rcases append_separator_eq_iff.1 (Digest.message_eq_iff.1 same) with agree | ⟨middle, longer, _⟩ | ⟨middle, longer, _⟩
  · exact Language.name_injective (String.toList_inj.1 agree.1)
  · exact absurd (longer ▸ by simp) second.unit.language.zero_not_mem_name
  · exact absurd (longer ▸ by simp) first.unit.language.zero_not_mem_name

theorem message_eq_iff (first second : Request) :
    first.message = second.message ↔ first = second ∨ first.Overlaps second ∨ second.Overlaps first := by
  by_cases sameLanguage : first.unit.language = second.unit.language
  · have equal : first = second ↔
        first.function.toList = second.function.toList ∧ first.unit.text.toList = second.unit.text.toList := by
      obtain ⟨⟨language, text⟩, function⟩ := first
      obtain ⟨⟨otherLanguage, otherText⟩, otherFunction⟩ := second
      cases sameLanguage
      simp [String.toList_inj, and_comm]
    rw [equal, overlaps_iff sameLanguage, overlaps_iff sameLanguage.symm, ← append_separator_eq_iff]
    simp only [message, Digest.message_eq_iff, sameLanguage, List.append_cancel_left_eq, List.cons.injEq, true_and]
  · constructor
    · intro same
      exact absurd (language_eq_of_message_eq same) sameLanguage
    · rintro (rfl | overlaps | overlaps)
      · rfl
      · exact absurd overlaps.1 sameLanguage
      · exact absurd overlaps.1.symm sameLanguage

theorem Overlaps.zero_mem {first second : Request} (overlaps : first.Overlaps second) :
    '\x00' ∈ second.function.toList := by
  obtain ⟨_, middle, longer, _⟩ := overlaps
  simp [longer]

theorem eq_of_message_eq {first second : Request} (firstPlain : '\x00' ∉ first.function.toList)
    (secondPlain : '\x00' ∉ second.function.toList) (same : first.message = second.message) : first = second := by
  rcases (message_eq_iff first second).1 same with equal | overlaps | overlaps
  · exact equal
  · exact absurd overlaps.zero_mem secondPlain
  · exact absurd overlaps.zero_mem firstPlain

theorem key_eq_iff (first second : Request) :
    first.key = second.key ↔ first.message = second.message ∨ first.Collides second := by
  have encoded : first.key = second.key ↔
      Digest.XxHash64.hash first.message = Digest.XxHash64.hash second.message :=
    Digest.Base62.encode_injective.eq_iff
  rw [encoded]
  by_cases same : first.message = second.message
  · simp [same, Collides]
  · simp [same, Collides]

end Request

namespace Cache

/-- Two requests have one message just if they are the same or one name goes on past a zero character
into the other source. So names without zero characters share an entry only when the hash collides. -/
theorem keys_apart (first second : Request) :
    (first.message = second.message ↔ first = second ∨ first.Overlaps second ∨ second.Overlaps first) ∧
    ('\x00' ∉ first.function.toList → '\x00' ∉ second.function.toList → first ≠ second →
      first.message ≠ second.message) ∧
    (first.key = second.key ↔ first.message = second.message ∨ first.Collides second) := by
  refine ⟨first.message_eq_iff second, ?_, first.key_eq_iff second⟩
  intro firstPlain secondPlain different same
  exact different (Request.eq_of_message_eq firstPlain secondPlain same)

theorem messages_of_edits_apart :
    ∀ first ∈ editedRequests, ∀ second ∈ editedRequests, first ≠ second → first.message ≠ second.message := by
  have plain : ∀ request ∈ editedRequests, '\x00' ∉ request.function.toList := by decide
  intro first firstMember second secondMember
  exact (keys_apart first second).2.1 (plain first firstMember) (plain second secondMember)

/-- With such names only the hash stands between a cache and extraction. -/
theorem separate_of_names {requests : List Request} (plain : ∀ request ∈ requests, '\x00' ∉ request.function.toList)
    (apart : ∀ first ∈ requests, ∀ second ∈ requests, ¬ first.Collides second) : Separate requests := by
  intro first firstMember second secondMember sameKey
  rcases (first.key_eq_iff second).1 sameKey with same | collides
  · exact Request.eq_of_message_eq (plain first firstMember) (plain second secondMember) same
  · exact absurd collides (apart first firstMember second secondMember)

/-- A function with a zero character in a text, and the same text divided at that character. -/
def dividedTwice : Request × Request :=
  (⟨⟨.rust, "fn f() \x7b \"\x00//\"; \x7d\n"⟩, "f"⟩, ⟨⟨.rust, "//\"; \x7d\n"⟩, "f\x00fn f() \x7b \""⟩)

/-- The second request has no such function, and is served the graph of the first one. -/
theorem zero_in_name_shares_entry :
    dividedTwice.1 ≠ dividedTwice.2 ∧ dividedTwice.1.message = dividedTwice.2.message ∧
    dividedTwice.2.answer = .error (.functionNotFound dividedTwice.2.function .rust) ∧
    (empty.serve [dividedTwice.1, dividedTwice.2]).1 = [.ok ⟨[], []⟩, .ok ⟨[], []⟩] := by
  decide +kernel

end Cache

end CallPolicy
