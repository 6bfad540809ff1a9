import CallPolicy.Proofs.Enforcement.Calls
import CallPolicy.Proofs.Number.Rounding

/-! How long a budget lets a function run.

The order of budgets is that of what they stand for, and a larger budget never gets a shorter limit. Budgets that are
not above zero give no limit, and those that cannot be counted in seconds give the longest one.
-/

set_option autoImplicit false

namespace CallPolicy

namespace Binary64

variable {x : Binary64}

theorem value?_of_positive (positive : x.isPositive = true) :
    (x.isFinite = true ∧ x.value? = some (x.size : WithTop ℚ)) ∨
      (x.isFinite = false ∧ x.value? = some (⊤ : WithTop ℚ)) := by
  simp only [isPositive, Bool.and_eq_true, Bool.not_eq_true'] at positive
  obtain ⟨⟨number, _⟩, unsigned⟩ := positive
  rw [value?, number, unsigned]
  simp only [isNaN, isFinite, isInfinite, decide_eq_false_iff_not, decide_eq_true_eq, Bool.false_eq_true, if_false]
    at number ⊢
  by_cases infinite : x.magnitude = infinityBits
  · simp [infinite]
  · simp only [infinite, if_false]
    exact .inl ⟨by omega, rfl⟩

theorem value?_of_not_positive (low : x.isPositive = false) : x.isNaN = true ∨ ∃ value ≤ 0, x.value? = some value := by
  rw [value?]
  cases number : x.isNaN with
  | true => exact .inl rfl
  | false =>
    refine .inr ?_
    cases sign : x.negative with
    | true =>
      cases x.isInfinite with
      | true => exact ⟨⊥, bot_le, rfl⟩
      | false =>
        refine ⟨((-x.size : ℚ) : WithTop ℚ), ?_, rfl⟩
        have below : -x.size ≤ 0 := neg_nonpos.2 x.size_nonneg
        exact_mod_cast below
    | false =>
      have zero : x.isZero = true := by simpa [isPositive, number, sign] using low
      have finite : x.isInfinite = false := by
        rw [isZero, decide_eq_true_iff] at zero
        rw [isInfinite, zero]
        rfl
      refine ⟨(x.size : WithTop ℚ), ?_, by rw [finite]; rfl⟩
      have none : x.size ≤ 0 := le_of_not_gt fun above => by simp [x.size_pos_iff.1 above] at zero
      exact_mod_cast none

theorem size_pos_of_positive (positive : x.isPositive = true) : 0 < x.size := by
  simp only [isPositive, Bool.and_eq_true, Bool.not_eq_true'] at positive
  exact x.size_pos_iff.2 positive.1.2

theorem value?_not_above (low : x.isNaN = true ∨ ∃ value ≤ 0, x.value? = some value) :
    ¬ ∃ value, x.value? = some value ∧ 0 < value := by
  rintro ⟨value, known, above⟩
  rcases low with noNumber | ⟨other, below, same⟩
  · rw [value?, noNumber] at known
    cases known
  · obtain rfl := Option.some.inj (known.symm.trans same)
    exact absurd above (not_lt_of_ge below)

theorem isPositive_iff : x.isPositive = true ↔ ∃ value, x.value? = some value ∧ 0 < value := by
  constructor
  · intro positive
    have above := size_pos_of_positive positive
    rcases value?_of_positive positive with ⟨_, known⟩ | ⟨_, known⟩
    · exact ⟨_, known, by exact_mod_cast above⟩
    · exact ⟨_, known, by decide⟩
  · intro above
    rw [← Bool.not_eq_false]
    intro low
    exact value?_not_above (value?_of_not_positive low) above

theorem isPositive_eq_false_iff :
    x.isPositive = false ↔ x.isNaN = true ∨ ∃ value ≤ 0, x.value? = some value := by
  refine ⟨value?_of_not_positive, fun low => ?_⟩
  rw [← Bool.not_eq_true, isPositive_iff]
  exact value?_not_above low

end Binary64

/-- Durations in order of their length. -/
instance : LE Duration where
  le first second := first.nanoseconds ≤ second.nanoseconds

namespace Duration

open Binary64 (RoundsTo)

variable {seconds : Binary64}

theorem counted_iff (seconds : Binary64) :
    (seconds.isFinite && seconds.ratio.1 < secondLimit * seconds.ratio.2) = true ↔
      seconds.isFinite = true ∧ seconds.size < 2 ^ 64 := by
  have limit : ((secondLimit * seconds.ratio.2 : ℕ) : ℚ) = 2 ^ 64 * seconds.ratio.2 := by
    rw [secondLimit]
    norm_num
  rw [Bool.and_eq_true, decide_eq_true_iff, ← seconds.ratio_eq_size,
    div_lt_iff₀ (by exact_mod_cast seconds.ratio_positive), ← limit, Nat.cast_lt]

theorem ofPositive_of_short (finite : seconds.isFinite = true) (short : seconds.size < 2 ^ 64) :
    RoundsTo (seconds.size * 10 ^ 9) (ofPositive seconds).nanoseconds := by
  have counted := (counted_iff seconds).2 ⟨finite, short⟩
  have rounded := Binary64.roundsTo_roundQuotient (seconds.ratio.1 * perSecond) seconds.ratio_positive
  have scaled : ((seconds.ratio.1 * perSecond : ℕ) : ℚ) / seconds.ratio.2 = seconds.size * 10 ^ 9 := by
    rw [← seconds.ratio_eq_size, perSecond]
    push_cast
    ring
  rw [ofPositive, if_pos counted, ← scaled]
  exact rounded

theorem ofPositive_of_long (long : seconds.isFinite = true → 2 ^ 64 ≤ seconds.size) : ofPositive seconds = longest := by
  rw [ofPositive, if_neg]
  rw [counted_iff]
  rintro ⟨finite, short⟩
  exact absurd short (not_lt_of_ge (long finite))

/-- Seconds that can be counted are rounded to a duration that can be. -/
theorem ofPositive_le_longest (seconds : Binary64) : ofPositive seconds ≤ longest := by
  by_cases counted : seconds.isFinite = true ∧ seconds.size < 2 ^ 64
  · obtain ⟨finite, short⟩ := counted
    have near := (ofPositive_of_short finite short).le_add_half
    have whole := Binary64.size_le_of_lt (by norm_num) short
    have less : ((ofPositive seconds).nanoseconds : ℚ) < ((2 ^ 64 * 10 ^ 9 : ℕ) : ℚ) := by
      push_cast
      linarith
    have less : (ofPositive seconds).nanoseconds < 2 ^ 64 * 10 ^ 9 := by exact_mod_cast less
    exact Nat.le_pred_of_lt less
  · rw [ofPositive_of_long]
    · exact Nat.le_refl _
    · intro finite
      exact le_of_not_gt fun short => counted ⟨finite, short⟩

theorem ofPositive_mono {first second : Binary64} {low high : WithBot (WithTop ℚ)} (firstPositive : first.isPositive = true)
    (secondPositive : second.isPositive = true) (firstValue : first.value? = some low)
    (secondValue : second.value? = some high) (inOrder : low ≤ high) : ofPositive first ≤ ofPositive second := by
  by_cases counted : second.isFinite = true ∧ second.size < 2 ^ 64
  · obtain ⟨finite, short⟩ := counted
    rcases Binary64.value?_of_positive secondPositive with ⟨_, known⟩ | ⟨infinite, _⟩
    · -- Below a number that can be counted lies another one.
      obtain rfl := Option.some.inj (secondValue.symm.trans known)
      rcases Binary64.value?_of_positive firstPositive with ⟨firstFinite, known⟩ | ⟨_, known⟩
      · obtain rfl := Option.some.inj (firstValue.symm.trans known)
        have inOrder : first.size ≤ second.size := by exact_mod_cast inOrder
        refine (ofPositive_of_short firstFinite (lt_of_le_of_lt inOrder short)).mono (ofPositive_of_short finite short) ?_
        linarith
      · obtain rfl := Option.some.inj (firstValue.symm.trans known)
        simp at inOrder
    · rw [infinite] at finite
      cases finite
  · have long : second.isFinite = true → 2 ^ 64 ≤ second.size :=
      fun finite => le_of_not_gt fun short => counted ⟨finite, short⟩
    rw [ofPositive_of_long long]
    exact ofPositive_le_longest first

end Duration

namespace FunctionSpec

variable {spec first second : FunctionSpec} {value low high : WithBot (WithTop ℚ)}

theorem timeout_mono (firstValue : first.maxRuntimeSeconds.value? = some low)
    (secondValue : second.maxRuntimeSeconds.value? = some high) (inOrder : low ≤ high) :
    first.timeout ≤ second.timeout := by
  cases limited : first.maxRuntimeSeconds.isPositive with
  | false =>
    rw [first.timeout_eq_none_iff.2 limited]
    exact Option.none_le
  | true =>
    obtain ⟨value, known, above⟩ := Binary64.isPositive_iff.1 limited
    obtain rfl := Option.some.inj (firstValue.symm.trans known)
    have limitedToo := Binary64.isPositive_iff.2 ⟨high, secondValue, lt_of_lt_of_le above inOrder⟩
    rw [timeout_of_positive limited, timeout_of_positive limitedToo]
    exact Duration.ofPositive_mono limited limitedToo firstValue secondValue inOrder

theorem timeout_of_short {seconds : ℚ} (known : spec.maxRuntimeSeconds.value? = some (seconds : WithTop ℚ))
    (above : 0 < seconds) (short : seconds < 2 ^ 64) :
    ∃ limit, spec.timeout = some limit ∧ Binary64.RoundsTo (seconds * 10 ^ 9) limit.nanoseconds := by
  have limited : spec.maxRuntimeSeconds.isPositive = true :=
    Binary64.isPositive_iff.2 ⟨_, known, by exact_mod_cast above⟩
  refine ⟨_, timeout_of_positive limited, ?_⟩
  rcases Binary64.value?_of_positive limited with ⟨finite, same⟩ | ⟨_, same⟩
  · have same : seconds = spec.maxRuntimeSeconds.size := by simpa using known.symm.trans same
    rw [same] at short ⊢
    exact Duration.ofPositive_of_short finite short
  · simp [known] at same

theorem timeout_of_long (known : spec.maxRuntimeSeconds.value? = some value)
    (long : ((2 ^ 64 : ℚ) : WithTop ℚ) ≤ value) : spec.timeout = some .longest := by
  have above : 0 < value := lt_of_lt_of_le (by decide) long
  have limited := Binary64.isPositive_iff.2 ⟨value, known, above⟩
  rw [timeout_of_positive limited, Duration.ofPositive_of_long]
  intro finite
  rcases Binary64.value?_of_positive limited with ⟨_, same⟩ | ⟨infinite, _⟩
  · obtain rfl := Option.some.inj (known.symm.trans same)
    exact_mod_cast long
  · rw [infinite] at finite
    cases finite

/-- Of two budgets that are numbers the larger one has no shorter limit, and any limit is longer than none. There is no
limit exactly when a budget is not a number or not above zero. Up to the end of what can be counted the limit is
the budget to half a nanosecond, and from there on it is the longest one. -/
theorem timeout_follows_budget :
    (∀ (first second : FunctionSpec) (low high : WithBot (WithTop ℚ)), first.maxRuntimeSeconds.value? = some low →
      second.maxRuntimeSeconds.value? = some high → low ≤ high → first.timeout ≤ second.timeout) ∧
    ∀ spec : FunctionSpec,
      (spec.timeout = none ↔
        spec.maxRuntimeSeconds.isNaN = true ∨ ∃ value ≤ 0, spec.maxRuntimeSeconds.value? = some value) ∧
      (∀ seconds : ℚ, spec.maxRuntimeSeconds.value? = some (seconds : WithTop ℚ) → 0 < seconds → seconds < 2 ^ 64 →
        ∃ limit, spec.timeout = some limit ∧ |seconds * 10 ^ 9 - limit.nanoseconds| ≤ 1 / 2) ∧
      ∀ value, spec.maxRuntimeSeconds.value? = some value → ((2 ^ 64 : ℚ) : WithTop ℚ) ≤ value →
        spec.timeout = some .longest := by
  refine ⟨fun first second low high => timeout_mono, fun spec => ⟨?_, ?_, fun value => timeout_of_long⟩⟩
  · rw [spec.timeout_eq_none_iff, Binary64.isPositive_eq_false_iff]
  · intro seconds known above short
    obtain ⟨limit, limited, rounds⟩ := timeout_of_short known above short
    exact ⟨limit, limited, rounds.nearest⟩

section

def budgeted (bits : UInt64) : FunctionSpec :=
  { empty with maxRuntimeSeconds := ⟨bits⟩ }

/-- The least positive budget runs isolated with no time at all, and a tie goes down to the even nanosecond. The last
budget below the end is not the longest limit yet, and the one at the end is. -/
theorem timeout_of_edges :
    (budgeted 1).timeout = some ⟨0⟩ ∧ (budgeted 0x3F50000000000000).timeout = some ⟨976562⟩ ∧
      (budgeted 1).timeout ≤ (budgeted 0x3F50000000000000).timeout ∧
      (∃ limit, (budgeted 0x43EFFFFFFFFFFFFF).timeout = some limit ∧
        |(2 ^ 64 - 2048) * 10 ^ 9 - (limit.nanoseconds : ℚ)| ≤ 1 / 2) ∧
      (budgeted 0x43F0000000000000).timeout = some .longest := by
  have least : (budgeted 1).maxRuntimeSeconds.value? = some ((1 / 2 ^ 1074 : ℚ) : WithTop ℚ) := by decide +kernel
  have tie : (budgeted 0x3F50000000000000).maxRuntimeSeconds.value? = some ((1 / 1024 : ℚ) : WithTop ℚ) := by
    decide +kernel
  have last : (budgeted 0x43EFFFFFFFFFFFFF).maxRuntimeSeconds.value? = some ((2 ^ 64 - 2048 : ℚ) : WithTop ℚ) := by
    decide +kernel
  have limit : (budgeted 0x43F0000000000000).maxRuntimeSeconds.value? = some ((2 ^ 64 : ℚ) : WithTop ℚ) := by
    decide +kernel
  refine ⟨by decide +kernel, by decide +kernel, ?_, ?_, ?_⟩
  · exact timeout_follows_budget.1 _ _ _ _ least tie (by decide +kernel)
  · exact (timeout_follows_budget.2 _).2.1 _ last (by norm_num) (by norm_num)
  · exact (timeout_follows_budget.2 _).2.2 _ limit le_rfl

end

end FunctionSpec

end CallPolicy
