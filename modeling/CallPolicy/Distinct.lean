/-! First occurrences in a list. -/

set_option autoImplicit false

namespace CallPolicy

variable {α : Type} [DecidableEq α]

/-- A list without later repetitions. -/
def distinct : List α → List α
  | [] => []
  | head :: rest => head :: (distinct rest).filter (· != head)

@[simp] theorem mem_distinct {x : α} {list : List α} : x ∈ distinct list ↔ x ∈ list := by
  induction list with
  | nil => simp [distinct]
  | cons head rest ih =>
    by_cases same : x = head <;> simp [distinct, ih, same]

theorem nodup_distinct (list : List α) : (distinct list).Nodup := by
  induction list with
  | nil => simp [distinct]
  | cons head rest ih =>
    exact List.nodup_cons.2 ⟨by simp, ih.filter _⟩

theorem distinct_of_nodup {list : List α} (nodup : list.Nodup) : distinct list = list := by
  induction list with
  | nil => rfl
  | cons head rest ih =>
    obtain ⟨fresh, nodup⟩ := List.nodup_cons.1 nodup
    rw [distinct, ih nodup]
    refine congrArg _ (List.filter_eq_self.2 fun x member => ?_)
    simpa using fun same : x = head => fresh (same ▸ member)

theorem distinct_append (first second : List α) :
    distinct (first ++ second) = distinct first ++ (distinct second).filter (· ∉ first) := by
  induction first with
  | nil => exact (List.filter_eq_self.2 (by simp)).symm
  | cons head rest ih =>
    rw [List.cons_append, distinct, distinct, ih, List.filter_append, List.filter_filter, List.cons_append]
    congr 2
    refine List.filter_congr fun x _ => ?_
    by_cases same : x = head <;> simp [same]

/-- Repetitions may be left out before more is added. -/
theorem distinct_distinct_append (first second : List α) : distinct (distinct first ++ second) = distinct (first ++ second) := by
  rw [distinct_append, distinct_append, distinct_of_nodup (nodup_distinct first)]
  simp only [mem_distinct]

theorem distinct_filter (select : α → Bool) (list : List α) : distinct (list.filter select) = (distinct list).filter select := by
  induction list with
  | nil => rfl
  | cons head rest ih =>
    rw [distinct]
    cases selected : select head with
    | true =>
      rw [List.filter_cons_of_pos selected, List.filter_cons_of_pos selected, distinct, ih, List.filter_filter,
        List.filter_filter]
      simp only [Bool.and_comm]
    | false =>
      rw [List.filter_cons_of_neg (by simp [selected]), List.filter_cons_of_neg (by simp [selected]), ih,
        List.filter_filter]
      refine List.filter_congr fun x _ => ?_
      -- Only the head is left out twice, and it is not selected.
      by_cases same : x = head
      · simp [same, selected]
      · simp [same]

/-- What a list holds, each once, in the order of the first occurrences. -/
structure FirstOccurrences (list kept : List α) : Prop where
  mem_iff : ∀ x, x ∈ kept ↔ x ∈ list
  ordered : kept.Pairwise fun earlier later => list.idxOf earlier < list.idxOf later

theorem firstOccurrences_distinct (list : List α) : FirstOccurrences list (distinct list) where
  mem_iff _ := mem_distinct
  ordered := by
    induction list with
    | nil => exact .nil
    | cons head rest ih =>
      -- Behind the head everything else moves by one place.
      have shifted : ∀ x ∈ (distinct rest).filter (· != head), (head :: rest).idxOf x = rest.idxOf x + 1 := by
        intro x member
        have different : x ≠ head := by simpa using (List.mem_filter.1 member).2
        simp [List.idxOf_cons, beq_false_of_ne different.symm]
      rw [distinct, List.pairwise_cons]
      constructor
      · intro x member
        rw [List.idxOf_cons_self, shifted x member]
        exact Nat.succ_pos _
      · refine (ih.filter _).imp_of_mem fun firstMember secondMember before => ?_
        rw [shifted _ firstMember, shifted _ secondMember]
        exact Nat.succ_lt_succ before

end CallPolicy
