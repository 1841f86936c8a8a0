import SignatureForms.Condition

/-!
# Merging conditions

The laws by which conditions are merged along a path of a tree. A merged condition keeps the order
of its clauses, and a condition that repeats a clause keeps the repeats only while it is merged
with nothing; the laws hold all the same.

## Main results

* `Condition.merge_assoc`: how merges are bracketed does not matter;
* `Condition.subset_merge_left`: nothing is lost in a merge.
-/

namespace SignatureForms.Condition

/-- Adding two lists of clauses in turn is adding them together. -/
theorem addMissing_append (known first second : List Clause) :
    addMissing known (first ++ second) = addMissing (addMissing known first) second := by
  induction first generalizing known with
  | nil => rfl
  | cons clause rest ih => exact ih _

theorem addMissing_singleton (known : List Clause) (clause : Clause) :
    addMissing known [clause] = if clause ∈ known then known else known ++ [clause] := rfl

/-- Adding to a list what is added to another one is adding both in turn: what the second list
already has is not missing from the first one afterwards. -/
theorem addMissing_addMissing (known first second : List Clause) :
    addMissing known (addMissing first second) = addMissing (addMissing known first) second := by
  induction second generalizing first with
  | nil => rfl
  | cons clause rest ih =>
    rw [addMissing, ih, addMissing]
    by_cases hfirst : clause ∈ first
    · have hboth : clause ∈ addMissing known first := mem_addMissing.2 (.inr hfirst)
      rw [if_pos hfirst, if_pos hboth]
    · rw [if_neg hfirst, addMissing_append, addMissing_singleton]

/-- Adding clauses to some clauses leaves some. -/
theorem addMissing_ne_nil {known : List Clause} (h : known ≠ []) (added : List Clause) :
    addMissing known added ≠ [] := by
  obtain ⟨clause, hclause⟩ := List.exists_mem_of_ne_nil known h
  exact List.ne_nil_of_mem (mem_addMissing.2 (.inl hclause))

/-- Two conditions that both ask something merge to the clauses of the first one with those of the
second that it lacks. -/
theorem merge_of_ne_nil {a b : Condition} (ha : a.clauses ≠ []) (hb : b.clauses ≠ []) :
    a.merge b = ⟨addMissing a.clauses b.clauses⟩ := by
  rw [merge, isEmpty, isEmpty, if_neg (by simpa using hb), if_neg (by simpa using ha)]

/-- How merges are bracketed does not matter. -/
theorem merge_assoc (a b c : Condition) : (a.merge b).merge c = a.merge (b.merge c) := by
  by_cases ha : a.clauses = []
  · obtain rfl : a = empty := congrArg Condition.mk ha
    rw [empty_merge, empty_merge]
  by_cases hb : b.clauses = []
  · obtain rfl : b = empty := congrArg Condition.mk hb
    rw [empty_merge, merge_empty]
  by_cases hc : c.clauses = []
  · obtain rfl : c = empty := congrArg Condition.mk hc
    rw [merge_empty, merge_empty]
  · have hab : (addMissing a.clauses b.clauses) ≠ [] := addMissing_ne_nil ha b.clauses
    have hbc : (addMissing b.clauses c.clauses) ≠ [] := addMissing_ne_nil hb c.clauses
    rw [merge_of_ne_nil ha hb, merge_of_ne_nil hb hc, merge_of_ne_nil hab hc,
      merge_of_ne_nil ha hbc]
    exact congrArg Condition.mk (addMissing_addMissing _ _ _).symm

/-- A merged condition asks all that its first part asks. -/
theorem subset_merge_left (a b : Condition) : a.clauses ⊆ (a.merge b).clauses :=
  fun _ h => mem_merge.2 (.inl h)

@[simp]
theorem mem_when {clause : Clause} {key value : String} :
    clause ∈ (when key value).clauses ↔ clause = ⟨key, value⟩ := List.mem_singleton

end SignatureForms.Condition
