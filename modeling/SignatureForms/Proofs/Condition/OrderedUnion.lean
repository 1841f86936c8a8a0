import Mathlib.Data.List.Nodup
import SignatureForms.Proofs.Form.Visibility

/-!
# Conditions as ordered sets of clauses

Merging two conditions is a union of their clauses that keeps the order of both. A merge with
nothing returns the other side as it is, repeats included, while any other merge drops the repeats
of its second side; the laws of an ordered union hold in both cases.

The module introduces:

* `Condition.writtenClause? item` — the clause that one object of a written condition stands for.

## Main results

* `merge_eq_self_of_subset`: merging with what is asked already changes nothing;
* `clauses_merge_of_nodup`: clauses of which none stands twice come last, as far as they are new;
* `holds_merge_iff`: a merged condition holds where both of its parts do;
* `filterMap_writtenClause?_toList`: the clauses can be read back from a written condition;
* `merge_orderedUnion`: all laws together.
-/

namespace SignatureForms.Condition

/-! ## Missing clauses -/

/-- No clause is missing that is known. -/
theorem addMissing_of_subset {known added : List Clause} (h : added ⊆ known) :
    addMissing known added = known := by
  induction added with
  | nil => rfl
  | cons clause rest ih =>
    rw [List.cons_subset] at h
    rw [addMissing, if_pos h.1, ih h.2]

/-- Of clauses of which none stands twice, those are missing that are not known. -/
theorem addMissing_of_nodup {known added : List Clause} (h : added.Nodup) :
    addMissing known added = known ++ added.filter fun clause => clause ∉ known := by
  induction added generalizing known with
  | nil => exact (List.append_nil known).symm
  | cons clause rest ih =>
    obtain ⟨hnew, hrest⟩ := List.nodup_cons.1 h
    rw [addMissing, ih hrest]
    by_cases hknown : clause ∈ known
    · rw [if_pos hknown, List.filter_cons_of_neg (by simpa using hknown)]
    · -- the clause does not come again, so knowing it makes no difference to the rest
      have hsame : rest.filter (fun other => other ∉ known ++ [clause]) =
          rest.filter fun other => other ∉ known := by
        refine List.filter_congr fun other hother => ?_
        have hne : other ≠ clause := by
          rintro rfl
          exact hnew hother
        simp [hne]
      rw [if_neg hknown, List.filter_cons_of_pos (by simpa using hknown), hsame,
        List.append_assoc, List.singleton_append]

/-- Adding what is missing repeats nothing. -/
theorem nodup_addMissing {known : List Clause} (h : known.Nodup) (added : List Clause) :
    (addMissing known added).Nodup := by
  induction added generalizing known with
  | nil => exact h
  | cons clause rest ih =>
    rw [addMissing]
    split
    · exact ih h
    · next hnew =>
      refine ih ?_
      rw [← List.concat_eq_append]
      exact List.Nodup.concat hnew h

/-! ## Merged conditions -/

/-- Merging with what is asked already changes nothing, whether clauses are repeated or not. -/
theorem merge_eq_self_of_subset {a b : Condition} (h : b.clauses ⊆ a.clauses) : a.merge b = a := by
  by_cases hb : b.clauses = []
  · obtain rfl : b = empty := congrArg Condition.mk hb
    exact merge_empty a
  · have ha : a.clauses ≠ [] := by
      intro hnone
      rw [hnone] at h
      exact hb (List.subset_nil.1 h)
    rw [merge_of_ne_nil ha hb, addMissing_of_subset h]

/-- The clauses of the first condition come first, and those of the second one after them as far as
they are new, if none of these stands twice. -/
theorem clauses_merge_of_nodup (a : Condition) {b : Condition} (hb : b.clauses.Nodup) :
    (a.merge b).clauses = a.clauses ++ b.clauses.filter fun clause => clause ∉ a.clauses := by
  by_cases hnone : b.clauses = []
  · obtain rfl : b = empty := congrArg Condition.mk hnone
    rw [merge_empty]
    exact (List.append_nil _).symm
  by_cases hfirst : a.clauses = []
  · -- a merge with nothing does not look for repeats, but here there are none
    obtain rfl : a = empty := congrArg Condition.mk hfirst
    rw [empty_merge]
    exact (List.filter_eq_self.2 fun _ _ => rfl).symm
  · rw [merge_of_ne_nil hfirst hnone, addMissing_of_nodup hb]

/-- Merging conditions that do not repeat a clause repeats none. -/
theorem nodup_clauses_merge {a b : Condition} (ha : a.clauses.Nodup) (hb : b.clauses.Nodup) :
    (a.merge b).clauses.Nodup := by
  have hmissing := nodup_addMissing ha b.clauses
  rwa [addMissing_of_nodup hb, ← clauses_merge_of_nodup a hb] at hmissing

/-- A merged condition holds where both of its parts do. -/
theorem holds_merge_iff {choice : String → String} {a b : Condition} :
    (a.merge b).Holds choice ↔ a.Holds choice ∧ b.Holds choice := by
  simp only [Holds, mem_merge, or_imp, forall_and]

/-! ## Written conditions -/

/-- The clause that one object of a written condition stands for; other items stand for none. -/
def writtenClause? : Json → Option Clause
  | .obj [(key, .str value)] => some ⟨key, value⟩
  | _ => none

/-- The clauses can be read back from a written condition. -/
theorem filterMap_writtenClause?_toList (c : Condition) :
    c.toList.filterMap writtenClause? = c.clauses := by
  have hobjects : (c.clauses.map fun clause =>
      Json.obj [(clause.key, .str clause.value)]).filterMap writtenClause? = c.clauses := by
    rw [List.filterMap_map]
    exact List.filterMap_some
  rw [toList]
  -- the word ahead of several clauses, or of none, is no object
  split
  · next clause hone => rwa [hone] at hobjects
  · exact hobjects

/-- Different conditions are written differently. -/
theorem toList_inj {a b : Condition} (h : a.toList = b.toList) : a = b := by
  have hclauses : a.clauses = b.clauses := by
    rw [← filterMap_writtenClause?_toList a, h, filterMap_writtenClause?_toList]
  exact congrArg Condition.mk hclauses

/-! ## The laws -/

/-- Merging is the ordered union of clauses: it does not depend on how merges are bracketed, the
empty condition is neutral, and asking again for what is asked changes nothing. Conditions that do
not repeat a clause merge to one that does not, the clauses of the first one followed by the new
ones of the second. A merged condition holds where both of its parts do, and a condition can be told
from how it is written. -/
theorem merge_orderedUnion (a b c : Condition) :
    (a.merge b).merge c = a.merge (b.merge c) ∧
      empty.merge a = a ∧ a.merge empty = a ∧
      a.merge a = a ∧ (a.merge b).merge a = a.merge b ∧
      (a.clauses.Nodup → b.clauses.Nodup →
        (a.merge b).clauses.Nodup ∧
          (a.merge b).clauses = a.clauses ++ b.clauses.filter fun clause => clause ∉ a.clauses) ∧
      (∀ choice, (a.merge b).Holds choice ↔ a.Holds choice ∧ b.Holds choice) ∧
      Function.Injective toList :=
  ⟨merge_assoc a b c, empty_merge a, merge_empty a,
    merge_eq_self_of_subset (List.Subset.refl _), merge_eq_self_of_subset (subset_merge_left a b),
    fun ha hb => ⟨nodup_clauses_merge ha hb, clauses_merge_of_nodup a hb⟩,
    fun _ => holds_merge_iff, fun _ _ => toList_inj⟩

/-- The laws hold of a login behind a check box, a check box and a port, and a port that is asked
for twice. -/
theorem merge_orderedUnion_login :
    let login : Condition := ⟨[⟨"authDataType", "Login"⟩, ⟨"enable_auth", "true"⟩]⟩
    let proxy : Condition := ⟨[⟨"enable_auth", "true"⟩, ⟨"portDataType", "int"⟩]⟩
    let port : Condition := ⟨[⟨"portDataType", "int"⟩, ⟨"portDataType", "int"⟩]⟩
    login.clauses.Nodup ∧ proxy.clauses.Nodup ∧
      (login.merge proxy).merge port = login.merge (proxy.merge port) ∧
      port.merge port = port ∧
      (login.merge proxy).clauses.Nodup ∧
      (login.merge proxy).clauses =
        [⟨"authDataType", "Login"⟩, ⟨"enable_auth", "true"⟩, ⟨"portDataType", "int"⟩] ∧
      ∀ choice, (login.merge proxy).Holds choice ↔ login.Holds choice ∧ proxy.Holds choice := by
  intro login proxy port
  have hlogin : login.clauses.Nodup := by decide
  have hproxy : proxy.clauses.Nodup := by decide
  obtain ⟨hassoc, -, -, -, -, hnodup, hholds, -⟩ := merge_orderedUnion login proxy port
  obtain ⟨-, -, -, hself, -⟩ := merge_orderedUnion port port port
  obtain ⟨hdistinct, hclauses⟩ := hnodup hlogin hproxy
  exact ⟨hlogin, hproxy, hassoc, hself, hdistinct, hclauses, hholds⟩

end SignatureForms.Condition
