import SignatureForms.Json.Writer

/-!
# Visibility conditions

A form entry is visible while every clause of its condition holds; a clause asks one control to
have one value. The clauses keep their order, so merging is an ordered union and does not depend
on how merges are bracketed.

* `Condition.merge_empty`, `Condition.empty_merge` — no clauses, no restriction.
* `Condition.mem_merge` — a merged condition asks what its two parts ask.
-/

namespace SignatureForms

/-- A demand that the control `key` has the value `value`. -/
structure Clause where
  /-- The name of the control. -/
  key : String
  /-- The value it must have. -/
  value : String
deriving DecidableEq, Repr, Inhabited

/-- A conjunction of clauses. -/
structure Condition where
  /-- The clauses, in order. -/
  clauses : List Clause
deriving DecidableEq, Repr, Inhabited

namespace Condition

/-- The condition that always holds. -/
def empty : Condition := ⟨[]⟩

/-- The condition with one clause. -/
def when (key value : String) : Condition := ⟨[⟨key, value⟩]⟩

/-- The condition asks nothing. -/
def isEmpty (c : Condition) : Bool := c.clauses.isEmpty

/-- Appends the clauses that are not there yet. -/
def addMissing (known : List Clause) : List Clause → List Clause
  | [] => known
  | clause :: rest =>
    addMissing (if clause ∈ known then known else known ++ [clause]) rest

/-- Both conditions at once: the clauses of the first, then the new ones of the second. A
condition merged with an empty one stays as it is. -/
def merge (a b : Condition) : Condition :=
  if b.isEmpty then a
  else if a.isEmpty then b
  else ⟨addMissing a.clauses b.clauses⟩

/-- The condition in the notation of forms: a lone clause, or the word `AND` and the clauses. -/
def toList (c : Condition) : List Json :=
  match c.clauses.map fun clause => Json.obj [(clause.key, .str clause.value)] with
  | [clause] => [clause]
  | clauses => .str "AND" :: clauses

/-- The notation of forms as one line of text; nothing for an empty condition. -/
def text (c : Condition) : String :=
  if c.isEmpty then "" else (Json.arr c.toList).compact

@[simp]
theorem merge_empty (a : Condition) : a.merge empty = a := rfl

@[simp]
theorem empty_merge (a : Condition) : empty.merge a = a := by
  obtain ⟨clauses⟩ := a
  cases clauses <;> rfl

theorem mem_addMissing {clause : Clause} {known added : List Clause} :
    clause ∈ addMissing known added ↔ clause ∈ known ∨ clause ∈ added := by
  induction added generalizing known with
  | nil => simp [addMissing]
  | cons c rest ih =>
    rw [addMissing, ih]
    split <;> simp <;> grind

/-- A merged condition asks what its two parts ask. -/
theorem mem_merge {clause : Clause} {a b : Condition} :
    clause ∈ (a.merge b).clauses ↔ clause ∈ a.clauses ∨ clause ∈ b.clauses := by
  unfold merge isEmpty
  split
  · simp_all
  · split
    · simp_all
    · simp [mem_addMissing]

end Condition

end SignatureForms
