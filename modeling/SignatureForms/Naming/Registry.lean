/-!
# Registries of names

Hands out operation names within one client. The first request for a name gets the name itself,
later ones get it with a running number.

* `Registry.reserve_fst_of_not_mem` — a name that was not asked for before is given as it is.
-/

namespace SignatureForms.Naming

/-- The names that were asked for, each with the number of later requests. -/
structure Registry where
  /-- The names and their counts, in order of first request. -/
  counts : List (String × Nat)
deriving DecidableEq, Repr, Inhabited

namespace Registry

/-- The registry before any request. -/
def empty : Registry := ⟨[]⟩

/-- Raises the count of a name. -/
def bump (name : String) : List (String × Nat) → List (String × Nat)
  | [] => []
  | (n, count) :: rest =>
    if n = name then (n, count + 1) :: rest else (n, count) :: bump name rest

/-- Asks for a name. -/
def reserve (r : Registry) (name : String) : String × Registry :=
  match r.counts.lookup name with
  | none => (name, ⟨r.counts ++ [(name, 0)]⟩)
  | some count => (name ++ toString (count + 1), ⟨bump name r.counts⟩)

/-- Asks for several names in turn. -/
def reserveAll (r : Registry) : List String → List String
  | [] => []
  | name :: rest => (r.reserve name).1 :: (r.reserve name).2.reserveAll rest

/-- A name that was not asked for before is given as it is. -/
theorem reserve_fst_of_not_mem {r : Registry} {name : String}
    (h : r.counts.lookup name = none) : (r.reserve name).1 = name := by
  simp [reserve, h]

end Registry

end SignatureForms.Naming
