import SignatureForms.Proofs.Document.TableOrder

/-!
# Loading the type table

Once the type table of a document has been read, each of its names has a number, and the type of
this number has been filled in with the parts of the named type. What is read afterwards does not
change this.

The module introduces:

* `namedEntries section?` — the entries of the table of a document, of which there may be none;
* `Loaded types table G` — the graph holds the named types of a table, and their parts.

## Main results

* `exists_filled_of_readNamedParts`: reading the parts of named types fills them in;
* `loaded_of_readTable`: so reading a table loads it.
-/

namespace SignatureForms.Document

variable {table : NamedTypes} {g h : TypeGraph}

/-! ## Filling in the named types -/

/-- A block stays in the graph while the parts of named types outside of it are read. -/
theorem holds_of_readNamedParts {id base : Nat} {bare : List BareType}
    {block : List TypeDescriptor} (hrun : readNamedParts table id bare g = .ok ((), h))
    (hholds : g.Holds base block) (hout : base + block.length ≤ id ∨ id + bare.length ≤ base) :
    h.Holds base block := by
  induction bare generalizing id g with
  | nil =>
    cases hrun
    exact hholds
  | cons entry rest ih =>
    obtain ⟨filled, mid, hfirst, hrest⟩ := readNamedParts_cons_eq_ok_iff.1 hrun
    obtain ⟨more, rfl⟩ := exists_append_of_readParts hfirst
    rw [List.length_cons] at hout
    exact ih hrest ((hholds.append more).modify (by omega) _) (by omega)

/-- Each named type is filled in with its parts, and what is added when they are read stays in the
graph. -/
theorem exists_filled_of_readNamedParts {id i : Nat} {bare : List BareType} {entry : BareType}
    (hrun : readNamedParts table id bare g = .ok ((), h)) (hknown : id + bare.length ≤ g.size)
    (hentry : bare[i]? = some entry) :
    ∃ g₀ block filled, readParts table entry.2.1 entry.2.2 g₀ = .ok (filled, g₀.append block) ∧
      h.Holds (id + i) [filled] ∧ h.Holds g₀.size block := by
  induction bare generalizing id i g with
  | nil => cases hentry
  | cons first rest ih =>
    obtain ⟨filled, mid, hfirst, hrest⟩ := readNamedParts_cons_eq_ok_iff.1 hrun
    obtain ⟨block, rfl⟩ := exists_append_of_readParts hfirst
    rw [List.length_cons] at hknown
    cases i with
    | zero =>
      -- the type is filled in now, and those that follow have other numbers
      cases hentry
      have hid : id < (g.append block).size := by
        rw [TypeGraph.size_append]
        omega
      have htype := TypeGraph.holds_modify hid filled
      have hout : id < g.size ∨ g.size + block.length ≤ id := .inl (by omega)
      have hblock := (TypeGraph.holds_append_size g block).modify hout fun _ => filled
      exact ⟨g, block, filled, hfirst, holds_of_readNamedParts hrest htype (.inl (Nat.le_refl _)),
        holds_of_readNamedParts hrest hblock (.inr (by omega))⟩
    | succ i =>
      have hsize : id + 1 + rest.length ≤ ((g.append block).modify id fun _ => filled).size := by
        rw [TypeGraph.size_modify, TypeGraph.size_append]
        omega
      have hid : id + (i + 1) = id + 1 + i := by omega
      rw [hid]
      exact ih hrest hsize hentry

/-! ## Loading the table -/

/-- The graph holds the named types of a table under their numbers, and what was added to it when
their parts were read. -/
structure Loaded (types : Json.Entries) (table : NamedTypes) (G : TypeGraph) : Prop where
  /-- A name without a number is none of the table. -/
  unknown : ∀ name, table.lookup name = none → types.lookup name = none
  /-- A name with a number is one of the table, and its type has been filled in. -/
  known : ∀ name id, table.lookup name = some id → ∃ parts kind,
    (types.lookup name = some (.obj parts) ∧ parts.lookup "kind" = some kind) ∧
    ∃ g block filled,
      readParts table parts (entryType name parts kind).2.2 g = .ok (filled, g.append block) ∧
      G.Holds id [filled] ∧ G.Holds g.size block

theorem Loaded.append {types : Json.Entries} (hloaded : Loaded types table g)
    (more : List TypeDescriptor) : Loaded types table (g.append more) where
  unknown := hloaded.unknown
  known name id hid := by
    obtain ⟨parts, kind, hentry, g₀, block, filled, hrun, htype, hblock⟩ :=
      hloaded.known name id hid
    exact ⟨parts, kind, hentry, g₀, block, filled, hrun, htype.append more, hblock.append more⟩

/-- The names of a table have the numbers of their entries. -/
theorem lookup_of_bareTypes {types : Json.Entries} {bare : List BareType}
    (hbare : bareTypes types = .ok bare) (first : Nat) (name : String) :
    (((bare.map Prod.fst).zipIdx first).lookup name = none ∧ types.lookup name = none) ∨
      ∃ i parts kind, ((bare.map Prod.fst).zipIdx first).lookup name = some (first + i) ∧
        bare[i]? = some (entryType name parts kind) ∧
        types.lookup name = some (.obj parts) ∧ parts.lookup "kind" = some kind := by
  induction types generalizing bare first with
  | nil =>
    cases hbare
    exact .inl ⟨rfl, rfl⟩
  | cons entry rest ih =>
    obtain ⟨parts, kind, others, ⟨hvalue, hkind⟩, hothers, rfl⟩ := bareTypes_cons_eq_ok_iff.1 hbare
    rw [List.map_cons, List.zipIdx_cons, List.lookup_cons, List.lookup_cons]
    cases hname : name == entry.1 with
    | true =>
      obtain rfl : name = entry.1 := eq_of_beq hname
      have hfirst : (entryType entry.1 parts kind).1 = entry.1 := rfl
      simp only [hfirst, beq_self_eq_true]
      exact .inr ⟨0, parts, kind, rfl, rfl, congrArg some hvalue, hkind⟩
    | false =>
      have hfirst : (name == (entryType entry.1 parts kind).1) = false := hname
      simp only [hfirst]
      rcases ih hothers (first + 1) with hnone | ⟨i, parts', kind', hid, hentry, hfound⟩
      · exact .inl hnone
      · refine .inr ⟨i + 1, parts', kind', ?_, hentry, hfound⟩
        rw [hid, Nat.add_assoc, Nat.add_comm 1 i]

/-- The entries of the table of a document. A table that is left out, null or empty has none. -/
def namedEntries (section? : Option Json) : Json.Entries :=
  match section? with
  | some (.obj types) => types
  | _ => []

/-- A table that can be read is a mapping, or it is read like an empty one. -/
theorem readTable_namedEntries {section? : Option Json}
    (hread : readTable section? g = .ok (table, h)) :
    readTable (some (.obj (namedEntries section?))) g = .ok (table, h) := by
  rcases section? with _ | value
  · exact hread
  cases htruthy : value.truthy with
  | false =>
    have hempty : readTable (some value) = readTable (some (.obj [])) := by
      simp only [readTable, Option.getD_some, htruthy]
      rfl
    cases value with
    | obj types => exact hread
    | _ =>
      rw [hempty] at hread
      exact hread
  | true =>
    cases value with
    | obj types => exact hread
    | _ =>
      simp only [readTable, Option.getD_some, htruthy] at hread
      cases hread

/-- Reading a table loads it. -/
theorem loaded_of_readTable {types : Json.Entries}
    (hread : readTable (some (.obj types)) .empty = .ok (table, g)) : Loaded types table g := by
  obtain ⟨bare, hbare, hlinks, rfl⟩ := readTable_eq_ok_iff.1 hread
  constructor
  · intro name hnone
    rcases lookup_of_bareTypes hbare 0 name with ⟨_, hunknown⟩ | ⟨i, _, _, hid, _⟩
    · exact hunknown
    · rw [namedTypes, hid] at hnone
      cases hnone
  · intro name id hid
    rcases lookup_of_bareTypes hbare 0 name with ⟨hnone, _⟩ | ⟨i, parts, kind, hi, hentry, hfound⟩
    · rw [namedTypes, hnone] at hid
      cases hid
    · rw [namedTypes, hi] at hid
      cases hid
      have hsize : 0 + bare.length = (bareGraph bare).size := by
        rw [size_bareGraph, Nat.zero_add]
      exact ⟨parts, kind, hfound,
        exists_filled_of_readNamedParts hlinks (Nat.le_of_eq hsize) hentry⟩

end SignatureForms.Document
