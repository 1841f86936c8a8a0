import Mathlib.Logic.Relation
import SignatureForms.Document.Types

/-!
# References to named types

A reference stands for the named type that it names. In a table in which no type refers back to
itself, each reference can be replaced by the body of the named type, and the references in this
body as well, until none is left.

The module introduces:

* `substitute define value` — a type whose references are replaced by what `define` gives for them;
* `bodyOf? types name` — the mapping that a named type of the table stands for;
* `references value` — the names that a type refers to;
* `Acyclic types` — no named type refers to itself, be it by way of others;
* `inlined types value` — a type with all references replaced.

## Main results

* `lookup_substituteEntries`: only the types in a mapping are changed;
* `substitute_congr`: only definitions of names that are referred to matter;
* `Acyclic.definition?_eq`: in a table without cycles a name stands for its body, in which each
  reference is replaced by what its name stands for.
-/

namespace SignatureForms

namespace Json

/-- The entries of a mapping but for those of one key. -/
def without (key : String) (entries : Entries) : Entries :=
  entries.filter fun entry => entry.1 != key

/-- Leaving out a key leaves out its value alone. -/
theorem lookup_without (key : String) (entries : Entries) (other : String) :
    (without key entries).lookup other = if other = key then none else entries.lookup other := by
  induction entries with
  | nil => grind [without]
  | cons entry rest ih => grind [without]

theorem without_comm (key other : String) (entries : Entries) :
    without key (without other entries) = without other (without key entries) := by
  simp only [without, List.filter_filter, Bool.and_comm]

/-- Leaving out a key that is there makes a mapping shorter. -/
theorem length_without_lt {key : String} {entries : Entries} {value : Json}
    (h : entries.lookup key = some value) : (without key entries).length < entries.length := by
  apply List.length_filter_lt_length_iff_exists.2
  obtain ⟨before, after, rfl, _⟩ := List.lookup_eq_some_iff.1 h
  exact ⟨(key, value), by simp, by simp⟩

end Json

namespace Document

/-! ## Replacing references -/

/-- What a value of a document stands for. -/
inductive Role where
  /-- A type. -/
  | type
  /-- The types of the members of a union. -/
  | types
  /-- A field of a record. -/
  | field
  /-- The fields of a record. -/
  | fields
  /-- Nothing that has to do with types. -/
  | other
deriving DecidableEq

/-- What the value of a key of a type stands for. -/
def typeRole (key : String) : Role :=
  if key = "fields" then .fields
  else if key = "members" then .types
  else if key = "valueType" ∨ key = "elementType" ∨ key = "constraint" then .type
  else .other

/-- What the value of a key of a field stands for. -/
def fieldRole (key : String) : Role :=
  if key = "type" then .type else .other

mutual

/-- Replaces the references in a value. A reference without a definition is left as it is. -/
def substitute (define : String → Option Json.Entries) : Role → Json → Json
  | .type, .obj entries =>
    match entries.lookup "ref" with
    | some (.str name) => .obj ((define name).getD entries)
    | some _ => .obj entries
    | none => .obj (substituteEntries define typeRole entries)
  | .field, .obj entries => .obj (substituteEntries define fieldRole entries)
  | .types, .arr items => .arr (substituteItems define .type items)
  | .fields, .arr items => .arr (substituteItems define .field items)
  | _, value => value

/-- Replaces the references in the values of a mapping. -/
def substituteEntries (define : String → Option Json.Entries) (role : String → Role) :
    Json.Entries → Json.Entries
  | [] => []
  | (key, value) :: rest =>
    (key, substitute define (role key) value) :: substituteEntries define role rest

/-- Replaces the references in the items of a list. -/
def substituteItems (define : String → Option Json.Entries) (role : Role) : List Json → List Json
  | [] => []
  | item :: rest => substitute define role item :: substituteItems define role rest

end

mutual

/-- The names that a value refers to. -/
def references : Role → Json → List String
  | .type, .obj entries =>
    match entries.lookup "ref" with
    | some (.str name) => [name]
    | some _ => []
    | none => entryReferences typeRole entries
  | .field, .obj entries => entryReferences fieldRole entries
  | .types, .arr items => itemReferences .type items
  | .fields, .arr items => itemReferences .field items
  | _, _ => []

/-- The names that the values of a mapping refer to. -/
def entryReferences (role : String → Role) : Json.Entries → List String
  | [] => []
  | (key, value) :: rest => references (role key) value ++ entryReferences role rest

/-- The names that the items of a list refer to. -/
def itemReferences (role : Role) : List Json → List String
  | [] => []
  | item :: rest => references role item ++ itemReferences role rest

end

section Substitution

variable {define define' : String → Option Json.Entries}

/-- A reference is replaced by what its name stands for. -/
theorem substitute_reference {entries : Json.Entries} {name : String}
    (h : entries.lookup "ref" = some (.str name)) :
    substitute define .type (.obj entries) = .obj ((define name).getD entries) := by
  rw [substitute, h]

/-- In a type that is written out, the references of the parts are replaced. -/
theorem substitute_obj {entries : Json.Entries} (h : entries.lookup "ref" = none) :
    substitute define .type (.obj entries) = .obj (substituteEntries define typeRole entries) := by
  rw [substitute, h]

/-- What is found under a key is what was there before, with its references replaced. -/
theorem lookup_substituteEntries (role : String → Role) (entries : Json.Entries) (key : String) :
    (substituteEntries define role entries).lookup key =
      (entries.lookup key).map (substitute define (role key)) := by
  induction entries with
  | nil => rfl
  | cons entry rest ih =>
    rw [substituteEntries, List.lookup_cons, List.lookup_cons]
    cases hkey : key == entry.1 with
    | false => exact ih
    | true => rw [eq_of_beq hkey, Option.map_some]

/-- What has nothing to do with types is left as it is. -/
theorem substitute_other (value : Json) : substitute define .other value = value := by
  cases value <;> rfl

theorem lookup_substituteEntries_of_other {role : String → Role} {key : String}
    (h : role key = .other) (entries : Json.Entries) :
    (substituteEntries define role entries).lookup key = entries.lookup key := by
  rw [lookup_substituteEntries, h]
  cases entries.lookup key with
  | none => rfl
  | some value => exact congrArg some (substitute_other value)

/-- A value that is given is given after the replacement, and one that is not is not. -/
theorem given?_substituteEntries (role : String → Role) (entries : Json.Entries) (key : String) :
    Json.given? (substituteEntries define role entries) key =
      (Json.given? entries key).map (substitute define (role key)) := by
  rw [Json.given?, Json.given?, lookup_substituteEntries]
  rcases entries.lookup key with _ | value
  · rfl
  -- a replacement does not change what kind of value there is
  cases value with
  | null => cases role key <;> rfl
  | obj entries =>
    cases role key with
    | type =>
      simp only [Option.map_some, substitute]
      rcases entries.lookup "ref" with _ | _ | _ | _ | _ | _ | _ | _ <;> rfl
    | _ => rfl
  | _ => cases role key <;> rfl

/-- What replaces a value of a mapping is smaller than what replaces the mapping. -/
theorem sizeOf_substitute_lt (define : String → Option Json.Entries) (role : String → Role)
    {entries : Json.Entries} {key : String} {value : Json}
    (h : entries.lookup key = some value) :
    sizeOf (substitute define (role key) value) <
      sizeOf (substituteEntries define role entries) := by
  have hfound : (substituteEntries define role entries).lookup key =
      some (substitute define (role key) value) := by
    rw [lookup_substituteEntries, h, Option.map_some]
  exact Json.sizeOf_lt_of_lookup hfound

theorem sizeOf_substitute_lt_of_given (define : String → Option Json.Entries)
    (role : String → Role) {entries : Json.Entries} {key : String} {value : Json}
    (h : Json.given? entries key = some value) :
    sizeOf (substitute define (role key) value) <
      sizeOf (substituteEntries define role entries) := by
  have hgiven : Json.given? (substituteEntries define role entries) key =
      some (substitute define (role key) value) := by
    rw [given?_substituteEntries, h, Option.map_some]
  exact Json.sizeOf_lt_of_given hgiven

mutual

/-- Definitions of names that a value does not refer to are of no importance. -/
theorem substitute_congr (role : Role) (value : Json) :
    (∀ name ∈ references role value, define name = define' name) →
      substitute define role value = substitute define' role value := by
  cases value with
  | obj entries =>
    intro h
    cases role with
    | type =>
      rw [substitute, substitute]
      rw [references] at h
      -- a reference is replaced as a whole, and nothing below it is looked at
      cases href : entries.lookup "ref" with
      | none =>
        rw [href] at h
        exact congrArg Json.obj (substituteEntries_congr typeRole entries h)
      | some reference =>
        rw [href] at h
        cases reference with
        | str name => simp only [h name (List.mem_singleton.2 rfl)]
        | _ => rfl
    | field => exact congrArg Json.obj (substituteEntries_congr fieldRole entries h)
    | _ => rfl
  | arr items =>
    intro h
    cases role with
    | types => exact congrArg Json.arr (substituteItems_congr .type items h)
    | fields => exact congrArg Json.arr (substituteItems_congr .field items h)
    | _ => rfl
  | _ =>
    intro _
    cases role <;> rfl
termination_by sizeOf value

theorem substituteEntries_congr (role : String → Role) (entries : Json.Entries) :
    (∀ name ∈ entryReferences role entries, define name = define' name) →
      substituteEntries define role entries = substituteEntries define' role entries := by
  rcases entries with _ | ⟨⟨key, value⟩, rest⟩
  · intro _
    rfl
  · intro h
    rw [entryReferences, List.forall_mem_append] at h
    rw [substituteEntries, substituteEntries, substitute_congr (role key) value h.1,
      substituteEntries_congr role rest h.2]
termination_by sizeOf entries

theorem substituteItems_congr (role : Role) (items : List Json) :
    (∀ name ∈ itemReferences role items, define name = define' name) →
      substituteItems define role items = substituteItems define' role items := by
  rcases items with _ | ⟨item, rest⟩
  · intro _
    rfl
  · intro h
    rw [itemReferences, List.forall_mem_append] at h
    rw [substituteItems, substituteItems, substitute_congr role item h.1,
      substituteItems_congr role rest h.2]
termination_by sizeOf items

end

end Substitution

/-! ## Tables without cycles -/

/-- The mapping of a named type, as it stands for the name. It is a definition and not a reference
itself, whatever it holds under the key `ref`, and without a name of its own it is called by the
name of the table. -/
def namedBody (name : String) (parts : Json.Entries) : Json.Entries :=
  Json.put "name" ((parts.lookup "name").getD (.str name)) (Json.without "ref" parts)

theorem lookup_namedBody (name : String) (parts : Json.Entries) (key : String) :
    (namedBody name parts).lookup key =
      if key = "name" then some ((parts.lookup "name").getD (.str name))
      else if key = "ref" then none else parts.lookup key := by
  rw [namedBody, Json.lookup_put, Json.lookup_without]

/-- What a name of the table stands for. -/
def bodyOf? (types : Json.Entries) (name : String) : Option Json.Entries :=
  match types.lookup name with
  | some (.obj parts) => some (namedBody name parts)
  | _ => none

/-- The body of a named type refers to a name. -/
def RefersTo (types : Json.Entries) (name other : String) : Prop :=
  ∃ body ∈ bodyOf? types name, other ∈ entryReferences typeRole body

/-- No named type refers to itself, be it by way of others. -/
def Acyclic (types : Json.Entries) : Prop :=
  ∀ name, ¬ Relation.TransGen (RefersTo types) name name

/-- A name that stands for a mapping is in the table. -/
theorem exists_lookup_of_bodyOf? {types : Json.Entries} {name : String} {body : Json.Entries}
    (h : bodyOf? types name = some body) : ∃ value, types.lookup name = some value := by
  unfold bodyOf? at h
  split at h
  · exact ⟨_, by assumption⟩
  · cases h

theorem length_without_lt_of_bodyOf? {types : Json.Entries} {name : String} {body : Json.Entries}
    (h : bodyOf? types name = some body) : (Json.without name types).length < types.length := by
  obtain ⟨value, hvalue⟩ := exists_lookup_of_bodyOf? h
  exact Json.length_without_lt hvalue

/-- What a name of the table stands for, with all references replaced. On the way down from a name
the name itself is no longer known, so that this ends even if the table has cycles. -/
def definition? (types : Json.Entries) (name : String) : Option Json.Entries :=
  match _h : bodyOf? types name with
  | some body => some (substituteEntries (definition? (Json.without name types)) typeRole body)
  | none => none
termination_by types.length
decreasing_by exact length_without_lt_of_bodyOf? _h

/-- A type with all references to the table replaced. -/
def inlined (types : Json.Entries) (value : Json) : Json :=
  substitute (definition? types) .type value

section Cycles

variable {types : Json.Entries} {name other : String}

theorem definition?_eq_map (types : Json.Entries) (name : String) :
    definition? types name = (bodyOf? types name).map
      (substituteEntries (definition? (Json.without name types)) typeRole) := by
  rw [definition?]
  cases bodyOf? types name <;> rfl

theorem bodyOf?_without (types : Json.Entries) (name other : String) :
    bodyOf? (Json.without name types) other =
      if other = name then none else bodyOf? types other := by
  rw [bodyOf?, Json.lookup_without, bodyOf?]
  by_cases h : other = name
  · rw [if_pos h, if_pos h]
  · rw [if_neg h, if_neg h]

/-- Without a name, a table refers to no more than before. -/
theorem RefersTo.of_without {target : String}
    (h : RefersTo (Json.without target types) name other) : RefersTo types name other := by
  obtain ⟨body, hbody, hmem⟩ := h
  rw [bodyOf?_without] at hbody
  split at hbody
  · cases hbody
  · exact ⟨body, hbody, hmem⟩

/-- A name that is not referred to, be it by way of others, may be left out of the table. -/
theorem definition?_without (types : Json.Entries) (name target : String) (hne : name ≠ target)
    (h : ¬ Relation.TransGen (RefersTo types) name target) :
    definition? (Json.without target types) name = definition? types name := by
  rw [definition?_eq_map, definition?_eq_map, bodyOf?_without, if_neg hne]
  apply Option.map_congr
  intro body hbody
  apply substituteEntries_congr
  intro other hother
  have hrefers : RefersTo types name other := ⟨body, hbody, hother⟩
  have hother : other ≠ target := by
    rintro rfl
    exact h (.single hrefers)
  -- both definitions leave out `name` on the way down, and `target` is not met there either
  rw [Json.without_comm]
  apply definition?_without _ _ _ hother
  intro hchain
  have hchain := Relation.TransGen.mono (fun _ _ => RefersTo.of_without) _ _ hchain
  exact h (.head hrefers hchain)
termination_by types.length
decreasing_by exact length_without_lt_of_bodyOf? hbody

/-- In a table without cycles, a name stands for its body, in which each reference is replaced by
what its name stands for. -/
theorem Acyclic.definition?_eq (h : Acyclic types) (name : String) :
    definition? types name =
      (bodyOf? types name).map (substituteEntries (definition? types) typeRole) := by
  rw [definition?_eq_map]
  apply Option.map_congr
  intro body hbody
  apply substituteEntries_congr
  intro other hother
  have hrefers : RefersTo types name other := ⟨body, hbody, hother⟩
  -- a way from `other` back to `name` would close a cycle
  apply definition?_without
  · rintro rfl
    exact h _ (.single hrefers)
  · intro hback
    exact h _ (.head hrefers hback)

/-- A table has no cycles if each named type refers to types of a lower rank. -/
theorem acyclic_of_rank (rank : String → Nat)
    (h : ∀ name ∈ types.map Prod.fst, ∀ body ∈ bodyOf? types name,
      ∀ other ∈ entryReferences typeRole body, rank other < rank name) : Acyclic types := by
  have hstep {name other : String} (hrefers : RefersTo types name other) :
      rank other < rank name := by
    obtain ⟨body, hbody, hother⟩ := hrefers
    obtain ⟨value, hvalue⟩ := exists_lookup_of_bodyOf? hbody
    obtain ⟨before, after, rfl, _⟩ := List.lookup_eq_some_iff.1 hvalue
    exact h name (by simp) body hbody other hother
  have hchain {name other : String} (hchain : Relation.TransGen (RefersTo types) name other) :
      rank other < rank name := by
    induction hchain with
    | single hrefers => exact hstep hrefers
    | tail _ hrefers ih => exact Nat.lt_trans (hstep hrefers) ih
  intro name hcircle
  exact Nat.lt_irrefl _ (hchain hcircle)

end Cycles

end Document

end SignatureForms
