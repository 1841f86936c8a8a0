/-!
# Documents as data

A JSON value as a descriptor document holds it. The order of the keys of a mapping is kept,
because named types are visited, settings checked and mappings printed in that order, and an
integer is told from a number with a fraction or an exponent.

* `Json.keys_put` — writing a key keeps the place of a key that is there and adds a new key last;
* `Json.lookup_put`, `Json.put_put`, `Json.put_eq_self` — what is found under a key is what was
  written last.
-/

namespace SignatureForms

/-- A JSON value. The keys of a mapping are pairwise distinct when it was built by `Json.put`. -/
inductive Json where
  /-- The absent value. -/
  | null
  /-- A truth value. -/
  | bool (value : Bool)
  /-- A whole number of any size. -/
  | int (value : Int)
  /-- A number written with a fraction or an exponent. -/
  | float (value : Float)
  /-- A text. -/
  | str (value : String)
  /-- A list. -/
  | arr (items : List Json)
  /-- A mapping, its keys in order. -/
  | obj (entries : List (String × Json))
deriving Inhabited

namespace Json

/-- The entries of a mapping under construction, in key order. -/
abbrev Entries := List (String × Json)

/-- Sets the value of a key. A key that is there keeps its place, a new one comes last. -/
def put (key : String) (value : Json) : Entries → Entries
  | [] => [(key, value)]
  | (k, v) :: rest => if k = key then (k, value) :: rest else (k, v) :: put key value rest

/-- Entries in which a repeated key has the place of its first and the value of its last
occurrence. -/
def ofPairs (pairs : List (String × Json)) : Entries :=
  pairs.foldl (fun entries pair => put pair.1 pair.2 entries) []

/-- A value that counts as a refusal or as nothing: null, false, zero, or empty. -/
def truthy : Json → Bool
  | null => false
  | bool b => b
  | int i => i != 0
  | float x => x != 0.0
  | str s => !s.isEmpty
  | arr items => !items.isEmpty
  | obj entries => !entries.isEmpty

/-- What messages call the shape of a value. -/
def typeName : Json → String
  | null => "NoneType"
  | bool _ => "bool"
  | int _ => "int"
  | float _ => "float"
  | str _ => "str"
  | arr _ => "list"
  | obj _ => "dict"

/-- What a walk over the value meets: the items of a list, the keys of a mapping, the characters
of a text. Other values cannot be walked over. -/
def elements? : Json → Option (List Json)
  | arr items => some items
  | obj entries => some (entries.map fun entry => str entry.1)
  | str s => some (s.toList.map fun c => str c.toString)
  | _ => none

/-- The value of a key, an explicit null counting as no value. -/
def given? (entries : Entries) (key : String) : Option Json :=
  match entries.lookup key with
  | some null => none
  | found => found

@[simp]
theorem keys_put (key : String) (value : Json) (entries : Entries) :
    (put key value entries).map Prod.fst =
      if key ∈ entries.map Prod.fst then entries.map Prod.fst
      else entries.map Prod.fst ++ [key] := by
  induction entries with
  | nil => simp [put]
  | cons entry rest ih =>
    obtain ⟨k, v⟩ := entry
    by_cases h : k = key
    · simp [put, h]
    · have h' : ¬ key = k := fun e => h e.symm
      by_cases hm : key ∈ rest.map Prod.fst <;> simp_all [put]

/-- Setting the value of a key changes the value of no other key. -/
theorem lookup_put (key : String) (value : Json) (entries : Entries) (other : String) :
    (put key value entries).lookup other =
      if other = key then some value else entries.lookup other := by
  induction entries with
  | nil => grind [put]
  | cons entry rest ih => grind [put]

/-- Of two values that are set for a key the last one counts. -/
theorem put_put (key : String) (value other : Json) (entries : Entries) :
    put key value (put key other entries) = put key value entries := by
  induction entries with
  | nil => grind [put]
  | cons entry rest ih => grind [put]

/-- Setting a value that is there changes nothing. -/
theorem put_eq_self {key : String} {value : Json} {entries : Entries}
    (h : entries.lookup key = some value) : put key value entries = entries := by
  induction entries with
  | nil => cases h
  | cons entry rest ih => grind [put]

/-- A value found in a mapping is smaller than the mapping. -/
theorem sizeOf_lt_of_lookup {entries : Entries} {key : String} {value : Json}
    (h : entries.lookup key = some value) : sizeOf value < sizeOf entries := by
  induction entries with
  | nil => simp at h
  | cons entry rest ih =>
    obtain ⟨k, v⟩ := entry
    rw [List.lookup_cons] at h
    split at h
    · cases h
      simp
      omega
    · have := ih h
      simp
      omega

theorem sizeOf_lt_of_given {entries : Entries} {key : String} {value : Json}
    (h : given? entries key = some value) : sizeOf value < sizeOf entries := by
  unfold given? at h
  split at h
  · cases h
  · exact sizeOf_lt_of_lookup h

end Json

end SignatureForms
