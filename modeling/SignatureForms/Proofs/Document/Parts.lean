import SignatureForms.Document.Types

/-!
# The parts of a type

The parts of a type stand under five keys. Each of them is read by itself, a section or a type, so
that what is to be known of the reading of all parts is known of each of them.

## Main results

* `readParts_eq`: the parts of a type are read from five of its keys.
-/

namespace SignatureForms.Document

/-- Reads no fields where there is no list of them. -/
def readNoFields (section? : Option Json) : Loading (List Field) := do
  match ← itemsOf section? with
  | [] => pure []
  | item :: _ => throw (.fieldShape item)

/-- Reads the fields under a key. -/
def readFieldSection (table : NamedTypes) : Option Json → Loading (List Field)
  | some (.arr items) => readFields table items
  | section? => readNoFields section?

/-- Reads the type under a key, if there is one. -/
def readGiven (table : NamedTypes) : Option Json → Loading (Option TypeId)
  | some value => some <$> readType table value
  | none => pure none

/-- Reads the words for members where there is no list of them. -/
def readWords (section? : Option Json) : Loading (List TypeId) := do
  (← itemsOf section?).mapM fun item => addWord item.display

/-- Reads the members under a key. -/
def readMemberSection (table : NamedTypes) : Option Json → Loading (List TypeId)
  | some (.arr items) => readMembers table items
  | section? => readWords section?

/-- The items of a list that is found in a mapping are smaller than the mapping. -/
theorem sizeOf_items_lt_of_lookup {entries : Json.Entries} {key : String} {items : List Json}
    (h : entries.lookup key = some (.arr items)) : sizeOf items < sizeOf entries := by
  have hlt := Json.sizeOf_lt_of_lookup h
  rw [Json.arr.sizeOf_spec] at hlt
  omega

/-- The parts of a type are read from five of its keys. -/
theorem readParts_eq (table : NamedTypes) (entries : Json.Entries) (d : TypeDescriptor) :
    readParts table entries d = (do
      let fields ← readFieldSection table (entries.lookup "fields")
      let valueType ← readGiven table (Json.given? entries "valueType")
      let elementType ← readGiven table (Json.given? entries "elementType")
      let members ← readMemberSection table (entries.lookup "members")
      let constraint ← readGiven table (Json.given? entries "constraint")
      return { d with fields, valueType, elementType, members, constraint }) := by
  rw [readParts]
  congr 1
  · cases entries.lookup "fields" with
    | none => rfl
    | some value => cases value <;> rfl
  funext fields
  congr 1
  · cases Json.given? entries "valueType" <;> rfl
  funext valueType
  congr 1
  · cases Json.given? entries "elementType" <;> rfl
  funext elementType
  congr 1
  · cases entries.lookup "members" with
    | none => rfl
    | some value => cases value <;> rfl
  funext members
  congr 1
  cases Json.given? entries "constraint" <;> rfl

end SignatureForms.Document
