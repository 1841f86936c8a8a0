import SignatureForms.Fault

/-!
# Sections of a document

How the parts of a descriptor document are got at: texts, names, flags and lists. A section that
is left out, null or empty counts as empty. A list may also be given as a mapping, whose keys are
then the items, or as a text, whose characters are.

What stands in the place of a text that may be left out (the name of a type, a resolved name, a
documentation, the identifier of an operation, a connection type, an organisation) is always read as
a text, even if it is none. A reader that kept such a value as it is could fail later, at the first
use that needs a text; only a document that is ill-typed in one of these places tells the
difference.
-/

namespace SignatureForms.Document

/-- A value used as an optional text. What is no text counts as none if it is empty, zero or false,
and is otherwise replaced by the text by which it is shown. -/
def text? : Json → Option String
  | .null => none
  | .str s => some s
  | value => if value.truthy then some value.display else none

/-- The text of a key, if it has one. -/
def textAt? (entries : Json.Entries) (key : String) : Option String :=
  (entries.lookup key).bind text?

/-- The text of a key, empty when there is none. -/
def textAt (entries : Json.Entries) (key : String) : String :=
  (textAt? entries key).getD ""

/-- What a thing is for: its `doc`, or else its `description`. -/
def docOf (entries : Json.Entries) : Option String :=
  match entries.lookup "doc" with
  | some value => if value.truthy then text? value else textAt? entries "description"
  | none => textAt? entries "description"

/-- A flag, which is off unless it is set. -/
def flagAt (entries : Json.Entries) (key : String) : Bool :=
  ((entries.lookup key).map Json.truthy).getD false

/-- The name of a thing, which must be a text that is not empty. -/
def nameOf (thing : Named) (entries : Json.Entries) : Except Fault String :=
  match entries.lookup "name" with
  | some (.str name) =>
    if name.isEmpty then throw (.unnamed thing (.obj entries)) else return name
  | _ => throw (.unnamed thing (.obj entries))

/-- The keys and values of a mapping. -/
def entriesOf : Json → Except Fault Json.Entries
  | .obj entries => return entries
  | value => throw (.notMapping value)

/-- The items of a list that may be left out. -/
def itemsOf (value : Option Json) : Except Fault (List Json) :=
  match value with
  | none => return []
  | some value =>
    if value.truthy then
      match value.elements? with
      | some items => return items
      | none => throw (.notIterable value)
    else return []

/-- The items of a list section. -/
def itemsAt (entries : Json.Entries) (key : String) : Except Fault (List Json) :=
  itemsOf (entries.lookup key)

@[simp]
theorem itemsOf_none : itemsOf none = .ok [] := rfl

@[simp]
theorem itemsOf_arr (items : List Json) : itemsOf (some (.arr items)) = .ok items := by
  cases items <;> rfl

theorem nameOf_eq_ok {thing : Named} {entries : Json.Entries} {name : String}
    (h : nameOf thing entries = .ok name) :
    entries.lookup "name" = some (.str name) ∧ name ≠ "" := by
  unfold nameOf at h
  split at h
  · split at h
    · cases h
    · next found empty =>
      cases h
      exact ⟨found, by simpa using empty⟩
  · cases h

end SignatureForms.Document
