import SignatureForms.Naming.Words

/-!
# Value names

The value of a parameter is addressed by a dotted name: the field `c` of the field `b` of the
parameter `a` is `a.b.c`. Controls of a form are named after the flat form of it.
-/

namespace SignatureForms

/-- The value name of a field below a path; the path of a top-level parameter is empty. -/
def qualify (path name : String) : String :=
  if path.isEmpty then name else path ++ "." ++ name

/-- The part of a value name after its last dot. -/
def lastSegmentChars (value : List Char) : List Char :=
  (value.reverse.takeWhile (· ≠ '.')).reverse

/-- The part of a value name before its last dot, if it has one. -/
def parentPathChars? (value : List Char) : Option (List Char) :=
  match value.reverse.dropWhile (· ≠ '.') with
  | [] => none
  | _ :: before => some before.reverse

/-- The part of a value name after its last dot. -/
def lastSegment (value : String) : String :=
  String.ofList (lastSegmentChars value.toList)

/-- The segment before the last one: `b` for `a.b.c`, `a` for `a.b`, nothing for `a`. -/
def parentSegment? (value : String) : Option String :=
  (parentPathChars? value.toList).map fun path => String.ofList (lastSegmentChars path)

/-- The name of the control that selects the member of a union. -/
def discriminatorName (value : String) : String :=
  Naming.flatName value ++ "DataType"

@[simp]
theorem qualify_empty (name : String) : qualify "" name = name := rfl

end SignatureForms
