import SignatureForms.Unicode.Blank

/-!
# Resource paths

A resource path is written as a list of segments. A segment in brackets, `[type name]`, is a
parameter of the path; all others are literal. Segments without a name are dropped.
-/

namespace SignatureForms.Naming

/-- One segment of a resource path. -/
inductive Segment where
  /-- A fixed part. -/
  | literal (text : String)
  /-- A part that a call fills in. -/
  | param (name type : String)
deriving DecidableEq, Repr, Inhabited

namespace Segment

/-- The text or the name of a segment. -/
def name : Segment → String
  | literal text => text
  | param name _ => name

/-- A segment that a call fills in. -/
def isParam : Segment → Bool
  | literal _ => false
  | param .. => true

/-- The type of what fills the segment in; a fixed part counts as text. -/
def typeName : Segment → String
  | literal _ => "string"
  | param _ type => type

/-- What stands before and after the last plain blank; all of a text without one is after it. -/
def splitAtLastBlank (cs : List Char) : List Char × List Char :=
  let after := (cs.reverse.takeWhile (· ≠ ' ')).reverse
  (cs.take (cs.length - after.length - 1), after)

/-- The parameter written between brackets: a type, which is text if it is left out, a blank and
a name. -/
def ofBracketed? (inside : List Char) : Option Segment :=
  let (type, name) := splitAtLastBlank (Unicode.trimChars inside)
  let type := Unicode.trimChars type
  if name.isEmpty then none
  else some (param (String.ofList name) (if type.isEmpty then "string" else String.ofList type))

/-- The segment that a text writes. -/
def ofChars? (text : List Char) : Option Segment :=
  match Unicode.trimChars text with
  | [] => none
  | c :: rest =>
    if c = '[' ∧ rest.getLast? = some ']' then ofBracketed? rest.dropLast
    else some (literal (String.ofList (c :: rest)))

/-- The segment that a text writes. -/
def ofText? (text : String) : Option Segment :=
  ofChars? text.toList

end Segment

/-- The segments of a resource path as it is written. -/
def pathSegments (path : List String) : List Segment :=
  path.filterMap Segment.ofText?

/-- The parameters of a resource path as it is written. -/
def pathParams (path : List String) : List Segment :=
  (pathSegments path).filter Segment.isParam

end SignatureForms.Naming
