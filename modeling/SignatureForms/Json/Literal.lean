import SignatureForms.Decimal.Notation
import SignatureForms.Json.Basic
import SignatureForms.Unicode.Printable

/-!
# Values in messages

How a value is shown inside a message or used as a text. `Json.literal` quotes texts, so that
nesting can be read; `Json.display` shows a text as it is and all else as its literal.
-/

namespace SignatureForms.Json

/-- The lower-case hexadecimal digits of a number, filled up with zeros to a width. -/
def hexText (width n : Nat) : List Char :=
  let digits := Nat.toDigits 16 n
  List.replicate (width - digits.length) '0' ++ digits

/-- The quote mark of a text: single, unless the text holds a single and no double one. -/
def quoteMark (cs : List Char) : Char :=
  if cs.contains '\'' && !cs.contains '"' then '"' else '\''

/-- One character inside quotes. -/
def quotedChar (quote c : Char) : List Char :=
  if c = quote ∨ c = '\\' then ['\\', c]
  else if c = '\n' then ['\\', 'n']
  else if c = '\t' then ['\\', 't']
  else if c = '\r' then ['\\', 'r']
  else if Unicode.isPrintable c then [c]
  else if c.toNat < 0x100 then '\\' :: 'x' :: hexText 2 c.toNat
  else if c.toNat < 0x10000 then '\\' :: 'u' :: hexText 4 c.toNat
  else '\\' :: 'U' :: hexText 8 c.toNat

/-- A text in quotes. -/
def quoted (s : String) : String :=
  let cs := s.toList
  let quote := quoteMark cs
  String.ofList (quote :: cs.flatMap (quotedChar quote) ++ [quote])

/-- A truth value as a word. -/
def boolText (b : Bool) : String :=
  if b then "True" else "False"

mutual

/-- A value as it is written inside a message. -/
def literal : Json → String
  | null => "None"
  | bool b => boolText b
  | int i => toString i
  | float x => Decimal.floatText "inf" "nan" x
  | str s => quoted s
  | arr items => "[" ++ ", ".intercalate (literalItems items) ++ "]"
  | obj entries => "\x7b" ++ ", ".intercalate (literalEntries entries) ++ "\x7d"

/-- The literals of the items of a list. -/
def literalItems : List Json → List String
  | [] => []
  | item :: rest => literal item :: literalItems rest

/-- The literals of the entries of a mapping. -/
def literalEntries : List (String × Json) → List String
  | [] => []
  | (key, value) :: rest => (quoted key ++ ": " ++ literal value) :: literalEntries rest

end

/-- A value used as a text. -/
def display : Json → String
  | str s => s
  | value => value.literal

@[simp]
theorem display_str (s : String) : display (str s) = s := rfl

end SignatureForms.Json
