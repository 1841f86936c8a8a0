import SignatureForms.Json.Literal

/-!
# Writing documents

Three written forms: compact, indented by two blanks, and compact with slashes escaped for
embedding in markup. All three are ASCII: a character beyond it is written as the `\u` escapes of
its UTF-16 units.
-/

namespace SignatureForms.Json

/-- The escape of one UTF-16 unit. -/
def unitEscape (unit : Nat) : List Char :=
  '\\' :: 'u' :: hexText 4 unit

/-- The escape of a character by its UTF-16 units. -/
def unicodeEscape (c : Char) : List Char :=
  if c.toNat < 0x10000 then unitEscape c.toNat
  else
    let offset := c.toNat - 0x10000
    unitEscape (0xD800 + offset / 0x400) ++ unitEscape (0xDC00 + offset % 0x400)

/-- One character inside a written text. -/
def escapeChar (c : Char) : List Char :=
  if c = '"' then ['\\', '"']
  else if c = '\\' then ['\\', '\\']
  else if c = '\n' then ['\\', 'n']
  else if c = '\r' then ['\\', 'r']
  else if c = '\t' then ['\\', 't']
  else if c = '\x0c' then ['\\', 'f']
  else if c = '\x08' then ['\\', 'b']
  else if ' ' ≤ c ∧ c ≤ '~' then [c]
  else unicodeEscape c

/-- One character inside a written text that may be embedded in markup: slashes are escaped and
the delete character is not. -/
def escapeCharEmbedded (c : Char) : List Char :=
  if c = '/' then ['\\', '/']
  else if c = '\x7f' then [c]
  else escapeChar c

/-- A text in double quotes. -/
def writeText (escape : Char → List Char) (s : String) : String :=
  String.ofList ('"' :: s.toList.flatMap escape ++ ['"'])

/-- A value that is neither a list nor a mapping. -/
def writeScalar (escape : Char → List Char) : Json → String
  | null => "null"
  | bool b => if b then "true" else "false"
  | int i => toString i
  | float x => Decimal.floatText "Infinity" "NaN" x
  | str s => writeText escape s
  | arr _ => "[]"
  | obj _ => "\x7b\x7d"

mutual

/-- A value without white space. -/
def writeCompact (escape : Char → List Char) : Json → String
  | arr items => "[" ++ ",".intercalate (writeCompactItems escape items) ++ "]"
  | obj entries => "\x7b" ++ ",".intercalate (writeCompactEntries escape entries) ++ "\x7d"
  | value => writeScalar escape value

/-- The items of a list without white space. -/
def writeCompactItems (escape : Char → List Char) : List Json → List String
  | [] => []
  | item :: rest => writeCompact escape item :: writeCompactItems escape rest

/-- The entries of a mapping without white space. -/
def writeCompactEntries (escape : Char → List Char) : List (String × Json) → List String
  | [] => []
  | (key, value) :: rest =>
    (writeText escape key ++ ":" ++ writeCompact escape value) :: writeCompactEntries escape rest

end

/-- A line break followed by two blanks for each level of nesting. -/
def newline (depth : Nat) : String :=
  String.ofList ('\n' :: List.replicate (2 * depth) ' ')

/-- A bracketed block with one part a line; a block without parts stays on one line. -/
def block (opening closing : String) (depth : Nat) (parts : List String) : String :=
  if parts.isEmpty then opening ++ closing
  else opening ++ newline (depth + 1) ++ ("," ++ newline (depth + 1)).intercalate parts
    ++ newline depth ++ closing

mutual

/-- A value at a level of nesting, its parts on lines of their own. -/
def writeIndented (depth : Nat) : Json → String
  | arr items => block "[" "]" depth (writeIndentedItems (depth + 1) items)
  | obj entries => block "\x7b" "\x7d" depth (writeIndentedEntries (depth + 1) entries)
  | value => writeScalar escapeChar value

/-- The items of a list at a level of nesting. -/
def writeIndentedItems (depth : Nat) : List Json → List String
  | [] => []
  | item :: rest => writeIndented depth item :: writeIndentedItems depth rest

/-- The entries of a mapping at a level of nesting. -/
def writeIndentedEntries (depth : Nat) : List (String × Json) → List String
  | [] => []
  | (key, value) :: rest =>
    (writeText escapeChar key ++ ": " ++ writeIndented depth value)
      :: writeIndentedEntries depth rest

end

/-- The value on one line, without white space. -/
def compact (value : Json) : String :=
  writeCompact escapeChar value

/-- The value on one line, without white space and with slashes escaped. -/
def embedded (value : Json) : String :=
  writeCompact escapeCharEmbedded value

/-- The value with each part on a line of its own, indented by two blanks a level. -/
def pretty (value : Json) : String :=
  writeIndented 0 value

end SignatureForms.Json
