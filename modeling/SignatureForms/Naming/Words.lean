import SignatureForms.Unicode.Blank
import SignatureForms.Unicode.Lowercase
import SignatureForms.Unicode.Number

/-!
# Names and words

Turning the names of parameters, types and operations into identifiers, and identifiers into words
for people. The rules work on lists of characters; the functions on texts wrap them.

* `xmlNameChars_ne_nil` — the name of a template is never empty.
* `flatten_camelTokens` — cutting a name into words loses nothing.
-/

namespace SignatureForms.Naming

/-! ## Identifiers -/

/-- A name as a flat identifier: quote marks at its start are dropped, dots become underscores,
and `param` stands in when nothing is left. -/
def flatNameChars (name : List Char) : List Char :=
  let flat := (name.dropWhile (· = '\'')).map fun c => if c = '.' then '_' else c
  if flat.isEmpty then "param".toList else flat

/-- A name as a flat identifier. -/
def flatName (name : String) : String :=
  String.ofList (flatNameChars name.toList)

/-- A character that may follow the first one of a template name. -/
def isNameChar (c : Char) : Bool :=
  Unicode.isAlphanumeric c || c == '_' || c == '-' || c == '.'

/-- A character that may start a template name. -/
def isNameStart (c : Char) : Bool :=
  Unicode.isLetter c || c == '_'

/-- The rest of a template name: what may not stand there becomes an underscore. -/
def xmlNameRest (rest : List Char) : List Char :=
  rest.map fun c => if isNameChar c then c else '_'

/-- A template name from its first fitting character on. A leading digit gets an underscore before
it, other leading characters are dropped. -/
def xmlNameStart : List Char → List Char
  | [] => []
  | c :: rest =>
    if isNameStart c then c :: xmlNameRest rest
    else if Unicode.isDigit c then '_' :: c :: xmlNameRest rest
    else xmlNameStart rest

/-- A template name made from any text, `resource` if nothing of it fits. -/
def xmlNameChars (name : List Char) : List Char :=
  let fitting := xmlNameStart name
  if fitting.isEmpty then "resource".toList else fitting

/-- A template name made from any text. -/
def xmlName (name : String) : String :=
  String.ofList (xmlNameChars name.toList)

theorem flatNameChars_ne_nil (name : List Char) : flatNameChars name ≠ [] := by
  dsimp only [flatNameChars]
  split
  · decide
  · simp_all

theorem xmlNameChars_ne_nil (name : List Char) : xmlNameChars name ≠ [] := by
  dsimp only [xmlNameChars]
  split
  · decide
  · simp_all

/-! ## Words for people -/

/-- The text with its first character in upper case. -/
def capitalizeChars : List Char → List Char
  | [] => []
  | c :: rest => Unicode.upper c ++ rest

/-- The text with its first character in upper case. -/
def capitalize (s : String) : String :=
  String.ofList (capitalizeChars s.toList)

/-- A character that separates the parts of a name. -/
def isSeparator (c : Char) : Bool :=
  c == '-' || c == '_' || Unicode.isBlank c

/-- The parts of a text between separators, the current part being `part`, last character first.
Empty parts are dropped. -/
def partsFrom (part : List Char) : List Char → List (List Char)
  | [] => if part.isEmpty then [] else [part.reverse]
  | c :: rest =>
    if isSeparator c then (if part.isEmpty then [] else [part.reverse]) ++ partsFrom [] rest
    else partsFrom (c :: part) rest

/-- A part of a name with its first letter in upper case and the others in lower case. -/
def pascalPart : List Char → List Char
  | [] => []
  | c :: rest => Unicode.upper c ++ Unicode.lowercaseChars rest

/-- The parts of a text joined, each capitalised. -/
def pascalCase (text : String) : String :=
  String.ofList ((partsFrom [] text.toList).flatMap pascalPart)

/-- The characters of a name for people: separators become single blanks and capitals lower case,
with a blank before a capital that follows a small letter or a digit. `before` is the previous
character of the name, `done` what is written so far, last character first. -/
def humanChars (before : Option Char) (done : List Char) : List Char → List Char
  | [] => done.reverse
  | c :: rest =>
    let spaced := if done.isEmpty || done.head? == some ' ' then done else ' ' :: done
    let next :=
      if c == '_' || c == '-' || c == ' ' then spaced
      else if Unicode.isUpper c then
        (Unicode.lower c).reverse ++
          (if before.any fun b => Unicode.isLower b || Unicode.isDigit b then spaced else done)
      else c :: done
    humanChars (some c) next rest

/-- The text with each run of blanks replaced by one plain blank. -/
def squeezeBlanks : List Char → List Char
  | [] => []
  | c :: rest =>
    if Unicode.isBlank c then
      match rest with
      | d :: _ => if Unicode.isBlank d then squeezeBlanks rest else ' ' :: squeezeBlanks rest
      | [] => [' ']
    else c :: squeezeBlanks rest

/-- A name in words, such as `get all countries status` for `getAllCountries_status`. -/
def humanize (name : String) : String :=
  String.ofList (Unicode.trimChars (squeezeBlanks (humanChars none [] name.toList)))

/-- An ASCII capital. -/
def isAsciiUpper (c : Char) : Bool := 'A' ≤ c && c ≤ 'Z'

/-- An ASCII small letter. -/
def isAsciiLower (c : Char) : Bool := 'a' ≤ c && c ≤ 'z'

/-- A blank between each ASCII small letter and a capital after it. -/
def spaceWords : List Char → List Char
  | a :: b :: rest =>
    if isAsciiLower a && isAsciiUpper b then a :: ' ' :: spaceWords (b :: rest)
    else a :: spaceWords (b :: rest)
  | cs => cs

/-- A blank between an abbreviation in ASCII capitals and the capital that starts a word. -/
def spaceAbbreviations : List Char → List Char
  | a :: b :: c :: rest =>
    if isAsciiUpper a && isAsciiUpper b && isAsciiLower c then
      a :: ' ' :: spaceAbbreviations (b :: c :: rest)
    else a :: spaceAbbreviations (b :: c :: rest)
  | cs => cs

/-- A heading from a name in camel case. -/
def titleCase (text : String) : String :=
  String.ofList (capitalizeChars (spaceAbbreviations (spaceWords text.toList)))

/-! ## Words of a type name -/

/-- The endings of type names that say what a type is used for. -/
def typeSuffixes : List String :=
  ["Queries", "Query", "Request", "Response", "Params", "Options", "Payload"]

/-- Words at the start of a type name that name an action, not a resource. -/
def genericFirstWords : List String := ["list", "get", "create", "update", "delete"]

/-- Words at the end of a type name that name a collection, not a resource. -/
def genericLastWords : List String := ["list", "collection", "items"]

/-- The name without a suffix that is a proper part of it. -/
def dropSuffix? (suffix name : List Char) : Option (List Char) :=
  if suffix.isSuffixOf name && suffix.length < name.length then
    some (name.take (name.length - suffix.length))
  else none

/-- The name without the first suffix that it has. -/
def withoutTypeSuffixChars (name : List Char) : List Char :=
  (typeSuffixes.findSome? fun suffix => dropSuffix? suffix.toList name).getD name

/-- The name of a type without the ending that says what it is used for. -/
def withoutTypeSuffix (name : String) : String :=
  String.ofList (withoutTypeSuffixChars name.toList)

/-- A capital `c` after the character `before` starts a word. -/
def startsWord (before c : Char) : Bool :=
  Unicode.isUpper c && (Unicode.isLower before || Unicode.isDigit before)

/-- The words of a name that goes on after `before`, the last character of the word `word`, which
is kept last character first. -/
def camelTokensAfter (before : Char) (word : List Char) : List Char → List (List Char)
  | [] => [word.reverse]
  | c :: rest =>
    if startsWord before c then word.reverse :: camelTokensAfter c [c] rest
    else camelTokensAfter c (c :: word) rest

/-- A name cut before each capital that follows a small letter or a digit. -/
def camelTokens : List Char → List (List Char)
  | [] => []
  | c :: rest => camelTokensAfter c [c] rest

/-- The words are among some generic ones, in any case. -/
def isGeneric (generic : List String) (word : List Char) : Bool :=
  generic.contains (String.ofList (Unicode.lowercaseChars word))

/-- The words of a type name that tell the resource: the first of three or more words goes, as
does a generic first one of two, and then a generic last one. -/
def resourceWords (words : List (List Char)) : List (List Char) :=
  let named :=
    match words with
    | _ :: b :: c :: rest => b :: c :: rest
    | [a, b] => if isGeneric genericFirstWords a then [b] else [a, b]
    | short => short
  match named with
  | _ :: _ :: _ =>
    if (named.getLast?.map (isGeneric genericLastWords)).getD false then named.dropLast else named
  | _ => named

/-- The resource that a type name hints at, such as `UsersDrafts` for
`GmailUsersDraftsListQueries`. -/
def resourceHintChars (name : List Char) : List Char :=
  (resourceWords (camelTokens (withoutTypeSuffixChars name))).flatten

/-- The resource that a type name hints at. -/
def resourceHint (name : String) : String :=
  String.ofList (resourceHintChars name.toList)

theorem flatten_camelTokensAfter (before : Char) (word rest : List Char) :
    (camelTokensAfter before word rest).flatten = word.reverse ++ rest := by
  induction rest generalizing before word with
  | nil => simp [camelTokensAfter]
  | cons c rest ih => by_cases h : startsWord before c <;> simp [camelTokensAfter, h, ih]

/-- Cutting a name into words loses nothing. -/
@[simp]
theorem flatten_camelTokens (name : List Char) : (camelTokens name).flatten = name := by
  cases name with
  | nil => rfl
  | cons c rest => simp [camelTokens, flatten_camelTokensAfter]

end SignatureForms.Naming
