import SignatureForms.Decimal.Notation
import SignatureForms.Json.Basic

/-!
# Reading documents

A reader of JSON text that says where and why it stops. It works on the list of characters that
are left; each step returns a rest that is shorter, which is why it ends. A defect is located by
the number of characters left, from which offset, line and column follow.

Beyond the standard the words `NaN`, `Infinity` and `-Infinity` are numbers. A repeated key keeps
its first place and takes its last value.
-/

namespace SignatureForms.Json

/-- Why a text is no document. -/
inductive Defect where
  /-- The text starts with a byte order mark. -/
  | byteOrderMark
  /-- No value starts here. -/
  | value
  /-- No quoted key starts here. -/
  | key
  /-- A key is not followed by a colon. -/
  | colon
  /-- A part is followed by neither a comma nor the closing bracket. -/
  | comma
  /-- Something follows the value. -/
  | extra
  /-- A text is not closed. -/
  | unclosedText
  /-- A text holds a bare control character. -/
  | controlCharacter
  /-- An unknown escape. -/
  | escape
  /-- A `\u` escape without four hexadecimal digits. -/
  | unicodeEscape
deriving DecidableEq, Repr

/-- The words for a defect. -/
def Defect.message : Defect → String
  | byteOrderMark => "Unexpected UTF-8 BOM (decode using utf-8-sig)"
  | value => "Expecting value"
  | key => "Expecting property name enclosed in double quotes"
  | colon => "Expecting ':' delimiter"
  | comma => "Expecting ',' delimiter"
  | extra => "Extra data"
  | unclosedText => "Unterminated string starting at"
  | controlCharacter => "Invalid control character at"
  | escape => "Invalid \\escape"
  | unicodeEscape => "Invalid \\uXXXX escape"

/-- A defect and the number of characters that are left where it is found. -/
structure Stop where
  /-- What is wrong. -/
  defect : Defect
  /-- The number of characters from the place of the defect to the end of the text. -/
  left : Nat

/-- What is left of a text after a step that consumed at least one character. -/
abbrev Rest (s : List Char) := { r : List Char // r.length < s.length }

/-- The text after its leading white space. -/
def skipBlanks : List Char → List Char
  | [] => []
  | c :: rest =>
    if c = ' ' ∨ c = '\t' ∨ c = '\n' ∨ c = '\r' then skipBlanks rest else c :: rest

theorem length_skipBlanks_le (s : List Char) : (skipBlanks s).length ≤ s.length := by
  induction s with
  | nil => simp [skipBlanks]
  | cons c rest ih =>
    unfold skipBlanks
    split
    · simp; omega
    · simp

/-- The value of a hexadecimal digit. -/
def hexValue? (c : Char) : Option Nat :=
  if '0' ≤ c ∧ c ≤ '9' then some (c.toNat - '0'.toNat)
  else if 'a' ≤ c ∧ c ≤ 'f' then some (c.toNat - 'a'.toNat + 10)
  else if 'A' ≤ c ∧ c ≤ 'F' then some (c.toNat - 'A'.toNat + 10)
  else none

/-- The UTF-16 unit written by four hexadecimal digits. -/
def unit? (a b c d : Char) : Option Nat := do
  return (((← hexValue? a) * 16 + (← hexValue? b)) * 16 + (← hexValue? c)) * 16 + (← hexValue? d)

/-- The character of an escape by one letter. -/
def letterEscape? : Char → Option Char
  | '"' => some '"'
  | '\\' => some '\\'
  | '/' => some '/'
  | 'b' => some '\x08'
  | 'f' => some '\x0c'
  | 'n' => some '\n'
  | 'r' => some '\r'
  | 't' => some '\t'
  | _ => none

/-- The second unit of a surrogate pair, if the text goes on with the escape of one and does not
end with it. -/
def lowSurrogate? : (s : List Char) → Except Stop (Option (Nat × Rest s))
  | '\\' :: 'u' :: a :: b :: c :: d :: e :: rest =>
    match unit? a b c d with
    | none => throw ⟨.unicodeEscape, rest.length + 6⟩
    | some unit =>
      if 0xDC00 ≤ unit ∧ unit < 0xE000 then
        return some (unit, ⟨e :: rest, by simp⟩)
      else return none
  | _ => return none

/-- The character of a `\u` escape, given what follows the letter `u`. A half of a surrogate pair
that stands alone becomes the replacement character. -/
def readUnicodeEscape : (s : List Char) → Except Stop (Char × Rest s)
  | a :: b :: c :: d :: e :: rest =>
    match unit? a b c d with
    | none => throw ⟨.unicodeEscape, rest.length + 6⟩
    | some unit =>
      if 0xD800 ≤ unit ∧ unit < 0xE000 then
        if unit < 0xDC00 then do
          match ← lowSurrogate? (e :: rest) with
          | some (second, tail) =>
            return (Char.ofNat (0x10000 + (unit - 0xD800) * 0x400 + (second - 0xDC00)),
              ⟨tail.val, by have := tail.property; simp at this ⊢; omega⟩)
          | none => return ('\uFFFD', ⟨e :: rest, by simp⟩)
        else return ('\uFFFD', ⟨e :: rest, by simp⟩)
      else return (Char.ofNat unit, ⟨e :: rest, by simp⟩)
  | s => throw ⟨.unicodeEscape, s.length + 1⟩

/-- The rest of a text that starts at `opened`, its characters so far being `done`, last first. -/
def readText (opened done : List Char) (s : List Char) :
    Except Stop (String × Rest s) :=
  match s with
  | [] => throw ⟨.unclosedText, opened.length⟩
  | '"' :: rest => return (String.ofList done.reverse, ⟨rest, by simp⟩)
  | '\\' :: [] => throw ⟨.unclosedText, opened.length⟩
  | '\\' :: 'u' :: rest => do
    let (c, tail) ← readUnicodeEscape rest
    let (text, final) ← readText opened (c :: done) tail.val
    return (text, ⟨final.val, by
      have := final.property; have := tail.property; simp; omega⟩)
  | '\\' :: c :: rest =>
    match letterEscape? c with
    | none => throw ⟨.escape, rest.length + 2⟩
    | some e => do
      let (text, final) ← readText opened (e :: done) rest
      return (text, ⟨final.val, by have := final.property; simp; omega⟩)
  | c :: rest =>
    if c.toNat < 0x20 then throw ⟨.controlCharacter, rest.length + 1⟩
    else do
      let (text, final) ← readText opened (c :: done) rest
      return (text, ⟨final.val, by have := final.property; simp; omega⟩)
termination_by s.length
decreasing_by
  · have := tail.property
    simp only [List.length_cons]
    omega
  · simp only [List.length_cons]
    omega
  · simp only [List.length_cons]
    omega

/-- The leading ASCII digits of a text and what follows them. -/
def spanDigits : List Char → List Char × List Char
  | [] => ([], [])
  | c :: rest =>
    if '0' ≤ c ∧ c ≤ '9' then ((c :: (spanDigits rest).1), (spanDigits rest).2)
    else ([], c :: rest)

theorem length_spanDigits (s : List Char) :
    (spanDigits s).1.length + (spanDigits s).2.length = s.length := by
  induction s with
  | nil => simp [spanDigits]
  | cons c rest ih =>
    unfold spanDigits
    split
    · simp; omega
    · simp

/-- The whole number that digits write. -/
def digitsValue (digits : List Char) : Nat :=
  digits.foldl (fun n c => n * 10 + (c.toNat - '0'.toNat)) 0

/-- The digits of a fraction: a point and at least one digit. -/
def spanFraction (s : List Char) : Option (List Char × List Char) :=
  match s with
  | '.' :: rest => if (spanDigits rest).1.isEmpty then none else some (spanDigits rest)
  | _ => none

/-- A sign that is given and at least one digit. -/
def spanSigned (negative : Bool) (s : List Char) : Option (Int × List Char) :=
  if (spanDigits s).1.isEmpty then none
  else
    let n : Int := digitsValue (spanDigits s).1
    some (if negative then -n else n, (spanDigits s).2)

/-- An exponent: the letter, a sign or none, and at least one digit. -/
def spanExponent (s : List Char) : Option (Int × List Char) :=
  match s with
  | c :: rest =>
    if c = 'e' ∨ c = 'E' then
      match rest with
      | '-' :: tail => spanSigned true tail
      | '+' :: tail => spanSigned false tail
      | _ => spanSigned false rest
    else none
  | [] => none

/-- The whole part of a number: one zero, or digits that do not start with zero. -/
def spanWhole : List Char → Option (List Char × List Char)
  | '0' :: rest => some (['0'], rest)
  | s => if (spanDigits s).1.isEmpty then none else some (spanDigits s)

/-- A number without its sign: the longest start of the text that writes one. -/
def readUnsigned (negative : Bool) (s : List Char) : Option (Json × List Char) := do
  let (whole, rest) ← spanWhole s
  let fraction := spanFraction rest
  let rest := (fraction.map Prod.snd).getD rest
  let power := spanExponent rest
  let rest := (power.map Prod.snd).getD rest
  if fraction.isNone && power.isNone then
    let n : Int := digitsValue whole
    return (.int (if negative then -n else n), rest)
  else
    let decimals := (fraction.map Prod.fst).getD []
    let x := Decimal.toFloat (digitsValue (whole ++ decimals))
      ((power.map Prod.fst).getD 0 - decimals.length)
    return (.float (if negative then -x else x), rest)

theorem length_spanDigits_le (s : List Char) : (spanDigits s).2.length ≤ s.length := by
  have := length_spanDigits s
  omega

theorem length_of_spanFraction {s : List Char} {found : List Char × List Char}
    (h : spanFraction s = some found) : found.2.length ≤ s.length := by
  unfold spanFraction at h
  split at h
  · next rest =>
    split at h
    · cases h
    · cases h
      have := length_spanDigits_le rest
      simp
      omega
  · cases h

theorem length_of_spanSigned {negative : Bool} {s : List Char} {power : Int} {tail : List Char}
    (h : spanSigned negative s = some (power, tail)) : tail.length ≤ s.length := by
  unfold spanSigned at h
  split at h
  · cases h
  · cases h
    exact length_spanDigits_le s

theorem length_of_spanExponent {s : List Char} {power : Int} {tail : List Char}
    (h : spanExponent s = some (power, tail)) : tail.length ≤ s.length := by
  unfold spanExponent at h
  split at h
  · split at h
    · split at h <;> have := length_of_spanSigned h <;> simp at this ⊢ <;> omega
    · cases h
  · cases h

theorem length_of_spanWhole {s : List Char} {found : List Char × List Char}
    (h : spanWhole s = some found) : found.2.length < s.length := by
  unfold spanWhole at h
  split at h
  · cases h
    simp
  · split at h
    · cases h
    · next filled =>
      cases h
      have := length_spanDigits s
      have := List.length_pos_iff.2 (by simpa using filled)
      omega

theorem length_afterFraction_le (s : List Char) :
    (((spanFraction s).map Prod.snd).getD s).length ≤ s.length := by
  cases h : spanFraction s with
  | none => simp
  | some found => exact length_of_spanFraction h

theorem length_afterExponent_le (s : List Char) :
    (((spanExponent s).map Prod.snd).getD s).length ≤ s.length := by
  cases h : spanExponent s with
  | none => simp
  | some found => exact length_of_spanExponent h

theorem length_of_readUnsigned {negative : Bool} {s : List Char} {value : Json}
    {tail : List Char} (h : readUnsigned negative s = some (value, tail)) :
    tail.length < s.length := by
  unfold readUnsigned at h
  cases hw : spanWhole s with
  | none => simp [hw] at h
  | some found =>
    have := length_of_spanWhole hw
    have := length_afterFraction_le found.2
    have := length_afterExponent_le (((spanFraction found.2).map Prod.snd).getD found.2)
    simp only [hw, Option.bind_eq_bind, Option.bind_some] at h
    split at h <;> cases h <;> omega

/-- A number at the start of a text. -/
def readNumber (s : List Char) : Option (Json × List Char) :=
  match s with
  | '-' :: rest => readUnsigned true rest
  | _ => readUnsigned false s

/-- The words that are values. -/
def words : List (List Char × Json) :=
  [("null".toList, .null), ("true".toList, .bool true), ("false".toList, .bool false),
   ("NaN".toList, .float (0.0 / 0.0)), ("Infinity".toList, .float (1.0 / 0.0)),
   ("-Infinity".toList, .float (-1.0 / 0.0))]

/-- The text after a given start. -/
def dropStart? : List Char → List Char → Option (List Char)
  | [], s => some s
  | w :: ws, c :: rest => if w = c then dropStart? ws rest else none
  | _ :: _, [] => none

/-- A word at the start of a text. -/
def readWord (s : List Char) : Option (Json × List Char) :=
  words.findSome? fun word => (dropStart? word.1 s).map fun rest => (word.2, rest)

/-- A value that is neither text, list nor mapping. -/
def readPlain (s : List Char) : Option (Json × List Char) :=
  (readWord s).or (readNumber s)

theorem length_of_readNumber {s : List Char} {value : Json} {tail : List Char}
    (h : readNumber s = some (value, tail)) : tail.length < s.length := by
  unfold readNumber at h
  split at h <;> have := length_of_readUnsigned h <;> simp at this ⊢ <;> omega

theorem length_of_dropStart {word s tail : List Char} (h : dropStart? word s = some tail) :
    word.length + tail.length = s.length := by
  fun_induction dropStart? word s with
  | case1 => simp_all
  | case2 w ws rest ih =>
    have := ih h
    simp
    omega
  | case3 => cases h
  | case4 => cases h

theorem length_pos_of_mem_words {word : List Char × Json} (h : word ∈ words) :
    0 < word.1.length := by
  have : ∀ word ∈ words, 0 < word.1.length := by simp [words]
  exact this word h

theorem length_of_readWord {s : List Char} {value : Json} {tail : List Char}
    (h : readWord s = some (value, tail)) : tail.length < s.length := by
  obtain ⟨word, member, found⟩ := List.exists_of_findSome?_eq_some h
  obtain ⟨rest, dropped, same⟩ := Option.map_eq_some_iff.1 found
  cases same
  have := length_of_dropStart dropped
  have := length_pos_of_mem_words member
  omega

theorem length_of_readPlain {s : List Char} {value : Json} {tail : List Char}
    (h : readPlain s = some (value, tail)) : tail.length < s.length := by
  unfold readPlain at h
  cases hw : readWord s with
  | none => exact length_of_readNumber (by simpa [hw] using h)
  | some found =>
    rw [hw] at h
    cases h
    exact length_of_readWord hw

mutual

/-- A value at the start of a text. -/
def readValue (s : List Char) : Except Stop (Json × Rest s) :=
  match s with
  | [] => throw ⟨.value, 0⟩
  | '"' :: rest => do
    let (text, tail) ← readText ('"' :: rest) [] rest
    return (.str text, ⟨tail.val, by have := tail.property; simp; omega⟩)
  | '[' :: rest =>
    match h : skipBlanks rest with
    | ']' :: tail => return (.arr [], ⟨tail, by
        have := length_skipBlanks_le rest; simp [h] at this; simp; omega⟩)
    | start => do
      let (items, tail) ← readItems start
      return (.arr items, ⟨tail.val, by
        have := length_skipBlanks_le rest; have := tail.property; simp_all; omega⟩)
  | '\x7b' :: rest =>
    match h : skipBlanks rest with
    | '\x7d' :: tail => return (.obj [], ⟨tail, by
        have := length_skipBlanks_le rest; simp [h] at this; simp; omega⟩)
    | start => do
      let (pairs, tail) ← readPairs start
      return (.obj (ofPairs pairs), ⟨tail.val, by
        have := length_skipBlanks_le rest; have := tail.property; simp_all; omega⟩)
  | c :: rest =>
    match h : readPlain (c :: rest) with
    | some (value, tail) => return (value, ⟨tail, length_of_readPlain h⟩)
    | none => throw ⟨.value, rest.length + 1⟩
termination_by (s.length, 0)
decreasing_by
  all_goals
    have shorter := length_skipBlanks_le rest
    rw [h] at shorter
    exact Prod.Lex.left _ _ (Nat.lt_succ_of_le shorter)

/-- The items of a list, up to its closing bracket. -/
def readItems (s : List Char) : Except Stop (List Json × Rest s) := do
  let (item, tail) ← readValue s
  match h : skipBlanks tail.val with
  | ']' :: rest => return ([item], ⟨rest, by
      have := length_skipBlanks_le tail.val; have := tail.property; simp [h] at *; omega⟩)
  | ',' :: rest => do
    let (items, final) ← readItems (skipBlanks rest)
    return (item :: items, ⟨final.val, by
      have := length_skipBlanks_le tail.val; have := tail.property
      have := length_skipBlanks_le rest; have := final.property
      simp [h] at *; omega⟩)
  | other => throw ⟨.comma, other.length⟩
termination_by (s.length, 1)
decreasing_by
  · simp [Prod.lex_def]
  · have := length_skipBlanks_le tail.val
    have := tail.property
    have := length_skipBlanks_le rest
    simp [h, Prod.lex_def] at *
    omega

/-- The entries of a mapping, up to its closing brace. -/
def readPairs (s : List Char) : Except Stop (List (String × Json) × Rest s) :=
  match s with
  | '"' :: start => do
    let (key, afterKey) ← readText ('"' :: start) [] start
    match h : skipBlanks afterKey.val with
    | ':' :: afterColon => do
      let (value, tail) ← readValue (skipBlanks afterColon)
      match h' : skipBlanks tail.val with
      | '\x7d' :: rest => return ([(key, value)], ⟨rest, by
          have := length_skipBlanks_le tail.val; have := tail.property
          have := length_skipBlanks_le afterColon; have := afterKey.property
          have := length_skipBlanks_le afterKey.val
          simp [h, h'] at *; omega⟩)
      | ',' :: rest => do
        let (pairs, final) ← readPairs (skipBlanks rest)
        return ((key, value) :: pairs, ⟨final.val, by
          have := length_skipBlanks_le tail.val; have := tail.property
          have := length_skipBlanks_le afterColon; have := afterKey.property
          have := length_skipBlanks_le afterKey.val
          have := length_skipBlanks_le rest; have := final.property
          simp [h, h'] at *; omega⟩)
      | other => throw ⟨.comma, other.length⟩
    | other => throw ⟨.colon, other.length⟩
  | other => throw ⟨.key, other.length⟩
termination_by (s.length, 1)
decreasing_by
  · have := length_skipBlanks_le afterColon
    have := afterKey.property
    have := length_skipBlanks_le afterKey.val
    simp [h, Prod.lex_def] at *
    omega
  · have := length_skipBlanks_le tail.val
    have := tail.property
    have := length_skipBlanks_le afterColon
    have := afterKey.property
    have := length_skipBlanks_le afterKey.val
    have := length_skipBlanks_le rest
    simp [h, h', Prod.lex_def] at *
    omega

end

/-- A defect with its place in the text. -/
structure ReadError where
  /-- What is wrong. -/
  defect : Defect
  /-- The line of the defect, counted from one. -/
  line : Nat
  /-- The column of the defect, counted from one. -/
  column : Nat
  /-- The number of characters before the defect. -/
  offset : Nat

/-- The words for a defect and its place. -/
def ReadError.message (e : ReadError) : String :=
  s!"{e.defect.message}: line {e.line} column {e.column} (char {e.offset})"

/-- The place at which `left` characters of the text are left. -/
def Stop.locate (text : List Char) (stop : Stop) : ReadError :=
  let before := text.take (text.length - stop.left)
  { defect := stop.defect
    line := before.count '\n' + 1
    column := (before.reverse.takeWhile (· ≠ '\n')).length + 1
    offset := before.length }

/-- The value that a whole text writes, white space around it allowed. -/
def readChars (text : List Char) : Except Stop Json :=
  match text with
  | '\uFEFF' :: _ => throw ⟨.byteOrderMark, text.length⟩
  | _ => do
    let (value, tail) ← readValue (skipBlanks text)
    match skipBlanks tail.val with
    | [] => return value
    | rest => throw ⟨.extra, rest.length⟩

/-- The document that a text writes. -/
def read (text : String) : Except ReadError Json :=
  match readChars text.toList with
  | .ok value => .ok value
  | .error stop => .error (stop.locate text.toList)

end SignatureForms.Json
