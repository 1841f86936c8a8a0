/-!
# Attribute text

Text inside a double-quoted attribute: the four characters that would end or distort it are
written as entities. They are replaced in the whole text one after the other, the ampersand first,
because the entities for the other three bring ampersands of their own.

* `escapeChars_append` — escaping works part by part;
* `escapeChars_eq_flatMap` — it works character by character.
-/

namespace SignatureForms.Xml

/-- The text with an entity in each place of a character. -/
def replaceAll (c : Char) (entity : String) (cs : List Char) : List Char :=
  cs.flatMap fun d => if d = c then entity.toList else [d]

/-- The characters of a text inside a double-quoted attribute. -/
def escapeChars (cs : List Char) : List Char :=
  replaceAll '"' "&quot;"
    (replaceAll '>' "&gt;" (replaceAll '<' "&lt;" (replaceAll '&' "&amp;" cs)))

/-- A text inside a double-quoted attribute. -/
def escape (s : String) : String :=
  String.ofList (escapeChars s.toList)

/-- One character inside a double-quoted attribute. -/
def escapeChar : Char → List Char
  | '&' => "&amp;".toList
  | '<' => "&lt;".toList
  | '>' => "&gt;".toList
  | '"' => "&quot;".toList
  | c => [c]

theorem replaceAll_append (c : Char) (entity : String) (a b : List Char) :
    replaceAll c entity (a ++ b) = replaceAll c entity a ++ replaceAll c entity b := by
  simp [replaceAll]

theorem replaceAll_singleton_of_ne {c d : Char} (h : d ≠ c) (entity : String) :
    replaceAll c entity [d] = [d] := by
  rw [replaceAll, List.flatMap_singleton, if_neg h]

@[simp]
theorem escapeChars_nil : escapeChars [] = [] := rfl

/-- Escaping works part by part. -/
@[simp]
theorem escapeChars_append (a b : List Char) :
    escapeChars (a ++ b) = escapeChars a ++ escapeChars b := by
  simp only [escapeChars, replaceAll_append]

/-- A single character is replaced once: no entity holds one of the characters that are replaced
after it is put in. -/
theorem escapeChars_singleton (c : Char) : escapeChars [c] = escapeChar c := by
  unfold escapeChar
  split
  case h_5 hamp hlt hgt hquote =>
    rw [escapeChars, replaceAll_singleton_of_ne hamp, replaceAll_singleton_of_ne hlt,
      replaceAll_singleton_of_ne hgt, replaceAll_singleton_of_ne hquote]
  all_goals rfl

@[simp]
theorem escapeChars_cons (c : Char) (rest : List Char) :
    escapeChars (c :: rest) = escapeChar c ++ escapeChars rest := by
  rw [← escapeChars_singleton, ← escapeChars_append, List.singleton_append]

/-- One pass for each of the four characters does what replacing each character on its own does. -/
theorem escapeChars_eq_flatMap (cs : List Char) : escapeChars cs = cs.flatMap escapeChar := by
  induction cs with
  | nil => rfl
  | cons c rest ih => rw [escapeChars_cons, List.flatMap_cons, ih]

end SignatureForms.Xml
