import Mathlib.Data.List.Infix

/-!
# Entities

A character that means something in markup is written into a text as an entity: an ampersand and a
name, which ends in a semicolon. Which characters have an entity depends on where the text is to
stand. This module reads entities back for any choice of them in which the ampersand has one and no
name begins another.

The module introduces:

* `Entities` — characters with the names of their entities;
* `Entities.encodeChar` — what stands for one character;
* `Entities.decode` — the text that is read, the entities undone.

## Main results

* `Entities.decode_flatMap_encodeChar`: what is written with entities is read back;
* `Entities.notMem_flatMap_encodeChar`: a character that has an entity is not written itself.
-/

namespace SignatureForms

/-- Characters with the names of their entities. -/
structure Entities where
  /-- The characters, each with what follows the ampersand of its entity. -/
  names : List (Char × List Char)
  /-- The ampersand itself is written as an entity. -/
  ampersand : (names.lookup '&').isSome
  /-- No name is the beginning of another. -/
  apart : ∀ e ∈ names, ∀ f ∈ names, e.2 <+: f.2 → e = f

namespace Entities

variable (t : Entities)

/-! ## Definitions -/

/-- What stands for a character. -/
def encodeChar (c : Char) : List Char :=
  match t.names.lookup c with
  | some name => '&' :: name
  | none => [c]

/-- The entity that a text begins with, if it begins with one. -/
def first? : List Char → Option (Char × List Char)
  | '&' :: rest => t.names.find? fun e => e.2.isPrefixOf rest
  | _ => none

/-- What is read from a text whose first characters belong to an entity that was read before. -/
def decodeFrom : Nat → List Char → List Char
  | _, [] => []
  | known + 1, _ :: rest => decodeFrom known rest
  | 0, c :: rest =>
    match t.first? (c :: rest) with
    | some (d, name) => d :: decodeFrom name.length rest
    | none => c :: decodeFrom 0 rest

/-- What is read from a text, the entities undone. Other ampersands stand for themselves. -/
def decode (cs : List Char) : List Char := t.decodeFrom 0 cs

variable {t}

theorem mem_names_of_lookup {c : Char} {name : List Char} (h : t.names.lookup c = some name) :
    (c, name) ∈ t.names := by
  obtain ⟨before, after, hsplit, -⟩ := List.lookup_eq_some_iff.1 h
  rw [hsplit]
  simp

/-- A character without an entity stands for itself. -/
theorem encodeChar_eq_self {c : Char} (h : ∀ e ∈ t.names, c ≠ e.1) : t.encodeChar c = [c] := by
  have hnone : t.names.lookup c = none := by
    rw [List.lookup_eq_none_iff]
    exact fun e he => bne_iff_ne.2 (h e he)
  rw [encodeChar, hnone]

/-! ## Reading -/

/-- The rest of an entity is skipped. -/
theorem decodeFrom_append (name rest : List Char) :
    t.decodeFrom name.length (name ++ rest) = t.decode rest := by
  induction name with
  | nil => rfl
  | cons c name ih => exact ih

/-- A text begins with the one entity that was written at its start. -/
theorem first?_append {c : Char} {name : List Char} (h : (c, name) ∈ t.names)
    (rest : List Char) : t.first? ('&' :: (name ++ rest)) = some (c, name) := by
  have hname : name <+: name ++ rest := List.prefix_append name rest
  have hsome : (t.first? ('&' :: (name ++ rest))).isSome := by
    rw [first?, List.find?_isSome]
    exact ⟨(c, name), h, List.isPrefixOf_iff_prefix.2 hname⟩
  obtain ⟨e, he⟩ := Option.isSome_iff_exists.1 hsome
  rw [first?] at he
  have hmem : e ∈ t.names := List.mem_of_find?_eq_some he
  have hbegin : e.2 <+: name ++ rest := by simpa using List.find?_some he
  -- of two beginnings of one text, one is a beginning of the other
  have heq : e = (c, name) := by
    obtain hle | hle := List.prefix_or_prefix_of_prefix hbegin hname
    · exact t.apart e hmem _ h hle
    · exact (t.apart _ h e hmem hle).symm
  rw [first?, he, heq]

/-- An entity is read as its character, whatever follows. -/
theorem decode_entity {c : Char} {name : List Char} (h : (c, name) ∈ t.names)
    (rest : List Char) : t.decode ('&' :: (name ++ rest)) = c :: t.decode rest := by
  rw [decode, decodeFrom, first?_append h, ← decodeFrom_append name rest]

/-- A character that begins no entity is read as itself. -/
theorem decode_cons {c : Char} (h : c ≠ '&') (rest : List Char) :
    t.decode (c :: rest) = c :: t.decode rest := by
  have hnone : t.first? (c :: rest) = none := by
    unfold first?
    split
    · next heq => exact absurd (List.cons.inj heq).1 h
    · rfl
  rw [decode, decodeFrom, hnone]
  rfl

/-- A text without ampersands is read as itself. -/
theorem decode_eq_self {cs : List Char} (h : '&' ∉ cs) : t.decode cs = cs := by
  induction cs with
  | nil => rfl
  | cons c rest ih =>
    rw [List.mem_cons, not_or] at h
    rw [decode_cons (Ne.symm h.1), ih h.2]

/-- No text gets longer when its entities are undone. -/
theorem length_decode_le (cs : List Char) : (t.decode cs).length ≤ cs.length := by
  -- also where the text begins within an entity
  have hfrom : ∀ known, (t.decodeFrom known cs).length ≤ cs.length := by
    induction cs with
    | nil => exact fun known => by rw [decodeFrom]
    | cons c rest ih =>
      intro known
      cases known with
      | succ known => exact Nat.le_succ_of_le (ih known)
      | zero =>
        rw [decodeFrom]
        split
        · exact Nat.succ_le_succ (ih _)
        · exact Nat.succ_le_succ (ih 0)
  exact hfrom 0

/-! ## Writing and reading -/

/-- What stands for a character is read as this character, whatever follows. -/
theorem decode_encodeChar_append (c : Char) (rest : List Char) :
    t.decode (t.encodeChar c ++ rest) = c :: t.decode rest := by
  unfold encodeChar
  split
  · next name hname =>
    exact decode_entity (mem_names_of_lookup hname) rest
  · next hnone =>
    refine decode_cons ?_ rest
    rintro rfl
    simpa [hnone] using t.ampersand

/-- What is written with entities is read back. -/
theorem decode_flatMap_encodeChar (cs : List Char) :
    t.decode (cs.flatMap t.encodeChar) = cs := by
  induction cs with
  | nil => rfl
  | cons c rest ih => rw [List.flatMap_cons, decode_encodeChar_append, ih]

/-- A character that has an entity, and is used in none, is not written itself. -/
theorem notMem_flatMap_encodeChar {c : Char} (hc : (t.names.lookup c).isSome) (hamp : c ≠ '&')
    (hnames : ∀ e ∈ t.names, c ∉ e.2) (cs : List Char) : c ∉ cs.flatMap t.encodeChar := by
  rw [List.mem_flatMap]
  rintro ⟨d, -, hmem⟩
  unfold encodeChar at hmem
  split at hmem
  · next name hname =>
    have hentry := mem_names_of_lookup hname
    exact (List.mem_cons.1 hmem).elim hamp (hnames _ hentry)
  · next hnone =>
    rw [List.mem_singleton] at hmem
    subst hmem
    simp [hnone] at hc

end Entities

end SignatureForms
