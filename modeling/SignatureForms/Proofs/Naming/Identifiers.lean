import SignatureForms.Naming.Resolve
import SignatureForms.Proofs.Naming.Reservations

/-!
# Names that are identifiers

A template name is an identifier: a letter or an underscore, and after it letters, digits and other
numerals, underscores, hyphens and dots. This module shows that the names made from any text are
identifiers, that just the identifiers are left as they are, and that the steps which a name goes
through later, each of which puts something behind it or replaces its dots, keep it one.

The module introduces:

* `IsIdentifier s` — the text is an identifier.

## Main results

* `xmlName_eq_self_iff`: a template name is made from itself just if it is an identifier;
* `exists_resolveName?_of_resource`: a resource always has a name, which is an identifier;
* `IsIdentifier.avoidClash`, `IsIdentifier.withoutDots`, `IsIdentifier.reserve`: it stays one.
-/

namespace SignatureForms.Naming

/-! ## Identifiers -/

/-- A character that may start a template name, and behind it characters that may follow. -/
def IsIdentifier (s : String) : Prop :=
  ∃ first rest, s.toList = first :: rest ∧ isNameStart first = true ∧
    ∀ c ∈ rest, isNameChar c = true

/-- A decimal digit may follow in a template name. -/
theorem isNameChar_of_isDigit {c : Char} (h : c.isDigit = true) : isNameChar c = true := by
  have hspan : 48 ≤ c.toNat ∧ c.toNat ≤ 57 := by
    simpa [Char.isDigit, Char.le_def, UInt32.le_iff_toNat_le] using h
  have hdigit : Unicode.isDigit c = true := by
    have hfirst : Unicode.decimalSpans = (48, 57) :: Unicode.decimalSpans.tail := rfl
    have hcovers : Unicode.covers Unicode.decimalSpans c.toNat = true := by
      rw [hfirst, Unicode.covers_cons, if_pos hspan.2]
      exact decide_eq_true hspan.1
    simp [Unicode.isDigit, hcovers]
  simp [isNameChar, Unicode.isAlphanumeric_of_isDigit hdigit]

/-- An identifier stays one when characters that may follow are put behind it. -/
theorem IsIdentifier.append {s t : String} (h : IsIdentifier s)
    (ht : ∀ c ∈ t.toList, isNameChar c = true) : IsIdentifier (s ++ t) := by
  obtain ⟨first, rest, hs, hfirst, hrest⟩ := h
  refine ⟨first, rest ++ t.toList, by rw [String.toList_append, hs, List.cons_append], hfirst, ?_⟩
  intro c hc
  rcases List.mem_append.1 hc with hc | hc
  · exact hrest c hc
  · exact ht c hc

/-! ## Names made from any text -/

/-- All characters behind the first one may follow. -/
theorem isNameChar_of_mem_xmlNameRest {rest : List Char} {c : Char} (h : c ∈ xmlNameRest rest) :
    isNameChar c = true := by
  obtain ⟨d, -, rfl⟩ := List.mem_map.1 h
  split
  · assumption
  · rfl

theorem xmlNameRest_eq_self {rest : List Char} (h : ∀ c ∈ rest, isNameChar c = true) :
    xmlNameRest rest = rest := by
  rw [xmlNameRest, List.map_congr_left fun c hc => if_pos (h c hc)]
  exact List.map_id rest

/-- What is made of a text from its first fitting character on is an identifier, if there is such a
character. -/
theorem exists_xmlNameStart {cs : List Char} (h : xmlNameStart cs ≠ []) :
    ∃ first rest, xmlNameStart cs = first :: rest ∧ isNameStart first = true ∧
      ∀ c ∈ rest, isNameChar c = true := by
  induction cs with
  | nil => exact absurd rfl h
  | cons c rest ih =>
    rw [xmlNameStart] at h ⊢
    split
    · next hstart => exact ⟨c, _, rfl, hstart, fun _ => isNameChar_of_mem_xmlNameRest⟩
    · next hstart =>
      rw [if_neg hstart] at h
      split
      -- a digit comes behind an underscore
      · next hdigit =>
        refine ⟨'_', _, rfl, rfl, ?_⟩
        refine List.forall_mem_cons.2 ⟨?_, fun _ => isNameChar_of_mem_xmlNameRest⟩
        simp [isNameChar, Unicode.isAlphanumeric_of_isDigit hdigit]
      · next hdigit =>
        rw [if_neg hdigit] at h
        exact ih h

/-- The name made from any text is an identifier. -/
theorem isIdentifier_xmlName (s : String) : IsIdentifier (xmlName s) := by
  rw [IsIdentifier, xmlName, String.toList_ofList, xmlNameChars]
  split
  · exact ⟨'r', "esource".toList, rfl, by decide, List.all_eq_true.1 (by decide)⟩
  · next hfitting => exact exists_xmlNameStart (by simpa using hfitting)

/-- A template name is made from itself just if it is an identifier. -/
theorem xmlName_eq_self_iff {s : String} : xmlName s = s ↔ IsIdentifier s := by
  constructor
  · intro h
    rw [← h]
    exact isIdentifier_xmlName s
  · rintro ⟨first, rest, hs, hfirst, hrest⟩
    have hstart : xmlNameStart s.toList = s.toList := by
      rw [hs, xmlNameStart, if_pos hfirst, xmlNameRest_eq_self hrest]
    have hfull : s.toList.isEmpty = false := by rw [hs]; rfl
    rw [xmlName, xmlNameChars, hstart, hfull]
    exact String.ofList_toList

/-! ## Names of resources -/

/-- An identifier that is missing or empty is none. -/
theorem nameOfOperationId_eq_none {op : Operation} (h : op.operationId.getD "" = "") :
    nameOfOperationId op = none := by
  rw [nameOfOperationId]
  cases hid : op.operationId with
  | none => rfl
  | some id =>
    rw [hid, Option.getD_some] at h
    rw [h]
    rfl

/-- The name that a resource has by its path is an identifier. -/
theorem isIdentifier_of_nameOfPath {op : Operation} {name : String}
    (h : nameOfPath op = some name) : IsIdentifier name := by
  unfold nameOfPath at h
  split at h
  · dsimp only at h
    split at h
    · cases h
    · cases h
      exact isIdentifier_xmlName _
  · cases h

/-- A resource always has a name by its signature, and this is an identifier. -/
theorem exists_nameOfSignature_of_resource (types : TypeGraph) {op : Operation}
    (h : op.kind = .resource) :
    ∃ name, nameOfSignature types op = some name ∧ IsIdentifier name := by
  rw [nameOfSignature, if_pos h]
  exact ⟨_, rfl, isIdentifier_xmlName _⟩

/-- A resource to which its author gives no identifier has a name, by its path or else by its
signature, and this is an identifier. -/
theorem exists_resolveName?_of_resource (types : TypeGraph) {op : Operation}
    (hkind : op.kind = .resource) (hid : op.operationId.getD "" = "") :
    ∃ name, resolveName? types op Strategy.default = some name ∧ IsIdentifier name := by
  have hnone := nameOfOperationId_eq_none hid
  obtain ⟨name, hname, hidentifier⟩ := exists_nameOfSignature_of_resource types hkind
  cases hpath : nameOfPath op with
  | some found =>
    refine ⟨found, ?_, isIdentifier_of_nameOfPath hpath⟩
    simp [resolveName?, Strategy.default, Strategy.name?, hnone, hpath]
  | none =>
    refine ⟨name, ?_, hidentifier⟩
    simp [resolveName?, Strategy.default, Strategy.name?, hnone, hpath, hname]

/-! ## What happens to a name later -/

/-- An identifier does not start with a dot, and its other dots may be underscores. -/
theorem IsIdentifier.withoutDots {s : String} (h : IsIdentifier s) :
    IsIdentifier (withoutDots s) := by
  obtain ⟨first, rest, hs, hfirst, hrest⟩ := h
  have hdot : first ≠ '.' := by
    rintro rfl
    revert hfirst
    decide
  refine ⟨first, rest.map fun c => if c = '.' then '_' else c, ?_, hfirst, ?_⟩
  · rw [Naming.withoutDots, String.toList_ofList, hs, List.map_cons, if_neg hdot]
  · intro c hc
    obtain ⟨d, hd, rfl⟩ := List.mem_map.1 hc
    split
    · rfl
    · exact hrest d hd

/-- Keeping an identifier apart from the names of parameters keeps it an identifier. -/
theorem IsIdentifier.avoidClash {name : String} (h : IsIdentifier name) (op : Operation) :
    IsIdentifier (avoidClash name op) := by
  rw [Naming.avoidClash]
  split
  · exact h.append (List.all_eq_true.1 (by decide))
  · exact h

/-- An identifier with a number behind it is one. -/
theorem IsIdentifier.append_toString {name : String} (h : IsIdentifier name) (n : Nat) :
    IsIdentifier (name ++ toString n) := by
  refine h.append fun c hc => ?_
  rw [toList_toString] at hc
  exact isNameChar_of_isDigit (Nat.isDigit_of_mem_toDigits (by decide) (by decide) hc)

/-- A registry gives identifiers for identifiers. -/
theorem IsIdentifier.reserve {name : String} (h : IsIdentifier name) (names : Registry) :
    IsIdentifier (names.reserve name).1 := by
  rw [Registry.reserve]
  split
  · exact h
  · exact h.append_toString _

end SignatureForms.Naming
