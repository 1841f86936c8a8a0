import SignatureForms.Proofs.Wire.Elements

/-!
# Escaping attribute text

Four characters of a text are replaced by entities, in one pass over the whole text for each. A
pass meets what the passes before it have put in, and each entity brings an ampersand; still each
character of the text is replaced once, as if on its own. This module collects what follows from
that.

The module introduces:

* `Xml.entities` — the entities that are put in.

## Main results

* `Xml.entity_of_suffix_escapeChars`: an ampersand in the result begins an entity;
* `Xml.escape_characterwise`: characters are replaced on their own, and nothing is lost.
-/

namespace SignatureForms.Xml

/-- The entities that are put in. -/
def entities : List String := ["&amp;", "&lt;", "&gt;", "&quot;"]

/-- A character becomes an entity or stays as it is. -/
theorem escapeChar_cases (c : Char) :
    (∃ entity ∈ entities, escapeChar c = entity.toList) ∨ escapeChar c = [c] ∧ c ≠ '&' := by
  unfold escapeChar
  split
  case h_5 hamp _ _ _ => exact .inr ⟨rfl, hamp⟩
  all_goals exact .inl ⟨_, by decide, rfl⟩

/-- In what becomes of one character, an ampersand can only be the start of an entity. -/
theorem entity_of_suffix_escapeChar {c : Char} {after : List Char}
    (h : '&' :: after <:+ escapeChar c) : ∃ entity ∈ entities, entity.toList = '&' :: after := by
  -- no entity has an ampersand behind its first character
  have htail : ∀ entity ∈ entities, '&' ∉ entity.toList.tail := by decide
  obtain ⟨entity, hentity, heq⟩ | ⟨heq, hamp⟩ := escapeChar_cases c
  · rw [heq] at h
    refine ⟨entity, hentity, ?_⟩
    obtain ⟨front, hfront⟩ := h
    cases front with
    | nil => exact hfront.symm
    | cons first front =>
      refine absurd ?_ (htail entity hentity)
      rw [← hfront]
      simp
  · rw [heq] at h
    have hmem : '&' ∈ [c] := h.subset List.mem_cons_self
    exact absurd (List.mem_singleton.1 hmem).symm hamp

/-- An ampersand in the result is the start of an entity. -/
theorem entity_of_suffix_escapeChars {cs after : List Char} (h : '&' :: after <:+ escapeChars cs) :
    ∃ entity ∈ entities, entity.toList <+: '&' :: after := by
  induction cs with
  | nil => exact absurd (List.suffix_nil.1 h) (List.cons_ne_nil _ _)
  | cons c rest ih =>
    rw [escapeChars_cons] at h
    -- the ampersand stands in what becomes of the first character or behind it
    obtain ⟨front, hfront⟩ := h
    obtain ⟨more, hfirst, hrest⟩ | ⟨more, -, hrest⟩ := List.append_eq_append_iff.1 hfront
    · cases more with
      | nil => exact ih ⟨[], hrest⟩
      | cons d more =>
        rw [List.cons_append] at hrest
        obtain ⟨rfl, rfl⟩ := List.cons.inj hrest
        obtain ⟨entity, hentity, heq⟩ := entity_of_suffix_escapeChar ⟨front, hfirst.symm⟩
        exact ⟨entity, hentity, escapeChars rest, by rw [heq, List.cons_append]⟩
    · exact ih ⟨more, hrest.symm⟩

/-- Escaping replaces each character of a text on its own, which loses nothing. In the result there
are no brackets and no double quotes, each ampersand begins one of the four entities, and undoing
these gives the text back. -/
theorem escape_characterwise (s : String) :
    (escape s).toList = s.toList.flatMap escapeChar ∧
      Function.Injective escape ∧
      (∀ c ∈ ['<', '>', '"'], c ∉ (escape s).toList) ∧
      (∀ after, '&' :: after <:+ (escape s).toList →
        ∃ entity ∈ entities, entity.toList <+: '&' :: after) ∧
      unescape (escape s).toList = s := by
  have hchars : ∀ text, (escape text).toList = escapeChars text.toList :=
    fun text => String.toList_ofList
  have hback : ∀ text, unescape (escape text).toList = text := by
    intro text
    rw [hchars, unescape_escapeChars]
  refine ⟨?_, fun t u htu => ?_, fun c hc => ?_, fun after hafter => ?_, hback s⟩
  · rw [hchars, escapeChars_eq_flatMap]
  · rw [← hback t, htu, hback u]
  · rw [hchars]
    exact notMem_escapeChars hc s.toList
  · rw [hchars] at hafter
    exact entity_of_suffix_escapeChars hafter

end SignatureForms.Xml
