import SignatureForms.Naming.Words
import SignatureForms.ParamTree.Value

/-!
# Lengths of control names

A control is named after the flat form of a value, which drops the quote marks at the start of the
value and keeps the length of the rest. A value that goes on from another one therefore gives a
longer name, unless the other one consists of quote marks only.

The module introduces:

* `Naming.IsQuotes name` — the name consists of quote marks only;
* `Naming.HasText name` — some character of it is no quote mark.

## Main results

* `Naming.capitalize_ne_empty`: capitalising does not empty a text;
* `length_discriminatorName_append`: a longer value has a longer discriminator.
-/

namespace SignatureForms

/-! ## Capitals -/

/-- The capital of a character is never empty. -/
theorem Unicode.upper_ne_nil (c : Char) : Unicode.upper c ≠ [] := by
  have htable : ∀ entry ∈ Unicode.upperExpansions, entry.2 ≠ [] := by decide
  rw [upper, mapCase]
  split
  · exact List.cons_ne_nil _ _
  · split
    · next expansion hfound =>
      -- a lookup only finds entries of the table, and each of them maps to something
      intro hnil
      obtain ⟨before, after, heq⟩ := List.lookup_eq_some_iff.1 hfound
      exact htable (c.toNat, expansion) (by rw [heq.1]; simp) (List.map_eq_nil_iff.1 hnil)
    · exact List.cons_ne_nil _ _

namespace Naming

theorem capitalizeChars_ne_nil {text : List Char} (h : text ≠ []) : capitalizeChars text ≠ [] := by
  cases text with
  | nil => exact absurd rfl h
  | cons c rest => exact List.append_ne_nil_of_left_ne_nil (Unicode.upper_ne_nil c) rest

/-- Capitalising does not empty a text. -/
theorem capitalize_ne_empty {text : String} (h : text ≠ "") : capitalize text ≠ "" := by
  intro hempty
  have hchars : text.toList ≠ [] := by simpa using h
  rw [capitalize, String.ofList_eq_empty_iff] at hempty
  exact capitalizeChars_ne_nil hchars hempty

/-! ## Quote marks -/

/-- The name consists of quote marks only. -/
def IsQuotes (name : String) : Prop :=
  name ≠ "" ∧ ∀ c ∈ name.toList, c = '\''

/-- A name consists of quote marks only just if it is not empty and each of its characters is
one. -/
theorem isQuotes_iff_all {name : String} :
    IsQuotes name ↔ name ≠ "" ∧ name.toList.all (· == '\'') = true := by
  rw [IsQuotes, List.all_eq_true]
  simp only [beq_iff_eq]

instance (name : String) : Decidable (IsQuotes name) :=
  decidable_of_iff _ isQuotes_iff_all.symm

/-- Some character of the name is no quote mark. -/
def HasText (name : String) : Prop :=
  ∃ c ∈ name.toList, c ≠ '\''

/-- A name that is neither empty nor only quote marks has some other character. -/
theorem hasText_of_not_isQuotes {name : String} (hname : name ≠ "") (h : ¬ IsQuotes name) :
    HasText name := by
  refine Classical.byContradiction fun hnone => h ⟨hname, fun c hc => ?_⟩
  exact Classical.byContradiction fun hquote => hnone ⟨c, hc, hquote⟩

/-- A name that goes on from one with a character that is no quote mark has such a character. -/
theorem HasText.append {name : String} (h : HasText name) (more : String) :
    HasText (name ++ more) := by
  obtain ⟨c, hc, hquote⟩ := h
  exact ⟨c, by rw [String.toList_append]; exact List.mem_append_left _ hc, hquote⟩

theorem HasText.ne_empty {name : String} (h : HasText name) : name ≠ "" := by
  rintro rfl
  obtain ⟨c, hc, -⟩ := h
  simp at hc

/-! ## Flat names -/

/-- Of a text that is not only quote marks, those at the start are dropped from a longer text
too. -/
theorem dropWhile_quotes_append {name : List Char} (h : ∃ c ∈ name, c ≠ '\'')
    (more : List Char) :
    (name ++ more).dropWhile (· = '\'') = name.dropWhile (· = '\'') ++ more ∧
      name.dropWhile (· = '\'') ≠ [] := by
  induction name with
  | nil =>
    obtain ⟨c, hc, -⟩ := h
    cases hc
  | cons first rest ih =>
    by_cases hquote : first = '\''
    -- the character that is no quote mark comes later
    · obtain ⟨c, hc, hne⟩ := h
      have hrest : ∃ c ∈ rest, c ≠ '\'' := by
        rcases List.mem_cons.1 hc with rfl | hc
        · exact absurd hquote hne
        · exact ⟨c, hc, hne⟩
      rw [List.cons_append, List.dropWhile_cons_of_pos (by simpa using hquote),
        List.dropWhile_cons_of_pos (by simpa using hquote)]
      exact ih hrest
    · rw [List.cons_append, List.dropWhile_cons_of_neg (by simpa using hquote),
        List.dropWhile_cons_of_neg (by simpa using hquote)]
      exact ⟨rfl, List.cons_ne_nil _ _⟩

/-- Without the stand-in for an empty name, a flat name is as long as what is left of the name. -/
theorem length_flatNameChars {name : List Char} (h : name.dropWhile (· = '\'') ≠ []) :
    (flatNameChars name).length = (name.dropWhile (· = '\'')).length := by
  dsimp only [flatNameChars]
  rw [if_neg (by simpa using h), List.length_map]

/-- Each character that follows a text that is not only quote marks makes the flat name longer. -/
theorem length_flatNameChars_append {name : List Char} (h : ∃ c ∈ name, c ≠ '\'')
    (more : List Char) :
    (flatNameChars (name ++ more)).length = (flatNameChars name).length + more.length := by
  obtain ⟨hdrop, hfull⟩ := dropWhile_quotes_append h more
  have hmore : (name ++ more).dropWhile (· = '\'') ≠ [] := by
    rw [hdrop]
    exact List.append_ne_nil_of_left_ne_nil hfull more
  rw [length_flatNameChars hmore, length_flatNameChars hfull, hdrop, List.length_append]

end Naming

/-! ## Discriminators -/

/-- The name of the discriminator of a longer value is longer by as much. -/
theorem length_discriminatorName_append {value : String} (h : Naming.HasText value)
    (more : String) :
    (discriminatorName (value ++ more)).length =
      (discriminatorName value).length + more.length := by
  simp only [discriminatorName, Naming.flatName, String.length_append, String.length_ofList,
    String.toList_append, Naming.length_flatNameChars_append h, String.length_toList]
  omega

/-- The value of a field below a path that is not empty goes on from the path. -/
theorem qualify_of_ne_empty {path : String} (h : path ≠ "") (name : String) :
    qualify path name = path ++ ("." ++ name) := by
  rw [qualify, if_neg (by simpa using h), String.append_assoc]

end SignatureForms
