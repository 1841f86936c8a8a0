import Mathlib.Data.List.Basic
import Mathlib.Data.List.TakeWhile
import SignatureForms.Naming.Path

/-!
# Texts of path segments

The segments of a resource path are read from texts that may have blanks in many places. This
module says which segments come of that, and that each of them is read back from one text of its
own, which has no more blanks than it needs.

The module introduces:

* `Unicode.Trimmed cs` — the text begins and ends with characters that are no blanks;
* `Naming.Segment.text` — a segment as it is written without needless blanks;
* `Naming.Segment.Canonical` — what holds of the segments that are read.

## Main results

* `Unicode.trimmed_trimChars`, `Unicode.Trimmed.trimChars_eq`: a text without the blanks at its
  ends is trimmed, and a trimmed text keeps all of its characters;
* `Naming.Segment.ofText?_text_eq_some_iff`: just the canonical segments are read back;
* `Naming.pathSegments_canonical`: segments that are read are canonical, and are read again.
-/

namespace SignatureForms

/-! ## Blanks at the ends -/

namespace Unicode

/-- The text begins and ends with characters that are no blanks, or is empty. -/
structure Trimmed (cs : List Char) : Prop where
  /-- The text does not begin with a blank. -/
  first : ∀ c ∈ cs.head?, isBlank c = false
  /-- The text does not end in a blank. -/
  last : ∀ c ∈ cs.getLast?, isBlank c = false

theorem trimEnd_prefix (cs : List Char) : trimEnd cs <+: cs := by
  have hsuffix : cs.reverse.dropWhile isBlank <:+ cs.reverse := List.dropWhile_suffix isBlank
  rwa [← List.reverse_prefix, List.reverse_reverse] at hsuffix

theorem isBlank_of_mem_head?_trimStart (cs : List Char) {c : Char}
    (h : c ∈ (trimStart cs).head?) : isBlank c = false := by
  have hnot := List.head?_dropWhile_not isBlank cs
  rw [← trimStart, Option.mem_def.1 h] at hnot
  exact hnot

theorem trimStart_eq_self {cs : List Char} (h : ∀ c ∈ cs.head?, isBlank c = false) :
    trimStart cs = cs := by
  cases cs with
  | nil => rfl
  | cons c rest => exact List.dropWhile_cons_of_neg (by simp [h c rfl])

/-- A text loses the blanks at its end as it loses those at its start when it is read backwards. -/
theorem trimEnd_eq_reverse (cs : List Char) : trimEnd cs = (trimStart cs.reverse).reverse := rfl

/-- A text without the blanks at its ends is trimmed. -/
theorem trimmed_trimChars (cs : List Char) : Trimmed (trimChars cs) := by
  constructor
  · intro c hc
    -- what is dropped at the end leaves the start as it is
    obtain ⟨blanks, hblanks⟩ := trimEnd_prefix (trimStart cs)
    refine isBlank_of_mem_head?_trimStart cs ?_
    rw [trimChars] at hc
    rw [← hblanks, List.head?_append, Option.mem_def.1 hc]
    rfl
  · intro c hc
    rw [trimChars, trimEnd_eq_reverse, List.getLast?_reverse] at hc
    exact isBlank_of_mem_head?_trimStart (trimStart cs).reverse hc

/-- A trimmed text keeps all of its characters. -/
theorem Trimmed.trimChars_eq {cs : List Char} (h : Trimmed cs) : trimChars cs = cs := by
  have hend : trimStart cs.reverse = cs.reverse :=
    trimStart_eq_self fun c hc => h.last c (by rwa [List.head?_reverse] at hc)
  rw [trimChars, trimStart_eq_self h.first, trimEnd_eq_reverse, hend, List.reverse_reverse]

/-- A text in brackets is trimmed. -/
theorem Trimmed.of_brackets (inside : List Char) : Trimmed ('[' :: (inside ++ [']'])) := by
  constructor
  · intro c hc
    obtain rfl : '[' = c := Option.some.inj hc
    decide
  · intro c hc
    rw [← List.cons_append, List.getLast?_concat] at hc
    obtain rfl : ']' = c := Option.some.inj hc
    decide

/-- A trimmed text and one that does not end in a blank make up a trimmed text, whatever stands
between them. -/
theorem Trimmed.append_cons {front back : List Char} (h : Trimmed front) (hfront : front ≠ [])
    (between : Char) (hback : back ≠ []) (hlast : ∀ c ∈ back.getLast?, isBlank c = false) :
    Trimmed (front ++ between :: back) := by
  constructor
  · intro c hc
    rw [List.head?_append_of_ne_nil front hfront] at hc
    exact h.first c hc
  · intro c hc
    rw [List.getLast?_append_cons, List.getLast?_cons_of_ne_nil hback] at hc
    exact hlast c hc

/-- A text stays as it is without the blanks at its ends just if it is trimmed. -/
theorem trim_eq_self_iff {s : String} : trim s = s ↔ Trimmed s.toList := by
  rw [trim, ← String.toList_inj, String.toList_ofList]
  exact ⟨fun h => h ▸ trimmed_trimChars s.toList, Trimmed.trimChars_eq⟩

end Unicode

namespace Naming

namespace Segment

/-! ## Segments as they are written -/

/-- A segment as it is written, without needless blanks. -/
def text : Segment → String
  | literal text => text
  | param name type => "[" ++ type ++ " " ++ name ++ "]"

/-- What holds of the text of a literal segment. -/
structure LiteralText (text : String) : Prop where
  /-- There is some text. -/
  full : text ≠ ""
  /-- The text has no blanks at its ends. -/
  trimmed : Unicode.trim text = text
  /-- The text does not stand in brackets. -/
  bare : ¬ (text.toList.head? = some '[' ∧ text.toList.getLast? = some ']')

/-- What holds of the name and the type of a parameter. -/
structure ParamText (name type : String) : Prop where
  /-- There is a name. -/
  name_full : name ≠ ""
  /-- The name has no plain blank in it. -/
  name_whole : ' ' ∉ name.toList
  /-- The name does not end in any blank. -/
  name_last : ∀ c ∈ name.toList.getLast?, Unicode.isBlank c = false
  /-- There is a type. -/
  type_full : type ≠ ""
  /-- The type has no blanks at its ends. -/
  type_trimmed : Unicode.trim type = type

/-- What holds of the segments that are read. -/
def Canonical : Segment → Prop
  | literal text => LiteralText text
  | param name type => ParamText name type

/-! ## Reading segments -/

/-- A text stands in brackets if it begins with the opening one and ends, behind that, with the
closing one. -/
theorem bracketed_iff {c : Char} {rest : List Char} :
    c = '[' ∧ rest.getLast? = some ']' ↔
      (c :: rest).head? = some '[' ∧ (c :: rest).getLast? = some ']' := by
  rw [List.head?_cons, Option.some.injEq, List.getLast?_cons]
  refine and_congr_right fun hopening => ?_
  cases rest.getLast? with
  | none => simp [hopening]
  | some last => simp

/-- A text with a plain blank is split at the last one. -/
theorem splitAtLastBlank_append {name : List Char} (h : ' ' ∉ name) (type : List Char) :
    splitAtLastBlank (type ++ ' ' :: name) = (type, name) := by
  have hname : ∀ c ∈ name.reverse, decide (c ≠ ' ') = true := by
    intro c hc
    exact decide_eq_true fun hblank => h (hblank ▸ List.mem_reverse.1 hc)
  have hafter : (type ++ ' ' :: name).reverse.takeWhile (· ≠ ' ') = name.reverse := by
    rw [List.reverse_append, List.reverse_cons, List.append_assoc,
      List.takeWhile_append_of_pos hname]
    simp
  have hlength : (type ++ ' ' :: name).length - name.length - 1 = type.length := by
    rw [List.length_append, List.length_cons]
    omega
  rw [splitAtLastBlank, hafter, List.reverse_reverse, hlength, List.take_left]

/-- A text without plain blanks is not split. -/
theorem splitAtLastBlank_of_notMem {cs : List Char} (h : ' ' ∉ cs) :
    splitAtLastBlank cs = ([], cs) := by
  have hafter : cs.reverse.takeWhile (· ≠ ' ') = cs.reverse := by
    refine List.takeWhile_eq_self_iff.2 fun c hc => ?_
    exact decide_eq_true fun hblank => h (hblank ▸ List.mem_reverse.1 hc)
  rw [splitAtLastBlank, hafter, List.reverse_reverse, Nat.sub_self, Nat.zero_sub, List.take_zero]

/-- A text with a plain blank has a last one. -/
theorem exists_eq_append_blank {cs : List Char} (h : ' ' ∈ cs) :
    ∃ type name, cs = type ++ ' ' :: name ∧ ' ' ∉ name := by
  obtain ⟨front, back, heq, hfront⟩ := List.eq_append_cons_of_mem (List.mem_reverse.2 h)
  refine ⟨back.reverse, front.reverse, ?_, by rwa [List.mem_reverse]⟩
  rw [← List.reverse_reverse cs, heq, List.reverse_append, List.reverse_cons, List.append_assoc]
  rfl

/-- What is split off behind the last plain blank is a word, which ends as the text does. -/
theorem name_of_splitAtLastBlank {cs : List Char}
    (h : ∀ c ∈ cs.getLast?, Unicode.isBlank c = false) :
    ' ' ∉ (splitAtLastBlank cs).2 ∧
      ∀ c ∈ (splitAtLastBlank cs).2.getLast?, Unicode.isBlank c = false := by
  by_cases hblank : ' ' ∈ cs
  · obtain ⟨type, name, rfl, hname⟩ := exists_eq_append_blank hblank
    rw [splitAtLastBlank_append hname]
    refine ⟨hname, fun c hc => h c ?_⟩
    rw [List.getLast?_append, List.getLast?_cons, Option.mem_def.1 hc]
    rfl
  · rw [splitAtLastBlank_of_notMem hblank]
    exact ⟨hblank, h⟩

/-- A parameter that is read between brackets is canonical. -/
theorem canonical_of_ofBracketed? {inside : List Char} {s : Segment}
    (h : ofBracketed? inside = some s) : s.Canonical := by
  obtain ⟨hwhole, hlast⟩ := name_of_splitAtLastBlank (Unicode.trimmed_trimChars inside).last
  rw [ofBracketed?] at h
  dsimp only at h
  split at h
  · cases h
  · next hfull =>
    cases h
    constructor
    · simpa using hfull
    · rwa [String.toList_ofList]
    · rwa [String.toList_ofList]
    · split
      · decide
      · next htypeFull => simpa using htypeFull
    -- the type that stands in for a missing one is trimmed as well
    · split
      · decide
      · rw [Unicode.trim_eq_self_iff, String.toList_ofList]
        exact Unicode.trimmed_trimChars _

/-- A segment that is read is canonical. -/
theorem canonical_of_ofText? {written : String} {s : Segment} (h : ofText? written = some s) :
    s.Canonical := by
  have htrimmed := Unicode.trimmed_trimChars written.toList
  rw [ofText?, ofChars?] at h
  split at h
  · cases h
  · next c rest heq =>
    rw [heq] at htrimmed
    split at h
    · exact canonical_of_ofBracketed? h
    · next hbare =>
      cases h
      refine ⟨by simp, by rwa [Unicode.trim_eq_self_iff, String.toList_ofList], ?_⟩
      rwa [String.toList_ofList, ← bracketed_iff]

theorem LiteralText.ofText?_eq {text : String} (h : LiteralText text) :
    ofText? text = some (.literal text) := by
  have htrimmed : Unicode.Trimmed text.toList := Unicode.trim_eq_self_iff.1 h.trimmed
  rw [ofText?, ofChars?, htrimmed.trimChars_eq]
  cases hchars : text.toList with
  | nil => exact absurd (by simpa using hchars) h.full
  | cons c rest =>
    have hbare := h.bare
    rw [hchars, ← bracketed_iff] at hbare
    dsimp only
    rw [if_neg hbare, ← hchars, String.ofList_toList]

theorem ParamText.ofText?_eq {name type : String} (h : ParamText name type) :
    ofText? (param name type).text = some (.param name type) := by
  have htext : (param name type).text.toList =
      '[' :: ((type.toList ++ ' ' :: name.toList) ++ [']']) := by
    simp [Segment.text, String.toList_append]
  have htypeFull : type.toList ≠ [] := by simpa using h.type_full
  have hnameFull : name.toList ≠ [] := by simpa using h.name_full
  have htype : Unicode.Trimmed type.toList := Unicode.trim_eq_self_iff.1 h.type_trimmed
  have hinside := htype.append_cons htypeFull ' ' hnameFull h.name_last
  -- neither the brackets nor what stands between them lose a character
  rw [ofText?, ofChars?, htext, (Unicode.Trimmed.of_brackets _).trimChars_eq]
  dsimp only
  rw [if_pos ⟨rfl, List.getLast?_concat⟩, List.dropLast_concat, ofBracketed?, hinside.trimChars_eq,
    splitAtLastBlank_append h.name_whole]
  -- the type has no blanks to lose, and neither text is missing
  dsimp only
  rw [htype.trimChars_eq, if_neg (by simpa using hnameFull), if_neg (by simpa using htypeFull),
    String.ofList_toList, String.ofList_toList]

/-- A canonical segment is read back from the text that it is written as. -/
theorem Canonical.ofText?_text {s : Segment} (h : s.Canonical) : ofText? s.text = some s := by
  cases s with
  | literal text => exact LiteralText.ofText?_eq h
  | param name type => exact ParamText.ofText?_eq h

/-- Just the canonical segments are read back from the texts that they are written as. -/
theorem ofText?_text_eq_some_iff {s : Segment} : ofText? s.text = some s ↔ s.Canonical :=
  ⟨canonical_of_ofText?, Canonical.ofText?_text⟩

end Segment

/-- The segments of a path are canonical: a literal is a trimmed text that is not empty and does not
stand in brackets, a parameter has a name without plain blanks and a trimmed type, neither of which
is empty. The texts that they are written as make up a path with the same segments. -/
theorem pathSegments_canonical (path : List String) :
    (∀ s ∈ pathSegments path, s.Canonical) ∧
      pathSegments ((pathSegments path).map Segment.text) = pathSegments path := by
  have hcanonical : ∀ s ∈ pathSegments path, s.Canonical := by
    intro s hs
    obtain ⟨written, -, hread⟩ := List.mem_filterMap.1 hs
    exact Segment.canonical_of_ofText? hread
  refine ⟨hcanonical, ?_⟩
  rw [pathSegments, List.filterMap_map]
  calc (pathSegments path).filterMap (Segment.ofText? ∘ Segment.text)
      = (pathSegments path).filterMap some :=
        List.filterMap_congr fun s hs => (hcanonical s hs).ofText?_text
    _ = pathSegments path := List.filterMap_some

-- blanks of other sorts are lost at the ends only, and do not part a type from a name
example : pathSegments [" [\tint  a\tb ] "] = [.param "a\tb" "int"] := by decide

end Naming

end SignatureForms
