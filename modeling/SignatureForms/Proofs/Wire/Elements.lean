import SignatureForms.Artifact.Operation
import SignatureForms.Proofs.Entities
import SignatureForms.Proofs.Naming.Numerals

/-!
# Reading elements

A template holds elements whose attributes are texts in double quotes. Values and descriptions are
escaped before they are written, names and keys are not. This module reads elements back, an
attribute being the text up to the next double quote with its entities undone, and shows when what
is read is what was written.

The module introduces:

* `Xml.attributeEntities` — the entities of an attribute, `Xml.unescape` — the text that it stands
  for;
* `Xml.elements` — the elements in a text, with their attributes;
* `Xml.Plain` — a text that stands for itself inside an attribute.

## Main results

* `Xml.unescape_escapeChars`: what is escaped is read back;
* `Xml.elements_eq_iff`: declarations, descriptors and templates are read back just when the names
  in them are plain.
-/

namespace SignatureForms.Xml

/-! ## Texts in attributes -/

/-- The entities of an attribute. -/
def attributeEntities : Entities where
  names := [('&', "amp;".toList), ('<', "lt;".toList), ('>', "gt;".toList), ('"', "quot;".toList)]
  ampersand := rfl
  apart := by decide

/-- The text that an attribute stands for. -/
def unescape (cs : List Char) : String := String.ofList (attributeEntities.decode cs)

/-- A text that stands for itself inside an attribute. -/
def Plain (s : String) : Prop := '"' ∉ s.toList ∧ unescape s.toList = s

instance (s : String) : Decidable (Plain s) := inferInstanceAs (Decidable (_ ∧ _))

theorem escapeChar_eq_encodeChar (c : Char) : escapeChar c = attributeEntities.encodeChar c := by
  unfold escapeChar
  split
  case h_5 hamp hlt hgt hquote =>
    exact (Entities.encodeChar_eq_self
      (by simpa [attributeEntities] using ⟨hamp, hlt, hgt, hquote⟩)).symm
  all_goals rfl

theorem escapeChars_eq_flatMap_encodeChar (cs : List Char) :
    escapeChars cs = cs.flatMap attributeEntities.encodeChar := by
  rw [escapeChars_eq_flatMap, funext escapeChar_eq_encodeChar]

/-- What is escaped holds neither brackets nor double quotes. -/
theorem notMem_escapeChars {c : Char} (hc : c ∈ ['<', '>', '"']) (cs : List Char) :
    c ∉ escapeChars cs := by
  rw [escapeChars_eq_flatMap_encodeChar]
  have hthree : c = '<' ∨ c = '>' ∨ c = '"' := by simpa using hc
  -- each of the three has an entity
  obtain rfl | rfl | rfl := hthree
  all_goals exact Entities.notMem_flatMap_encodeChar rfl (by decide) (by decide) cs

/-- What is escaped does not end its attribute. -/
theorem quote_notMem_escapeChars (cs : List Char) : '"' ∉ escapeChars cs :=
  notMem_escapeChars (by decide) cs

theorem unescape_escapeChars (s : String) : unescape (escapeChars s.toList) = s := by
  rw [unescape, escapeChars_eq_flatMap_encodeChar, Entities.decode_flatMap_encodeChar,
    String.ofList_toList]

/-- A text without entities and without double quotes is plain. -/
theorem plain_of_forall {s : String} (h : ∀ c ∈ s.toList, c ≠ '&' ∧ c ≠ '"') : Plain s := by
  refine ⟨fun hquote => (h _ hquote).2 rfl, ?_⟩
  have hamp : '&' ∉ s.toList := fun hmem => (h _ hmem).1 rfl
  rw [unescape, Entities.decode_eq_self hamp, String.ofList_toList]

/-! ## Elements -/

/-- An element with attributes. -/
structure Element where
  /-- The name of the element. -/
  tag : String
  /-- The attributes, by their names. -/
  attributes : List (String × String)
deriving DecidableEq, Repr

/-- What follows the last place of a character. -/
def afterLast (c : Char) (cs : List Char) : List Char := (cs.reverse.takeWhile (· ≠ c)).reverse

/-- The name of the element that a markup opens, if it opens one. -/
def tag? (markup : List Char) : Option String :=
  if '<' ∈ markup then some (String.ofList ((afterLast '<' markup).takeWhile (· ≠ ' '))) else none

/-- The name of the attribute that a markup ends in. -/
def key (markup : List Char) : String :=
  String.ofList ((afterLast ' ' markup).takeWhile (· ≠ '='))

/-- What is read from the parts of a text between double quotes, which are markup and attributes in
turn: the attributes of an element that was opened before, and the elements that are opened. -/
def readParts : List (List Char) → List (String × String) × List Element
  | markup :: text :: rest =>
    let entry := (key markup, unescape text)
    let (more, elements) := readParts rest
    match tag? markup with
    | some tag => ([], ⟨tag, entry :: more⟩ :: elements)
    | none => (entry :: more, elements)
  | _ => ([], [])

/-- What is read from a text. -/
def read (cs : List Char) : List (String × String) × List Element :=
  readParts (cs.splitOn '"')

/-- The elements with attributes in a text. -/
def elements (text : String) : List Element := (read text.toList).2

theorem takeWhile_append_cons {c : Char} {front : List Char} (h : c ∉ front) (back : List Char) :
    (front ++ c :: back).takeWhile (· ≠ c) = front := by
  have hfront : ∀ d ∈ front, decide (d ≠ c) = true := by
    intro d hd
    exact decide_eq_true (by rintro rfl; exact h hd)
  rw [List.takeWhile_append_of_pos hfront]
  simp

theorem afterLast_append_cons {c : Char} {back : List Char} (h : c ∉ back) (front : List Char) :
    afterLast c (front ++ c :: back) = back := by
  have hback : c ∉ back.reverse := by rwa [List.mem_reverse]
  rw [afterLast, List.reverse_append, List.reverse_cons, List.append_assoc, List.singleton_append,
    takeWhile_append_cons hback, List.reverse_reverse]

/-- The first part of a text ends at the first double quote. -/
theorem splitOn_append_quote {front : List Char} (h : '"' ∉ front) (back : List Char) :
    (front ++ '"' :: back).splitOn '"' = front :: back.splitOn '"' := by
  rw [List.splitOn]
  refine List.splitOnP_append_cons_of_forall_mem (fun c hc => ?_) _ (by simp) _
  exact beq_eq_false_iff_ne.2 (by rintro rfl; exact h hc)

section Read

variable {markup text : List Char} (hmarkup : '"' ∉ markup) (htext : '"' ∉ text) (rest : List Char)

include hmarkup htext

/-- A markup that opens an element leaves to it the attributes that follow before the next one. -/
theorem read_eq_of_tag {tag : String} (htag : tag? markup = some tag) :
    read (markup ++ '"' :: (text ++ '"' :: rest)) =
      ([], ⟨tag, (key markup, unescape text) :: (read rest).1⟩ :: (read rest).2) := by
  rw [read, splitOn_append_quote hmarkup, splitOn_append_quote htext, readParts, htag]
  rfl

/-- A markup that opens no element goes on with the attributes of the element before it. -/
theorem read_eq_of_none (htag : tag? markup = none) :
    read (markup ++ '"' :: (text ++ '"' :: rest)) =
      ((key markup, unescape text) :: (read rest).1, (read rest).2) := by
  rw [read, splitOn_append_quote hmarkup, splitOn_append_quote htext, readParts, htag]
  rfl

end Read

/-! ## Markup -/

section Markup

variable {before : List Char} {tag : String}

/-- The markup in front of the first attribute of an element. -/
def opening (tag : String) : List Char := '<' :: (tag.toList ++ ' ' :: "name=".toList)

/-- The markup in front of the second attribute of an element. -/
def between (second : String) : List Char := ' ' :: (second.toList ++ ['='])

/-- The word has no character that ends a part of a markup. -/
structure IsWord (s : String) : Prop where
  /-- The word does not begin an attribute. -/
  quote : '"' ∉ s.toList
  /-- The word does not open an element. -/
  bracket : '<' ∉ s.toList
  /-- The word does not end the name of an element. -/
  blank : ' ' ∉ s.toList
  /-- The word does not end the name of an attribute. -/
  equals : '=' ∉ s.toList

theorem quote_notMem_opening (hbefore : '"' ∉ before) (htag : IsWord tag) :
    '"' ∉ before ++ opening tag := by
  simp [opening, hbefore, htag.quote]

theorem quote_notMem_between {second : String} (hsecond : IsWord second) :
    '"' ∉ between second := by
  simp [between, hsecond.quote]

/-- An opening is read as such, whatever stands before it. -/
theorem tag?_opening (before : List Char) (htag : IsWord tag) :
    tag? (before ++ opening tag) = some tag := by
  have hback : '<' ∉ tag.toList ++ ' ' :: "name=".toList := by simp [htag.bracket]
  rw [tag?, if_pos (by simp [opening])]
  rw [opening, afterLast_append_cons hback, takeWhile_append_cons htag.blank, String.ofList_toList]

theorem key_opening (before : List Char) (tag : String) : key (before ++ opening tag) = "name" := by
  have hsplit : before ++ opening tag = (before ++ '<' :: tag.toList) ++ ' ' :: "name=".toList := by
    simp [opening]
  rw [key, hsplit, afterLast_append_cons (by decide)]
  rfl

theorem tag?_between {second : String} (hsecond : IsWord second) : tag? (between second) = none :=
  if_neg (by simp [between, hsecond.bracket])

theorem key_between {second : String} (hsecond : IsWord second) :
    key (between second) = second := by
  have hback : ' ' ∉ second.toList ++ ['='] := by simp [hsecond.blank]
  have hafter := afterLast_append_cons hback []
  rw [List.nil_append] at hafter
  rw [key, between, hafter, takeWhile_append_cons hsecond.equals, String.ofList_toList]

end Markup

/-! ## Elements with a name -/

section Pairs

variable {before after : List Char} {tag second : String}

/-- An element with a name that is not escaped and a second attribute that is. -/
def pairChars (tag second : String) (pair : String × String) : List Char :=
  opening tag ++ '"' :: (pair.1.toList ++ '"' ::
    (between second ++ '"' :: (escapeChars pair.2.toList ++ '"' :: "/>".toList)))

/-- What should be read from an element with a name and a second attribute. -/
def pairElement (tag second : String) (pair : String × String) : Element :=
  ⟨tag, [("name", pair.1), (second, pair.2)]⟩

/-- Elements with a name and a second attribute, and blanks between them. -/
def pairsChars (tag second : String) (blanks : List Char) (pairs : List (String × String)) :
    List Char :=
  blanks.intercalate (pairs.map (pairChars tag second))

/-- The first of several elements stands in front of the others. -/
theorem pairsChars_cons (tag second : String) (blanks : List Char) (pair : String × String)
    (pairs : List (String × String)) :
    pairsChars tag second blanks (pair :: pairs) = pairChars tag second pair ++
      if pairs.isEmpty then [] else blanks ++ pairsChars tag second blanks pairs := by
  cases pairs with
  | nil =>
    rw [pairsChars, List.map_singleton, List.intercalate_singleton]
    exact (List.append_nil _).symm
  | cons next rest =>
    rw [pairsChars, List.map_cons, List.map_cons, List.intercalate_cons_cons, List.append_assoc]
    rfl

/-- What opens an element leaves no attributes to the element before it. -/
theorem read_opening_fst (hbefore : '"' ∉ before) (htag : IsWord tag) (rest : List Char) :
    (read (before ++ (opening tag ++ '"' :: rest))).1 = [] := by
  rw [← List.append_assoc, read, splitOn_append_quote (quote_notMem_opening hbefore htag)]
  cases rest.splitOn '"' with
  | nil => rfl
  | cons text parts =>
    rw [readParts, tag?_opening before htag]

/-- An element is read up to the first double quote in its name. -/
theorem read_pair_of_quote (hbefore : '"' ∉ before) (htag : IsWord tag) {name : String}
    {front back : List Char} (hname : name.toList = front ++ '"' :: back) (hfront : '"' ∉ front)
    (second text : String) (after : List Char) :
    ∃ more elements, (read (before ++ (pairChars tag second (name, text) ++ after))).2 =
      ⟨tag, ("name", unescape front) :: more⟩ :: elements := by
  have hmarkup := quote_notMem_opening hbefore htag
  rw [pairChars, hname, List.append_assoc, ← List.append_assoc before]
  simp only [List.cons_append, List.append_assoc]
  rw [← List.append_assoc before, read_eq_of_tag hmarkup hfront _ (tag?_opening before htag),
    key_opening]
  exact ⟨_, _, rfl⟩

/-- An element without a double quote in its name is read, with the entities of the name undone. -/
theorem read_pair (hbefore : '"' ∉ before) (htag : IsWord tag) (hsecond : IsWord second)
    (hafter : (read ("/>".toList ++ after)).1 = []) {name : String} (hname : '"' ∉ name.toList)
    (text : String) :
    (read (before ++ (pairChars tag second (name, text) ++ after))).2 =
      pairElement tag second (unescape name.toList, text) :: (read ("/>".toList ++ after)).2 := by
  have hmarkup := quote_notMem_opening hbefore htag
  have htext := quote_notMem_escapeChars text.toList
  rw [pairChars, List.append_assoc, ← List.append_assoc before]
  simp only [List.cons_append, List.append_assoc]
  rw [← List.append_assoc before, read_eq_of_tag hmarkup hname _ (tag?_opening before htag),
    read_eq_of_none (quote_notMem_between hsecond) htext _ (tag?_between hsecond), key_opening,
    key_between hsecond, unescape_escapeChars, hafter, pairElement]

/-- An element is read back just when its name is plain. -/
theorem read_pair_eq_iff (hbefore : '"' ∉ before) (htag : IsWord tag) (hsecond : IsWord second)
    (hafter : (read ("/>".toList ++ after)).1 = []) {pair : String × String}
    {elements : List Element} :
    (read (before ++ (pairChars tag second pair ++ after))).2 =
        pairElement tag second pair :: elements ↔
      Plain pair.1 ∧ (read ("/>".toList ++ after)).2 = elements := by
  obtain ⟨name, text⟩ := pair
  by_cases hquote : '"' ∈ name.toList
  · -- what is read ends at the first double quote, so it is shorter than the name
    obtain ⟨front, back, hname, hfront⟩ := List.eq_append_cons_of_mem hquote
    refine ⟨fun hread => ?_, fun hplain => absurd hquote hplain.1.1⟩
    obtain ⟨more, others, hshort⟩ :=
      read_pair_of_quote hbefore htag hname hfront second text after
    rw [hshort, pairElement] at hread
    simp only [List.cons.injEq, Element.mk.injEq, Prod.mk.injEq, true_and] at hread
    have hlength := attributeEntities.length_decode_le front
    have hsame : attributeEntities.decode front = name.toList := by
      rw [← hread.1.1, unescape, String.toList_ofList]
    rw [hsame, hname, List.length_append, List.length_cons] at hlength
    omega
  · rw [read_pair hbefore htag hsecond hafter hquote text]
    simp only [pairElement, List.cons.injEq, Element.mk.injEq, Prod.mk.injEq, true_and, and_true,
      Plain, hquote, not_false_eq_true]

/-- What is read from elements belongs to none that was opened before. -/
theorem read_pairs_fst (hbefore : '"' ∉ before) (htag : IsWord tag) (second : String)
    (blanks : List Char) {pairs : List (String × String)} (hpairs : pairs ≠ [])
    (after : List Char) :
    (read (before ++ (pairsChars tag second blanks pairs ++ after))).1 = [] := by
  obtain ⟨pair, rest, rfl⟩ := List.exists_cons_of_ne_nil hpairs
  rw [pairsChars_cons, pairChars, List.append_assoc, List.append_assoc]
  exact read_opening_fst hbefore htag _

/-- Several elements are read back just when their names are plain. -/
theorem read_pairs_eq_iff {blanks : List Char} (hblanks : '"' ∉ blanks) (hbefore : '"' ∉ before)
    (htag : IsWord tag) (hsecond : IsWord second) (hafter : (read ("/>".toList ++ after)).1 = [])
    {pairs : List (String × String)} (hpairs : pairs ≠ []) (elements : List Element) :
    (read (before ++ (pairsChars tag second blanks pairs ++ after))).2 =
        pairs.map (pairElement tag second) ++ elements ↔
      (∀ pair ∈ pairs, Plain pair.1) ∧ (read ("/>".toList ++ after)).2 = elements := by
  induction pairs generalizing before with
  | nil => exact absurd rfl hpairs
  | cons pair rest ih =>
    cases rest with
    | nil =>
      rw [pairsChars_cons, List.isEmpty_nil, if_pos rfl, List.append_nil, List.map_singleton,
        List.singleton_append, read_pair_eq_iff hbefore htag hsecond hafter,
        List.forall_mem_singleton]
    | cons next rest =>
      have hfollow : '"' ∉ "/>".toList ++ blanks := by simp [hblanks]
      have hnext :=
        read_pairs_fst hfollow htag second blanks (List.cons_ne_nil next rest) after
      rw [List.append_assoc] at hnext
      rw [pairsChars_cons, List.isEmpty_cons, if_neg Bool.false_ne_true, List.map_cons,
        List.cons_append, List.append_assoc, List.append_assoc,
        read_pair_eq_iff hbefore htag hsecond hnext, ← List.append_assoc "/>".toList,
        ih hfollow (List.cons_ne_nil next rest), ← and_assoc,
        List.forall_mem_cons (p := fun pair => Plain pair.1) (a := pair)]

end Pairs

/-! ## What is written -/

section Written

/-- What should be read from a declaration. -/
def ofDeclaration (d : Declaration) : Element := ⟨"property", [("name", d.name), ("value", d.value)]⟩

/-- What should be read from a descriptor. -/
def ofDescriptor (d : ParameterDescriptor) : Element :=
  ⟨"parameter", [("name", d.name), ("description", d.description)]⟩

/-- An element is written between its markup. -/
theorem toList_pairText {start mid : String} {front : List Char} {tag second : String}
    (hstart : start.toList = front ++ (opening tag ++ ['"']))
    (hmid : mid.toList = '"' :: (between second ++ ['"'])) (name text : String) :
    (start ++ name ++ mid ++ escape text ++ "\"/>").toList =
      front ++ pairChars tag second (name, text) := by
  have hclose : "\"/>".toList = '"' :: "/>".toList := rfl
  simp only [String.toList_append, hstart, hmid, hclose, escape, String.toList_ofList, pairChars,
    List.append_assoc, List.cons_append, List.nil_append]

theorem toList_element_declaration (d : Declaration) :
    d.element.toList = pairChars "property" "value" (d.name, d.value) := by
  have hstart : "<property name=\"".toList = [] ++ (opening "property" ++ ['"']) := rfl
  exact toList_pairText hstart rfl d.name d.value

theorem toList_element_descriptor (d : ParameterDescriptor) :
    d.element.toList = pairChars "parameter" "description" (d.name, d.description) := by
  have hstart : "<parameter name=\"".toList = [] ++ (opening "parameter" ++ ['"']) := rfl
  exact toList_pairText hstart rfl d.name d.description

/-- Declarations are written as elements with blanks between them. -/
theorem toList_propertyElements (ds : List Declaration) :
    (propertyElements ds).toList = pairsChars "property" "value" "\n        ".toList
      (ds.map fun d => (d.name, d.value)) := by
  rw [propertyElements, String.toList_intercalate, List.map_map, pairsChars, List.map_map]
  refine congrArg _ (List.map_congr_left fun d _ => ?_)
  exact toList_element_declaration d

/-- Descriptors are written as elements with blanks between them. -/
theorem toList_parameterElements (ds : List ParameterDescriptor) :
    (parameterElements ds).toList = pairsChars "parameter" "description" "\n    ".toList
      (ds.map fun d => (d.name, d.description)) := by
  rw [parameterElements, String.toList_intercalate, List.map_map, pairsChars, List.map_map]
  refine congrArg _ (List.map_congr_left fun d _ => ?_)
  exact toList_element_descriptor d

/-- The declarations of a template: two of the operation itself, those of its path and those of its
parameters. -/
def templateDeclarations (a : OperationArtifact) : List Declaration :=
  ⟨"operationName", a.operation.name⟩ :: ⟨"operationKind", a.operation.kind.name⟩ ::
    (pathDeclarations a.pathParams ++ a.wire)

/-- Lines, of which two may be missing, are joined with a separator between them. -/
theorem intercalate_lines (sep head start first second close last p d : String) (b b' : Bool) :
    sep.intercalate ([head] ++ (if b then [] else [p]) ++ [start, first, second] ++
      (if b' then [] else [d]) ++ [close, last]) =
    head ++ (if b then "" else sep ++ p) ++ sep ++ start ++ sep ++ first ++ sep ++ second ++
      (if b' then "" else sep ++ d) ++ sep ++ close ++ sep ++ last := by
  cases b <;> cases b' <;> simp [String.intercalate_cons_cons, String.append_assoc]

/-- A template is written as the operation, what describes its parameters, and its declarations. -/
theorem toList_xml (a : OperationArtifact) :
    a.xml.toList = opening "template" ++ '"' :: (escapeChars a.name.toList ++ '"' :: (">".toList ++
      ((if a.descriptors.isEmpty then [] else "\n    ".toList ++
        pairsChars "parameter" "description" "\n    ".toList
          (a.descriptors.map fun d => (d.name, d.description))) ++
      ("\n    <sequence>\n        ".toList ++
        (pairsChars "property" "value" "\n        ".toList
          ((templateDeclarations a).map fun d => (d.name, d.value)) ++
        "\n    </sequence>\n</template>\n".toList))))) := by
  -- each literal is cut where a tag or a quoted text begins
  have hhead : "<template name=\"".toList = opening "template" ++ ['"'] := rfl
  have hend : "\">".toList = '"' :: ">".toList := rfl
  have hproperty : "        <property name=\"".toList =
    "        ".toList ++ (opening "property" ++ ['"']) := rfl
  have hvalue : "\" value=\"".toList = '"' :: (between "value" ++ ['"']) := rfl
  have hfixed := toList_pairText hproperty hvalue
  have hline : "\n    ".toList = "\n".toList ++ "    ".toList := rfl
  have hline' : "\n        ".toList = "\n".toList ++ "        ".toList := rfl
  have hstart : "\n    <sequence>\n        ".toList =
    "\n".toList ++ ("    <sequence>".toList ++ ("\n".toList ++ "        ".toList)) := rfl
  have hclose : "\n    </sequence>\n</template>\n".toList = "\n".toList ++
    ("    </sequence>".toList ++ ("\n".toList ++ ("</template>".toList ++ "\n".toList))) := rfl
  unfold OperationArtifact.xml
  dsimp only
  rw [intercalate_lines]
  simp only [String.toList_append, apply_ite String.toList, toList_propertyElements,
    toList_parameterElements]
  -- the first two properties are written on their own
  rw [templateDeclarations, List.map_cons, List.map_cons, pairsChars_cons, pairsChars_cons,
    List.isEmpty_cons, List.isEmpty_map]
  simp only [String.toList_append] at hfixed
  simp only [hfixed]
  simp only [hhead, hend, hline, hline', hstart, hclose, escape, String.toList_ofList,
    String.toList_empty, Bool.false_eq_true, if_false, List.append_assoc, List.cons_append,
    List.nil_append]

end Written

/-! ## What is read -/

/-- The names of the path are plain. -/
theorem plain_of_mem_pathDeclarations {segments : List Naming.Segment} {d : Declaration}
    (hd : d ∈ pathDeclarations segments) : Plain d.name := by
  have hnumbered : ∀ (word : String) (n : Nat),
      word.toList.all (fun c => c != '&' && c != '"') = true → Plain (word ++ toString n) := by
    intro word n hword
    refine plain_of_forall fun c hc => ?_
    rw [String.toList_append, List.mem_append, Naming.toList_toString] at hc
    obtain hc | hc := hc
    · simpa using List.all_eq_true.1 hword c hc
    · have hdigit := Nat.isDigit_of_mem_toDigits (by decide) (by decide) hc
      constructor <;> rintro rfl <;> revert hdigit <;> decide
  obtain ⟨⟨segment, index⟩, -, hd⟩ := List.mem_flatMap.1 hd
  simp only [List.mem_cons, List.not_mem_nil, or_false] at hd
  obtain rfl | rfl := hd
  · exact hnumbered "pathParam" index rfl
  · exact hnumbered "pathParamType" index rfl

theorem isWord_tags : IsWord "template" ∧ IsWord "parameter" ∧ IsWord "property" ∧
    IsWord "description" ∧ IsWord "value" := by
  refine ⟨⟨?_, ?_, ?_, ?_⟩, ⟨?_, ?_, ?_, ?_⟩, ⟨?_, ?_, ?_, ?_⟩, ⟨?_, ?_, ?_, ?_⟩, ⟨?_, ?_, ?_, ?_⟩⟩ <;>
    decide

/-- Elements alone are read back just when their names are plain. -/
theorem read_pairsChars_eq_iff {tag second : String} (htag : IsWord tag) (hsecond : IsWord second)
    {blanks : List Char} (hblanks : '"' ∉ blanks) (pairs : List (String × String)) :
    (read (pairsChars tag second blanks pairs)).2 = pairs.map (pairElement tag second) ↔
      ∀ pair ∈ pairs, Plain pair.1 := by
  by_cases hpairs : pairs = []
  · subst hpairs
    exact ⟨fun _ => nofun, fun _ => rfl⟩
  · have hbefore : '"' ∉ ([] : List Char) := List.not_mem_nil
    have hclose : (read ("/>".toList ++ [])).1 = [] := rfl
    have hiff := read_pairs_eq_iff hblanks hbefore htag hsecond hclose hpairs []
    rw [List.nil_append, List.append_nil, List.append_nil] at hiff
    rw [hiff]
    exact and_iff_left rfl

section Template

variable (a : OperationArtifact)

/-- The names that a template adds to those of its parameters are plain. -/
theorem plain_templateDeclarations_iff :
    (∀ d ∈ templateDeclarations a, Plain d.name) ↔ ∀ d ∈ a.wire, Plain d.name := by
  rw [templateDeclarations, List.forall_mem_cons, List.forall_mem_cons, List.forall_mem_append]
  constructor
  · exact fun h => h.2.2.2
  · have hname : Plain "operationName" := by decide
    have hkind : Plain "operationKind" := by decide
    exact fun h => ⟨hname, hkind, fun _ => plain_of_mem_pathDeclarations, h⟩

/-- The declarations of a template, whatever markup stands before them, are read back just when the
names in the wire are plain. -/
theorem read_templateDeclarations {before : List Char} (hbefore : '"' ∉ before) {after : List Char}
    (hafter : read ("/>".toList ++ after) = ([], [])) :
    let written := read (before ++ (pairsChars "property" "value" "\n        ".toList
      ((templateDeclarations a).map fun d => (d.name, d.value)) ++ after))
    written.1 = [] ∧ (written.2 = (templateDeclarations a).map ofDeclaration ↔
      ∀ d ∈ a.wire, Plain d.name) := by
  obtain ⟨-, -, htag, -, hsecond⟩ := isWord_tags
  have hpairs : ((templateDeclarations a).map fun d => (d.name, d.value)) ≠ [] := nofun
  have hblanks : '"' ∉ "\n        ".toList := by decide
  refine ⟨read_pairs_fst hbefore htag "value" _ hpairs after, ?_⟩
  have hiff := read_pairs_eq_iff hblanks hbefore htag hsecond (congrArg Prod.fst hafter) hpairs []
  rw [List.append_nil, List.map_map, List.forall_mem_map, congrArg Prod.snd hafter] at hiff
  rw [← plain_templateDeclarations_iff]
  exact hiff.trans (and_iff_left rfl)

/-- A template is read back just when the names of its descriptors and of its wire are plain. -/
theorem elements_xml_eq_iff :
    elements a.xml = ⟨"template", [("name", a.name)]⟩ ::
        (a.descriptors.map ofDescriptor ++ (templateDeclarations a).map ofDeclaration) ↔
      (∀ d ∈ a.descriptors, Plain d.name) ∧ ∀ d ∈ a.wire, Plain d.name := by
  obtain ⟨htemplate, htag, -, hsecond, -⟩ := isWord_tags
  have hclose : read ("/>".toList ++ "\n    </sequence>\n</template>\n".toList) = ([], []) := rfl
  have hnone : '"' ∉ ([] : List Char) := List.not_mem_nil
  have hopening : '"' ∉ opening "template" := quote_notMem_opening hnone htemplate
  have hopens : tag? (opening "template") = some "template" := tag?_opening [] htemplate
  have hkey : key (opening "template") = "name" := key_opening [] "template"
  rw [elements, toList_xml,
    read_eq_of_tag hopening (quote_notMem_escapeChars a.name.toList) _ hopens,
    unescape_escapeChars, hkey]
  cases hdescriptors : a.descriptors with
  | nil =>
    have hbefore : '"' ∉ ">".toList ++ "\n    <sequence>\n        ".toList := by decide
    obtain ⟨hfst, hiff⟩ := read_templateDeclarations a hbefore hclose
    rw [List.append_assoc] at hfst hiff
    rw [List.isEmpty_nil, if_pos rfl, List.nil_append, hfst, List.map_nil, List.nil_append,
      List.cons_inj_right, hiff]
    exact (and_iff_right nofun).symm
  | cons d rest =>
    have hbefore : '"' ∉ ">".toList ++ "\n    ".toList := by decide
    have hbefore' : '"' ∉ "/>".toList ++ "\n    <sequence>\n        ".toList := by decide
    have hblanks : '"' ∉ "\n    ".toList := by decide
    obtain ⟨hfst, hiff⟩ := read_templateDeclarations a hbefore' hclose
    rw [List.append_assoc] at hfst hiff
    have hpairs : ((d :: rest).map fun d => (d.name, d.description)) ≠ [] := nofun
    have hiff' := read_pairs_eq_iff hblanks hbefore htag hsecond hfst hpairs
      ((templateDeclarations a).map ofDeclaration)
    have hfst' := read_pairs_fst hbefore htag "description" "\n    ".toList hpairs
    rw [hiff, List.map_map, List.forall_mem_map, List.append_assoc] at hiff'
    rw [List.isEmpty_cons, if_neg Bool.false_ne_true, List.append_assoc, ← List.append_assoc,
      hfst', List.append_assoc, List.cons_inj_right]
    exact hiff'

end Template

/-- Declarations, descriptors and templates are read back, name by name and text by text and in
order, just when the names in them are plain. -/
theorem elements_eq_iff (ds : List Declaration) (ps : List ParameterDescriptor)
    (a : OperationArtifact) :
    (elements (propertyElements ds) = ds.map ofDeclaration ↔ ∀ d ∈ ds, Plain d.name) ∧
    (elements (parameterElements ps) = ps.map ofDescriptor ↔ ∀ p ∈ ps, Plain p.name) ∧
    (elements a.xml = ⟨"template", [("name", a.name)]⟩ ::
        (a.descriptors.map ofDescriptor ++ (templateDeclarations a).map ofDeclaration) ↔
      (∀ d ∈ a.descriptors, Plain d.name) ∧ ∀ d ∈ a.wire, Plain d.name) := by
  obtain ⟨-, hparameter, hproperty, hdescription, hvalue⟩ := isWord_tags
  refine ⟨?_, ?_, elements_xml_eq_iff a⟩
  · have hblanks : '"' ∉ "\n        ".toList := by decide
    have hiff := read_pairsChars_eq_iff hproperty hvalue hblanks
      (ds.map fun d => (d.name, d.value))
    rw [List.map_map, List.forall_mem_map] at hiff
    rw [elements, toList_propertyElements]
    exact hiff
  · have hblanks : '"' ∉ "\n    ".toList := by decide
    have hiff := read_pairsChars_eq_iff hparameter hdescription hblanks
      (ps.map fun p => (p.name, p.description))
    rw [List.map_map, List.forall_mem_map] at hiff
    rw [elements, toList_parameterElements]
    exact hiff

/-- A parameter may have a name with a double quote, which ends the attribute that holds it. -/
theorem elements_of_quotedName :
    ∃ node ds names,
      classify ⟨#[TypeDescriptor.ofKind .string none]⟩ 0 0 ⟨200⟩ "a\"b" true none =
        .ok (some node, ⟨200⟩) ∧
      parameterDescriptors [node] [] true = .ok (ds, names) ∧
      ds = [⟨"a\"b", ""⟩] ∧
      parameterElements ds = "<parameter name=\"a\"b\" description=\"\"/>" ∧
      elements (parameterElements ds) ≠ ds.map ofDescriptor :=
  ⟨_, _, _, rfl, rfl, rfl, rfl, by decide⟩

end SignatureForms.Xml
