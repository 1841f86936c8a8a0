import Mathlib.Data.List.Infix
import SignatureForms.Naming.Resolve
import SignatureForms.Proofs.ParamTree.Labels

/-!
# Words of type names

A resource without an identifier and without a path is named after the type of a parameter: the
name of the type loses a suffix and is cut into words, of which generic ones at its ends are
dropped. This module shows where a name is cut, and that something of it is always left, so that
the first parameter whose type has a name decides.

The module introduces:

* `Naming.CutAfter words front` — the words are cut behind the text `front`.

## Main results

* `Naming.cutAfter_camelTokens_iff`: a name is cut just where a word starts;
* `Naming.resourceHint_ne_empty`, `Naming.resourceHint_isInfix`: the hint is a part of the name
  that is not empty;
* `Naming.parameterHint_eq`: the first parameter whose type has a name gives the hint;
* `Naming.hints_of_typeNames`: what this means for names and for resources.
-/

namespace SignatureForms.Naming

/-! ## Cutting names into words -/

/-- The words are cut behind a text: the first few of them make it up. -/
def CutAfter (words : List (List Char)) (front : List Char) : Prop :=
  ∃ first, first <+: words ∧ first.flatten = front

/-- A word is not lost: the first one goes on from what it begins with. -/
theorem exists_camelTokensAfter_eq (before : Char) (word rest : List Char) :
    ∃ more words, camelTokensAfter before word rest = (word.reverse ++ more) :: words := by
  induction rest generalizing before word with
  | nil => exact ⟨[], [], by rw [camelTokensAfter, List.append_nil]⟩
  | cons c rest ih =>
    rw [camelTokensAfter]
    split
    · exact ⟨[], _, by rw [List.append_nil]⟩
    · obtain ⟨more, words, heq⟩ := ih c (c :: word)
      exact ⟨c :: more, words, by rw [heq, List.reverse_cons, List.append_assoc]; rfl⟩

theorem nil_notMem_camelTokensAfter {word : List Char} (h : word ≠ []) (before : Char)
    (rest : List Char) : [] ∉ camelTokensAfter before word rest := by
  induction rest generalizing before word with
  | nil => simpa [camelTokensAfter] using h.symm
  | cons c rest ih =>
    rw [camelTokensAfter]
    split
    · rw [List.mem_cons, not_or]
      exact ⟨by simpa using h.symm, ih (List.cons_ne_nil c []) c⟩
    · exact ih (List.cons_ne_nil c word) c

/-- No word is empty. -/
theorem nil_notMem_camelTokens (name : List Char) : [] ∉ camelTokens name := by
  cases name with
  | nil => exact List.not_mem_nil
  | cons c rest => exact nil_notMem_camelTokensAfter (List.cons_ne_nil c []) c rest

theorem camelTokens_ne_nil {name : List Char} (h : name ≠ []) : camelTokens name ≠ [] := by
  intro hnil
  have hflatten := flatten_camelTokens name
  rw [hnil] at hflatten
  exact h hflatten.symm

/-- Words behind a first one are cut where they are cut on their own. -/
theorem cutAfter_cons_iff {word front : List Char} (words : List (List Char)) (h : front ≠ []) :
    CutAfter (word :: words) (word ++ front) ↔ CutAfter words front := by
  constructor
  · rintro ⟨first, hfirst, heq⟩
    cases first with
    -- no words at all make up the empty text only
    | nil =>
      have hempty := (List.append_eq_nil_iff.1 heq.symm).2
      exact absurd hempty h
    | cons w first =>
      obtain ⟨rfl, hrest⟩ := List.cons_prefix_cons.1 hfirst
      rw [List.flatten_cons, List.append_cancel_left_eq] at heq
      exact ⟨first, hrest, heq⟩
  · rintro ⟨first, hfirst, rfl⟩
    exact ⟨word :: first, List.cons_prefix_cons.2 ⟨rfl, hfirst⟩, List.flatten_cons⟩

/-- Words are not cut inside the first of them. -/
theorem not_cutAfter_of_append {word more : List Char} (hword : word ≠ []) (hmore : more ≠ [])
    (words : List (List Char)) : ¬ CutAfter ((word ++ more) :: words) word := by
  rintro ⟨first, hfirst, heq⟩
  cases first with
  | nil => exact hword heq.symm
  | cons w first =>
    obtain ⟨rfl, -⟩ := List.cons_prefix_cons.1 hfirst
    -- one word is too long already
    have hlength := congrArg List.length heq
    have hpos := List.length_pos_iff.2 hmore
    simp only [List.flatten_cons, List.length_append] at hlength
    omega

/-- Behind the word that is being read, a name is cut just where a word starts. The word ends in
`before`, and `start` is what stands in front of that. -/
theorem cutAfter_camelTokensAfter_iff (start : List Char) {before b c : Char}
    {rest front back : List Char} (h : before :: rest = front ++ b :: c :: back) :
    CutAfter (camelTokensAfter before (before :: start) rest)
      (start.reverse ++ (front ++ [b])) ↔ startsWord b c = true := by
  induction rest generalizing before start front with
  | nil =>
    have hlength := congrArg List.length h
    simp only [List.length_cons, List.length_nil, List.length_append] at hlength
    omega
  | cons d rest ih =>
    rw [camelTokensAfter]
    cases front with
    -- the place is right behind the word that is being read
    | nil =>
      obtain ⟨rfl, hrest⟩ := List.cons.inj h
      obtain ⟨rfl, rfl⟩ := List.cons.inj hrest
      rw [List.nil_append, ← List.reverse_cons]
      split
      · next hstarts =>
        refine iff_of_true ⟨[_], List.cons_prefix_cons.2 ⟨rfl, List.nil_prefix⟩, ?_⟩ hstarts
        rw [List.flatten_singleton]
      · next hstarts =>
        -- the word goes on, so that the place is inside the first word
        refine iff_of_false ?_ hstarts
        obtain ⟨more, words, heq⟩ := exists_camelTokensAfter_eq d (d :: before :: start) rest
        rw [heq, List.reverse_cons, List.append_assoc]
        exact not_cutAfter_of_append (by simp) (by simp) words
    -- it is further behind, so that one more character is read before it
    | cons a front =>
      obtain ⟨rfl, hrest⟩ := List.cons.inj h
      have hfront : start.reverse ++ (before :: front ++ [b]) =
          (before :: start).reverse ++ (front ++ [b]) := by simp
      rw [hfront]
      -- either a word ends in front of the place, or the word that is being read gets longer
      split
      · rw [cutAfter_cons_iff _ (by simp)]
        exact ih [] hrest
      · exact ih (before :: start) hrest

/-- A name is cut between two characters just if a word starts there. -/
theorem cutAfter_camelTokens_iff (front : List Char) (b c : Char) (back : List Char) :
    CutAfter (camelTokens (front ++ b :: c :: back)) (front ++ [b]) ↔ startsWord b c = true := by
  obtain ⟨before, rest, heq⟩ :=
    List.exists_cons_of_ne_nil (List.append_ne_nil_of_right_ne_nil front (List.cons_ne_nil b _))
  rw [heq, camelTokens]
  exact cutAfter_camelTokensAfter_iff [] heq.symm

/-! ## Hints -/

/-- What is left of a name without its suffix is the start of it, and is not empty. -/
theorem withoutTypeSuffixChars_prefix {name : List Char} (h : name ≠ []) :
    withoutTypeSuffixChars name <+: name ∧ withoutTypeSuffixChars name ≠ [] := by
  rw [withoutTypeSuffixChars]
  cases hfound : typeSuffixes.findSome? fun suffix => dropSuffix? suffix.toList name with
  | none => exact ⟨List.prefix_refl name, h⟩
  | some left =>
    obtain ⟨suffix, -, hdrop⟩ := List.exists_of_findSome?_eq_some hfound
    rw [dropSuffix?] at hdrop
    split at hdrop
    · next hsuffix =>
      cases hdrop
      have hleft : name.take (name.length - suffix.toList.length) <+: name :=
        List.take_prefix _ _
      refine ⟨hleft, fun hnil => ?_⟩
      -- only a suffix that is shorter than the name is dropped
      have hshorter : suffix.toList.length < name.length := by
        simpa using (Bool.and_eq_true_iff.1 hsuffix).2
      have hlength := congrArg List.length hnil
      rw [Option.getD_some, List.length_take, List.length_nil] at hlength
      omega
    · cases hdrop

/-- Of the words of a name some are left, without a gap: one may go at each end, if it is not the
last one that is left. -/
theorem resourceWords_isInfix {words : List (List Char)} (h : words ≠ []) :
    resourceWords words <:+: words ∧ resourceWords words ≠ [] := by
  unfold resourceWords
  extract_lets named
  -- the first word goes only if others are left
  have hnamed : named <:+ words ∧ named ≠ [] := by
    dsimp only [named]
    split
    · exact ⟨List.suffix_cons _ _, List.cons_ne_nil _ _⟩
    · split
      · exact ⟨List.suffix_cons _ _, List.cons_ne_nil _ _⟩
      · exact ⟨List.suffix_refl _, h⟩
    · exact ⟨List.suffix_refl _, h⟩
  clear_value named
  have hlast (ws : List (List Char)) : ws.dropLast <+: ws := List.dropLast_prefix ws
  -- and so does the last one
  split
  · split
    · exact ⟨(hlast _).isInfix.trans hnamed.1.isInfix, by simp⟩
    · exact ⟨hnamed.1.isInfix, hnamed.2⟩
  · exact ⟨hnamed.1.isInfix, hnamed.2⟩

/-- The hint that a name gives is a part of it. -/
theorem resourceHint_isInfix {name : String} (h : name ≠ "") :
    (resourceHint name).toList <:+: name.toList := by
  obtain ⟨hstart, hfull⟩ := withoutTypeSuffixChars_prefix (by simpa using h : name.toList ≠ [])
  have hpart := (resourceWords_isInfix (camelTokens_ne_nil hfull)).1.flatten
  rw [flatten_camelTokens] at hpart
  rw [resourceHint, String.toList_ofList]
  exact hpart.trans hstart.isInfix

/-- The hint that a name gives is not empty. -/
theorem resourceHint_ne_empty {name : String} (h : name ≠ "") : resourceHint name ≠ "" := by
  obtain ⟨-, hfull⟩ := withoutTypeSuffixChars_prefix (by simpa using h : name.toList ≠ [])
  obtain ⟨hpart, hleft⟩ := resourceWords_isInfix (camelTokens_ne_nil hfull)
  obtain ⟨word, hword⟩ := List.exists_mem_of_ne_nil _ hleft
  intro hempty
  rw [resourceHint, String.ofList_eq_empty_iff, resourceHintChars,
    List.flatten_eq_nil_iff] at hempty
  -- the word that is left would be an empty word of the name
  have hmem := hpart.subset hword
  rw [hempty word hword] at hmem
  exact nil_notMem_camelTokens _ hmem

/-! ## Names of resources -/

theorem orElse_of_ne_empty {text : String} (h : text ≠ "") (alternative : String) :
    orElse text alternative = text := by
  rw [orElse, if_neg]
  simpa using h

/-- The first parameter whose type has a name gives the hint. -/
theorem parameterHint_eq (types : TypeGraph) (params : List Parameter) :
    parameterHint types params =
      hintOf (params.findSome? fun p => (types.descriptor p.type).displayName) := by
  induction params with
  | nil => rfl
  | cons p rest ih =>
    rw [parameterHint, ih, List.findSome?_cons]
    cases hname : (types.descriptor p.type).displayName with
    | none => rfl
    | some name =>
      exact orElse_of_ne_empty (resourceHint_ne_empty (TypeDescriptor.displayName_ne_empty hname)) _

/-- A resource with a parameter whose type has a name is named after the first such type, whatever
it returns. -/
theorem nameOfSignature_of_findSome? (types : TypeGraph) {op : Operation} {name : String}
    (hkind : op.kind = .resource)
    (hname : op.params.findSome? (fun p => (types.descriptor p.type).displayName) = some name)
    (returns : Option TypeId) :
    nameOfSignature types { op with returns := returns } =
      some (xmlName (Unicode.lowercase (orElse op.name "resource") ++
        capitalize (resourceHint name))) := by
  obtain ⟨p, -, hdisplay⟩ := List.exists_of_findSome?_eq_some hname
  have hhint := resourceHint_ne_empty (TypeDescriptor.displayName_ne_empty hdisplay)
  have hparams : parameterHint types op.params = resourceHint name := by
    rw [parameterHint_eq, hname]
    rfl
  rw [nameOfSignature, if_pos hkind]
  dsimp only
  rw [hparams, orElse_of_ne_empty hhint, if_neg (by simpa using hhint)]

/-- Every name is cut into words that are not empty and of which nothing is missing, and it is cut
just before each capital behind a small letter or a digit. The hint that a name gives is a part of
it that is not empty. So a resource with a parameter whose type has a name gets its name from the
first such type, and neither from what it returns nor from the stand-in for a missing hint. -/
theorem hints_of_typeNames :
    (∀ name : List Char, [] ∉ camelTokens name ∧ (camelTokens name).flatten = name ∧
      ∀ front b c back, name = front ++ b :: c :: back →
        (CutAfter (camelTokens name) (front ++ [b]) ↔
          Unicode.isUpper c ∧ (Unicode.isLower b ∨ Unicode.isDigit b))) ∧
    (∀ name : String, name ≠ "" →
      resourceHint name ≠ "" ∧ (resourceHint name).toList <:+: name.toList) ∧
    ∀ (types : TypeGraph) (op : Operation), op.kind = .resource →
      (∃ p ∈ op.params, (types.descriptor p.type).displayName.isSome) →
      ∃ name, op.params.findSome? (fun p => (types.descriptor p.type).displayName) = some name ∧
        resourceHint name ≠ "" ∧
        ∀ returns, nameOfSignature types { op with returns := returns } =
          some (xmlName (Unicode.lowercase (orElse op.name "resource") ++
            capitalize (resourceHint name))) := by
  refine ⟨fun name => ⟨nil_notMem_camelTokens name, flatten_camelTokens name, ?_⟩,
    fun name h => ⟨resourceHint_ne_empty h, resourceHint_isInfix h⟩, ?_⟩
  · rintro front b c back rfl
    rw [cutAfter_camelTokens_iff]
    simp [startsWord]
  · rintro types op hkind ⟨p, hp, hsome⟩
    have hfound : (op.params.findSome? fun p => (types.descriptor p.type).displayName).isSome :=
      List.findSome?_isSome_iff.2 ⟨p, hp, hsome⟩
    obtain ⟨name, hname⟩ := Option.isSome_iff_exists.1 hfound
    obtain ⟨q, -, hdisplay⟩ := List.exists_of_findSome?_eq_some hname
    exact ⟨name, hname, resourceHint_ne_empty (TypeDescriptor.displayName_ne_empty hdisplay),
      nameOfSignature_of_findSome? types hkind hname⟩

/-- A graph with one type, which is named after the queries of a mail service. -/
def draftTypes : TypeGraph :=
  ⟨#[TypeDescriptor.ofKind .record (some "GmailUsersDraftsListQueries")]⟩

/-- A resource with a parameter of that type. -/
def getDrafts : Operation :=
  ⟨"get", .resource, [⟨"queries", 0, false, none, none⟩], none, [], none, ""⟩

theorem hints_of_typeNames_getDrafts :
    "GmailUsersDraftsListQueries" ≠ "" ∧ resourceHint "GmailUsersDraftsListQueries" ≠ "" ∧
      getDrafts.kind = .resource ∧
      (∃ p ∈ getDrafts.params, (draftTypes.descriptor p.type).displayName.isSome) ∧
      nameOfSignature draftTypes getDrafts = some "getUsersDrafts" := by
  obtain ⟨-, hhints, hnames⟩ := hints_of_typeNames
  have htype : "GmailUsersDraftsListQueries" ≠ "" := by decide
  have hnamed : ∃ p ∈ getDrafts.params, (draftTypes.descriptor p.type).displayName.isSome :=
    ⟨_, List.mem_cons_self, rfl⟩
  obtain ⟨name, hname, -, hresolved⟩ := hnames draftTypes getDrafts rfl hnamed
  obtain rfl : "GmailUsersDraftsListQueries" = name := Option.some.inj hname
  refine ⟨htype, (hhints _ htype).1, rfl, hnamed, (hresolved none).trans ?_⟩
  decide +kernel

end SignatureForms.Naming
