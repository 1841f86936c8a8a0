import SignatureForms.Proofs.Document.Loading
import SignatureForms.Proofs.Document.Parts
import SignatureForms.Proofs.Document.References
import SignatureForms.Proofs.ParamTree.Correspondence

/-!
# References and inlined types

A reference is read as the number of a named type, which all references to it share, while a type
that is written out is read anew wherever it stands. Where the table has no cycles, both readings
unfold to the same tree, so that they are classified in the same way.

The module introduces:

* `Mirrors G G' P c c'` — both readings fail, or both give a value, and then `P` holds of the values
  in all graphs that hold what was read;
* `Inlining types table G define table'` — `G` holds the named types of a table, and `define` gives
  what stands for them.

## Main results

* `readParts_congr`: what is written under other keys is of no importance to the parts of a type;
* `Inlining.readType_mirrors`: a type is read like the type with its references replaced;
* `classify_inlined`: a type is refused if it is refused with its references replaced, and otherwise
  it is classified in the same way.
-/

namespace SignatureForms.Document

/-! ## Readings that mirror each other -/

section Mirroring

variable {G G' : TypeGraph} {α β γ δ : Type} {P : α → β → Prop} {Q : γ → δ → Prop}

/-- Both readings fail, or both add a block of types, and `P` holds of what they give if `G` holds
the first block and `G'` the second one. -/
def Mirrors (G G' : TypeGraph) (P : α → β → Prop) (c : Loading α) (c' : Loading β) : Prop :=
  ∀ g g', (∃ fault fault', c g = .error fault ∧ c' g' = .error fault') ∨
    ∃ a b block block', c g = .ok (a, g.append block) ∧ c' g' = .ok (b, g'.append block') ∧
      (G.Holds g.size block → G'.Holds g'.size block' → P a b)

namespace Mirrors

theorem throw (fault fault' : Fault) :
    Mirrors G G' P (MonadExcept.throw fault : Loading α) (MonadExcept.throw fault' : Loading β) :=
  fun _ _ => .inl ⟨fault, fault', rfl, rfl⟩

theorem throw_bind (fault fault' : Fault) (f : α → Loading γ) (f' : β → Loading δ) :
    Mirrors G G' Q ((MonadExcept.throw fault : Loading α) >>= f)
      ((MonadExcept.throw fault' : Loading β) >>= f') :=
  fun _ _ => .inl ⟨fault, fault', rfl, rfl⟩

theorem mono {P' : α → β → Prop} {c : Loading α} {c' : Loading β} (hc : Mirrors G G' P c c')
    (h : ∀ a b, P a b → P' a b) : Mirrors G G' P' c c' := by
  intro g g'
  rcases hc g g' with hfault | ⟨a, b, block, block', hrun, hrun', hP⟩
  · exact .inl hfault
  · exact .inr ⟨a, b, block, block', hrun, hrun', fun hholds hholds' => h a b (hP hholds hholds')⟩

theorem pure {a : α} {b : β} (h : P a b) :
    Mirrors G G' P (Pure.pure a : Loading α) (Pure.pure b : Loading β) := by
  intro g g'
  refine .inr ⟨a, b, [], [], ?_, ?_, fun _ _ => h⟩
  · rw [g.append_nil]
    rfl
  · rw [g'.append_nil]
    rfl

/-- Readings that mirror each other can be put one after the other. What is read first matters for
the relation of what is read then, but not for whether it can be read. -/
theorem bind {c : Loading α} {c' : Loading β} {f : α → Loading γ} {f' : β → Loading δ}
    (hc : Mirrors G G' P c c')
    (hf : ∀ a b, Mirrors G G' (fun x y => P a b → Q x y) (f a) (f' b)) :
    Mirrors G G' Q (c >>= f) (c' >>= f') := by
  intro g g'
  rcases hc g g' with ⟨fault, fault', hfirst, hfirst'⟩ | ⟨a, b, block, block', hfirst, hfirst', hP⟩
  · exact .inl ⟨fault, fault', bind_eq_error_iff.2 (.inl hfirst),
      bind_eq_error_iff.2 (.inl hfirst')⟩
  rcases hf a b (g.append block) (g'.append block') with
    ⟨fault, fault', hrest, hrest'⟩ | ⟨x, y, more, more', hrest, hrest', hQ⟩
  · exact .inl ⟨fault, fault', bind_eq_error_iff.2 (.inr ⟨_, hfirst, hrest⟩),
      bind_eq_error_iff.2 (.inr ⟨_, hfirst', hrest'⟩)⟩
  rw [TypeGraph.append_append] at hrest hrest'
  rw [TypeGraph.size_append, TypeGraph.size_append] at hQ
  refine .inr ⟨x, y, block ++ more, block' ++ more', loading_bind_eq_ok_iff.2 ⟨_, _, hfirst, hrest⟩,
    loading_bind_eq_ok_iff.2 ⟨_, _, hfirst', hrest'⟩, fun hholds hholds' => ?_⟩
  rw [TypeGraph.holds_append_iff] at hholds hholds'
  exact hQ hholds.2 hholds'.2 (hP hholds.1 hholds'.1)

/-- What is read without types may be used by both readings, if it can be read for both. -/
theorem lift_bind {e e' : Except Fault α} {f : α → Loading γ} {f' : α → Loading δ}
    (h : ∀ a, e = .ok a ↔ e' = .ok a) (hf : ∀ a, Mirrors G G' Q (f a) (f' a)) :
    Mirrors G G' Q ((liftM e : Loading α) >>= f) ((liftM e' : Loading α) >>= f') := by
  cases e with
  | ok a =>
    rw [(h a).1 rfl]
    exact hf a
  | error fault =>
    cases e' with
    | ok a => cases (h a).2 rfl
    | error fault' => exact throw_bind fault fault' f f'

theorem map {c : Loading α} {c' : Loading β} {f : α → γ} {f' : β → δ} (hc : Mirrors G G' P c c')
    (hf : ∀ a b, P a b → Q (f a) (f' b)) : Mirrors G G' Q (f <$> c) (f' <$> c') := by
  rw [map_eq_pure_bind, map_eq_pure_bind]
  exact hc.bind fun a b => pure (hf a b)

/-- A list is read item by item. -/
theorem mapM {ι : Type} {f : ι → Loading α} {f' : ι → Loading β}
    (h : ∀ item, Mirrors G G' P (f item) (f' item)) (items : List ι) :
    Mirrors G G' (List.Forall₂ P) (items.mapM f) (items.mapM f') := by
  induction items with
  | nil => exact pure .nil
  | cons item rest ih =>
    rw [List.mapM_cons, List.mapM_cons]
    apply (h item).bind
    intro a b
    apply ih.bind
    intro as bs
    exact pure fun hrest hfirst => .cons hfirst hrest

end Mirrors

/-- Types unfold to the same tree if the types that their descriptors mention do. -/
theorem unfolds_of_holds {type type' : TypeId} {d d' : TypeDescriptor}
    (hd : d.Rel (G.Unfolds G') d') (hholds : G.Holds type [d]) (hholds' : G'.Holds type' [d']) :
    G.Unfolds G' type type' := by
  rw [← hholds.descriptor_eq, ← hholds'.descriptor_eq] at hd
  exact .intro _ (fun _ _ h => h) hd

theorem addType_mirrors {d d' : TypeDescriptor} :
    Mirrors G G' (fun type type' => d.Rel (G.Unfolds G') d' → G.Unfolds G' type type')
      (addType d) (addType d') := by
  intro g g'
  refine .inr ⟨g.size, g'.size, [d], [d'], ?_, ?_, fun hholds hholds' hd => ?_⟩
  · rw [g.append_singleton]
    rfl
  · rw [g'.append_singleton]
    rfl
  · exact unfolds_of_holds hd hholds hholds'

theorem ofKind_rel (R : TypeId → TypeId → Prop) (kind : Kind) (name : Option String) :
    (TypeDescriptor.ofKind kind name).Rel R (.ofKind kind name) where
  kind := rfl
  name := rfl
  resolvedName := rfl
  fields := .nil
  valueType := .none
  elementType := .none
  members := .nil
  constraint := .none

theorem addWord_mirrors (word : String) :
    Mirrors G G' (G.Unfolds G') (addWord word) (addWord word) :=
  addType_mirrors.mono fun _ _ h => h (ofKind_rel _ _ none)

end Mirroring

/-! ## Parts of a type -/

/-- What is written under other keys is of no importance to the parts. -/
theorem readParts_congr (table : NamedTypes) {entries entries' : Json.Entries}
    (h : ∀ key, typeRole key ≠ .other → entries'.lookup key = entries.lookup key)
    (d : TypeDescriptor) : readParts table entries' d = readParts table entries d := by
  have hgiven (key : String) (hkey : typeRole key ≠ .other) :
      Json.given? entries' key = Json.given? entries key := by
    rw [Json.given?, h key hkey, Json.given?]
  rw [readParts_eq, readParts_eq, h "fields" (by decide), h "members" (by decide),
    hgiven "valueType" (by decide), hgiven "elementType" (by decide),
    hgiven "constraint" (by decide)]

/-- The parts of a named type are those of the mapping that stands for it. -/
theorem readParts_namedBody (table : NamedTypes) (name : String) (parts : Json.Entries)
    (d : TypeDescriptor) :
    readParts table (namedBody name parts) d = readParts table parts d := by
  apply readParts_congr
  intro key hkey
  have hname : key ≠ "name" := by
    rintro rfl
    exact hkey rfl
  have href : key ≠ "ref" := by
    rintro rfl
    exact hkey rfl
  rw [lookup_namedBody, if_neg hname, if_neg href]

/-- The mapping that stands for a named type is read with the descriptor of the named type. -/
theorem readType_namedBody (table : NamedTypes) (define : String → Option Json.Entries)
    (name : String) {parts : Json.Entries} {kind : Json} (hkind : parts.lookup "kind" = some kind) :
    readType table (.obj (substituteEntries define typeRole (namedBody name parts))) =
      (do
        let d ← readParts table (substituteEntries define typeRole (namedBody name parts))
          (entryType name parts kind).2.2
        addType d) := by
  have hlookup {key : String} (hkey : typeRole key = .other) :
      (substituteEntries define typeRole (namedBody name parts)).lookup key =
        (namedBody name parts).lookup key := lookup_substituteEntries_of_other hkey _
  -- the body is no reference, so that it is read as a type of its kind
  have href : (namedBody name parts).lookup "ref" = none := by
    rw [lookup_namedBody]
    rfl
  have hkind' : (namedBody name parts).lookup "kind" = some kind := by
    rw [lookup_namedBody]
    exact hkind
  -- the name of the table is used only where the entry gives none
  have hname : ((namedBody name parts).lookup "name").bind text? =
      ((parts.lookup "name").map text?).getD (some name) := by
    rw [lookup_namedBody, if_pos rfl]
    cases parts.lookup "name" <;> rfl
  have hresolved : ((namedBody name parts).lookup "resolvedName").bind text? =
      textAt? parts "resolvedName" := by
    rw [lookup_namedBody]
    rfl
  have hbare : bareType (substituteEntries define typeRole (namedBody name parts)) kind
      (textAt? (substituteEntries define typeRole (namedBody name parts)) "name") =
      (entryType name parts kind).2.2 := by
    rw [bareType, textAt?, textAt?, hlookup rfl, hlookup rfl, hname, hresolved]
    rfl
  rw [readType, hlookup rfl, href, hlookup rfl, hkind']
  simp only [hbare]

/-! ## References and what they stand for -/

/-- Types are read with and without references: the named types of the table are in the graph,
`define` gives what their names stand for, and the other table knows no further names. -/
structure Inlining (types : Json.Entries) (table : NamedTypes) (G : TypeGraph)
    (define : String → Option Json.Entries) (table' : NamedTypes) : Prop
    extends Loaded types table G where
  /-- A name stands for its body, in which each reference is replaced by what it stands for. -/
  define_eq : ∀ name,
    define name = (bodyOf? types name).map (substituteEntries define typeRole)
  /-- What the first table does not know, the other one does not know either. -/
  names : ∀ name, table.lookup name = none → table'.lookup name = none

section Sections

variable {G G' : TypeGraph} {table table' : NamedTypes}
  {define : String → Option Json.Entries}

theorem readNoFields_mirrors (section? : Option Json) :
    Mirrors G G' (List.Forall₂ (Field.Rel (G.Unfolds G'))) (readNoFields section?)
      (readNoFields section?) := by
  apply Mirrors.lift_bind fun _ => Iff.rfl
  intro items
  cases items with
  | nil => exact Mirrors.pure .nil
  | cons item rest => exact Mirrors.throw _ _

theorem readWords_mirrors (section? : Option Json) :
    Mirrors G G' (List.Forall₂ (G.Unfolds G')) (readWords section?) (readWords section?) := by
  apply Mirrors.lift_bind fun _ => Iff.rfl
  intro items
  apply Mirrors.mapM
  intro item
  exact addWord_mirrors item.display

/-- The fields under a key are read in the same way if those of a list are. -/
theorem readFieldSection_mirrors (section? : Option Json)
    (h : ∀ items, section? = some (.arr items) →
      Mirrors G G' (List.Forall₂ (Field.Rel (G.Unfolds G'))) (readFields table items)
        (readFields table' (substituteItems define .field items))) :
    Mirrors G G' (List.Forall₂ (Field.Rel (G.Unfolds G'))) (readFieldSection table section?)
      (readFieldSection table' (section?.map (substitute define .fields))) := by
  rcases section? with _ | value
  · exact readNoFields_mirrors none
  cases value with
  | arr items => exact h items rfl
  | _ => exact readNoFields_mirrors (some _)

/-- The type under a key, if there is one, is read in the same way if the type by itself is. -/
theorem readGiven_mirrors (value? : Option Json)
    (h : ∀ value, value? = some value → Mirrors G G' (G.Unfolds G') (readType table value)
      (readType table' (substitute define .type value))) :
    Mirrors G G' (Option.Rel (G.Unfolds G')) (readGiven table value?)
      (readGiven table' (value?.map (substitute define .type))) := by
  cases value? with
  | none => exact Mirrors.pure .none
  | some value => exact (h value rfl).map fun _ _ htype => .some htype

/-- The members under a key are read in the same way if those of a list are. -/
theorem readMemberSection_mirrors (section? : Option Json)
    (h : ∀ items, section? = some (.arr items) →
      Mirrors G G' (List.Forall₂ (G.Unfolds G')) (readMembers table items)
        (readMembers table' (substituteItems define .type items))) :
    Mirrors G G' (List.Forall₂ (G.Unfolds G')) (readMemberSection table section?)
      (readMemberSection table' (section?.map (substitute define .types))) := by
  rcases section? with _ | value
  · exact readWords_mirrors none
  cases value with
  | arr items => exact h items rfl
  | _ => exact readWords_mirrors (some _)

end Sections

section Types

variable {types : Json.Entries} {table table' : NamedTypes} {G G' : TypeGraph}
  {define : String → Option Json.Entries}

/-- A reference is read like what its name stands for, if the parts of this are. -/
theorem Inlining.resolve_mirrors (h : Inlining types table G define table') {name : String}
    (hparts : ∀ body, bodyOf? types name = some body → ∀ d,
      Mirrors G G' (fun filled filled' => filled.Rel (G.Unfolds G') filled')
        (readParts table body d) (readParts table' (substituteEntries define typeRole body) d))
    {entries : Json.Entries} (href : entries.lookup "ref" = some (.str name)) :
    Mirrors G G' (G.Unfolds G') (liftM (resolve table (.str name)))
      (readType table' (.obj ((define name).getD entries))) := by
  cases hid : table.lookup name with
  | none =>
    have hdefined : define name = none := by
      rw [h.define_eq, bodyOf?, h.unknown name hid]
      rfl
    rw [hdefined, Option.getD_none, readType, href]
    simp only [resolve, hid, h.names name hid]
    exact Mirrors.throw _ _
  | some id =>
    obtain ⟨parts, kind, ⟨hfound, hkind⟩, g₀, block, filled, hrun, htype, hblock⟩ :=
      h.known name id hid
    have hbody : bodyOf? types name = some (namedBody name parts) := by
      rw [bodyOf?, hfound]
    rw [← readParts_namedBody] at hrun
    rw [h.define_eq, hbody, Option.map_some, Option.getD_some,
      readType_namedBody table' define name hkind]
    intro g g'
    -- the parts of the named type have been read at `g₀`, and are now read once more
    rcases hparts _ hbody (entryType name parts kind).2.2 g₀ g' with
      ⟨fault, _, hfault, _⟩ | ⟨_, filled', added, block', hagain, hrest, hrel⟩
    · rw [hrun] at hfault
      cases hfault
    · rw [hrun, Except.ok.injEq, Prod.mk.injEq, TypeGraph.append_right_inj] at hagain
      obtain ⟨rfl, rfl⟩ := hagain
      refine .inr ⟨id, (g'.append block').size, [], block' ++ [filled'], ?_, ?_,
        fun _ hholds' => ?_⟩
      · simp only [resolve, hid]
        rw [g.append_nil]
        rfl
      · rw [← TypeGraph.append_append, TypeGraph.append_singleton]
        exact loading_bind_eq_ok_iff.2 ⟨_, _, hrest, rfl⟩
      · rw [TypeGraph.holds_append_iff] at hholds'
        rw [TypeGraph.size_append]
        exact unfolds_of_holds (hrel hblock hholds'.1) htype hholds'.2

mutual

/-- A type is read like the type with its references replaced. -/
theorem Inlining.readType_mirrors (h : Inlining types table G define table') (value : Json) :
    Mirrors G G' (G.Unfolds G') (readType table value)
      (readType table' (substitute define .type value)) := by
  cases value with
  | str word =>
    show Mirrors G G' _ _ (readType table' (.str word))
    rw [readType, readType]
    exact addWord_mirrors word
  | obj entries =>
    rw [readType]
    cases href : entries.lookup "ref" with
    | none =>
      have hother {key : String} (hkey : typeRole key = .other) :
          (substituteEntries define typeRole entries).lookup key = entries.lookup key :=
        lookup_substituteEntries_of_other hkey _
      have htext {key : String} (hkey : typeRole key = .other) :
          textAt? (substituteEntries define typeRole entries) key = textAt? entries key := by
        rw [textAt?, hother hkey, textAt?]
      rw [substitute_obj href, readType, hother rfl, href, hother rfl]
      cases entries.lookup "kind" with
      | none => exact Mirrors.throw _ _
      | some kind =>
        have hbare : bareType (substituteEntries define typeRole entries) kind
            (textAt? (substituteEntries define typeRole entries) "name") =
            bareType entries kind (textAt? entries "name") := by
          rw [bareType, htext rfl, htext rfl, bareType]
        simp only [hbare]
        exact (h.readParts_mirrors entries _).bind fun _ _ => addType_mirrors
    | some reference =>
      cases reference with
      | str name =>
        -- what replaces a reference is larger than the reference, so that the recursion has to be
        -- on what the type is replaced by
        rw [substitute_reference href]
        apply h.resolve_mirrors _ href
        intro body hbody d
        exact h.readParts_mirrors body d
      | _ =>
        rw [substitute, href, readType, href]
        exact Mirrors.throw _ _
  | _ =>
    rw [substitute, readType, readType]
    · exact Mirrors.throw _ _
    all_goals simp
termination_by sizeOf (substitute define .type value)
decreasing_by
  · rw [substitute_obj href, Json.obj.sizeOf_spec]
    omega
  · rw [substitute_reference href, h.define_eq, hbody, Option.map_some, Option.getD_some,
      Json.obj.sizeOf_spec]
    omega

/-- The parts of a type are read like those with their references replaced. -/
theorem Inlining.readParts_mirrors (h : Inlining types table G define table')
    (entries : Json.Entries) (d : TypeDescriptor) :
    Mirrors G G' (fun filled filled' => filled.Rel (G.Unfolds G') filled')
      (readParts table entries d)
      (readParts table' (substituteEntries define typeRole entries) d) := by
  -- each of the five sections is smaller than the entries that it stands in
  have hfields := readFieldSection_mirrors (entries.lookup "fields")
    fun items hitems => h.readFields_mirrors items
  have hvalue := readGiven_mirrors (Json.given? entries "valueType")
    fun value hgiven => h.readType_mirrors value
  have helement := readGiven_mirrors (Json.given? entries "elementType")
    fun value hgiven => h.readType_mirrors value
  have hmembers := readMemberSection_mirrors (entries.lookup "members")
    fun items hitems => h.readMembers_mirrors items
  have hconstraint := readGiven_mirrors (Json.given? entries "constraint")
    fun value hgiven => h.readType_mirrors value
  rw [readParts_eq, readParts_eq]
  simp only [lookup_substituteEntries, given?_substituteEntries]
  -- both sides read them in the same order
  apply hfields.bind
  intro fields fields'
  apply hvalue.bind
  intro valueType valueType'
  apply helement.bind
  intro elementType elementType'
  apply hmembers.bind
  intro members members'
  apply hconstraint.bind
  intro constraint constraint'
  exact Mirrors.pure fun hconstraint hmembers helement hvalue hfields =>
    ⟨rfl, rfl, rfl, hfields, hvalue, helement, hmembers, hconstraint⟩
termination_by sizeOf (substituteEntries define typeRole entries)
decreasing_by
  · have hlt : sizeOf (substitute define .fields (.arr items)) < _ :=
      sizeOf_substitute_lt define typeRole hitems
    rw [substitute, Json.arr.sizeOf_spec] at hlt
    omega
  · exact sizeOf_substitute_lt_of_given define typeRole hgiven
  · exact sizeOf_substitute_lt_of_given define typeRole hgiven
  · have hlt : sizeOf (substitute define .types (.arr items)) < _ :=
      sizeOf_substitute_lt define typeRole hitems
    rw [substitute, Json.arr.sizeOf_spec] at hlt
    omega
  · exact sizeOf_substitute_lt_of_given define typeRole hgiven

/-- The fields of a record are read like those with their references replaced. -/
theorem Inlining.readFields_mirrors (h : Inlining types table G define table') (items : List Json) :
    Mirrors G G' (List.Forall₂ (Field.Rel (G.Unfolds G'))) (readFields table items)
      (readFields table' (substituteItems define .field items)) := by
  rcases items with _ | ⟨item, rest⟩
  · rw [substituteItems, readFields, readFields]
    exact Mirrors.pure .nil
  cases item with
  | obj entries =>
    -- only the type of a field is substituted; the other keys are read as before
    have hother {key : String} (hkey : fieldRole key = .other) :
        (substituteEntries define fieldRole entries).lookup key = entries.lookup key :=
      lookup_substituteEntries_of_other hkey _
    have hflag {key : String} (hkey : fieldRole key = .other) :
        flagAt (substituteEntries define fieldRole entries) key = flagAt entries key := by
      rw [flagAt, hother hkey, flagAt]
    have hdoc : docOf (substituteEntries define fieldRole entries) = docOf entries := by
      rw [docOf, hother rfl, textAt?, hother rfl, docOf, textAt?]
    have htype : (substituteEntries define fieldRole entries).lookup "type" =
        (entries.lookup "type").map (substitute define .type) := lookup_substituteEntries _ _ _
    rw [substituteItems, substitute, readFields, readFields]
    apply Mirrors.lift_bind
    · intro name
      exact ⟨nameOf_congr (hother rfl), nameOf_congr (hother rfl).symm⟩
    intro name
    rw [htype]
    cases hvalue : entries.lookup "type" with
    | none => exact Mirrors.throw_bind _ _ _ _
    | some value =>
      apply (h.readType_mirrors value).bind
      intro type type'
      apply (h.readFields_mirrors rest).bind
      intro fields fields'
      apply Mirrors.pure
      intro hrest hfirst
      exact .cons ⟨rfl, hflag rfl, hflag rfl, hdoc, hfirst⟩ hrest
  | _ =>
    -- what is no mapping stays as it is, and is refused on both sides
    rw [substituteItems, substitute, readFields, readFields]
    · exact Mirrors.throw _ _
    all_goals simp
termination_by sizeOf (substituteItems define .field items)
decreasing_by
  · have hlt : sizeOf (substitute define .type value) < _ :=
      sizeOf_substitute_lt define fieldRole hvalue
    rw [substituteItems, substitute, List.cons.sizeOf_spec, Json.obj.sizeOf_spec]
    omega
  · rw [substituteItems, List.cons.sizeOf_spec]
    omega

/-- The members of a union are read like those with their references replaced. -/
theorem Inlining.readMembers_mirrors (h : Inlining types table G define table')
    (items : List Json) :
    Mirrors G G' (List.Forall₂ (G.Unfolds G')) (readMembers table items)
      (readMembers table' (substituteItems define .type items)) := by
  rcases items with _ | ⟨item, rest⟩
  · rw [substituteItems, readMembers, readMembers]
    exact Mirrors.pure .nil
  · rw [substituteItems, readMembers, readMembers]
    apply (h.readType_mirrors item).bind
    intro type type'
    apply (h.readMembers_mirrors rest).bind
    intro members members'
    exact Mirrors.pure fun hrest hfirst => .cons hfirst hrest
termination_by sizeOf (substituteItems define .type items)
decreasing_by
  · rw [substituteItems, List.cons.sizeOf_spec]
    omega
  · rw [substituteItems, List.cons.sizeOf_spec]
    omega

end

end Types

/-! ## Classification -/

/-- References mean what they name: when a table without cycles has been read, and perhaps further
types, a type is refused if it is refused with its references replaced by the bodies of the named
types. Otherwise the two types are classified in the same way, which is to say with the same fault,
or with the same node and the same budget left. The type without references may be read anywhere,
and with any table that knows no further names. -/
theorem classify_inlined {section? : Option Json} {table table' : NamedTypes} {g : TypeGraph}
    (hread : readTable section? .empty = .ok (table, g))
    (hacyclic : Acyclic (namedEntries section?))
    (hnames : ∀ name, table.lookup name = none → table'.lookup name = none)
    (more : List TypeDescriptor) (g' : TypeGraph) (value : Json) :
    (∃ fault fault', readType table value (g.append more) = .error fault ∧
      readType table' (inlined (namedEntries section?) value) g' = .error fault') ∨
    ∃ type h type' h', readType table value (g.append more) = .ok (type, h) ∧
      readType table' (inlined (namedEntries section?) value) g' = .ok (type', h') ∧
      ∀ position budget name required description,
        classify h' type' position budget name required description =
          classify h type position budget name required description := by
  have hmirrors (block : List TypeDescriptor) (last : TypeGraph) :
      Mirrors ((g.append more).append block) last (((g.append more).append block).Unfolds last)
        (readType table value) (readType table' (inlined (namedEntries section?) value)) := by
    have hinlining : Inlining (namedEntries section?) table ((g.append more).append block)
        (definition? (namedEntries section?)) table' :=
      { ((loaded_of_readTable (readTable_namedEntries hread)).append more).append block with
        define_eq := hacyclic.definition?_eq
        names := hnames }
    exact hinlining.readType_mirrors value
  rcases hmirrors [] g' (g.append more) g' with
    hfault | ⟨type, type', block, block', hrun, hrun', _⟩
  · exact .inl hfault
  refine .inr ⟨type, _, type', _, hrun, hrun', ?_⟩
  -- what was read is compared in the graphs that are left, and these are only known now
  rcases hmirrors block (g'.append block') (g.append more) g' with
    ⟨_, _, hfault, _⟩ | ⟨_, _, _, _, hagain, hagain', hunfolds⟩
  · rw [hrun] at hfault
    cases hfault
  · rw [hrun, Except.ok.injEq, Prod.mk.injEq, TypeGraph.append_right_inj] at hagain
    rw [hrun', Except.ok.injEq, Prod.mk.injEq, TypeGraph.append_right_inj] at hagain'
    obtain ⟨rfl, rfl⟩ := hagain
    obtain ⟨rfl, rfl⟩ := hagain'
    have hsame := hunfolds (TypeGraph.holds_append_size _ _) (TypeGraph.holds_append_size _ _)
    exact hsame.classify_eq

/-- A table with a record whose fields share a union that comes after it. In the mapping of the
union, the key `ref` is of no importance. -/
def serverTypes : Json.Entries :=
  [("Server", .obj [("kind", .str "record"), ("fields", .arr [
      .obj [("name", .str "port"), ("type", .obj [("ref", .str "Port")])],
      .obj [("name", .str "spare"), ("type", .obj [("ref", .str "Port")])]])]),
   ("Port", .obj [("kind", .str "union"), ("ref", .str "Server"), ("members", .arr [
      .str "int", .str "string"])])]

theorem acyclic_serverTypes : Acyclic serverTypes := by
  apply acyclic_of_rank fun name => ["Port", "Server"].idxOf name
  decide

/-- A reference to the record. -/
def serverReference : Json :=
  .obj [("ref", .str "Server")]

/-- The union as it is written out. -/
def writtenPort : Json :=
  .obj [("kind", .str "union"), ("members", .arr [.str "int", .str "string"]),
    ("name", .str "Port")]

theorem classify_inlined_server :
    inlined serverTypes serverReference = .obj [("kind", .str "record"), ("fields", .arr [
        .obj [("name", .str "port"), ("type", writtenPort)],
        .obj [("name", .str "spare"), ("type", writtenPort)]]), ("name", .str "Server")] ∧
    ∃ table g type h type' h', readTable (some (.obj serverTypes)) .empty = .ok (table, g) ∧
      readType table serverReference g = .ok (type, h) ∧
      readType [] (inlined serverTypes serverReference) .empty = .ok (type', h') ∧
      ∀ position budget name required description,
        classify h' type' position budget name required description =
          classify h type position budget name required description := by
  refine ⟨by with_unfolding_all rfl, ?_⟩
  have hloads : ((readTable (some (.obj serverTypes)) >>= fun table =>
      readType table serverReference) .empty).isOk = true := by decide +kernel
  cases hall : (readTable (some (.obj serverTypes)) >>= fun table =>
      readType table serverReference) .empty with
  | error fault =>
    rw [hall] at hloads
    cases hloads
  | ok result =>
    obtain ⟨table, g, hread, hrun⟩ := loading_bind_eq_ok_iff.1 hall
    have hnone : ∀ name, table.lookup name = none → ([] : NamedTypes).lookup name = none :=
      fun _ _ => rfl
    rcases classify_inlined hread acyclic_serverTypes hnone [] .empty serverReference with
      ⟨_, _, hfault, _⟩ | ⟨type, h, type', h', htype, htype', hsame⟩
    · rw [g.append_nil, hrun] at hfault
      cases hfault
    · rw [g.append_nil] at htype
      exact ⟨table, g, type, h, type', h', hread, htype, htype', hsame⟩

end SignatureForms.Document
