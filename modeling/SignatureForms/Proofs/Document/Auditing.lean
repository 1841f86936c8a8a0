import SignatureForms.Proofs.Document.Parts
import SignatureForms.Proofs.Document.Shapes
import SignatureForms.Proofs.Document.TableOrder
import SignatureForms.Proofs.Steps

/-!
# Reading checks the shapes

Each reader is followed through its steps: what it reads is checked with what stands in it, in the
order in which it stands there. So a document is read only if it has no slips, and if it is neither
read nor refused, the fault is the slip of one of its values.

The module introduces:

* `Audits spots c` — a reading checks the values, whatever types have been read before.

## Main results

* `readType_audits`, `readParts_audits`: reading a type checks it, with all types in it;
* `readClient_audits`, `readTable_audits`, `settingsOf_checks`: so do the readers of the sections;
* `readModule_wellShaped`: what becomes of a document.
-/

namespace SignatureForms.Document

variable {α β : Type} {spots more : List Spot}

/-- A reading checks the values, whatever types there are. -/
def Audits (spots : List Spot) (c : Loading α) : Prop := ∀ g, Checks spots (c g)

namespace Audits

variable {c : Loading α} {f : α → Loading β}

theorem pure (a : α) : Audits [] (Pure.pure a : Loading α) := fun _ => Checks.ok _

theorem refusal {fault : Fault} (h : fault.IsOwn) (spots : List Spot) :
    Audits spots (throw fault : Loading α) := fun _ => .refusal h spots

theorem lift {step : Except Fault α} (h : Checks spots step) :
    Audits spots (liftM step : Loading α) := by
  intro g
  cases step with
  | error fault => exact h
  | ok result => exact h

theorem bind (h : Audits spots c) (hf : ∀ a, Audits more (f a)) :
    Audits (spots ++ more) (c >>= f) := fun g => (h g).bind fun result _ => hf result.1 result.2

/-- A reading that checks nothing may come first. -/
theorem after (h : Audits [] c) (hf : ∀ a, Audits more (f a)) : Audits more (c >>= f) := h.bind hf

/-- A reading that checks nothing may come last. -/
theorem before (h : Audits spots c) (hf : ∀ a, Audits [] (f a)) : Audits spots (c >>= f) :=
  spots.append_nil ▸ h.bind hf

/-- What is read without types is known to what comes next. -/
theorem liftBind {step : Except Fault α} (h : Checks spots step)
    (hf : ∀ a, step = .ok a → Audits more (f a)) :
    Audits (spots ++ more) ((liftM step : Loading α) >>= f) := by
  intro g
  refine (lift h g).bind fun result hresult => ?_
  exact hf result.1 (loading_lift_eq_ok_iff.1 hresult).1 result.2

theorem map {h : α → β} (hc : Audits spots c) : Audits spots (h <$> c) := by
  rw [map_eq_pure_bind]
  exact hc.before fun a => pure (h a)

/-- A list is checked item by item. -/
theorem mapM {γ : Type} {read : γ → Loading α} {spotsOf : γ → List Spot} {items : List γ}
    (h : ∀ item ∈ items, Audits (spotsOf item) (read item)) :
    Audits (items.flatMap spotsOf) (items.mapM read) := by
  induction items with
  | nil => exact pure []
  | cons item rest ih =>
    rw [List.forall_mem_cons] at h
    rw [List.mapM_cons, List.flatMap_cons]
    exact h.1.bind fun a => (ih h.2).before fun _ => pure _

theorem here {spot : Spot} (hslip : spot.slip? = none) (h : Audits spot.parts c) :
    Audits [spot] c := fun g => (h g).here hslip

end Audits

/-! ## Sections -/

theorem nameOf_checks (thing : Named) (entries : Json.Entries) :
    Checks [] (nameOf thing entries) := by
  unfold nameOf
  split
  · split
    · exact .refusal (.inr rfl) []
    · exact .ok _
  · exact .refusal (.inr rfl) []

/-- A section that is walked over gives its items, unless it has a slip. -/
theorem itemsOf_some (value : Json) :
    itemsOf (some value) = match Spot.slip? ⟨.items, value⟩ with
      | some fault => .error fault
      | none => .ok (value.elements?.getD []) := by
  simp only [itemsOf, Spot.slip?]
  cases htruthy : value.truthy with
  | true => cases value.elements? <;> rfl
  | false =>
    -- what counts as nothing has no items
    have hnone : value.elements?.getD [] = [] := by
      cases value <;> simp_all [Json.truthy, Json.elements?]
    rw [hnone]
    rfl

theorem itemsAt_checks (entries : Json.Entries) (key : String) :
    Checks (placed entries key .items) (itemsAt entries key) := by
  rw [placed, itemsAt]
  cases entries.lookup key with
  | none => exact .ok []
  | some value =>
    rw [itemsOf_some]
    split
    · next hslip => exact .slip hslip []
    · next hslip => exact .skip hslip rfl (.ok _)

/-- Walking over a section gives its items. -/
theorem itemsAt_eq_ok {entries : Json.Entries} {key : String} {items : List Json}
    (h : itemsAt entries key = .ok items) : items = listed entries key := by
  rw [itemsAt] at h
  rw [listed]
  cases hvalue : entries.lookup key with
  | none =>
    rw [hvalue] at h
    cases h
    rfl
  | some value =>
    rw [hvalue, itemsOf_some] at h
    split at h
    · cases h
    · cases h
      rfl

/-- A list section is checked, and then its items. -/
theorem audits_list {entries : Json.Entries} {key : String} {place : Place}
    {read : Json → Loading α} (h : ∀ value, Audits [⟨place, value⟩] (read value))
    {f : List α → Loading β} (hf : ∀ results, Audits spots (f results)) :
    Audits (placedList entries key place ++ spots)
      ((liftM (itemsAt entries key) : Loading (List Json)) >>= fun items =>
        items.mapM read >>= f) := by
  rw [placedList, List.append_assoc]
  refine .liftBind (itemsAt_checks entries key) fun items hitems => ?_
  -- the items that are read are those that stand in the section
  rw [← itemsAt_eq_ok hitems, List.map_eq_flatMap]
  exact (Audits.mapM fun item _ => h item).bind hf

/-- Where a list is given as such, it is enough to check its items. -/
theorem audits_arr {entries : Json.Entries} {key : String} {items : List Json} {place : Place}
    {c : Loading α} (hitems : entries.lookup key = some (.arr items))
    (h : Audits (items.map (.mk place)) c) : Audits (placedList entries key place) c := by
  have hlisted : listed entries key = items := by rw [listed, hitems]; rfl
  refine fun g => (h g).congr fun fault => ?_
  have hsection : ¬ SlipIn (placed entries key .items) fault := by
    rw [placed, hitems, Option.toList_some, List.map_singleton, slipIn_cons]
    simp [Spot.slip?, Spot.parts, Json.elements?]
  rw [placedList, slipIn_append, hlisted, or_iff_right hsection]

/-- A section that is no list has only texts for items. -/
theorem exists_eq_str_of_mem_listed {entries : Json.Entries} {key : String}
    (h : ∀ items, entries.lookup key ≠ some (.arr items)) {item : Json}
    (hitem : item ∈ listed entries key) : ∃ word, item = .str word := by
  rw [listed] at hitem
  cases hvalue : entries.lookup key with
  | none => simp [hvalue] at hitem
  | some value =>
    cases value with
    | arr items => exact absurd hvalue (h items)
    | obj | str =>
      simp only [hvalue, Option.bind_some, Json.elements?, Option.getD_some, List.mem_map] at hitem
      obtain ⟨_, -, rfl⟩ := hitem
      exact ⟨_, rfl⟩
    | _ => simp [hvalue, Json.elements?] at hitem

/-! ## Types -/

section Types

variable (table : NamedTypes)

theorem addType_audits (d : TypeDescriptor) : Audits [] (addType d) := fun _ => .ok _

theorem resolve_checks (reference : Json) :
    Checks [⟨.reference, reference⟩] (resolve table reference) := by
  have hunknown : Checks [] (resolve.unknown table reference) := .refusal (.inl rfl) []
  cases reference with
  | arr | obj => exact .slip rfl []
  | str name =>
    refine .here rfl ?_
    rw [resolve]
    split
    · exact .ok _
    · exact hunknown
  | _ => exact .here rfl hunknown

/-- The fields under a key are checked if those of a list are; fields that are given as anything else
are refused. -/
theorem readFieldSection_audits (entries : Json.Entries)
    (h : ∀ items, entries.lookup "fields" = some (.arr items) →
      Audits (items.map (.mk .field)) (readFields table items)) :
    Audits (placedList entries "fields" .field)
      (readFieldSection table (entries.lookup "fields")) := by
  unfold readFieldSection
  split
  · next items hitems => exact audits_arr hitems (h items hitems)
  · refine .liftBind (itemsAt_checks entries "fields") fun items hitems => ?_
    rw [← itemsAt_eq_ok hitems]
    cases items with
    | nil => exact .pure []
    | cons item rest => exact .refusal (.inl rfl) _

/-- Reading the type under a key, if there is one, checks it if reading the type by itself does. -/
theorem readGiven_audits (entries : Json.Entries) (key : String)
    (h : ∀ value, Json.given? entries key = some value →
      Audits [⟨.type, value⟩] (readType table value)) :
    Audits (placedGiven entries key .type) (readGiven table (Json.given? entries key)) := by
  rw [placedGiven]
  cases hgiven : Json.given? entries key with
  | none => exact .pure none
  | some value => exact (h value hgiven).map

/-- The members under a key are checked if those of a list are; members that are given as anything
but a list are words. -/
theorem readMemberSection_audits (entries : Json.Entries)
    (h : ∀ items, entries.lookup "members" = some (.arr items) →
      Audits (items.map (.mk .type)) (readMembers table items)) :
    Audits (placedList entries "members" .type)
      (readMemberSection table (entries.lookup "members")) := by
  unfold readMemberSection
  split
  · next items hitems => exact audits_arr hitems (h items hitems)
  · next hother =>
    refine .liftBind (itemsAt_checks entries "members") fun items hitems => ?_
    have hitems := itemsAt_eq_ok hitems
    -- a word is a type in which nothing stands
    rw [← hitems, List.map_eq_flatMap]
    refine .mapM fun item hitem => ?_
    obtain ⟨word, rfl⟩ := exists_eq_str_of_mem_listed hother (hitems ▸ hitem)
    exact .here rfl (addType_audits _)

mutual

/-- Reading a type checks it. -/
theorem readType_audits (value : Json) : Audits [⟨.type, value⟩] (readType table value) := by
  cases value with
  | str word =>
    rw [readType]
    exact .here rfl (addType_audits _)
  | obj entries =>
    rw [readType]
    refine .here rfl ?_
    rw [Spot.parts]
    cases entries.lookup "ref" with
    | some reference => exact .lift (resolve_checks table reference)
    | none =>
      cases entries.lookup "kind" with
      | none => exact .refusal (.inl rfl) _
      | some kind => exact (readParts_audits entries _).before addType_audits
  | _ =>
    rw [readType]
    · exact .refusal (.inl rfl) _
    · intro word h
      cases h
    · intro entries h
      cases h
termination_by sizeOf value

/-- Reading the parts of a type checks them. -/
theorem readParts_audits (entries : Json.Entries) (d : TypeDescriptor) :
    Audits [⟨.parts, .obj entries⟩] (readParts table entries d) := by
  have hfields := readFieldSection_audits table entries
    fun items hitems => readFields_audits items
  have hvalue := readGiven_audits table entries "valueType"
    fun value hgiven => readType_audits value
  have helement := readGiven_audits table entries "elementType"
    fun value hgiven => readType_audits value
  have hmembers := readMemberSection_audits table entries
    fun items hitems => readMembers_audits items
  have hconstraint := readGiven_audits table entries "constraint"
    fun value hgiven => readType_audits value
  -- the five parts are read in turn, as they stand in the mapping
  rw [readParts_eq]
  refine .here rfl ?_
  exact hfields.bind fun _ => hvalue.bind fun _ => helement.bind fun _ => hmembers.bind fun _ =>
    hconstraint.before fun _ => .pure _
termination_by sizeOf entries
decreasing_by
  · exact sizeOf_items_lt_of_lookup hitems
  · exact Json.sizeOf_lt_of_given hgiven
  · exact Json.sizeOf_lt_of_given hgiven
  · exact sizeOf_items_lt_of_lookup hitems
  · exact Json.sizeOf_lt_of_given hgiven

/-- Reading the fields of a record checks them. -/
theorem readFields_audits (items : List Json) :
    Audits (items.map (.mk .field)) (readFields table items) := by
  rcases items with _ | ⟨item, rest⟩
  · rw [readFields]
    exact .pure []
  cases item with
  | obj entries =>
    rw [readFields]
    apply (Audits.lift (nameOf_checks _ _)).after
    intro name
    split
    · next value htype =>
      have hfield : Audits [⟨.field, .obj entries⟩] (readType table value) := by
        refine .here rfl ?_
        rw [Spot.parts, placed, htype]
        exact readType_audits value
      exact hfield.bind fun type => (readFields_audits rest).before fun _ => .pure _
    · exact fun _ => .refusal (.inl rfl) _
  | _ =>
    rw [readFields]
    · exact .refusal (.inl rfl) _
    · intro entries h
      cases h
termination_by sizeOf items
decreasing_by
  · have := Json.sizeOf_lt_of_lookup (by assumption)
    simp only [List.cons.sizeOf_spec, Json.obj.sizeOf_spec]
    omega
  · simp only [List.cons.sizeOf_spec]
    omega

/-- Reading the members of a union checks them. -/
theorem readMembers_audits (items : List Json) :
    Audits (items.map (.mk .type)) (readMembers table items) := by
  cases items with
  | nil =>
    rw [readMembers]
    exact .pure []
  | cons item rest =>
    rw [readMembers]
    exact (readType_audits item).bind fun type => (readMembers_audits rest).before fun _ => .pure _
termination_by sizeOf items

end

end Types

/-! ## Operations -/

section Operations

variable (table : NamedTypes)

/-- Where only mappings can stand, their keys are read. -/
theorem audits_entries {place : Place} (hplace : place = .client ∨ place = .operation)
    (value : Json) {f : Json.Entries → Loading α}
    (hf : ∀ entries, Audits (Spot.parts ⟨place, .obj entries⟩) (f entries)) :
    Audits [⟨place, value⟩] ((liftM (entriesOf value) : Loading Json.Entries) >>= f) := by
  have hslip : Spot.slip? ⟨place, value⟩ =
      if isMapping value then none else some (.notMapping value) := by
    rcases hplace with rfl | rfl <;> rfl
  cases value with
  | obj entries => exact .here hslip (hf entries)
  | _ => exact fun _ => .slip hslip []

theorem readParameter_audits (value : Json) :
    Audits [⟨.parameter, value⟩] (readParameter table value) := by
  cases value with
  | obj entries =>
    refine .here rfl ?_
    apply (Audits.lift (nameOf_checks _ _)).after
    intro name
    refine Audits.before ?_ fun type => .pure _
    rw [Spot.parts, placed]
    cases entries.lookup "type" with
    | some value => exact readType_audits table value
    | none =>
      rw [Option.getD_none, readType]
      · exact .refusal (.inl rfl) _
      · nofun
      · nofun
  | _ => exact .refusal (.inl rfl) _

theorem operationKindOf_checks (entries : Json.Entries) : Checks [] (operationKindOf entries) := by
  simp only [operationKindOf]
  split
  · exact .ok _
  · exact .refusal (.inl rfl) []

theorem readOperation_audits (value : Json) :
    Audits [⟨.operation, value⟩] (readOperation table value) := by
  refine audits_entries (.inr rfl) value fun entries => ?_
  apply (Audits.lift (operationKindOf_checks entries)).after
  intro kind
  apply (Audits.lift (nameOf_checks _ _)).after
  intro name
  refine audits_list (readParameter_audits table) fun params => ?_
  apply (Audits.lift (itemsAt_checks entries "path")).bind
  intro path
  rw [placedGiven]
  split
  · next type htype =>
    rw [htype]
    exact (readType_audits table type).map.before fun _ => .pure _
  · next htype =>
    rw [htype]
    exact .pure _

theorem readInit_audits (entries : Json.Entries) :
    Audits (placed entries "init" .init) (readInit table (entries.lookup "init")) := by
  rw [placed]
  cases entries.lookup "init" with
  | none => exact .pure none
  | some value =>
    cases value with
    | null => exact .here rfl (.pure none)
    | obj entries => exact .here rfl (readOperation_audits table _).map
    | _ => exact fun _ => .slip rfl []

/-- Reading a client checks it. -/
theorem readClient_audits (value : Json) : Audits [⟨.client, value⟩] (readClient table value) := by
  refine audits_entries (.inl rfl) value fun entries => ?_
  apply (Audits.lift (nameOf_checks _ _)).after
  intro name
  apply (readInit_audits table entries).bind
  intro init
  rw [← List.append_nil (placedList entries "operations" .operation)]
  exact audits_list (readOperation_audits table) fun operations => .pure _

end Operations

/-! ## Modules -/

/-- The entries of the type table are mappings with a kind, or the document is refused. -/
theorem bareTypes_checks (entries : Json.Entries) : Checks [] (bareTypes entries) := by
  induction entries with
  | nil => exact .ok _
  | cons entry rest ih =>
    obtain ⟨name, value⟩ := entry
    cases value with
    | obj parts =>
      rw [bareTypes]
      cases parts.lookup "kind" with
      | none => exact .refusal (.inl rfl) []
      | some kind => exact ih.bind fun _ _ => .ok _
    | _ => exact .refusal (.inl rfl) []

/-- The mappings of the named types are the values of the type table. -/
theorem map_parts_of_bareTypes {entries : Json.Entries} {bare : List BareType}
    (h : bareTypes entries = .ok bare) :
    bare.map (fun entry => Spot.mk .parts (.obj entry.2.1)) =
      entries.map fun entry => Spot.mk .parts entry.2 := by
  induction entries generalizing bare with
  | nil =>
    cases h
    rfl
  | cons entry rest ih =>
    obtain ⟨parts, kind, others, ⟨hparts, -⟩, hothers, rfl⟩ := bareTypes_cons_eq_ok_iff.1 h
    rw [List.map_cons, List.map_cons, ih hothers, hparts]
    rfl

theorem readNamedParts_audits (table : NamedTypes) (id : TypeId) (bare : List BareType) :
    Audits (bare.map fun entry => ⟨.parts, .obj entry.2.1⟩) (readNamedParts table id bare) := by
  induction bare generalizing id with
  | nil => exact .pure ()
  | cons entry rest ih =>
    rw [readNamedParts]
    refine (readParts_audits table entry.2.1 entry.2.2).bind fun filled => ?_
    exact Audits.after (fun _ => .ok _) fun _ => ih (id + 1)

/-- Reading the type table checks its types. -/
theorem readTable_audits (document : Json.Entries) :
    Audits (placed document "types" .types) (readTable (document.lookup "types")) := by
  have hentries (entries : Json.Entries) :
      Audits (entries.map fun entry => ⟨.parts, entry.2⟩) (do
        let bare ← (liftM (bareTypes entries) : Loading (List BareType))
        let ids ← bare.mapM fun entry => addType entry.2.2
        readNamedParts ((bare.map Prod.fst).zip ids) 0 bare
        return (bare.map Prod.fst).zip ids) := by
    refine Audits.liftBind (bareTypes_checks entries) fun bare hbare => ?_
    -- once the entries are known to be mappings, only the reading of their parts checks anything
    rw [← map_parts_of_bareTypes hbare]
    have hadd : Audits [] (bare.mapM fun entry => addType entry.2.2) := fun g => by
      rw [addTypes_eq]
      exact .ok _
    exact hadd.after fun ids => (readNamedParts_audits _ 0 bare).before fun _ => .pure _
  rw [placed]
  cases document.lookup "types" with
  | none => exact hentries []
  | some value =>
    simp only [readTable, Option.getD_some]
    cases htruthy : value.truthy with
    | true =>
      cases value with
      | obj entries => exact .here (by simp [Spot.slip?, isMapping]) (hentries entries)
      | _ => exact fun _ => .slip (by simp [Spot.slip?, htruthy, isMapping]) []
    | false =>
      -- an empty table is no mapping of entries that could be read
      have hparts : Spot.parts ⟨.types, value⟩ = [] := by
        cases value with
        | obj entries => simp_all [Spot.parts, Json.truthy]
        | _ => rfl
      refine .here (by simp [Spot.slip?, htruthy]) ?_
      rw [hparts]
      exact hentries []

/-- Settings that are given as a list of pairs are checked pair by pair. -/
theorem settingPairs_checks (position : Nat) (done : List (Json × Json)) (items : List Json) :
    Checks ((items.zipIdx position).map fun entry => ⟨.pair entry.2, entry.1⟩)
      (settingPairs position done items) := by
  induction items generalizing position done with
  | nil => exact .ok done
  | cons item rest ih =>
    rw [settingPairs, List.zipIdx_cons, List.map_cons]
    split
    · next hitem => exact .slip (by simp [Spot.slip?, hitem]) _
    · next key value hitem =>
      split
      · exact .slip (by simp [Spot.slip?, hitem]) _
      · exact .slip (by simp [Spot.slip?, hitem]) _
      -- nothing stands in a pair that could have a slip
      · next harr hobj =>
        refine .skip ?_ rfl (ih (position + 1) _)
        cases key <;> simp_all [Spot.slip?]
    · next parts hpair hitem =>
      refine .slip ?_ _
      simp only [Spot.slip?, hitem]
      split <;> simp_all

theorem settingsOf_checks (document : Json.Entries) :
    Checks (placed document "config" .settings) (settingsOf (document.lookup "config")) := by
  rw [placed]
  cases document.lookup "config" with
  | none => exact .ok []
  | some value =>
    have hplace : Spot.slip? ⟨.settings, value⟩ = Spot.slip? ⟨.items, value⟩ := rfl
    cases value with
    | obj entries => exact .here (by simp [Spot.slip?, Json.elements?]) (.ok _)
    | _ =>
      simp only [settingsOf, itemsOf_some]
      split
      · next hslip => exact .slip (hplace.trans hslip) []
      · next hslip => exact .here (hplace.trans hslip) (settingPairs_checks 0 [] _)

theorem loadModule_audits (document : Json) :
    Audits [⟨.module, document⟩] (loadModule document) := by
  cases document with
  | obj entries =>
    refine .here rfl ?_
    refine (readTable_audits entries).bind fun table => ?_
    refine audits_list (readClient_audits table) fun clients => ?_
    apply (Audits.lift (nameOf_checks _ _)).after
    intro name
    refine (Audits.lift (settingsOf_checks entries)).before fun config => ?_
    exact Audits.after (fun _ => .ok _) fun _ => .pure _
  | _ => exact .refusal (.inl rfl) _

/-- Reading a document checks it. -/
theorem readModule_checks (document : Json) :
    Checks [⟨.module, document⟩] (readModule document) := by
  have hload := loadModule_audits document .empty
  exact hload.map Prod.fst

/-- A document of which every value has the shape of its place is read or refused. The other way
round, a document that is read has no slips, and one that is neither read nor refused ends in the
slip of one of its values. -/
theorem readModule_wellShaped (document : Json) :
    (WellShaped document → (∃ m, readModule document = .ok m) ∨
      ∃ fault, readModule document = .error fault ∧ fault.IsOwn) ∧
    (∀ m, readModule document = .ok m → WellShaped document) ∧
    (∀ fault, readModule document = .error fault → ¬ fault.IsOwn →
      Spot.Slips ⟨.module, document⟩ fault ∧ fault.category ∈ [.iteration, .keys, .pairing]) := by
  have hchecks := readModule_checks document
  have hsingle (fault : Fault) :
      SlipIn [⟨.module, document⟩] fault ↔ Spot.Slips ⟨.module, document⟩ fault := by
    simp [SlipIn]
  cases hread : readModule document with
  | ok m =>
    rw [hread] at hchecks
    refine ⟨fun _ => .inl ⟨m, rfl⟩, fun _ _ fault => mt (hsingle fault).2 (hchecks fault), ?_⟩
    intro fault hfault
    cases hfault
  | error fault =>
    rw [hread] at hchecks
    refine ⟨fun hshaped => .inr ⟨fault, rfl, ?_⟩, fun m hm => ?_, ?_⟩
    · exact hchecks.resolve_right fun hslip => hshaped fault ((hsingle fault).1 hslip)
    · cases hm
    · intro _ hfault hown
      cases hfault
      have hslip := (hsingle fault).1 (hchecks.resolve_left hown)
      exact ⟨hslip, hslip.category⟩

/-- A document with one client, whose operations are given. -/
def clientDocument (operations : Json) : Json :=
  .obj [("name", .str "m"),
    ("clients", .arr [.obj [("name", .str "c"), ("operations", operations)]])]

/-- A document with an operation that has no name. -/
def unnamedOperation : Json := clientDocument (.arr [.obj [("doc", .str "no name")]])

theorem readModule_wellShaped_unnamedOperation :
    WellShaped unnamedOperation ∧ ((∃ m, readModule unnamedOperation = .ok m) ∨
      ∃ fault, readModule unnamedOperation = .error fault ∧ fault.IsOwn) := by
  have hshaped : WellShaped unnamedOperation := by
    intro fault hslip
    have hin : SlipIn [⟨.module, unnamedOperation⟩] fault :=
      ⟨_, List.mem_singleton_self _, hslip⟩
    simp [unnamedOperation, clientDocument, slipIn_cons, Spot.slip?, Spot.parts, placedList,
      placed, placedGiven, listed, isMapping, Json.given?, Json.elements?, List.lookup_cons] at hin
  exact ⟨hshaped, (readModule_wellShaped _).1 hshaped⟩

/-- Without the shapes documents end in faults of all three classes: a number is walked over, a
number is asked for its keys, and a list of one item is taken for a pair. -/
theorem readModule_slips :
    readModule (clientDocument (.int 7)) = .error (.notIterable (.int 7)) ∧
      readModule (clientDocument (.arr [.int 7])) = .error (.notMapping (.int 7)) ∧
      readModule (.obj [("name", .str "m"), ("config", .arr [.arr [.int 7]])]) =
        .error (.pairLength 0 1) ∧
      ¬ (Fault.notIterable (.int 7)).IsOwn ∧ ¬ (Fault.notMapping (.int 7)).IsOwn ∧
      ¬ (Fault.pairLength 0 1).IsOwn :=
  ⟨rfl, rfl, rfl, by decide, by decide, by decide⟩

end SignatureForms.Document
