import SignatureForms.Document.Module

/-!
# The shapes of a document

A value of a document has a place, and its place asks for a shape: a list section for something that
can be walked over, a client for a mapping, a reference for a name. Some places are checked when the
document is read; a value of another shape is then refused with the words of the format. At the
others it is used as it is, which is a slip.

The module introduces:

* `Spot` — a value at its place, `Spot.parts` — what stands in it;
* `Spot.slip?` — the slip of a value that has not the shape of its place, `Spot.Slips` — those of
  all that stands in a value, too;
* `WellShaped document` — the document has no slips;
* `Fault.IsOwn` — the faults with which malformed documents are refused;
* `Checks spots step` — a step gives a result only if the values have no slips, and fails with a
  refusal or with one of their slips.

## Main results

* `Spot.Slips.category`: slips belong to three classes of faults, none of them that of a refusal;
* `Checks.bind`: steps check, one after the other, what each of them checks.
-/

namespace SignatureForms.Document

/-! ## Places -/

/-- The places of a document at which a value stands. -/
inductive Place where
  /-- The document itself. -/
  | module
  /-- The type table. -/
  | types
  /-- A section that is walked over. -/
  | items
  /-- A client. -/
  | client
  /-- The init section of a client. -/
  | init
  /-- An operation. -/
  | operation
  /-- A parameter. -/
  | parameter
  /-- A type. -/
  | type
  /-- A mapping that holds the parts of a type. -/
  | parts
  /-- A field of a record. -/
  | field
  /-- The name that a reference gives. -/
  | reference
  /-- The settings. -/
  | settings
  /-- A pair of a key and its value, in settings that are given as a list. -/
  | pair (position : Nat)
deriving DecidableEq, Repr

/-- A value at a place. -/
structure Spot where
  /-- The place. -/
  place : Place
  /-- The value. -/
  value : Json

/-- The value of a key, at its place. -/
def placed (entries : Json.Entries) (key : String) (place : Place) : List Spot :=
  (entries.lookup key).toList.map (.mk place)

/-- The value of a key, at its place, an explicit null counting as no value. -/
def placedGiven (entries : Json.Entries) (key : String) (place : Place) : List Spot :=
  (Json.given? entries key).toList.map (.mk place)

/-- The items of a list section. -/
def listed (entries : Json.Entries) (key : String) : List Json :=
  ((entries.lookup key).bind Json.elements?).getD []

/-- A list section, and its items at their place. -/
def placedList (entries : Json.Entries) (key : String) (place : Place) : List Spot :=
  placed entries key .items ++ (listed entries key).map (.mk place)

/-- What stands in a value. -/
def Spot.parts : Spot → List Spot
  | ⟨.module, .obj entries⟩ =>
    placed entries "types" .types ++ (placedList entries "clients" .client ++
      placed entries "config" .settings)
  | ⟨.types, .obj entries⟩ => entries.map fun entry => ⟨.parts, entry.2⟩
  | ⟨.client, .obj entries⟩ =>
    placed entries "init" .init ++ placedList entries "operations" .operation
  | ⟨.init, .obj entries⟩ => [⟨.operation, .obj (initEntries entries)⟩]
  | ⟨.operation, .obj entries⟩ =>
    placedList entries "params" .parameter ++ (placed entries "path" .items ++
      placedGiven entries "returns" .type)
  | ⟨.parameter, .obj entries⟩ => placed entries "type" .type
  | ⟨.type, .obj entries⟩ =>
    match entries.lookup "ref" with
    | some reference => [⟨.reference, reference⟩]
    | none => [⟨.parts, .obj entries⟩]
  | ⟨.parts, .obj entries⟩ =>
    placedList entries "fields" .field ++ (placedGiven entries "valueType" .type ++
      (placedGiven entries "elementType" .type ++ (placedList entries "members" .type ++
        placedGiven entries "constraint" .type)))
  | ⟨.field, .obj entries⟩ => placed entries "type" .type
  | ⟨.settings, .obj _⟩ => []
  | ⟨.settings, value⟩ => (value.elements?.getD []).zipIdx.map fun (item, position) =>
    ⟨.pair position, item⟩
  | _ => []

/-- The value is a mapping. -/
def isMapping : Json → Bool
  | .obj _ => true
  | _ => false

/-- The slip of a value that has not the shape of its place. -/
def Spot.slip? : Spot → Option Fault
  | ⟨.types, value⟩ => if value.truthy && !isMapping value then some (.notMapping value) else none
  | ⟨.items, value⟩ | ⟨.settings, value⟩ =>
    if value.truthy && value.elements?.isNone then some (.notIterable value) else none
  | ⟨.client, value⟩ | ⟨.operation, value⟩ =>
    if isMapping value then none else some (.notMapping value)
  | ⟨.init, .null⟩ => none
  | ⟨.init, value⟩ => if isMapping value then none else some (.initShape value)
  | ⟨.reference, .arr items⟩ => some (.referenceShape (.arr items))
  | ⟨.reference, .obj entries⟩ => some (.referenceShape (.obj entries))
  -- a pair is taken apart before its key is looked at
  | ⟨.pair position, item⟩ =>
    match item.elements? with
    | none => some (.pairShape position)
    | some [.arr items, _] => some (.keyShape (.arr items))
    | some [.obj entries, _] => some (.keyShape (.obj entries))
    | some [_, _] => none
    | some parts => some (.pairLength position parts.length)
  | _ => none

/-- The slips of a value and of what stands in it. -/
inductive Spot.Slips : Spot → Fault → Prop where
  /-- The slip of the value itself. -/
  | here {spot : Spot} {fault : Fault} (h : spot.slip? = some fault) : Slips spot fault
  /-- A slip of something that stands in it. -/
  | inside {spot part : Spot} {fault : Fault} (hpart : part ∈ spot.parts)
      (h : Slips part fault) : Slips spot fault

/-- Every value of the document has the shape of its place. -/
def WellShaped (document : Json) : Prop := ∀ fault, ¬ Spot.Slips ⟨.module, document⟩ fault

end SignatureForms.Document

namespace SignatureForms

/-- The fault is one of the two that malformed documents are refused with. -/
def Fault.IsOwn (fault : Fault) : Prop :=
  fault.category = .descriptor ∨ fault.category = .naming

instance (fault : Fault) : Decidable fault.IsOwn := inferInstanceAs (Decidable (_ ∨ _))

namespace Document

/-- Slips belong to the three classes for which no rule of the format speaks. -/
theorem Spot.category_of_slip? {spot : Spot} {fault : Fault} (h : spot.slip? = some fault) :
    fault.category ∈ [.iteration, .keys, .pairing] := by
  unfold Spot.slip? at h
  split at h <;> (try split at h) <;> cases h <;> simp [Fault.category]

theorem Spot.Slips.category {spot : Spot} {fault : Fault} (h : spot.Slips fault) :
    fault.category ∈ [.iteration, .keys, .pairing] := by
  induction h with
  | here h => exact Spot.category_of_slip? h
  | inside _ _ ih => exact ih

/-! ## Steps that check what they read -/

/-- One of the values has the slip, or something that stands in it. -/
def SlipIn (spots : List Spot) (fault : Fault) : Prop := ∃ spot ∈ spots, spot.Slips fault

@[simp]
theorem slipIn_nil {fault : Fault} : ¬ SlipIn [] fault := by
  rintro ⟨_, hspot, -⟩
  cases hspot

theorem slipIn_append {spots more : List Spot} {fault : Fault} :
    SlipIn (spots ++ more) fault ↔ SlipIn spots fault ∨ SlipIn more fault := by
  simp only [SlipIn, List.mem_append, or_and_right, exists_or]

theorem slipIn_cons {spot : Spot} {more : List Spot} {fault : Fault} :
    SlipIn (spot :: more) fault ↔
      (spot.slip? = some fault ∨ SlipIn spot.parts fault) ∨ SlipIn more fault := by
  simp only [SlipIn, List.mem_cons, or_and_right, exists_or, exists_eq_left]
  refine or_congr_left ⟨?_, ?_⟩
  · rintro (h | ⟨hpart, h⟩)
    · exact .inl h
    · exact .inr ⟨_, hpart, h⟩
  · rintro (h | ⟨part, hpart, h⟩)
    · exact .here h
    · exact .inside hpart h

variable {α β : Type} {spots more : List Spot}

/-- If the step gives a result, the values have no slips; if it fails, this is a slip of theirs or a
refusal of the document. -/
def Checks (spots : List Spot) : Except Fault α → Prop
  | .ok _ => ∀ fault, ¬ SlipIn spots fault
  | .error fault => fault.IsOwn ∨ SlipIn spots fault

namespace Checks

theorem ok (result : α) : Checks [] (.ok result : Except Fault α) := fun _ => slipIn_nil

/-- A refusal may come before anything is checked. -/
theorem refusal {fault : Fault} (h : fault.IsOwn) (spots : List Spot) :
    Checks spots (.error fault : Except Fault α) := .inl h

theorem bind {step : Except Fault α} {next : α → Except Fault β} (h : Checks spots step)
    (hnext : ∀ result, step = .ok result → Checks more (next result)) :
    Checks (spots ++ more) (step >>= next) := by
  cases step with
  | error fault => exact h.imp_right fun hslip => slipIn_append.2 (.inl hslip)
  | ok result =>
    have hmore := hnext result rfl
    show Checks _ (next result)
    cases hresult : next result with
    | error fault =>
      rw [hresult] at hmore
      exact hmore.imp_right fun hslip => slipIn_append.2 (.inr hslip)
    | ok last =>
      rw [hresult] at hmore
      exact fun fault hslip => (slipIn_append.1 hslip).elim (h fault) (hmore fault)

/-- Other values with the same slips are checked, too. -/
theorem congr {step : Except Fault α} (h : Checks spots step)
    (hiff : ∀ fault, SlipIn more fault ↔ SlipIn spots fault) : Checks more step := by
  cases step with
  | error fault => exact h.imp_right (hiff fault).2
  | ok result => exact fun fault hfault => h fault ((hiff fault).1 hfault)

/-- A value without a slip is checked with what stands in it. -/
theorem here {spot : Spot} {step : Except Fault α} (hslip : spot.slip? = none)
    (h : Checks spot.parts step) : Checks [spot] step :=
  h.congr fun fault => by simp [slipIn_cons, hslip]

/-- A value without a slip in which nothing stands needs no check. -/
theorem skip {spot : Spot} {step : Except Fault α} (hslip : spot.slip? = none)
    (hparts : spot.parts = []) (h : Checks more step) : Checks (spot :: more) step :=
  h.congr fun fault => by simp [slipIn_cons, hslip, hparts]

/-- A value with a slip is not read. -/
theorem slip {spot : Spot} {fault : Fault} (h : spot.slip? = some fault) (more : List Spot) :
    Checks (spot :: more) (.error fault : Except Fault α) :=
  .inr (slipIn_cons.2 (.inl (.inl h)))

theorem map {step : Except Fault α} (h : Checks spots step) (f : α → β) :
    Checks spots (f <$> step) := by
  cases step with
  | error fault => exact h
  | ok result => exact h

end Checks

end Document

end SignatureForms
