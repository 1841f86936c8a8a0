import SignatureForms.Budget
import SignatureForms.Document.Section

/-!
# Settings

What a document or a caller may set for the generation: the field budget, whether records are
entered field by field, the name of the connection, and the name of the module. Each setting has a
second spelling for documents. Settings are checked once all of them are collected, so a later
value may replace a wrong one.
-/

namespace SignatureForms

/-- The settings of a generation. -/
structure Settings where
  /-- How many record fields one parameter may unfold. -/
  fieldBudget : Int
  /-- Record fields are entered one by one. -/
  expandRecords : Bool
  /-- The name of the connection, instead of that of each client. -/
  connectionType : Option String
  /-- The name of the module, instead of its own. -/
  moduleName : Option String
deriving DecidableEq, Repr

namespace Settings

/-- The settings when nothing is set. -/
def default : Settings where
  fieldBudget := defaultFieldBudget
  expandRecords := true
  connectionType := none
  moduleName := some ""

instance : Inhabited Settings := ⟨default⟩

/-- The name of a setting by either of its spellings. -/
def canonicalName (key : String) : String :=
  match key with
  | "fieldBudget" => "field_budget"
  | "expandRecords" => "expand_records"
  | "connectionType" => "connection_type"
  | "moduleName" => "module_name"
  | key => key

/-- The pairs of a settings section with the names of the settings, or the first key that is
none. -/
def named : List (Json × Json) → Except Fault (List (String × Json))
  | [] => .ok []
  | (key, value) :: rest =>
    let name := canonicalName key.display
    match key, Fault.settingNames.contains name with
    | .str _, true => do return (name, value) :: (← named rest)
    | _, _ => throw (.unknownSetting key.display)

/-- The value of a setting; the last one counts. -/
def last? (values : List (String × Json)) (name : String) : Option Json :=
  values.reverse.lookup name

/-- A field budget, a whole number from one up. -/
def checkBudget : Option Json → Except Fault Int
  | none => .ok defaultFieldBudget
  | some (.int budget) => if budget < 1 then throw (.budgetRange budget) else return budget
  | some other => throw (.budgetShape other)

/-- A switch for the expansion of records. -/
def checkExpansion : Option Json → Except Fault Bool
  | none => .ok true
  | some (.bool expand) => .ok expand
  | some other => throw (.expansionShape other)

/-- The settings of a section, with overrides of which null ones are ignored. -/
def ofPairs (pairs : List (Json × Json)) (overrides : List (String × Json)) :
    Except Fault Settings := do
  let fromSection ← named pairs
  let given := overrides.filter fun entry =>
    match entry.2 with
    | .null => false
    | _ => true
  match given.find? fun entry => !Fault.settingNames.contains entry.1 with
  | some (key, _) => throw (.unknownOverride key)
  | none =>
    let values := fromSection ++ given
    let fieldBudget ← checkBudget (last? values "field_budget")
    let expandRecords ← checkExpansion (last? values "expand_records")
    return {
      fieldBudget, expandRecords
      connectionType := (last? values "connection_type").bind Document.text?
      moduleName :=
        match last? values "module_name" with
        | some name => Document.text? name
        | none => default.moduleName }

/-- The settings of a section that is given as a value; an empty one sets nothing. -/
def ofJson (value : Json) (overrides : List (String × Json)) : Except Fault Settings := do
  let entries ← if value.truthy then Document.entriesOf value else pure []
  ofPairs (entries.map fun entry => (.str entry.1, entry.2)) overrides

/-- The overrides for a field budget and an expansion switch that may be given. -/
def overridesOf (fieldBudget expandRecords : Json) : List (String × Json) :=
  [("field_budget", fieldBudget), ("expand_records", expandRecords)]

/-- The settings with the given module name where none is set. -/
def withModuleName (s : Settings) (name : String) : Settings :=
  if (TypeDescriptor.nonEmpty? s.moduleName).isSome then s else { s with moduleName := some name }

/-- The name of the module has a dot, so the names of its operations may have none. -/
def hasDottedName (s : Settings) : Bool :=
  (s.moduleName.getD "").toList.contains '.'

end Settings

end SignatureForms
