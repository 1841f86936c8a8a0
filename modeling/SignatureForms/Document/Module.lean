import SignatureForms.Document.Operations

/-!
# Reading modules

A whole descriptor document. The type table is read first, then the clients in order, then the
module's own name and settings; the first fault ends the reading.
-/

namespace SignatureForms.Document

/-- Two keys of the settings section are the same. A truth value is the number one or zero, and a
whole number is the same with a fraction of zero. -/
def sameKey : Json → Json → Bool
  | .null, .null => true
  | .str a, .str b => a == b
  | .bool a, .bool b => a == b
  | .bool a, .int b => a.toNat == b
  | .bool a, .float b => Float.ofNat a.toNat == b
  | .int a, .bool b => a == b.toNat
  | .int a, .int b => a == b
  | .int a, .float b => Float.ofInt a == b
  | .float a, .bool b => a == Float.ofNat b.toNat
  | .float a, .int b => a == Float.ofInt b
  | .float a, .float b => a == b
  | _, _ => false

/-- Sets a key of the settings section. -/
def putSetting (key value : Json) : List (Json × Json) → List (Json × Json)
  | [] => [(key, value)]
  | (k, v) :: rest =>
    if sameKey k key then (k, value) :: rest else (k, v) :: putSetting key value rest

/-- The settings given as a list of pairs, the first of which has the number `position`. -/
def settingPairs (position : Nat) (done : List (Json × Json)) :
    List Json → Except Fault (List (Json × Json))
  | [] => return done
  | item :: rest =>
    match item.elements? with
    | none => throw (.pairShape position)
    | some [key, value] =>
      match key with
      | .arr _ | .obj _ => throw (.keyShape key)
      | _ => settingPairs (position + 1) (putSetting key value done) rest
    | some parts => throw (.pairLength position parts.length)

/-- The settings section as pairs of key and value: a mapping, or a list of pairs. -/
def settingsOf (value : Option Json) : Except Fault (List (Json × Json)) :=
  match value with
  | some (.obj entries) => return entries.map fun entry => (.str entry.1, entry.2)
  | value => do settingPairs 0 [] (← itemsOf value)

/-- Reads one client. -/
def readClient (table : NamedTypes) (value : Json) : Loading Client := do
  let entries ← entriesOf value
  let name ← nameOf .client entries
  let init ← readInit table (entries.lookup "init")
  let connection := textAt entries "connectionType"
  let operations ← (← itemsAt entries "operations").mapM (readOperation table)
  return {
    name, operations, init
    connectionType := if connection.isEmpty then name else connection }

/-- Reads a document; its types are collected on the way. -/
def loadModule (value : Json) : Loading Module :=
  match value with
  | .obj entries => do
    let table ← readTable (entries.lookup "types")
    let clients ← (← itemsAt entries "clients").mapM (readClient table)
    let name ← nameOf .module entries
    let config ← settingsOf (entries.lookup "config")
    return {
      name, clients, config
      org := textAt entries "org"
      version :=
        match entries.lookup "version" with
        | some version => if version.truthy then version.display else ""
        | none => ""
      types := ← get }
  | other => throw (.moduleShape other)

/-- The module that a document describes. -/
def readModule (value : Json) : Except Fault Module :=
  (loadModule value).run' .empty

/-- The module that the text of a file describes. -/
def readFile (path text : String) : Except Fault Module :=
  match Json.read text with
  | .ok value => readModule value
  | .error cause => throw (.unreadable path cause)

end SignatureForms.Document
