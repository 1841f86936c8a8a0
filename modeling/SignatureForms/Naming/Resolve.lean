import SignatureForms.Naming.Path
import SignatureForms.Naming.Words
import SignatureForms.Signature

/-!
# Names of operations

An operation is offered under a name that is found by the first of several strategies that has an
opinion: the identifier given by the author, the resource path, or the signature. The name is then
kept apart from the names of the parameters, and shown to people under a title.
-/

namespace SignatureForms.Naming

/-- A text unless it is empty, and another one then. -/
def orElse (text alternative : String) : String :=
  if text.isEmpty then alternative else text

/-- A way to find a name, with no opinion on some operations. -/
inductive Strategy where
  /-- The identifier given by the author. -/
  | operationId
  /-- The path of a resource. -/
  | pathSegments
  /-- The name and the types of the signature. -/
  | signature
deriving DecidableEq, Repr

/-- The strategies in their usual order. -/
def Strategy.default : List Strategy := [operationId, pathSegments, signature]

/-- The identifier given by the author. -/
def nameOfOperationId (op : Operation) : Option String :=
  TypeDescriptor.nonEmpty? op.operationId

/-- The name of a resource by its path: the method, the literal segments in camel case, and the
parameters after the word `By`. -/
def nameOfPath (op : Operation) : Option String :=
  if op.kind = .resource then
    let segments := pathSegments op.path
    if segments.isEmpty then none
    else
      let method := Unicode.lowercase (orElse op.name "resource")
      let literals := (segments.filter (!·.isParam)).map fun segment => pascalCase segment.name
      let params := (segments.filter (·.isParam)).map fun segment =>
        "By" ++ capitalize segment.name
      some (xmlName (String.join (method :: literals ++ params)))
  else none

/-- The name of what an operation gives: of its type, or of the first member of a union that is
no failure. -/
def returnTypeName (types : TypeGraph) (returns : Option TypeId) : Option String :=
  match returns with
  | none => none
  | some id =>
    let d := types.descriptor id
    if d.kind = .union then
      (d.members.find? fun member => types.kind member ≠ .error).bind fun member =>
        (types.descriptor member).displayName
    else d.displayName

/-- The resource that an optional type name hints at. -/
def hintOf (name : Option String) : String :=
  (name.map resourceHint).getD ""

/-- The first hint that the types of the parameters give. -/
def parameterHint (types : TypeGraph) : List Parameter → String
  | [] => ""
  | p :: rest => orElse (hintOf (types.descriptor p.type).displayName) (parameterHint types rest)

/-- The name of an operation by its signature: its own name or, for a resource, the method and a
hint from the types. -/
def nameOfSignature (types : TypeGraph) (op : Operation) : Option String :=
  if op.kind = .resource then
    let method := Unicode.lowercase (orElse op.name "resource")
    let hint := orElse (parameterHint types op.params) (hintOf (returnTypeName types op.returns))
    some (xmlName (method ++ (if hint.isEmpty then "Resource" else capitalize hint)))
  else if op.name.isEmpty then none
  else some op.name

/-- The name that a strategy finds. -/
def Strategy.name? (types : TypeGraph) (op : Operation) : Strategy → Option String
  | operationId => nameOfOperationId op
  | pathSegments => nameOfPath op
  | signature => nameOfSignature types op

/-- The first name that one of the strategies finds. -/
def resolveName? (types : TypeGraph) (op : Operation) (strategies : List Strategy) :
    Option String :=
  strategies.findSome? (Strategy.name? types op)

/-- The name of an operation by the usual strategies, its declared name if none has an opinion. -/
def resolveName (types : TypeGraph) (op : Operation) : String :=
  (resolveName? types op Strategy.default).getD op.name

/-- The names of the parameters and path parameters of an operation. -/
def parameterNames (op : Operation) : List String :=
  op.params.map Parameter.name ++ (pathParams op.path).map Segment.name

/-- Keeps the name of an operation apart from the names of its parameters. -/
def avoidClash (name : String) (op : Operation) : String :=
  let taken := parameterNames op
  if taken.contains name || taken.contains op.name then name ++ "_operation" else name

/-- The text with underscores for its dots. -/
def withoutDots (s : String) : String :=
  String.ofList (s.toList.map fun c => if c = '.' then '_' else c)

/-- The start of a description: its first line, its first sentence, or its first hundred
characters, whichever the description allows. -/
def summary (doc : List Char) : List Char :=
  let newline := doc.findIdx? (· = '\n')
  let period := doc.findIdx? (· = '.')
  let lineFirst : Bool :=
    match newline, period with
    | some n, some p => 0 < n && n < p
    | some n, none => 0 < n
    | none, _ => false
  if lineFirst then Unicode.trimChars (doc.take (newline.getD 0))
  else if 0 < period.getD 0 then Unicode.trimChars (doc.take (period.getD 0 + 1))
  else if 100 < doc.length then Unicode.trimChars (doc.take 100) ++ "...".toList
  else doc

/-- The title of an operation: the name in words or, for a resource without an identifier of its
author, the start of its description. -/
def displayName (op : Operation) (name : String) : String :=
  let words := humanize (String.ofList (name.toList.filter (· ≠ '\'')))
  if op.kind ≠ .resource ∨ (nameOfOperationId op).isSome then words
  else
    let doc := Unicode.trimChars op.doc.toList
    if doc.isEmpty then words else String.ofList (summary doc)

end SignatureForms.Naming
