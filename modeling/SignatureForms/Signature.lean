import SignatureForms.Json.Basic
import SignatureForms.TypeGraph

/-!
# Signatures

What a module offers: clients, each one connection with its operations, and the typed parameters
of these. All types of a module are numbers into one graph.
-/

namespace SignatureForms

/-- How an operation is called. -/
inductive OperationKind where
  /-- Sets up the connection of a client. -/
  | init
  /-- A remote call. -/
  | remote
  /-- A call of a resource path. -/
  | resource
  /-- A plain function. -/
  | function
deriving DecidableEq, Repr, Inhabited

namespace OperationKind

/-- The word for a kind of operation. -/
def name : OperationKind → String
  | init => "init"
  | remote => "remote"
  | resource => "resource"
  | function => "function"

/-- All kinds, in the order in which messages list them. -/
def all : List OperationKind := [init, remote, resource, function]

/-- The kind that a word names. -/
def ofName? (word : String) : Option OperationKind :=
  all.find? fun kind => kind.name == word

end OperationKind

/-- One declared parameter of an operation. -/
structure Parameter where
  /-- The name of the parameter. -/
  name : String
  /-- The type of its values. -/
  type : TypeId
  /-- A call may leave the parameter out. -/
  defaultable : Bool
  /-- The default as it is written in the declaration, such as `"json"` in quotes or `()`. -/
  default : Option String
  /-- What the parameter is for. -/
  doc : Option String
deriving DecidableEq, Repr, Inhabited

/-- A function that is offered as an operation. -/
structure Operation where
  /-- The declared name. -/
  name : String
  /-- How it is called. -/
  kind : OperationKind
  /-- The parameters, in order. -/
  params : List Parameter
  /-- A name given to the operation by its author. -/
  operationId : Option String
  /-- The segments of a resource path, as they are written. -/
  path : List String
  /-- The type of the result. -/
  returns : Option TypeId
  /-- What the operation does. -/
  doc : String
deriving DecidableEq, Repr, Inhabited

/-- One connection and what can be done over it. -/
structure Client where
  /-- The name of the client. -/
  name : String
  /-- The name of its connection. -/
  connectionType : String
  /-- The operations, in order. -/
  operations : List Operation
  /-- The operation that sets up the connection. -/
  init : Option Operation
deriving DecidableEq, Repr, Inhabited

/-- A whole descriptor document. -/
structure Module where
  /-- The name of the module. -/
  name : String
  /-- The organisation that publishes the module. -/
  org : String
  /-- The version of the module. -/
  version : String
  /-- The clients, in order. -/
  clients : List Client
  /-- The settings section, unread: pairs of key and value. -/
  config : List (Json × Json)
  /-- The graph that all types of the module belong to. -/
  types : TypeGraph
deriving Inhabited

end SignatureForms
