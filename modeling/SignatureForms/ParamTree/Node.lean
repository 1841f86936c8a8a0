import SignatureForms.Condition
import SignatureForms.Fault
import SignatureForms.ParamTree.Value

/-!
# Parameter nodes

The tree that one parameter becomes when its type is classified. Leaves are entered in one input,
records hold a node for each field, unions one for each member; maps and arrays are entered as a
table or as JSON text.

* `ParamNode.info_withInfo` — replacing what all variants share replaces just that.
-/

namespace SignatureForms

/-- What all nodes have. -/
structure NodeInfo where
  /-- The position among the siblings. -/
  index : String
  /-- The dotted name of the value. -/
  value : String
  /-- The value may not be left out. -/
  required : Bool
  /-- The value that is filled in at first. -/
  default : Option String
  /-- What the value is for. -/
  description : Option String
  /-- When the node is visible. -/
  condition : Condition
  /-- The label under which the node is a member of a union. -/
  label : Option String
  /-- The value is a type. -/
  typeDescriptor : Bool
deriving DecidableEq, Repr, Inhabited

/-- A node without default, condition and label. -/
def NodeInfo.plain (index value : String) (required : Bool) (description : Option String) :
    NodeInfo where
  index := index
  value := value
  required := required
  default := none
  description := description
  condition := .empty
  label := none
  typeDescriptor := false

/-- The flat name of the value. -/
def NodeInfo.name (info : NodeInfo) : String := Naming.flatName info.value

/-- The value is entered among the advanced settings: it may be left out or has a default. -/
def NodeInfo.isAdvanced (info : NodeInfo) : Bool :=
  !info.required || (TypeDescriptor.nonEmpty? info.default).isSome

/-- One column of a table. -/
structure Column where
  /-- What the column shares with nodes. -/
  info : NodeInfo
  /-- The kind of the cells. -/
  kind : Kind
deriving DecidableEq, Repr, Inhabited

/-- How a map is entered. -/
structure MapShape where
  /-- The kind of the values. -/
  valueKind : Option Kind
  /-- The columns for the fields of record values. -/
  columns : List Column
  /-- The map is entered as a table. -/
  asTable : Bool
deriving DecidableEq, Repr, Inhabited

/-- How an array is entered. -/
structure ArrayShape where
  /-- The kind of the elements. -/
  elementKind : Option Kind
  /-- The columns for the fields of record elements. -/
  columns : List Column
  /-- The array is entered as a table. -/
  asTable : Bool
  /-- The elements are arrays themselves. -/
  twoDimensional : Bool
  /-- The kind of the elements of the elements. -/
  innerKind : Option Kind
  /-- The elements are unions. -/
  ofUnions : Bool
  /-- The kinds that an element may have. -/
  memberKinds : List Kind
deriving DecidableEq, Repr, Inhabited

/-- A node of a parameter tree. -/
inductive ParamNode where
  /-- A leaf. -/
  | simple (info : NodeInfo) (kind : Kind)
  /-- A record; its fields are named below `parentPath`. -/
  | record (info : NodeInfo) (recordName parentPath : String) (fields : List ParamNode)
  /-- Values by key. -/
  | map (info : NodeInfo) (shape : MapShape)
  /-- A sequence. -/
  | array (info : NodeInfo) (shape : ArrayShape)
  /-- A choice. -/
  | union (info : NodeInfo) (members : List ParamNode)
deriving Inhabited

namespace ParamNode

/-- What the node shares with all others. -/
def info : ParamNode → NodeInfo
  | simple info _ => info
  | record info .. => info
  | map info _ => info
  | array info _ => info
  | union info _ => info

/-- The node with other shared parts. -/
def withInfo (node : ParamNode) (info : NodeInfo) : ParamNode :=
  match node with
  | simple _ kind => simple info kind
  | record _ recordName parentPath fields => record info recordName parentPath fields
  | map _ shape => map info shape
  | array _ shape => array info shape
  | union _ members => union info members

/-- The kind of a node. -/
def kind : ParamNode → Kind
  | simple _ kind => kind
  | record .. => .record
  | map .. => .map
  | array .. => .array
  | union .. => .union

/-- The dotted name of the value. -/
abbrev value (node : ParamNode) : String := node.info.value

/-- The flat name of the value. -/
abbrev name (node : ParamNode) : String := node.info.name

/-- When the node is visible. -/
abbrev condition (node : ParamNode) : Condition := node.info.condition

/-- The node is a choice. -/
def isUnion : ParamNode → Bool
  | union .. => true
  | _ => false

/-- The node is a choice without members. -/
def isEmptyUnion : ParamNode → Bool
  | union _ [] => true
  | _ => false

/-- The node is a record whose fields are entered one by one. -/
def expands (expandRecords : Bool) : ParamNode → Bool
  | record _ _ _ fields => expandRecords && !fields.isEmpty
  | _ => false

/-- The node with a default value. -/
def withDefault (node : ParamNode) (default : String) : ParamNode :=
  node.withInfo { node.info with default := some default }

/-- The node as the member of a union that `condition` selects: it gets a label, by which a record
is also called. -/
def asMember (label : String) (condition : Condition) : ParamNode → ParamNode
  | record info _ parentPath fields =>
    record { info with label := some label, condition } label parentPath fields
  | node => node.withInfo { node.info with label := some label, condition }

/-- The label of a node as the member of a union at a position. -/
def memberLabel (node : ParamNode) (position : Nat) : String :=
  match TypeDescriptor.nonEmpty? node.info.label with
  | some label => label
  | none =>
    match node with
    | record _ recordName _ _ =>
      if recordName.isEmpty then "Record" ++ toString position else recordName
    | union .. => "Union" ++ toString position
    | node => node.kind.name

/-- The members of a union that can be selected: all but empty unions. -/
def selectable (members : List ParamNode) : List ParamNode :=
  members.filter (!·.isEmptyUnion)

/-- The member of a union is selected by a control of its own. -/
def hasDiscriminator (members : List ParamNode) : Bool :=
  1 < (selectable members).length

mutual

/-- The node, its fields or members, and so on downwards, each before its parts. -/
def walk : ParamNode → List ParamNode
  | record info recordName parentPath fields =>
    record info recordName parentPath fields :: walkAll fields
  | union info members => union info members :: walkAll members
  | node => [node]

/-- The nodes of several trees in turn, each before its parts. -/
def walkAll : List ParamNode → List ParamNode
  | [] => []
  | node :: rest => walk node ++ walkAll rest

end

/-- A leaf may not claim the kind of a composite. -/
def checkVariant : ParamNode → Except Fault Unit
  | simple info kind =>
    if kind.isComposite then throw (.malformedVariant info.value kind) else return ()
  | _ => return ()

@[simp]
theorem info_withInfo (node : ParamNode) (info : NodeInfo) : (node.withInfo info).info = info := by
  cases node <;> rfl

@[simp]
theorem withInfo_info (node : ParamNode) : node.withInfo node.info = node := by
  cases node <;> rfl

@[simp]
theorem kind_withInfo (node : ParamNode) (info : NodeInfo) :
    (node.withInfo info).kind = node.kind := by
  cases node <;> rfl

theorem walkAll_append (nodes more : List ParamNode) :
    walkAll (nodes ++ more) = walkAll nodes ++ walkAll more := by
  induction nodes with
  | nil => rfl
  | cons node rest ih => simp [walkAll, ih]

end ParamNode

end SignatureForms
