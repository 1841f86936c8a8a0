import SignatureForms.ParamTree.Tabular
import SignatureForms.ParamTree.TypeChoice

/-!
# Classification

Turns a type into a parameter tree of bounded size. Each field of a record reserves a unit of the
budget before it is classified, so a record that holds itself stops unfolding when the budget runs
out. A union is not unfolded again inside itself. A type without a form gives no node; whether
that drops a field or a whole operation is for the caller to say.

The recursion is over a depth that is computed from the budget and the number of types: below a
record field the budget is smaller by one, below a union of several candidates there is one union
less that can be entered, and a union of one candidate stands for a type that is no union.
`SignatureForms.ParamTree.Depth` shows that this depth is always enough.
-/

namespace SignatureForms

/-- The result of classifying a type: its node, if it has one, and the budget that is left. -/
abbrev Classified := Except Fault (Option ParamNode × Budget)

/-- Classification of the types that are one level below, inside the unions `active`. -/
abbrev ChildClassifier := TypeId → Slot → List TypeId → Budget → Classified

/-- Classifies the fields of a record, the next node getting the given position. -/
def classifyFields (types : TypeGraph) (child : TypeId → Slot → Budget → Classified)
    (recordName path : String) (required : Bool) :
    List Field → Nat → Budget → Except Fault (List ParamNode × Budget)
  | [], _, budget => .ok ([], budget)
  | field :: rest, position, budget =>
    if field.name.isEmpty then .error (.unnamedField recordName)
    else if !(types.kind field.type).isSupported then
      classifyFields types child recordName path required rest position budget
    else if !budget.reserve.1 then .ok ([], budget.reserve.2)
    else
      match child field.type (.ofField path required position field) budget.reserve.2 with
      | .error fault => .error fault
      | .ok (none, left) =>
        classifyFields types child recordName path required rest position left.refund
      | .ok (some node, left) =>
        match classifyFields types child recordName path required rest (position + 1) left with
        | .error fault => .error fault
        | .ok (nodes, left) => .ok (node :: nodes, left)

/-- The node of a record. With nothing left of the budget it has no fields. -/
def classifyRecord (types : TypeGraph) (child : TypeId → Slot → Budget → Classified)
    (d : TypeDescriptor) (slot : Slot) (budget : Budget) : Classified :=
  let recordName := recordDisplayName d slot.name
  if budget.exhausted then .ok (some (.record slot.info recordName slot.fieldsPath []), budget)
  else
    match classifyFields types child recordName slot.fieldsPath slot.required d.fields 0 budget with
    | .error fault => .error fault
    | .ok (fields, left) => .ok (some (.record slot.info recordName slot.fieldsPath fields), left)

/-- A member of a union that may become a node. -/
structure Candidate where
  /-- The label by which it is selected. -/
  label : String
  /-- The kind of the type of the member. -/
  kind : Kind
  /-- The type of the member. -/
  type : TypeId
deriving DecidableEq, Repr, Inhabited

/-- The label of a member: its kind or, for a record or union, its name or its number. -/
def candidateLabel (d : TypeDescriptor) (position : Nat) : String :=
  match d.kind with
  | .record => (TypeDescriptor.nonEmpty? d.name).getD ("Record" ++ toString position)
  | .union => (TypeDescriptor.nonEmpty? d.name).getD ("Union" ++ toString position)
  | kind => kind.name

/-- The candidates among the members of a union, each label once: all of a supported kind but the
absent value. The candidates found so far are `done`. -/
def unionCandidates (types : TypeGraph) (done : List Candidate) : List TypeId → List Candidate
  | [] => done
  | member :: rest =>
    let d := types.descriptor member
    let label := candidateLabel d done.length
    if d.kind == .nil || !d.kind.isSupported || (done.map Candidate.label).contains label then
      unionCandidates types done rest
    else unionCandidates types (done ++ [⟨label, d.kind, member⟩]) rest

/-- Classifies the candidates of a union in a slot, the next node getting the given position. A
candidate without a node leaves the budget as it was. Each node comes with its type. -/
def classifyMembers (child : TypeId → Slot → Budget → Classified) (slot : Slot) :
    List Candidate → Nat → Budget → Except Fault (List (ParamNode × TypeId) × Budget)
  | [], _, budget => .ok ([], budget)
  | candidate :: rest, position, budget =>
    match child candidate.type (slot.ofMember candidate.label position) budget with
    | .error fault => .error fault
    | .ok (none, left) =>
      classifyMembers child slot rest position (left.restore budget.checkpoint)
    | .ok (some node, left) =>
      match classifyMembers child slot rest (position + 1) left with
      | .error fault => .error fault
      | .ok (members, left) =>
        let condition := Condition.when (discriminatorName slot.value) candidate.label
        .ok ((node.asMember candidate.label condition, candidate.type) :: members, left)

/-- The node of a union with several candidates, which are classified inside the unions `inside`.
A single member that is left and is no union is built again in the place of the union, and only the
second build is charged. -/
def classifyChoice (child : ChildClassifier) (slot : Slot) (inside : List TypeId)
    (candidates : List Candidate) (budget : Budget) : Classified :=
  match classifyMembers (fun type place => child type place inside) slot candidates 0 budget with
  | .error fault => .error fault
  | .ok ([], left) => .ok (none, left)
  | .ok ([(node, type)], left) =>
    if node.isUnion then .ok (some (.union slot.info [node]), left)
    else child type slot inside (left.restore budget.checkpoint)
  | .ok (members, left) => .ok (some (.union slot.info (members.map Prod.fst)), left)

/-- The node of a union with the number `id`. A union is not entered again inside itself, nor with
nothing left of the budget. A single candidate that is no union takes the place of the union at
once. -/
def classifyUnion (types : TypeGraph) (child : ChildClassifier) (id : TypeId) (d : TypeDescriptor)
    (slot : Slot) (active : List TypeId) (budget : Budget) : Classified :=
  if active.contains id || budget.exhausted then .ok (none, budget)
  else
    let slot := slot.ofUnion types d.members
    match unionCandidates types [] d.members with
    | [] => .ok (none, budget)
    | [candidate] =>
      if candidate.kind == .union then
        classifyChoice child slot (id :: active) [candidate] budget
      else child candidate.type slot active budget
    | candidates => classifyChoice child slot (id :: active) candidates budget

/-- One level of classification. -/
def classifyLevel (types : TypeGraph) (child : ChildClassifier) (id : TypeId) (slot : Slot)
    (active : List TypeId) (budget : Budget) : Classified :=
  let d := types.descriptor id
  match d.kind with
  | .union => classifyUnion types child id d slot active budget
  | .record => classifyRecord types (fun type place => child type place active) d slot budget
  | .map => .ok (some (.map slot.info (mapShape types d.valueType)), budget)
  | .array => .ok (some (.array slot.info (arrayShape types d.elementType)), budget)
  | .typedesc => .ok (classifyTypeDescriptor types d.constraint slot, budget)
  | .nil => .ok (none, budget)
  | kind => .ok (kind.supported?.map slot.leaf, budget)

/-- Classification of a type in a slot, inside the unions `active`, to a given depth. -/
def classifyWithin (types : TypeGraph) : Nat → TypeId → Slot → List TypeId → Budget → Classified
  | 0 => fun _ _ _ budget => .ok (none, budget)
  | depth + 1 => classifyLevel types (classifyWithin types depth)

/-- A depth that classification with a budget does not exceed: two levels for each field that may
be unfolded and each union that may be entered. -/
def classifyDepth (types : TypeGraph) (budget : Budget) : Nat :=
  2 * (budget.remaining.toNat + types.size) + 2

/-- Classifies the type of a top-level parameter. -/
def classify (types : TypeGraph) (type : TypeId) (position : Int) (budget : Budget)
    (name : String) (required : Bool) (description : Option String) : Classified :=
  if name.isEmpty then .error (.unnamedParameter position)
  else
    let slot : Slot := { position, value := name, name, required, fieldsPath := "", description }
    classifyWithin types (classifyDepth types budget) type slot [] budget

end SignatureForms
