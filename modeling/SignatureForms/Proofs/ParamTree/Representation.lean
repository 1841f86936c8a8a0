import SignatureForms.ParamTree.OfOperation
import SignatureForms.Proofs.ParamTree.Shape
import SignatureForms.Proofs.Steps

/-!
# Representable parameters

Whether a parameter has a tree is decided by its type and the budget alone; its position among the
others only numbers the tree. So the parameters of an operation can be told apart beforehand: those
that have a tree, those that may be dropped, and those that keep the operation from being offered.

The module introduces:

* `p.isUnsupported types fieldBudget` — the parameter is classified and has no tree;
* `op.blocker? types fieldBudget` — the first parameter that cannot be dropped and has no tree;
* `op.RepresentedBy types fieldBudget params` — the trees are those of all parameters that have one;
* `Thins types fieldBudget ps kept` — some parameters that may be dropped and have no tree are left
  out.

## Main results

* `isUnsupported_eq_true_iff`: a parameter has a tree at all positions or at none;
* `classifyOperation_eq_ok`: an operation is skipped just if there is a parameter that blocks it,
  and is represented by the trees of its parameters otherwise;
* `classifyOperation_thins`: parameters that may be dropped and have no tree make no difference.
-/

namespace SignatureForms

/-! ## Parameters -/

/-- The type of the parameter cannot be represented: it is classified and has no tree. -/
def Parameter.isUnsupported (types : TypeGraph) (fieldBudget : Int) (p : Parameter) : Bool :=
  match classifyParameter types p 0 fieldBudget with
  | .ok none => true
  | _ => false

section Parameters

variable {types : TypeGraph} {fieldBudget : Int} {p : Parameter}

/-- A parameter that is classified at one position is classified at any other, and has a tree there
just if it has one here. -/
theorem exists_classifyParameter_eq {position : Int} {tree : Option ParamNode}
    (h : classifyParameter types p position fieldBudget = .ok tree) (position' : Int) :
    ∃ tree', classifyParameter types p position' fieldBudget = .ok tree' ∧
      tree'.isSome = tree.isSome := by
  rw [classifyParameter] at h
  split at h
  · cases h
  · next derived left hrun =>
    cases h
    obtain ⟨hname, hderivation⟩ := classify_eq_ok_iff.1 hrun
    -- the position is only part of the labels, and trees with other labels have the same shape
    obtain ⟨derived', hderivation', hshape⟩ :=
      hderivation.exists_shape_eq (.ofParameter position' p.name p.isRequired p.doc)
    have hrun' := classify_eq_ok_iff.2 ⟨hname, hderivation'⟩
    have hsome := congrArg Option.isSome hshape
    refine ⟨_, by rw [classifyParameter, hrun'], ?_⟩
    simpa only [Option.isSome_map] using hsome.symm

/-- A parameter has no tree at one position just if it has none at any. -/
theorem isUnsupported_eq_true_iff {position : Int} :
    p.isUnsupported types fieldBudget = true ↔
      classifyParameter types p position fieldBudget = .ok none := by
  have hnone {position position' : Int}
      (h : classifyParameter types p position fieldBudget = .ok none) :
      classifyParameter types p position' fieldBudget = .ok none := by
    obtain ⟨tree, htree, hsome⟩ := exists_classifyParameter_eq h position'
    rw [htree, Option.isSome_eq_false_iff.1 hsome |> Option.isNone_iff_eq_none.1]
  rw [Parameter.isUnsupported]
  constructor
  · intro h
    split at h
    · next hhere => exact hnone hhere
    · cases h
  · intro h
    rw [hnone h]

/-- A parameter with a tree is not one without. -/
theorem isUnsupported_eq_false {position : Int} {tree : ParamNode}
    (h : classifyParameter types p position fieldBudget = .ok (some tree)) :
    p.isUnsupported types fieldBudget = false := by
  refine Bool.eq_false_iff.2 fun hunsupported => ?_
  rw [isUnsupported_eq_true_iff.1 hunsupported] at h
  cases h

end Parameters

/-! ## Operations -/

namespace Operation

/-- The first parameter that cannot be left out of a call and has no tree. -/
def blocker? (types : TypeGraph) (fieldBudget : Int) (op : Operation) : Option Parameter :=
  op.params.find? fun p => p.isRequired && p.isUnsupported types fieldBudget

/-- Some parameter that cannot be left out of a call has no tree. -/
def isBlocked (types : TypeGraph) (fieldBudget : Int) (op : Operation) : Bool :=
  op.params.any fun p => p.isRequired && p.isUnsupported types fieldBudget

/-- The trees are those of all parameters that have one, in order, each classified at the position
that it has among these. -/
def RepresentedBy (types : TypeGraph) (fieldBudget : Int) (op : Operation)
    (params : List ParamNode) : Prop :=
  List.Forall₂
    (fun entry tree => classifyParameter types entry.1 entry.2 fieldBudget = .ok (some tree))
    (op.params.filter fun p => !p.isUnsupported types fieldBudget).zipIdx params

end Operation

/-- The second list is the first one without some of its parameters, each of which may be left out
of a call and has no tree. -/
inductive Thins (types : TypeGraph) (fieldBudget : Int) :
    List Parameter → List Parameter → Prop where
  | nil : Thins types fieldBudget [] []
  | keep {ps kept : List Parameter} (p : Parameter) :
    Thins types fieldBudget ps kept → Thins types fieldBudget (p :: ps) (p :: kept)
  | drop {p : Parameter} {ps kept : List Parameter} : p.isRequired = false →
    p.isUnsupported types fieldBudget = true →
    Thins types fieldBudget ps kept → Thins types fieldBudget (p :: ps) kept

section Operations

variable {types : TypeGraph} {fieldBudget : Int}

/-- Parameters that are classified one after the other are skipped for the first one that blocks,
and otherwise have the trees of those that have one. -/
theorem classifyParameters_eq_ok {ps : List Parameter} {position : Nat}
    {outcome : Except Skip (List ParamNode)}
    (h : classifyParameters types fieldBudget ps position = .ok outcome) :
    match ps.find? fun p => p.isRequired && p.isUnsupported types fieldBudget with
    | some p => outcome = .error ⟨unsupportedParameterType,
        p.name ++ " (" ++ (types.kind p.type).name ++ ")"⟩
    | none => ∃ params, outcome = .ok params ∧ List.Forall₂
        (fun entry tree => classifyParameter types entry.1 entry.2 fieldBudget = .ok (some tree))
        ((ps.filter fun p => !p.isUnsupported types fieldBudget).zipIdx position) params := by
  induction ps generalizing position outcome with
  | nil =>
    cases h
    exact ⟨[], rfl, .nil⟩
  | cons p rest ih =>
    rw [classifyParameters] at h
    split at h
    · cases h
    · next tree htree =>
      have hsupported := isUnsupported_eq_false htree
      split at h
      · cases h
      · next others hrest =>
        cases h
        have hothers := ih hrest
        rw [List.find?_cons_of_neg (by simp [hsupported]),
          List.filter_cons_of_pos (by simp [hsupported]), List.zipIdx_cons]
        split at hothers
        · rw [hothers]
          rfl
        · obtain ⟨params, rfl, hparams⟩ := hothers
          exact ⟨tree :: params, rfl, .cons htree hparams⟩
    · next hnone =>
      have hunsupported := isUnsupported_eq_true_iff.2 hnone
      split at h
      · next hrequired =>
        cases h
        rw [List.find?_cons_of_pos (by simp [hrequired, hunsupported])]
      · next hoptional =>
        -- a parameter that is dropped takes up no position
        rw [List.find?_cons_of_neg (by simp [hoptional]),
          List.filter_cons_of_neg (by simp [hunsupported])]
        exact ih h

/-- An operation is skipped for the first parameter that blocks it, and is otherwise represented by
the trees of its parameters. -/
theorem classifyOperation_eq_ok {op : Operation} {outcome : Except Skip (List ParamNode)}
    (h : classifyOperation types op fieldBudget = .ok outcome) :
    match op.blocker? types fieldBudget with
    | some p => outcome = .error ⟨unsupportedParameterType,
        p.name ++ " (" ++ (types.kind p.type).name ++ ")"⟩
    | none => ∃ params, outcome = .ok params ∧ op.RepresentedBy types fieldBudget params :=
  classifyParameters_eq_ok h

/-- An operation that is skipped has a parameter that blocks it. -/
theorem exists_blocker_of_classifyOperation {op : Operation} {skip : Skip}
    (h : classifyOperation types op fieldBudget = .ok (.error skip)) :
    ∃ p, op.blocker? types fieldBudget = some p ∧
      skip = ⟨unsupportedParameterType, p.name ++ " (" ++ (types.kind p.type).name ++ ")"⟩ := by
  have houtcome := classifyOperation_eq_ok h
  split at houtcome
  · next p hblocker => exact ⟨p, hblocker, Except.error.inj houtcome⟩
  · obtain ⟨_, hparams, -⟩ := houtcome
    cases hparams

/-- An operation that is not skipped has no parameter that blocks it, and is represented by its
trees. -/
theorem representedBy_of_classifyOperation {op : Operation} {params : List ParamNode}
    (h : classifyOperation types op fieldBudget = .ok (.ok params)) :
    op.blocker? types fieldBudget = none ∧ op.RepresentedBy types fieldBudget params := by
  have houtcome := classifyOperation_eq_ok h
  split at houtcome
  · cases houtcome
  · next hblocker =>
    obtain ⟨_, hparams, hrepresented⟩ := houtcome
    cases hparams
    exact ⟨hblocker, hrepresented⟩

/-- There is a parameter that blocks an operation just if the operation is blocked. -/
theorem isBlocked_eq_isSome (op : Operation) :
    op.isBlocked types fieldBudget = (op.blocker? types fieldBudget).isSome := by
  rw [Operation.isBlocked, Operation.blocker?, List.isSome_find?]

/-- Parameters that may be dropped and have no tree make no difference to the others. -/
theorem classifyParameters_thins {ps kept : List Parameter}
    (h : Thins types fieldBudget ps kept) (position : Nat) :
    classifyParameters types fieldBudget kept position =
      classifyParameters types fieldBudget ps position := by
  induction h generalizing position with
  | nil => rfl
  | keep p _ ih => simp only [classifyParameters, ih]
  | @drop p _ _ hoptional hunsupported _ ih =>
    have hnone : classifyParameter types p position fieldBudget = .ok none :=
      isUnsupported_eq_true_iff.1 hunsupported
    simp only [classifyParameters, hnone, hoptional, Bool.false_eq_true, if_false, ih]

theorem classifyOperation_thins {op : Operation} {kept : List Parameter}
    (h : Thins types fieldBudget op.params kept) :
    classifyOperation types { op with params := kept } fieldBudget =
      classifyOperation types op fieldBudget :=
  classifyParameters_thins h 0

end Operations

end SignatureForms
