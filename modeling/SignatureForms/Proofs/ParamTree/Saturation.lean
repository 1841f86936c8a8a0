import SignatureForms.Proofs.ParamTree.Shape

/-!
# Saturated budgets

A budget of which at least two units are left was large enough: no test of it has failed anywhere,
not even inside a build that was discarded. While a field is classified its own unit is taken, so
that two units after the field mean at least one inside it. With a larger budget every test has the
same outcome, and just the difference is left in addition.

The module introduces:

* `Budget.raised budget units` — the budget with some units more;
* `Spare node left` — what has to be left for a result: one unit without a node, two with one.

## Main results

* `Classifies.raise`: a derivation that spares that much is one with a raised budget as well;
* `classify_eq_ok_of_le`: a parameter is classified in the same way with every larger budget.
-/

namespace SignatureForms

/-! ## Raised budgets -/

namespace Budget

/-- The budget with some units more. -/
def raised (budget : Budget) (units : Nat) : Budget := ⟨budget.remaining + units⟩

@[simp]
theorem remaining_raised (budget : Budget) (units : Nat) :
    (budget.raised units).remaining = budget.remaining + units := rfl

theorem taken_raised (budget : Budget) (units : Nat) :
    (budget.raised units).taken = budget.taken.raised units := by
  simp only [raised, taken, Budget.mk.injEq]
  omega

theorem refund_raised (budget : Budget) (units : Nat) :
    (budget.raised units).refund = budget.refund.raised units := by
  simp only [raised, refund, Budget.mk.injEq]
  omega

theorem pos_of_exhausted_eq_false {budget : Budget} (h : budget.exhausted = false) :
    0 < budget.remaining :=
  Int.not_le.1 (of_decide_eq_false h)

theorem nonpos_of_exhausted {budget : Budget} (h : budget.exhausted = true) :
    budget.remaining ≤ 0 :=
  of_decide_eq_true h

/-- What is not exhausted is not exhausted with more units either. -/
theorem exhausted_raised_eq_false {budget : Budget} (h : budget.exhausted = false) (units : Nat) :
    (budget.raised units).exhausted = false := by
  have hpos := pos_of_exhausted_eq_false h
  apply decide_eq_false
  rw [remaining_raised]
  omega

end Budget

/-- What has to be left for a result: one unit without a node, two with one. -/
def Spare (node : Option ParamNode) (left : Budget) : Prop :=
  (if node.isSome then 2 else 1) ≤ left.remaining

/-- Two units are enough with and without a node. -/
theorem Spare.of_two_le {left : Budget} (h : 2 ≤ left.remaining) (node : Option ParamNode) :
    Spare node left := by
  rw [Spare]
  split <;> omega

/-- Where a unit has been given back, two units mean that one was left before. -/
theorem Spare.of_refund {left : Budget} (h : 2 ≤ left.refund.remaining) : Spare none left := by
  have hrefund : left.refund.remaining = left.remaining + 1 := rfl
  show 1 ≤ left.remaining
  omega

/-- As long as something is left, what is spent is not negative. -/
theorem Spends.remaining_le {budget left : Budget} {count slack : Nat}
    (h : Spends budget left count slack) (hleft : 0 < left.remaining) :
    left.remaining ≤ budget.remaining := by
  have hpaid := h.paid
  omega

/-! ## The survivor of a union -/

section Survivor

variable {types : TypeGraph}

/-- Where candidates give a single member, its type gave it by itself, and what it left is left. -/
theorem ClassifiesMembers.sole {slot : Slot} {inside : List TypeId} {candidates : List Candidate}
    {position : Nat} {budget left : Budget} {first : ParamNode} {kept : TypeId} :
    ClassifiesMembers types slot inside candidates position budget [(first, kept)] left →
      ∃ place built, Classifies types kept place inside budget (some built) left
  | .absent hnode hrest => by
    obtain rfl := hnode.spends.2 rfl
    exact hrest.sole
  | .present hnode hrest => by
    obtain rfl := hrest.spends.2 rfl
    exact ⟨_, _, hnode⟩

/-- Built again in the place of the union, a survivor has a node again, and what its first build
left is left. -/
theorem ClassifiesMembers.survivor_eq {slot place : Slot} {inside : List TypeId}
    {candidates : List Candidate} {position : Nat} {budget left left' : Budget}
    {first : ParamNode} {kept : TypeId} {node : Option ParamNode}
    (hmembers : ClassifiesMembers types slot inside candidates position budget [(first, kept)] left)
    (hnode : Classifies types kept place inside budget node left') :
    node.isSome = true ∧ left = left' := by
  obtain ⟨place', built, hfirst⟩ := hmembers.sole
  -- the slot has no part in whether there is a node, nor in what is left
  obtain ⟨node', hagain, hshape⟩ := hfirst.exists_shape_eq place
  obtain ⟨rfl, rfl⟩ := hnode.unique hagain
  refine ⟨?_, rfl⟩
  rw [← Option.isSome_map (f := ParamNode.shape), ← hshape]
  rfl

end Survivor

/-! ## Derivations with a raised budget -/

section Raise

variable {types : TypeGraph} (units : Nat)

/-- A union that may be entered may be entered with a raised budget. -/
theorem EntersUnion.raise {type : TypeId} {active : List TypeId} {budget : Budget}
    (h : EntersUnion types type active budget) :
    EntersUnion types type active (budget.raised units) where
  kind := h.kind
  fresh := h.fresh
  funded := Budget.exhausted_raised_eq_false h.funded units

mutual

/-- A derivation that spares enough is one with a raised budget, of which as much more is left. -/
theorem Classifies.raise {type : TypeId} {slot : Slot} {active : List TypeId}
    {budget left : Budget} {node : Option ParamNode} :
    Classifies types type slot active budget node left → Spare node left →
      Classifies types type slot active (budget.raised units) node (left.raised units)
  | .flat hunion hrecord, _ => .flat hunion hrecord
  | .closedRecord _ hout, hspare => by
    have hempty := Budget.nonpos_of_exhausted hout
    have hleft : 2 ≤ budget.remaining := hspare
    omega
  | .openRecord hkind hfunded hfields, hspare =>
    .openRecord hkind (Budget.exhausted_raised_eq_false hfunded units) (hfields.raise hspare)
  | .closedUnion hkind hclosed, hspare => by
    -- something is left, so the union is closed because it is entered
    refine .closedUnion hkind (.inl (hclosed.resolve_right fun hout => ?_))
    have hempty := Budget.nonpos_of_exhausted hout
    have hleft : 1 ≤ budget.remaining := hspare
    omega
  | .emptyUnion henter hcandidates, _ => .emptyUnion (henter.raise units) hcandidates
  | .soleCandidate henter hcandidates hkind hnode, hspare =>
    .soleCandidate (henter.raise units) hcandidates hkind (hnode.raise hspare)
  | .absentChoice henter hchoice hmembers, hspare =>
    .absentChoice (henter.raise units) hchoice (hmembers.raise hspare (by simp))
  -- the discarded build of a survivor left what the second one leaves, so it had enough as well
  | .survivor henter hchoice hmembers hfirst hnode, hspare => by
    obtain ⟨hsome, hsame⟩ := hmembers.survivor_eq hnode
    have hleft := hspare
    rw [Spare, hsome, if_pos rfl, ← hsame] at hleft
    have hbuilt := hmembers.raise (by omega) fun _ => hleft
    exact .survivor (henter.raise units) hchoice hbuilt hfirst (hnode.raise hspare)
  | .openUnion henter hchoice hmembers hnonempty hsole, hspare => by
    have hleft : 2 ≤ left.remaining := hspare
    have hbuilt := hmembers.raise (by omega) fun _ => hleft
    exact .openUnion (henter.raise units) hchoice hbuilt hnonempty hsole

/-- A derivation for fields that leaves two units is one with a raised budget. -/
theorem ClassifiesFields.raise {path : String} {required : Bool} {active : List TypeId}
    {fields : List Field} {position : Nat} {budget left : Budget} {nodes : List ParamNode} :
    ClassifiesFields types path required active fields position budget nodes left →
      2 ≤ left.remaining →
      ClassifiesFields types path required active fields position (budget.raised units) nodes
        (left.raised units)
  | .done, _ => .done
  | .unsupported hnamed hkind hrest, hleft => .unsupported hnamed hkind (hrest.raise hleft)
  | .cut _ _ hout, hleft => by
    have hempty := Budget.nonpos_of_exhausted hout
    rw [Budget.taken] at hleft
    dsimp only at hleft
    omega
  -- the unit of the field is given back, so at least one was left inside it
  | .absent hnamed hkind hfunded hnode hrest, hleft => by
    have hspent := hrest.spends.remaining_le (by omega)
    have hnode' := hnode.raise (.of_refund (Int.le_trans hleft hspent))
    have hrest' := hrest.raise hleft
    rw [← Budget.taken_raised] at hnode'
    rw [← Budget.refund_raised] at hrest'
    exact .absent hnamed hkind (Budget.exhausted_raised_eq_false hfunded units) hnode' hrest'
  | .present hnamed hkind hfunded hnode hrest, hleft => by
    have hspent := hrest.spends.remaining_le (by omega)
    have hnode' := hnode.raise (.of_two_le (Int.le_trans hleft hspent) _)
    rw [← Budget.taken_raised] at hnode'
    exact .present hnamed hkind (Budget.exhausted_raised_eq_false hfunded units) hnode'
      (hrest.raise hleft)

/-- A derivation for candidates that leaves a unit, and two if there are members, is one with a
raised budget. -/
theorem ClassifiesMembers.raise {slot : Slot} {inside : List TypeId}
    {candidates : List Candidate} {position : Nat} {budget left : Budget}
    {members : List (ParamNode × TypeId)} :
    ClassifiesMembers types slot inside candidates position budget members left →
      1 ≤ left.remaining → (members ≠ [] → 2 ≤ left.remaining) →
      ClassifiesMembers types slot inside candidates position (budget.raised units) members
        (left.raised units)
  | .done, _, _ => .done
  | .absent hnode hrest, hleft, hfull => by
    have hspent := hrest.spends.1.remaining_le hleft
    have hinside : 1 ≤ budget.remaining := Int.le_trans hleft hspent
    rw [← hnode.spends.2 rfl] at hinside
    exact .absent (hnode.raise hinside) (hrest.raise hleft hfull)
  | .present hnode hrest, hleft, hfull => by
    have hunits := hfull (by simp)
    have hspent := hrest.spends.1.remaining_le hleft
    have hinside := Spare.of_two_le (Int.le_trans hunits hspent)
    exact .present (hnode.raise (hinside _)) (hrest.raise hleft fun _ => hunits)

end

end Raise

/-! ## Parameters -/

/-- A parameter of whose budget at least two units are left is classified in the same way with every
larger budget: it has the same node, or none both times, and just the difference is left in
addition. -/
theorem classify_eq_ok_of_le {types : TypeGraph} {type : TypeId} {position : Int} {N M : Int}
    {name : String} {required : Bool} {description : Option String} {node : Option ParamNode}
    {left : Budget}
    (hrun : classify types type position ⟨N⟩ name required description = .ok (node, left))
    (hleft : 2 ≤ left.remaining) (hle : N ≤ M) :
    classify types type position ⟨M⟩ name required description =
      .ok (node, ⟨left.remaining + (M - N)⟩) := by
  obtain ⟨units, hunits⟩ := Int.eq_ofNat_of_zero_le (Int.sub_nonneg.2 hle)
  rw [classify_eq_ok_iff] at hrun ⊢
  obtain ⟨hname, hderivation⟩ := hrun
  have hraised := hderivation.raise units (.of_two_le hleft node)
  have hbudget : (⟨M⟩ : Budget) = Budget.raised ⟨N⟩ units := by
    rw [Budget.raised, Budget.mk.injEq]
    show M = N + units
    omega
  rw [hbudget, hunits]
  exact ⟨hname, hraised⟩

/-- A server with a host, a port that may be left out, and a server that stands by. The union for
the latter has a second member that has nothing to offer. -/
def serverTypes : TypeGraph where
  descriptors := #[
    { TypeDescriptor.ofKind .record (some "Server") with
      fields := [⟨"host", 1, false, false, none⟩, ⟨"port", 2, false, false, none⟩,
        ⟨"standby", 3, true, false, none⟩] },
    TypeDescriptor.ofKind .string none,
    { TypeDescriptor.ofKind .union none with members := [4, 5] },
    { TypeDescriptor.ofKind .union none with members := [6, 7] },
    TypeDescriptor.ofKind .int none,
    TypeDescriptor.ofKind .nil none,
    { TypeDescriptor.ofKind .record (some "Standby") with
      fields := [⟨"host", 1, false, false, none⟩] },
    { TypeDescriptor.ofKind .union none with members := [5] }]

theorem classify_eq_ok_of_le_server :
    ∃ node left,
      classify serverTypes 0 0 ⟨6⟩ "server" true none = .ok (node, left) ∧
      2 ≤ left.remaining ∧ (6 : Int) ≤ 200 ∧
      classify serverTypes 0 0 ⟨200⟩ "server" true none =
        .ok (node, ⟨left.remaining + (200 - 6)⟩) := by
  have hnamed : FieldsNamed serverTypes := by decide
  have hname : "server" ≠ "" := by decide
  obtain ⟨node, left, hrun⟩ := exists_classify hnamed 0 0 ⟨6⟩ hname true none
  -- host, port, standby and the host of the standby are paid
  have hspent : (classify serverTypes 0 0 ⟨6⟩ "server" true none).map Prod.snd = .ok ⟨2⟩ := rfl
  have hleft : 2 ≤ left.remaining := by
    rw [hrun] at hspent
    cases hspent
    decide
  exact ⟨node, left, hrun, hleft, by decide, classify_eq_ok_of_le hrun hleft (by decide)⟩

end SignatureForms
