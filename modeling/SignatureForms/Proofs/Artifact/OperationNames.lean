import SignatureForms.Artifact.Module
import SignatureForms.Proofs.Naming.Reservations
import SignatureForms.Proofs.Steps

/-!
# Names of the operations of a client

All operations of a client that are not skipped ask one registry for their names, in order. Their
artifacts are written to files of these names, so of two that are given the same name one overwrites
the other.

The module introduces:

* `isOffered types settings op` — the operation is classified and not skipped;
* `requestedNames types settings ops` — the names that the operations ask for.

## Main results

* `names_of_generateOperations`: the operations of a client have the names that the registry gives;
* `operationNames_nodup_iff`: these names differ just if the numbers in the requested ones are
  apart.
-/

namespace SignatureForms

variable {types : TypeGraph} {settings : Settings}

/-- The operation is classified and not skipped. -/
def isOffered (types : TypeGraph) (settings : Settings) (op : Operation) : Bool :=
  match classifyOperation types op settings.fieldBudget with
  | .ok (.ok _) => true
  | _ => false

/-- The names that operations ask for, those that are skipped asking for none. -/
def requestedNames (types : TypeGraph) (settings : Settings) (ops : List Operation) :
    List String :=
  (ops.filter (isOffered types settings)).map (requestedName types settings)

/-- The artifact of an operation is made from it and its trees, under the given name. -/
theorem operationArtifact_eq_ok {op : Operation} {params : List ParamNode} {name : String}
    {artifact : OperationArtifact}
    (h : operationArtifact settings op params name = .ok artifact) :
    artifact.operation = op ∧ artifact.params = params ∧ artifact.name = name := by
  simp only [operationArtifact, bind_eq_ok_iff, pure_eq_ok_iff] at h
  obtain ⟨_, -, ⟨_, _⟩, -, _, -, rfl⟩ := h
  exact ⟨rfl, rfl, rfl⟩

/-- The artifact of an init operation is made from it and its trees, under the name of the
connection. -/
theorem connectionArtifact_eq_ok {op : Operation} {params : List ParamNode} {connection : String}
    {artifact : OperationArtifact}
    (h : connectionArtifact settings op params connection = .ok artifact) :
    artifact.operation = op ∧ artifact.params = params ∧ artifact.name = connection := by
  simp only [connectionArtifact, bind_eq_ok_iff, pure_eq_ok_iff] at h
  obtain ⟨_, -, ⟨_, _⟩, -, _, -, rfl⟩ := h
  exact ⟨rfl, rfl, rfl⟩

/-- An operation that is skipped has no artifact and asks for no name; any other has one with the
name that the registry gives. -/
theorem generateOperation_eq_ok {op : Operation} {names left : Naming.Registry}
    {report next : ClientReport} {artifact : Option OperationArtifact}
    (h : generateOperation types settings op names report = .ok (artifact, left, next)) :
    if isOffered types settings op then
      artifact.toList.map OperationArtifact.name =
          [(names.reserve (requestedName types settings op)).1] ∧
        left = (names.reserve (requestedName types settings op)).2
    else artifact = none ∧ left = names := by
  simp only [generateOperation, bind_eq_ok_iff] at h
  obtain ⟨outcome, hclassified, h⟩ := h
  rw [isOffered, hclassified]
  cases outcome with
  | error skip =>
    cases h
    exact ⟨rfl, rfl⟩
  | ok params =>
    simp only [bind_eq_ok_iff, pure_eq_ok_iff, Prod.mk.injEq] at h
    obtain ⟨found, hfound, rfl, rfl, -⟩ := h
    obtain ⟨-, -, hname⟩ := operationArtifact_eq_ok hfound
    exact ⟨by rw [Option.toList_some, List.map_singleton, hname], rfl⟩

/-- The operations of a client have the names that the registry gives for the requested ones. -/
theorem names_of_generateOperations {client : String} {ops : List Operation}
    {names : Naming.Registry} {report last : ClientReport}
    {artifacts : List OperationArtifact}
    (h : (generateOperations types settings client ops names report).outcome =
      .ok (artifacts, last)) :
    artifacts.map OperationArtifact.name =
      names.reserveAll (requestedNames types settings ops) := by
  induction ops generalizing names report artifacts with
  | nil =>
    rw [generateOperations, Run.outcome_pure_eq_ok_iff] at h
    cases h
    rfl
  | cons op rest ih =>
    simp only [generateOperations, Run.outcome_bind_eq_ok_iff, Run.outcome_pure_eq_ok_iff] at h
    obtain ⟨⟨artifact, left, next⟩, hop, ⟨others, _⟩, hrest, heq⟩ := h
    cases heq
    have hstep := generateOperation_eq_ok hop
    rw [List.map_append, ih hrest, requestedNames, requestedNames]
    split at hstep
    · next hoffered =>
      obtain ⟨hname, rfl⟩ := hstep
      rw [hname, List.filter_cons_of_pos hoffered, List.map_cons, Naming.Registry.reserveAll]
      rfl
    · next hskipped =>
      obtain ⟨rfl, rfl⟩ := hstep
      rw [List.filter_cons_of_neg hskipped]
      rfl

/-- A client is generated by generating its operations with an empty registry. -/
theorem exists_generateOperations_of_generateClient {client : Client}
    {artifacts : ClientArtifacts}
    (h : (generateClient types settings client).outcome = .ok artifacts) :
    ∃ report last, (generateOperations types settings client.name client.operations .empty
      report).outcome = .ok (artifacts.operations, last) := by
  rw [generateClient] at h
  -- the init operation has no part in the names of the others
  cases hinit : client.init with
  | none =>
    simp only [hinit, Run.outcome_bind_eq_ok_iff, Run.outcome_pure_eq_ok_iff] at h
    obtain ⟨_, -, ⟨operations, last⟩, hoperations, rfl⟩ := h
    exact ⟨_, last, hoperations⟩
  | some op =>
    simp only [hinit, Run.outcome_bind_eq_ok_iff, Run.outcome_pure_eq_ok_iff] at h
    obtain ⟨_, -, ⟨operations, last⟩, hoperations, rfl⟩ := h
    exact ⟨_, last, hoperations⟩

/-- A registry gives different names to a run of requests just if the numbers in them are apart: no
requested name is another one with a number that this gets. So the operations of a client have
different names just if this holds of the names that they ask for. -/
theorem operationNames_nodup_iff (types : TypeGraph) (settings : Settings) :
    (∀ requests, (Naming.Registry.empty.reserveAll requests).Nodup ↔
      Naming.NumbersApart requests) ∧
    ∀ client artifacts, (generateClient types settings client).outcome = .ok artifacts →
      ((artifacts.operations.map OperationArtifact.name).Nodup ↔
        Naming.NumbersApart (requestedNames types settings client.operations)) := by
  refine ⟨Naming.Registry.reserveAll_nodup_iff, fun client artifacts hrun => ?_⟩
  obtain ⟨report, last, hoperations⟩ := exists_generateOperations_of_generateClient hrun
  rw [names_of_generateOperations hoperations]
  exact Naming.Registry.reserveAll_nodup_iff _

/-- A client whose operations have the given names and no parameters. -/
def plainClient (names : List String) : Client where
  name := "Mail"
  connectionType := "mail"
  operations := names.map fun name =>
    { name, kind := .remote, params := [], operationId := none, path := [], returns := none
      doc := "" }
  init := none

theorem operationNames_nodup_list :
    ∃ artifacts, (generateClient .empty .default
        (plainClient ["list", "read", "list", "list2"])).outcome = .ok artifacts ∧
      (artifacts.operations.map OperationArtifact.name).Nodup := by
  obtain ⟨artifacts, hrun⟩ : ∃ artifacts, (generateClient .empty .default
      (plainClient ["list", "read", "list", "list2"])).outcome = .ok artifacts := ⟨_, rfl⟩
  exact ⟨artifacts, hrun, ((operationNames_nodup_iff .empty .default).2 _ _ hrun).2 (by decide)⟩

/-- A name that is given with a number is given once more where it is asked for as it is. -/
theorem operationNames_collide :
    Naming.Registry.empty.reserveAll ["list", "list", "list1"] = ["list", "list1", "list1"] ∧
    ∃ artifacts, (generateClient .empty .default (plainClient ["list", "list", "list1"])).outcome =
        .ok artifacts ∧
      artifacts.operations.map OperationArtifact.name = ["list", "list1", "list1"] ∧
      ¬ (artifacts.operations.map OperationArtifact.name).Nodup := by
  refine ⟨by decide, _, rfl, ?_⟩
  decide

end SignatureForms
