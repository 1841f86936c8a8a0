import SignatureForms.Proofs.Artifact.OperationNames
import SignatureForms.Proofs.ParamTree.Representation

/-!
# Conservation of operations

Nothing is lost and nothing is made up when a client is generated: each of its operations either has
an artifact and an entry in the report that names it, or an entry that says why it is skipped. Which
of the two it is, is decided by its parameters alone.

The module introduces:

* `op.skipped? types fieldBudget` — the entry of an operation that is skipped;
* `artifact.included` — the entry of an operation that is offered;
* `Settles types settings ops artifacts report next` — the operations are split into the artifacts
  and the skipped entries, and the report has grown by both;
* `made.Conserves types settings client` — so are all operations of a client.

## Main results

* `Settles.append`: operations can be settled one after the other;
* `generateOperations_settles`, `generateClient_conserves`: the operations of a client are settled;
* `operations_conserved`: so are those of a module, whose report has one row for each of them.
-/

namespace SignatureForms

/-! ## Entries of the report -/

/-- The entry of an operation that is skipped: it names the first parameter that blocks it. -/
def Operation.skipped? (types : TypeGraph) (fieldBudget : Int) (op : Operation) :
    Option SkippedOperation :=
  (op.blocker? types fieldBudget).map fun p =>
    ⟨op.name, unsupportedParameterType, p.name ++ " (" ++ (types.kind p.type).name ++ ")"⟩

/-- The entry of an operation that has an artifact. -/
def OperationArtifact.included (a : OperationArtifact) : IncludedOperation :=
  ⟨a.operation.name, a.name, a.operation.kind.name⟩

/-- There is an entry for a skipped operation just if the operation is blocked. -/
theorem isSome_skipped? (types : TypeGraph) (fieldBudget : Int) (op : Operation) :
    (op.skipped? types fieldBudget).isSome = op.isBlocked types fieldBudget := by
  rw [Operation.skipped?, Option.isSome_map, isBlocked_eq_isSome]

/-- As many operations are skipped as are blocked. -/
theorem length_filterMap_skipped? (types : TypeGraph) (fieldBudget : Int) (ops : List Operation) :
    (ops.filterMap fun op => op.skipped? types fieldBudget).length =
      (ops.filter fun op => op.isBlocked types fieldBudget).length := by
  rw [List.length_filterMap_eq_countP, List.countP_eq_length_filter]
  simp only [isSome_skipped?]

/-! ## Settling operations -/

/-- The operations are split into the artifacts of those that are not blocked and the entries of
those that are skipped, each in order, and the report has grown by both. -/
structure Settles (types : TypeGraph) (settings : Settings) (ops : List Operation)
    (artifacts : List OperationArtifact) (report next : ClientReport) : Prop where
  /-- There is an artifact for each operation that is not blocked. -/
  operations : artifacts.map OperationArtifact.operation =
    ops.filter fun op => !op.isBlocked types settings.fieldBudget
  /-- An artifact has the trees of its operation. -/
  params : ∀ a ∈ artifacts,
    classifyOperation types a.operation settings.fieldBudget = .ok (.ok a.params)
  /-- The report tells of both. -/
  report : next = { report with
    included := report.included ++ artifacts.map OperationArtifact.included
    skipped := report.skipped ++ ops.filterMap fun op => op.skipped? types settings.fieldBudget }

section Settling

variable {types : TypeGraph} {settings : Settings} {report middle next : ClientReport}

theorem Settles.nil (types : TypeGraph) (settings : Settings) (report : ClientReport) :
    Settles types settings [] [] report report where
  operations := rfl
  params a ha := absurd ha List.not_mem_nil
  report := by simp only [List.map_nil, List.filterMap_nil, List.append_nil]

/-- Operations can be settled one after the other. -/
theorem Settles.append {ops others : List Operation} {artifacts more : List OperationArtifact}
    (h : Settles types settings ops artifacts report middle)
    (hothers : Settles types settings others more middle next) :
    Settles types settings (ops ++ others) (artifacts ++ more) report next where
  operations := by rw [List.map_append, List.filter_append, h.operations, hothers.operations]
  params := by
    intro a ha
    rcases List.mem_append.1 ha with ha | ha
    · exact h.params a ha
    · exact hothers.params a ha
  report := by
    rw [hothers.report, h.report]
    simp only [List.map_append, List.filterMap_append, List.append_assoc]

/-- An operation that is skipped is settled by its entry. -/
theorem Settles.skip {op : Operation} {skip : Skip}
    (h : classifyOperation types op settings.fieldBudget = .ok (.error skip)) :
    Settles types settings [op] [] report (report.skipOperation op skip) := by
  obtain ⟨p, hblocker, rfl⟩ := exists_blocker_of_classifyOperation h
  have hblocked : op.isBlocked types settings.fieldBudget = true := by
    rw [isBlocked_eq_isSome, hblocker, Option.isSome_some]
  have hentry : op.skipped? types settings.fieldBudget = some ⟨op.name, unsupportedParameterType,
      p.name ++ " (" ++ (types.kind p.type).name ++ ")"⟩ := by
    rw [Operation.skipped?, hblocker, Option.map_some]
  constructor
  · rw [List.filter_cons_of_neg (by simp [hblocked])]
    rfl
  · intro a ha
    exact absurd ha List.not_mem_nil
  · rw [List.filterMap_cons_some hentry, List.map_nil, List.append_nil]
    rfl

/-- An operation that is not skipped is settled by its artifact. -/
theorem Settles.include {op : Operation} {params : List ParamNode} {artifact : OperationArtifact}
    (h : classifyOperation types op settings.fieldBudget = .ok (.ok params))
    (hoperation : artifact.operation = op) (hparams : artifact.params = params) :
    Settles types settings [op] [artifact] report
      (report.include op.name artifact.name op.kind.name) := by
  subst hoperation hparams
  obtain ⟨hblocker, -⟩ := representedBy_of_classifyOperation h
  have hfree : artifact.operation.isBlocked types settings.fieldBudget = false := by
    rw [isBlocked_eq_isSome, hblocker, Option.isSome_none]
  have hentry : artifact.operation.skipped? types settings.fieldBudget = none := by
    rw [Operation.skipped?, hblocker, Option.map_none]
  constructor
  · rw [List.filter_cons_of_pos (by simp [hfree])]
    rfl
  · intro a ha
    rw [List.mem_singleton.1 ha, h]
  · rw [List.filterMap_cons_none hentry, List.filterMap_nil, List.append_nil]
    rfl

/-- The init operation of a client is settled, and its artifact has the name of the connection. -/
theorem generateInit_settles {connection : String} {op : Operation}
    {artifact : Option OperationArtifact}
    (h : generateInit types settings connection op report = .ok (artifact, next)) :
    Settles types settings [op] artifact.toList report next ∧
      ∀ a ∈ artifact, a.name = connection := by
  simp only [generateInit, bind_eq_ok_iff] at h
  obtain ⟨outcome, hclassified, h⟩ := h
  cases outcome with
  | error skip =>
    cases h
    refine ⟨.skip hclassified, fun a ha => ?_⟩
    cases ha
  | ok params =>
    simp only [bind_eq_ok_iff, pure_eq_ok_iff, Prod.mk.injEq] at h
    obtain ⟨made, hmade, rfl, rfl⟩ := h
    obtain ⟨hoperation, hparams, rfl⟩ := connectionArtifact_eq_ok hmade
    refine ⟨.include hclassified hoperation hparams, ?_⟩
    rintro _ ⟨⟩
    rfl

/-- Any other operation is settled, whatever names are taken. -/
theorem generateOperation_settles {op : Operation} {names left : Naming.Registry}
    {artifact : Option OperationArtifact}
    (h : generateOperation types settings op names report = .ok (artifact, left, next)) :
    Settles types settings [op] artifact.toList report next := by
  simp only [generateOperation, bind_eq_ok_iff] at h
  obtain ⟨outcome, hclassified, h⟩ := h
  cases outcome with
  | error skip =>
    cases h
    exact .skip hclassified
  | ok params =>
    simp only [bind_eq_ok_iff, pure_eq_ok_iff, Prod.mk.injEq] at h
    obtain ⟨made, hmade, rfl, -, rfl⟩ := h
    obtain ⟨hoperation, hparams, hname⟩ := operationArtifact_eq_ok hmade
    rw [← hname]
    exact .include hclassified hoperation hparams

/-- Operations that are generated one after the other are settled. -/
theorem generateOperations_settles {client : String} {ops : List Operation}
    {names : Naming.Registry} {artifacts : List OperationArtifact}
    (h : (generateOperations types settings client ops names report).outcome =
      .ok (artifacts, next)) :
    Settles types settings ops artifacts report next := by
  induction ops generalizing names report artifacts with
  | nil =>
    rw [generateOperations, Run.outcome_pure_eq_ok_iff] at h
    cases h
    exact .nil types settings _
  | cons op rest ih =>
    simp only [generateOperations, Run.outcome_bind_eq_ok_iff, Run.outcome_pure_eq_ok_iff] at h
    obtain ⟨⟨artifact, left, middle⟩, hop, ⟨others, last⟩, hrest, heq⟩ := h
    cases heq
    exact (generateOperation_settles hop).append (ih hrest)

end Settling

/-! ## Clients and modules -/

/-- The operations of a client, its init operation first. -/
def Client.allOperations (client : Client) : List Operation :=
  client.init.toList ++ client.operations

/-- The artifacts of a client, that of its init operation first. -/
def ClientArtifacts.allArtifacts (made : ClientArtifacts) : List OperationArtifact :=
  made.init.toList ++ made.operations

/-- What is generated for a client holds each of its operations once: as an artifact if no parameter
blocks it, and as a skipped entry of the report otherwise. -/
structure ClientArtifacts.Conserves (types : TypeGraph) (settings : Settings) (client : Client)
    (made : ClientArtifacts) : Prop where
  /-- What is generated belongs to this client. -/
  source : made.client = client
  /-- There is an artifact for the init operation if it is not blocked. -/
  init : made.init.toList.map OperationArtifact.operation =
    client.init.toList.filter fun op => !op.isBlocked types settings.fieldBudget
  /-- The artifact of the init operation has the name of the connection. -/
  connection : ∀ a ∈ made.init,
    a.name = Naming.orElse (settings.connectionType.getD "") client.connectionType
  /-- There is an artifact for each other operation that is not blocked, in order. -/
  operations : made.operations.map OperationArtifact.operation =
    client.operations.filter fun op => !op.isBlocked types settings.fieldBudget
  /-- Each artifact has the trees of its operation, which are those of all its parameters that have
  one. -/
  params : ∀ a ∈ made.allArtifacts,
    classifyOperation types a.operation settings.fieldBudget = .ok (.ok a.params) ∧
      a.operation.RepresentedBy types settings.fieldBudget a.params
  /-- The report names each operation that has an artifact, and gives a reason for each other. -/
  report : made.report = {
    client := client.name
    connectionType := some (Naming.orElse (settings.connectionType.getD "") client.connectionType)
    included := made.allArtifacts.map OperationArtifact.included
    skipped := client.allOperations.filterMap fun op => op.skipped? types settings.fieldBudget }

section Modules

variable {types : TypeGraph} {settings : Settings}

/-- The init operation of a client is settled, if it has one, and then the others are. -/
theorem generateClient_conserves {client : Client} {made : ClientArtifacts}
    (h : (generateClient types settings client).outcome = .ok made) :
    made.Conserves types settings client := by
  -- a client without an init operation settles none before the others
  obtain ⟨middle, hinit, hconnection, hoperations, hclient⟩ : ∃ middle,
      Settles types settings client.init.toList made.init.toList
        (.start client.name
          (some (Naming.orElse (settings.connectionType.getD "") client.connectionType))) middle ∧
      (∀ a ∈ made.init,
        a.name = Naming.orElse (settings.connectionType.getD "") client.connectionType) ∧
      Settles types settings client.operations made.operations middle made.report ∧
      made.client = client := by
    rw [generateClient] at h
    cases hinit : client.init with
    | none =>
      simp only [hinit, Run.outcome_bind_eq_ok_iff, Run.outcome_pure_eq_ok_iff] at h
      obtain ⟨_, rfl, ⟨operations, last⟩, hoperations, rfl⟩ := h
      refine ⟨_, .nil types settings _, fun a ha => ?_, generateOperations_settles hoperations, rfl⟩
      cases ha
    | some op =>
      simp only [hinit, Run.outcome_bind_eq_ok_iff, Run.outcome_pure_eq_ok_iff] at h
      obtain ⟨⟨init, middle⟩, hstep, ⟨operations, last⟩, hoperations, rfl⟩ := h
      obtain ⟨hsettles, hname⟩ := generateInit_settles hstep
      exact ⟨middle, hsettles, hname, generateOperations_settles hoperations, rfl⟩
  have hall := hinit.append hoperations
  refine ⟨hclient, hinit.operations, hconnection, hoperations.operations, fun a ha => ?_, ?_⟩
  · have hparams := hall.params a ha
    exact ⟨hparams, (representedBy_of_classifyOperation hparams).2⟩
  · exact hall.report

/-- Clients are generated one after the other. -/
theorem generateClients_conserves {clients : List Client} {made : List ClientArtifacts}
    (h : (generateClients types settings clients).outcome = .ok made) :
    List.Forall₂ (ClientArtifacts.Conserves types settings) clients made := by
  induction clients generalizing made with
  | nil =>
    rw [generateClients, Run.outcome_pure_eq_ok_iff] at h
    subst h
    exact .nil
  | cons client rest ih =>
    simp only [generateClients, Run.outcome_bind_eq_ok_iff, Run.outcome_pure_eq_ok_iff] at h
    obtain ⟨first, hfirst, others, hothers, rfl⟩ := h
    exact .cons (generateClient_conserves hfirst) (ih hothers)

/-- A module is generated client by client. -/
theorem generateWith_conserves {module : Module} {made : ModuleArtifacts}
    (h : (generateWith module settings).outcome = .ok made) :
    made.report = ⟨module.name, module.org, module.version,
        made.clients.map ClientArtifacts.report⟩ ∧
      List.Forall₂ (ClientArtifacts.Conserves module.types (settings.withModuleName module.name))
        module.clients made.clients := by
  simp only [generateWith, Run.outcome_bind_eq_ok_iff, Run.outcome_pure_eq_ok_iff] at h
  obtain ⟨clients, hclients, rfl⟩ := h
  exact ⟨rfl, generateClients_conserves hclients⟩

/-- The report on a client has one row for each operation of the client. -/
theorem ClientArtifacts.Conserves.length_rows {client : Client} {made : ClientArtifacts}
    (h : made.Conserves types settings client) :
    made.report.rows.length = client.allOperations.length := by
  have hoffered : made.allArtifacts.map OperationArtifact.operation =
      client.allOperations.filter fun op => !op.isBlocked types settings.fieldBudget := by
    rw [ClientArtifacts.allArtifacts, List.map_append, h.init, h.operations, Client.allOperations,
      List.filter_append]
  have hlength := congrArg List.length hoffered
  have hsplit := client.allOperations.length_eq_length_filter_add
    fun op => op.isBlocked types settings.fieldBudget
  rw [List.length_map] at hlength
  rw [h.report, ClientReport.rows, List.length_append, List.length_map, List.length_map,
    List.length_map, length_filterMap_skipped?, hlength, hsplit, Nat.add_comm]

/-- The report on clients has one row for each operation of theirs. -/
theorem length_rows_of_forall₂ {clients : List Client} {made : List ClientArtifacts}
    (h : List.Forall₂ (ClientArtifacts.Conserves types settings) clients made) :
    (made.flatMap fun made => made.report.rows).length =
      (clients.flatMap Client.allOperations).length := by
  induction h with
  | nil => rfl
  | cons hfirst _ ih =>
    rw [List.flatMap_cons, List.flatMap_cons, List.length_append, List.length_append,
      hfirst.length_rows, ih]

end Modules

/-- Operations are conserved. Each operation of a client that is generated, the init operation too,
has an artifact unless some parameter that is required cannot be represented, and a skipped entry in
the report if there is such a parameter. It makes no difference to the trees of an operation if
parameters that are not required and cannot be represented are left out. The report on a module has
the rows of its clients, those of included operations first, which are as many as there are included
and skipped operations, and as there are operations. -/
theorem operations_conserved :
    (∀ types settings client made, (generateClient types settings client).outcome = .ok made →
      made.Conserves types settings client) ∧
    (∀ types fieldBudget op kept, Thins types fieldBudget op.params kept →
      classifyOperation types { op with params := kept } fieldBudget =
        classifyOperation types op fieldBudget) ∧
    ∀ module settings made, (generateWith module settings).outcome = .ok made →
      List.Forall₂
        (ClientArtifacts.Conserves module.types (settings.withModuleName module.name))
        module.clients made.clients ∧
      made.report.rows = (made.clients.flatMap fun made =>
        made.report.included.map (·.row made.report) ++
          made.report.skipped.map (·.row made.report)) ∧
      made.report.rows.length = made.report.includedCount + made.report.skippedCount ∧
      made.report.rows.length = (module.clients.flatMap Client.allOperations).length := by
  refine ⟨fun _ _ _ _ => generateClient_conserves, fun _ _ _ _ => classifyOperation_thins,
    fun module settings made h => ?_⟩
  obtain ⟨hreport, hconserves⟩ := generateWith_conserves h
  have hrows : made.report.rows = made.clients.flatMap fun made => made.report.rows := by
    rw [hreport, GenerationReport.rows, List.flatMap_map]
  exact ⟨hconserves, hrows, GenerationReport.length_rows _,
    (congrArg List.length hrows).trans (length_rows_of_forall₂ hconserves)⟩

/-- An operation with the given parameters and one more that may be left out of a call and has no
tree. -/
def searchOperation (params : List Parameter) : Operation where
  name := "search"
  kind := .remote
  params := params ++ [⟨"sink", 1, true, none, none⟩]
  operationId := none
  path := []
  returns := none
  doc := ""

/-- A module with one client. Of its operations one is skipped, since it has to be given something
that has no tree; another one is offered without the parameter that has none. -/
def searchModule : Module where
  name := "desk"
  org := ""
  version := ""
  config := []
  types := ⟨#[TypeDescriptor.ofKind .string none, TypeDescriptor.ofKind (.other "stream") none]⟩
  clients := [{
    name := "Desk", connectionType := "rpc"
    init := some { searchOperation [] with name := "init", kind := .init }
    operations := [
      { searchOperation [⟨"source", 1, false, none, none⟩] with name := "watch" },
      searchOperation [⟨"query", 0, false, none, none⟩]] }]

theorem operations_conserved_search :
    (∃ made, (generateWith searchModule .default).outcome = .ok made ∧
      made.report.rows.map (fun row => (row.status, row.operation, row.reason)) =
        [("included", "init", ""), ("included", "search", ""),
          ("skipped", "watch", "unsupported parameter type: source (stream)")] ∧
      made.report.rows.length = (searchModule.clients.flatMap Client.allOperations).length) ∧
    (∃ client ∈ searchModule.clients, ∃ made,
      (generateClient searchModule.types .default client).outcome = .ok made ∧
        made.Conserves searchModule.types .default client) ∧
    classifyOperation searchModule.types
        { searchOperation [⟨"query", 0, false, none, none⟩] with
          params := [⟨"query", 0, false, none, none⟩] } 40 =
      classifyOperation searchModule.types
        (searchOperation [⟨"query", 0, false, none, none⟩]) 40 := by
  refine ⟨?_, ?_, ?_⟩
  · obtain ⟨made, hmade, hrows⟩ : ∃ made,
        (generateWith searchModule .default).outcome = .ok made ∧
          made.report.rows.map (fun row => (row.status, row.operation, row.reason)) =
            [("included", "init", ""), ("included", "search", ""),
              ("skipped", "watch", "unsupported parameter type: source (stream)")] :=
      ⟨_, rfl, rfl⟩
    exact ⟨made, hmade, hrows, (operations_conserved.2.2 searchModule .default made hmade).2.2.2⟩
  · obtain ⟨made, hmade⟩ : ∃ made, (generateClient searchModule.types .default
        (searchModule.clients.head (by decide))).outcome = .ok made := ⟨_, rfl⟩
    exact ⟨_, List.head_mem _, made, hmade, operations_conserved.1 _ _ _ made hmade⟩
  · exact operations_conserved.2.1 _ _ (searchOperation [⟨"query", 0, false, none, none⟩]) _
      (.keep _ (.drop rfl rfl .nil))

end SignatureForms
