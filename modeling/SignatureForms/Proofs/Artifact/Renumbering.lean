import SignatureForms.Artifact.Files
import SignatureForms.Proofs.ParamTree.Renumbering

/-!
# Generation and the numbers of types

The numbers of types are kept in what is generated only where a declaration is repeated: an
artifact holds its operation, and the parameters and the result of an operation are types. All that
is computed, from the parameter trees and the names of operations to the report and the announced
steps, is the same whatever the numbers are.

The module introduces:

* `Operation.renumber ρ`, `Client.renumber ρ`, `ModuleArtifacts.renumber ρ types` — declarations
  and artifacts whose types are changed by `ρ`;
* `m.Renumbers ρ m'` — `m'` is the module `m` with its types under other numbers;
* `run.Renumbers ρ types run'` — `run'` does what `run` does, but for the numbers of types.

## Main results

* `Naming.resolveName_renumber`, `classifyOperation_renumber`: the name and the parameter trees of
  an operation are the same;
* `generateWith_renumber`, `generate_renumber`: what is generated is the same but for the numbers,
  with the same steps announced, and what fails does so with the same fault;
* `Run.renumbers_map`: so the reports and the files are the same.
-/

namespace SignatureForms

/-! ## Renumbered declarations -/

/-- The parameter with its type under another number. -/
def Parameter.renumber (ρ : TypeId → TypeId) (p : Parameter) : Parameter :=
  { p with type := ρ p.type }

/-- The operation with its types under other numbers. -/
def Operation.renumber (ρ : TypeId → TypeId) (op : Operation) : Operation :=
  { op with params := op.params.map (Parameter.renumber ρ), returns := op.returns.map ρ }

/-- The client with the types of its operations under other numbers. -/
def Client.renumber (ρ : TypeId → TypeId) (client : Client) : Client :=
  { client with
    operations := client.operations.map (Operation.renumber ρ)
    init := client.init.map (Operation.renumber ρ) }

/-- The second module is the first one with its types under other numbers. -/
structure Module.Renumbers (m : Module) (ρ : TypeId → TypeId) (m' : Module) : Prop where
  /-- The types are the same under other numbers. -/
  types : m.types.Renumbers ρ m'.types
  /-- Apart from the types, the modules differ in the numbers only. -/
  eq : m' = { m with clients := m.clients.map (Client.renumber ρ), types := m'.types }

/-! ## Names -/

section Names

variable {types types' : TypeGraph} {ρ : TypeId → TypeId} (h : types.Renumbers ρ types')

include h

theorem Naming.returnTypeName_renumber (returns : Option TypeId) :
    returnTypeName types' (returns.map ρ) = returnTypeName types returns := by
  cases returns with
  | none => rfl
  | some id =>
    have hname (member : TypeId) :
        (types'.descriptor (ρ member)).displayName = (types.descriptor member).displayName := by
      rw [h.descriptor_eq, TypeDescriptor.displayName_renumber]
    have hmembers : (types'.descriptor (ρ id)).members = (types.descriptor id).members.map ρ := by
      rw [h.descriptor_eq]
      rfl
    have hkind : (types'.descriptor (ρ id)).kind = (types.descriptor id).kind := h.kind_eq id
    simp only [returnTypeName, Option.map_some, hkind, hname, hmembers, List.find?_map,
      Option.bind_map, Function.comp_def, h.kind_eq]

theorem Naming.parameterHint_renumber (params : List Parameter) :
    parameterHint types' (params.map (Parameter.renumber ρ)) = parameterHint types params := by
  induction params with
  | nil => rfl
  | cons p rest ih =>
    have hname : (types'.descriptor (p.renumber ρ).type).displayName =
        (types.descriptor p.type).displayName := by
      show (types'.descriptor (ρ p.type)).displayName = _
      rw [h.descriptor_eq, TypeDescriptor.displayName_renumber]
    simp only [List.map_cons, parameterHint, hname, ih]

/-- An operation has the same name with its types under other numbers. -/
theorem Naming.resolveName_renumber (op : Operation) :
    resolveName types' (op.renumber ρ) = resolveName types op := by
  have hstrategy (s : Strategy) : s.name? types' (op.renumber ρ) = s.name? types op := by
    cases s with
    | operationId => rfl
    | pathSegments => rfl
    | signature =>
      have hhint := parameterHint_renumber h op.params
      have hreturns := returnTypeName_renumber h op.returns
      simp only [Strategy.name?, nameOfSignature, Operation.renumber, hhint, hreturns]
      rfl
  simp only [resolveName, resolveName?, funext hstrategy]
  rfl

end Names

/-! ## Parameter trees -/

section Operations

variable {types types' : TypeGraph} {ρ : TypeId → TypeId} (h : types.Renumbers ρ types')

include h

theorem classifyParameter_renumber (p : Parameter) (position fieldBudget : Int) :
    classifyParameter types' (p.renumber ρ) position fieldBudget =
      classifyParameter types p position fieldBudget := by
  have hclassify := classify_renumber h p.type position ⟨fieldBudget⟩ p.name p.isRequired p.doc
  unfold classifyParameter
  rw [← hclassify]
  rfl

theorem classifyParameters_renumber (fieldBudget : Int) (params : List Parameter)
    (position : Nat) :
    classifyParameters types' fieldBudget (params.map (Parameter.renumber ρ)) position =
      classifyParameters types fieldBudget params position := by
  induction params generalizing position with
  | nil => rfl
  | cons p rest ih =>
    have hkind : types'.kind (p.renumber ρ).type = types.kind p.type := h.kind_eq p.type
    simp only [List.map_cons, classifyParameters, classifyParameter_renumber h, ih, hkind]
    rfl

/-- An operation has the same parameter trees with its types under other numbers, or is skipped for
the same reason. -/
theorem classifyOperation_renumber (op : Operation) (fieldBudget : Int) :
    classifyOperation types' (op.renumber ρ) fieldBudget = classifyOperation types op fieldBudget :=
  classifyParameters_renumber h fieldBudget op.params 0

end Operations

/-! ## Artifacts -/

/-- The artifact with the types of its operation under other numbers. -/
def OperationArtifact.renumber (ρ : TypeId → TypeId) (a : OperationArtifact) : OperationArtifact :=
  { a with operation := a.operation.renumber ρ }

/-- The artifacts of a client with its types under other numbers. -/
def ClientArtifacts.renumber (ρ : TypeId → TypeId) (a : ClientArtifacts) : ClientArtifacts :=
  { a with
    client := a.client.renumber ρ
    init := a.init.map (OperationArtifact.renumber ρ)
    operations := a.operations.map (OperationArtifact.renumber ρ) }

/-- The artifacts of a module with its types under other numbers, in the graph `types`. -/
def ModuleArtifacts.renumber (ρ : TypeId → TypeId) (types : TypeGraph) (a : ModuleArtifacts) :
    ModuleArtifacts :=
  { a with
    module := { a.module with clients := a.module.clients.map (Client.renumber ρ), types }
    clients := a.clients.map (ClientArtifacts.renumber ρ) }

theorem OperationArtifact.files_renumber (ρ : TypeId → TypeId) (a : OperationArtifact)
    (directory before : String) :
    (a.renumber ρ).files directory before = a.files directory before :=
  rfl

theorem ClientArtifacts.files_renumber (ρ : TypeId → TypeId) (several : Bool)
    (a : ClientArtifacts) : (a.renumber ρ).files several = a.files several := by
  have hinit : (a.init.map (OperationArtifact.renumber ρ)).toList =
      a.init.toList.map (OperationArtifact.renumber ρ) := by
    cases a.init <;> rfl
  simp only [files, before, renumber, hinit, List.flatMap_map, OperationArtifact.files_renumber]

/-- The files do not tell the numbers of types. -/
theorem ModuleArtifacts.files_renumber (ρ : TypeId → TypeId) (types : TypeGraph)
    (a : ModuleArtifacts) : (a.renumber ρ types).files = a.files := by
  simp only [files, renumber, List.flatMap_map, List.length_map, ClientArtifacts.files_renumber]

theorem operationArtifact_renumber (ρ : TypeId → TypeId) (settings : Settings) (op : Operation)
    (params : List ParamNode) (name : String) :
    operationArtifact settings (op.renumber ρ) params name =
      OperationArtifact.renumber ρ <$> operationArtifact settings op params name := by
  have htitle : Naming.displayName (op.renumber ρ) name = Naming.displayName op name := rfl
  simp only [operationArtifact, htitle, map_bind, map_pure]
  rfl

theorem connectionArtifact_renumber (ρ : TypeId → TypeId) (settings : Settings) (op : Operation)
    (params : List ParamNode) (connection : String) :
    connectionArtifact settings (op.renumber ρ) params connection =
      OperationArtifact.renumber ρ <$> connectionArtifact settings op params connection := by
  simp only [connectionArtifact, map_bind, map_pure]
  rfl

/-! ## Runs -/

/-- Runs may be bracketed in any way: the steps are announced in the same order. -/
instance : LawfulMonad Run :=
  LawfulMonad.mk' Run
    (fun run => by
      show run.bind pure = run
      rcases run with ⟨events, fault | a⟩ <;> simp [Run.bind, pure])
    (fun a next => by
      show Run.bind ⟨[], .ok a⟩ next = next a
      simp [Run.bind])
    (fun run next after => by
      show (run.bind next).bind after = run.bind fun a => (next a).bind after
      rcases run with ⟨events, fault | a⟩
      · rfl
      · show Run.bind ⟨events ++ (next a).events, (next a).outcome⟩ after = _
        rcases hnext : next a with ⟨more, fault | b⟩ <;> simp [Run.bind, hnext])

namespace Run

variable {α β : Type}

/-- Nothing is announced for a change of the result. -/
theorem events_map (f : α → β) (run : Run α) : (f <$> run).events = run.events := by
  show (run.bind (pure ∘ f)).events = run.events
  rcases run with ⟨events, fault | a⟩ <;> simp [Run.bind, pure]

theorem outcome_map (f : α → β) (run : Run α) : (f <$> run).outcome = f <$> run.outcome := by
  show (run.bind (pure ∘ f)).outcome = _
  rcases run with ⟨events, fault | a⟩ <;> rfl

/-- A step with another result is announced in the same way. -/
theorem step_map (label detail : String) (f : α → β) (outcome : Except Fault α) :
    step label detail (f <$> outcome) = f <$> step label detail outcome := by
  cases outcome <;> rfl

end Run

/-! ## Generation -/

section Generation

variable {types types' : TypeGraph} {ρ : TypeId → TypeId} (h : types.Renumbers ρ types')
  (settings : Settings)

include h

theorem generateInit_renumber (connection : String) (op : Operation) (report : ClientReport) :
    generateInit types' settings connection (op.renumber ρ) report =
      Prod.map (Option.map (OperationArtifact.renumber ρ)) id <$>
        generateInit types settings connection op report := by
  simp only [generateInit, classifyOperation_renumber h]
  rcases classifyOperation types op settings.fieldBudget with fault | skip | params
  · rfl
  · rfl
  · show connectionArtifact settings (op.renumber ρ) params connection >>= _ =
      _ <$> (connectionArtifact settings op params connection >>= _)
    rw [connectionArtifact_renumber, bind_map_left, map_bind]
    rfl

theorem requestedName_renumber (op : Operation) :
    requestedName types' settings (op.renumber ρ) = requestedName types settings op := by
  have hnames : Naming.parameterNames (op.renumber ρ) = Naming.parameterNames op := by
    simp only [Naming.parameterNames, Operation.renumber, List.map_map]
    rfl
  have hclash (name : String) :
      Naming.avoidClash name (op.renumber ρ) = Naming.avoidClash name op := by
    simp only [Naming.avoidClash, hnames]
    rfl
  simp only [requestedName, Naming.resolveName_renumber h, hclash]

theorem generateOperation_renumber (op : Operation) (names : Naming.Registry)
    (report : ClientReport) :
    generateOperation types' settings (op.renumber ρ) names report =
      Prod.map (Option.map (OperationArtifact.renumber ρ)) id <$>
        generateOperation types settings op names report := by
  simp only [generateOperation, classifyOperation_renumber h, requestedName_renumber h]
  rcases classifyOperation types op settings.fieldBudget with fault | skip | params
  · rfl
  · rfl
  · show operationArtifact settings (op.renumber ρ) params _ >>= _ =
      _ <$> (operationArtifact settings op params _ >>= _)
    rw [operationArtifact_renumber, bind_map_left, map_bind]
    rfl

theorem generateOperations_renumber (client : String) (ops : List Operation)
    (names : Naming.Registry) (report : ClientReport) :
    generateOperations types' settings client (ops.map (Operation.renumber ρ)) names report =
      Prod.map (List.map (OperationArtifact.renumber ρ)) id <$>
        generateOperations types settings client ops names report := by
  induction ops generalizing names report with
  | nil => rfl
  | cons op rest ih =>
    simp only [List.map_cons, generateOperations, generateOperation_renumber h, Run.step_map,
      bind_map_left, map_bind, map_pure, ih]
    -- both runs go on with the same names and report, so the artifacts are all that differs
    apply bind_congr
    intro offered
    apply bind_congr
    intro others
    rcases offered with ⟨_ | artifact, names, report⟩ <;> rfl

theorem generateClient_renumber (client : Client) :
    generateClient types' settings (client.renumber ρ) =
      ClientArtifacts.renumber ρ <$> generateClient types settings client := by
  obtain ⟨name, connection, operations, init⟩ := client
  -- without an operation that makes the connection no step is announced for it
  cases init with
  | none =>
    simp only [generateClient, Client.renumber, Option.map_none, generateOperations_renumber h,
      bind_map_left, map_bind, map_pure, pure_bind]
    rfl
  | some op =>
    simp only [generateClient, Client.renumber, Option.map_some, generateOperations_renumber h,
      generateInit_renumber h, Run.step_map, bind_map_left, map_bind, map_pure]
    rfl

theorem generateClients_renumber (clients : List Client) :
    generateClients types' settings (clients.map (Client.renumber ρ)) =
      List.map (ClientArtifacts.renumber ρ) <$> generateClients types settings clients := by
  induction clients with
  | nil => rfl
  | cons client rest ih =>
    simp only [List.map_cons, generateClients, generateClient_renumber h, ih, bind_map_left,
      map_bind, map_pure]

end Generation

/-- What is generated with given settings is the same but for the numbers of types, with the same
steps announced; what fails does so with the same fault. -/
theorem generateWith_renumber {m m' : Module} {ρ : TypeId → TypeId} (h : m.Renumbers ρ m')
    (settings : Settings) :
    generateWith m' settings = ModuleArtifacts.renumber ρ m'.types <$> generateWith m settings := by
  obtain ⟨name, org, version, clients, config, types⟩ := m'
  obtain ⟨htypes, heq⟩ := h
  cases heq
  have hreports (artifacts : List ClientArtifacts) :
      (artifacts.map (ClientArtifacts.renumber ρ)).map ClientArtifacts.report =
        artifacts.map ClientArtifacts.report := by
    rw [List.map_map]
    rfl
  simp only [generateWith, generateClients_renumber htypes, bind_map_left, map_bind, map_pure,
    hreports]
  rfl

/-- What is generated with the settings of the document is the same but for the numbers of types,
with the same steps announced; what fails does so with the same fault. -/
theorem generate_renumber {m m' : Module} {ρ : TypeId → TypeId} (h : m.Renumbers ρ m') :
    generate m' = ModuleArtifacts.renumber ρ m'.types <$> generate m := by
  have hconfig : m'.config = m.config := by rw [h.eq]
  simp only [generate, hconfig, generateWith_renumber h, map_bind]

/-- The second run does what the first one does, but for the numbers of types. -/
structure Run.Renumbers (run : Run ModuleArtifacts) (ρ : TypeId → TypeId) (types : TypeGraph)
    (run' : Run ModuleArtifacts) : Prop where
  /-- Both runs announce the same steps. -/
  events_eq : run'.events = run.events
  /-- The runs end with the same fault, or with the same artifacts but for the numbers. -/
  outcome_eq : run'.outcome = ModuleArtifacts.renumber ρ types <$> run.outcome
  /-- The reports are the same. -/
  report_eq : ModuleArtifacts.report <$> run'.outcome = ModuleArtifacts.report <$> run.outcome
  /-- Both runs write the same files. -/
  files_eq : ModuleArtifacts.files <$> run'.outcome = ModuleArtifacts.files <$> run.outcome

theorem Run.renumbers_map (run : Run ModuleArtifacts) (ρ : TypeId → TypeId) (types : TypeGraph) :
    run.Renumbers ρ types (ModuleArtifacts.renumber ρ types <$> run) where
  events_eq := events_map _ run
  outcome_eq := outcome_map _ run
  report_eq := by
    rw [outcome_map, Functor.map_map]
    rfl
  files_eq := by
    rw [outcome_map, Functor.map_map]
    simp only [ModuleArtifacts.files_renumber]

end SignatureForms
