import SignatureForms.Artifact.Module
import SignatureForms.Proofs.Steps

/-!
# Announced steps

A generation takes up the operations of a module one after the other, each as a step of its own.
What is announced is as regular as this: a step that ends well is announced twice, when it starts
and when it is done, whether its operation is skipped or not, and the first step that fails is the
last one that is announced.

The module introduces:

* `Task` — one step: an operation of a client that is classified and rendered;
* `Task.Raises types settings task fault` — the step fails by itself, with the given fault;
* `Module.tasks` — the steps of a module, in order;
* `run.Performs types settings tasks` — the run takes the given steps and announces them.

## Main results

* `Run.Performs.bind`: runs that take steps can be put one after the other;
* `generateOperations_performs`, `generateClient_performs`: operations and clients are generated
  step by step;
* `generate_performs`: so is a module, with the settings of its document or with others.
-/

namespace SignatureForms

/-! ## Steps -/

/-- One step of a generation: an operation of a client that is classified and rendered. -/
inductive Task where
  /-- The operation that sets up the connection. -/
  | connection (client : Client) (op : Operation)
  /-- An operation that is offered over it. -/
  | operation (client : Client) (op : Operation)

namespace Task

/-- The label under which the step is announced. -/
def label : Task → String
  | connection client _ => client.name ++ ".init"
  | operation client op => client.name ++ "." ++ op.name

/-- What the step does, in words. -/
def detail : Task → String
  | connection .. => "Classify and render init"
  | operation .. => "Classify and render operation"

/-- The two announcements of a step: that it runs, and how it ends. -/
def announced (task : Task) (last : StepStatus) : List ProgressEvent :=
  [⟨task.label, .running, task.detail⟩, ⟨task.label, last, task.detail⟩]

/-- The announcements of a step that ends well. -/
def completed (task : Task) : List ProgressEvent := task.announced .done

/-- The announcements of a step that fails. -/
def broken (task : Task) : List ProgressEvent := task.announced .failed

/-- The step fails with a fault that arises when its operation is classified or, if it is not
skipped, rendered: in the scope of the connection, or under the name that a registry gives. -/
def Raises (types : TypeGraph) (settings : Settings) (fault : Fault) : Task → Prop
  | connection client op =>
    classifyOperation types op settings.fieldBudget = .error fault ∨
      ∃ params, classifyOperation types op settings.fieldBudget = .ok (.ok params) ∧
        connectionArtifact settings op params
          (Naming.orElse (settings.connectionType.getD "") client.connectionType) = .error fault
  | operation _ op =>
    classifyOperation types op settings.fieldBudget = .error fault ∨
      ∃ params, classifyOperation types op settings.fieldBudget = .ok (.ok params) ∧
        ∃ names : Naming.Registry, operationArtifact settings op params
          (names.reserve (requestedName types settings op)).1 = .error fault

end Task

/-- The steps of a client: its init operation, if it has one, and then the others. -/
def Client.tasks (client : Client) : List Task :=
  client.init.toList.map (.connection client) ++ client.operations.map (.operation client)

/-- The steps of a module, client by client. -/
def Module.tasks (module : Module) : List Task :=
  module.clients.flatMap Client.tasks

/-! ## Runs that take steps -/

/-- The run takes the given steps in order and announces them. -/
structure Run.Performs {α : Type} (types : TypeGraph) (settings : Settings) (tasks : List Task)
    (run : Run α) : Prop where
  /-- If it ends well, all of them are announced as done. -/
  completed : ∀ result, run.outcome = .ok result → run.events = tasks.flatMap Task.completed
  /-- If it fails, one of them fails: those before it are announced as done, this one as failed, and
  nothing more. The run ends with the fault of this step. -/
  broken : ∀ fault, run.outcome = .error fault → ∃ before task after,
    tasks = before ++ task :: after ∧
      run.events = before.flatMap Task.completed ++ task.broken ∧
      task.Raises types settings fault

namespace Run.Performs

variable {α β : Type} {types : TypeGraph} {settings : Settings} {tasks more : List Task}

theorem pure (result : α) : Performs types settings [] (Pure.pure result : Run α) where
  completed _ _ := rfl
  broken _ hfault := by cases hfault

/-- Runs that take steps can be put one after the other. -/
theorem bind {run : Run α} {next : α → Run β} (h : run.Performs types settings tasks)
    (hnext : ∀ result, (next result).Performs types settings more) :
    (run >>= next).Performs types settings (tasks ++ more) := by
  cases hrun : run.outcome with
  | error fault =>
    -- the steps that would have come after the failed one are not taken
    have hbind : run >>= next = ⟨run.events, .error fault⟩ := by
      show run.bind next = _
      rw [Run.bind, hrun]
    rw [hbind]
    constructor
    · intro result hresult
      cases hresult
    · intro last hlast
      cases hlast
      obtain ⟨before, task, after, htasks, hevents, hraises⟩ := h.broken fault hrun
      refine ⟨before, task, after ++ more, ?_, hevents, hraises⟩
      rw [htasks, List.append_assoc, List.cons_append]
  | ok result =>
    have hbind : run >>= next =
        ⟨run.events ++ (next result).events, (next result).outcome⟩ := by
      show run.bind next = _
      rw [Run.bind, hrun]
    have hdone := h.completed result hrun
    rw [hbind]
    constructor
    · intro last hlast
      show run.events ++ (next result).events = _
      rw [hdone, (hnext result).completed last hlast, List.flatMap_append]
    · intro fault hfault
      obtain ⟨before, task, after, rfl, hevents, hraises⟩ := (hnext result).broken fault hfault
      refine ⟨tasks ++ before, task, after, ?_, ?_, hraises⟩
      · rw [List.append_assoc]
      · show run.events ++ (next result).events = _
        rw [hdone, hevents, List.flatMap_append, List.append_assoc]

/-- A run with a result to which nothing is added but a value takes no further steps. -/
theorem bind_pure {run : Run α} (h : run.Performs types settings tasks) (f : α → β) :
    (run >>= fun result => Pure.pure (f result)).Performs types settings tasks := by
  have hbind := h.bind fun result => pure (f result)
  rwa [List.append_nil] at hbind

/-- One step is taken and announced. -/
theorem step (task : Task) {outcome : Except Fault α}
    (h : ∀ fault, outcome = .error fault → task.Raises types settings fault) :
    (Run.step task.label task.detail outcome).Performs types settings [task] := by
  constructor
  · rintro result rfl
    exact (List.flatMap_singleton _ _).symm
  · rintro fault rfl
    exact ⟨[], task, [], rfl, rfl, h fault rfl⟩

end Run.Performs

/-! ## Generations -/

section Generations

variable {types : TypeGraph} {settings : Settings}

/-- What fails in an init operation is its classification or its rendering. -/
theorem raises_of_generateInit {client : Client} {op : Operation} {report : ClientReport}
    {fault : Fault}
    (h : generateInit types settings
      (Naming.orElse (settings.connectionType.getD "") client.connectionType) op report =
        .error fault) :
    (Task.connection client op).Raises types settings fault := by
  rcases bind_eq_error_iff.1 h with hclassify | ⟨outcome, houtcome, hrest⟩
  · exact .inl hclassify
  cases outcome with
  | error skip => cases hrest
  | ok params =>
    rcases bind_eq_error_iff.1 hrest with hartifact | ⟨artifact, _, hdone⟩
    · exact .inr ⟨params, houtcome, hartifact⟩
    · cases hdone

/-- What fails in an operation other than the init operation is its classification or its
rendering. -/
theorem raises_of_generateOperation {client : Client} {op : Operation} {names : Naming.Registry}
    {report : ClientReport} {fault : Fault}
    (h : generateOperation types settings op names report = .error fault) :
    (Task.operation client op).Raises types settings fault := by
  rcases bind_eq_error_iff.1 h with hclassify | ⟨outcome, houtcome, hrest⟩
  · exact .inl hclassify
  cases outcome with
  | error skip => cases hrest
  | ok params =>
    rcases bind_eq_error_iff.1 hrest with hartifact | ⟨artifact, _, hdone⟩
    · exact .inr ⟨params, houtcome, names, hartifact⟩
    · cases hdone

/-- Operations are generated step by step. -/
theorem generateOperations_performs (client : Client) (ops : List Operation)
    (names : Naming.Registry) (report : ClientReport) :
    (generateOperations types settings client.name ops names report).Performs types settings
      (ops.map (.operation client)) := by
  induction ops generalizing names report with
  | nil => exact .pure _
  | cons op rest ih =>
    have hstep : (Run.step (client.name ++ "." ++ op.name) "Classify and render operation"
        (generateOperation types settings op names report)).Performs types settings
          [.operation client op] :=
      .step (.operation client op) fun _ => raises_of_generateOperation
    exact hstep.bind fun made => (ih made.2.1 made.2.2).bind_pure _

/-- A client is generated step by step, its init operation first. -/
theorem generateClient_performs (client : Client) :
    (generateClient types settings client).Performs types settings client.tasks := by
  have hoperations (report : ClientReport) :
      (generateOperations types settings client.name client.operations .empty report).Performs types
        settings (client.operations.map (.operation client)) :=
    generateOperations_performs client client.operations .empty report
  have hrest (init : Option OperationArtifact) (report : ClientReport) :=
    (hoperations report).bind_pure fun made =>
      (⟨client, init, made.1, made.2⟩ : ClientArtifacts)
  rw [generateClient, Client.tasks]
  cases client.init with
  | none => exact (Run.Performs.pure _).bind fun made => hrest made.1 made.2
  | some op =>
    exact (Run.Performs.step (.connection client op) fun _ => raises_of_generateInit).bind
      fun made => hrest made.1 made.2

theorem generateClients_performs (clients : List Client) :
    (generateClients types settings clients).Performs types settings
      (clients.flatMap Client.tasks) := by
  induction clients with
  | nil => exact .pure _
  | cons client rest ih =>
    rw [generateClients, List.flatMap_cons]
    exact (generateClient_performs client).bind fun _ => ih.bind_pure _

end Generations

/-- With settings that are given a module is generated step by step. -/
theorem generateWith_performs (module : Module) (settings : Settings) :
    (generateWith module settings).Performs module.types (settings.withModuleName module.name)
      module.tasks :=
  (generateClients_performs module.clients).bind_pure _

/-- A module is generated step by step, in the order of its clients and their operations: if this
ends well, all steps are announced as running and done, and otherwise those before the failed one,
which is announced as running and failed and whose fault ends the generation. With the settings of
the document nothing else happens, but that without valid settings there is no step at all. -/
theorem generate_performs (module : Module) :
    (∀ settings, (generateWith module settings).Performs module.types
      (settings.withModuleName module.name) module.tasks) ∧
    match Settings.ofPairs module.config [] with
    | .ok settings => (generate module).Performs module.types
        (settings.withModuleName module.name) module.tasks
    | .error fault => (generate module).events = [] ∧ (generate module).outcome = .error fault := by
  refine ⟨generateWith_performs module, ?_⟩
  rw [generate]
  cases Settings.ofPairs module.config [] with
  | error fault => exact ⟨rfl, rfl⟩
  | ok settings => exact generateWith_performs module settings

/-- A module with one client. Of its operations the first one is skipped, since its parameter is of
no known kind, and the second one fails, since its parameter is a type that can only be a map. -/
def mailModule : Module where
  name := "mail"
  org := ""
  version := ""
  config := []
  types := ⟨#[
    { TypeDescriptor.ofKind .typedesc none with constraint := some 1 },
    { TypeDescriptor.ofKind .union none with members := [2, 3] },
    TypeDescriptor.ofKind .map none, TypeDescriptor.ofKind .nil none,
    TypeDescriptor.ofKind (.other "stream") none]⟩
  clients :=
    let op (name : String) (kind : OperationKind) (types : List TypeId) : Operation :=
      { name, kind, operationId := none, path := [], returns := none, doc := ""
        params := types.map fun type =>
          { name := "target", type, doc := none, defaultable := false, default := none } }
    [{ name := "Mail", connectionType := "smtp", init := some (op "init" .init [])
       operations := [op "watch" .remote [4], op "find" .remote [0], op "send" .remote []] }]

theorem generate_performs_mail :
    (generate mailModule).Performs mailModule.types (Settings.default.withModuleName "mail")
      mailModule.tasks ∧
    (generate mailModule).outcome = .error (.malformedVariant "target" .map) ∧
    (generate mailModule).events.map (fun event => (event.step, event.status)) =
      [("Mail.init", .running), ("Mail.init", .done), ("Mail.watch", .running),
        ("Mail.watch", .done), ("Mail.find", .running), ("Mail.find", .failed)] :=
  ⟨(generate_performs mailModule).2, rfl, rfl⟩

end SignatureForms
