import SignatureForms.Proofs.Artifact.Conservation
import SignatureForms.Proofs.Naming.Identifiers

/-!
# Names under which operations are offered

The name of an operation goes through four steps: it is found by one of the strategies, kept apart
from the names of the parameters, rid of its dots in a module with a dotted name, and numbered where
it was asked for before. Only the second step looks at the parameters, and it looks at the name as
it was found. This module says just when a name that has gone through all steps is the name of a
parameter, and that it is an identifier where it was found for a resource.

The module introduces:

* `offeredName types settings before op` — the name of an operation that comes after others;
* `offers types settings before ops` — the operations that are offered, with their names;
* `Naming.ChangesTo dotted name text` — what a name may be changed to.

## Main results

* `offers_of_generateClient`: the operations of a client are offered under these names;
* `operationNames_apart_iff`: when they are apart from the names of the parameters;
* `resourceNames_isIdentifier`: those of resources are identifiers.
-/

namespace SignatureForms

variable {types : TypeGraph} {settings : Settings}

/-! ## Offered names -/

/-- The name of an operation that comes after others: the one for which it asks, with the number of
those before that are offered and ask for the same. -/
def offeredName (types : TypeGraph) (settings : Settings) (before : List Operation)
    (op : Operation) : String :=
  Naming.numberedName (requestedName types settings op)
    ((requestedNames types settings before).count (requestedName types settings op))

theorem requestedName_eq (types : TypeGraph) (settings : Settings) (op : Operation) :
    requestedName types settings op =
      let name := Naming.avoidClash (Naming.resolveName types op) op
      if settings.hasDottedName then Naming.withoutDots name else name := rfl

/-- The operations that are offered, each with its name, where others come before them. -/
def offers (types : TypeGraph) (settings : Settings) (before : List Operation) :
    List Operation → List (Operation × String)
  | [] => []
  | op :: rest =>
    (if isOffered types settings op then [(op, offeredName types settings before op)] else [])
      ++ offers types settings (before ++ [op]) rest

/-- An operation is offered under its name after those that come before it. -/
theorem mem_offers {before ops : List Operation} {op : Operation} {name : String} :
    (op, name) ∈ offers types settings before ops ↔
      ∃ front back, ops = front ++ op :: back ∧ isOffered types settings op = true ∧
        name = offeredName types settings (before ++ front) op := by
  induction ops generalizing before with
  | nil => simp [offers]
  | cons first rest ih =>
    rw [offers, List.mem_append, ih]
    constructor
    · rintro (hfirst | ⟨front, back, rfl, hoffered, rfl⟩)
      · split at hfirst
        · next hoffered =>
          cases List.mem_singleton.1 hfirst
          exact ⟨[], rest, rfl, hoffered, by rw [List.append_nil]⟩
        · cases hfirst
      · exact ⟨first :: front, back, rfl, hoffered, by rw [List.append_assoc]; rfl⟩
    · rintro ⟨front, back, hops, hoffered, rfl⟩
      cases front with
      | nil =>
        cases hops
        exact .inl (by rw [if_pos hoffered, List.append_nil]; exact List.mem_singleton_self _)
      | cons _ front =>
        cases hops
        exact .inr ⟨front, back, rfl, hoffered, by rw [List.append_assoc]; rfl⟩

/-- One operation is offered under its name, and the registry has seen what it asks for. -/
theorem generateOperation_offers {before : List Operation} {op : Operation}
    {names left : Naming.Registry} {report next : ClientReport}
    {artifact : Option OperationArtifact}
    (hnames : names.Tracks (requestedNames types settings before))
    (h : generateOperation types settings op names report = .ok (artifact, left, next)) :
    artifact.toList.map (fun a => (a.operation, a.name)) =
        (if isOffered types settings op then [(op, offeredName types settings before op)] else []) ∧
      left.Tracks (requestedNames types settings (before ++ [op])) := by
  have hstep := generateOperation_eq_ok h
  have hoperation := (generateOperation_settles h).operations
  rw [requestedNames, List.filter_append, List.map_append]
  split at hstep
  · next hoffered =>
    obtain ⟨hname, rfl⟩ := hstep
    rw [if_pos hoffered, List.filter_cons_of_pos hoffered]
    refine ⟨?_, hnames.reserve_snd _⟩
    cases artifact with
    | none => cases hname
    | some made =>
      have hmade : made.operation ∈ [op] :=
        List.mem_of_mem_filter (hoperation ▸ List.mem_map_of_mem (List.mem_singleton_self made))
      rw [Option.toList_some, List.map_singleton] at hname ⊢
      rw [List.mem_singleton.1 hmade, List.singleton_inj.1 hname, hnames.reserve_fst, offeredName]
  · next hskipped =>
    obtain ⟨rfl, rfl⟩ := hstep
    rw [if_neg hskipped, List.filter_cons_of_neg hskipped]
    refine ⟨rfl, ?_⟩
    rw [List.filter_nil, List.map_nil, List.append_nil]
    exact hnames

/-- Operations in turn are offered under their names. -/
theorem offers_of_generateOperations {client : String} {before ops : List Operation}
    {names : Naming.Registry} {report last : ClientReport} {artifacts : List OperationArtifact}
    (hnames : names.Tracks (requestedNames types settings before))
    (h : (generateOperations types settings client ops names report).outcome =
      .ok (artifacts, last)) :
    artifacts.map (fun a => (a.operation, a.name)) = offers types settings before ops := by
  induction ops generalizing before names report artifacts with
  | nil =>
    rw [generateOperations, Run.outcome_pure_eq_ok_iff] at h
    cases h
    rfl
  | cons op rest ih =>
    simp only [generateOperations, Run.outcome_bind_eq_ok_iff, Run.outcome_pure_eq_ok_iff] at h
    obtain ⟨⟨artifact, left, next⟩, hop, ⟨others, _⟩, hrest, heq⟩ := h
    cases heq
    obtain ⟨hfirst, hleft⟩ := generateOperation_offers hnames hop
    rw [List.map_append, hfirst, ih hleft hrest, offers]

/-- The operations of a client are offered under their names. -/
theorem offers_of_generateClient {client : Client} {made : ClientArtifacts}
    (h : (generateClient types settings client).outcome = .ok made) :
    made.operations.map (fun a => (a.operation, a.name)) =
      offers types settings [] client.operations := by
  obtain ⟨report, last, hoperations⟩ := exists_generateOperations_of_generateClient h
  exact offers_of_generateOperations Naming.Registry.tracks_empty hoperations

/-- A resource to which its author gives no identifier is offered under a name that is one. -/
theorem isIdentifier_offeredName (before : List Operation) {op : Operation}
    (hkind : op.kind = .resource) (hid : op.operationId.getD "" = "") :
    Naming.IsIdentifier (offeredName types settings before op) := by
  obtain ⟨name, hname, hidentifier⟩ := Naming.exists_resolveName?_of_resource types hkind hid
  have hrequested : Naming.IsIdentifier (requestedName types settings op) := by
    rw [requestedName_eq, Naming.resolveName, hname, Option.getD_some]
    dsimp only
    split
    · exact (hidentifier.avoidClash op).withoutDots
    · exact hidentifier.avoidClash op
  rw [offeredName, Naming.numberedName]
  split
  · exact hrequested
  · exact hrequested.append_toString _

/-! ## Names of parameters -/

/-- What a name may be changed to: something else, that is the name or its renamed form, rid of its
dots in a module with a dotted name, with a number or without. -/
def Naming.ChangesTo (dotted : Bool) (name text : String) : Prop :=
  text ≠ name ∧ ∃ form ∈ [name, name ++ "_operation"], ∃ number,
    text = numberedName (if dotted then withoutDots form else form) number

/-- No step makes a name shorter. -/
theorem length_le_offeredName (types : TypeGraph) (settings : Settings) (before : List Operation)
    (op : Operation) :
    (Naming.avoidClash (Naming.resolveName types op) op).length ≤
      (offeredName types settings before op).length := by
  have hrequested : (requestedName types settings op).length =
      (Naming.avoidClash (Naming.resolveName types op) op).length := by
    rw [requestedName_eq]
    dsimp only
    split
    · simp [Naming.withoutDots, ← String.length_toList]
    · rfl
  rw [offeredName, Naming.numberedName, ← hrequested]
  split
  · exact Nat.le_refl _
  · rw [String.length_append]
    exact Nat.le_add_right _ _

/-- A name that comes through unchanged is none of a parameter: it has not been renamed. -/
theorem notMem_parameterNames_of_offeredName_eq {before : List Operation} {op : Operation}
    (h : offeredName types settings before op = Naming.resolveName types op) :
    Naming.resolveName types op ∉ Naming.parameterNames op := by
  intro htaken
  have hrenamed : Naming.avoidClash (Naming.resolveName types op) op =
      Naming.resolveName types op ++ "_operation" := by
    rw [Naming.avoidClash, if_pos]
    simp [htaken]
  have hlength := length_le_offeredName types settings before op
  have hsuffix : 0 < "_operation".length := by decide
  rw [h, hrenamed, String.length_append] at hlength
  omega

/-- A name that is changed is one of the forms to which it may be. -/
theorem changesTo_offeredName {before : List Operation} {op : Operation}
    (h : offeredName types settings before op ≠ Naming.resolveName types op) :
    Naming.ChangesTo settings.hasDottedName (Naming.resolveName types op)
      (offeredName types settings before op) := by
  refine ⟨h, Naming.avoidClash (Naming.resolveName types op) op, ?_, _, rfl⟩
  rw [Naming.avoidClash]
  split <;> simp

/-- A property of the names of all operations of a client is one of their offered names. -/
theorem forall_operations_iff {client : Client} {made : ClientArtifacts}
    (h : (generateClient types settings client).outcome = .ok made)
    (P : Operation → String → Prop) :
    (∀ a ∈ made.operations, P a.operation a.name) ↔
      ∀ before op after, client.operations = before ++ op :: after →
        isOffered types settings op = true → P op (offeredName types settings before op) := by
  have hpairs : (∀ a ∈ made.operations, P a.operation a.name) ↔
      ∀ offer ∈ offers types settings [] client.operations, P offer.1 offer.2 := by
    rw [← offers_of_generateClient h, List.forall_mem_map]
  rw [hpairs]
  constructor
  · intro hall before op after hops hoffered
    exact hall (op, _) (mem_offers.2 ⟨before, after, hops, hoffered, rfl⟩)
  · rintro hall ⟨op, name⟩ hoffer
    obtain ⟨before, after, hops, hoffered, rfl⟩ := mem_offers.1 hoffer
    exact hall before op after hops hoffered

/-- The operations of a client are offered under the names that are found, renamed, rid of dots and
numbered. These are apart from the names of the parameters just if each name that is changed on the
way is none of a parameter in its changed form; so they are if no parameter has a name to which that
of its operation may be changed. -/
theorem operationNames_apart_iff {client : Client} {made : ClientArtifacts}
    (h : (generateClient types settings client).outcome = .ok made) :
    made.operations.map (fun a => (a.operation, a.name)) =
      offers types settings [] client.operations ∧
    ((∀ a ∈ made.operations, a.name ∉ Naming.parameterNames a.operation) ↔
      ∀ before op after, client.operations = before ++ op :: after →
        isOffered types settings op = true →
        offeredName types settings before op ≠ Naming.resolveName types op →
        offeredName types settings before op ∉ Naming.parameterNames op) ∧
    ((∀ op ∈ client.operations, ∀ name ∈ Naming.parameterNames op,
        ¬ Naming.ChangesTo settings.hasDottedName (Naming.resolveName types op) name) →
      ∀ a ∈ made.operations, a.name ∉ Naming.parameterNames a.operation) := by
  have hnames := forall_operations_iff h fun op name => name ∉ Naming.parameterNames op
  -- a name that is not changed needs no condition
  have hapart : (∀ a ∈ made.operations, a.name ∉ Naming.parameterNames a.operation) ↔
      ∀ before op after, client.operations = before ++ op :: after →
        isOffered types settings op = true →
        offeredName types settings before op ≠ Naming.resolveName types op →
        offeredName types settings before op ∉ Naming.parameterNames op := by
    rw [hnames]
    refine ⟨fun hall before op after hops hoffered _ => hall before op after hops hoffered,
      fun hchanged before op after hops hoffered => ?_⟩
    by_cases heq : offeredName types settings before op = Naming.resolveName types op
    · rw [heq]
      exact notMem_parameterNames_of_offeredName_eq heq
    · exact hchanged before op after hops hoffered heq
  refine ⟨offers_of_generateClient h, hapart, fun hforms => hapart.2 ?_⟩
  intro before op after hops _ hchanged hmem
  have hop : op ∈ client.operations := by
    rw [hops]
    exact List.mem_append_right _ List.mem_cons_self
  exact hforms op hop _ hmem (changesTo_offeredName hchanged)

/-- A client with operations of the given names, whose parameters are texts of the given names. -/
def textClient (operations : List (String × List String)) : Client where
  name := "Mail"
  connectionType := "mail"
  operations := operations.map fun operation =>
    { name := operation.1, kind := .remote
      params := operation.2.map fun name => ⟨name, 0, false, none, none⟩
      operationId := none, path := [], returns := none, doc := "" }
  init := none

/-- A graph that holds nothing but the type of texts. -/
def textTypes : TypeGraph := ⟨#[TypeDescriptor.ofKind .string none]⟩

theorem operationNames_apart_list :
    ∃ made, (generateClient textTypes .default
        (textClient [("list", ["list", "page"]), ("list", ["query"])])).outcome = .ok made ∧
      made.operations.map OperationArtifact.name = ["list_operation", "list"] ∧
      ∀ a ∈ made.operations, a.name ∉ Naming.parameterNames a.operation := by
  obtain ⟨made, hrun, hnames⟩ : ∃ made, (generateClient textTypes .default
      (textClient [("list", ["list", "page"]), ("list", ["query"])])).outcome = .ok made ∧
      made.operations.map OperationArtifact.name = ["list_operation", "list"] := ⟨_, rfl, rfl⟩
  refine ⟨made, hrun, hnames, (operationNames_apart_iff hrun).2.1.2 ?_⟩
  rintro before op after hops - -
  match before, hops with
  | [], hops =>
    cases hops
    decide
  | [_], hops =>
    cases hops
    decide
  | _ :: _ :: before, hops => simp [textClient] at hops

/-- Each of the three changes may end in the name of a parameter: a name that is renamed, one that
is numbered, and one that is rid of its dots. -/
theorem operationNames_taken :
    (∃ made, (generateClient textTypes .default
        (textClient [("list", ["list", "list_operation"])])).outcome = .ok made ∧
      ∃ a ∈ made.operations, a.name = "list_operation" ∧
        a.name ∈ Naming.parameterNames a.operation) ∧
    (∃ made, (generateClient textTypes .default
        (textClient [("list", []), ("list", ["list1"])])).outcome = .ok made ∧
      ∃ a ∈ made.operations, a.name = "list1" ∧ a.name ∈ Naming.parameterNames a.operation) ∧
    ∃ made, (generateClient textTypes { Settings.default with moduleName := some "mail.box" }
        (textClient [("list.all", ["list_all"])])).outcome = .ok made ∧
      ∃ a ∈ made.operations, a.name = "list_all" ∧ a.name ∈ Naming.parameterNames a.operation := by
  refine ⟨⟨_, rfl, ?_⟩, ⟨_, rfl, ?_⟩, ⟨_, rfl, ?_⟩⟩
  · exact ⟨_, List.mem_cons_self, rfl, by decide⟩
  · exact ⟨_, List.mem_cons_of_mem _ List.mem_cons_self, rfl, by decide⟩
  · exact ⟨_, List.mem_cons_self, rfl, by decide⟩

/-! ## Names of resources -/

/-- Names of resources are identifiers. The template name made from any text, or from none, is one,
and identifiers alone are left as they are. A resource to which its author gives no identifier has a
name that is one; it stays one when it is renamed, rid of its dots or numbered, and so the resource
is offered under one. -/
theorem resourceNames_isIdentifier :
    (∀ name : Option String, Naming.IsIdentifier (Naming.xmlName (name.getD ""))) ∧
    (∀ name, Naming.xmlName name = name ↔ Naming.IsIdentifier name) ∧
    (∀ name, Naming.xmlName (Naming.xmlName name) = Naming.xmlName name) ∧
    (∀ types op, op.kind = .resource → op.operationId.getD "" = "" →
      ∃ name, Naming.resolveName? types op Naming.Strategy.default = some name ∧
        Naming.IsIdentifier name) ∧
    (∀ name, Naming.IsIdentifier name →
      (∀ op, Naming.IsIdentifier (Naming.avoidClash name op)) ∧
      Naming.IsIdentifier (Naming.withoutDots name) ∧
      ∀ names : Naming.Registry, Naming.IsIdentifier (names.reserve name).1) ∧
    ∀ types settings client made, (generateClient types settings client).outcome = .ok made →
      ∀ a ∈ made.operations, a.operation.kind = .resource → a.operation.operationId.getD "" = "" →
        Naming.IsIdentifier a.name := by
  refine ⟨fun name => Naming.isIdentifier_xmlName _, fun _ => Naming.xmlName_eq_self_iff,
    fun name => Naming.xmlName_eq_self_iff.2 (Naming.isIdentifier_xmlName name),
    fun types op => Naming.exists_resolveName?_of_resource types,
    fun name h => ⟨h.avoidClash, h.withoutDots, h.reserve⟩, ?_⟩
  intro types settings client made h a ha hkind hid
  refine (forall_operations_iff h fun op name => op.kind = .resource →
    op.operationId.getD "" = "" → Naming.IsIdentifier name).2 ?_ a ha hkind hid
  intro before op after _ _ hkind hid
  exact isIdentifier_offeredName before hkind hid

/-- A resource with a parameter in its path whose name has a dot. -/
def userResource : Operation where
  name := "GET"
  kind := .resource
  params := []
  operationId := none
  path := ["app-users", "[string user.id]"]
  returns := none
  doc := ""

theorem resourceNames_isIdentifier_user :
    (∃ name, Naming.resolveName? .empty userResource Naming.Strategy.default = some name ∧
      name = "getAppUsersByUser.id" ∧ Naming.IsIdentifier name) ∧
    Naming.IsIdentifier (Naming.withoutDots "getAppUsersByUser.id") ∧
    ∃ made, (generateClient .empty { Settings.default with moduleName := some "mail.box" }
        { textClient [] with operations := [userResource, userResource] }).outcome = .ok made ∧
      ∃ a ∈ made.operations, a.name = "getAppUsersByUser_id1" ∧ Naming.IsIdentifier a.name := by
  refine ⟨?_, ?_, ?_⟩
  · obtain ⟨name, hname, hidentifier⟩ :=
      resourceNames_isIdentifier.2.2.2.1 .empty userResource rfl rfl
    refine ⟨name, hname, ?_, hidentifier⟩
    exact Option.some_inj.1 (hname.symm.trans (by decide))
  · exact (resourceNames_isIdentifier.2.2.2.2.1 _
      ⟨'g', "etAppUsersByUser.id".toList, rfl, by decide, List.all_eq_true.1 (by decide)⟩).2.1
  · obtain ⟨made, hrun, a, ha, hkind, hid, hname⟩ : ∃ made, (generateClient .empty
        { Settings.default with moduleName := some "mail.box" }
        { textClient [] with operations := [userResource, userResource] }).outcome = .ok made ∧
        ∃ a ∈ made.operations, a.operation.kind = .resource ∧ a.operation.operationId.getD "" = "" ∧
          a.name = "getAppUsersByUser_id1" :=
      ⟨_, rfl, _, List.mem_cons_of_mem _ List.mem_cons_self, rfl, rfl, by decide⟩
    exact ⟨made, hrun, a, ha, hname,
      resourceNames_isIdentifier.2.2.2.2.2 _ _ _ _ hrun a ha hkind hid⟩

end SignatureForms
