import SignatureForms.Proofs.Form.Controls

/-!
# Columns of tables

Columns are laid out like entries of a form but are none: their names belong to the rows of their
table, and they are shown whenever the table is.

The module introduces:

* `Entry.nestedAll entries` — all entries of a form, depth first, columns of tables included;
* `PlainTables form` — no column of a table in the form has a condition.

## Main results

* `PlainTables.renderForm`: the tables of a rendered form are plain.
-/

namespace SignatureForms

namespace Entry

mutual

/-- An entry and all inside it, columns of tables included, depth first. -/
def nested : Entry → List Entry
  | input i => [input i]
  | group title collapsed condition elements =>
    group title collapsed condition elements :: nestedAll elements
  | table info columns => table info columns :: nestedAll columns

/-- Several entries and all inside them, columns of tables included, depth first. -/
def nestedAll : List Entry → List Entry
  | [] => []
  | entry :: rest => nested entry ++ nestedAll rest

end

/-- The entry is an input that is shown whenever its table is. -/
def IsPlainInput (entry : Entry) : Prop :=
  ∃ i, entry = input i ∧ i.condition = .empty

/-- Nothing is inside of inputs. -/
theorem condition_eq_empty_of_mem_nestedAll {columns : List Entry}
    (h : ∀ column ∈ columns, IsPlainInput column) :
    ∀ column ∈ nestedAll columns, column.condition = .empty := by
  induction columns with
  | nil => nofun
  | cons first rest ih =>
    rw [List.forall_mem_cons] at h
    obtain ⟨⟨i, rfl, hcondition⟩, hrest⟩ := h
    intro column hcolumn
    rw [nestedAll, nested, List.singleton_append, List.mem_cons] at hcolumn
    rcases hcolumn with rfl | hcolumn
    · exact hcondition
    · exact ih hrest column hcolumn

end Entry

/-! ## Columns -/

/-- A column for a single value is an input. -/
theorem columnEntry_isPlainInput (name display : String) (kind : Option Kind) (required : Bool)
    (help : String) : (columnEntry name display kind required help).IsPlainInput := by
  unfold columnEntry
  split <;> exact ⟨_, rfl, rfl⟩

/-- The columns for the fields of a record are inputs. -/
theorem fieldColumns_isPlainInput (columns : List Column) :
    ∀ entry ∈ columns.map fieldColumn, entry.IsPlainInput := by
  intro entry hentry
  obtain ⟨column, -, rfl⟩ := List.mem_map.1 hentry
  exact columnEntry_isPlainInput _ _ _ _ _

/-- The columns of a map are inputs, whether its values are records or not. -/
theorem mapColumns_isPlainInput (shape : MapShape) :
    ∀ entry ∈ mapColumns shape, entry.IsPlainInput := by
  unfold mapColumns
  split
  · simp [columnEntry_isPlainInput]
  · exact List.forall_mem_cons.2
      ⟨columnEntry_isPlainInput _ _ _ _ _, fieldColumns_isPlainInput shape.columns⟩

/-- The columns of an array of unions are inputs. -/
theorem choiceColumns_isPlainInput (memberKinds : List Kind) :
    ∀ entry ∈ choiceColumns memberKinds, entry.IsPlainInput := by
  intro entry hentry
  rw [choiceColumns, List.mem_cons, List.mem_singleton] at hentry
  rcases hentry with rfl | rfl
  · exact ⟨_, rfl, rfl⟩
  · exact columnEntry_isPlainInput _ _ _ _ _

/-- The columns of an array of arrays hold a table, whose only column is an input. -/
theorem rowColumns_condition (innerKind : Option Kind) (required : Bool) :
    ∀ column ∈ Entry.nestedAll (rowColumns innerKind required), column.condition = .empty := by
  have hinner := Entry.condition_eq_empty_of_mem_nestedAll (List.forall_mem_singleton.2
    (columnEntry_isPlainInput "value" "Value" innerKind true (valueHelp innerKind "Value")))
  intro column hcolumn
  rcases List.mem_cons.1 hcolumn with rfl | hcolumn
  · rfl
  · rcases List.mem_cons.1 hcolumn with rfl | hcolumn
    · rfl
    · rcases List.mem_append.1 hcolumn with hvalue | hnone
      · exact hinner column hvalue
      · cases hnone

/-! ## Tables of a form -/

/-- No column of a table in the form has a condition. -/
def PlainTables (form : List Entry) : Prop :=
  ∀ info columns, .table info columns ∈ Entry.walkAll form →
    ∀ column ∈ Entry.nestedAll columns, column.condition = .empty

namespace PlainTables

variable {entries more : List Entry}

theorem nil : PlainTables [] := nofun

theorem append (h : PlainTables entries) (hmore : PlainTables more) :
    PlainTables (entries ++ more) := by
  intro info columns htable
  rw [Entry.walkAll_append, List.mem_append] at htable
  exact htable.elim (h info columns) (hmore info columns)

theorem group (title : String) (collapsed : Bool) (condition : Condition)
    (h : PlainTables entries) : PlainTables [.group title collapsed condition entries] := by
  intro info columns htable
  rw [Entry.walkAll_singleton, Entry.walk, List.mem_cons] at htable
  rcases htable with hself | hinside
  · cases hself
  · exact h info columns hinside

/-- Laying entries out adds no table. -/
theorem keptByLayout (condition : Condition) : KeptByLayout condition PlainTables where
  nil := nil
  append := fun _ _ => append
  group := fun title _ => group title false condition

/-- An input is no table. -/
theorem input (i : Input) : PlainTables [.input i] := by
  intro info columns htable
  cases List.mem_singleton.1 htable

/-- A table is plain if its columns have no conditions. -/
theorem table {info : TableInfo} {columns : List Entry}
    (h : ∀ column ∈ Entry.nestedAll columns, column.condition = .empty) :
    PlainTables [.table info columns] := by
  intro info' columns' htable
  cases List.mem_singleton.1 htable
  exact h

theorem gate (ctx : FormContext) (info : NodeInfo) (condition : Condition) :
    PlainTables (SignatureForms.gate ctx info condition).1 := by
  rw [SignatureForms.gate]
  split
  · exact input _
  · exact nil

theorem unionChoice (info : NodeInfo) (members : List ParamNode) (condition : Condition) :
    PlainTables (SignatureForms.unionChoice info members condition) := by
  rw [SignatureForms.unionChoice]
  split
  · exact input _
  · exact nil

/-- The table for a map is plain. -/
theorem mapTable (info : NodeInfo) (shape : MapShape) (condition : Condition) :
    PlainTables [SignatureForms.mapTable info shape condition] :=
  table (Entry.condition_eq_empty_of_mem_nestedAll (mapColumns_isPlainInput shape))

/-- The table for an array is plain, whichever elements it has. -/
theorem arrayTable (info : NodeInfo) (shape : ArrayShape) (condition : Condition) :
    PlainTables [SignatureForms.arrayTable info shape condition] := by
  unfold SignatureForms.arrayTable
  split
  · exact table (rowColumns_condition _ _)
  · refine table (Entry.condition_eq_empty_of_mem_nestedAll ?_)
    split
    · exact choiceColumns_isPlainInput _
    · split
      · exact List.forall_mem_singleton.2 (columnEntry_isPlainInput _ _ _ _ _)
      · exact fieldColumns_isPlainInput _

/-- Having plain tables is kept by each way of rendering a node. -/
theorem renderInvariant (ctx : FormContext) :
    RenderInvariant ctx fun _ _ _ entries => PlainTables entries where
  leaf := fun {_ _ _ kind _} _ hentry => by
    cases kind <;> cases hentry <;> exact input _
  closedRecord := fun _ => input _
  emptyRecord := fun _ => (gate _ _ _).append (input _)
  openRecord := fun _ _ hfields => (gate _ _ _).append ((keptByLayout _).fields hfields)
  typeChoice := fun _ => unionChoice _ _ _
  union := fun _ hothers harms =>
    (unionChoice _ _ _).append ((keptByLayout _).members hothers harms)
  map := by
    intro condition group info shape
    refine (gate _ _ _).append ?_
    split
    · exact mapTable _ _ _
    · exact input _
  array := by
    intro condition group info shape
    refine (gate _ _ _).append ?_
    split
    · exact arrayTable _ _ _
    · exact input _

/-- No column of a table in a rendered form has a condition. -/
theorem renderForm {ctx : FormContext} {params : List ParamNode} {form : List Entry}
    (h : SignatureForms.renderForm ctx params = .ok form) : PlainTables form := by
  obtain ⟨entries, rfl, hentries⟩ := (renderInvariant ctx).form_eq h
  exact (keptByLayout .empty).flatMap hentries

end PlainTables

end SignatureForms
