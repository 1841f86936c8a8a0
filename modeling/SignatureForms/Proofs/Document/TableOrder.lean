import SignatureForms.Proofs.Document.NamedTypes

/-!
# The order of the type table

The type table of a document is a mapping, and the order of its keys is the order in which types
get their numbers. References are by name, so they lead to the same types whatever the order is,
forwards, backwards or in a circle; and what is generated does not tell the numbers. So the order
of the table is of no importance: a document is refused or accepted in any order, and the same is
generated from it.

## Main results

* `readTable_eq_ok_iff`, `readModule_eq_ok_iff`: what makes a table and a document readable;
* `exists_readTable_perm`, `exists_readModule_perm`: in another order they give the same types, and
  the same module, under other numbers;
* `generate_tableOrder`: so the same is generated, with the same steps announced, or generation ends
  with the same fault.
-/

namespace SignatureForms.Document

variable {table table' : NamedTypes} {g : TypeGraph}

/-! ## Reading the table -/

theorem addTypes_eq (bare : List BareType) (g : TypeGraph) :
    (bare.mapM fun entry => addType entry.2.2) g =
      .ok (List.range' g.size bare.length, g.append (bare.map fun entry => entry.2.2)) := by
  induction bare generalizing g with
  | nil =>
    rw [List.map_nil, g.append_nil]
    rfl
  | cons entry rest ih =>
    have hadd : addType entry.2.2 g = .ok (g.size, g.append [entry.2.2]) := by
      rw [g.append_singleton]
      rfl
    rw [List.mapM_cons, loading_bind_eq_ok_iff]
    refine ⟨_, _, hadd, loading_bind_eq_ok_iff.2 ⟨_, _, ih _, loading_pure_eq_ok_iff.2 ?_⟩⟩
    rw [TypeGraph.append_append, TypeGraph.size_append]
    exact ⟨rfl, rfl⟩

/-- A table is read if its entries are types and their parts can be read. -/
theorem readTable_eq_ok_iff {entries : Json.Entries} :
    readTable (some (.obj entries)) .empty = .ok (table, g) ↔
      ∃ bare, bareTypes entries = .ok bare ∧ Links bare g ∧ namedTypes bare = table := by
  have hread : readTable (some (.obj entries)) = (do
      let bare ← bareTypes entries
      let ids ← bare.mapM fun entry => addType entry.2.2
      readNamedParts ((bare.map Prod.fst).zip ids) 0 bare
      return (bare.map Prod.fst).zip ids) := by
    cases entries <;> rfl
  have hnames (bare : List BareType) :
      (bare.map Prod.fst).zip (List.range' TypeGraph.empty.size bare.length) = namedTypes bare := by
    rw [namedTypes, List.zipIdx_eq_zip_range', List.length_map]
    rfl
  simp only [hread, loading_bind_eq_ok_iff, loading_lift_eq_ok_iff, loading_pure_eq_ok_iff]
  constructor
  · rintro ⟨bare, _, ⟨hbare, rfl⟩, ids, start, hids, _, _, hparts, htable, rfl⟩
    rw [addTypes_eq] at hids
    cases hids
    rw [hnames] at hparts htable
    exact ⟨bare, hbare, hparts, htable⟩
  · rintro ⟨bare, hbare, hlinks, htable⟩
    refine ⟨bare, _, ⟨hbare, rfl⟩, _, _, addTypes_eq bare .empty, (), g, ?_, ?_, rfl⟩
    · rw [hnames]
      exact hlinks
    · rw [hnames]
      exact htable

/-- The named type of an entry of the table. -/
def entryType (name : String) (parts : Json.Entries) (kind : Json) : BareType :=
  (name, parts, bareType parts kind (((parts.lookup "name").map text?).getD (some name)))

/-- An entry of the table is a mapping with a kind. -/
theorem bareTypes_cons_eq_ok_iff {entry : String × Json} {rest : Json.Entries}
    {bare : List BareType} :
    bareTypes (entry :: rest) = .ok bare ↔
      ∃ parts kind others, (entry.2 = .obj parts ∧ parts.lookup "kind" = some kind) ∧
        bareTypes rest = .ok others ∧ entryType entry.1 parts kind :: others = bare := by
  obtain ⟨name, value⟩ := entry
  cases value with
  | obj parts =>
    rw [bareTypes]
    cases hkind : parts.lookup "kind" with
    | none => simp [throw, throwThe, MonadExceptOf.throw, hkind]
    | some kind => simp [map_eq_ok_iff, entryType, hkind]
  | _ => simp [bareTypes, throw, throwThe, MonadExceptOf.throw]

/-- A table in another order has the same named types in this order. -/
theorem exists_bareTypes_perm {entries entries' : Json.Entries} (hperm : entries.Perm entries')
    {bare : List BareType} (h : bareTypes entries = .ok bare) :
    ∃ bare', bareTypes entries' = .ok bare' ∧ bare.Perm bare' := by
  -- each entry is read by itself, so that the entries are only put in the other order
  induction hperm generalizing bare with
  | nil => exact ⟨bare, h, .refl bare⟩
  | cons entry _ ih =>
    obtain ⟨parts, kind, others, hentry, hothers, rfl⟩ := bareTypes_cons_eq_ok_iff.1 h
    obtain ⟨others', hothers', hperm⟩ := ih hothers
    exact ⟨_, bareTypes_cons_eq_ok_iff.2 ⟨_, _, _, hentry, hothers', rfl⟩, hperm.cons _⟩
  | swap x y rest =>
    obtain ⟨partsY, kindY, _, hy, htail, rfl⟩ := bareTypes_cons_eq_ok_iff.1 h
    obtain ⟨partsX, kindX, others, hx, hothers, rfl⟩ := bareTypes_cons_eq_ok_iff.1 htail
    have htail' := bareTypes_cons_eq_ok_iff.2 ⟨_, _, _, hy, hothers, rfl⟩
    exact ⟨_, bareTypes_cons_eq_ok_iff.2 ⟨_, _, _, hx, htail', rfl⟩, .swap _ _ _⟩
  | trans _ _ ih ih' =>
    obtain ⟨mid, hmid, hperm⟩ := ih h
    obtain ⟨last, hlast, hperm'⟩ := ih' hmid
    exact ⟨last, hlast, hperm.trans hperm'⟩

/-- The named types have the names of the table. -/
theorem names_of_bareTypes {entries : Json.Entries} {bare : List BareType}
    (h : bareTypes entries = .ok bare) : bare.map Prod.fst = entries.map Prod.fst := by
  induction entries generalizing bare with
  | nil =>
    cases h
    rfl
  | cons entry rest ih =>
    obtain ⟨parts, kind, others, _, hothers, rfl⟩ := bareTypes_cons_eq_ok_iff.1 h
    rw [List.map_cons, List.map_cons, ih hothers]
    rfl

/-- The named types of a table mention no types before their parts are read. -/
theorem isBare_of_bareTypes {entries : Json.Entries} {bare : List BareType}
    (h : bareTypes entries = .ok bare) : ∀ entry ∈ bare, entry.IsBare := by
  induction entries generalizing bare with
  | nil =>
    cases h
    simp
  | cons entry rest ih =>
    obtain ⟨parts, kind, others, _, hothers, rfl⟩ := bareTypes_cons_eq_ok_iff.1 h
    have hentry : (entryType entry.1 parts kind).IsBare := by
      intro ρ
      simp only [entryType, bareType, TypeDescriptor.renumber, TypeDescriptor.ofKind, List.map_nil,
        Option.map_none]
    exact List.forall_mem_cons.2 ⟨hentry, ih hothers⟩

/-- A table in another order is read just as well, with the same types under other numbers. -/
theorem exists_readTable_perm {entries entries' : Json.Entries} (hperm : entries.Perm entries')
    (hnames : (entries.map Prod.fst).Nodup)
    (hread : readTable (some (.obj entries)) .empty = .ok (table, g)) :
    ∃ ρ table' g', readTable (some (.obj entries')) .empty = .ok (table', g') ∧
      Function.Injective ρ ∧ g.Matches ρ g' ∧ (∀ id, g.size ≤ id → ρ id = id) ∧
      table.Renumbers ρ table' := by
  obtain ⟨bare, hbare, hlinks, rfl⟩ := readTable_eq_ok_iff.1 hread
  obtain ⟨bare', hbare', hperm'⟩ := exists_bareTypes_perm hperm hbare
  rw [← names_of_bareTypes hbare] at hnames
  obtain ⟨ρ, g', h⟩ := hlinks.exists_relinks_perm hperm' hnames [] (isBare_of_bareTypes hbare)
  exact ⟨ρ, _, g', readTable_eq_ok_iff.2 ⟨bare', hbare', h.links, rfl⟩, h.injective, h.graphs,
    h.outside, h.names⟩

/-! ## Reading the document -/

/-- The module of a document whose name, clients and settings are read. -/
def moduleOf (document : Json.Entries) (name : String) (clients : List Client)
    (config : List (Json × Json)) (types : TypeGraph) : Module where
  name := name
  org := textAt document "org"
  version := (document.lookup "version").elim "" fun version =>
    if version.truthy then version.display else ""
  clients := clients
  config := config
  types := types

/-- A document is read part by part: its table, its clients, its name and its settings. -/
theorem readModule_eq_ok_iff {document : Json.Entries} {m : Module} :
    readModule (.obj document) = .ok m ↔
      ∃ table g, readTable (document.lookup "types") .empty = .ok (table, g) ∧
        ∃ items, itemsAt document "clients" = .ok items ∧
          ∃ clients types, items.mapM (readClient table) g = .ok (clients, types) ∧
            ∃ name, nameOf .module document = .ok name ∧
              ∃ config, settingsOf (document.lookup "config") = .ok config ∧
                moduleOf document name clients config types = m := by
  -- the reader drops the state that the loader ends in
  have hload : readModule (.obj document) = .ok m ↔
      ∃ types, loadModule (.obj document) .empty = .ok (m, types) := by
    show Prod.fst <$> loadModule (.obj document) .empty = .ok m ↔ _
    rw [map_eq_ok_iff]
    constructor
    · rintro ⟨⟨_, types⟩, hrun, rfl⟩
      exact ⟨types, hrun⟩
    · rintro ⟨types, hrun⟩
      exact ⟨_, hrun, rfl⟩
  have hget {types last now : TypeGraph} :
      (get : Loading TypeGraph) types = .ok (now, last) ↔ types = now ∧ types = last := by
    constructor
    · intro hrun
      cases hrun
      exact ⟨rfl, rfl⟩
    · rintro ⟨rfl, rfl⟩
      rfl
  simp only [hload, loadModule, loading_bind_eq_ok_iff, loading_lift_eq_ok_iff,
    loading_pure_eq_ok_iff, hget, moduleOf]
  -- a module without a version is loaded in the same steps
  cases document.lookup "version"
  all_goals
    constructor
    · rintro ⟨_, table, g, htable, items, _, ⟨hitems, rfl⟩, clients, types, hclients, name, _,
        ⟨hname, rfl⟩, config, _, ⟨hconfig, rfl⟩, _, _, ⟨rfl, rfl⟩, hm, rfl⟩
      exact ⟨table, g, htable, items, hitems, clients, _, hclients, name, hname, config, hconfig,
        hm⟩
    · rintro ⟨table, g, htable, items, hitems, clients, types, hclients, name, hname, config,
        hconfig, hm⟩
      exact ⟨types, table, g, htable, items, _, ⟨hitems, rfl⟩, clients, types, hclients, name, _,
        ⟨hname, rfl⟩, config, _, ⟨hconfig, rfl⟩, _, _, ⟨rfl, rfl⟩, hm, rfl⟩

/-- A thing is named by its key `name` alone. -/
theorem nameOf_congr {thing : Named} {entries entries' : Json.Entries} {name : String}
    (h : entries'.lookup "name" = entries.lookup "name")
    (hname : nameOf thing entries = .ok name) : nameOf thing entries' = .ok name := by
  obtain ⟨hfound, hnonempty⟩ := nameOf_eq_ok hname
  simp [nameOf, h, hfound, hnonempty]
  rfl

/-- A document with its table in another order describes the same module, with its types under
other numbers. -/
theorem exists_readModule_perm {document types types' : Json.Entries} {m : Module}
    (htypes : document.lookup "types" = some (.obj types)) (hperm : types.Perm types')
    (hnames : (types.map Prod.fst).Nodup) (hread : readModule (.obj document) = .ok m) :
    ∃ ρ m', readModule (.obj (Json.put "types" (.obj types') document)) = .ok m' ∧
      m.Renumbers ρ m' := by
  obtain ⟨table, g, htable, items, hitems, clients, graph, hclients, name, hname, config, hconfig,
    rfl⟩ := readModule_eq_ok_iff.1 hread
  rw [htypes] at htable
  obtain ⟨ρ, table', g', htable', hinj, hmatch, houtside, hrenumbers⟩ :=
    exists_readTable_perm hperm hnames htable
  -- the clients are read after the table, so none of their types has another number
  obtain ⟨block, rfl, hagain⟩ :=
    Follows.mapM (readClient_follows hrenumbers) items g graph clients hclients
  have hshift : Shifts ρ g.size g.size block.length := by
    intro i _
    exact houtside _ (Nat.le_add_right _ _)
  have hclients' := hagain g' (hmatch.size_eq ▸ hshift)
  have hgraph := (hmatch.append hshift).renumbers hinj fun id hid =>
    houtside id (Nat.le_trans (by simp) hid)
  have hother {key : String} (hkey : key ≠ "types") :
      (Json.put "types" (.obj types') document).lookup key = document.lookup key := by
    rw [Json.lookup_put, if_neg hkey]
  have hmodule : moduleOf (Json.put "types" (.obj types') document) = moduleOf document := by
    funext name clients config types
    simp [moduleOf, textAt, textAt?, hother]
  have hitems' : itemsAt (Json.put "types" (.obj types') document) "clients" = .ok items := by
    rw [itemsAt, hother (by decide)]
    exact hitems
  have hconfig' :
      settingsOf ((Json.put "types" (.obj types') document).lookup "config") = .ok config := by
    rw [hother (by decide)]
    exact hconfig
  have htypes' : (Json.put "types" (.obj types') document).lookup "types" =
      some (.obj types') := by
    rw [Json.lookup_put, if_pos rfl]
  have hkey : (Json.put "types" (.obj types') document).lookup "name" = document.lookup "name" :=
    hother (by decide)
  have hname' := nameOf_congr hkey hname
  refine ⟨ρ, _, readModule_eq_ok_iff.2 ⟨table', g', htypes' ▸ htable', items, hitems', _, _,
    hclients', name, hname', config, hconfig', rfl⟩, hgraph, ?_⟩
  rw [hmodule]
  rfl

/-! ## The order of the table -/

/-- A document is refused if it is refused with its table in another order. -/
theorem exists_fault_of_perm {document types types' : Json.Entries}
    (htypes : document.lookup "types" = some (.obj types)) (hperm : types.Perm types')
    (hnames : (types.map Prod.fst).Nodup)
    (hfault : ∃ fault, readModule (.obj (Json.put "types" (.obj types') document)) = .error fault) :
    ∃ fault, readModule (.obj document) = .error fault := by
  obtain ⟨fault, hfault⟩ := hfault
  -- the fault may be another one, since the table is read in order and its first fault counts
  cases hread : readModule (.obj document) with
  | error other => exact ⟨other, rfl⟩
  | ok m =>
    obtain ⟨_, m', hread', _⟩ := exists_readModule_perm htypes hperm hnames hread
    rw [hfault] at hread'
    cases hread'

/-- A document is refused if and only if it is refused with its table in another order. Otherwise
the same is generated from both, whether the settings are those of the document or others: the same
steps are announced, and the runs end with the same fault or with the same artifacts. -/
theorem generate_tableOrder {document types types' : Json.Entries}
    (htypes : document.lookup "types" = some (.obj types)) (hperm : types.Perm types')
    (hnames : (types.map Prod.fst).Nodup) :
    ((∃ fault, readModule (.obj document) = .error fault) ↔
      ∃ fault, readModule (.obj (Json.put "types" (.obj types') document)) = .error fault) ∧
    ∀ m m', readModule (.obj document) = .ok m →
      readModule (.obj (Json.put "types" (.obj types') document)) = .ok m' →
        ∃ ρ, m.Renumbers ρ m' ∧ (generate m).Renumbers ρ m'.types (generate m') ∧
          ∀ settings,
            (generateWith m settings).Renumbers ρ m'.types (generateWith m' settings) := by
  constructor
  · -- the document is its own reordering in the other order, so one direction gives both
    have hback : Json.put "types" (.obj types) (Json.put "types" (.obj types') document) =
        document := by
      rw [Json.put_put, Json.put_eq_self htypes]
    have htypes' : (Json.put "types" (.obj types') document).lookup "types" =
        some (.obj types') := by
      rw [Json.lookup_put, if_pos rfl]
    have hnames' := (hperm.map Prod.fst).nodup hnames
    constructor
    · intro hfault
      rw [← hback] at hfault
      exact exists_fault_of_perm htypes' hperm.symm hnames' hfault
    · exact exists_fault_of_perm htypes hperm hnames
  · intro m m' hread hread'
    obtain ⟨ρ, last, hlast, hrenumbers⟩ := exists_readModule_perm htypes hperm hnames hread
    rw [hread'] at hlast
    cases hlast
    refine ⟨ρ, hrenumbers, ?_, fun settings => ?_⟩
    · rw [generate_renumber hrenumbers]
      exact Run.renumbers_map _ ρ _
    · rw [generateWith_renumber hrenumbers]
      exact Run.renumbers_map _ ρ _

/-- A type table with a record and a union that refer to each other. -/
def circularTypes : Json.Entries :=
  [("Node", .obj [("kind", .str "record"), ("fields", .arr [
      .obj [("name", .str "next"), ("type", .obj [("ref", .str "Link")])]])]),
   ("Link", .obj [("kind", .str "union"), ("members", .arr [
      .obj [("ref", .str "Node")], .str "int"])])]

/-- A document with one operation, whose parameter is the union. -/
def circularDocument : Json.Entries :=
  [("name", .str "lists"), ("types", .obj circularTypes),
   ("clients", .arr [.obj [("name", .str "store"), ("operations", .arr [
      .obj [("name", .str "append"), ("params", .arr [
        .obj [("name", .str "link"), ("type", .obj [("ref", .str "Link")])]])]])]])]

theorem generate_tableOrder_circular :
    ∃ m m' ρ, readModule (.obj circularDocument) = .ok m ∧
      readModule (.obj (Json.put "types" (.obj circularTypes.reverse) circularDocument)) = .ok m' ∧
      m.Renumbers ρ m' ∧ (generate m).Renumbers ρ m'.types (generate m') := by
  have hread : (readModule (.obj circularDocument)).isOk = true := by decide +kernel
  have hread' : (readModule (.obj (Json.put "types" (.obj circularTypes.reverse)
      circularDocument))).isOk = true := by decide +kernel
  cases hm : readModule (.obj circularDocument) with
  | error fault =>
    rw [hm] at hread
    cases hread
  | ok m =>
    cases hm' : readModule (.obj (Json.put "types" (.obj circularTypes.reverse)
        circularDocument)) with
    | error fault =>
      rw [hm'] at hread'
      cases hread'
    | ok m' =>
      have hperm := (List.reverse_perm circularTypes).symm
      obtain ⟨ρ, hrenumbers, hgenerate, _⟩ :=
        (generate_tableOrder rfl hperm (by decide)).2 m m' hm hm'
      exact ⟨m, m', ρ, rfl, rfl, hrenumbers, hgenerate⟩

end SignatureForms.Document
