import SignatureForms.Proofs.Artifact.Conservation
import SignatureForms.Proofs.Console.Places

/-!
# Paths of the files of a module

The template of an operation is kept in a directory of its own kind, but the forms of all operations
of a module share one. With several clients the connection goes before the names of their
operations, though not before that of an init operation, which is the connection itself. So it is
the names of the forms that decide whether all files of a module can be told apart.

The module introduces:

* `made.formNames` — the names of the forms, in order;
* `made.FormsApart` — no form of a client has the name of another one of this or another client;
* `ConnectionsApart connection other` — neither connection starts the names of the other's forms.

## Main results

* `nodup_outputPath_iff`: files are written to different paths just if the forms are apart;
* `formsApart_of_connectionsApart`: they are apart if the connections of several clients are;
* `outputPaths_nodup_iff`: in that case each file of a generated module keeps its own text, and
  otherwise there are fewer files than paths.
-/

namespace SignatureForms

/-! ## Names of forms -/

/-- The connection of a client, as its report has it. -/
def ClientArtifacts.connection (c : ClientArtifacts) : String :=
  c.report.connectionType.getD ""

/-- The artifacts of a client, each as the directory of its template and the name of its files. -/
def ClientArtifacts.entries (c : ClientArtifacts) (several : Bool) : List (String × String) :=
  (c.init.toList.map fun a => ("config", a.name)) ++
    c.operations.map fun a => ("functions", c.before several ++ a.name)

/-- The names that lead to the two files of an artifact: its template and its form. -/
def entryNames (e : String × String) : List (List String) :=
  [[e.1, e.2 ++ ".xml"], ["uischema", e.2 ++ ".json"]]

/-- The names of the forms of a client. -/
def ClientArtifacts.formNames (c : ClientArtifacts) (several : Bool) : List String :=
  c.init.toList.map OperationArtifact.name ++ c.operations.map fun a => c.before several ++ a.name

namespace ModuleArtifacts

/-- The names of the forms of a module. -/
def formNames (made : ModuleArtifacts) : List String :=
  made.clients.flatMap (·.formNames (1 < made.clients.length))

/-- No form has the name of another one. -/
structure FormsApart (made : ModuleArtifacts) : Prop where
  /-- The form of an init operation does not have the name of another operation of the client. -/
  within : ∀ c ∈ made.clients, ∀ a ∈ c.init, ∀ op ∈ c.operations,
    c.before (1 < made.clients.length) ++ op.name ≠ a.name
  /-- Two clients have no name of a form in common. -/
  between : made.clients.Pairwise fun c other =>
    (c.formNames (1 < made.clients.length)).Disjoint
      (other.formNames (1 < made.clients.length))

end ModuleArtifacts

section Forms

variable {made : ModuleArtifacts}

theorem formNames_eq_map_entries (c : ClientArtifacts) (several : Bool) :
    c.formNames several = (c.entries several).map Prod.snd := by
  rw [ClientArtifacts.formNames, ClientArtifacts.entries, List.map_append, List.map_map,
    List.map_map]
  rfl

/-- Where the operations of each client have different names, the names of the forms differ just if
the forms are apart. -/
theorem nodup_formNames_iff
    (hnames : ∀ c ∈ made.clients, (c.operations.map OperationArtifact.name).Nodup) :
    made.formNames.Nodup ↔ made.FormsApart := by
  have hclient (c : ClientArtifacts) (hc : c ∈ made.clients) :
      (c.formNames (1 < made.clients.length)).Nodup ↔ ∀ a ∈ c.init, ∀ op ∈ c.operations,
        c.before (1 < made.clients.length) ++ op.name ≠ a.name := by
    have hinit : (c.init.toList.map OperationArtifact.name).Nodup := by
      cases c.init <;> simp
    have hoperations :
        (c.operations.map fun op => c.before (1 < made.clients.length) ++ op.name).Nodup := by
      have hmap := (hnames c hc).map fun name other =>
        (String.append_right_inj (c.before (1 < made.clients.length))).1
      rwa [List.map_map] at hmap
    rw [ClientArtifacts.formNames, List.nodup_append]
    simp only [hinit, hoperations, true_and, List.mem_map, Option.mem_toList,
      forall_exists_index, and_imp, forall_apply_eq_imp_iff₂]
    exact forall₄_congr fun _ _ _ _ => ne_comm
  rw [ModuleArtifacts.formNames, List.nodup_flatMap]
  constructor
  · intro ⟨hwithin, hbetween⟩
    exact ⟨fun c hc => (hclient c hc).1 (hwithin c hc), hbetween⟩
  · intro h
    exact ⟨fun c hc => (hclient c hc).2 (h.within c hc), h.between⟩

end Forms

/-! ## Paths of files -/

/-- The names that lead to a file from the output directory. -/
def OutputFile.names (file : OutputFile) : List String :=
  if file.directory.isEmpty then [file.name] else [file.directory, file.name]

/-- The file has a name, and is kept in the output directory or one of those below it. -/
structure OutputFile.IsPlaced (file : OutputFile) : Prop where
  isName : Console.IsName file.name
  /-- The name does not lead back. -/
  ne : file.name ≠ ".."
  directory : file.directory = "" ∨ file.directory ∈ outputDirectories

section Paths

open Console

variable {made : ModuleArtifacts} {file other : OutputFile}

theorem isName_of_mem_outputDirectories {directory : String}
    (h : directory ∈ outputDirectories) : IsName directory ∧ directory ≠ ".." := by
  simp only [outputDirectories, List.mem_cons, List.not_mem_nil, or_false] at h
  rcases h with rfl | rfl | rfl <;> exact ⟨⟨by decide, by decide, by decide⟩, by decide⟩

/-- The path of a file goes through the output directory to the names of the file. -/
theorem pathNames_outputPath (h : file.IsPlaced) (outputDir : String) :
    pathNames (outputPath outputDir file) = pathNames outputDir ++ file.names := by
  have hname := pathNames_joinPath (startsWith_of_isName h.isName)
  rw [outputPath, OutputFile.names]
  split
  · rw [hname, pathNames_of_isName h.isName]
  · next hempty =>
    have hdirectory := (isName_of_mem_outputDirectories
      (h.directory.resolve_left (by simpa using hempty))).1
    rw [hname, pathNames_joinPath (startsWith_of_isName hdirectory),
      pathNames_of_isName hdirectory, pathNames_of_isName h.isName, List.append_assoc]
    rfl

/-- The place of a file's path is found through the output directory and the names of the file. -/
theorem placeOf_outputPath (h : file.IsPlaced) (outputDir : String) :
    placeOf (outputPath outputDir file) = reach (pathNames outputDir) ++ file.names := by
  have hforward {name : String} (hname : name ≠ "..") (here : Place) :
      step here name = here ++ [name] := if_neg hname
  rw [placeOf, pathNames_outputPath h, reach, List.foldl_append, OutputFile.names]
  split
  · rw [List.foldl_cons, List.foldl_nil, hforward h.ne]
    rfl
  · next hempty =>
    have hdirectory := (isName_of_mem_outputDirectories
      (h.directory.resolve_left (by simpa using hempty))).2
    rw [List.foldl_cons, List.foldl_cons, List.foldl_nil, hforward hdirectory, hforward h.ne,
      List.append_assoc]
    rfl

/-- Files are written to the same path just if the same names lead to them. -/
theorem outputPath_eq_iff (h : file.IsPlaced) (hother : other.IsPlaced) (outputDir : String) :
    outputPath outputDir file = outputPath outputDir other ↔ file.names = other.names := by
  constructor
  · intro heq
    have hnames := congrArg pathNames heq
    rwa [pathNames_outputPath h, pathNames_outputPath hother, List.append_cancel_left_eq] at hnames
  · intro heq
    simp only [OutputFile.names] at heq
    rw [outputPath, outputPath]
    split at heq <;> split at heq <;> simp_all

/-- A name with an extension is neither empty nor leads anywhere else. -/
theorem isName_append {name extension : String} (h : '/' ∉ name.toList)
    (hextension : '/' ∉ extension.toList) (hlength : 2 < extension.length) :
    IsName (name ++ extension) ∧ name ++ extension ≠ ".." := by
  have hlong {text : String} (hshort : text.length ≤ 2) : name ++ extension ≠ text := by
    rintro rfl
    rw [String.length_append] at hshort
    omega
  refine ⟨⟨?_, hlong (by decide), hlong (by decide)⟩, hlong (by decide)⟩
  rw [String.toList_append, List.mem_append, not_or]
  exact ⟨h, hextension⟩

/-- The directory of a template is that of an operation or of a connection. -/
theorem directory_of_mem_entries {c : ClientArtifacts} {several : Bool} {e : String × String}
    (h : e ∈ c.entries several) : e.1 = "config" ∨ e.1 = "functions" := by
  rcases List.mem_append.1 h with h | h <;> obtain ⟨_, -, rfl⟩ := List.mem_map.1 h
  · exact .inl rfl
  · exact .inr rfl

/-- There are two files for each artifact of a client: the template in its directory, and the form
in that of all forms. -/
theorem map_names_files (c : ClientArtifacts) (several : Bool) :
    (c.files several).map OutputFile.names = (c.entries several).flatMap entryNames := by
  rw [ClientArtifacts.files, ClientArtifacts.entries, List.map_append, List.flatMap_append,
    List.map_flatMap, List.map_flatMap, List.flatMap_map, List.flatMap_map]
  simp only [OperationArtifact.files, String.empty_append]
  rfl

theorem exists_entry_of_mem_files {c : ClientArtifacts} {several : Bool}
    (h : file ∈ c.files several) : ∃ e ∈ c.entries several,
      (file.directory = e.1 ∧ file.name = e.2 ++ ".xml") ∨
        file.directory = "uischema" ∧ file.name = e.2 ++ ".json" := by
  have hfiles {a : OperationArtifact} {directory before : String}
      (hfile : file ∈ a.files directory before) :
      (file.directory = directory ∧ file.name = before ++ a.name ++ ".xml") ∨
        file.directory = "uischema" ∧ file.name = before ++ a.name ++ ".json" := by
    simp only [OperationArtifact.files, List.mem_cons, List.not_mem_nil, or_false] at hfile
    rcases hfile with rfl | rfl
    · exact .inl ⟨rfl, rfl⟩
    · exact .inr ⟨rfl, rfl⟩
  rcases List.mem_append.1 h with h | h <;> obtain ⟨a, ha, hfile⟩ := List.mem_flatMap.1 h
  · refine ⟨("config", a.name), List.mem_append_left _ (List.mem_map_of_mem ha), ?_⟩
    simpa only [String.empty_append] using hfiles hfile
  · exact ⟨("functions", c.before several ++ a.name),
      List.mem_append_right _ (List.mem_map_of_mem ha), hfiles hfile⟩

/-- The files of a module are placed if the names of the forms have no slash. -/
theorem isPlaced_of_mem_files (hplain : ∀ name ∈ made.formNames, '/' ∉ name.toList)
    (h : file ∈ made.files) : file.IsPlaced := by
  rcases List.mem_append.1 h with h | h
  · obtain ⟨c, hc, hfile⟩ := List.mem_flatMap.1 h
    obtain ⟨e, he, hentry⟩ := exists_entry_of_mem_files hfile
    have hslash : '/' ∉ e.2.toList := by
      refine hplain e.2 (List.mem_flatMap.2 ⟨c, hc, ?_⟩)
      rw [formNames_eq_map_entries]
      exact List.mem_map_of_mem he
    rcases hentry with ⟨hdirectory, hname⟩ | ⟨hdirectory, hname⟩
    · obtain ⟨hisName, hne⟩ := isName_append hslash
        (by decide : '/' ∉ ".xml".toList) (by decide)
      refine ⟨hname ▸ hisName, hname ▸ hne, .inr ?_⟩
      rcases directory_of_mem_entries he with he | he <;> rw [hdirectory, he] <;> decide
    · obtain ⟨hisName, hne⟩ := isName_append hslash
        (by decide : '/' ∉ ".json".toList) (by decide)
      exact ⟨hname ▸ hisName, hname ▸ hne, .inr (by rw [hdirectory]; decide)⟩
  · obtain ⟨hisName, hne⟩ := isName_append (by decide : '/' ∉ "".toList)
      (by decide : '/' ∉ "generation-report.log".toList) (by decide)
    rw [List.mem_singleton.1 h]
    exact ⟨hisName, hne, .inl rfl⟩

/-- The files of two artifacts are kept apart just if their forms are, since templates have
directories of their own. -/
theorem disjoint_entryNames_iff {e other : String × String}
    (he : e.1 = "config" ∨ e.1 = "functions")
    (hother : other.1 = "config" ∨ other.1 = "functions") :
    (entryNames e).Disjoint (entryNames other) ↔ e.2 ≠ other.2 := by
  have htemplate {e : String × String} (he : e.1 = "config" ∨ e.1 = "functions") :
      e.1 ≠ "uischema" := by
    rcases he with he | he <;> rw [he] <;> decide
  have hmem {e : String × String} {names : List String} (h : names ∈ entryNames e) :
      names = [e.1, e.2 ++ ".xml"] ∨ names = ["uischema", e.2 ++ ".json"] := by
    simpa only [entryNames, List.mem_cons, List.not_mem_nil, or_false] using h
  constructor
  · intro hdisjoint heq
    refine hdisjoint (List.mem_cons_of_mem _ List.mem_cons_self) ?_
    rw [heq]
    exact List.mem_cons_of_mem _ List.mem_cons_self
  · intro hne names hnames hnames'
    rcases hmem hnames with rfl | rfl <;> rcases hmem hnames' with heq | heq <;>
      simp only [List.cons.injEq, and_true] at heq
    · exact hne ((String.append_left_inj _).1 heq.2)
    · exact htemplate he heq.1
    · exact htemplate hother heq.1.symm
    · exact hne ((String.append_left_inj _).1 heq.2)

/-- The names that lead to the files of a module differ just if the names of the forms do. -/
theorem nodup_names_iff (made : ModuleArtifacts) :
    (made.files.map OutputFile.names).Nodup ↔ made.formNames.Nodup := by
  let several : Bool := 1 < made.clients.length
  let entries := made.clients.flatMap (·.entries several)
  have hfiles : made.files.map OutputFile.names =
      entries.flatMap entryNames ++ [["generation-report.log"]] := by
    rw [ModuleArtifacts.files, List.map_append, List.map_flatMap, List.flatMap_assoc]
    simp only [map_names_files]
    rfl
  have hforms : made.formNames = entries.map Prod.snd := by
    rw [ModuleArtifacts.formNames, List.map_flatMap]
    simp only [formNames_eq_map_entries]
    rfl
  have hdirectory {e : String × String} (he : e ∈ entries) :
      e.1 = "config" ∨ e.1 = "functions" := by
    obtain ⟨c, -, hmem⟩ := List.mem_flatMap.1 he
    exact directory_of_mem_entries hmem
  have hentry (e : String × String) (he : e ∈ entries) : (entryNames e).Nodup := by
    rcases hdirectory he with h | h <;> simp [entryNames, h]
  have hreport : (entries.flatMap entryNames).Disjoint [["generation-report.log"]] := by
    rw [List.disjoint_singleton]
    intro hmem
    obtain ⟨e, -, hnames⟩ := List.mem_flatMap.1 hmem
    simp [entryNames] at hnames
  have hpairwise : (entries.map Prod.snd).Nodup ↔
      entries.Pairwise fun e other => (entryNames e).Disjoint (entryNames other) := by
    rw [List.Nodup, List.pairwise_map]
    exact List.Pairwise.iff_of_mem fun he hother =>
      (disjoint_entryNames_iff (hdirectory he) (hdirectory hother)).symm
  rw [hfiles, hforms, hpairwise, List.nodup_append', List.nodup_flatMap]
  exact ⟨fun h => h.1.2, fun h => ⟨⟨hentry, h⟩, List.nodup_singleton _, hreport⟩⟩

/-- Files are written to different paths just if the forms are apart. -/
theorem nodup_outputPath_iff
    (hnames : ∀ c ∈ made.clients, (c.operations.map OperationArtifact.name).Nodup)
    (hplain : ∀ name ∈ made.formNames, '/' ∉ name.toList) (outputDir : String) :
    (made.files.map (outputPath outputDir)).Nodup ↔ made.FormsApart := by
  rw [← nodup_formNames_iff hnames, ← nodup_names_iff, List.Nodup, List.Nodup, List.pairwise_map,
    List.pairwise_map]
  refine List.Pairwise.iff_of_mem fun hfile hother => ?_
  exact (outputPath_eq_iff (isPlaced_of_mem_files hplain hfile)
    (isPlaced_of_mem_files hplain hother) outputDir).not

/-- Files are written to different places just if the forms are apart. -/
theorem nodup_placeOf_iff
    (hnames : ∀ c ∈ made.clients, (c.operations.map OperationArtifact.name).Nodup)
    (hplain : ∀ name ∈ made.formNames, '/' ∉ name.toList) (outputDir : String) :
    (made.files.map fun file => placeOf (outputPath outputDir file)).Nodup ↔ made.FormsApart := by
  rw [← nodup_formNames_iff hnames, ← nodup_names_iff]
  simp only [List.Nodup, List.pairwise_map]
  refine List.Pairwise.iff_of_mem fun hfile hother => ?_
  rw [placeOf_outputPath (isPlaced_of_mem_files hplain hfile),
    placeOf_outputPath (isPlaced_of_mem_files hplain hother), ne_eq, List.append_cancel_left_eq]

/-- A file has a place once the directories below the output directory are made, if the output
directory is not given from the root. -/
theorem place?_outputPath (h : file.IsPlaced) {outputDir : String}
    (hrelative : outputDir.startsWith "/" = false) (w : Workspace) :
    ((outputDirectories.map (joinPath outputDir)).foldl Workspace.makeDirectory w).place?
        (outputPath outputDir file) = some (placeOf (outputPath outputDir file)) := by
  have hwalk {directory : String} (hdirectory : directory ∈ outputDirectories) {n : Nat}
      (hn : n ≤ (pathNames (joinPath outputDir directory)).length) :=
    isDirectory_foldl_makeDirectory (List.mem_map_of_mem hdirectory) w hn
  rw [outputPath]
  split
  · refine place?_joinPath (fun n hn => ?_) hrelative h.isName
    -- the output directory is on the way to those below it
    have hforms : "uischema" ∈ outputDirectories := by decide
    have hnames := pathNames_joinPath
      (startsWith_of_isName (isName_of_mem_outputDirectories hforms).1) outputDir
    have hmade := hwalk hforms (n := n) (by rw [hnames, List.length_append]; omega)
    rwa [hnames, List.take_append_of_le_length hn] at hmade
  · next hempty =>
    have hdirectory := h.directory.resolve_left (by simpa using hempty)
    have hstart := startsWith_of_isName (isName_of_mem_outputDirectories hdirectory).1
    exact place?_joinPath (fun n hn => hwalk hdirectory hn)
      (startsWith_joinPath hrelative hstart) h.isName

/-- Below an output directory that is not given from the root all files of a module are written:
each to its place, one after the other. -/
theorem carryOut_writeArtifacts (hplain : ∀ name ∈ made.formNames, '/' ∉ name.toList)
    {outputDir : String} (hrelative : outputDir.startsWith "/" = false) (w : Workspace) :
    (Outcome.mk "" [] w none).carryOut (writeArtifacts made outputDir) =
      (Outcome.mk "" []
        ((outputDirectories.map (joinPath outputDir)).foldl Workspace.makeDirectory w) none).putAll
          (made.files.map fun file => (outputPath outputDir file, file.text)) := by
  have hactions : writeArtifacts made outputDir =
      (outputDirectories.map (joinPath outputDir)).map .makeDirectory ++
        (made.files.map fun file => (outputPath outputDir file, file.text)).map
          fun write => .write write.1 write.2 := by
    rw [writeArtifacts, List.map_map, List.map_map]
    rfl
  rw [hactions, carryOut_makeDirectories]
  refine carryOut_writes fun write hwrite => ?_
  obtain ⟨file, hfile, rfl⟩ := List.mem_map.1 hwrite
  exact place?_outputPath (isPlaced_of_mem_files hplain hfile) hrelative w

end Paths

/-! ## Connections -/

/-- Two connections differ, and neither starts a name that is prefixed with the other. -/
def ConnectionsApart (connection other : String) : Prop :=
  connection ≠ other ∧ ¬ (connection ++ "_").toList <+: other.toList ∧
    ¬ (other ++ "_").toList <+: connection.toList

section Connections

variable {made : ModuleArtifacts}

theorem before_true (c : ClientArtifacts) : c.before true = c.connection ++ "_" := rfl

theorem before_false (c : ClientArtifacts) : c.before false = "" := rfl

/-- With several clients the names of forms begin with the connection, and go on with an underscore
unless they end there. -/
theorem eq_or_prefix_of_mem_formNames {c : ClientArtifacts}
    (hinit : ∀ a ∈ c.init, a.name = c.connection) {name : String}
    (h : name ∈ c.formNames true) :
    name = c.connection ∨ (c.connection ++ "_").toList <+: name.toList := by
  rcases List.mem_append.1 h with h | h <;> obtain ⟨a, ha, rfl⟩ := List.mem_map.1 h
  · exact .inl (hinit a (Option.mem_toList.1 ha))
  · refine .inr ⟨a.name.toList, ?_⟩
    rw [before_true, ← String.toList_append]

/-- Where connections are apart, so are the names that begin with them. -/
theorem ConnectionsApart.ne {connection other name : String} (h : ConnectionsApart connection other)
    (hname : name = connection ∨ (connection ++ "_").toList <+: name.toList) :
    ¬ (name = other ∨ (other ++ "_").toList <+: name.toList) := by
  -- of two connections that begin one name with an underscore each, the shorter begins the other
  have hshorter {first second : String} (hne : first ≠ second)
      (hbegins : (first ++ "_").toList <+: (second ++ "_").toList) :
      (first ++ "_").toList <+: second.toList := by
    have hsecond : (second ++ "_").toList = second.toList ++ ['_'] := String.toList_append
    rw [hsecond] at hbegins
    refine (List.prefix_concat_iff.1 hbegins).resolve_left fun heq => hne ?_
    rw [← hsecond, String.toList_inj] at heq
    exact (String.append_left_inj _).1 heq
  obtain ⟨hne, hother, hconnection⟩ := h
  rintro (rfl | hbegins)
  · rcases hname with rfl | hname
    · exact hne rfl
    · exact hother hname
  · rcases hname with rfl | hname
    · exact hconnection hbegins
    · rcases List.prefix_or_prefix_of_prefix hname hbegins with hle | hle
      · exact hother (hshorter hne hle)
      · exact hconnection (hshorter hne.symm hle)

/-- With several clients the forms are apart if their connections are. -/
theorem formsApart_of_connectionsApart
    (hinit : ∀ c ∈ made.clients, ∀ a ∈ c.init, a.name = c.connection)
    (hseveral : 1 < made.clients.length)
    (h : (made.clients.map ClientArtifacts.connection).Pairwise ConnectionsApart) :
    made.FormsApart := by
  have htrue : decide (1 < made.clients.length) = true := decide_eq_true hseveral
  constructor
  · intro c hc a ha op _ heq
    rw [htrue, hinit c hc a ha] at heq
    have hlength := congrArg String.length heq
    rw [before_true, String.length_append, String.length_append,
      show "_".length = 1 from rfl] at hlength
    omega
  · rw [List.pairwise_map] at h
    refine h.imp_of_mem fun hc hother hapart name hname hname' => ?_
    rw [htrue] at hname hname'
    exact hapart.ne (eq_or_prefix_of_mem_formNames (hinit _ hc) hname)
      (eq_or_prefix_of_mem_formNames (hinit _ hother) hname')

/-- A single client has its forms apart just if no operation has the name of a connection that is
set up. -/
theorem formsApart_iff_of_length_le_one
    (hinit : ∀ c ∈ made.clients, ∀ a ∈ c.init, a.name = c.connection)
    (hone : made.clients.length ≤ 1) :
    made.FormsApart ↔ ∀ c ∈ made.clients, c.init.isSome →
      c.connection ∉ c.operations.map OperationArtifact.name := by
  have hfalse : decide (1 < made.clients.length) = false := decide_eq_false (by omega)
  have hbetween (R : ClientArtifacts → ClientArtifacts → Prop) : made.clients.Pairwise R := by
    cases hclients : made.clients with
    | nil => exact .nil
    | cons c rest =>
      rw [hclients, List.length_cons] at hone
      rw [List.eq_nil_of_length_eq_zero (show rest.length = 0 by omega)]
      exact List.pairwise_singleton R c
  constructor
  · intro h c hc hsome hmem
    obtain ⟨a, ha⟩ := Option.isSome_iff_exists.1 hsome
    obtain ⟨op, hop, hname⟩ := List.mem_map.1 hmem
    refine h.within c hc a ha op hop ?_
    rw [hfalse, hinit c hc a ha, ← hname, before_false, String.empty_append]
  · intro h
    refine ⟨fun c hc a ha op hop heq => h c hc (Option.isSome_of_mem ha) ?_, hbetween _⟩
    rw [hfalse, hinit c hc a ha, before_false, String.empty_append] at heq
    exact List.mem_map.2 ⟨op, hop, heq⟩

end Connections

/-! ## Generated modules -/

open Console

/-- In a generated module the artifact of an init operation has the name of its connection. -/
theorem name_of_mem_init {types : TypeGraph} {settings : Settings} {clients : List Client}
    {made : List ClientArtifacts}
    (h : List.Forall₂ (ClientArtifacts.Conserves types settings) clients made)
    {c : ClientArtifacts} (hc : c ∈ made) {a : OperationArtifact} (ha : a ∈ c.init) :
    a.name = c.connection := by
  induction h with
  | nil => cases hc
  | cons hfirst _ ih =>
    rcases List.mem_cons.1 hc with rfl | hrest
    · rw [hfirst.connection a ha, ClientArtifacts.connection, hfirst.report]
      rfl
    · exact ih hrest

/-- The files of a generated module are kept apart just if its forms are. Where the operations of
each client have different names, without a slash in them or in a connection, the files are written
to different paths just if no form has the name of another one; below an output directory that is
not given from the root all of them are written, there are as many files as paths just in that case,
and then each file has its own text. A single client has its forms apart just if no operation has
the name of the connection that is set up; with several clients it is enough that their connections
are apart. -/
theorem outputPaths_nodup_iff {module : Module} {settings : Settings} {made : ModuleArtifacts}
    (h : (generateWith module settings).outcome = .ok made)
    (hnames : ∀ c ∈ made.clients, (c.operations.map OperationArtifact.name).Nodup)
    (hplain : ∀ name ∈ made.formNames, '/' ∉ name.toList) (outputDir : String) :
    ((made.files.map (outputPath outputDir)).Nodup ↔ made.FormsApart) ∧
    (outputDir.startsWith "/" = false → ∀ w : Workspace,
      let last := (Outcome.mk "" [] w none).carryOut (writeArtifacts made outputDir)
      last.fault = none ∧
      (last.written.length = made.files.length ↔ made.FormsApart) ∧
      (made.FormsApart → ∀ file ∈ made.files,
        last.workspace.read? (outputPath outputDir file) = some file.text)) ∧
    (made.clients.length ≤ 1 → (made.FormsApart ↔ ∀ c ∈ made.clients, c.init.isSome →
      c.connection ∉ c.operations.map OperationArtifact.name)) ∧
    (1 < made.clients.length →
      (made.clients.map ClientArtifacts.connection).Pairwise ConnectionsApart →
        made.FormsApart) := by
  have hinit : ∀ c ∈ made.clients, ∀ a ∈ c.init, a.name = c.connection := fun c hc a ha =>
    name_of_mem_init (generateWith_conserves h).2 hc ha
  refine ⟨nodup_outputPath_iff hnames hplain outputDir, fun hrelative w => ?_,
    formsApart_iff_of_length_le_one hinit, formsApart_of_connectionsApart hinit⟩
  intro last
  let writes := made.files.map fun file => (outputPath outputDir file, file.text)
  have hlast : last = _ := carryOut_writeArtifacts hplain hrelative w
  have hplaces : (writes.map fun write => placeOf write.1) =
      made.files.map fun file => placeOf (outputPath outputDir file) := by
    rw [List.map_map]
    rfl
  have hapart : (writes.map fun write => placeOf write.1).Nodup ↔ made.FormsApart := by
    rw [hplaces, nodup_placeOf_iff hnames hplain]
  rw [hlast]
  refine ⟨fault_putAll _ _, ?_, fun hforms file hfile => ?_⟩
  · have hcount : made.files.length = writes.length := (List.length_map _).symm
    rw [hcount, ← hapart]
    exact length_written_putAll rfl
  · rw [Workspace.read?, place?_putAll, place?_outputPath (isPlaced_of_mem_files hplain hfile)
      hrelative, Option.bind_some]
    exact lookup_putAll_of_mem (hapart.2 hforms) (List.mem_map_of_mem hfile) _

theorem outputPaths_nodup_search :
    ∃ made, (generateWith searchModule .default).outcome = .ok made ∧
      (made.files.map (outputPath "out")).Nodup ∧
      (∀ file ∈ made.files, ((Outcome.mk "" [] default none).carryOut
        (writeArtifacts made "out")).workspace.read? (outputPath "out" file) = some file.text) := by
  obtain ⟨made, hmade, hforms, hclients⟩ : ∃ made,
      (generateWith searchModule .default).outcome = .ok made ∧ made.formNames = ["rpc", "search"] ∧
        made.clients.map (fun c => (c.connection, c.operations.map OperationArtifact.name)) =
          [("rpc", ["search"])] := ⟨_, rfl, rfl, rfl⟩
  have hclient : ∀ c ∈ made.clients,
      (c.connection, c.operations.map OperationArtifact.name) = ("rpc", ["search"]) :=
    fun c hc => List.mem_singleton.1 (hclients ▸ List.mem_map_of_mem hc)
  have hone : made.clients.length ≤ 1 := by
    have hlength := congrArg List.length hclients
    rw [List.length_map] at hlength
    exact Nat.le_of_eq hlength
  obtain ⟨hpaths, hwritten, hsingle, -⟩ := outputPaths_nodup_iff hmade
    (fun c hc => by rw [(Prod.mk.inj (hclient c hc)).2]; decide) (by rw [hforms]; decide) "out"
  have hapart : made.FormsApart := (hsingle hone).2 fun c hc _ => by
    rw [(Prod.mk.inj (hclient c hc)).1, (Prod.mk.inj (hclient c hc)).2]
    decide
  exact ⟨made, hmade, hpaths.2 hapart,
    (hwritten (by rw [startsWith_slash]; decide) default).2.2 hapart⟩

/-- A module with one client that has an operation of the name of its connection. -/
def mailboxModule : Module where
  name := "mailbox"
  org := ""
  version := ""
  config := []
  types := .empty
  clients :=
    let op (name : String) (kind : OperationKind) : Operation :=
      { name, kind, params := [], operationId := none, path := [], returns := none, doc := "" }
    [{ name := "Mailbox", connectionType := "mail", init := some (op "init" .init)
       operations := [op "mail" .remote] }]

/-- The form of an operation is written over that of the connection if both have one name. -/
theorem outputPaths_collide :
    ∃ made, (generateWith mailboxModule .default).outcome = .ok made ∧
      (∀ c ∈ made.clients, (c.operations.map OperationArtifact.name).Nodup) ∧
      made.files.map OutputFile.path =
        ["config/mail.xml", "uischema/mail.json", "functions/mail.xml", "uischema/mail.json",
          "generation-report.log"] ∧
      ¬ (made.files.map (outputPath "out")).Nodup := by
  obtain ⟨made, hmade, hnames, hforms, hpaths⟩ : ∃ made,
      (generateWith mailboxModule .default).outcome = .ok made ∧
        made.clients.map (fun c => c.operations.map OperationArtifact.name) = [["mail"]] ∧
        made.formNames = ["mail", "mail"] ∧
        made.files.map OutputFile.path =
          ["config/mail.xml", "uischema/mail.json", "functions/mail.xml", "uischema/mail.json",
            "generation-report.log"] := ⟨_, rfl, rfl, rfl, rfl⟩
  have hdistinct : ∀ c ∈ made.clients, (c.operations.map OperationArtifact.name).Nodup := by
    intro c hc
    have hmem := List.mem_map_of_mem (f := fun c => c.operations.map OperationArtifact.name) hc
    rw [hnames, List.mem_singleton] at hmem
    rw [hmem]
    decide
  refine ⟨made, hmade, hdistinct, hpaths, ?_⟩
  rw [nodup_outputPath_iff hdistinct (by rw [hforms]; decide), ← nodup_formNames_iff hdistinct,
    hforms]
  decide

end SignatureForms
