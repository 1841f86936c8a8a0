import Mathlib.Data.List.Nodup
import SignatureForms.Proofs.Wire.Fields
import SignatureForms.Proofs.Wire.Keys

/-!
# Numbering of a wire

The numbers of a wire run anew in the scope of each parameter. This module lists the keys of a wire
beside its declarations: a parameter has keys with its own number in the scope of the wire, and the
fields inside it have keys that count from zero in a scope of their own. As keys can be taken apart,
names of declarations differ where their keys do.

The module introduces:

* `ParamNode.keys scope expandRecords index node` — the keys of what a parameter declares;
* `numberedValues scope word ds` — the values with a word in a scope, each with its number;
* `CountsFields scope fields ds` — the declarations count the fields in the scope.

## Main results

* `nodup_wireKeys`: parameters with different names have different keys;
* `wire_nodup_countsFields`: the names of a wire differ, and fields are counted parameter by
  parameter.
-/

namespace SignatureForms

/-! ## Keys of declarations -/

/-- The words of the keys of a field. -/
def WireField.words (field : WireField) : List String :=
  ["param", "paramType"] ++ (if field.discriminator.isSome then ["dataType"] else [])
    ++ (if field.unionMember.isSome then ["unionMember"] else [])

/-- The keys of all fields of a scope. -/
def fieldKeys (scope : String) (fields : List WireField) : List WireKey :=
  fields.zipIdx.flatMap fun (field, index) => field.words.map (.numbered scope · index)

/-- The keys of what a parameter declares of itself. -/
def ParamNode.headKeys (scope : String) (expandRecords : Bool) (index : Nat) (node : ParamNode) :
    List WireKey :=
  [.numbered scope "param" index, .numbered scope "paramType" index]
    ++ (if (node.unfoldedName? expandRecords).isSome then [.recordName scope index] else [])
    ++ (if node.discriminator?.isSome then [.numbered scope "dataType" index] else [])

/-- The keys of what a parameter declares. -/
def ParamNode.keys (scope : String) (expandRecords : Bool) (index : Nat) (node : ParamNode) :
    List WireKey :=
  node.headKeys scope expandRecords index ++
    fieldKeys (node.fieldScope scope) ((node.inside expandRecords).map FieldNode.field)

theorem WireField.words_sublist (field : WireField) : field.words.Sublist wireWords := by
  unfold words
  cases field.discriminator.isSome <;> cases field.unionMember.isSome <;> decide

/-- The names of the declarations of a field are its keys. -/
theorem WireField.map_name_declarations (scope : String) (field : WireField) (index : Nat) :
    (field.declarations scope index).map Declaration.name =
      field.words.map (numberedKey scope · index) := by
  unfold declarations words
  cases field.discriminator <;> cases field.unionMember <;> rfl

/-- The names of the declarations of the fields of a scope are their keys. -/
theorem map_name_fieldDeclarations (scope : String) (fields : List WireField) :
    (fieldDeclarations scope fields).map Declaration.name =
      (fieldKeys scope fields).map WireKey.text := by
  simp only [fieldDeclarations, fieldKeys, List.map_flatMap, WireField.map_name_declarations,
    List.map_map]
  rfl

theorem ParamNode.map_name_headDeclarations (scope : String) (expandRecords : Bool) (index : Nat)
    (node : ParamNode) : (node.headDeclarations scope expandRecords index).map Declaration.name =
      (node.headKeys scope expandRecords index).map WireKey.text := by
  unfold headDeclarations headKeys
  cases node.unfoldedName? expandRecords <;> cases node.discriminator? <;> rfl

/-- The names of what a parameter declares are its keys. -/
theorem ParamNode.map_name_declarations (scope : String) (expandRecords : Bool) (index : Nat)
    (node : ParamNode) : (node.declarations scope expandRecords index).map Declaration.name =
      (node.keys scope expandRecords index).map WireKey.text := by
  rw [declarations, keys, List.map_append, List.map_append, map_name_headDeclarations,
    map_name_fieldDeclarations]

/-- Each of some declarations has one of their keys. -/
theorem exists_key_of_mem {ds : List Declaration} {keys : List WireKey}
    (hnames : ds.map Declaration.name = keys.map WireKey.text) {d : Declaration} (hd : d ∈ ds) :
    ∃ key ∈ keys, key.text = d.name := by
  rw [← List.mem_map, ← hnames]
  exact List.mem_map_of_mem hd

/-! ## Different keys -/

section Distinct

variable {scope : String} {expandRecords : Bool} {index : Nat} {node : ParamNode} {key : WireKey}
  {fields : List WireField}

/-- Two numbers of a list with its numbers differ. -/
theorem pairwise_zipIdx_ne {α : Type} (xs : List α) (start : Nat) :
    (xs.zipIdx start).Pairwise fun a b => a.2 ≠ b.2 := by
  have hnodup : ((xs.zipIdx start).map Prod.snd).Nodup := by
    rw [List.zipIdx_map_snd]
    exact List.nodup_range'
  exact List.pairwise_map.1 hnodup

/-- The keys of the fields of a scope are in it. -/
theorem scope_of_mem_fieldKeys (h : key ∈ fieldKeys scope fields) :
    key.scope = scope ∧ key.IsWire := by
  obtain ⟨⟨field, number⟩, -, hkey⟩ := List.mem_flatMap.1 h
  obtain ⟨word, hword, rfl⟩ := List.mem_map.1 hkey
  exact ⟨rfl, field.words_sublist.subset hword⟩

/-- The keys of the fields of a scope differ. -/
theorem nodup_fieldKeys (scope : String) (fields : List WireField) :
    (fieldKeys scope fields).Nodup := by
  refine List.nodup_flatMap.2 ⟨fun ⟨field, number⟩ _ => ?_, ?_⟩
  · have hwords : field.words.Nodup := field.words_sublist.nodup (by decide)
    refine hwords.map fun word other hsame => ?_
    cases hsame
    rfl
  · refine (pairwise_zipIdx_ne fields 0).imp fun hnumbers key hkey hagain => hnumbers ?_
    obtain ⟨word, -, rfl⟩ := List.mem_map.1 hkey
    obtain ⟨other, -, hsame⟩ := List.mem_map.1 hagain
    exact (WireKey.numbered.inj hsame).2.2.symm

/-- What a parameter declares of itself has keys with its number in the scope of the wire. -/
theorem scope_of_mem_headKeys (h : key ∈ node.headKeys scope expandRecords index) :
    key.scope = scope ∧ key.number = index ∧ key.IsWire := by
  have hwords : "param" ∈ wireWords ∧ "paramType" ∈ wireWords ∧ "dataType" ∈ wireWords := by
    decide
  simp only [ParamNode.headKeys, List.mem_append, List.mem_cons, List.not_mem_nil, or_false,
    List.mem_ite_nil_right] at h
  obtain ((rfl | rfl) | ⟨-, rfl⟩) | ⟨-, rfl⟩ := h
  · exact ⟨rfl, rfl, hwords.1⟩
  · exact ⟨rfl, rfl, hwords.2.1⟩
  · exact ⟨rfl, rfl, trivial⟩
  · exact ⟨rfl, rfl, hwords.2.2⟩

/-- What a parameter declares of itself has different keys. -/
theorem nodup_headKeys (scope : String) (expandRecords : Bool) (index : Nat) (node : ParamNode) :
    (node.headKeys scope expandRecords index).Nodup := by
  unfold ParamNode.headKeys
  cases (node.unfoldedName? expandRecords).isSome <;> cases node.discriminator?.isSome <;> simp

/-- The fields of a parameter are in a scope of their own. -/
theorem fieldScope_ne (scope : String) (node : ParamNode) : node.fieldScope scope ≠ scope := by
  refine scopedKey_ne_self scope fun hempty => ?_
  rw [ParamNode.name, NodeInfo.name, Naming.flatName, String.ofList_eq_empty_iff] at hempty
  exact Naming.flatNameChars_ne_nil _ hempty

/-- Parameters with different names have fields in different scopes. -/
theorem fieldScope_inj {other : ParamNode} :
    node.fieldScope scope = other.fieldScope scope ↔ node.name = other.name :=
  scopedKey_right_inj

/-- A key of a parameter is in the scope of the wire and has the number of the parameter, or it is
in the scope of the fields. -/
theorem scope_of_mem_keys (h : key ∈ node.keys scope expandRecords index) :
    key.IsWire ∧ (key.scope = scope ∧ key.number = index ∨ key.scope = node.fieldScope scope) := by
  rcases List.mem_append.1 h with hhead | hfield
  · obtain ⟨hscope, hnumber, hwire⟩ := scope_of_mem_headKeys hhead
    exact ⟨hwire, .inl ⟨hscope, hnumber⟩⟩
  · obtain ⟨hscope, hwire⟩ := scope_of_mem_fieldKeys hfield
    exact ⟨hwire, .inr hscope⟩

/-- The keys of a parameter differ. -/
theorem nodup_keys (scope : String) (expandRecords : Bool) (index : Nat) (node : ParamNode) :
    (node.keys scope expandRecords index).Nodup := by
  refine (nodup_headKeys scope expandRecords index node).append (nodup_fieldKeys _ _) ?_
  intro key hhead hfield
  exact fieldScope_ne scope node
    ((scope_of_mem_fieldKeys hfield).1.symm.trans (scope_of_mem_headKeys hhead).1)

/-- Parameters with different names and numbers share no key. -/
theorem disjoint_keys {other : ParamNode} {index' : Nat} (hname : node.name ≠ other.name)
    (hindex : index ≠ index') :
    (node.keys scope expandRecords index).Disjoint (other.keys scope expandRecords index') := by
  intro key hkey hagain
  rcases (scope_of_mem_keys hkey).2 with ⟨hscope, hnumber⟩ | hscope <;>
    rcases (scope_of_mem_keys hagain).2 with ⟨hscope', hnumber'⟩ | hscope'
  · exact hindex (hnumber.symm.trans hnumber')
  · exact fieldScope_ne scope other (hscope'.symm.trans hscope)
  · exact fieldScope_ne scope node (hscope.symm.trans hscope')
  · exact hname (fieldScope_inj.1 (hscope.symm.trans hscope'))

/-- Parameters with different names have different keys. -/
theorem nodup_wireKeys {params : List ParamNode} (hnames : (params.map ParamNode.name).Nodup) :
    (params.zipIdx.flatMap fun (node, index) => node.keys scope expandRecords index).Nodup := by
  rw [List.nodup_flatMap]
  refine ⟨fun ⟨node, index⟩ _ => nodup_keys scope expandRecords index node, ?_⟩
  -- any two parameters differ in their names and in their numbers, so they share no key
  have hpairs : (params.zipIdx.map Prod.fst).Pairwise fun node other => node.name ≠ other.name := by
    rw [List.zipIdx_map_fst]
    exact List.pairwise_map.1 hnames
  exact ((List.pairwise_map.1 hpairs).and (pairwise_zipIdx_ne params 0)).imp
    fun ⟨hname, hindex⟩ => disjoint_keys hname hindex

end Distinct

/-! ## Numbers in a scope -/

/-- The values that are declared with a word in a scope, each with its number. -/
def numberedValues (scope word : String) (ds : List Declaration) : List (String × Nat) :=
  ds.filterMap fun d => (keyNumber? scope word d.name).map (d.value, ·)

/-- The number of a name in a scope, whichever word it has. -/
def fieldNumber? (scope name : String) : Option Nat :=
  wireWords.findSome? fun word => keyNumber? scope word name

/-- The declarations count the fields in the scope. -/
structure CountsFields (scope : String) (fields : List FieldNode) (ds : List Declaration) :
    Prop where
  /-- In order of their first use, the numbers count up from zero. -/
  used : ((ds.map Declaration.name).filterMap (fieldNumber? scope)).eraseDups =
    List.range fields.length
  /-- Each number has the value of its field once. -/
  values : numberedValues scope "param" ds = (fields.map fun entry => entry.node.value).zipIdx
  /-- Each number has the kind of its field once. -/
  kinds : numberedValues scope "paramType" ds =
    (fields.map fun entry => entry.node.kind.name).zipIdx

section Counting

variable {scope : String} {expandRecords : Bool} {node : ParamNode}

/-- In its own scope a key with a word has its number for that word. -/
theorem keyNumber?_numberedKey {word word' : String} (hword : IsPlainWord word)
    (hword' : IsPlainWord word') (number : Nat) :
    keyNumber? scope word (numberedKey scope word' number) =
      if word = word' then some number else none := by
  split
  · next hsame =>
    rw [keyNumber?_eq_some_iff, hsame]
  · next hdiffer =>
    rw [Option.eq_none_iff_forall_ne_some]
    intro found hfound
    rw [keyNumber?_eq_some_iff, numberedKey_inj hword' hword] at hfound
    exact hdiffer hfound.2.1.symm

/-- Something is read only from declarations that have plain keys in the scope. -/
def ReadsScope {α : Type} (scope : String) (read : Declaration → Option α) : Prop :=
  ∀ d a, read d = some a →
    ∃ word number, IsPlainWord word ∧ d.name = numberedKey scope word number

namespace ReadsScope

variable {α : Type} {read : Declaration → Option α}

/-- Nothing is read from declarations that have keys in other scopes. -/
theorem filterMap_eq_nil {ds : List Declaration} {keys : List WireKey}
    (hread : ReadsScope scope read) (hnames : ds.map Declaration.name = keys.map WireKey.text)
    (hkeys : ∀ key ∈ keys, key.IsWire ∧ key.scope ≠ scope) : ds.filterMap read = [] := by
  rw [List.filterMap_eq_nil_iff]
  intro d hd
  rw [Option.eq_none_iff_forall_ne_some]
  intro a ha
  obtain ⟨word, number, hword, hname⟩ := hread d a ha
  obtain ⟨key, hkey, htext⟩ := exists_key_of_mem hnames hd
  -- a plain key that reads like one in the scope is in the scope
  have hplain : (WireKey.numbered scope word number).IsPlain := hword
  have hsame : key = .numbered scope word number :=
    (WireKey.text_inj (hkeys key hkey).1.isPlain hplain).1 (htext.trans hname)
  exact (hkeys key hkey).2 (by rw [hsame]; rfl)

/-- Of a parameter the fields are read, in their scope. -/
theorem filterMap_declarations (hread : ReadsScope (node.fieldScope scope) read) (index : Nat) :
    (node.declarations scope expandRecords index).filterMap read =
      (fieldDeclarations (node.fieldScope scope)
        ((node.inside expandRecords).map FieldNode.field)).filterMap read := by
  rw [ParamNode.declarations, List.filterMap_append,
    hread.filterMap_eq_nil (node.map_name_headDeclarations scope expandRecords index),
    List.nil_append]
  intro key hkey
  obtain ⟨hscope, -, hwire⟩ := scope_of_mem_headKeys hkey
  exact ⟨hwire, hscope.trans_ne (fieldScope_ne scope node).symm⟩

/-- Of parameters with other names nothing is read. -/
theorem filterMap_declarations_of_ne {other : ParamNode}
    (hread : ReadsScope (node.fieldScope scope) read) (hname : other.name ≠ node.name)
    (index : Nat) : (other.declarations scope expandRecords index).filterMap read = [] := by
  refine hread.filterMap_eq_nil (other.map_name_declarations scope expandRecords index) ?_
  intro key hkey
  obtain ⟨hwire, ⟨hscope, -⟩ | hscope⟩ := scope_of_mem_keys hkey
  · exact ⟨hwire, hscope.trans_ne (fieldScope_ne scope node).symm⟩
  · exact ⟨hwire, hscope.trans_ne fun hsame => hname (fieldScope_inj.1 hsame)⟩

/-- Of all parameters with different names the fields of just one are read. -/
theorem filterMap_wire (hread : ReadsScope (node.fieldScope scope) read) {params : List ParamNode}
    (hnames : (params.map ParamNode.name).Nodup) (hnode : node ∈ params) (start : Nat) :
    ((params.zipIdx start).flatMap fun (node, index) =>
        node.declarations scope expandRecords index).filterMap read =
      (fieldDeclarations (node.fieldScope scope)
        ((node.inside expandRecords).map FieldNode.field)).filterMap read := by
  obtain ⟨before, after, rfl⟩ := List.append_of_mem hnode
  -- the names of the parameters before and after it are others
  rw [List.map_append, List.map_cons, List.nodup_middle, List.nodup_cons, List.mem_append,
    not_or, List.mem_map, List.mem_map] at hnames
  have hothers (others : List ParamNode) (start : Nat)
      (h : ¬ ∃ other ∈ others, other.name = node.name) :
      ((others.zipIdx start).flatMap fun (node, index) =>
        node.declarations scope expandRecords index).filterMap read = [] := by
    rw [List.filterMap_flatMap, List.flatMap_eq_nil_iff]
    rintro ⟨other, index⟩ hother
    exact hread.filterMap_declarations_of_ne
      (fun hname => h ⟨other, List.fst_mem_of_mem_zipIdx hother, hname⟩) index
  rw [List.zipIdx_append, List.zipIdx_cons, List.flatMap_append, List.flatMap_cons,
    List.filterMap_append, List.filterMap_append, hothers before _ hnames.1.1,
    hothers after _ hnames.1.2, hread.filterMap_declarations, List.nil_append, List.append_nil]

end ReadsScope

/-- What is numbered with a word is read in its scope. -/
theorem readsScope_keyNumber? {α : Type} {word : String} (hword : IsPlainWord word)
    (result : Declaration → Nat → α) :
    ReadsScope scope fun d => (keyNumber? scope word d.name).map (result d) := by
  intro d a ha
  obtain ⟨number, hnumber, -⟩ := Option.map_eq_some_iff.1 ha
  exact ⟨word, number, hword, keyNumber?_eq_some_iff.1 hnumber⟩

/-- What is numbered with any of the words is read in its scope. -/
theorem readsScope_fieldNumber? : ReadsScope scope fun d => fieldNumber? scope d.name := by
  intro d number hnumber
  obtain ⟨word, hword, hsome⟩ := List.exists_of_findSome?_eq_some hnumber
  exact ⟨word, number, isPlainWord_of_mem_wireWords word hword, keyNumber?_eq_some_iff.1 hsome⟩

/-! ### Counting the fields of a scope -/

/-- Where each field has a word once, the fields of a scope have it with the numbers from zero. -/
theorem numberedValues_fieldDeclarations {word : String} {text : WireField → String}
    (h : ∀ (field : WireField) (index : Nat),
      numberedValues scope word (field.declarations scope index) = [(text field, index)])
    (fields : List WireField) :
    numberedValues scope word (fieldDeclarations scope fields) = (fields.map text).zipIdx := by
  unfold numberedValues at h ⊢
  rw [fieldDeclarations, List.filterMap_flatMap, List.zipIdx_map, List.map_eq_flatMap]
  simp only [h]
  rfl

/-- Each field has its value once, and its kind. -/
theorem numberedValues_declarations (scope : String) (field : WireField) (index : Nat) :
    numberedValues scope "param" (field.declarations scope index) = [(field.value, index)] ∧
      numberedValues scope "paramType" (field.declarations scope index) =
        [(field.kind.name, index)] := by
  have hwords : IsPlainWord "param" ∧ IsPlainWord "paramType" ∧ IsPlainWord "dataType" ∧
      IsPlainWord "unionMember" := by decide
  unfold numberedValues WireField.declarations
  cases field.discriminator <;> cases field.unionMember <;>
    simp [keyNumber?_numberedKey, hwords]

/-- The keys of a field have its number. -/
theorem fieldNumber?_numberedKey {word : String} (hword : word ∈ wireWords) (index : Nat) :
    fieldNumber? scope (numberedKey scope word index) = some index := by
  have hplain := isPlainWord_of_mem_wireWords
  -- a search for the number succeeds, and it can only find the number that the key has
  cases hfound : fieldNumber? scope (numberedKey scope word index) with
  | none =>
    rw [fieldNumber?, List.findSome?_eq_none_iff] at hfound
    have hnone := hfound word hword
    rw [keyNumber?_eq_some_iff.2 rfl] at hnone
    cases hnone
  | some number =>
    obtain ⟨other, hother, hnumber⟩ := List.exists_of_findSome?_eq_some hfound
    rw [keyNumber?_eq_some_iff,
      numberedKey_inj (hplain word hword) (hplain other hother)] at hnumber
    rw [hnumber.2.2]

/-- A field uses its number as often as it has words. -/
theorem filterMap_fieldNumber?_words (scope : String) (field : WireField) (index : Nat) :
    (field.words.map (numberedKey scope · index)).filterMap (fieldNumber? scope) =
      List.replicate field.words.length index := by
  rw [List.filterMap_map, ← List.map_const', ← List.filterMap_eq_map']
  exact List.filterMap_congr fun word hword =>
    fieldNumber?_numberedKey (field.words_sublist.subset hword) index

/-- Repeats of a number that does not come again count once. -/
theorem eraseDups_replicate_append {times number : Nat} {rest : List Nat} (htimes : 0 < times)
    (hrest : number ∉ rest) :
    (List.replicate times number ++ rest).eraseDups = number :: rest.eraseDups := by
  obtain ⟨more, rfl⟩ := Nat.exists_eq_add_one_of_ne_zero (Nat.ne_of_gt htimes)
  have hothers : rest.filter (fun other => !other == number) = rest := by
    rw [List.filter_eq_self]
    intro other hother
    simpa using fun hsame : other = number => hrest (hsame ▸ hother)
  rw [List.replicate_succ, List.cons_append, List.eraseDups_cons, List.filter_append, hothers,
    List.filter_replicate]
  simp

/-- Where each field has keys, the numbers of the keys of a scope count up in order of their first
use. -/
theorem eraseDups_fieldNumbers (fields : List WireField) (start : Nat) :
    ((fields.zipIdx start).flatMap fun (field, index) =>
        List.replicate field.words.length index).eraseDups =
      List.range' start fields.length := by
  induction fields generalizing start with
  | nil => rfl
  | cons field rest ih =>
    rw [List.zipIdx_cons, List.flatMap_cons, eraseDups_replicate_append, ih, List.length_cons,
      List.range'_succ]
    · simp [WireField.words]
    · intro hagain
      obtain ⟨⟨other, index⟩, hother, hmem⟩ := List.mem_flatMap.1 hagain
      have hlater := List.le_snd_of_mem_zipIdx hother
      rw [List.eq_of_mem_replicate hmem] at hlater
      exact absurd hlater (by simp)

/-- The declarations of the fields of a scope count them. -/
theorem countsFields_fieldDeclarations (scope : String) (entries : List FieldNode) :
    CountsFields scope entries (fieldDeclarations scope (entries.map FieldNode.field)) where
  used := by
    simp only [fieldDeclarations, List.map_flatMap, List.filterMap_flatMap,
      WireField.map_name_declarations, filterMap_fieldNumber?_words]
    rw [eraseDups_fieldNumbers, List.length_map, List.range_eq_range']
  values := by
    rw [numberedValues_fieldDeclarations fun field index =>
      (numberedValues_declarations scope field index).1, List.map_map]
    rfl
  kinds := by
    rw [numberedValues_fieldDeclarations fun field index =>
      (numberedValues_declarations scope field index).2, List.map_map]
    rfl

/-- Declarations count the fields just if those do of which the same is read in the scope. -/
theorem CountsFields.congr {fields : List FieldNode} {ds more : List Declaration}
    (h : CountsFields scope fields ds)
    (hmore : ∀ {α : Type} {read : Declaration → Option α}, ReadsScope scope read →
      more.filterMap read = ds.filterMap read) : CountsFields scope fields more where
  used := by
    have hused := h.used
    rw [List.filterMap_map] at hused ⊢
    exact (congrArg List.eraseDups (hmore readsScope_fieldNumber?)).trans hused
  values := (hmore (readsScope_keyNumber? (by decide) _)).trans h.values
  kinds := (hmore (readsScope_keyNumber? (by decide) _)).trans h.kinds

end Counting

/-! ## Wires -/

/-- A parameter of a path has keys with words that no wire has. -/
theorem name_ne_of_mem_pathDeclarations {segments : List Naming.Segment} {d : Declaration}
    (hd : d ∈ pathDeclarations segments) {key : WireKey} (hkey : key.IsWire) :
    d.name ≠ key.text := by
  obtain ⟨word, hplain, hforeign, number, hname⟩ : ∃ word, IsPlainWord word ∧ word ∉ wireWords ∧
      ∃ number, d.name = (WireKey.numbered "" word number).text := by
    obtain ⟨⟨segment, number⟩, -, hmem⟩ := List.mem_flatMap.1 hd
    simp only [List.mem_cons, List.not_mem_nil, or_false] at hmem
    rcases hmem with rfl | rfl
    · exact ⟨"pathParam", by decide, by decide, number, rfl⟩
    · exact ⟨"pathParamType", by decide, by decide, number, rfl⟩
  intro hsame
  have hnumbered : (WireKey.numbered "" word number).IsPlain := hplain
  rw [hname, WireKey.text_inj hnumbered hkey.isPlain] at hsame
  subst hsame
  exact hforeign hkey

/-- The names of a wire of parameters with different names differ from each other, and from those
of the parameters of a path. In the scope of each parameter the declarations count what is inside
it, through nested records and all records among the members of unions. -/
theorem wire_nodup_countsFields {params : List ParamNode} {scope : String} {expandRecords : Bool}
    {ds : List Declaration} (hnames : (params.map ParamNode.name).Nodup)
    (h : wire params scope expandRecords = .ok ds) :
    (ds.map Declaration.name).Nodup ∧
      (∀ segments, ∀ d ∈ pathDeclarations segments, d.name ∉ ds.map Declaration.name) ∧
      ∀ node ∈ params,
        CountsFields (node.fieldScope scope) (node.inside expandRecords) ds := by
  obtain ⟨-, rfl⟩ := wire_eq_ok_iff.1 h
  have hkeys : (params.zipIdx.flatMap fun (node, index) =>
      node.declarations scope expandRecords index).map Declaration.name =
        (params.zipIdx.flatMap fun (node, index) => node.keys scope expandRecords index).map
          WireKey.text := by
    simp only [List.map_flatMap, ParamNode.map_name_declarations]
  have hwire : ∀ key ∈ params.zipIdx.flatMap fun (node, index) =>
      node.keys scope expandRecords index, key.IsWire := by
    intro key hkey
    obtain ⟨_, -, hmem⟩ := List.mem_flatMap.1 hkey
    exact (scope_of_mem_keys hmem).1
  rw [hkeys]
  refine ⟨?_, fun segments d hd hmem => ?_, fun node hnode => ?_⟩
  -- keys of a wire can be taken apart, so that different keys have different texts
  · exact (nodup_wireKeys hnames).map_on fun key hkey other hother htext =>
      (WireKey.text_inj (hwire key hkey).isPlain (hwire other hother).isPlain).1 htext
  · obtain ⟨key, hkey, htext⟩ := List.mem_map.1 hmem
    exact name_ne_of_mem_pathDeclarations hd (hwire key hkey) htext.symm
  · exact (countsFields_fieldDeclarations _ _).congr fun hread =>
      hread.filterMap_wire hnames hnode 0

/-- A record that holds a record and a choice, and a parameter whose name reads like a key. -/
def uploadParams : List ParamNode :=
  let text (value : String) : ParamNode := .simple (.plain "0" value true none) .string
  let part (value label : String) (fields : List ParamNode) : ParamNode :=
    .record (.plain "0" value true none) label value fields
  [part "file" "File"
      [text "file.name", part "file.owner" "Owner" [text "file.owner.id"],
        .union (.plain "2" "file.source" true none)
          [part "file.source" "Local" [text "file.source.path"],
            part "file.source" "Remote" [text "file.source.url", text "file.source.token"]]],
    text "file_param1"]

theorem wire_nodup_countsFields_upload :
    ∃ ds, wire uploadParams "" true = .ok ds ∧ (ds.map Declaration.name).Nodup ∧
      (∀ segments, ∀ d ∈ pathDeclarations segments, d.name ∉ ds.map Declaration.name) ∧
      ∀ node ∈ uploadParams, CountsFields (node.fieldScope "") (node.inside true) ds :=
  ⟨_, rfl, wire_nodup_countsFields (by decide) rfl⟩

end SignatureForms
