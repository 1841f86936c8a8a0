import Mathlib.Data.List.Dedup
import SignatureForms.Console.Workspace

/-!
# Paths and places

A path is read as the names that it goes through, and joining two paths joins these. In a working
directory the names lead to a place, where a file keeps its text unless another one is written to
the same place.

The module introduces:

* `IsName name` — a path may go through the name: it has no slash, is not empty and does not stand;
* `placeOf path` — the place of a path where all names on the way are those of directories;
* `o.putAll writes` — texts are written to the places of paths, one after the other.

## Main results

* `pathNames_joinPath`: a path below another one goes on from where this one ends;
* `place?_joinPath`: a file has a place in a directory that can be walked through;
* `carryOut_writes`: files that have a place are written;
* `lookup_putAll_of_mem`, `length_written_putAll`: files that are written to different places all
  keep their texts, and otherwise there are fewer files than writes.
-/

namespace SignatureForms.Console

/-! ## Names on a path -/

/-- A path may go through the name: it is not empty, does not stand for where it is, and has no
slash. -/
def IsName (name : String) : Prop :=
  '/' ∉ name.toList ∧ name ≠ "" ∧ name ≠ "."

section Paths

variable {base path name : String} {names : List String}

/-- Two paths with a slash between them go through the names of both. -/
theorem pathNames_append (base path : String) :
    pathNames (base ++ "/" ++ path) = pathNames base ++ pathNames path := by
  have hchars : (base ++ "/" ++ path).toList = base.toList ++ '/' :: path.toList := by
    simp only [String.toList_append, List.append_assoc]
    rfl
  rw [pathNames, hchars, List.splitOn_append_cons_self, List.map_append, List.filter_append]
  rfl

theorem pathNames_empty : pathNames "" = [] := by decide

theorem pathNames_of_isName (h : IsName name) : pathNames name = [name] := by
  rw [pathNames, List.splitOn_eq_singleton h.1, List.map_singleton, String.ofList_toList,
    List.filter_cons_of_pos (by simp [h.2])]
  rfl

/-- No piece of a split holds the character at which it was split. -/
theorem notMem_of_mem_splitOn {c : Char} {chars piece : List Char}
    (h : piece ∈ chars.splitOn c) : c ∉ piece := by
  induction chars generalizing piece with
  | nil =>
    rw [List.splitOn_nil] at h
    rw [List.mem_singleton.1 h]
    exact List.not_mem_nil
  | cons first rest ih =>
    rw [List.splitOn_cons_eq_if_modifyHead] at h
    split at h
    · rcases List.mem_cons.1 h with rfl | hrest
      · exact List.not_mem_nil
      · exact ih hrest
    · next hfirst =>
      -- the character goes into the first piece of the rest
      cases hsplit : rest.splitOn c with
      | nil => exact absurd hsplit (List.splitOn_ne_nil c rest)
      | cons head tail =>
        rw [hsplit, List.modifyHead_cons] at h
        rw [hsplit] at ih
        rcases List.mem_cons.1 h with rfl | htail
        · have hhead := ih List.mem_cons_self
          rw [List.mem_cons, not_or]
          exact ⟨fun heq => hfirst (beq_iff_eq.2 heq.symm), hhead⟩
        · exact ih (List.mem_cons_of_mem _ htail)

/-- What a path goes through are names. -/
theorem isName_of_mem_pathNames (h : name ∈ pathNames path) : IsName name := by
  obtain ⟨hmem, hname⟩ := List.mem_filter.1 h
  obtain ⟨chars, hchars, rfl⟩ := List.mem_map.1 hmem
  refine ⟨?_, by simpa using hname⟩
  rw [String.toList_ofList]
  exact notMem_of_mem_splitOn hchars

/-- Names with slashes between them are what the path goes through. -/
theorem pathNames_intercalate (h : ∀ name ∈ names, IsName name) :
    pathNames ("/".intercalate names) = names := by
  induction names with
  | nil => exact pathNames_empty
  | cons name rest ih =>
    have hname := pathNames_of_isName (h name List.mem_cons_self)
    have hrest := ih fun other hother => h other (List.mem_cons_of_mem _ hother)
    cases rest with
    | nil => rw [String.intercalate_singleton, hname]
    | cons next rest =>
      rw [String.intercalate_cons_cons, pathNames_append, hname, hrest, List.singleton_append]

/-- A path starts from the root just if its first character is a slash. -/
theorem startsWith_slash (path : String) :
    path.startsWith "/" = (path.toList.head? == some '/') := by
  rw [Bool.eq_iff_iff, String.startsWith_string_iff, show "/".toList = ['/'] from rfl]
  cases path.toList with
  | nil => simp
  | cons first rest =>
    simp only [List.cons_prefix_cons, List.nil_prefix, and_true, List.head?_cons, beq_iff_eq,
      Option.some.injEq]
    exact eq_comm

/-- There is one slash at the root, or two, or none. -/
theorem pathRoot_cases (path : String) :
    pathRoot path = "" ∨ pathRoot path = "/" ∨ pathRoot path = "//" := by
  rw [pathRoot]
  split <;> simp

theorem pathRoot_eq_empty (h : path.startsWith "/" = false) : pathRoot path = "" := by
  rw [startsWith_slash] at h
  rw [pathRoot]
  split
  case h_5 => rfl
  all_goals next hchars => simp [hchars] at h

theorem pathNames_pathRoot_append (path rest : String) :
    pathNames (pathRoot path ++ rest) = pathNames rest := by
  have hslash (rest : String) : pathNames ("/" ++ rest) = pathNames rest :=
    pathNames_append "" rest
  obtain hroot | hroot | hroot := pathRoot_cases path
  · rw [hroot, String.empty_append]
  · rw [hroot, hslash]
  · rw [hroot, show "//" ++ rest = "/" ++ ("/" ++ rest) by rw [← String.append_assoc]; rfl, hslash,
      hslash]

/-- The plain form of a path goes through the same names. -/
theorem pathNames_plainPath (path : String) : pathNames (plainPath path) = pathNames path := by
  have hnames : pathNames ("/".intercalate (pathNames path)) = pathNames path :=
    pathNames_intercalate fun _ => isName_of_mem_pathNames
  rw [plainPath]
  split
  · next hempty =>
    simp only [Bool.and_eq_true, String.isEmpty_iff] at hempty
    rw [← hnames, hempty.2]
    decide
  · rw [pathNames_pathRoot_append, hnames]

/-- A path below another one goes through the names of both. -/
theorem pathNames_joinPath (h : path.startsWith "/" = false) (base : String) :
    pathNames (joinPath base path) = pathNames base ++ pathNames path := by
  rw [joinPath]
  split
  · next hempty =>
    rw [h, Bool.false_or, String.isEmpty_iff] at hempty
    rw [hempty, pathNames_plainPath, pathNames_empty, List.nil_append]
  · rw [pathNames_plainPath, pathNames_append]

/-- A name does not start from the root. -/
theorem startsWith_of_isName (h : IsName name) : name.startsWith "/" = false := by
  rw [startsWith_slash, beq_eq_false_iff_ne]
  exact fun hslash => h.1 (List.mem_of_head? hslash)

/-- What comes after a text that is not empty has no part in its first character. -/
theorem head?_append {text : String} (h : text ≠ "") (rest : String) :
    (text ++ rest).toList.head? = text.toList.head? := by
  obtain ⟨first, others, hchars⟩ := List.exists_cons_of_ne_nil (mt String.toList_eq_nil_iff.1 h)
  rw [String.toList_append, hchars]
  rfl

/-- Names with slashes between them do not start from the root. -/
theorem startsWith_intercalate (h : ∀ name ∈ names, IsName name) :
    ("/".intercalate names).startsWith "/" = false := by
  cases names with
  | nil => rw [startsWith_slash]; rfl
  | cons name rest =>
    have hname := h name List.mem_cons_self
    cases rest with
    | nil =>
      rw [String.intercalate_singleton]
      exact startsWith_of_isName hname
    | cons next rest =>
      rw [startsWith_slash, String.intercalate_cons_cons, String.append_assoc,
        head?_append hname.2.1, ← startsWith_slash]
      exact startsWith_of_isName hname

/-- The plain form of a path that does not start from the root does not do so either. -/
theorem startsWith_plainPath (h : path.startsWith "/" = false) :
    (plainPath path).startsWith "/" = false := by
  rw [plainPath, pathRoot_eq_empty h, String.empty_append]
  split
  · rw [startsWith_slash]
    decide
  · exact startsWith_intercalate fun _ => isName_of_mem_pathNames

theorem startsWith_joinPath (hbase : base.startsWith "/" = false)
    (hpath : path.startsWith "/" = false) : (joinPath base path).startsWith "/" = false := by
  rw [joinPath]
  split
  · exact startsWith_plainPath hpath
  · next hempty =>
    rw [hpath, Bool.false_or, String.isEmpty_iff] at hempty
    refine startsWith_plainPath ?_
    rw [startsWith_slash] at hbase ⊢
    rwa [String.append_assoc, head?_append (by simpa using hempty)]

end Paths

/-! ## Walking through directories -/

section Directories

variable {w : Workspace} {here place : Place} {names : List String}

theorem walk_cons_cons (w : Workspace) (here : Place) (name next : String) (rest : List String) :
    w.walk here (name :: next :: rest) =
      if w.isDirectory (step here name) then w.walk (step here name) (next :: rest) else none :=
  rfl

/-- Names lead to a place if the places on the way are directories. -/
theorem walk_eq_some
    (h : ∀ n, 0 < n → n < names.length → w.isDirectory ((names.take n).foldl step here) = true) :
    w.walk here names = some (names.foldl step here) := by
  induction names generalizing here with
  | nil => rfl
  | cons name rest ih =>
    cases rest with
    | nil => rfl
    | cons next rest =>
      have hnext : w.isDirectory (step here name) = true := h 1 (by omega) (by simp)
      rw [walk_cons_cons, if_pos hnext]
      exact ih fun n hpos hlt => h (n + 1) (by omega) (by simpa using hlt)

/-- Making a directory leaves those that are there. -/
theorem isDirectory_makeDirectory (h : w.isDirectory place = true) (path : String) :
    (w.makeDirectory path).isDirectory place = true := by
  rw [Workspace.isDirectory, Bool.or_eq_true] at h ⊢
  refine h.imp_right fun hmem => ?_
  rw [List.contains_iff_mem] at hmem ⊢
  exact List.mem_append_left _ hmem

/-- A directory that is made can be walked through, up to itself. -/
theorem isDirectory_reach_makeDirectory (w : Workspace) (path : String) {n : Nat}
    (h : n ≤ (pathNames path).length) :
    (w.makeDirectory path).isDirectory (reach ((pathNames path).take n)) = true := by
  cases n with
  | zero => rfl
  | succ n =>
    rw [Workspace.isDirectory, Bool.or_eq_true]
    refine .inr (List.contains_iff_mem.2 (List.mem_append_right _ ?_))
    exact List.mem_map.2 ⟨n, List.mem_range.2 h, rfl⟩

/-- Directories that are made one after the other can all be walked through. -/
theorem isDirectory_foldl_makeDirectory {paths : List String} {path : String}
    (hpath : path ∈ paths) (w : Workspace) {n : Nat} (h : n ≤ (pathNames path).length) :
    (paths.foldl Workspace.makeDirectory w).isDirectory (reach ((pathNames path).take n)) =
      true := by
  have hkeep (paths : List String) {w : Workspace} {place : Place}
      (hplace : w.isDirectory place = true) :
      (paths.foldl Workspace.makeDirectory w).isDirectory place = true := by
    induction paths generalizing w with
    | nil => exact hplace
    | cons other rest ih => exact ih (isDirectory_makeDirectory hplace other)
  induction paths generalizing w with
  | nil => cases hpath
  | cons other rest ih =>
    rcases List.mem_cons.1 hpath with rfl | hrest
    · exact hkeep rest (isDirectory_reach_makeDirectory w path h)
    · exact ih hrest _

/-- The place of a path where all names on the way are those of directories. -/
def placeOf (path : String) : Place := reach (pathNames path)

/-- A file has a place in a directory that can be walked through. -/
theorem place?_joinPath {path name : String}
    (hwalk : ∀ n ≤ (pathNames path).length,
      w.isDirectory (reach ((pathNames path).take n)) = true)
    (hroot : path.startsWith "/" = false) (hname : IsName name) :
    w.place? (joinPath path name) = some (placeOf (joinPath path name)) := by
  have hstart := startsWith_of_isName hname
  have hnames : pathNames (joinPath path name) = pathNames path ++ [name] := by
    rw [pathNames_joinPath hstart, pathNames_of_isName hname]
  rw [Workspace.place?, startsWith_joinPath hroot hstart, if_neg (by decide), placeOf, hnames]
  refine walk_eq_some fun n _ hlt => ?_
  -- short of the last name, the names are those of the directory
  have hle : n ≤ (pathNames path).length := by
    rw [List.length_append, List.length_singleton] at hlt
    omega
  rw [List.take_append_of_le_length hle]
  exact hwalk n hle

end Directories

/-! ## Writing files -/

section Writes

variable {o : Outcome} {place : Place} {text : String}

theorem carryOut_makeDirectories (paths : List String) (o : Outcome) (rest : List Action) :
    o.carryOut (paths.map .makeDirectory ++ rest) =
      { o with workspace := paths.foldl Workspace.makeDirectory o.workspace }.carryOut rest := by
  induction paths generalizing o with
  | nil => rfl
  | cons path paths ih => exact ih _

/-- A file that is written has its text. -/
theorem lookup_put_self (w : Workspace) (place : Place) (text : String) :
    (w.put place text).files.lookup place = some text := by
  have hothers : (w.files.filter fun file => file.1 != place).lookup place = none := by
    rw [List.lookup_eq_none_iff]
    intro file hfile
    have hne := (List.mem_filter.1 hfile).2
    rw [bne_iff_ne] at hne ⊢
    exact hne.symm
  rw [Workspace.put, List.lookup_append, hothers]
  simp

/-- Files at other places keep theirs. -/
theorem lookup_put_of_ne {other : Place} (h : other ≠ place) (w : Workspace) (text : String) :
    (w.put place text).files.lookup other = w.files.lookup other := by
  have hwritten : List.lookup other [(place, text)] = none :=
    List.lookup_eq_none_iff.2 fun file hfile => by
      rw [List.mem_singleton.1 hfile]
      exact bne_iff_ne.2 h
  rw [Workspace.put, List.lookup_append, hwritten, Option.or_none]
  induction w.files with
  | nil => rfl
  | cons file rest ih =>
    rw [List.filter_cons, List.lookup_cons]
    split
    · rw [List.lookup_cons, ih]
    · next hfile =>
      have hplace : file.1 = place := by simpa using hfile
      rw [ih, hplace, beq_eq_false_iff_ne.2 h]

/-- A place does not depend on the files that are there. -/
theorem walk_put (w : Workspace) (place : Place) (text : String) (here : Place)
    (names : List String) : (w.put place text).walk here names = w.walk here names := by
  induction names generalizing here with
  | nil => rfl
  | cons name rest ih =>
    cases rest with
    | nil => rfl
    | cons next rest =>
      rw [walk_cons_cons, walk_cons_cons, ih]
      rfl

theorem place?_put (w : Workspace) (place : Place) (text path : String) :
    (w.put place text).place? path = w.place? path := by
  rw [Workspace.place?, Workspace.place?, walk_put]

/-- Texts are written to the places of the paths before them, one after the other. -/
def Outcome.putAll (o : Outcome) (writes : List (String × String)) : Outcome :=
  writes.foldl (fun o write => o.put (placeOf write.1) write.2) o

/-- Files that have a place are written. -/
theorem carryOut_writes {writes : List (String × String)}
    (h : ∀ write ∈ writes, o.workspace.place? write.1 = some (placeOf write.1)) :
    o.carryOut (writes.map fun write => .write write.1 write.2) = o.putAll writes := by
  induction writes generalizing o with
  | nil => rfl
  | cons write rest ih =>
    rw [List.map_cons, Outcome.carryOut, h write List.mem_cons_self]
    refine ih fun other hother => ?_
    rw [Outcome.put, place?_put]
    exact h other (List.mem_cons_of_mem _ hother)

theorem fault_putAll (o : Outcome) (writes : List (String × String)) :
    (o.putAll writes).fault = o.fault := by
  induction writes generalizing o with
  | nil => rfl
  | cons write rest ih => exact ih _

theorem place?_putAll (o : Outcome) (writes : List (String × String)) (path : String) :
    (o.putAll writes).workspace.place? path = o.workspace.place? path := by
  induction writes generalizing o with
  | nil => rfl
  | cons write rest ih => exact (ih _).trans (place?_put _ _ _ _)

/-- The files at places to which nothing is written keep their texts. -/
theorem lookup_putAll_of_notMem {writes : List (String × String)}
    (h : place ∉ writes.map fun write => placeOf write.1) (o : Outcome) :
    (o.putAll writes).workspace.files.lookup place = o.workspace.files.lookup place := by
  induction writes generalizing o with
  | nil => rfl
  | cons write rest ih =>
    rw [List.map_cons, List.mem_cons, not_or] at h
    exact (ih h.2 _).trans (lookup_put_of_ne h.1 _ _)

/-- Files that are written to different places all have their texts. -/
theorem lookup_putAll_of_mem {writes : List (String × String)} {write : String × String}
    (hapart : (writes.map fun write => placeOf write.1).Nodup) (h : write ∈ writes)
    (o : Outcome) :
    (o.putAll writes).workspace.files.lookup (placeOf write.1) = some write.2 := by
  induction writes generalizing o with
  | nil => cases h
  | cons first rest ih =>
    rw [List.map_cons, List.nodup_cons] at hapart
    rcases List.mem_cons.1 h with rfl | hrest
    · exact (lookup_putAll_of_notMem hapart.1 _).trans (lookup_put_self _ _ _)
    · exact ih hapart.2 hrest _

/-- The places to which something is written are noted once each. -/
theorem written_putAll (writes : List (String × String)) {o : Outcome} (h : o.written.Nodup) :
    (o.putAll writes).written.Nodup ∧ ∀ place, place ∈ (o.putAll writes).written ↔
      place ∈ o.written ∨ place ∈ writes.map fun write => placeOf write.1 := by
  induction writes generalizing o with
  | nil => exact ⟨h, fun place => by simp [Outcome.putAll]⟩
  | cons write rest ih =>
    have hput : (o.put (placeOf write.1) write.2).written.Nodup ∧
        ∀ place, place ∈ (o.put (placeOf write.1) write.2).written ↔
          place ∈ o.written ∨ place = placeOf write.1 := by
      rw [Outcome.put]
      split
      · next hmem =>
        rw [List.contains_iff_mem] at hmem
        exact ⟨h, fun place => ⟨.inl, fun hplace => hplace.elim id fun heq => heq ▸ hmem⟩⟩
      · next hmem =>
        rw [List.contains_iff_mem] at hmem
        refine ⟨List.nodup_append.2 ⟨h, by simp, ?_⟩, fun place => by simp⟩
        rintro place hplace _ hother rfl
        exact hmem (List.mem_singleton.1 hother ▸ hplace)
    obtain ⟨hnodup, hmem⟩ := ih hput.1
    refine ⟨hnodup, fun place => ?_⟩
    rw [List.map_cons, List.mem_cons, ← or_assoc, ← hput.2]
    exact hmem place

/-- As many places are written to as there are writes just if these places differ. -/
theorem length_written_putAll {writes : List (String × String)} (h : o.written = []) :
    (o.putAll writes).written.length = writes.length ↔
      (writes.map fun write => placeOf write.1).Nodup := by
  obtain ⟨hnodup, hmem⟩ := written_putAll writes (h ▸ List.nodup_nil : o.written.Nodup)
  have hperm : (o.putAll writes).written.Perm (writes.map fun write => placeOf write.1).dedup := by
    rw [List.perm_ext_iff_of_nodup hnodup (List.nodup_dedup _)]
    intro place
    rw [hmem, h, List.mem_dedup, List.mem_nil_iff, false_or]
  have hsublist := (writes.map fun write => placeOf write.1).dedup_sublist
  rw [hperm.length_eq, ← List.dedup_eq_self]
  constructor
  · intro hlength
    exact hsublist.eq_of_length (by rw [hlength, List.length_map])
  · intro hself
    rw [hself, List.length_map]

end Writes

end SignatureForms.Console
