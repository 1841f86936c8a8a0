import SignatureForms.Proofs.Document.Following

/-!
# The parts of named types

The named types of a document have the first numbers, in the order of the table. Then their parts
are read in this order, each adding a block of types, and the named type is filled in. When two
neighbours in the table change places, they change their numbers, and the types in their parts
change places as well; all other types keep their numbers.

The module introduces:

* `Links bare g` — reading the parts of the named types of a table gives the graph `g`;
* `exchange first base count count'` — the change of the numbers when two neighbours change places;
* `Relinks bare g ρ bare' g'` — a table in another order gives the same types under other numbers.

## Main results

* `readNamedParts_matches`: the parts of named types are read under other numbers;
* `exists_readNamedParts_swap`: two neighbours may be read in the other order;
* `Links.exists_relinks_swap`, `Links.exists_relinks_perm`: so neighbours may change places in a
  table, and a table may be put in any order.
-/

namespace SignatureForms.Document

/-! ## Reading the parts of named types -/

/-- A named type before its parts are read: its name, its mapping and its descriptor. -/
abbrev BareType := String × Json.Entries × TypeDescriptor

variable {table table' : NamedTypes} {ρ σ : TypeId → TypeId} {g g' h : TypeGraph}

/-- A table gives the same numbers as itself. -/
theorem NamedTypes.Renumbers.refl (table : NamedTypes) : table.Renumbers id table := by
  intro name
  exact Option.map_id'.symm

/-- The first type is filled in, and then the others. -/
theorem readNamedParts_cons_eq_ok_iff {id : Nat} {entry : BareType} {rest : List BareType} :
    readNamedParts table id (entry :: rest) g = .ok ((), h) ↔
      ∃ filled mid, readParts table entry.2.1 entry.2.2 g = .ok (filled, mid) ∧
        readNamedParts table (id + 1) rest (mid.modify id fun _ => filled) = .ok ((), h) := by
  obtain ⟨name, entries, d⟩ := entry
  rw [readNamedParts, loading_bind_eq_ok_iff]
  apply exists_congr
  intro filled
  apply exists_congr
  intro mid
  apply and_congr_right
  intro _
  rw [loading_bind_eq_ok_iff]
  constructor
  · rintro ⟨_, _, hmodify, hrest⟩
    cases hmodify
    exact hrest
  · intro hrest
    exact ⟨(), _, rfl, hrest⟩

/-- A table is filled in part by part. -/
theorem readNamedParts_append_eq_ok_iff {id : Nat} {first second : List BareType} :
    readNamedParts table id (first ++ second) g = .ok ((), h) ↔
      ∃ mid, readNamedParts table id first g = .ok ((), mid) ∧
        readNamedParts table (id + first.length) second mid = .ok ((), h) := by
  induction first generalizing id g with
  | nil =>
    constructor
    · intro hrun
      exact ⟨g, rfl, hrun⟩
    · rintro ⟨mid, hnone, hrun⟩
      cases hnone
      exact hrun
  | cons entry rest ih =>
    have hid : id + 1 + rest.length = id + (entry :: rest).length := by
      simp only [List.length_cons]
      omega
    simp only [List.cons_append, readNamedParts_cons_eq_ok_iff, ih, hid]
    constructor
    · rintro ⟨filled, mid, hfirst, last, hrest, hsecond⟩
      exact ⟨last, ⟨filled, mid, hfirst, hrest⟩, hsecond⟩
    · rintro ⟨last, ⟨filled, mid, hfirst, hrest⟩, hsecond⟩
      exact ⟨filled, mid, hfirst, last, hrest, hsecond⟩

/-- Reading the parts of a type adds a block of types. -/
theorem exists_append_of_readParts {entries : Json.Entries} {d filled : TypeDescriptor}
    (hrun : readParts table entries d g = .ok (filled, h)) :
    ∃ block, h = g.append block := by
  obtain ⟨block, hblock, _⟩ := readParts_follows (.refl table) entries d g h filled hrun
  exact ⟨block, hblock⟩

/-- The parts of a type are the same after other types, if `ρ` shifts their block to its place. -/
theorem readParts_again (htable : table.Renumbers ρ table') {entries : Json.Entries}
    {d filled : TypeDescriptor} {block : List TypeDescriptor}
    (hrun : readParts table entries d g = .ok (filled, g.append block))
    (hshift : Shifts ρ g.size g'.size block.length) :
    readParts table' entries d g' =
      .ok (filled.renumber ρ, g'.append (block.map (.renumber ρ))) := by
  obtain ⟨added, hadded, hagain⟩ := readParts_follows htable entries d g _ filled hrun
  obtain rfl := TypeGraph.append_right_inj.1 hadded
  exact hagain g' hshift

theorem size_le_of_readNamedParts {id : Nat} {bare : List BareType}
    (hrun : readNamedParts table id bare g = .ok ((), h)) : g.size ≤ h.size := by
  induction bare generalizing id g with
  | nil =>
    cases hrun
    exact Nat.le_refl _
  | cons entry rest ih =>
    obtain ⟨filled, mid, hfirst, hrest⟩ := readNamedParts_cons_eq_ok_iff.1 hrun
    obtain ⟨block, rfl⟩ := exists_append_of_readParts hfirst
    have hle := ih hrest
    rw [TypeGraph.size_modify, TypeGraph.size_append] at hle
    exact Nat.le_trans (Nat.le_add_right _ _) hle

/-- The parts of named types are read under other numbers, if the numbers of these types and of
those that are added stay as they are. -/
theorem readNamedParts_matches (htable : table.Renumbers ρ table') (hinj : Function.Injective ρ)
    {id : Nat} {bare : List BareType} (hmatch : g.Matches ρ g')
    (hrun : readNamedParts table id bare g = .ok ((), h)) (hknown : id + bare.length ≤ g.size)
    (hids : ∀ i : Nat, id ≤ i → i < id + bare.length → ρ i = i)
    (hnew : ∀ i : Nat, g.size ≤ i → i < h.size → ρ i = i) :
    ∃ h', readNamedParts table' id bare g' = .ok ((), h') ∧ h.Matches ρ h' := by
  induction bare generalizing id g g' with
  | nil =>
    cases hrun
    exact ⟨g', rfl, hmatch⟩
  | cons entry rest ih =>
    obtain ⟨filled, mid, hfirst, hrest⟩ := readNamedParts_cons_eq_ok_iff.1 hrun
    obtain ⟨block, rfl⟩ := exists_append_of_readParts hfirst
    have hsize := size_le_of_readNamedParts hrest
    rw [TypeGraph.size_modify, TypeGraph.size_append] at hsize
    rw [List.length_cons] at hknown hids
    have hshift : Shifts ρ g.size g.size block.length := by
      intro i hi
      exact hnew _ (by omega) (by omega)
    have hid : ρ id = id := hids id (Nat.le_refl _) (by omega)
    have hmid : id < (g.append block).size := by
      rw [TypeGraph.size_append]
      omega
    have hfilled := (hmatch.append hshift).modify hinj hmid filled
    rw [hid] at hfilled
    -- the graph is larger now, so less is asked of the numbers that are new to the others
    obtain ⟨h', hrest', hmatch'⟩ := ih hfilled hrest (by simp; omega)
      (fun i hi hi' => hids i (by omega) (by omega))
      (fun i hi hi' => hnew i (Nat.le_trans (by simp) hi) hi')
    have hshift' : Shifts ρ g.size g'.size block.length := by
      rw [hmatch.size_eq]
      exact hshift
    have hfirst' := readParts_again htable hfirst hshift'
    exact ⟨h', readNamedParts_cons_eq_ok_iff.2 ⟨_, _, hfirst', hrest'⟩, hmatch'⟩

/-! ## Neighbours in the table -/

/-- The change of the numbers when two neighbours in the table change places: their own numbers,
`first` and the next one, and those of the `count` and `count'` types in their parts, which have the
numbers from `base` on. -/
def exchange (first base count count' id : Nat) : Nat :=
  if id = first then first + 1
  else if id = first + 1 then first
  else if id < base then id
  else if id < base + count then id + count'
  else if id < base + count + count' then id - count
  else id

section Exchange

variable {first base count count' : Nat}

theorem exchange_first : exchange first base count count' first = first + 1 :=
  if_pos rfl

theorem exchange_second : exchange first base count count' (first + 1) = first := by
  rw [exchange, if_neg (by omega), if_pos rfl]

theorem exchange_eq_self {id : Nat} (hfirst : id ≠ first) (hsecond : id ≠ first + 1)
    (hblocks : id < base ∨ base + count + count' ≤ id) :
    exchange first base count count' id = id := by
  grind [exchange]

theorem exchange_left (h : first + 1 < base) :
    Shifts (exchange first base count count') base (base + count') count := by
  intro i hi
  grind [exchange]

theorem exchange_right (h : first + 1 < base) :
    Shifts (exchange first base count count') (base + count) base count' := by
  intro i hi
  grind [exchange]

/-- The neighbours get their numbers back when they change places again. -/
theorem exchange_exchange (h : first + 1 < base) (id : Nat) :
    exchange first base count' count (exchange first base count count' id) = id := by
  by_cases hfirst : id = first
  · rw [hfirst, exchange_first, exchange_second]
  by_cases hsecond : id = first + 1
  · rw [hsecond, exchange_second, exchange_first]
  by_cases hblocks : id < base ∨ base + count + count' ≤ id
  · rw [exchange_eq_self hfirst hsecond hblocks, exchange_eq_self hfirst hsecond (by omega)]
  by_cases hleft : id < base + count
  · obtain ⟨i, rfl⟩ : ∃ i, id = base + i := Nat.exists_eq_add_of_le (by omega)
    rw [exchange_left h i (by omega), exchange_right h i (by omega)]
  · obtain ⟨i, rfl⟩ : ∃ i, id = base + count + i := Nat.exists_eq_add_of_le (by omega)
    rw [exchange_right h i (by omega), exchange_left h i (by omega)]

theorem exchange_injective (h : first + 1 < base) :
    Function.Injective (exchange first base count count') :=
  Function.LeftInverse.injective (exchange_exchange h)

end Exchange

/-- The numbers of the named types of a table. -/
def namedTypes (bare : List BareType) : NamedTypes :=
  (bare.map Prod.fst).zipIdx

/-- The graph of the named types of a table before their parts are read. -/
def bareGraph (bare : List BareType) : TypeGraph :=
  TypeGraph.empty.append (bare.map fun entry => entry.2.2)

@[simp]
theorem size_bareGraph (bare : List BareType) : (bareGraph bare).size = bare.length := by
  rw [bareGraph, TypeGraph.size_append, List.length_map]
  exact Nat.zero_add _

theorem descriptor_bareGraph (bare : List BareType) (id : Nat) :
    (bareGraph bare).descriptor id = (bare[id]?.map fun entry => entry.2.2).getD default := by
  simp [bareGraph, TypeGraph.append, TypeGraph.empty, TypeGraph.descriptor]

/-- No type is mentioned before the parts are read. -/
def BareType.IsBare (entry : BareType) : Prop :=
  ∀ ρ, entry.2.2.renumber ρ = entry.2.2

/-- Reading the parts of the named types of a table gives a graph. -/
def Links (bare : List BareType) (g : TypeGraph) : Prop :=
  readNamedParts (namedTypes bare) 0 bare (bareGraph bare) = .ok ((), g)

/-- The table `bare'` gives the same types as `bare` under other numbers. -/
structure Relinks (bare : List BareType) (g : TypeGraph) (ρ : TypeId → TypeId)
    (bare' : List BareType) (g' : TypeGraph) : Prop where
  /-- The other table can be read, too. -/
  links : Links bare' g'
  /-- Different types have different numbers. -/
  injective : Function.Injective ρ
  /-- The graphs hold the same types. -/
  graphs : g.Matches ρ g'
  /-- No number beyond the graphs is changed. -/
  outside : ∀ id, g.size ≤ id → ρ id = id
  /-- The names stand for the same types. -/
  names : (namedTypes bare).Renumbers ρ (namedTypes bare')

theorem Relinks.refl {bare : List BareType} (h : Links bare g) : Relinks bare g id bare g where
  links := h
  injective := Function.injective_id
  graphs := .refl g
  outside _ _ := rfl
  names := .refl _

theorem Relinks.trans {bare bare' bare'' : List BareType} {g'' : TypeGraph}
    (h : Relinks bare g ρ bare' g') (h' : Relinks bare' g' σ bare'' g'') :
    Relinks bare g (σ ∘ ρ) bare'' g'' where
  links := h'.links
  injective := h'.injective.comp h.injective
  graphs := h.graphs.trans h'.graphs
  outside id hid := by
    rw [Function.comp_apply, h.outside id hid, h'.outside id (h.graphs.size_eq ▸ hid)]
  names name := by
    rw [h'.names name, h.names name, Option.map_map]

/-- Numbers that stay as they are stay so in a part of a table. -/
theorem map_lookup_zipIdx {names : List String} {first : Nat}
    (h : ∀ i : Nat, first ≤ i → i < first + names.length → ρ i = i) (name : String) :
    ((names.zipIdx first).lookup name).map ρ = (names.zipIdx first).lookup name := by
  induction names generalizing first with
  | nil => rfl
  | cons other rest ih =>
    rw [List.length_cons] at h
    have hfirst : ρ first = first := h first (Nat.le_refl _) (by omega)
    have hrest := @ih (first + 1) fun i hi hi' => h i (by omega) (by omega)
    rw [List.zipIdx_cons, List.lookup_cons]
    cases name == other with
    | true => exact congrArg some hfirst
    | false => exact hrest

/-- When neighbours of different names change places, these names get each other's numbers. -/
theorem namedTypes_swap {before after : List BareType} {x y : BareType} (hnames : x.1 ≠ y.1)
    (hfirst : ρ before.length = before.length + 1) (hsecond : ρ (before.length + 1) = before.length)
    (hothers : ∀ i : Nat, i ≠ before.length → i ≠ before.length + 1 →
      i < (before ++ x :: y :: after).length → ρ i = i) :
    (namedTypes (before ++ x :: y :: after)).Renumbers ρ
      (namedTypes (before ++ y :: x :: after)) := by
  intro name
  simp only [List.length_append, List.length_cons] at hothers
  -- the entries around the two keep their numbers
  have hbefore : ((before.map Prod.fst).zipIdx.lookup name).map ρ =
      (before.map Prod.fst).zipIdx.lookup name := by
    apply map_lookup_zipIdx
    rw [List.length_map]
    intro i _ hi
    exact hothers i (by omega) (by omega) (by omega)
  have hafter : (((after.map Prod.fst).zipIdx (before.length + 2)).lookup name).map ρ =
      ((after.map Prod.fst).zipIdx (before.length + 2)).lookup name := by
    apply map_lookup_zipIdx
    rw [List.length_map]
    intro i hi hi'
    exact hothers i (by omega) (by omega) (by omega)
  simp only [namedTypes, List.map_append, List.map_cons, List.zipIdx_append, List.zipIdx_cons,
    List.length_map, Nat.zero_add, Nat.add_assoc, List.lookup_append, Option.map_or, hbefore]
  congr 1
  simp only [List.lookup_cons]
  -- of the two, which have different names, at most one is looked up
  cases hx : name == x.1 with
  | true =>
    have hy : (name == y.1) = false := by
      rw [beq_iff_eq] at hx
      rw [hx, beq_eq_false_iff_ne]
      exact hnames
    rw [hy]
    exact congrArg some hfirst.symm
  | false =>
    cases name == y.1 with
    | true => exact congrArg some hsecond.symm
    | false => exact hafter.symm

/-- Before the parts are read, the numbers of the neighbours are all that changes. -/
theorem bareGraph_swap {before after : List BareType} {x y : BareType}
    (hbare : ∀ entry ∈ before ++ x :: y :: after, entry.IsBare)
    (hfirst : ρ before.length = before.length + 1) (hsecond : ρ (before.length + 1) = before.length)
    (hothers : ∀ i : Nat, i ≠ before.length → i ≠ before.length + 1 →
      i < (before ++ x :: y :: after).length → ρ i = i) :
    (bareGraph (before ++ x :: y :: after)).Matches ρ
      (bareGraph (before ++ y :: x :: after)) := by
  -- the entry at a place stands at the new number of that place afterwards
  have hentry (i : Nat) (hi : i < (before ++ x :: y :: after).length) :
      (before ++ y :: x :: after)[(ρ i : Nat)]? = (before ++ x :: y :: after)[i]? := by
    by_cases hx : i = before.length
    · rw [hx, hfirst]
      simp
    by_cases hy : i = before.length + 1
    · rw [hy, hsecond]
      simp
    rw [hothers i hx hy hi]
    by_cases hleft : i < before.length
    · rw [List.getElem?_append_left hleft, List.getElem?_append_left hleft]
    · obtain ⟨k, rfl⟩ : ∃ k, i = before.length + (k + 2) := ⟨i - before.length - 2, by omega⟩
      have hle : before.length ≤ before.length + (k + 2) := Nat.le_add_right _ _
      rw [List.getElem?_append_right hle, List.getElem?_append_right hle, Nat.add_sub_cancel_left]
      rfl
  constructor
  · simp
  · intro (id : Nat) hid
    rw [size_bareGraph] at hid ⊢
    have hfound := hentry id hid
    rw [List.getElem?_eq_getElem hid] at hfound
    have hlength : (before ++ x :: y :: after).length = (before ++ y :: x :: after).length := by
      simp
    rw [hlength]
    exact (List.getElem?_eq_some_iff.1 hfound).1
  · intro (id : Nat) hid
    rw [size_bareGraph] at hid
    rw [descriptor_bareGraph, descriptor_bareGraph, hentry id hid, List.getElem?_eq_getElem hid]
    -- a bare type refers to no other, so that renumbering leaves it
    exact (hbare _ (List.getElem_mem hid) ρ).symm

/-- Two neighbours add two blocks of types. They add the same blocks in the other order, if `ρ`
shifts each block to its place. -/
theorem exists_readNamedParts_swap {x y : BareType} {first : Nat} (hknown : first + 1 < g.size)
    (hrun : readNamedParts table first [x, y] g = .ok ((), h)) :
    ∃ count count', h.size = g.size + count + count' ∧
      ∀ {ρ table' g'}, table.Renumbers ρ table' → Function.Injective ρ → g.Matches ρ g' →
        ρ first = first + 1 → ρ (first + 1) = first →
        Shifts ρ g.size (g.size + count') count → Shifts ρ (g.size + count) g.size count' →
        ∃ h', readNamedParts table' first [y, x] g' = .ok ((), h') ∧ h.Matches ρ h' := by
  obtain ⟨filledX, midX, hx, hrest⟩ := readNamedParts_cons_eq_ok_iff.1 hrun
  obtain ⟨filledY, midY, hy, hnone⟩ := readNamedParts_cons_eq_ok_iff.1 hrest
  obtain ⟨blockX, rfl⟩ := exists_append_of_readParts hx
  obtain ⟨blockY, rfl⟩ := exists_append_of_readParts hy
  cases hnone
  refine ⟨blockX.length, blockY.length, by simp, ?_⟩
  intro ρ table' g' htable hinj hmatch hfirst hsecond hshiftX hshiftY
  have hsize := hmatch.size_eq
  -- the second neighbour comes first, so its block does
  have hplaceY : Shifts ρ ((g.append blockX).modify first fun _ => filledX).size g'.size
      blockY.length := by
    rw [TypeGraph.size_modify, TypeGraph.size_append, hsize]
    exact hshiftY
  have hplaceX : Shifts ρ g.size ((g'.append (blockY.map (.renumber ρ))).modify first
      fun _ => filledY.renumber ρ).size blockX.length := by
    rw [TypeGraph.size_modify, TypeGraph.size_append, List.length_map, hsize]
    exact hshiftX
  have hy' := readParts_again htable hy hplaceY
  have hx' := readParts_again htable hx hplaceX
  refine ⟨_, readNamedParts_cons_eq_ok_iff.2 ⟨_, _, hy',
    readNamedParts_cons_eq_ok_iff.2 ⟨_, _, hx', rfl⟩⟩, ?_⟩
  -- both are filled in after both blocks are there
  have hblocks := hmatch.append_swap hshiftX hshiftY
  have hsecondY : first + 1 < (g.append (blockX ++ blockY)).size := by
    rw [TypeGraph.size_append]
    omega
  have hfirstX :
      first < ((g.append (blockX ++ blockY)).modify (first + 1) fun _ => filledY).size := by
    rw [TypeGraph.size_modify, TypeGraph.size_append]
    omega
  have hfilled := (hblocks.modify hinj hsecondY filledY).modify hinj hfirstX filledX
  rw [hfirst, hsecond] at hfilled
  have hleft : first < (g.append blockX).size := by
    rw [TypeGraph.size_append]
    omega
  have hright : first < (g'.append (blockY.map (.renumber ρ))).size := by
    rw [TypeGraph.size_append]
    omega
  have hne : first ≠ first + 1 := by omega
  rw [TypeGraph.modify_append hleft, TypeGraph.modify_append hright, TypeGraph.append_append,
    TypeGraph.append_append, ← List.map_append, TypeGraph.modify_comm hne]
  exact hfilled

/-- Neighbours of different names may change places in a table. -/
theorem Links.exists_relinks_swap {before after : List BareType} {x y : BareType}
    (hbare : ∀ entry ∈ before ++ x :: y :: after, entry.IsBare) (hnames : x.1 ≠ y.1)
    (h : Links (before ++ x :: y :: after) g) :
    ∃ ρ g', Relinks (before ++ x :: y :: after) g ρ (before ++ y :: x :: after) g' := by
  obtain ⟨mid, hbefore, hrun⟩ := readNamedParts_append_eq_ok_iff.1 h
  rw [Nat.zero_add] at hrun
  have hrun : readNamedParts _ before.length ([x, y] ++ after) mid = .ok ((), g) := hrun
  obtain ⟨last, hneighbours, hafter⟩ := readNamedParts_append_eq_ok_iff.1 hrun
  have hsize := size_le_of_readNamedParts hbefore
  have hsize' := size_le_of_readNamedParts hafter
  simp only [size_bareGraph, List.length_append, List.length_cons] at hsize
  have hbase : before.length + 1 < mid.size := by omega
  obtain ⟨count, count', hlast, hswap⟩ := exists_readNamedParts_swap hbase hneighbours
  let ρ := exchange before.length mid.size count count'
  have hinj : Function.Injective ρ := exchange_injective hbase
  have hself {i : Nat} (hi : i ≠ before.length) (hi' : i ≠ before.length + 1)
      (hblocks : i < mid.size ∨ last.size ≤ i) : ρ i = i :=
    exchange_eq_self hi hi' (hlast ▸ hblocks)
  have hothers (i : Nat) (hi : i ≠ before.length) (hi' : i ≠ before.length + 1)
      (hlt : i < (before ++ x :: y :: after).length) : ρ i = i := by
    simp only [List.length_append, List.length_cons] at hlt
    exact hself hi hi' (.inl (by omega))
  have htable := namedTypes_swap hnames exchange_first exchange_second hothers
  have hgraph := bareGraph_swap hbare exchange_first exchange_second hothers
  -- the types before the neighbours and in their parts keep their numbers
  have hids (i : Nat) (_ : 0 ≤ i) (hi : i < 0 + before.length) : ρ i = i :=
    hself (by omega) (by omega) (.inl (by omega))
  have hnew (i : Nat) (hi : (bareGraph (before ++ x :: y :: after)).size ≤ i) (hi' : i < mid.size) :
      ρ i = i := by
    simp only [size_bareGraph, List.length_append, List.length_cons] at hi
    exact hself (by omega) (by omega) (.inl hi')
  obtain ⟨mid', hbefore', hmid⟩ :=
    readNamedParts_matches htable hinj hgraph hbefore (by simp) hids hnew
  obtain ⟨last', hneighbours', hlast'⟩ := hswap htable hinj hmid exchange_first exchange_second
    (exchange_left hbase) (exchange_right hbase)
  -- so do the types after the neighbours and in their parts
  have hids' (i : Nat) (hi : before.length + [x, y].length ≤ i)
      (hi' : i < before.length + [x, y].length + after.length) : ρ i = i := by
    simp only [List.length_cons, List.length_nil] at hi hi'
    exact hself (by omega) (by omega) (.inl (by omega))
  have hnew' (i : Nat) (hi : last.size ≤ i) (_ : i < g.size) : ρ i = i :=
    hself (by omega) (by omega) (.inr hi)
  obtain ⟨g', hafter', hg⟩ :=
    readNamedParts_matches htable hinj hlast' hafter (by simp; omega) hids' hnew'
  refine ⟨ρ, g', ?_, hinj, hg, ?_, htable⟩
  · apply readNamedParts_append_eq_ok_iff.2
    refine ⟨mid', hbefore', ?_⟩
    rw [Nat.zero_add]
    show readNamedParts _ before.length ([y, x] ++ after) mid' = .ok ((), g')
    exact readNamedParts_append_eq_ok_iff.2 ⟨last', hneighbours', hafter'⟩
  · intro (id : Nat) hid
    exact hself (by omega) (by omega) (.inr (by omega))

/-- A table may be put in any order. -/
theorem Links.exists_relinks_perm {bare bare' : List BareType} (hperm : bare.Perm bare')
    (hnames : (bare.map Prod.fst).Nodup) (before : List BareType)
    (hbare : ∀ entry ∈ before ++ bare, entry.IsBare) (h : Links (before ++ bare) g) :
    ∃ ρ g', Relinks (before ++ bare) g ρ (before ++ bare') g' := by
  -- the entries in `before` are kept, so that a swap is one of neighbours in the whole table
  induction hperm generalizing before g with
  | nil => exact ⟨id, g, .refl h⟩
  | cons entry _ ih =>
    rw [List.map_cons, List.nodup_cons] at hnames
    have hrest := ih hnames.2 (before ++ [entry]) (g := g)
    simp only [List.append_assoc, List.cons_append, List.nil_append] at hrest
    exact hrest hbare h
  | swap x y rest =>
    have hne : y.1 ≠ x.1 := by
      intro heq
      simp [heq] at hnames
    exact exists_relinks_swap hbare hne h
  | trans hperm _ ih ih' =>
    obtain ⟨ρ, mid, hfirst⟩ := ih hnames before hbare h
    have hbare' := fun entry hentry => hbare entry ((hperm.append_left before).mem_iff.2 hentry)
    have hnames' := (hperm.map Prod.fst).nodup hnames
    obtain ⟨σ, last, hsecond⟩ := ih' hnames' before hbare' hfirst.links
    exact ⟨σ ∘ ρ, last, hfirst.trans hsecond⟩

end SignatureForms.Document
