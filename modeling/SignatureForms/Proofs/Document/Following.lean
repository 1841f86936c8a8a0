import SignatureForms.Document.Module
import SignatureForms.Proofs.Artifact.Renumbering
import SignatureForms.Proofs.Document.Blocks
import SignatureForms.Proofs.Steps

/-!
# Reading under other numbers

Reading a value adds a block of types to a graph. Of what is in the graph it only sees how many
types there are, and of the named types only their numbers. So a value that is read once more, after
other types and with other numbers of the named types, gives the same block under other numbers.

The module introduces:

* `Follows ρ v c c'` — where the first reading gives a value, the second one gives the view `v` of
  this value and adds the same block under the numbers `ρ`;
* `table.Renumbers ρ table'` — two tables give the same names the same types.

## Main results

* `Follows.bind`: readings that follow each other can be put one after the other;
* `readType_follows`, `readParts_follows`: types are read under other numbers;
* `readClient_follows`: so are the operations of a client.
-/

namespace SignatureForms.Document

/-! ## Readings one after the other -/

section Runs

variable {α β : Type} {g h : TypeGraph}

/-- A reading goes on with what was read and with the graph that is left. -/
theorem loading_bind_eq_ok_iff {c : Loading α} {f : α → Loading β} {b : β} :
    (c >>= f) g = .ok (b, h) ↔ ∃ a mid, c g = .ok (a, mid) ∧ f a mid = .ok (b, h) := by
  constructor
  · intro hrun
    obtain ⟨⟨a, mid⟩, hfirst, hsecond⟩ := bind_eq_ok_iff.1 hrun
    exact ⟨a, mid, hfirst, hsecond⟩
  · rintro ⟨a, mid, hfirst, hsecond⟩
    exact bind_eq_ok_iff.2 ⟨(a, mid), hfirst, hsecond⟩

theorem loading_pure_eq_ok_iff {a b : α} :
    (pure a : Loading α) g = .ok (b, h) ↔ a = b ∧ g = h := by
  constructor
  · intro hrun
    cases hrun
    exact ⟨rfl, rfl⟩
  · rintro ⟨hvalue, hgraph⟩
    rw [hvalue, hgraph]
    rfl

/-- What is read without types adds none. -/
theorem loading_lift_eq_ok_iff {e : Except Fault α} {a : α} :
    (liftM e : Loading α) g = .ok (a, h) ↔ e = .ok a ∧ g = h := by
  cases e with
  | error fault =>
    constructor
    · intro hrun
      cases hrun
    · rintro ⟨hrun, _⟩
      cases hrun
  | ok value =>
    show (pure value : Loading α) g = _ ↔ _
    rw [loading_pure_eq_ok_iff, Except.ok.injEq]

end Runs

/-! ## Readings that follow each other -/

variable {ρ : TypeId → TypeId} {α β γ δ : Type}

/-- Where the first reading gives a value, it adds a block of types. Where `ρ` shifts this block,
the second reading gives the view of this value and adds the same block under the numbers `ρ`. -/
def Follows (ρ : TypeId → TypeId) (v : α → β) (c : Loading α) (c' : Loading β) : Prop :=
  ∀ g h a, c g = .ok (a, h) → ∃ block, h = g.append block ∧
    ∀ g', Shifts ρ g.size g'.size block.length →
      c' g' = .ok (v a, g'.append (block.map (.renumber ρ)))

namespace Follows

variable {v : α → β} {w : γ → δ} {c : Loading α} {c' : Loading β}

/-- A fault has nothing to be followed. -/
theorem throw (fault : Fault) (c' : Loading β) :
    Follows ρ v (MonadExcept.throw fault : Loading α) c' := by
  intro g h a hrun
  cases hrun

theorem throw_bind (fault : Fault) (f : γ → Loading α) (c' : Loading β) :
    Follows ρ v ((MonadExcept.throw fault : Loading γ) >>= f) c' := by
  intro g h a hrun
  cases hrun

theorem pure {a : α} {b : β} (h : b = v a) :
    Follows ρ v (Pure.pure a : Loading α) (Pure.pure b : Loading β) := by
  intro g _ _ hrun
  obtain ⟨rfl, rfl⟩ := loading_pure_eq_ok_iff.1 hrun
  refine ⟨[], g.append_nil.symm, fun g' _ => ?_⟩
  rw [List.map_nil, g'.append_nil]
  exact loading_pure_eq_ok_iff.2 ⟨h, rfl⟩

/-- What is read without types is read again. -/
theorem lift {e : Except Fault α} {e' : Except Fault β}
    (h : ∀ a, e = .ok a → e' = .ok (v a)) :
    Follows ρ v (liftM e : Loading α) (liftM e' : Loading β) := by
  intro g _ a hrun
  obtain ⟨hvalue, rfl⟩ := loading_lift_eq_ok_iff.1 hrun
  refine ⟨[], g.append_nil.symm, fun g' _ => ?_⟩
  rw [List.map_nil, g'.append_nil]
  exact loading_lift_eq_ok_iff.2 ⟨h a hvalue, rfl⟩

/-- Without types there is nothing to change. -/
theorem again (e : Except Fault α) :
    Follows ρ (fun a => a) (liftM e : Loading α) (liftM e : Loading α) :=
  lift fun _ h => h

/-- Readings that follow each other can be put one after the other. -/
theorem bind {f : α → Loading γ} {f' : β → Loading δ} (hc : Follows ρ v c c')
    (hf : ∀ a, Follows ρ w (f a) (f' (v a))) :
    Follows ρ w (c >>= f) (c' >>= f') := by
  intro g h b hrun
  obtain ⟨a, mid, hfirst, hsecond⟩ := loading_bind_eq_ok_iff.1 hrun
  obtain ⟨block, rfl, hblock⟩ := hc g mid a hfirst
  obtain ⟨more, rfl, hmore⟩ := hf a _ h b hsecond
  refine ⟨block ++ more, g.append_append block more, fun g' hshift => ?_⟩
  -- the second block comes after the first, in both graphs
  rw [List.length_append, shifts_add_iff] at hshift
  have hsize : (g'.append (block.map (.renumber ρ))).size = g'.size + block.length := by simp
  refine loading_bind_eq_ok_iff.2 ⟨_, _, hblock g' hshift.1, ?_⟩
  rw [List.map_append, ← TypeGraph.append_append]
  apply hmore
  rw [hsize, TypeGraph.size_append]
  exact hshift.2

theorem map {f : α → γ} {f' : β → δ} (hc : Follows ρ v c c')
    (hf : ∀ a, f' (v a) = w (f a)) : Follows ρ w (f <$> c) (f' <$> c') := by
  rw [map_eq_pure_bind, map_eq_pure_bind]
  exact hc.bind fun a => pure (hf a)

/-- A list is read again if each of its items is. -/
theorem mapM {f : δ → Loading α} {f' : δ → Loading β} (h : ∀ item, Follows ρ v (f item) (f' item))
    (items : List δ) : Follows ρ (List.map v) (items.mapM f) (items.mapM f') := by
  induction items with
  | nil => exact pure rfl
  | cons item rest ih =>
    rw [List.mapM_cons, List.mapM_cons]
    exact (h item).bind fun a => ih.bind fun rest => pure rfl

end Follows

/-- A type that is added has the next number. -/
theorem addType_follows (d : TypeDescriptor) :
    Follows ρ ρ (addType d) (addType (d.renumber ρ)) := by
  intro g _ _ hrun
  cases hrun
  refine ⟨[d], (g.append_singleton d).symm, fun g' hshift => ?_⟩
  -- the shift of a block of one type says just what the next number is
  have hnumber : ρ g.size = g'.size := hshift 0 Nat.zero_lt_one
  rw [hnumber, List.map_singleton, g'.append_singleton]
  rfl

theorem addWord_follows (word : String) : Follows ρ ρ (addWord word) (addWord word) := by
  have hword := addType_follows (ρ := ρ) (.ofKind (.ofSpelling word) none)
  rwa [TypeDescriptor.ofKind_renumber] at hword

theorem addWords_follows (words : List Json) :
    Follows ρ (List.map ρ) (words.mapM fun word => addWord word.display)
      (words.mapM fun word => addWord word.display) := by
  have hword (word : Json) := addWord_follows (ρ := ρ) word.display
  exact Follows.mapM hword words

/-! ## Types -/

/-- The second table gives a name the number that the first one gives it, changed by `ρ`. -/
def NamedTypes.Renumbers (table : NamedTypes) (ρ : TypeId → TypeId) (table' : NamedTypes) : Prop :=
  ∀ name, table'.lookup name = (table.lookup name).map ρ

section Types

variable {table table' : NamedTypes}

/-- A reference leads to the same type under its other number. -/
theorem resolve_follows (htable : table.Renumbers ρ table') (reference : Json) :
    Follows ρ ρ (liftM (resolve table reference)) (liftM (resolve table' reference)) := by
  apply Follows.lift
  intro id hid
  cases reference with
  | str name =>
    have hname := htable name
    simp only [resolve] at hid ⊢
    rw [hname]
    cases hfound : table.lookup name with
    | none =>
      rw [hfound] at hid
      cases hid
    | some found =>
      rw [hfound] at hid
      cases hid
      rfl
  | _ => cases hid

mutual

/-- A type is read under other numbers. -/
theorem readType_follows (htable : table.Renumbers ρ table') (value : Json) :
    Follows ρ ρ (readType table value) (readType table' value) := by
  cases value with
  | str word =>
    rw [readType, readType]
    exact addWord_follows word
  | obj entries =>
    rw [readType, readType]
    cases entries.lookup "ref" with
    | some reference => exact resolve_follows htable reference
    | none =>
      cases entries.lookup "kind" with
      | none => exact Follows.throw _ _
      | some kind =>
        exact (readParts_follows htable entries _).bind addType_follows
  | _ =>
    rw [readType]
    · exact Follows.throw _ _
    · intro word h
      cases h
    · intro entries h
      cases h
termination_by sizeOf value

/-- The parts of a type are read under other numbers. -/
theorem readParts_follows (htable : table.Renumbers ρ table') (entries : Json.Entries)
    (d : TypeDescriptor) :
    Follows ρ (TypeDescriptor.renumber ρ) (readParts table entries d)
      (readParts table' entries d) := by
  -- the five parts are read in turn; a part that is left out stays so
  rw [readParts, readParts]
  apply Follows.bind (v := List.map (Field.renumber ρ))
  · split
    · next items _ => exact readFields_follows htable items
    · apply (Follows.again _).bind
      intro items
      cases items with
      | nil => exact Follows.pure rfl
      | cons item rest => exact Follows.throw _ _
  intro fields
  apply Follows.bind (v := Option.map ρ)
  · split
    · next value _ => exact (readType_follows htable value).map fun _ => rfl
    · exact Follows.pure rfl
  intro valueType
  apply Follows.bind (v := Option.map ρ)
  · split
    · next value _ => exact (readType_follows htable value).map fun _ => rfl
    · exact Follows.pure rfl
  intro elementType
  apply Follows.bind (v := List.map ρ)
  · split
    · next items _ => exact readMembers_follows htable items
    · apply (Follows.again _).bind
      intro items
      exact addWords_follows items
  intro members
  apply Follows.bind (v := Option.map ρ)
  · split
    · next value _ => exact (readType_follows htable value).map fun _ => rfl
    · exact Follows.pure rfl
  intro constraint
  exact Follows.pure rfl
termination_by sizeOf entries
decreasing_by
  · have := Json.sizeOf_lt_of_lookup (by assumption)
    simp only [Json.arr.sizeOf_spec] at this
    omega
  · exact Json.sizeOf_lt_of_given (by assumption)
  · exact Json.sizeOf_lt_of_given (by assumption)
  · have := Json.sizeOf_lt_of_lookup (by assumption)
    simp only [Json.arr.sizeOf_spec] at this
    omega
  · exact Json.sizeOf_lt_of_given (by assumption)

/-- The fields of a record are read under other numbers. -/
theorem readFields_follows (htable : table.Renumbers ρ table') (items : List Json) :
    Follows ρ (List.map (Field.renumber ρ)) (readFields table items)
      (readFields table' items) := by
  rcases items with _ | ⟨item, rest⟩
  · rw [readFields, readFields]
    exact Follows.pure rfl
  cases item with
  | obj entries =>
    rw [readFields, readFields]
    apply (Follows.again _).bind
    intro name
    split
    · apply (readType_follows htable _).bind
      intro type
      exact (readFields_follows htable rest).bind fun _ => Follows.pure rfl
    · exact Follows.throw_bind _ _ _
  | _ =>
    rw [readFields]
    · exact Follows.throw _ _
    · intro entries h
      cases h
termination_by sizeOf items
decreasing_by
  · have := Json.sizeOf_lt_of_lookup (by assumption)
    simp only [List.cons.sizeOf_spec, Json.obj.sizeOf_spec]
    omega
  · simp only [List.cons.sizeOf_spec]
    omega

/-- The members of a union are read under other numbers. -/
theorem readMembers_follows (htable : table.Renumbers ρ table') (items : List Json) :
    Follows ρ (List.map ρ) (readMembers table items) (readMembers table' items) := by
  cases items with
  | nil =>
    rw [readMembers, readMembers]
    exact Follows.pure rfl
  | cons item rest =>
    rw [readMembers, readMembers]
    apply (readType_follows htable item).bind
    intro type
    exact (readMembers_follows htable rest).bind fun _ => Follows.pure rfl
termination_by sizeOf items

end

end Types

/-! ## Operations -/

section Operations

variable {table table' : NamedTypes} (htable : table.Renumbers ρ table')

include htable

theorem readParameter_follows (value : Json) :
    Follows ρ (Parameter.renumber ρ) (readParameter table value) (readParameter table' value) := by
  cases value with
  | obj entries =>
    apply (Follows.again _).bind
    intro name
    exact (readType_follows htable _).bind fun _ => Follows.pure rfl
  | _ => exact Follows.throw _ _

theorem readOperation_follows (value : Json) :
    Follows ρ (Operation.renumber ρ) (readOperation table value) (readOperation table' value) := by
  apply (Follows.again _).bind
  intro entries
  apply (Follows.again _).bind
  intro kind
  apply (Follows.again _).bind
  intro name
  apply (Follows.again _).bind
  intro items
  apply (Follows.mapM (readParameter_follows htable) items).bind
  intro params
  apply (Follows.again _).bind
  intro path
  split
  · apply ((readType_follows htable _).map (w := Option.map ρ) fun _ => rfl).bind
    intro returns
    exact Follows.pure rfl
  · exact Follows.pure rfl

theorem readInit_follows (value : Option Json) :
    Follows ρ (Option.map (Operation.renumber ρ)) (readInit table value)
      (readInit table' value) := by
  unfold readInit
  split
  · exact Follows.pure rfl
  · exact Follows.pure rfl
  · exact (readOperation_follows htable _).map fun _ => rfl
  · exact Follows.throw _ _

/-- A client is read under other numbers. -/
theorem readClient_follows (value : Json) :
    Follows ρ (Client.renumber ρ) (readClient table value) (readClient table' value) := by
  apply (Follows.again _).bind
  intro entries
  apply (Follows.again _).bind
  intro name
  apply (readInit_follows htable _).bind
  intro init
  apply (Follows.again _).bind
  intro items
  exact (Follows.mapM (readOperation_follows htable) items).bind fun _ => Follows.pure rfl

end Operations

end SignatureForms.Document
