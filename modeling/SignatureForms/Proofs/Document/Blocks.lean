import Mathlib.Tactic.Common
import SignatureForms.Proofs.ParamTree.Renumbering

/-!
# Graphs that grow by blocks

While a document is read, its graph grows by blocks of types, and types that are there already are
filled in. Two graphs that hold the same types under other numbers keep doing so while both of them
grow in the same way, even if two blocks are added to one of them in the other order.

The module introduces:

* `g.append block` — the graph with a block of further descriptors;
* `g.Holds base block` — the block is in the graph, from a number on;
* `Shifts ρ base base' count` — `ρ` takes a block of numbers from one base to another;
* `g.Matches ρ g'` — two graphs of the same size hold the same types under other numbers.

## Main results

* `Matches.append_swap`, `Matches.append`: what blocks may be added;
* `Matches.modify`: a type may be filled in in both graphs;
* `Matches.renumbers`: in the end one graph is the other one under other numbers.
-/

namespace SignatureForms

/-! ## Blocks of types -/

namespace TypeGraph

/-- The graph with a block of further descriptors. -/
def append (g : TypeGraph) (block : List TypeDescriptor) : TypeGraph :=
  ⟨g.descriptors ++ block.toArray⟩

@[simp]
theorem size_append (g : TypeGraph) (block : List TypeDescriptor) :
    (g.append block).size = g.size + block.length := by
  simp [append, size]

@[simp]
theorem append_nil (g : TypeGraph) : g.append [] = g := by
  simp [append]

theorem append_append (g : TypeGraph) (block more : List TypeDescriptor) :
    (g.append block).append more = g.append (block ++ more) := by
  simp [append]

theorem append_singleton (g : TypeGraph) (d : TypeDescriptor) : g.append [d] = g.push d := by
  simp [append, push]

/-- A block can be told from the graph that it was added to. -/
theorem append_right_inj {g : TypeGraph} {block more : List TypeDescriptor} :
    g.append block = g.append more ↔ block = more := by
  constructor
  · intro h
    have hlists := congrArg (fun graph => graph.descriptors.toList) h
    simpa [append] using hlists
  · intro h
    rw [h]

/-- A block of types is in the graph, from a number on. -/
def Holds (g : TypeGraph) (base : Nat) (block : List TypeDescriptor) : Prop :=
  ∀ i d, block[i]? = some d → g.descriptors[base + i]? = some d

section Holds

variable {g : TypeGraph} {base : Nat} {block more : List TypeDescriptor}

/-- A block that is added to a graph is in it. -/
theorem holds_append_size (g : TypeGraph) (block : List TypeDescriptor) :
    (g.append block).Holds g.size block := by
  intro i d hd
  rw [append, size, Array.getElem?_append_right (Nat.le_add_right _ _), Nat.add_sub_cancel_left,
    List.getElem?_toArray]
  exact hd

/-- What is in a graph is in it after further types are added. -/
theorem Holds.append (h : g.Holds base block) (more : List TypeDescriptor) :
    (g.append more).Holds base block := by
  intro i d hd
  have hfound := h i d hd
  have hlt : base + i < g.descriptors.size := (Array.getElem?_eq_some_iff.1 hfound).1
  rw [TypeGraph.append, Array.getElem?_append_left hlt]
  exact hfound

theorem holds_append_iff :
    g.Holds base (block ++ more) ↔ g.Holds base block ∧ g.Holds (base + block.length) more := by
  constructor
  · intro h
    constructor
    · intro i d hd
      exact h i d (by rw [List.getElem?_append_left (List.getElem?_eq_some_iff.1 hd).1, hd])
    · intro i d hd
      rw [Nat.add_assoc]
      exact h _ d (by rw [List.getElem?_append_right (Nat.le_add_right _ _),
        Nat.add_sub_cancel_left, hd])
  · rintro ⟨hfirst, hsecond⟩ i d hd
    by_cases hi : i < block.length
    · rw [List.getElem?_append_left hi] at hd
      exact hfirst i d hd
    · obtain ⟨k, rfl⟩ : ∃ k, i = block.length + k := Nat.exists_eq_add_of_le (by omega)
      rw [List.getElem?_append_right (Nat.le_add_right _ _), Nat.add_sub_cancel_left] at hd
      rw [← Nat.add_assoc]
      exact hsecond k d hd

theorem Holds.descriptor_eq {d : TypeDescriptor} (h : g.Holds base [d]) :
    g.descriptor base = d := by
  have hfound : g.descriptors[base]? = some d := h 0 d rfl
  rw [descriptor, hfound, Option.getD_some]

end Holds

end TypeGraph

/-- The numbers of a block of types are shifted from one base to another. -/
def Shifts (ρ : TypeId → TypeId) (base base' count : Nat) : Prop :=
  ∀ i < count, ρ (base + i) = base' + i

/-- Two blocks that follow each other are shifted if each of them is. -/
theorem shifts_add_iff {ρ : TypeId → TypeId} {base base' count more : Nat} :
    Shifts ρ base base' (count + more) ↔
      Shifts ρ base base' count ∧ Shifts ρ (base + count) (base' + count) more := by
  constructor
  · intro h
    constructor
    · intro i hi
      exact h i (by omega)
    · intro i hi
      rw [Nat.add_assoc, h (count + i) (by omega), Nat.add_assoc]
  · rintro ⟨hfirst, hsecond⟩ i hi
    by_cases hbefore : i < count
    · exact hfirst i hbefore
    · obtain ⟨k, rfl⟩ : ∃ k, i = count + k := Nat.exists_eq_add_of_le (by omega)
      rw [← Nat.add_assoc, hsecond k (by omega), Nat.add_assoc]

/-! ## Graphs with the same types -/

namespace TypeGraph

/-- Two graphs of the same size hold the same types: each type of the first one is in the second
one under its new number. -/
structure Matches (g : TypeGraph) (ρ : TypeId → TypeId) (g' : TypeGraph) : Prop where
  /-- The graphs are of the same size. -/
  size_eq : g'.size = g.size
  /-- The new number of a type is in the graph. -/
  lt_size : ∀ id < g.size, ρ id < g.size
  /-- A type has the descriptor that it had under its former number. -/
  descriptor_eq : ∀ id < g.size, g'.descriptor (ρ id) = (g.descriptor id).renumber ρ

variable {g g' g'' : TypeGraph} {ρ σ : TypeId → TypeId}

theorem descriptor_append_lt {id : TypeId} (h : id < g.size) (block : List TypeDescriptor) :
    (g.append block).descriptor id = g.descriptor id := by
  have hid : id < g.descriptors.size := h
  simp [append, descriptor, Array.getElem?_append_left hid]

theorem descriptor_append_add (g : TypeGraph) (block : List TypeDescriptor) (i : Nat) :
    (g.append block).descriptor (g.size + i) = block[i]?.getD default := by
  simp [append, descriptor, size, Array.getElem?_append_right]

theorem descriptor_modify {id : TypeId} (h : id < g.size) (f : TypeDescriptor → TypeDescriptor)
    (other : TypeId) :
    (g.modify id f).descriptor other =
      if other = id then f (g.descriptor id) else g.descriptor other := by
  rw [modify, descriptor, Array.getElem?_modify]
  by_cases hother : other = id
  · subst hother
    have hfound : g.descriptors[other]? = some g.descriptors[other] := Array.getElem?_eq_getElem h
    rw [if_pos rfl, if_pos rfl, descriptor, hfound]
    rfl
  · rw [if_neg hother, if_neg (Ne.symm hother), descriptor]

/-- A type of the graph may be filled in before or after a block is added. -/
theorem modify_append {id : Nat} (h : id < g.size) (f : TypeDescriptor → TypeDescriptor)
    (block : List TypeDescriptor) :
    (g.modify id f).append block = (g.append block).modify id f := by
  have harray : g.descriptors.modify id f ++ block.toArray =
      (g.descriptors ++ block.toArray).modify id f := by
    apply Array.ext_getElem?
    intro i
    have hbound : id < g.descriptors.size := h
    simp only [Array.getElem?_append, Array.getElem?_modify, Array.size_modify]
    by_cases hi : i < g.descriptors.size
    · simp only [hi, if_true]
    · have hne : id ≠ i := by omega
      simp only [hi, hne, if_false]
  exact congrArg TypeGraph.mk harray

/-- A type that is filled in is in the graph. -/
theorem holds_modify {id : Nat} (h : id < g.size) (d : TypeDescriptor) :
    (g.modify id fun _ => d).Holds id [d] := by
  intro i other hother
  obtain ⟨hi, rfl⟩ := List.getElem?_eq_some_iff.1 hother
  obtain rfl : i = 0 := Nat.lt_one_iff.1 hi
  have hfound : g.descriptors[id]? = some g.descriptors[id] := Array.getElem?_eq_getElem h
  rw [modify, Nat.add_zero, Array.getElem?_modify, if_pos rfl, hfound]
  rfl

/-- A block stays in a graph when a type outside of it is filled in. -/
theorem Holds.modify {base id : Nat} {block : List TypeDescriptor} (h : g.Holds base block)
    (hout : id < base ∨ base + block.length ≤ id) (f : TypeDescriptor → TypeDescriptor) :
    (g.modify id f).Holds base block := by
  intro i d hd
  have hi : i < block.length := (List.getElem?_eq_some_iff.1 hd).1
  have hne : id ≠ base + i := by omega
  rw [TypeGraph.modify, Array.getElem?_modify, if_neg hne]
  exact h i d hd

/-- Two types may be filled in in either order. -/
theorem modify_comm {a b : TypeId} (h : a ≠ b) (f f' : TypeDescriptor → TypeDescriptor) :
    (g.modify a f).modify b f' = (g.modify b f').modify a f := by
  have harray : (g.descriptors.modify a f).modify b f' =
      (g.descriptors.modify b f').modify a f := by
    apply Array.ext_getElem?
    intro i
    simp only [Array.getElem?_modify]
    by_cases ha : a = i
    · have hb : b ≠ i := fun hb => h (ha.trans hb.symm)
      simp only [ha, hb, if_true, if_false]
    · simp only [ha, if_false]
  exact congrArg TypeGraph.mk harray

/-- A number beyond the graph stands for a type that mentions nothing. -/
theorem descriptor_of_size_le {id : TypeId} (h : g.size ≤ id) : g.descriptor id = default := by
  have hnone : g.descriptors[id]? = none := Array.getElem?_eq_none h
  rw [descriptor, hnone, Option.getD_none]

namespace Matches

theorem refl (g : TypeGraph) : g.Matches id g where
  size_eq := rfl
  lt_size _ hid := hid
  descriptor_eq _ _ := (TypeDescriptor.renumber_id _).symm

theorem trans (h : g.Matches ρ g') (h' : g'.Matches σ g'') : g.Matches (σ ∘ ρ) g'' where
  size_eq := h'.size_eq.trans h.size_eq
  lt_size id hid := by
    have hmid : ρ id < g'.size := h.size_eq ▸ h.lt_size id hid
    exact h.size_eq ▸ h'.lt_size _ hmid
  descriptor_eq id hid := by
    have hmid : ρ id < g'.size := h.size_eq ▸ h.lt_size id hid
    rw [Function.comp_apply, h'.descriptor_eq _ hmid, h.descriptor_eq id hid,
      TypeDescriptor.renumber_renumber]

/-- A number of a graph with two more blocks is a number of the graph or of one of the blocks. -/
theorem append_cases {size first second id : Nat} (h : id < size + (first + second)) :
    id < size ∨ (∃ i < first, id = size + i) ∨ ∃ i < second, id = size + first + i := by
  by_cases hold : id < size
  · exact .inl hold
  by_cases hfirst : id < size + first
  · exact .inr (.inl ⟨id - size, by omega, by omega⟩)
  · exact .inr (.inr ⟨id - (size + first), by omega, by omega⟩)

/-- Graphs stay the same when two blocks are added in either order, if `ρ` shifts each block to its
place. -/
theorem append_swap (h : g.Matches ρ g') {first second : List TypeDescriptor}
    (hfirst : Shifts ρ g.size (g.size + second.length) first.length)
    (hsecond : Shifts ρ (g.size + first.length) g.size second.length) :
    (g.append (first ++ second)).Matches ρ
      (g'.append ((second ++ first).map (.renumber ρ))) where
  size_eq := by
    simp only [size_append, h.size_eq, List.length_map, List.length_append]
    omega
  lt_size id hid := by
    rw [size_append, List.length_append] at hid ⊢
    -- old numbers stay below, and each block moves as a whole
    rcases append_cases hid with hold | ⟨i, hi, rfl⟩ | ⟨i, hi, rfl⟩
    · exact Nat.lt_of_lt_of_le (h.lt_size id hold) (Nat.le_add_right _ _)
    · rw [hfirst i hi]
      show g.size + second.length + i < g.size + (first.length + second.length)
      omega
    · rw [hsecond i hi]
      show g.size + i < g.size + (first.length + second.length)
      omega
  descriptor_eq id hid := by
    rw [size_append, List.length_append] at hid
    rw [List.map_append]
    rcases append_cases hid with hold | ⟨i, hi, rfl⟩ | ⟨i, hi, rfl⟩
    -- in front of the blocks nothing changes
    · have hnew : ρ id < g'.size := h.size_eq ▸ h.lt_size id hold
      rw [descriptor_append_lt hold, descriptor_append_lt hnew, h.descriptor_eq id hold]
    -- the first block stands behind the second one now
    · have hlength : (second.map (TypeDescriptor.renumber ρ)).length ≤ second.length + i := by simp
      rw [hfirst i hi, descriptor_append_add, ← h.size_eq, Nat.add_assoc, descriptor_append_add,
        List.getElem?_append_right hlength, List.getElem?_append_left hi, List.length_map,
        Nat.add_sub_cancel_left, List.getElem?_map, List.getElem?_eq_getElem hi]
      rfl
    · have hlength : first.length ≤ first.length + i := Nat.le_add_right _ _
      have hi' : i < (second.map (TypeDescriptor.renumber ρ)).length := by simpa using hi
      rw [hsecond i hi, Nat.add_assoc, descriptor_append_add, ← h.size_eq, descriptor_append_add,
        List.getElem?_append_right hlength, List.getElem?_append_left hi', Nat.add_sub_cancel_left,
        List.getElem?_map, List.getElem?_eq_getElem hi]
      rfl

/-- Graphs stay the same when one block is added to both of them. -/
theorem append (h : g.Matches ρ g') {block : List TypeDescriptor}
    (hshift : Shifts ρ g.size g.size block.length) :
    (g.append block).Matches ρ (g'.append (block.map (.renumber ρ))) := by
  have hnone : Shifts ρ (g.size + block.length) g.size ([] : List TypeDescriptor).length :=
    fun i hi => absurd hi (Nat.not_lt_zero i)
  have hplace : Shifts ρ g.size (g.size + ([] : List TypeDescriptor).length) block.length := hshift
  have hswap := h.append_swap hplace hnone
  rwa [List.append_nil, List.nil_append] at hswap

/-- Graphs stay the same when a type is filled in in both of them. -/
theorem modify (h : g.Matches ρ g') (hinj : Function.Injective ρ) {id : TypeId} (hid : id < g.size)
    (d : TypeDescriptor) :
    (g.modify id fun _ => d).Matches ρ (g'.modify (ρ id) fun _ => d.renumber ρ) where
  size_eq := by rw [size_modify, size_modify, h.size_eq]
  lt_size other hother := by
    rw [size_modify] at hother ⊢
    exact h.lt_size other hother
  descriptor_eq other hother := by
    rw [size_modify] at hother
    have hid' : ρ id < g'.size := h.size_eq ▸ h.lt_size id hid
    rw [descriptor_modify hid, descriptor_modify hid', h.descriptor_eq other hother]
    by_cases hsame : other = id
    · rw [if_pos hsame, if_pos (congrArg ρ hsame)]
    · rw [if_neg hsame, if_neg fun h => hsame (hinj h)]

/-- Graphs of the same size hold the same types if no number beyond them is changed. -/
theorem renumbers (h : g.Matches ρ g') (hinj : Function.Injective ρ)
    (houtside : ∀ id, g.size ≤ id → ρ id = id) : g.Renumbers ρ g' where
  injective := hinj
  descriptor_eq id := by
    by_cases hid : id < g.size
    · exact h.descriptor_eq id hid
    · have hle : g.size ≤ id := Nat.le_of_not_lt hid
      rw [houtside id hle, descriptor_of_size_le hle, descriptor_of_size_le (h.size_eq ▸ hle)]
      rfl

end Matches

end TypeGraph

end SignatureForms
