import SignatureForms.Proofs.Form.Rendering
import Mathlib.Data.List.Perm.Basic

/-!
# Controls of a form

A form is walked depth first: an entry comes before the entries inside it, and columns of tables
are no entries of the form. The inputs and the tables are its controls; the groups only hold
controls together. Gathering and splicing move entries about; this module says what they keep.

The module introduces:

* `Entry.walkAll entries` — all entries of a form, depth first;
* `Entry.controls entries` — the inputs and tables among them;
* `KeptByLayout condition Q` — the property `Q` of entries is kept by putting entries one after the
  other and by grouping them under a condition.

## Main results

* `Entry.namesAll_eq_map_controls`: the names of a form are those of its controls;
* `controls_gather_perm`, `controls_spliceArms_perm`: gathering and splicing neither lose nor
  repeat a control;
* `KeptByLayout.fields`, `KeptByLayout.members`: such a property holds of the fields of a record and
  of the members of a union if it holds of each of them.
-/

namespace SignatureForms

namespace Entry

/-! ## Walking a form -/

/-- When an entry is visible. -/
def condition : Entry → Condition
  | input i => i.condition
  | group _ _ condition _ => condition
  | table info _ => info.condition

/-- The entry is an input or a table. -/
def isControl : Entry → Bool
  | group .. => false
  | _ => true

mutual

/-- An entry and the entries inside it, depth first. -/
def walk : Entry → List Entry
  | input i => [input i]
  | group title collapsed condition elements =>
    group title collapsed condition elements :: walkAll elements
  | table info columns => [table info columns]

/-- Several entries and the entries inside them, depth first. -/
def walkAll : List Entry → List Entry
  | [] => []
  | entry :: rest => walk entry ++ walkAll rest

end

/-- The inputs and tables of a form, depth first. -/
def controls (entries : List Entry) : List Entry := (walkAll entries).filter isControl

@[simp]
theorem walkAll_append (entries more : List Entry) :
    walkAll (entries ++ more) = walkAll entries ++ walkAll more := by
  induction entries with
  | nil => rfl
  | cons entry rest ih => rw [List.cons_append, walkAll, walkAll, ih, List.append_assoc]

theorem walkAll_singleton (entry : Entry) : walkAll [entry] = walk entry := by
  rw [walkAll, walkAll, List.append_nil]

/-- A control holds no entries. -/
theorem walk_of_isControl {entry : Entry} (h : entry.isControl = true) : walk entry = [entry] := by
  cases entry with
  | group => cases h
  | _ => rfl

@[simp]
theorem controls_append (entries more : List Entry) :
    controls (entries ++ more) = controls entries ++ controls more := by
  rw [controls, walkAll_append, List.filter_append]
  rfl

/-- The controls of several parts are those of each part in turn. -/
theorem controls_flatten (parts : List (List Entry)) :
    controls parts.flatten = parts.flatMap controls := by
  induction parts with
  | nil => rfl
  | cons part rest ih => rw [List.flatten_cons, controls_append, ih, List.flatMap_cons]

theorem controls_flatMap {α : Type} (parts : List α) (entries : α → List Entry) :
    controls (parts.flatMap entries) = parts.flatMap fun part => controls (entries part) := by
  rw [List.flatMap_def, controls_flatten, List.flatMap_map]

/-- A control by itself is its only control. -/
theorem controls_singleton {entry : Entry} (h : entry.isControl = true) :
    controls [entry] = [entry] := by
  rw [controls, walkAll_singleton, walk_of_isControl h, List.filter_singleton, h]
  rfl

/-- A group has the controls that it holds together. -/
@[simp]
theorem controls_group (title : String) (collapsed : Bool) (condition : Condition)
    (elements : List Entry) :
    controls [group title collapsed condition elements] = controls elements := by
  rw [controls, walkAll_singleton, walk, List.filter_cons_of_neg (by simp [isControl])]
  rfl

mutual

/-- The names of an entry are those of the controls in it. -/
theorem names_eq_map_walk : ∀ entry : Entry,
    names entry = ((walk entry).filter isControl).map name
  | input _ => rfl
  | table _ _ => rfl
  | group title collapsed condition elements => by
    rw [names, walk, List.filter_cons_of_neg (by simp [isControl])]
    exact namesAll_eq_map_controls elements

/-- The names of a form are those of its controls. -/
theorem namesAll_eq_map_controls : ∀ entries : List Entry,
    namesAll entries = (controls entries).map name
  | [] => rfl
  | entry :: rest => by
    rw [namesAll, names_eq_map_walk entry, namesAll_eq_map_controls rest, ← List.map_append,
      controls, controls, walkAll, List.filter_append]

end

end Entry

/-! ## Gathering -/

/-- The placed fields whose groups do not stand yet. -/
def notStanding (standing : List String) (placed : List Placed) : List Placed :=
  placed.filter fun p => p.segment.all fun segment => !standing.contains segment

/-- Gathering placed fields neither loses nor repeats a control. The fields whose groups stand
already are in those groups. -/
theorem controls_gather_notStanding_perm (condition : Condition) (standing : List String)
    (placed : List Placed) :
    (Entry.controls (gather condition standing placed)).Perm
      (Entry.controls ((notStanding standing placed).flatMap Placed.entries)) := by
  -- the groups that stand grow along the fields, so the induction is for all of them
  induction placed generalizing standing with
  | nil => exact .refl _
  | cons first rest ih =>
    rw [gather]
    split
    · next hfree =>
      rw [notStanding, List.filter_cons_of_pos (by simp [hfree]), List.flatMap_cons,
        Entry.controls_append, Entry.controls_append]
      exact (ih standing).append_left _
    · next segment hsegment =>
      split
      · next hstands =>
        rw [notStanding, List.filter_cons_of_neg (by simpa [hsegment] using hstands)]
        exact ih standing
      · next hnew =>
        -- the group takes the fields of its segment, and the rest is gathered without them
        have hsame : (notStanding standing (first :: rest)).filter
              (fun p => p.segment == some segment) =
            (first :: rest).filter fun p => p.segment == some segment := by
          rw [notStanding, List.filter_filter]
          refine List.filter_congr fun p _ => ?_
          by_cases hp : p.segment = some segment
          · simpa [hp] using hnew
          · simp [hp]
        have hothers : (notStanding standing (first :: rest)).filter
              (fun p => !(p.segment == some segment)) =
            notStanding (segment :: standing) rest := by
          rw [notStanding, List.filter_filter, List.filter_cons_of_neg (by simp [hsegment]),
            notStanding]
          refine List.filter_congr fun p _ => ?_
          cases hp : p.segment with
          | none => rfl
          | some other =>
            rw [Option.all_some, Option.all_some, List.contains_cons, Bool.not_or]
            rfl
        -- what stands afterwards are the fields in the new group and those in later ones
        have hparts := (List.filter_append_perm (fun p => p.segment == some segment)
          (notStanding standing (first :: rest))).flatMap_right
            fun p => Entry.controls p.entries
        rw [hsame, hothers, List.flatMap_append] at hparts
        rw [← List.singleton_append, Entry.controls_append, Entry.controls_group,
          Entry.controls_flatMap, Entry.controls_flatMap]
        refine .trans (.append_left _ ?_) hparts
        rw [← Entry.controls_flatMap]
        exact ih (segment :: standing)

/-- While no group stands, no field is in one. -/
theorem notStanding_nil (placed : List Placed) : notStanding [] placed = placed := by
  refine List.filter_eq_self.2 fun p _ => ?_
  cases p.segment <;> rfl

/-- Gathering placed fields neither loses nor repeats a control. -/
theorem controls_gather_perm (condition : Condition) (placed : List Placed) :
    (Entry.controls (gather condition [] placed)).Perm
      (placed.flatMap fun p => Entry.controls p.entries) := by
  have h := controls_gather_notStanding_perm condition [] placed
  rwa [notStanding_nil, Entry.controls_flatMap] at h

/-- Splicing the unfolded records of a union in among the other members neither loses nor repeats
a control. -/
theorem controls_spliceArms_perm (arms : List Entry) (others : List (Option (List Entry))) :
    (Entry.controls (spliceArms arms others)).Perm
      ((others.filterMap id).flatMap Entry.controls ++ Entry.controls arms) := by
  -- cutting the other members at the place of the records loses none of them
  have hparts : (others.filterMap id).flatMap Entry.controls =
      ((others.takeWhile Option.isSome).filterMap id).flatMap Entry.controls ++
        ((others.dropWhile Option.isSome).filterMap id).flatMap Entry.controls := by
    rw [← List.flatMap_append, ← List.filterMap_append, List.takeWhile_append_dropWhile]
  rw [spliceArms, Entry.controls_append, Entry.controls_append, Entry.controls_flatten,
    Entry.controls_flatten, hparts, List.append_assoc, List.append_assoc]
  exact List.perm_append_comm.append_left _

/-! ## Members of a union -/

/-- The entries of the members of a union that are no unfolded records come member by member. -/
theorem flatMap_otherEntries {β : Type} (expandRecords : Bool) (members : List ParamNode)
    (entries : ParamNode → List Entry) (f : List Entry → List β) :
    ((otherEntries expandRecords members entries).filterMap id).flatMap f =
      members.flatMap fun member =>
        if member.expands expandRecords then [] else f (entries member) := by
  induction members with
  | nil => rfl
  | cons member rest ih =>
    rw [otherEntries, List.map_cons, List.flatMap_cons, ← ih]
    cases member.expands expandRecords <;> rfl

/-- The fields of the unfolded records of a union come member by member. -/
theorem flatMap_armFields {β : Type} (expandRecords : Bool) (group : Option String)
    (members : List ParamNode) (entries : ParamNode → ParamNode → List Entry)
    (f : List Entry → List β) :
    ((armFields expandRecords group members entries).flatMap fun p => f p.entries) =
      members.flatMap fun member =>
        if member.expands expandRecords then
          member.fields.flatMap fun field => f (entries member field)
        else [] := by
  rw [armFields, List.flatMap_assoc]
  refine congrArg members.flatMap (funext fun member => ?_)
  cases member.expands expandRecords with
  | false => rfl
  | true => exact List.flatMap_map ..

/-! ## Properties kept by the layout -/

/-- The property `Q` of entries is kept by putting entries one after the other and by grouping them
under a condition. -/
structure KeptByLayout (condition : Condition) (Q : List Entry → Prop) : Prop where
  /-- The property holds of no entries. -/
  nil : Q []
  /-- The property holds of entries one after the other if it holds of both parts. -/
  append : ∀ entries more, Q entries → Q more → Q (entries ++ more)
  /-- The property holds of a group if it holds of what is in it. -/
  group : ∀ title elements, Q elements → Q [.group title false condition elements]

namespace KeptByLayout

variable {condition : Condition} {Q : List Entry → Prop}

/-- A property that the layout keeps holds of gathered fields if it holds of each field. -/
theorem gather (hQ : KeptByLayout condition Q) {placed : List Placed}
    (h : ∀ p ∈ placed, Q p.entries) (standing : List String) :
    Q (SignatureForms.gather condition standing placed) := by
  -- the entries in a group, in turn
  have hall : ∀ parts : List Placed, (∀ p ∈ parts, Q p.entries) →
      Q (parts.flatMap Placed.entries) := by
    intro parts hparts
    induction parts with
    | nil => exact hQ.nil
    | cons part rest ih =>
      rw [List.forall_mem_cons] at hparts
      exact hQ.append _ _ hparts.1 (ih hparts.2)
  induction placed generalizing standing with
  | nil => exact hQ.nil
  | cons first rest ih =>
    have hrest := (List.forall_mem_cons.1 h).2
    rw [SignatureForms.gather]
    split
    · exact hQ.append _ _ (h first List.mem_cons_self) (ih hrest standing)
    · split
      · exact ih hrest standing
      · refine hQ.append [_] _ (hQ.group _ _ (hall _ fun p hp => ?_)) (ih hrest _)
        exact h p (List.mem_of_mem_filter hp)

/-- A property that the layout keeps holds of the spliced members of a union if it holds of the
unfolded records together and of each other member. -/
theorem spliceArms (hQ : KeptByLayout condition Q) {arms : List Entry}
    {others : List (Option (List Entry))} (harms : Q arms)
    (hothers : ∀ entries, some entries ∈ others → Q entries) :
    Q (SignatureForms.spliceArms arms others) := by
  -- the members on either side of the records, in turn
  have hall : ∀ parts : List (Option (List Entry)), parts ⊆ others →
      Q (parts.filterMap id).flatten := by
    intro parts hparts
    induction parts with
    | nil => exact hQ.nil
    | cons part rest ih =>
      have hrest := ih fun _ h => hparts (List.mem_cons_of_mem _ h)
      cases part with
      | none => exact hrest
      | some entries => exact hQ.append _ _ (hothers entries (hparts List.mem_cons_self)) hrest
  exact hQ.append _ _ (hQ.append _ _ (hall _ (List.takeWhile_subset _)) harms)
    (hall _ (List.dropWhile_subset _))

/-- A property that the layout keeps holds of the fields of a record if it holds of each of them. -/
theorem fields (hQ : KeptByLayout condition Q) {group : Option String} {fields : List ParamNode}
    {entries : ParamNode → List Entry} (h : ∀ field ∈ fields, Q (entries field)) :
    Q (SignatureForms.gather condition [] (fields.map fun field =>
      ⟨groupSegment group field.value, entries field⟩)) := by
  refine hQ.gather (fun p hp => ?_) []
  obtain ⟨field, hfield, rfl⟩ := List.mem_map.1 hp
  exact h field hfield

/-- A property that the layout keeps holds of the members of a union if it holds of each member that
is no unfolded record, and of each field of those that are. -/
theorem members (hQ : KeptByLayout condition Q) {expandRecords : Bool} {group : Option String}
    {members : List ParamNode} {entries : ParamNode → List Entry}
    {arms : ParamNode → ParamNode → List Entry}
    (hothers : ∀ member ∈ members, member.expands expandRecords = false → Q (entries member))
    (harms : ∀ member ∈ members, member.expands expandRecords = true →
      ∀ field ∈ member.fields, Q (arms member field)) :
    Q (SignatureForms.spliceArms
      (SignatureForms.gather condition [] (armFields expandRecords group members arms))
      (otherEntries expandRecords members entries)) := by
  refine hQ.spliceArms (hQ.gather (fun p hp => ?_) []) fun content hcontent => ?_
  · obtain ⟨member, hmember, hp⟩ := List.mem_flatMap.1 hp
    split at hp
    · next hexpands =>
      obtain ⟨field, hfield, rfl⟩ := List.mem_map.1 hp
      exact harms member hmember hexpands field hfield
    · cases hp
  · obtain ⟨member, hmember, hother⟩ := List.mem_map.1 hcontent
    split at hother
    · cases hother
    · next hflat =>
      cases hother
      exact hothers member hmember (by simpa using hflat)

/-- A property that the layout keeps holds of several parts one after the other if it holds of each
of them. -/
theorem flatMap (hQ : KeptByLayout condition Q) {α : Type} {parts : List α}
    {content : α → List Entry} (h : ∀ part ∈ parts, Q (content part)) :
    Q (parts.flatMap content) := by
  induction parts with
  | nil => exact hQ.nil
  | cons part rest ih =>
    rw [List.forall_mem_cons] at h
    exact hQ.append _ _ h.1 (ih h.2)

end KeptByLayout

end SignatureForms
