import Mathlib.Data.List.Nodup
import SignatureForms.Naming.Registry
import SignatureForms.Proofs.Naming.Numerals

/-!
# Reserved names

A registry gives the first request for a name the name itself, and each later one the name with a
running number. It counts requests by the name that is asked for, so a name that is given with a
number can be asked for, and given, as it is too. This module says just when that happens.

The module introduces:

* `ranked before requests` — each request with the number of requests for the same name before it;
* `Registry.Tracks r requests` — the registry is in the state that the requests lead to;
* `NumbersApart requests` — no name that is asked for is another one with a number that is given.

## Main results

* `Registry.reserveAll_empty`: what a registry gives to a run of requests;
* `Registry.reserveAll_nodup_iff`: the names that are given differ just if the numbers are apart.
-/

namespace SignatureForms.Naming

/-- The name that is given to a request after as many requests for the same name. -/
def numberedName (name : String) (earlier : Nat) : String :=
  if earlier = 0 then name else name ++ toString earlier

/-- Each request with the number of requests for the same name before it, the first ones of which
are `before`. -/
def ranked (before : List String) : List String → List (String × Nat)
  | [] => []
  | name :: rest => (name, before.count name) :: ranked (before ++ [name]) rest

/-- No name that is asked for is another one with a number that is given: the numbers of a name go
up to the count of its requests, the first of which gets none. -/
def NumbersApart (requests : List String) : Prop :=
  ∀ name ∈ requests, ∀ other ∈ requests, ∀ number < requests.count other, 0 < number →
    name ≠ other ++ toString number

instance (requests : List String) : Decidable (NumbersApart requests) :=
  inferInstanceAs (Decidable (∀ name ∈ requests, _))

/-! ## Ranks -/

/-- The ranks of a name go from the count of its requests before up to the count of them all. -/
theorem mem_ranked {before requests : List String} {name : String} {rank : Nat} :
    (name, rank) ∈ ranked before requests ↔
      before.count name ≤ rank ∧ rank < before.count name + requests.count name := by
  induction requests generalizing before with
  | nil => simp [ranked]
  | cons first rest ih =>
    rw [ranked, List.mem_cons, ih, Prod.mk.injEq, List.count_append]
    by_cases hsame : first = name
    · subst hsame
      rw [List.count_singleton_self, List.count_cons_self]
      simp only [true_and]
      omega
    · have hone : [first].count name = 0 := by rw [List.count_singleton, beq_false_of_ne hsame]; rfl
      rw [hone, List.count_cons_of_ne hsame]
      simp [Ne.symm hsame]

/-- No two requests for a name have the same rank. -/
theorem nodup_ranked (before requests : List String) : (ranked before requests).Nodup := by
  induction requests generalizing before with
  | nil => exact List.nodup_nil
  | cons first rest ih =>
    rw [ranked, List.nodup_cons]
    refine ⟨fun hlater => ?_, ih _⟩
    -- a later request for the name comes after one more request for it
    rw [mem_ranked, List.count_append, List.count_singleton_self] at hlater
    omega

/-! ## Requests -/

namespace Registry

/-- The registry is in the state that the requests lead to: it has a count for each name that was
asked for, which leaves the first request out. -/
def Tracks (r : Registry) (requests : List String) : Prop :=
  ∀ name, r.counts.lookup name =
    if requests.count name = 0 then none else some (requests.count name - 1)

/-- The empty registry has seen no request. -/
theorem tracks_empty : empty.Tracks [] := fun _ => rfl

/-- Raising the count of a name leaves all other counts alone. -/
theorem lookup_bump (counts : List (String × Nat)) (name other : String) :
    (bump name counts).lookup other =
      if other = name then (counts.lookup other).map (· + 1) else counts.lookup other := by
  induction counts with
  | nil => simp [bump]
  | cons entry rest ih =>
    obtain ⟨key, count⟩ := entry
    by_cases hname : key = name <;> by_cases hother : other = key
    · subst hname hother
      simp [bump]
    · subst hname
      simp [bump, hother, List.lookup_cons, beq_false_of_ne hother]
    · subst hother
      simp [bump, hname]
    · simp [bump, hname, List.lookup_cons, beq_false_of_ne hother, ih]

/-- A request for a name gets it with the number of requests before, none for the first. -/
theorem Tracks.reserve_fst {r : Registry} {requests : List String} (h : r.Tracks requests)
    (name : String) : (r.reserve name).1 = numberedName name (requests.count name) := by
  rw [reserve, h name, numberedName]
  split
  · next hfirst =>
    rw [if_pos]
    exact Classical.byContradiction fun hlater => by rw [if_neg hlater] at hfirst; cases hfirst
  · next hlater =>
    split at hlater
    · cases hlater
    · next hseen =>
      cases hlater
      rw [if_neg hseen, Nat.sub_add_cancel (Nat.pos_of_ne_zero hseen)]

/-- After a request for a name the registry has seen that one too. -/
theorem Tracks.reserve_snd {r : Registry} {requests : List String} (h : r.Tracks requests)
    (name : String) : (r.reserve name).2.Tracks (requests ++ [name]) := by
  intro other
  have hname := h name
  have hother := h other
  rw [reserve, List.count_append, List.count_singleton]
  by_cases hsame : name = other
  · subst hsame
    simp only [beq_self_eq_true, if_true, Nat.add_one_ne_zero, if_false, Nat.add_sub_cancel]
    split
    -- the first request for the name enters it with the count zero
    · next hfirst =>
      rw [hfirst] at hname
      split at hname
      · next hzero => simp [List.lookup_append, hfirst, hzero]
      · cases hname
    · next count hseen =>
      rw [hseen] at hname
      split at hname
      · cases hname
      · next hpos =>
        cases hname
        rw [lookup_bump, if_pos rfl, hseen, Option.map_some,
          Nat.sub_add_cancel (Nat.pos_of_ne_zero hpos)]
  · have hdiffer : (name == other) = false := beq_false_of_ne hsame
    simp only [hdiffer, Bool.false_eq_true, if_false, Nat.add_zero]
    rw [← hother]
    split
    · simp [List.lookup_append, List.lookup_cons, beq_false_of_ne (Ne.symm hsame)]
    · rw [lookup_bump, if_neg (Ne.symm hsame)]

/-- A run of requests gets each name with the rank of its request. -/
theorem Tracks.reserveAll {r : Registry} {before : List String} (h : r.Tracks before)
    (requests : List String) :
    r.reserveAll requests =
      (ranked before requests).map fun request => numberedName request.1 request.2 := by
  induction requests generalizing r before with
  | nil => rfl
  | cons name rest ih =>
    rw [Registry.reserveAll, ranked, List.map_cons, h.reserve_fst, ih (h.reserve_snd name)]

/-- A run of requests to an empty registry gets each name with the rank of its request. -/
theorem reserveAll_empty (requests : List String) :
    empty.reserveAll requests =
      (ranked [] requests).map fun request => numberedName request.1 request.2 :=
  tracks_empty.reserveAll requests

end Registry

/-! ## Collisions -/

/-- Where a shorter name with a number is a longer one with another, the longer name itself is the
shorter one with a number that comes before. -/
theorem exists_number_of_append {shorter longer : String} {i j : Nat} {more : List Char}
    (hlonger : longer.toList = shorter.toList ++ more) (hmore : more ≠ []) (hj : 0 < j)
    (h : Nat.toDigits 10 j = more ++ Nat.toDigits 10 i) :
    ∃ number ≤ j, 0 < number ∧ longer = shorter ++ toString number := by
  obtain ⟨number, rfl, hle, hpos⟩ := exists_toDigits_of_append hmore h
  refine ⟨number, hle, hpos hj, ?_⟩
  rw [← String.toList_inj, String.toList_append, hlonger, toList_toString]

/-- Two requests that are given one name are the same, where the numbers are apart. -/
theorem NumbersApart.eq_of_numberedName_eq {requests : List String} (h : NumbersApart requests)
    {name other : String} {i j : Nat} (hi : i < requests.count name)
    (hj : j < requests.count other) (heq : numberedName name i = numberedName other j) :
    (name, i) = (other, j) := by
  have hname : name ∈ requests := List.count_pos_iff.1 (Nat.zero_lt_of_lt hi)
  have hother : other ∈ requests := List.count_pos_iff.1 (Nat.zero_lt_of_lt hj)
  rw [numberedName, numberedName] at heq
  rcases Nat.eq_zero_or_pos i with rfl | hipos <;> rcases Nat.eq_zero_or_pos j with rfl | hjpos
  · rw [if_pos rfl, if_pos rfl] at heq
    rw [heq]
  -- one is given as it is and the other with a number: just what is ruled out
  · rw [if_pos rfl, if_neg (Nat.ne_of_gt hjpos)] at heq
    exact absurd heq (h name hname other hother j hj hjpos)
  · rw [if_pos rfl, if_neg (Nat.ne_of_gt hipos)] at heq
    exact absurd heq.symm (h other hother name hname i hi hipos)
  · rw [if_neg (Nat.ne_of_gt hipos), if_neg (Nat.ne_of_gt hjpos)] at heq
    have hchars := congrArg String.toList heq
    rw [String.toList_append, String.toList_append, toList_toString, toList_toString] at hchars
    -- either the names are the same, or the longer one is the shorter one with a number
    rcases List.append_eq_append_iff.1 hchars with
      ⟨more, hlonger, hdigits⟩ | ⟨more, hlonger, hdigits⟩
    · rcases eq_or_ne more [] with rfl | hmore
      · rw [List.append_nil, String.toList_inj] at hlonger
        rw [hlonger, toDigits_inj.1 hdigits]
      · obtain ⟨number, hle, hpos, hclash⟩ := exists_number_of_append hlonger hmore hipos hdigits
        exact absurd hclash (h other hother name hname number (Nat.lt_of_le_of_lt hle hi) hpos)
    · rcases eq_or_ne more [] with rfl | hmore
      · rw [List.append_nil, String.toList_inj] at hlonger
        rw [hlonger, toDigits_inj.1 hdigits]
      · obtain ⟨number, hle, hpos, hclash⟩ := exists_number_of_append hlonger hmore hjpos hdigits
        exact absurd hclash (h name hname other hother number (Nat.lt_of_le_of_lt hle hj) hpos)

/-- A registry gives different names to all requests just if the numbers are apart: if no name that
is asked for is another one with a number that this gets. -/
theorem Registry.reserveAll_nodup_iff (requests : List String) :
    (Registry.empty.reserveAll requests).Nodup ↔ NumbersApart requests := by
  rw [Registry.reserveAll_empty, List.nodup_map_iff_inj_on (nodup_ranked [] requests)]
  constructor
  · intro hinj name hname other hother number hnumber hpos hclash
    -- the first request for the name and a later one for the other are given the same
    have hfirst : (name, 0) ∈ ranked [] requests := by
      rw [mem_ranked, List.count_nil]
      exact ⟨Nat.le_refl 0, by simpa using hname⟩
    have hlater : (other, number) ∈ ranked [] requests := by
      rw [mem_ranked, List.count_nil]
      exact ⟨Nat.zero_le number, by simpa using hnumber⟩
    have hsame := hinj _ hfirst _ hlater (by
      dsimp only
      rw [numberedName, numberedName, if_pos rfl, if_neg (Nat.ne_of_gt hpos), hclash])
    cases hsame
    exact Nat.lt_irrefl 0 hpos
  · rintro hapart ⟨name, i⟩ hname ⟨other, j⟩ hother heq
    rw [mem_ranked, List.count_nil, Nat.zero_add] at hname hother
    exact hapart.eq_of_numberedName_eq hname.2 hother.2 heq

end SignatureForms.Naming
