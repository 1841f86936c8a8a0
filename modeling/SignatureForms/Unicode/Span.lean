/-!
# Spans of code points

A Unicode property is given as a list of spans of code points in ascending order, and a case
mapping as a list of spans with the distance by which their members move. Looking a code point up
stops at the first span that could hold it.
-/

namespace SignatureForms.Unicode

/-- One of the spans, given by first and last code point in ascending order, holds `n`. -/
def covers : List (Nat × Nat) → Nat → Bool
  | [], _ => false
  | (first, last) :: rest, n => if n ≤ last then first ≤ n else covers rest n

/-- The first code point of the span that holds `n`. -/
def spanStart? : List (Nat × Nat) → Nat → Option Nat
  | [], _ => none
  | (first, last) :: rest, n =>
    if n ≤ last then (if first ≤ n then some first else none) else spanStart? rest n

/-- Every `step`-th code point from `first` up to `last`. -/
structure Stride where
  /-- The least member. -/
  first : Nat
  /-- The greatest member. -/
  last : Nat
  /-- The distance between neighbours. -/
  step : Nat

/-- Membership in a stride. -/
def Stride.holds (s : Stride) (n : Nat) : Bool :=
  s.first ≤ n && n ≤ s.last && (n - s.first) % s.step == 0

/-- One of the strides, which do not overlap and ascend, holds `n`. -/
def coversStrided : List Stride → Nat → Bool
  | [], _ => false
  | s :: rest, n => if n ≤ s.last then s.holds n else coversStrided rest n

/-- A stride whose members all move by the same distance under a case mapping. -/
structure Shift where
  /-- The characters that move. -/
  members : Stride
  /-- How far each of them moves. -/
  offset : Int

/-- Where `n` moves, the shifts being ordered by their first members. -/
def shift? : List Shift → Nat → Option Nat
  | [], _ => none
  | s :: rest, n =>
    if n < s.members.first then none
    else if s.members.holds n then some ((n : Int) + s.offset).toNat
    else shift? rest n

/-- The full case mapping given by one-to-one shifts and by longer expansions. -/
def mapCase (shifts : List Shift) (expansions : List (Nat × List Nat)) (c : Char) : List Char :=
  match shift? shifts c.toNat with
  | some n => [Char.ofNat n]
  | none =>
    match expansions.lookup c.toNat with
    | some ns => ns.map Char.ofNat
    | none => [c]

@[simp]
theorem covers_nil (n : Nat) : covers [] n = false := rfl

theorem covers_cons (first last n : Nat) (rest : List (Nat × Nat)) :
    covers ((first, last) :: rest) n = if n ≤ last then decide (first ≤ n) else covers rest n :=
  rfl

end SignatureForms.Unicode
