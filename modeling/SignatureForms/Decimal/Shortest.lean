/-!
# Shortest decimals

The shortest decimal that is read back as a given binary number. A binary number `m * 2 ^ q`
stands for an interval of reals, those that round to it: half a gap on each side, a quarter gap
below where the gap shrinks, the ends included when `m` is even. For one digit, then two, and so
on, the two neighbours of the number on the grid of that many digits are tried; the first grid
with a neighbour inside the interval wins, of two neighbours inside the nearer one, and of two
equally near ones the even one.

All arithmetic is exact, on natural numbers.
-/

namespace SignatureForms.Decimal

/-- A positive binary number with the interval of reals that round to it, all as multiples of
the fraction `numerator / denominator`. -/
structure Interval where
  /-- The lower end. -/
  low : Nat
  /-- The number itself. -/
  middle : Nat
  /-- The upper end. -/
  high : Nat
  /-- Numerator of the common unit. -/
  numerator : Nat
  /-- Denominator of the common unit. -/
  denominator : Nat
  /-- The ends belong to the interval. -/
  closed : Bool

/-- The interval of `mantissa * 2 ^ exponent`. The gap below a power of two is half the gap above
it, but for the least exponent of all. -/
def Interval.ofBinary (mantissa : Nat) (exponent : Int) (narrowBelow : Bool) : Interval where
  low := if narrowBelow then 4 * mantissa - 1 else 4 * mantissa - 2
  middle := 4 * mantissa
  high := 4 * mantissa + 2
  numerator := Nat.pow 2 (exponent - 2).toNat
  denominator := Nat.pow 2 (2 - exponent).toNat
  closed := mantissa % 2 == 0

/-- A decimal number, `digits * 10 ^ exponent`. -/
structure Scientific where
  /-- The digits, read as a whole number. -/
  digits : Nat
  /-- The power of ten by which the digits are scaled. -/
  exponent : Int
deriving Repr, DecidableEq

/-- A common unit scaled so that one is the grid step `10 ^ exponent`. -/
def Interval.onGrid (i : Interval) (exponent : Int) : Interval :=
  { i with
    numerator := i.numerator * Nat.pow 10 (-exponent).toNat
    denominator := i.denominator * Nat.pow 10 exponent.toNat }

/-- The whole number `n` of grid steps lies in the interval. -/
def Interval.holds (i : Interval) (n : Nat) : Bool :=
  let low := i.low * i.numerator
  let high := i.high * i.numerator
  let place := n * i.denominator
  if i.closed then low ≤ place && place ≤ high else low < place && place < high

/-- The nearer of the two grid neighbours of the number that lie in the interval, the even one
on a tie. -/
def Interval.neighbour? (i : Interval) : Option Nat :=
  let value := i.middle * i.numerator
  let below := value / i.denominator
  let twiceRest := 2 * (value % i.denominator)
  match i.holds below, i.holds (below + 1) with
  | true, true =>
    if twiceRest < i.denominator then some below
    else if i.denominator < twiceRest then some (below + 1)
    else if below % 2 = 0 then some below else some (below + 1)
  | true, false => some below
  | false, true => some (below + 1)
  | false, false => none

/-- Tries the grids from `exponent` downwards, at most `count` of them. -/
def Interval.search (i : Interval) (exponent : Int) : Nat → Scientific
  | 0 => ⟨(i.onGrid exponent).middle, exponent⟩
  | count + 1 =>
    match (i.onGrid exponent).neighbour? with
    | some digits => ⟨digits, exponent⟩
    | none => i.search (exponent - 1) count

/-- Removes final zeros of the digits, at most `count` of them. -/
def Scientific.trimZeros (s : Scientific) : Nat → Scientific
  | 0 => s
  | count + 1 =>
    if s.digits ≠ 0 ∧ s.digits % 10 = 0 then
      Scientific.trimZeros ⟨s.digits / 10, s.exponent + 1⟩ count
    else s

/-- The shortest decimal in the interval. No binary number of 64 bits needs more than seventeen
digits, and none exceeds `10 ^ 309`. -/
def Interval.shortest (i : Interval) : Scientific :=
  let whole := i.middle * i.numerator / i.denominator
  let top : Int :=
    if whole = 0 then
      -- Numbers below one: the first grid with a nonzero neighbour below the number.
      1 - (Nat.toDigits 10 (i.denominator / (i.middle * i.numerator))).length
    else ((Nat.toDigits 10 whole).length : Int) - 1
  (i.search (top + 1) 20).trimZeros 20

/-- The weight of the exponent field of a number of 64 bits, above 52 bits of fraction. -/
def exponentWeight : Nat := 0x10000000000000

/-- The exponent field of infinity and of undefined values. -/
def topExponent : Nat := 0x7FF

/-- The weight of the sign of a number of 64 bits. -/
def signWeight : Nat := 0x8000000000000000

/-- The shortest decimal that reads back as a positive finite number, given by the bits of its
fraction and of its exponent. -/
def shortestOfBits (bits : Nat) : Scientific :=
  let fraction := bits % exponentWeight
  let exponent := bits / exponentWeight
  if exponent = 0 then (Interval.ofBinary fraction (-1074) false).shortest
  else (Interval.ofBinary (exponentWeight + fraction) ((exponent : Int) - 1075)
    (fraction = 0 && exponent ≠ 1)).shortest

end SignatureForms.Decimal
