import SignatureForms.Decimal.Shortest

/-!
# Decimal notation

How a number with a fraction is written: its shortest digits, positionally from `0.0001` up to
below `10 ^ 16` and with an exponent of at least two digits elsewhere. A whole number keeps one
zero after the point, except in exponent notation.
-/

namespace SignatureForms.Decimal

/-- The decimal digits of a whole number. -/
def digitText (n : Nat) : String :=
  String.ofList (Nat.toDigits 10 n)

/-- A run of zeros. -/
def zeros (count : Nat) : String :=
  String.ofList (List.replicate count '0')

/-- The exponent of a number in exponent notation: a sign and at least two digits. -/
def exponentText (exponent : Int) : String :=
  let digits := digitText exponent.natAbs
  (if exponent < 0 then "e-" else "e+") ++ (if exponent.natAbs < 10 then "0" else "") ++ digits

/-- A positive decimal in text. -/
def Scientific.text (s : Scientific) : String :=
  let digits := Nat.toDigits 10 s.digits
  -- The number of digits before the decimal point.
  let point : Int := digits.length + s.exponent
  if point ≤ -4 ∨ 16 < point then
    let tail := digits.drop 1
    String.ofList (digits.take 1) ++ (if tail.isEmpty then "" else "." ++ String.ofList tail)
      ++ exponentText (point - 1)
  else if point ≤ 0 then "0." ++ zeros (-point).toNat ++ String.ofList digits
  else if s.exponent < 0 then
    String.ofList (digits.take point.toNat) ++ "." ++ String.ofList (digits.drop point.toNat)
  else String.ofList digits ++ zeros s.exponent.toNat ++ ".0"

/-- A number of 64 bits in text, given the words for infinity and for an undefined value. -/
def floatText (infinity undefined : String) (x : Float) : String :=
  let bits := x.toBits.toNat
  let sign := if signWeight ≤ bits then "-" else ""
  let magnitude := bits % signWeight
  if magnitude = 0 then sign ++ "0.0"
  else if magnitude = topExponent * exponentWeight then sign ++ infinity
  else if topExponent * exponentWeight < magnitude then undefined
  else sign ++ (shortestOfBits magnitude).text

/-- The number `digits * 10 ^ exponent`, correctly rounded. Exponents far out of range are
settled without computing the power. -/
def toFloat (digits : Nat) (exponent : Int) : Float :=
  let point : Int := (Nat.toDigits 10 digits).length + exponent
  if digits = 0 ∨ point < -400 then 0.0
  else if 400 < point then 1.0 / 0.0
  else Float.ofScientific digits (decide (exponent < 0)) exponent.natAbs

end SignatureForms.Decimal
