import LookML.Number
/-!
# Shortest decimals

A binary64 number is written with the fewest decimal digits that read back as the same number, and
of those with the ones nearest to it. There is no exponent and no point after an integer.
-/

namespace LookML.Magnitude

def ratio (mantissa : Nat) (exponent : Int) : Nat × Nat :=
  if 0 ≤ exponent then (mantissa * Nat.pow 2 exponent.toNat, 1)
  else (mantissa, Nat.pow 2 (-exponent).toNat)

/-- The number of digits before the point of a positive quotient, or minus the number of zeros
after it. -/
def digitsBeforePoint (num den : Nat) : Int :=
  if den ≤ num then ((Nat.toDigits 10 (num / den)).length : Int)
  else
    -(((List.range 400).takeWhile fun j => num * Nat.pow 10 (j + 1) < den).length : Int)

def ofScaled (digits : Nat) (exponent : Int) : Magnitude :=
  if 0 ≤ exponent then ofRatio (digits * Nat.pow 10 exponent.toNat) 1
  else ofRatio digits (Nat.pow 10 (-exponent).toNat)

/-- The decimals with `count` digits next to `num / den` that read back as it, the nearest one
first. -/
def candidates (num den count : Nat) : List (Nat × Int) :=
  let exponent := digitsBeforePoint num den - count
  let (num', den') := if 0 ≤ exponent then (num, den * Nat.pow 10 exponent.toNat)
    else (num * Nat.pow 10 (-exponent).toNat, den)
  let low := num' / den'
  let ordered := if 2 * (num' % den') ≤ den' then [low, low + 1] else [low + 1, low]
  (ordered.filter fun d => ofScaled d exponent = ofRatio num den).map fun d => (d, exponent)

/-- The shortest decimal of a positive quotient, digits and exponent. Seventeen digits always
suffice. -/
def shortest (num den : Nat) : Nat × Int :=
  ((List.range 17).findSome? fun n => (candidates num den (n + 1)).head?).getD (0, 0)

def positional (digits : Nat) (exponent : Int) : String :=
  let ds := Nat.toDigits 10 digits
  if 0 ≤ exponent then String.ofList (ds ++ List.replicate exponent.toNat '0')
  else
    let places := (-exponent).toNat
    let padded := List.replicate (places + 1 - ds.length) '0' ++ ds
    let whole := padded.take (padded.length - places)
    let fraction := (padded.drop (padded.length - places)).reverse.dropWhile (· = '0')
    String.ofList (whole ++ if fraction.isEmpty then [] else '.' :: fraction.reverse)

/-- The shortest text that reads back as the magnitude. -/
def render : Magnitude → String
  | .infinite => "inf"
  | .nan => "NaN"
  | .finite 0 _ => "0"
  | .finite mantissa exponent =>
    let (num, den) := ratio mantissa exponent
    let (digits, scale) := shortest num den
    positional digits scale

def add : Magnitude → Magnitude → Magnitude
  | .finite m e, .finite n f =>
    let (a, b) := ratio m e
    let (c, d) := ratio n f
    ofRatio (a * d + c * b) (b * d)
  | .nan, _ | _, .nan => .nan
  | _, _ => .infinite

end LookML.Magnitude
