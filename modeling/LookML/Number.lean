/-!
# Numbers

The binary64 numbers, the two infinities and what is no number. A decimal is rounded to the nearest
of them, a tie going to the even mantissa, by exact integer arithmetic. A word is read as a number
if it begins like one, so that an infinity that is spelled out is a text.
-/

namespace LookML

/-- A size: `mantissa · 2 ^ exponent`, or larger than every binary64 number, or none at all. -/
inductive Magnitude where
  | finite (mantissa : Nat) (exponent : Int)
  | infinite
  | nan
deriving DecidableEq

/-- A signed size; zero has both signs. -/
structure Number where
  negative : Bool
  magnitude : Magnitude
deriving DecidableEq

/-- The integer nearest to `num / den`; a tie goes to the even one. -/
def roundHalfEven (num den : Nat) : Nat :=
  let quotient := num / den
  let rest := num % den
  if 2 * rest < den then quotient
  else if den < 2 * rest then quotient + 1
  else quotient + quotient % 2

namespace Magnitude

/-- The exponent of the smallest positive binary64 number. -/
def leastExponent : Int := -1074

def greatestExponent : Int := 971

def mantissaAt (num den : Nat) (exponent : Int) : Nat :=
  if 0 ≤ exponent then roundHalfEven num (den * Nat.pow 2 exponent.toNat)
  else roundHalfEven (num * Nat.pow 2 (-exponent).toNat) den

def ofRatio (num den : Nat) : Magnitude :=
  if num = 0 then .finite 0 leastExponent
  else
    let guess : Int := (num.log2 : Int) - (den.log2 : Int) - 52
    let fits := if 0 ≤ guess then den * Nat.pow 2 (52 + guess.toNat) ≤ num
      else den * Nat.pow 2 52 ≤ num * Nat.pow 2 (-guess).toNat
    let exponent := max leastExponent (if fits then guess else guess - 1)
    let mantissa := mantissaAt num den exponent
    let (mantissa, exponent) :=
      if mantissa = Nat.pow 2 53 then (Nat.pow 2 52, exponent + 1) else (mantissa, exponent)
    if greatestExponent < exponent then .infinite else .finite mantissa exponent

/-- The magnitude nearest to `significand · 10 ^ scale`, where `digits` is the number of decimal
digits of the significand. Far outside the range of binary64 nothing needs to be computed. -/
def ofDecimal (significand digits : Nat) (scale : Int) : Magnitude :=
  if significand = 0 then .finite 0 leastExponent
  else if 310 < digits + scale then .infinite
  else if digits + scale < -400 then .finite 0 leastExponent
  else if 0 ≤ scale then ofRatio (significand * Nat.pow 10 scale.toNat) 1
  else ofRatio significand (Nat.pow 10 (-scale).toNat)

/-- The binary64 encoding, the sign bit aside. -/
def bits : Magnitude → Nat
  | .finite mantissa exponent =>
    if mantissa < Nat.pow 2 52 then mantissa
    else (exponent - leastExponent + 1).toNat * Nat.pow 2 52 + (mantissa - Nat.pow 2 52)
  | .infinite => 0x7ff * Nat.pow 2 52
  | .nan => 0x7ff * Nat.pow 2 52 + Nat.pow 2 51

end Magnitude

namespace Number

def bits (n : Number) : Nat :=
  (if n.negative then Nat.pow 2 63 else 0) + n.magnitude.bits

def digitsValue (ds : List Char) : Nat :=
  ds.foldl (fun n d => 10 * n + (d.toNat - '0'.toNat)) 0

def splitSign : List Char → Bool × List Char
  | '-' :: cs => (true, cs)
  | '+' :: cs => (false, cs)
  | cs => (false, cs)

/-- The exponent part of a literal: nothing, or a mark, an optional sign and digits. -/
def readExponent? : List Char → Option Int
  | [] => some 0
  | mark :: cs =>
    let (negative, ds) := splitSign cs
    if (mark = 'e' || mark = 'E') && !ds.isEmpty && ds.all Char.isDigit then
      some (if negative then -(digitsValue ds : Int) else digitsValue ds)
    else none

def splitFraction : List Char → List Char × List Char
  | '.' :: cs => (cs.takeWhile Char.isDigit, cs.dropWhile Char.isDigit)
  | cs => ([], cs)

/-- The size that digits with at most one point among, before or after them spell, with an optional
exponent. -/
def readDecimal? (unsigned : List Char) : Option Magnitude :=
  let whole := unsigned.takeWhile Char.isDigit
  let (fraction, rest) := splitFraction (unsigned.dropWhile Char.isDigit)
  let digits := (whole ++ fraction).dropWhile (· = '0')
  if (whole ++ fraction).isEmpty then none
  else (readExponent? rest).map fun exponent =>
    .ofDecimal (digitsValue digits) digits.length (exponent - fraction.length)

/-- The size that is spelled out, in upper or lower case. -/
def readSpecial? (unsigned : List Char) : Option Magnitude :=
  let word := unsigned.map Char.toLower
  if word = "inf".toList || word = "infinity".toList then some .infinite
  else if word = "nan".toList then some .nan
  else none

def ofFloat? (word : List Char) : Option Number :=
  let (negative, unsigned) := splitSign word
  ((readSpecial? unsigned).or (readDecimal? unsigned)).map fun magnitude => ⟨negative, magnitude⟩

/-- Whether a text begins with a digit, or with a point and a digit. -/
def startsNumeric (cs : List Char) : Bool :=
  cs.head?.any Char.isDigit || (cs.head? = some '.' && cs.tail.head?.any Char.isDigit)

/-- Whether a word begins like a number, with or without a sign. Not all floating point numbers
do. -/
def looksNumeric (word : List Char) : Bool :=
  startsNumeric (splitSign word).2

def ofWord? (word : List Char) : Option Number :=
  if looksNumeric word then ofFloat? word else none

end Number

end LookML
