/-!
# Double precision numbers

Binary floating point numbers of double precision as exact data: a finite one
is a signed mantissa times a power of two. Rounding a quotient to the nearest
such number, comparison with integers and the test for integral values all
work on integers, so nothing here depends on the arithmetic of a machine.
-/

namespace ClusterTopology.Number

/-- A number of double precision. `finite negative mantissa exponent` stands
for `mantissa * 2 ^ exponent` with the given sign, which zero has as well. -/
inductive Binary64 where
  | nan
  | infinite (negative : Bool)
  | finite (negative : Bool) (mantissa : Nat) (exponent : Int)
  deriving DecidableEq, Repr, Inhabited

namespace Binary64

/-- The least exponent, which the numbers closest to zero share. -/
def minExponent : Int := -1074

/-- The greatest exponent of a finite number. -/
def maxExponent : Int := 971

/-- The number of bits of a mantissa. -/
def precision : Nat := 53

/-- The quotient rounded to the nearest integer, a half going to the even one. -/
def roundDiv (num den : Nat) : Nat :=
  let quotient := num / den
  let twice := 2 * (num % den)
  if den < twice || (twice = den && quotient % 2 = 1) then quotient + 1 else quotient

/-- The quotient `num / den` measured in units of `2 ^ exponent`. -/
def scaled (num den : Nat) (exponent : Int) : Nat × Nat :=
  if 0 ≤ exponent then (num, den * Nat.pow 2 exponent.toNat)
  else (num * Nat.pow 2 (-exponent).toNat, den)

/-- The exponent that gives the quotient a mantissa of full precision, or the
least exponent when the quotient is too small for that. -/
def exponentFor (num den : Nat) : Int :=
  let guess : Int := (num.log2 : Int) - (den.log2 : Int) - (precision - 1 : Nat)
  let (n, d) := scaled num den guess
  let exact := if n / d < Nat.pow 2 (precision - 1) then guess - 1 else guess
  max exact minExponent

/-- The number of double precision nearest to a quotient, ties going to the
even mantissa. -/
def ofRatio (negative : Bool) (num den : Nat) : Binary64 :=
  if num = 0 then .finite negative 0 minExponent
  else
    let exponent := exponentFor num den
    let (n, d) := scaled num den exponent
    let mantissa := roundDiv n d
    let (mantissa, exponent) :=
      if mantissa = Nat.pow 2 precision then (Nat.pow 2 (precision - 1), exponent + 1)
      else (mantissa, exponent)
    if maxExponent < exponent then .infinite negative else .finite negative mantissa exponent

/-- The number nearest to `digits * 10 ^ power`. Powers far outside the range
of the format are settled by the number of digits alone. -/
def ofDecimal (negative : Bool) (digits : Nat) (power : Int) : Binary64 :=
  if digits = 0 then .finite negative 0 minExponent
  else
    let magnitude : Int := (digits.log2 : Int) * 30103 / 100000 + power
    if 400 < magnitude then .infinite negative
    else if magnitude < -400 then .finite negative 0 minExponent
    else if 0 ≤ power then ofRatio negative (digits * Nat.pow 10 power.toNat) 1
    else ofRatio negative digits (Nat.pow 10 (-power).toNat)

/-- The number nearest to an integer. -/
def ofInt (n : Int) : Binary64 :=
  ofRatio (n < 0) n.natAbs 1

/-- Whether the number has the sign of the negative numbers. -/
def isNegative : Binary64 → Bool
  | .nan => false
  | .infinite negative => negative
  | .finite negative _ _ => negative

/-- The same magnitude with the other sign. -/
def neg : Binary64 → Binary64
  | .nan => .nan
  | .infinite negative => .infinite (!negative)
  | .finite negative mantissa exponent => .finite (!negative) mantissa exponent

/-- How a finite number compares with an integer, by cross multiplication. -/
def compareFinite (negative : Bool) (mantissa : Nat) (exponent : Int) (n : Int) : Ordering :=
  let signed : Int := if negative then -mantissa else mantissa
  if 0 ≤ exponent then compare (signed * Int.ofNat (Nat.pow 2 exponent.toNat)) n
  else compare signed (n * Int.ofNat (Nat.pow 2 (-exponent).toNat))

/-- How a number compares with an integer; the unordered number with none. -/
def compareInt (x : Binary64) (n : Int) : Option Ordering :=
  match x with
  | .nan => none
  | .infinite negative => some (if negative then .lt else .gt)
  | .finite negative mantissa exponent => some (compareFinite negative mantissa exponent n)

/-- Whether a number has an integer as its value. -/
def isIntegral : Binary64 → Bool
  | .nan => false
  | .infinite _ => false
  | .finite _ mantissa exponent => 0 ≤ exponent || mantissa % Nat.pow 2 (-exponent).toNat = 0

/-- Whether a number is zero, of either sign. -/
def isZero : Binary64 → Bool
  | .finite _ mantissa _ => mantissa = 0
  | _ => false

/-- Whether two numbers have one value; the two zeros do, the unordered number
has none. -/
def sameValue : Binary64 → Binary64 → Bool
  | .infinite a, .infinite b => a = b
  | .finite a m e, .finite b n f =>
    let low := min e f
    (m = 0 && n = 0) ||
      (a = b && m * Nat.pow 2 (e - low).toNat = n * Nat.pow 2 (f - low).toNat)
  | _, _ => false

/-- The sum of two numbers, rounded once. -/
def add : Binary64 → Binary64 → Binary64
  | .nan, _ => .nan
  | _, .nan => .nan
  | .infinite a, .infinite b => if a = b then .infinite a else .nan
  | .infinite a, _ => .infinite a
  | _, .infinite b => .infinite b
  | .finite a m e, .finite b n f =>
    let low := min e f
    let left : Int := Int.ofNat (m * Nat.pow 2 (e - low).toNat)
    let right : Int := Int.ofNat (n * Nat.pow 2 (f - low).toNat)
    let sum := (if a then -left else left) + (if b then -right else right)
    let negative := if sum = 0 then a && b else decide (sum < 0)
    if 0 ≤ low then ofRatio negative (sum.natAbs * Nat.pow 2 low.toNat) 1
    else ofRatio negative sum.natAbs (Nat.pow 2 (-low).toNat)

/-- The product of two numbers, rounded once. -/
def mul : Binary64 → Binary64 → Binary64
  | .nan, _ => .nan
  | _, .nan => .nan
  | .infinite a, y => if y.isZero then .nan else .infinite (a != y.isNegative)
  | x, .infinite b => if x.isZero then .nan else .infinite (x.isNegative != b)
  | .finite a m e, .finite b n f =>
    let exponent := e + f
    if 0 ≤ exponent then ofRatio (a != b) (m * n * Nat.pow 2 exponent.toNat) 1
    else ofRatio (a != b) (m * n) (Nat.pow 2 (-exponent).toNat)

end Binary64

end ClusterTopology.Number
