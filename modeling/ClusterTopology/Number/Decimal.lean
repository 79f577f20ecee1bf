import ClusterTopology.Number.Binary64
import ClusterTopology.Number.Literal

/-!
# Decimal text of numbers

The shortest decimal that reads back as a number of double precision, and the
two ways it is written: positionally, with at least one digit after the point,
or with an exponent. Reading goes the other way, from the digits of a decimal
to the nearest number.
-/

namespace ClusterTopology.Number

/-- The decimal digits of a natural number, the highest first. -/
def decimalDigits (n : Nat) : List Char :=
  Nat.toDigits 10 n

/-- The value of ASCII digits. -/
def digitsValue (cs : List Char) : Nat :=
  cs.foldl (fun value c => value * 10 + (c.toNat - 48)) 0

/-- Whether a character is an ASCII digit. -/
def isDigit (c : Char) : Bool :=
  '0' ≤ c && c ≤ '9'

namespace Binary64

/-- A positive number is `mantissa * 2 ^ exponent`. Its neighbours of half a
unit away bound the decimals that read back as it: the result is the lower
bound, the value and the upper bound, in common units of which `unit` make one. -/
structure Interval where
  lower : Nat
  value : Nat
  upper : Nat
  unit : Nat

/-- The interval of the reals that round to `mantissa * 2 ^ exponent`. The
lower half is half as wide below a power of two. -/
def roundingInterval (mantissa : Nat) (exponent : Int) : Interval :=
  let narrow := mantissa = Nat.pow 2 (precision - 1) && minExponent < exponent
  let below := if narrow then 4 * mantissa - 1 else 4 * mantissa - 2
  if 0 ≤ exponent then
    let scale := Nat.pow 2 exponent.toNat
    ⟨below * scale, 4 * mantissa * scale, (4 * mantissa + 2) * scale, 4⟩
  else
    ⟨below, 4 * mantissa, 4 * mantissa + 2, 4 * Nat.pow 2 (-exponent).toNat⟩

/-- Whether the decimal `digits * 10 ^ power` reads back as the number of the
interval; the bounds do when the mantissa is even. -/
def Interval.holds (i : Interval) (even : Bool) (digits : Nat) (power : Int) : Bool :=
  let (decimal, scale) :=
    if 0 ≤ power then (digits * Nat.pow 10 power.toNat * i.unit, 1)
    else (digits * i.unit, Nat.pow 10 (-power).toNat)
  let lower := i.lower * scale
  let upper := i.upper * scale
  if even then lower ≤ decimal && decimal ≤ upper else lower < decimal && decimal < upper

/-- The two decimals of the grid `10 ^ power` around the value of an interval
that read back as it, the nearer one first. -/
def Interval.onGrid? (i : Interval) (even : Bool) (power : Int) : Option Nat :=
  let (value, grid) :=
    if 0 ≤ power then (i.value, i.unit * Nat.pow 10 power.toNat)
    else (i.value * Nat.pow 10 (-power).toNat, i.unit)
  let low := value / grid
  let remainder := value % grid
  let lowHolds := i.holds even low power
  let highHolds := i.holds even (low + 1) power
  if lowHolds && highHolds then
    if 2 * remainder < grid || (2 * remainder = grid && low % 2 = 0) then some low
    else some (low + 1)
  else if lowHolds then some low
  else if highHolds then some (low + 1)
  else none

/-- The power of ten of the highest digit of `num / den`. -/
def leadingPower (num den : Nat) : Int :=
  let guess : Int := ((num.log2 : Int) - (den.log2 : Int)) * 30103 / 100000 - 1
  let atLeast (power : Int) : Bool :=
    if 0 ≤ power then den * Nat.pow 10 power.toNat ≤ num
    else den ≤ num * Nat.pow 10 (-power).toNat
  if atLeast (guess + 2) then guess + 2
  else if atLeast (guess + 1) then guess + 1
  else guess

/-- Tries grids of one digit, two digits and so on; the first that holds a
decimal which reads back wins. -/
def shortestFrom (i : Interval) (even : Bool) (leading : Int) : Nat → Nat → Nat × Int
  | 0, _ => (i.value / i.unit, 0)
  | tries + 1, digits =>
    let power := leading - digits
    match i.onGrid? even power with
    | some n => (n, power)
    | none => shortestFrom i even leading tries (digits + 1)

/-- The shortest decimal `digits * 10 ^ power` that reads back as the positive
number `mantissa * 2 ^ exponent`, the nearest one if there are several. -/
def shortest (mantissa : Nat) (exponent : Int) : Nat × Int :=
  let i := roundingInterval mantissa exponent
  shortestFrom i (mantissa % 2 = 0) (leadingPower i.value i.unit) 18 0

/-- The digits of a number without the zeros it ends with, and how many those
were. -/
def stripZeros (digits : List Char) : List Char × Nat :=
  let kept := (digits.reverse.dropWhile (· = '0')).reverse
  (kept, digits.length - kept.length)

/-- Digits with a point after the first `whole` of them, filled up with zeros
so that a digit stands on both sides. -/
def positional (digits : List Char) (whole : Int) : List Char :=
  if whole ≤ 0 then '0' :: '.' :: List.replicate (-whole).toNat '0' ++ digits
  else
    let n := whole.toNat
    let left := digits.take n ++ List.replicate (n - digits.length) '0'
    let right := digits.drop n
    left ++ '.' :: (if right.isEmpty then ['0'] else right)

/-- Digits in scientific form: a point after the first digit unless it is the
only one, then the exponent with a sign and at least two digits. -/
def scientific (digits : List Char) (exponent : Int) : List Char :=
  let body :=
    match digits with
    | first :: second :: rest => first :: '.' :: second :: rest
    | digits => digits
  let size := decimalDigits exponent.natAbs
  let padded := if size.length < 2 then '0' :: size else size
  body ++ 'e' :: (if exponent < 0 then '-' else '+') :: padded

/-- The text of a number: the shortest decimal, positional for exponents from
minus four to fifteen. -/
def toChars : Binary64 → List Char
  | .nan => ['n', 'a', 'n']
  | .infinite negative => if negative then ['-', 'i', 'n', 'f'] else ['i', 'n', 'f']
  | .finite negative mantissa exponent =>
    let sign := if negative then ['-'] else []
    if mantissa = 0 then sign ++ ['0', '.', '0']
    else
      let (number, power) := shortest mantissa exponent
      let (digits, zeros) := stripZeros (decimalDigits number)
      let whole : Int := (digits.length : Int) + zeros + power
      sign ++ (if -4 < whole && whole ≤ 16 then positional digits whole
               else scientific digits (whole - 1))

/-- The text of a number as a string. -/
def toText (x : Binary64) : String :=
  String.ofList x.toChars

end Binary64

/-- The parts of an unsigned decimal as it is read: the digits before and after
the point, and the exponent. -/
structure DecimalParts where
  whole : List Char
  fraction : List Char
  exponent : Int

/-- The number nearest to a decimal. -/
def DecimalParts.toBinary64 (negative : Bool) (p : DecimalParts) : Binary64 :=
  .ofDecimal negative (digitsValue (p.whole ++ p.fraction)) (p.exponent - p.fraction.length)

/-- An exponent after its mark: an optional sign and at least one digit. The
result is its value and what follows. -/
def takeExponent? (cs : List Char) : Option (Int × List Char) :=
  let (negative, unsigned) := takeSign cs
  let digits := unsigned.takeWhile isDigit
  if digits.isEmpty then none
  else
    let n : Int := digitsValue digits
    some (if negative then -n else n, unsigned.dropWhile isDigit)

end ClusterTopology.Number
