import ClusterTopology.Text.Base64
import ClusterTopology.Text.LetterCase
import ClusterTopology.Yaml.Time

/-!
# Contents of scalars

The value that the text of a scalar has under a tag.
-/

namespace ClusterTopology.Yaml.Content

open Number

/-- A part of an integer in some base. -/
def integerIn (base : Nat) (cs : List Char) : Except Error Int :=
  (readIn base cs).mapError fun error => .value (.integer error)

/-- Digits of base sixty, the highest first, as one number. -/
def sexagesimal (digits : List Int) : Int :=
  digits.foldl (fun value digit => value * 60 + digit) 0

/-- An integer without its sign: binary, hexadecimal, octal, in base sixty or
decimal. -/
def magnitude (cs : List Char) : Except Error Int :=
  match cs with
  | ['0'] => .ok 0
  | '0' :: 'b' :: digits => integerIn 2 digits
  | '0' :: 'x' :: digits => integerIn 16 digits
  | '0' :: _ => integerIn 8 cs
  | _ =>
    if cs.contains ':' then
      ((Text.splitAt ':' cs).mapM (integerIn 10)).map sexagesimal
    else integerIn 10 cs

/-- An integer; underscores do not count. -/
def integer (s : String) : Except Error Int :=
  let (negative, unsigned) := takeSign (s.toList.filter (· ≠ '_'))
  if unsigned.isEmpty then .error .emptyNumber
  else (magnitude unsigned).map fun n => if negative then -n else n

/-- An unsigned decimal with a point or an exponent if it likes. -/
def decimal? (cs : List Char) : Option Binary64 :=
  let whole := cs.takeWhile isDigit
  let (fraction, rest) :=
    match cs.dropWhile isDigit with
    | '.' :: rest => (rest.takeWhile isDigit, rest.dropWhile isDigit)
    | rest => ([], rest)
  if whole.isEmpty && fraction.isEmpty then none
  else
    match rest with
    | [] => some ((DecimalParts.mk whole fraction 0).toBinary64 false)
    | mark :: rest =>
      if mark = 'e' || mark = 'E' then
        match takeExponent? rest with
        | some (power, []) => some ((DecimalParts.mk whole fraction power).toBinary64 false)
        | _ => none
      else none

/-- The text of a number in ASCII: decimal digits of any script become those of
ASCII. -/
def asciiDigits (cs : List Char) : List Char :=
  cs.map fun c =>
    match decimalDigit? c with
    | some digit => Char.ofNat (48 + digit)
    | none => c

/-- A number in small letters, with blanks around it and a sign if it likes. -/
def float? (cs : List Char) : Option Binary64 := do
  let trimmed := ((cs.dropWhile isLiteralBlank).reverse.dropWhile isLiteralBlank).reverse
  let (negative, unsigned) := takeSign (asciiDigits trimmed)
  let x ←
    match String.ofList unsigned with
    | "inf" => some (.infinite false)
    | "infinity" => some (.infinite false)
    | "nan" => some .nan
    | _ => decimal? unsigned
  return if negative then x.neg else x

/-- A part of a number with a point. -/
def floatPart (cs : List Char) : Except Error Binary64 :=
  match float? cs with
  | some x => .ok x
  | none => .error (.value (.float (String.ofList cs)))

/-- Parts of base sixty, the lowest first, added up with growing weights. A weight
has to be in the range of the numbers. -/
def sexagesimalFloat (weight : Int) (sum : Binary64) : List Binary64 → Except Error Binary64
  | [] => .ok sum
  | part :: parts =>
    match Binary64.ofInt weight with
    | .infinite _ => .error .hugeWeight
    | w => sexagesimalFloat (weight * 60) (sum.add (part.mul w)) parts

/-- A number with a point, without its sign. -/
def floatMagnitude (cs : List Char) : Except Error Binary64 :=
  if cs.contains ':' then do
    let parts ← (Text.splitAt ':' cs).mapM floatPart
    sexagesimalFloat 1 (.finite false 0 Binary64.minExponent) parts.reverse
  else floatPart cs

/-- The text of a number with a point in small letters, without underscores: its
sign, and the rest. -/
def floatText (s : String) : Bool × List Char :=
  takeSign (Text.lower (s.toList.filter (· ≠ '_')))

/-- A number with a point; underscores and the case of letters do not count. -/
def float (s : String) : Except Error Binary64 :=
  let (negative, unsigned) := floatText s
  if s.toList.all (· = '_') then .error .emptyNumber
  else
    match String.ofList unsigned with
    | ".inf" => .ok (.infinite negative)
    | ".nan" => .ok .nan
    | _ => (floatMagnitude unsigned).map fun x => if negative then x.neg else x

/-- Whether a text is the name of the number that is none, and not one that is read
as such. -/
def isNanName (s : String) : Bool :=
  (floatText s).2 = ".nan".toList

/-- A truth value. -/
def truth (s : String) : Except Error Bool :=
  let word := String.ofList (Text.lower s.toList)
  if ["yes", "true", "on"].contains word then .ok true
  else if ["no", "false", "off"].contains word then .ok false
  else .error (.notTruth word)

/-- Bytes; the text has to be ASCII. -/
def binary (s : String) : Except Error (List UInt8) :=
  let cs := s.toList
  if cs.all fun c => c.toNat < 128 then
    match Text.Base64.decode? cs with
    | some data => .ok data
    | none => .error .malformed
  else .error .malformed

/-- A day or a time; a line end may close its text. -/
def time (s : String) : Except Error Scalar :=
  match Time.parts? (Tag.withoutLineEnd s.toList) with
  | some parts => (Time.value parts).mapError .value
  | none => .error .notTime

/-- The value of a text under the tag of a scalar. -/
def value (tag : Tag) (s : String) : Except Error Scalar :=
  match tag with
  | .null => .ok .null
  | .bool => (truth s).map .bool
  | .int => (integer s).map .int
  | .float => (float s).map .float
  | .binary => (binary s).map .bytes
  | .time => time s
  | .text => .ok (.text s)
  | _ => .error .malformed

end ClusterTopology.Yaml.Content
