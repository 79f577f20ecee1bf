import ClusterTopology.Text.Blank
import ClusterTopology.Text.Quoted

/-!
# Integer literals

Reading an integer from a text: blanks around it, one sign, decimal digits of
any script, and single underscores between digits. Literals of more than 4300
digits are refused by their length, before anything after the digits is looked
at, so that reading stays cheap.
-/

namespace ClusterTopology.Number

/-- The code points of the zeros of all decimal digit runs of Unicode 14; the
other nine digits of a run follow its zero. -/
def digitZeros : List Nat := [
  0x30, 0x660, 0x6f0, 0x7c0, 0x966, 0x9e6, 0xa66, 0xae6, 0xb66, 0xbe6, 0xc66, 0xce6, 0xd66, 0xde6,
  0xe50, 0xed0, 0xf20, 0x1040, 0x1090, 0x17e0, 0x1810, 0x1946, 0x19d0, 0x1a80, 0x1a90, 0x1b50,
  0x1bb0, 0x1c40, 0x1c50, 0xa620, 0xa8d0, 0xa900, 0xa9d0, 0xa9f0, 0xaa50, 0xabf0, 0xff10, 0x104a0,
  0x10d30, 0x11066, 0x110f0, 0x11136, 0x111d0, 0x112f0, 0x11450, 0x114d0, 0x11650, 0x116c0,
  0x11730, 0x118e0, 0x11950, 0x11c50, 0x11d50, 0x11da0, 0x16a60, 0x16ac0, 0x16b50, 0x1d7ce,
  0x1d7d8, 0x1d7e2, 0x1d7ec, 0x1d7f6, 0x1e140, 0x1e2f0, 0x1e950, 0x1fbf0]

/-- The value of a decimal digit of any script. -/
def decimalDigit? (c : Char) : Option Nat :=
  if c.toNat < 128 then
    if '0' ≤ c && c ≤ '9' then some (c.toNat - 48) else none
  else
    (digitZeros.find? fun first => first ≤ c.toNat && c.toNat < first + 10).map (c.toNat - ·)

/-- The value of a digit in a base of up to sixteen, where letters of either
case follow nine. -/
def digitIn? (base : Nat) (c : Char) : Option Nat :=
  let value :=
    if 'a' ≤ c && c ≤ 'z' then some (c.toNat - 87)
    else if 'A' ≤ c && c ≤ 'Z' then some (c.toNat - 55)
    else decimalDigit? c
  value.filter (· < base)

/-- A blank that may stand around a literal: the blanks of a text without the
four ASCII separators. -/
def isLiteralBlank (c : Char) : Bool :=
  Text.isBlank c && !(0x1c ≤ c.toNat && c.toNat ≤ 0x1f)

/-- Why a text is no integer literal. -/
inductive LiteralError where
  /-- The text does not have the shape of a literal of this base. -/
  | malformed (base : Nat) (text : String)
  /-- The literal has more digits than are accepted. -/
  | tooLong (digits : Nat)
  deriving DecidableEq, Repr

/-- The greatest number of digits that a decimal literal may have. -/
def maxDigits : Nat := 4300

/-- The text that reports an integer with too many digits to be written. -/
def unwritableMessage : String :=
  "Exceeds the limit (" ++ toString maxDigits ++
    " digits) for integer string conversion; use sys.set_int_max_str_digits() to increase " ++
    "the limit"

/-- The text that reports a refused literal; the quoted text is cut after two
hundred characters. -/
def LiteralError.message : LiteralError → String
  | .malformed base text =>
    "invalid literal for int() with base " ++ toString base ++ ": " ++
      String.ofList ((Text.quotedChars text.toList).take 200)
  | .tooLong digits =>
    "Exceeds the limit (" ++ toString maxDigits ++
      " digits) for integer string conversion: value has " ++ toString digits ++
      " digits; use sys.set_int_max_str_digits() to increase the limit"

/-- Digits with single underscores between them: the value so far, the number
of digits so far, and what follows. `none` when an underscore ends the run or
doubles. -/
def digitRun (base value count : Nat) : List Char → Option (Nat × Nat × List Char)
  | [] => some (value, count, [])
  | c :: cs =>
    match digitIn? base c with
    | some d => digitRun base (value * base + d) (count + 1) cs
    | none =>
      if c = '_' then
        match cs with
        | [] => none
        | d :: rest =>
          match digitIn? base d with
          | some v => digitRun base (value * base + v) (count + 1) rest
          | none => none
      else some (value, count, c :: cs)

/-- The sign that leads a text, as "is negative", and the rest. -/
def takeSign : List Char → Bool × List Char
  | '-' :: cs => (true, cs)
  | '+' :: cs => (false, cs)
  | cs => (false, cs)

/-- The mark that may announce a base, such as `0x`, with the underscore that
may follow it. -/
def dropBaseMark (base : Nat) (cs : List Char) : List Char :=
  let marked (lower upper : Char) : List Char :=
    match cs with
    | '0' :: mark :: rest =>
      if mark = lower || mark = upper then
        match rest with
        | '_' :: digits => digits
        | digits => digits
      else cs
    | _ => cs
  if base = 16 then marked 'x' 'X'
  else if base = 8 then marked 'o' 'O'
  else if base = 2 then marked 'b' 'B'
  else cs

/-- Reads a literal of the given base. Only bases that are no power of two
limit the number of digits. -/
def readIn (base : Nat) (cs : List Char) : Except LiteralError Int :=
  let malformed : LiteralError := .malformed base (String.ofList cs)
  let (negative, unsigned) := takeSign (cs.dropWhile isLiteralBlank)
  let digits := dropBaseMark base unsigned
  match digits with
  | [] => .error malformed
  | first :: _ =>
    if (digitIn? base first).isNone then .error malformed
    else
      match digitRun base 0 0 digits with
      | none => .error malformed
      | some (value, count, rest) =>
        if base = 10 && maxDigits < count then .error (.tooLong count)
        else if rest.all isLiteralBlank then
          .ok (if negative then -(value : Int) else value)
        else .error malformed

/-- Reads a decimal literal. -/
def read (cs : List Char) : Except LiteralError Int :=
  readIn 10 cs

end ClusterTopology.Number
