import ClusterTopology.Json.Error
import ClusterTopology.Value

/-!
# Reading JSON

A reader for JSON texts that also accepts the three names of non-finite
numbers. Each part returns what it read together with the rest of the text; a
fault carries the rest from the place it is reported at, so that the place
follows from its length.

A text here is made of characters, and half of a surrogate pair is none. The
escape of such a half is read all the same, but as the replacement character; so
escapes of different halves are not told apart, and names that differ only in them
are one name.
-/

namespace ClusterTopology.Json

open Number

/-- Why reading stopped, and what was left of the text there. -/
inductive Stop where
  | fault (fault : Fault) (rest : List Char)
  | longInteger (digits : Nat)
  | tooDeep (isList : Bool)

/-- What was read and what is left. -/
abbrev Read (α : Type) := Except Stop (α × List Char)

/-- A character that may stand between tokens. -/
def isSpace (c : Char) : Bool :=
  c = ' ' || c = '\t' || c = '\r' || c = '\n'

/-- The text from its next token on. -/
def skipSpace (cs : List Char) : List Char :=
  cs.dropWhile isSpace

/-- The value of four hexadecimal digits, and what follows them. -/
def fourHex? : List Char → Option (Nat × List Char)
  | a :: b :: c :: d :: rest => do
    let a ← digitIn? 16 a
    let b ← digitIn? 16 b
    let c ← digitIn? 16 c
    let d ← digitIn? 16 d
    return (((a * 16 + b) * 16 + c) * 16 + d, rest)
  | _ => none

/-- Whether all hexadecimal digits of an escape are ASCII. -/
def asciiHex (cs : List Char) : Bool :=
  (cs.take 4).all fun c => c.toNat < 128

/-- The second half of a surrogate pair, if the text continues with one and a
character after it. -/
def lowSurrogate (here : List Char) : List Char → Except Stop (Option (Nat × List Char))
  | '\\' :: 'u' :: rest =>
    if rest.length < 5 then .ok none
    else
      match (if asciiHex rest then fourHex? rest else none) with
      | none => .error (.fault .badCodePoint here)
      | some (low, rest) =>
        .ok (if 0xdc00 ≤ low && low < 0xe000 then some (low, rest) else none)
  | _ => .ok none

/-- A code point written with four hexadecimal digits, joined with the low half
that follows a high surrogate. The text starts after the letter `u`. A half without
the other one is no character of a text, and the replacement character stands for
it. -/
def codePoint (escape cs : List Char) : Read Char :=
  if cs.length < 5 then .error (.fault .badCodePoint escape)
  else
    match (if asciiHex cs then fourHex? cs else none) with
    | none => .error (.fault .badCodePoint escape)
    | some (unit, rest) =>
      if 0xd800 ≤ unit && unit < 0xdc00 then
        match lowSurrogate (rest.drop 1) rest with
        | .error stop => .error stop
        | .ok none => .ok (Char.ofNat 0xfffd, rest)
        | .ok (some (low, rest)) =>
          .ok (Char.ofNat (0x10000 + (unit - 0xd800) * 0x400 + (low - 0xdc00)), rest)
      else if 0xdc00 ≤ unit && unit < 0xe000 then .ok (Char.ofNat 0xfffd, rest)
      else .ok (Char.ofNat unit, rest)

/-- The character that a single letter stands for after a backslash. -/
def shortEscape? : Char → Option Char
  | '"' => some '"'
  | '\\' => some '\\'
  | '/' => some '/'
  | 'b' => some '\x08'
  | 'f' => some '\x0c'
  | 'n' => some '\n'
  | 'r' => some '\r'
  | 't' => some '\t'
  | _ => none

/-- A character written with a backslash, which is the first of `cs`. -/
def escaped (opening cs : List Char) : Read Char :=
  match cs.drop 1 with
  | [] => .error (.fault .unterminatedString opening)
  | 'u' :: rest => codePoint (cs.drop 1) rest
  | c :: rest =>
    match shortEscape? c with
    | some d => .ok (d, rest)
    | none => .error (.fault .unknownEscape cs)

/-- The characters of a string up to its closing quote, the last one first in
`done`. The fuel is the length of the text. -/
def stringBody (opening : List Char) : Nat → List Char → List Char → Read String
  | 0, _, _ => .error (.fault .unterminatedString opening)
  | _ + 1, [], _ => .error (.fault .unterminatedString opening)
  | fuel + 1, c :: cs, done =>
    if c = '"' then .ok (String.ofList done.reverse, cs)
    else if c = '\\' then
      match escaped opening (c :: cs) with
      | .error stop => .error stop
      | .ok (d, rest) => stringBody opening fuel rest (d :: done)
    else if c.toNat ≤ 0x1f then .error (.fault .controlCharacter (c :: cs))
    else stringBody opening fuel cs (c :: done)

/-- A string from its opening quote on, which is the first of `cs`. -/
def string (cs : List Char) : Read String :=
  stringBody cs (cs.length + 1) (cs.drop 1) []

/-- The digits after a point; the point belongs to the number only if a digit
follows it. -/
def fraction : List Char → Option (List Char) × List Char
  | '.' :: d :: rest =>
    if isDigit d then (some ((d :: rest).takeWhile isDigit), rest.dropWhile isDigit)
    else (none, '.' :: d :: rest)
  | cs => (none, cs)

/-- The exponent of a number; its mark belongs to the number only if a digit
follows. -/
def exponent (cs : List Char) : Option Int × List Char :=
  match cs with
  | mark :: rest =>
    if mark = 'e' || mark = 'E' then
      match takeExponent? rest with
      | some (n, rest) => (some n, rest)
      | none => (none, cs)
    else (none, cs)
  | [] => (none, [])

/-- The digits before a point: a zero alone or digits that start with another. -/
def wholePart? : List Char → Option (List Char × List Char)
  | '0' :: rest => some (['0'], rest)
  | c :: rest =>
    if isDigit c then some (c :: rest.takeWhile isDigit, rest.dropWhile isDigit) else none
  | [] => none

/-- A number. With a fraction or an exponent it is one of double precision. -/
def number (cs : List Char) : Read Value :=
  let (negative, unsigned) :=
    match cs with
    | '-' :: rest => (true, rest)
    | _ => (false, cs)
  match wholePart? unsigned with
  | none => .error (.fault .expectingValue cs)
  | some (whole, rest) =>
    let (decimals, rest) := fraction rest
    let (power, rest) := exponent rest
    if decimals.isNone && power.isNone then
      if maxDigits < whole.length then .error (.longInteger whole.length)
      else
        let n : Int := digitsValue whole
        .ok (.int (if negative then -n else n), rest)
    else
      .ok (.float ((DecimalParts.mk whole (decimals.getD []) (power.getD 0)).toBinary64 negative),
        rest)

/-- The text after a word, if it starts with it. -/
def afterWord? (word cs : List Char) : Option (List Char) :=
  if word.isPrefixOf cs then some (cs.drop word.length) else none

/-- The names that stand for values, with what follows the one the text starts
with. -/
def named? (cs : List Char) : Option (Value × List Char) :=
  let names : List (String × Value) :=
    [("null", .null), ("true", .bool true), ("false", .bool false), ("NaN", .float .nan),
      ("Infinity", .float (.infinite false)), ("-Infinity", .float (.infinite true))]
  names.findSome? fun entry => (afterWord? entry.1.toList cs).map (entry.2, ·)

/-- The greatest number of lists and mappings within each other. It is the same for every text,
however many calls have been made until it is read (see `Value.maxDepth`). -/
def maxDepth : Nat := Value.maxDepth

mutual

/-- Any value, which starts at the first of `cs`. `room` is the number of lists and
mappings that there may be from here on inwards. The fuel is twice the length of
the text and more. -/
def value : Nat → Nat → List Char → Read Value
  | 0, _, cs => .error (.fault .expectingValue cs)
  | fuel + 1, room, cs =>
    match cs with
    | '"' :: _ => (string cs).map fun (s, rest) => (.text s, rest)
    | '[' :: rest =>
      if room = 0 then .error (.tooDeep true)
      else
        match skipSpace rest with
        | ']' :: rest => .ok (.list [], rest)
        | rest => elements fuel (room - 1) rest []
    | '\x7b' :: rest =>
      if room = 0 then .error (.tooDeep false)
      else
        match skipSpace rest with
        | '\x7d' :: rest => .ok (.map [], rest)
        | rest => members fuel (room - 1) rest []
    | _ =>
      match named? cs with
      | some named => .ok named
      | none => number cs

/-- The values of a list from one on, the last one first in `done`. -/
def elements : Nat → Nat → List Char → List Value → Read Value
  | 0, _, cs, _ => .error (.fault .expectingValue cs)
  | fuel + 1, room, cs, done =>
    match value fuel room cs with
    | .error stop => .error stop
    | .ok (item, rest) =>
      match skipSpace rest with
      | ']' :: rest => .ok (.list (item :: done).reverse, rest)
      | ',' :: rest => elements fuel room (skipSpace rest) (item :: done)
      | rest => .error (.fault .expectingComma rest)

/-- The entries of a mapping from one name on. A name that comes again takes the
last value. -/
def members : Nat → Nat → List Char → List (Scalar × Value) → Read Value
  | 0, _, cs, _ => .error (.fault .expectingName cs)
  | fuel + 1, room, cs, done =>
    match cs with
    | '"' :: _ =>
      match string cs with
      | .error stop => .error stop
      | .ok (name, rest) =>
        match skipSpace rest with
        | ':' :: rest =>
          match value fuel room (skipSpace rest) with
          | .error stop => .error stop
          | .ok (item, rest) =>
            let done := Entries.insert done (.text name) item
            match skipSpace rest with
            | '\x7d' :: rest => .ok (.map done, rest)
            | ',' :: rest => members fuel room (skipSpace rest) done
            | rest => .error (.fault .expectingComma rest)
        | rest => .error (.fault .expectingColon rest)
    | _ => .error (.fault .expectingName cs)

end

/-- A whole text: one value with nothing but space around it. -/
def document (cs : List Char) : Except Stop Value :=
  match cs with
  | '\ufeff' :: _ => .error (.fault .byteOrderMark cs)
  | _ =>
    match value (2 * cs.length + 2) maxDepth (skipSpace cs) with
    | .error stop => .error stop
    | .ok (v, rest) =>
      match skipSpace rest with
      | [] => .ok v
      | rest => .error (.fault .extraData rest)

/-- The error for a stop within a text. -/
def Stop.toError (cs : List Char) : Stop → Error
  | .fault found rest => .malformed found (.after (cs.take (cs.length - rest.length)))
  | .longInteger digits => .longInteger digits
  | .tooDeep isList => .tooDeep isList

/-- Reads a text as JSON. -/
def read (s : String) : Except Error Value :=
  (document s.toList).mapError (Stop.toError s.toList)

end ClusterTopology.Json
