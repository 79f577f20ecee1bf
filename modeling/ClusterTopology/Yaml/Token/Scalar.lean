import ClusterTopology.Number.Literal
import ClusterTopology.Yaml.Token

/-!
# Scalars of YAML

How the text of a scalar is written: plain, between quotes, or as a block of
lines. A line end inside a plain or quoted scalar is folded: alone it is a
space, and blank lines after it are kept.
-/

namespace ClusterTopology.Yaml.Token

open Number

/-- A folded line end: a space if no blank line follows it. Line ends other than
a line feed are kept. -/
def folded (ending breaks : List Char) : List Char :=
  if ending ≠ ['\n'] then ending ++ breaks
  else if breaks.isEmpty then [' ']
  else breaks

/-- The blank lines inside a quoted scalar, and the place of the text after them.
A mark of a document may not stand there. The fuel is the length of the text. -/
def quotedBreaks : Nat → Cursor → Scan (List Char)
  | 0, _ => .error .malformed
  | fuel + 1, cur =>
    if cur.atDocumentMark then .error .malformed
    else
      let cur := cur.skipWhile fun c => c = ' ' || c = '\t'
      if isBreak cur.peek then
        match quotedBreaks fuel cur.lineBreak.2 with
        | .error error => .error error
        | .ok (breaks, after) => .ok (cur.lineBreak.1 ++ breaks, after)
      else .ok ([], cur)

/-- The character that one letter stands for after a backslash. -/
def shortEscape? : Char → Option Char
  | '0' => some '\x00'
  | 'a' => some '\x07'
  | 'b' => some '\x08'
  | 't' => some '\t'
  | '\t' => some '\t'
  | 'n' => some '\n'
  | 'v' => some '\x0b'
  | 'f' => some '\x0c'
  | 'r' => some '\r'
  | 'e' => some '\x1b'
  | ' ' => some ' '
  | '"' => some '"'
  | '\\' => some '\\'
  | '/' => some '/'
  | 'N' => some '\u0085'
  | '_' => some '\u00a0'
  | 'L' => some '\u2028'
  | 'P' => some '\u2029'
  | _ => none

/-- The number of digits that follow a letter after a backslash. -/
def escapeDigits? : Char → Option Nat
  | 'x' => some 2
  | 'u' => some 4
  | 'U' => some 8
  | _ => none

/-- The value of hexadecimal digits. -/
def hexNumber? (cs : List Char) : Option Nat :=
  cs.foldl (fun value c => do
    let digit ← if c.toNat < 128 then digitIn? 16 c else none
    return (← value) * 16 + digit) (some 0)

/-- The character written with a backslash and digits; the place is after the
letter. -/
def codePoint (digits : Nat) (cur : Cursor) : Scan Char :=
  match hexNumber? (cur.rest.take digits) with
  | none => .error .malformed
  | some code =>
    if cur.rest.length < digits then .error .malformed
    else if 0x110000 ≤ code then .error (.value .codePoint)
    else .ok (Char.ofNat code, cur.skip digits)

/-- The characters written with a backslash, which is the next character. A
backslash at the end of a line joins it to the next one. -/
def escape (cur : Cursor) : Scan (List Char) :=
  let letter := cur.peekAt 1
  let after := cur.skip 2
  match shortEscape? letter, escapeDigits? letter with
  | some c, _ => .ok ([c], after)
  | none, some digits => (codePoint digits after).map fun (c, after) => ([c], after)
  | none, none =>
    if isBreak letter then quotedBreaks (cur.rest.length + 1) cur.next.lineBreak.2
    else .error .malformed

/-- The spaces inside a quoted scalar, or a folded line end. -/
def quotedSpaces (cur : Cursor) : Scan (List Char) :=
  let (spaces, after) := cur.takeWhile fun c => c = ' ' || c = '\t'
  if after.peek = endMark then .error .malformed
  else if isBreak after.peek then
    let (ending, after) := after.lineBreak
    match quotedBreaks (after.rest.length + 1) after with
    | .error error => .error error
    | .ok (breaks, after) => .ok (folded ending breaks, after)
  else .ok (spaces, after)

/-- The text between quotes, from the character after the opening quote on. The
fuel is the length of the text. -/
def quotedText (double : Bool) : Nat → Cursor → List Char → Scan String
  | 0, _, _ => .error .malformed
  | fuel + 1, cur, done =>
    let c := cur.peek
    let proceed (piece : Scan (List Char)) : Scan String :=
      match piece with
      | .error error => .error error
      | .ok (cs, after) => quotedText double fuel after (cs.reverse ++ done)
    if isGap c then proceed (quotedSpaces cur)
    else if double then
      if c = '"' then .ok (String.ofList done.reverse, cur.next)
      else if c = '\\' then proceed (escape cur)
      else proceed (.ok ([c], cur.next))
    else if c = '\'' then
      if cur.peekAt 1 = '\'' then proceed (.ok (['\''], cur.skip 2))
      else .ok (String.ofList done.reverse, cur.next)
    else proceed (.ok ([c], cur.next))

/-- A quoted scalar from its opening quote on. -/
def quotedScalar (double : Bool) (cur : Cursor) : Scan String :=
  quotedText double (cur.rest.length + 1) cur.next []

/-- Whether a plain scalar ends before the next character. -/
def plainEnds (inFlow : Bool) (cur : Cursor) : Bool :=
  let c := cur.peek
  let d := cur.peekAt 1
  isGap c || (c = ':' && (isGap d || (inFlow && ",[]\x7b\x7d".toList.contains d))) ||
    (inFlow && ",?[]\x7b\x7d".toList.contains c)

/-- One word of a plain scalar. The fuel is the length of the text. -/
def plainWord (inFlow : Bool) : Nat → Cursor → List Char × Cursor
  | 0, cur => ([], cur)
  | fuel + 1, cur =>
    if plainEnds inFlow cur then ([], cur)
    else
      let (word, after) := plainWord inFlow fuel cur.next
      (cur.peek :: word, after)

/-- The blank lines inside a plain scalar; none if a mark of a document follows
one of them. The fuel is the length of the text. -/
def plainBreaks : Nat → Cursor → Option (List Char) × Cursor
  | 0, cur => (none, cur)
  | fuel + 1, cur =>
    let cur := cur.skipSpaces
    if isBreak cur.peek then
      let (ending, after) := cur.lineBreak
      if after.atDocumentMark then (none, after)
      else
        let (breaks, after) := plainBreaks fuel after
        (breaks.map (ending ++ ·), after)
    else (some [], cur)

/-- What stands between two words of a plain scalar, with the place after it and
whether a line has ended. Nothing means that the scalar ends here. -/
def plainSpaces (cur : Cursor) : List Char × Cursor × Bool :=
  let (spaces, after) := cur.takeWhile (· = ' ')
  if isBreak after.peek then
    let (ending, after) := after.lineBreak
    if after.atDocumentMark then ([], after, true)
    else
      match plainBreaks (after.rest.length + 1) after with
      | (some breaks, after) => (folded ending breaks, after, true)
      | (none, after) => ([], after, true)
  else (spaces, after, false)

/-- A plain scalar inside of an indentation. The result tells also whether the
scalar ends at the beginning of a line. The fuel is the length of the text. -/
def plainText (inFlow : Bool) (indent : Int) :
    Nat → Cursor → List Char → List Char → Bool → String × Cursor × Bool
  | 0, cur, _, done, fresh => (String.ofList done, cur, fresh)
  | fuel + 1, cur, spaces, done, fresh =>
    let ends := (String.ofList done, cur, fresh)
    if cur.peek = '#' then ends
    else
      let (word, after) := plainWord inFlow (cur.rest.length + 1) cur
      if word.isEmpty then ends
      else
        let done := done ++ spaces ++ word
        let (spaces, after, fresh) := plainSpaces after
        if spaces.isEmpty || after.peek = '#' || (!inFlow && (after.column : Int) < indent) then
          (String.ofList done, after, fresh)
        else plainText inFlow indent fuel after spaces done fresh

/-- A plain scalar below an indentation. -/
def plainScalar (inFlow : Bool) (indent : Int) (cur : Cursor) : String × Cursor × Bool :=
  plainText inFlow (indent + 1) (cur.rest.length + 1) cur [] [] false

/-- What is kept of the line ends that a block of lines ends with. -/
inductive Chomping where
  | strip
  | clip
  | keep
  deriving DecidableEq, Repr

/-- The sign that chooses what is kept. -/
def chomping? : Char → Option Chomping
  | '+' => some .keep
  | '-' => some .strip
  | _ => none

/-- The header of a block: what is kept, and by how much its lines are indented
if that is said. -/
def blockHeader? (cur : Cursor) : Option (Chomping × Option Nat × Cursor) := do
  let size? (c : Char) : Option Nat := if c.isDigit then some (c.toNat - 48) else none
  let (chomping, size, cur) :=
    match chomping? cur.peek with
    | some chomping =>
      match size? cur.next.peek with
      | some size => (chomping, some size, cur.skip 2)
      | none => (chomping, none, cur.next)
    | none =>
      match size? cur.peek with
      | some size =>
        match chomping? cur.next.peek with
        | some chomping => (chomping, some size, cur.skip 2)
        | none => (.clip, some size, cur.next)
      | none => (.clip, none, cur)
  if size = some 0 || !isSpaceOrEnd cur.peek then none
  return (chomping, size, ← cur.skipLine?)

/-- The place after the spaces that follow, up to a column. -/
def skipIndent (column : Nat) (cur : Cursor) : Cursor :=
  cur.skip (min (cur.rest.takeWhile (· = ' ')).length (column - cur.column))

/-- Blank lines before a line of a block. The fuel is the length of the text. -/
def blockBreaks (column : Nat) : Nat → Cursor → List Char × Cursor
  | 0, cur => ([], cur)
  | fuel + 1, cur =>
    let cur := skipIndent column cur
    if isBreak cur.peek then
      let (breaks, after) := blockBreaks column fuel cur.lineBreak.2
      (cur.lineBreak.1 ++ breaks, after)
    else ([], cur)

/-- Blank lines before the first line of a block, and the widest indentation
among them and that line. The fuel is the length of the text. -/
def firstBreaks : Nat → Cursor → Nat → List Char × Nat × Cursor
  | 0, cur, widest => ([], widest, cur)
  | fuel + 1, cur, widest =>
    let cur := cur.skipSpaces
    let widest := max widest cur.column
    if isBreak cur.peek then
      let (breaks, widest, after) := firstBreaks fuel cur.lineBreak.2 widest
      (cur.lineBreak.1 ++ breaks, widest, after)
    else ([], widest, cur)

/-- What stands between two lines of a block: the line end, or a space if the
lines are folded into one. -/
def blockJoin (fold : Bool) (ending breaks : List Char) (textBefore textAfter : Bool) :
    List Char :=
  if fold && ending = ['\n'] && textBefore && textAfter then
    if breaks.isEmpty then [' '] else []
  else ending

/-- Whether a line starts with text and not with a space. -/
def startsWithText (cur : Cursor) : Bool :=
  cur.peek ≠ ' ' && cur.peek ≠ '\t'

/-- The lines of a block, with the line end after the last one and the blank
lines after that. The fuel is the length of the text. -/
def blockLines (fold : Bool) (column : Nat) :
    Nat → Cursor → List Char → List Char × List Char × List Char × Cursor
  | 0, cur, breaks => ([], [], breaks, cur)
  | fuel + 1, cur, breaks =>
    if cur.column = column && cur.peek ≠ endMark then
      let textBefore := startsWithText cur
      let (line, after) := cur.takeWhile fun c => !isLineEnd c
      let (ending, after) := after.lineBreak
      let (following, after) := blockBreaks column (after.rest.length + 1) after
      if after.column = column && after.peek ≠ endMark then
        let join := blockJoin fold ending following textBefore (startsWithText after)
        let (more, last) := blockLines fold column fuel after following
        (breaks ++ line ++ join ++ more, last)
      else (breaks ++ line, ending, following, after)
    else ([], [], breaks, cur)

/-- A block of lines below an indentation, from its header on. -/
def blockScalar (fold : Bool) (indent : Int) (cur : Cursor) : Scan String :=
  match blockHeader? cur.next with
  | none => .error .malformed
  | some (chomping, size, cur) =>
    let least := (max (indent + 1) 1).toNat
    let fuel := cur.rest.length + 1
    let (breaks, column, cur) :=
      match size with
      | some size =>
        let column := least + size - 1
        let (breaks, cur) := blockBreaks column fuel cur
        (breaks, column, cur)
      | none =>
        let (breaks, widest, cur) := firstBreaks fuel cur 0
        (breaks, max least widest, cur)
    let (text, ending, breaks, cur) := blockLines fold column fuel cur breaks
    let tail :=
      match chomping with
      | .strip => []
      | .clip => ending
      | .keep => ending ++ breaks
    .ok (String.ofList (text ++ tail), cur)

end ClusterTopology.Yaml.Token
