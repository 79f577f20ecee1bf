/-!
# Places in a YAML text

A cursor is a place in a text: the characters that follow, and where they are.
The null character, which no text contains, stands for the end, so that there
is always a next character to look at.
-/

namespace ClusterTopology.Yaml

/-- The character that stands for the end of a text. -/
def endMark : Char := '\x00'

/-- A character that ends a line. -/
def isBreak (c : Char) : Bool :=
  c = '\n' || c = '\u0085' || c = '\u2028' || c = '\u2029'

/-- A character that ends a line, or the end of the text. -/
def isLineEnd (c : Char) : Bool :=
  c = endMark || isBreak c

/-- A character that stands between words: a space, a tab or the end of a line. -/
def isGap (c : Char) : Bool :=
  c = ' ' || c = '\t' || isLineEnd c

/-- A space or the end of a line. -/
def isSpaceOrEnd (c : Char) : Bool :=
  c = ' ' || isLineEnd c

/-- A character of names: an ASCII letter or digit, a dash or an underscore. -/
def isWordChar (c : Char) : Bool :=
  c.isAlphanum || c = '-' || c = '_'

/-- Whether a text may contain a character. -/
def isAllowed (c : Char) : Bool :=
  let n := c.toNat
  n = 0x09 || n = 0x0a || n = 0x0d || (0x20 ≤ n && n ≤ 0x7e) || n = 0x85 ||
    (0xa0 ≤ n && n ≤ 0xd7ff) || (0xe000 ≤ n && n ≤ 0xfffd) || 0x10000 ≤ n

/-- A place in a text. -/
structure Cursor where
  rest : List Char
  index : Nat
  line : Nat
  column : Nat

namespace Cursor

/-- The beginning of a text. -/
def start (cs : List Char) : Cursor := ⟨cs, 0, 0, 0⟩

/-- The next character. -/
def peek (cur : Cursor) : Char :=
  cur.rest.headD endMark

/-- The character `n` places further on. -/
def peekAt (cur : Cursor) (n : Nat) : Char :=
  cur.rest.getD n endMark

/-- The place after the next character. A byte order mark takes no column. -/
def next (cur : Cursor) : Cursor :=
  match cur.rest with
  | [] => cur
  | c :: rest =>
    if isBreak c then ⟨rest, cur.index + 1, cur.line + 1, 0⟩
    else if c = '\ufeff' then ⟨rest, cur.index + 1, cur.line, cur.column⟩
    else ⟨rest, cur.index + 1, cur.line, cur.column + 1⟩

/-- The place after `n` more characters. -/
def skip (cur : Cursor) : Nat → Cursor
  | 0 => cur
  | n + 1 => cur.next.skip n

/-- The place after a run of characters. -/
def skipWhile (cur : Cursor) (p : Char → Bool) : Cursor :=
  cur.skip (cur.rest.takeWhile p).length

/-- A run of characters, and the place after it. -/
def takeWhile (cur : Cursor) (p : Char → Bool) : List Char × Cursor :=
  let run := cur.rest.takeWhile p
  (run, cur.skip run.length)

/-- The place after the spaces that follow. -/
def skipSpaces (cur : Cursor) : Cursor :=
  cur.skipWhile (· = ' ')

/-- The place after a comment, if one follows. -/
def skipComment (cur : Cursor) : Cursor :=
  if cur.peek = '#' then cur.skipWhile fun c => !isLineEnd c else cur

/-- The end of a line as it counts inside a scalar, if one follows, and the place
after it. -/
def lineBreak (cur : Cursor) : List Char × Cursor :=
  if cur.peek = '\n' || cur.peek = '\u0085' then (['\n'], cur.next)
  else if isBreak cur.peek then ([cur.peek], cur.next)
  else ([], cur)

/-- The place after the rest of a line that may hold only a comment. -/
def skipLine? (cur : Cursor) : Option Cursor :=
  let cur := cur.skipSpaces.skipComment
  if isLineEnd cur.peek then some cur.lineBreak.2 else none

/-- Whether three equal characters follow that stand as a word. -/
def atMark (cur : Cursor) (c : Char) : Bool :=
  cur.peek = c && cur.peekAt 1 = c && cur.peekAt 2 = c && isGap (cur.peekAt 3)

/-- Whether a line that starts here starts or ends a document. -/
def atDocumentMark (cur : Cursor) : Bool :=
  cur.atMark '-' || cur.atMark '.'

end Cursor

end ClusterTopology.Yaml
