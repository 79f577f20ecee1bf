import ClusterTopology.Yaml.Source
import ClusterTopology.Yaml.Token.Property
import ClusterTopology.Yaml.Token.Scalar

/-!
# The tokens of a text

A text is cut into tokens from left to right. What makes this more than cutting
is that a key of a mapping is recognised only by the colon that follows it: the
places where a key may have started are remembered, and once a colon comes the
tokens that say so are put in at that place. A key ends on the line on which it
starts and is at most 1024 characters long.
-/

namespace ClusterTopology.Yaml

/-- A place where a key may have started: the number of tokens before it, where
it is, and whether a key must be there. -/
structure KeyStart where
  position : Nat
  required : Bool
  index : Nat
  line : Nat
  column : Nat

/-- What has been found out while a text is cut: the tokens so far, the nesting of
brackets, the indentation with the outer ones, and the places where keys may have
started by nesting. -/
structure Lexer where
  cur : Cursor
  tokens : Array Token
  nesting : Nat
  indent : Int
  outer : List Int
  keyAllowed : Bool
  keys : List (Nat × KeyStart)

namespace Lexer

/-- The beginning of a text. -/
def start (cs : List Char) : Lexer :=
  ⟨Cursor.start cs, #[], 0, -1, [], true, []⟩

/-- Adds a token. -/
def push (lx : Lexer) (token : Token) : Lexer :=
  { lx with tokens := lx.tokens.push token }

/-- Adds a token that takes up some characters. -/
def pushPast (lx : Lexer) (token : Token) (size : Nat) : Lexer :=
  { lx.push token with cur := lx.cur.skip size }

/-- Whether the text is between brackets. -/
def inFlow (lx : Lexer) : Bool :=
  0 < lx.nesting

/-- Goes on to the next token, over spaces, comments and line ends. Outside of
brackets a new line may start with a key. The fuel is the length of the text. -/
def skipBlank : Nat → Lexer → Lexer
  | 0, lx => lx
  | fuel + 1, lx =>
    let cur := lx.cur.skipSpaces.skipComment
    if isBreak cur.peek then
      skipBlank fuel
        { lx with cur := cur.lineBreak.2, keyAllowed := lx.keyAllowed || !lx.inFlow }
    else { lx with cur := cur }

/-- Goes on to the next token; a byte order mark may start the text. -/
def toNext (lx : Lexer) : Lexer :=
  let lx :=
    if lx.cur.index = 0 && lx.cur.peek = '\ufeff' then { lx with cur := lx.cur.next } else lx
  skipBlank (lx.cur.rest.length + 1) lx

/-- Whether a place is too far back for the key that started there. -/
def isStale (lx : Lexer) (k : KeyStart) : Bool :=
  k.line ≠ lx.cur.line || 1024 < lx.cur.index - k.index

/-- Forgets the places that are too far back; a key that had to be there is
missing then. -/
def dropStale (lx : Lexer) : Except Error Lexer :=
  if lx.keys.any fun entry => lx.isStale entry.2 && entry.2.required then .error .malformed
  else .ok { lx with keys := lx.keys.filter fun entry => !lx.isStale entry.2 }

/-- Forgets the place at the present nesting. -/
def dropKey (lx : Lexer) : Except Error Lexer :=
  if lx.keys.any fun entry => entry.1 = lx.nesting && entry.2.required then .error .malformed
  else .ok { lx with keys := lx.keys.filter fun entry => entry.1 ≠ lx.nesting }

/-- Remembers the present place if a key may start here. -/
def saveKey (lx : Lexer) : Except Error Lexer :=
  if lx.keyAllowed then do
    let cleared ← lx.dropKey
    let place : KeyStart :=
      { position := lx.tokens.size
        required := !lx.inFlow && lx.indent = lx.cur.column
        index := lx.cur.index
        line := lx.cur.line
        column := lx.cur.column }
    return { cleared with keys := (lx.nesting, place) :: cleared.keys }
  else .ok lx

/-- Closes the blocks that are indented by more than a column. -/
def closeBlocks (column : Int) : List Int → Lexer → Lexer
  | [], lx => lx
  | outer :: rest, lx =>
    if column < lx.indent then
      closeBlocks column rest { lx.push .blockEnd with indent := outer, outer := rest }
    else lx

/-- Closes the blocks that a new token at a column ends. Between brackets there
are no blocks. -/
def unwind (lx : Lexer) (column : Int) : Lexer :=
  if lx.inFlow then lx else closeBlocks column lx.outer lx

/-- Opens a block at a column that is further in, with a token at a place among
the others. -/
def openBlock (lx : Lexer) (column position : Nat) (token : Token) : Lexer :=
  if lx.indent < column then
    { lx with
      tokens := lx.tokens.insertIdxIfInBounds position token
      indent := column
      outer := lx.indent :: lx.outer }
  else lx

/-- Opens a block at the present place. -/
def openBlockHere (lx : Lexer) (token : Token) : Lexer :=
  lx.openBlock lx.cur.column lx.tokens.size token

/-- The end of the text. -/
def takeEnd (lx : Lexer) : Except Error Lexer := do
  let lx ← (lx.unwind (-1)).dropKey
  return lx.push .streamEnd

/-- A directive. -/
def takeDirective (lx : Lexer) : Except Error Lexer := do
  let lx ← (lx.unwind (-1)).dropKey
  let (found, cur) ← Token.directiveLine lx.cur
  return { lx.push (.directive found) with cur, keyAllowed := false }

/-- A mark that starts or ends a document. -/
def takeMark (lx : Lexer) (token : Token) : Except Error Lexer := do
  let lx ← (lx.unwind (-1)).dropKey
  return { lx.pushPast token 3 with keyAllowed := false }

/-- An opening bracket. -/
def takeOpen (lx : Lexer) (token : Token) : Except Error Lexer := do
  let lx ← lx.saveKey
  return { lx.pushPast token 1 with nesting := lx.nesting + 1, keyAllowed := true }

/-- A closing bracket; there must be one to close. -/
def takeClose (lx : Lexer) (token : Token) : Except Error Lexer := do
  let lx ← lx.dropKey
  if lx.inFlow then
    return { lx.pushPast token 1 with nesting := lx.nesting - 1, keyAllowed := false }
  else .error .malformed

/-- A comma between brackets. -/
def takeComma (lx : Lexer) : Except Error Lexer := do
  let lx ← { lx with keyAllowed := true }.dropKey
  return lx.pushPast .flowEntry 1

/-- The dash before an entry of a sequence. -/
def takeDash (lx : Lexer) : Except Error Lexer := do
  if !lx.inFlow && !lx.keyAllowed then .error .malformed
  else
    let lx := if lx.inFlow then lx else lx.openBlockHere .blockSequenceStart
    let lx ← { lx with keyAllowed := true }.dropKey
    return lx.pushPast .blockEntry 1

/-- The question mark before a key. -/
def takeQuestion (lx : Lexer) : Except Error Lexer := do
  if !lx.inFlow && !lx.keyAllowed then .error .malformed
  else
    let lx := if lx.inFlow then lx else lx.openBlockHere .blockMappingStart
    let lx ← { lx with keyAllowed := !lx.inFlow }.dropKey
    return lx.pushPast .key 1

/-- The colon after a key: the key may have started at a remembered place. -/
def takeColon (lx : Lexer) : Except Error Lexer := do
  match lx.keys.find? fun entry => entry.1 = lx.nesting with
  | some (_, place) =>
    let lx :=
      { lx with
        keys := lx.keys.filter fun entry => entry.1 ≠ lx.nesting
        tokens := lx.tokens.insertIdxIfInBounds place.position .key
        keyAllowed := false }
    let lx :=
      if lx.inFlow then lx else lx.openBlock place.column place.position .blockMappingStart
    return lx.pushPast .value 1
  | none =>
    if !lx.inFlow && !lx.keyAllowed then .error .malformed
    else
      let lx := if lx.inFlow then lx else lx.openBlockHere .blockMappingStart
      let lx ← { lx with keyAllowed := !lx.inFlow }.dropKey
      return lx.pushPast .value 1

/-- A token that a key may start with, read from the present place. -/
def takeProperty (lx : Lexer) (found : Option (Token × Cursor)) : Except Error Lexer := do
  let lx ← lx.saveKey
  match found with
  | none => .error .malformed
  | some (token, cur) => return { lx.push token with cur, keyAllowed := false }

/-- A quoted scalar. -/
def takeQuoted (lx : Lexer) (double : Bool) : Except Error Lexer := do
  let lx ← lx.saveKey
  let (text, cur) ← Token.quotedScalar double lx.cur
  return { lx.push (.scalar text false) with cur, keyAllowed := false }

/-- A block of lines. -/
def takeBlock (lx : Lexer) (fold : Bool) : Except Error Lexer := do
  let lx ← { lx with keyAllowed := true }.dropKey
  let (text, cur) ← Token.blockScalar fold lx.indent lx.cur
  return { lx.push (.scalar text false) with cur }

/-- A plain scalar. After one that ends at the beginning of a line a key may
start. -/
def takePlain (lx : Lexer) : Except Error Lexer := do
  let lx ← lx.saveKey
  let (text, cur, fresh) := Token.plainScalar lx.inFlow lx.indent lx.cur
  return { lx.push (.scalar text true) with cur, keyAllowed := fresh }

/-- Whether a plain scalar may start here. -/
def startsPlain (lx : Lexer) : Bool :=
  let c := lx.cur.peek
  let d := lx.cur.peekAt 1
  !(isGap c || "-?:,[]\x7b\x7d#&*!|>'\"%@`".toList.contains c) ||
    (!isGap d && (c = '-' || (!lx.inFlow && (c = '?' || c = ':'))))

/-- The next token, which starts at the present place. -/
def takeToken (lx : Lexer) : Except Error Lexer :=
  let c := lx.cur.peek
  let gapFollows := isGap (lx.cur.peekAt 1)
  let atLineStart := lx.cur.column = 0
  let named (token : String → Token) :=
    (Token.anchorName? lx.cur).map fun (name, cur) => (token name, cur)
  if c = '%' && atLineStart then lx.takeDirective
  else if atLineStart && lx.cur.atMark '-' then lx.takeMark .documentStart
  else if atLineStart && lx.cur.atMark '.' then lx.takeMark .documentEnd
  else if c = '[' then lx.takeOpen .flowSequenceStart
  else if c = '\x7b' then lx.takeOpen .flowMappingStart
  else if c = ']' then lx.takeClose .flowSequenceEnd
  else if c = '\x7d' then lx.takeClose .flowMappingEnd
  else if c = ',' then lx.takeComma
  else if c = '-' && gapFollows then lx.takeDash
  else if c = '?' && (lx.inFlow || gapFollows) then lx.takeQuestion
  else if c = ':' && (lx.inFlow || gapFollows) then lx.takeColon
  else if c = '*' then lx.takeProperty (named .alias)
  else if c = '&' then lx.takeProperty (named .anchor)
  else if c = '!' then
    lx.takeProperty ((Token.tagText? lx.cur).map fun (text, cur) => (.tag text, cur))
  else if c = '|' && !lx.inFlow then lx.takeBlock false
  else if c = '>' && !lx.inFlow then lx.takeBlock true
  else if c = '\'' then lx.takeQuoted false
  else if c = '"' then lx.takeQuoted true
  else if lx.startsPlain then lx.takePlain
  else .error .malformed

/-- Goes on by one token. Nothing is left of the text after its last one. -/
def step (lx : Lexer) : Except Error (Lexer × Bool) := do
  let lx ← lx.toNext.dropStale
  let lx := lx.unwind lx.cur.column
  if lx.cur.peek = endMark then return (← lx.takeEnd, true)
  else return (← lx.takeToken, false)

/-- Whether going on by one token uses up the text. -/
def isLast (lx : Lexer) : Bool :=
  match lx.step with
  | .ok (after, _) => after.cur.rest.isEmpty
  | .error _ => false

/-- Whether a text has to be known beyond its end to go on by one token: it is used
up by that, or it ends between quotes. -/
def needsMore (lx : Lexer) : Bool :=
  match lx.toNext.cur.rest with
  | [] => true
  | quote :: _ =>
    lx.isLast ||
      ((quote = '\'' || quote = '"') &&
        isLast { lx with cur := { lx.cur with rest := lx.cur.rest ++ [quote] } })

/-- The number of tokens that are settled: no key can turn up before them any
more. -/
def settled (lx : Lexer) : Nat :=
  (lx.keys.filter fun entry => !lx.isStale entry.2).foldl
    (fun least entry => min least entry.2.position) lx.tokens.size

/-- Cuts the rest of a text: the tokens, and the fault that ends them if there is
one. `fault` is what stands after the text if that is not its end. The fuel is the
length of the text. -/
def cut (fault : Option Error) : Nat → Lexer → List Token × Option Error
  | 0, lx => (lx.tokens.toList, some .malformed)
  | fuel + 1, lx =>
    let stop (error : Error) := (lx.tokens.toList.take lx.settled, some error)
    match fault.filter fun _ => lx.needsMore, lx.step with
    | some error, _ => stop error
    | none, .error error => stop error
    | none, .ok (lx, true) => (lx.tokens.toList, none)
    | none, .ok (lx, false) => cut fault fuel lx

end Lexer

/-- The tokens of a text, and the fault that ends them if there is one. -/
def Token.ofSource (source : Source) : List Token × Option Error :=
  Lexer.cut source.fault (source.text.length + 2) (Lexer.start source.text)

end ClusterTopology.Yaml
