import ClusterTopology.Number.Literal
import ClusterTopology.Text.Utf8
import ClusterTopology.Yaml.Token

/-!
# Anchors, tags and directives

The tokens that say something about a node or a document. Each reader starts at
the character that announces the token.
-/

namespace ClusterTopology.Yaml.Token

open Number

/-- The name of an anchor or an alias, after the character that announces it. -/
def anchorName? (cur : Cursor) : Option (String × Cursor) :=
  let (name, cur) := cur.next.takeWhile isWordChar
  if name.isEmpty then none
  else if isGap cur.peek || "?:,]\x7d%@`".toList.contains cur.peek then
    some (String.ofList name, cur)
  else none

/-- A character that may stand in a tag as it is. -/
def isTagChar (c : Char) : Bool :=
  c.isAlphanum || "-;/?:@&=+$,_.!~*'()[]".toList.contains c

/-- The bytes written with percent signs that follow. The fuel is the length of
the text. -/
def escapedBytes? : Nat → Cursor → Option (List UInt8 × Cursor)
  | 0, cur => some ([], cur)
  | fuel + 1, cur =>
    if cur.peek = '%' then do
      let high ← hexValue? (cur.peekAt 1)
      let low ← hexValue? (cur.peekAt 2)
      let (bytes, cur) ← escapedBytes? fuel (cur.skip 3)
      return (UInt8.ofNat (high * 16 + low) :: bytes, cur)
    else some ([], cur)
where
  /-- The value of an ASCII digit in base sixteen. -/
  hexValue? (c : Char) : Option Nat :=
    if c.toNat < 128 then digitIn? 16 c else none

/-- The characters of a tag, percent forms decoded. The fuel is the length of the
text. -/
def tagChars? : Nat → Cursor → Option (List Char × Cursor)
  | 0, cur => some ([], cur)
  | fuel + 1, cur =>
    if cur.peek = '%' then do
      let (bytes, cur) ← escapedBytes? (fuel + 1) cur
      let decoded ← (Utf8.decode bytes).toOption
      let (more, cur) ← tagChars? fuel cur
      return (decoded.toList ++ more, cur)
    else
      let (run, after) := cur.takeWhile isTagChar
      if run.isEmpty then some ([], cur)
      else do
        let (more, cur) ← tagChars? fuel after
        return (run ++ more, cur)

/-- The text of a tag, which is not empty. -/
def tagUri? (cur : Cursor) : Option (String × Cursor) := do
  let (cs, after) ← tagChars? (cur.rest.length + 1) cur
  if cs.isEmpty then none else some (String.ofList cs, after)

/-- A handle: a name between exclamation marks, or one such mark before a space. -/
def tagHandle? (cur : Cursor) : Option (String × Cursor) :=
  if cur.peek ≠ '!' then none
  else if cur.peekAt 1 = ' ' then some ("!", cur.next)
  else
    let (name, after) := cur.next.takeWhile isWordChar
    if after.peek = '!' then some (String.ofList ('!' :: name ++ ['!']), after.next) else none

/-- Whether an exclamation mark follows within the word after the first one. -/
def hasHandle (cur : Cursor) : Bool :=
  (cur.next.takeWhile fun c => !isSpaceOrEnd c).1.contains '!'

/-- A tag that is written in full, between angle brackets. -/
def fullTag? (cur : Cursor) : Option (TagText × Cursor) := do
  let (suffix, after) ← tagUri? (cur.skip 2)
  if after.peek = '>' then some (⟨none, suffix⟩, after.next) else none

/-- A tag with a handle, which may be a lone exclamation mark. -/
def handledTag? (cur : Cursor) : Option (TagText × Cursor) := do
  let (handle, after) ← if hasHandle cur then tagHandle? cur else some ("!", cur.next)
  let (suffix, after) ← tagUri? after
  return (⟨some handle, suffix⟩, after)

/-- A tag. A space or the end of the line has to follow. -/
def tagText? (cur : Cursor) : Option (TagText × Cursor) :=
  let found :=
    if cur.peekAt 1 = '<' then fullTag? cur
    else if isGap (cur.peekAt 1) then some (⟨none, "!"⟩, cur.next)
    else handledTag? cur
  found.filter fun (_, after) => isSpaceOrEnd after.peek

/-- What was read, or a text that breaks the rules. -/
def required {α : Type} (found : Option (α × Cursor)) : Scan α :=
  match found with
  | some found => .ok found
  | none => .error .malformed

/-- A natural number in decimal. -/
def number (cur : Cursor) : Scan Nat :=
  let (digits, after) := cur.takeWhile Char.isDigit
  if digits.isEmpty then .error .malformed
  else
    match Number.read digits with
    | .ok n => .ok (n.toNat, after)
    | .error error => .error (.value (.integer error))

/-- The version that a document says it is written in. -/
def version (cur : Cursor) : Except Error (Directive × Cursor) := do
  let (major, after) ← number cur.skipSpaces
  if after.peek ≠ '.' then .error .malformed
  else
    let (_, after) ← number after.next
    if isSpaceOrEnd after.peek then .ok (.version major, after) else .error .malformed

/-- A handle and what it stands for. -/
def replacement? (cur : Cursor) : Option (Directive × Cursor) := do
  let (handle, after) ← tagHandle? cur.skipSpaces
  if after.peek ≠ ' ' then none
  let (uri, after) ← tagUri? after.skipSpaces
  if isSpaceOrEnd after.peek then some (.tag handle uri, after) else none

/-- A directive with the rest of its line. -/
def directiveLine (cur : Cursor) : Except Error (Directive × Cursor) := do
  let (name, after) := cur.next.takeWhile isWordChar
  if name.isEmpty || !isSpaceOrEnd after.peek then .error .malformed
  else
    let (found, after) ←
      match String.ofList name with
      | "YAML" => version after
      | "TAG" => required (replacement? after)
      | _ => .ok (.unknown, after.skipWhile fun c => !isLineEnd c)
    required (after.skipLine?.map fun after => (found, after))

end ClusterTopology.Yaml.Token
