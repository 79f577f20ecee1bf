import ClusterTopology.Yaml.Cursor
import ClusterTopology.Yaml.Error

/-!
# Texts in files

The bytes of a file become text in two steps. They are decoded block by block,
so that bytes at fault are counted from the beginning of their block; and the
text is handed on in windows of equal size, so that a fault is only noticed once
its window is wanted. The first two windows are wanted at once.
-/

namespace ClusterTopology.Yaml

/-- The characters that can be read before anything is wrong, and what is wrong
after them. -/
structure Source where
  text : List Char
  fault : Option Error

namespace Source

/-- The number of bytes in a block, as long as that is enough. -/
def blockSize : Nat := 8192

/-- The number of characters in a window. -/
def windowSize : Nat := 4096

/-- A file that is being decoded: the bytes to come, the bytes of a character that
the last block cut in two, whether a carriage return waits for what follows it,
and the characters so far, the last one first. `bytesSeen` and `charsSeen` are
those of the last block. -/
structure Decoding where
  bytes : List UInt8
  tail : List UInt8
  held : Bool
  done : List Char
  count : Nat
  bytesSeen : Nat
  charsSeen : Nat

namespace Decoding

/-- A file of which nothing has been decoded. -/
def start (bytes : List UInt8) : Decoding := ⟨bytes, [], false, [], 0, 0, 0⟩

/-- The characters of some bytes, and the bytes of a character that is cut short by
their end. -/
def decodeBlock (data : List UInt8) : Except Utf8.Error (List Char × List UInt8) :=
  match Utf8.decodeFrom 0 data with
  | .ok cs => .ok (cs, [])
  | .error error =>
    if error.reason = .truncated then
      (Utf8.decodeFrom 0 (data.take error.position)).map fun cs => (cs, data.drop error.position)
    else .error error

/-- The number of bytes to read for so many characters, by the share of bytes and
characters in the last block. -/
def nextSize (d : Decoding) (wanted : Nat) : Nat :=
  if d.charsSeen = 0 || d.bytesSeen < d.charsSeen then max blockSize wanted
  else max blockSize (wanted * d.bytesSeen / d.charsSeen)

/-- Adds decoded characters. A carriage return at their end waits until it is known
whether a line feed follows. -/
def add (d : Decoding) (cs : List Char) (atEnd : Bool) : Decoding :=
  let held := d.held && !(cs.isEmpty && !atEnd)
  let cs := if held then '\r' :: cs else cs
  let waits := !atEnd && cs.getLast? = some '\r'
  let fresh := Utf8.unifyNewlines (if waits then cs.dropLast else cs)
  { d with
    held := waits || (d.held && !held)
    done := fresh.reverseAux d.done
    count := d.count + fresh.length
    charsSeen := fresh.length }

/-- Reads one more block for so many characters. -/
def readBlock (d : Decoding) (wanted : Nat) : Except Utf8.Error Decoding :=
  let size := d.nextSize wanted
  let block := d.bytes.take size
  let data := d.tail ++ block
  match decodeBlock data with
  | .error error => .error error
  | .ok (cs, tail) =>
    .ok { d.add cs false with
          bytes := d.bytes.drop size
          tail
          bytesSeen := block.length }

/-- The end of the file: no character may be cut short there. -/
def finish (d : Decoding) : Except Utf8.Error Decoding :=
  match Utf8.decodeFrom 0 d.tail with
  | .error error => .error error
  | .ok cs => .ok { d.add cs true with tail := [] }

/-- Decodes window after window: the characters that can be had, and the fault
that ends them with the number of its window. The fuel bounds the number of blocks
and windows. -/
def windows : Nat → Nat → Decoding → List Char × Option (Nat × Utf8.Error)
  | 0, _, d => (d.done.reverse, none)
  | fuel + 1, window, d =>
    let target := (window + 1) * windowSize
    if target ≤ d.count then windows fuel (window + 1) d
    else if d.bytes.isEmpty then
      match d.finish with
      | .error error => (d.done.reverse, some (window, error))
      | .ok d => (d.done.reverse, none)
    else
      match d.readBlock (target - d.count) with
      | .error error => (d.done.reverse, some (window, error))
      | .ok d => windows fuel window d

end Decoding

/-- The number of the first window with a character that no text contains. -/
def forbiddenWindow? (cs : List Char) : Option Nat :=
  let allowed := (cs.takeWhile isAllowed).length
  if allowed < cs.length then some (allowed / windowSize) else none

/-- A text up to a window in which something is wrong. -/
def upTo (window : Nat) (error : Error) (cs : List Char) : Except Error Source :=
  if window ≤ 1 then .error error else .ok ⟨cs.take (window * windowSize), some error⟩

/-- The text of a file. Of two faults in one window the one of decoding counts. -/
def ofBytes (data : List UInt8) : Except Error Source :=
  let (cs, undecodable?) := Decoding.windows (2 * data.length + 2) 0 (.start data)
  match undecodable?, forbiddenWindow? cs with
  | none, none => .ok ⟨cs, none⟩
  | none, some bad => upTo bad .malformed cs
  | some (window, error), none => upTo window (.undecodable error) cs
  | some (window, error), some bad =>
    if max bad 1 < window then upTo bad .malformed cs else upTo window (.undecodable error) cs

end Source

end ClusterTopology.Yaml
