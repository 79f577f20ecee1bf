/-!
# Base64

Bytes written with sixty-four characters, read leniently: characters that are
none of them do not count, and enough padding ends the text.
-/

namespace ClusterTopology.Text.Base64

/-- The six bits that a character stands for. -/
def sixBits? (c : Char) : Option Nat :=
  if 'A' ≤ c && c ≤ 'Z' then some (c.toNat - 65)
  else if 'a' ≤ c && c ≤ 'z' then some (c.toNat - 71)
  else if '0' ≤ c && c ≤ '9' then some (c.toNat + 4)
  else if c = '+' then some 62
  else if c = '/' then some 63
  else none

/-- Decodes from inside a group of four characters: `filled` of them have been
read, the bits in `left` are still to be written, and `padding` marks were the
last that was seen. A group may not be left unfinished. -/
def decodeFrom (filled left padding : Nat) : List Char → Option (List UInt8)
  | [] => if filled = 0 then some [] else none
  | c :: cs =>
    if c = '=' then
      if 2 ≤ filled && 4 ≤ filled + padding + 1 then some []
      else decodeFrom filled left (if 2 ≤ filled then padding + 1 else padding) cs
    else
      match sixBits? c with
      | none => decodeFrom filled left padding cs
      | some bits =>
        let byte (n : Nat) (more : Option (List UInt8)) : Option (List UInt8) :=
          more.map (UInt8.ofNat n :: ·)
        match filled with
        | 0 => decodeFrom 1 bits 0 cs
        | 1 => byte (left * 4 + bits / 16) (decodeFrom 2 (bits % 16) 0 cs)
        | 2 => byte (left * 16 + bits / 4) (decodeFrom 3 (bits % 4) 0 cs)
        | _ => byte (left * 64 + bits) (decodeFrom 0 0 0 cs)

/-- The bytes that a text stands for. -/
def decode? (cs : List Char) : Option (List UInt8) :=
  decodeFrom 0 0 0 cs

end ClusterTopology.Text.Base64
