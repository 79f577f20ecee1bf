/-!
# UTF-8

Bytes to characters and back. `decode` accepts exactly the shortest forms of
code points that are no surrogates; otherwise it tells which bytes are at
fault: a byte that starts no character, a character cut short by a byte that
does not continue it, or one cut short by the end.
-/

namespace ClusterTopology.Utf8

/-- What is wrong with a run of bytes. -/
inductive Reason where
  | start
  | continuation
  | truncated
  deriving DecidableEq, Repr

/-- The words for a reason. -/
def Reason.describe : Reason → String
  | .start => "invalid start byte"
  | .continuation => "invalid continuation byte"
  | .truncated => "unexpected end of data"

/-- Bytes that are no UTF-8: where they are, how many, the first of them, and
what is wrong. -/
structure Error where
  position : Nat
  count : Nat
  first : UInt8
  reason : Reason
  deriving DecidableEq, Repr

/-- Two hexadecimal digits of a byte. -/
def hexByte (b : UInt8) : String :=
  let digits := Nat.toDigits 16 b.toNat
  String.ofList (if digits.length < 2 then '0' :: digits else digits)

/-- The text that reports undecodable bytes; a single byte is shown. -/
def Error.message (e : Error) : String :=
  let place :=
    if e.count = 1 then "byte 0x" ++ hexByte e.first ++ " in position " ++ toString e.position
    else
      "bytes in position " ++ toString e.position ++ "-" ++ toString (e.position + e.count - 1)
  "'utf-8' codec can't decode " ++ place ++ ": " ++ e.reason.describe

/-- A byte that continues a character. -/
def isTail (b : UInt8) : Bool :=
  0x80 ≤ b.toNat && b.toNat < 0xc0

/-- A byte that may come second after the first byte of a long character: it
rules out forms longer than needed, surrogates and values that are too big. -/
def isSecond (first b : UInt8) : Bool :=
  isTail b &&
    (if first = 0xe0 then 0xa0 ≤ b.toNat
     else if first = 0xed then b.toNat < 0xa0
     else if first = 0xf0 then 0x90 ≤ b.toNat
     else if first = 0xf4 then b.toNat < 0x90
     else true)

/-- The six bits that a tail adds to a code point. -/
def extend (code : Nat) (b : UInt8) : Nat :=
  code * 64 + (b.toNat - 0x80)

/-- Decodes bytes that start at a position of a longer text. -/
def decodeFrom (position : Nat) : List UInt8 → Except Error (List Char)
  | [] => .ok []
  | a :: rest =>
    let fault (count : Nat) (reason : Reason) : Except Error (List Char) :=
      .error ⟨position, count, a, reason⟩
    if a.toNat < 0x80 then
      (decodeFrom (position + 1) rest).map (Char.ofNat a.toNat :: ·)
    else if a.toNat < 0xc2 then fault 1 .start
    else if a.toNat < 0xe0 then
      match rest with
      | [] => fault 1 .truncated
      | b :: rest =>
        if isTail b then
          (decodeFrom (position + 2) rest).map (Char.ofNat (extend (a.toNat - 0xc0) b) :: ·)
        else fault 1 .continuation
    else if a.toNat < 0xf0 then
      match rest with
      | [] => fault 1 .truncated
      | b :: rest =>
        if isSecond a b then
          match rest with
          | [] => fault 2 .truncated
          | c :: rest =>
            if isTail c then
              (decodeFrom (position + 3) rest).map
                (Char.ofNat (extend (extend (a.toNat - 0xe0) b) c) :: ·)
            else fault 2 .continuation
        else fault 1 .continuation
    else if a.toNat < 0xf5 then
      match rest with
      | [] => fault 1 .truncated
      | b :: rest =>
        if isSecond a b then
          match rest with
          | [] => fault 2 .truncated
          | c :: rest =>
            if isTail c then
              match rest with
              | [] => fault 3 .truncated
              | d :: rest =>
                if isTail d then
                  (decodeFrom (position + 4) rest).map
                    (Char.ofNat (extend (extend (extend (a.toNat - 0xf0) b) c) d) :: ·)
                else fault 3 .continuation
            else fault 2 .continuation
        else fault 1 .continuation
    else fault 1 .start

/-- The text whose encoding the bytes are. -/
def decode (data : List UInt8) : Except Error String :=
  (decodeFrom 0 data).map String.ofList

/-- The byte that holds the last six bits of a number after a first byte. -/
def continuation (n : Nat) : UInt8 :=
  UInt8.ofNat (0x80 + n % 0x40)

/-- The bytes of a character in their shortest form. -/
def encodeChar (c : Char) : List UInt8 :=
  let n := c.toNat
  if n < 0x80 then [UInt8.ofNat n]
  else if n < 0x800 then [UInt8.ofNat (0xc0 + n / 0x40), continuation n]
  else if n < 0x10000 then
    [UInt8.ofNat (0xe0 + n / 0x1000), continuation (n / 0x40), continuation n]
  else
    [UInt8.ofNat (0xf0 + n / 0x40000), continuation (n / 0x1000), continuation (n / 0x40),
      continuation n]

/-- The bytes of a text. -/
def encode (s : String) : List UInt8 :=
  s.toList.flatMap encodeChar

/-- Carriage returns, alone or before a line feed, read as line feeds. -/
def unifyNewlines : List Char → List Char
  | '\r' :: '\n' :: rest => '\n' :: unifyNewlines rest
  | '\r' :: rest => '\n' :: unifyNewlines rest
  | c :: rest => c :: unifyNewlines rest
  | [] => []

/-- The text of a file, with its line ends unified. -/
def decodeLines (data : List UInt8) : Except Error String :=
  (decodeFrom 0 data).map fun cs => String.ofList (unifyNewlines cs)

end ClusterTopology.Utf8
