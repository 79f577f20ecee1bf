import ClusterTopology.Number.Decimal
import ClusterTopology.Text.Blank

/-!
# IP addresses

Addresses of versions four and six, read from any accepted spelling and printed
in the one canonical spelling. A version six address may name the scope that it
is meant in.
-/

namespace ClusterTopology

open Number

/-- An IP address: four octets, or eight groups of sixteen bits with the scope
they are meant in. -/
inductive IpAddress where
  | v4 (octets : List Nat)
  | v6 (groups : List Nat) (scope : Option String)
  deriving DecidableEq, Repr

namespace IpAddress

/-- A number below 256 in decimal without leading zeros. -/
def octet? (cs : List Char) : Option Nat :=
  if cs.isEmpty || !cs.all isDigit || 3 < cs.length then none
  else if cs.head? = some '0' && cs ≠ ['0'] then none
  else if 255 < digitsValue cs then none
  else some (digitsValue cs)

/-- Four octets with points between them. -/
def octets? (cs : List Char) : Option (List Nat) :=
  match Text.splitAt '.' cs with
  | [a, b, c, d] => do
    let a ← octet? a
    let b ← octet? b
    let c ← octet? c
    let d ← octet? d
    return [a, b, c, d]
  | _ => none

/-- The value of a hexadecimal digit of either case. -/
def hexValue? (c : Char) : Option Nat :=
  if '0' ≤ c && c ≤ '9' then some (c.toNat - 48)
  else if 'a' ≤ c && c ≤ 'f' then some (c.toNat - 87)
  else if 'A' ≤ c && c ≤ 'F' then some (c.toNat - 55)
  else none

/-- A group of one to four hexadecimal digits. -/
def group? (cs : List Char) : Option Nat :=
  if cs.isEmpty || 4 < cs.length then none
  else cs.foldl (fun value c => do return (← value) * 16 + (← hexValue? c)) (some 0)

/-- The last part of an address: a group, or four octets that make two. -/
def lastGroups? (cs : List Char) : Option (List Nat) :=
  if cs.contains '.' then
    match octets? cs with
    | some [a, b, c, d] => some [a * 256 + b, c * 256 + d]
    | _ => none
  else (group? cs).map ([·])

/-- Parts that are all groups, except that the last may be four octets. -/
def groupsOfParts? : List (List Char) → Option (List Nat)
  | [] => some []
  | [last] => lastGroups? last
  | part :: parts => do
    let group ← group? part
    let groups ← groupsOfParts? parts
    return group :: groups

/-- Groups with colons between them; nothing at all is no group. -/
def groups? (cs : List Char) : Option (List Nat) :=
  if cs.isEmpty then some [] else groupsOfParts? (Text.splitAt ':' cs)

/-- Groups with colons between them where the last may not be four octets. -/
def plainGroups? (cs : List Char) : Option (List Nat) :=
  if cs.isEmpty then some [] else (Text.splitAt ':' cs).mapM group?

/-- The text before and after the first double colon. -/
def splitDoubleColon? : List Char → Option (List Char × List Char)
  | ':' :: ':' :: rest => some ([], rest)
  | c :: rest => (splitDoubleColon? rest).map fun (before, after) => (c :: before, after)
  | [] => none

/-- The eight groups of an address without scope. A double colon stands for the
zeros that are missing, of which there must be one at least. -/
def eightGroups? (cs : List Char) : Option (List Nat) :=
  match splitDoubleColon? cs with
  | none => (groups? cs).filter fun groups => groups.length = 8
  | some (before, after) => do
    let high ← plainGroups? before
    let low ← groups? after
    let given := high.length + low.length
    if given < 8 then some (high ++ List.replicate (8 - given) 0 ++ low) else none

/-- A text around the first occurrence of a character. -/
def splitFirst? (mark : Char) : List Char → Option (List Char × List Char)
  | [] => none
  | c :: rest =>
    if c = mark then some ([], rest)
    else (splitFirst? mark rest).map fun (before, after) => (c :: before, after)

/-- An address of version six. The scope is what follows the percent sign; it
may be neither empty nor hold another one. -/
def v6? (cs : List Char) : Option IpAddress :=
  if cs.contains '/' then none
  else
    match splitFirst? '%' cs with
    | none => (eightGroups? cs).map (.v6 · none)
    | some (address, scope) =>
      if scope.isEmpty || scope.contains '%' then none
      else (eightGroups? address).map (.v6 · (some (String.ofList scope)))

/-- Reads an address of either version. -/
def ofChars? (cs : List Char) : Option IpAddress :=
  match octets? cs with
  | some octets => some (.v4 octets)
  | none => v6? cs

/-- Texts with a separator between them. -/
def joinWith (separator : List Char) : List (List Char) → List Char
  | [] => []
  | [part] => part
  | part :: parts => part ++ separator ++ joinWith separator parts

/-- A group as it is printed: lower-case digits without leading zeros. -/
def groupChars (n : Nat) : List Char :=
  Nat.toDigits 16 n

/-- The number of zeros that a list of groups starts with. -/
def leadingZeros (groups : List Nat) : Nat :=
  (groups.takeWhile (· = 0)).length

/-- The start and the length of the first of the longest runs of zeros. -/
def longestZeroRun (groups : List Nat) : Nat × Nat :=
  (List.range groups.length).foldl
    (fun best start =>
      let length := leadingZeros (groups.drop start)
      if best.2 < length then (start, length) else best)
    (0, 0)

/-- Groups as they are printed: the longest run of two zeros or more is written
as a double colon. -/
def groupsChars (groups : List Nat) : List Char :=
  let (start, length) := longestZeroRun groups
  let print (groups : List Nat) := joinWith [':'] (groups.map groupChars)
  if 1 < length then
    print (groups.take start) ++ [':', ':'] ++ print (groups.drop (start + length))
  else print groups

/-- The canonical spelling of an address. -/
def toChars : IpAddress → List Char
  | .v4 octets => joinWith ['.'] (octets.map decimalDigits)
  | .v6 groups none => groupsChars groups
  | .v6 groups (some scope) => groupsChars groups ++ '%' :: scope.toList

end IpAddress

end ClusterTopology
