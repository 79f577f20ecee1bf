import ClusterTopology.Number.Decimal

/-!
# Tags

What type a node is meant to have. A tag may be written out; a plain scalar
without one gets its type from the shape of its text. The shapes are those of
YAML 1.1: many words for truth values, numbers with underscores and in base
sixty, dates, and two marks that only mean something as keys.
-/

namespace ClusterTopology.Yaml

open Number

/-- The type of a node. -/
inductive Tag where
  | null
  | bool
  | int
  | float
  | binary
  | time
  | text
  | sequence
  | mapping
  | set
  | orderedMapping
  | pairs
  /-- The key whose value is merged into the mapping. -/
  | merge
  /-- The key of a mapping that stands for one of its values. -/
  | content
  | other (name : String)
  deriving DecidableEq, Repr

namespace Tag

/-- What the handle of two exclamation marks stands for. -/
def standardNames : String := "tag:yaml.org,2002:"

/-- The tag with a full name. -/
def ofName (name : String) : Tag :=
  let known : List (String × Tag) := [
    ("null", .null), ("bool", .bool), ("int", .int), ("float", .float), ("binary", .binary),
    ("timestamp", .time), ("str", .text), ("seq", .sequence), ("map", .mapping), ("set", .set),
    ("omap", .orderedMapping), ("pairs", .pairs), ("merge", .merge), ("value", .content)]
  match known.find? fun entry => standardNames ++ entry.1 = name with
  | some entry => entry.2
  | none => .other name

/-- A digit or an underscore. -/
def isDigitOrLow (c : Char) : Bool :=
  isDigit c || c = '_'

/-- Digits with underscores among them, beginning with a digit. -/
def isDigits (cs : List Char) : Bool :=
  match cs with
  | c :: rest => isDigit c && rest.all isDigitOrLow
  | [] => false

/-- The text without its sign. -/
def unsigned (cs : List Char) : List Char :=
  (takeSign cs).2

/-- The words for truth values: in small letters, in capitals, or with one. -/
def isTruthWord (s : String) : Bool :=
  let words := ["yes", "no", "true", "false", "on", "off"]
  words.any fun word => s = word || s = word.capitalize || s = word.toUpper

/-- The words for nothing. -/
def isNullWord (s : String) : Bool :=
  ["", "~", "null", "Null", "NULL"].contains s

/-- An exponent with its mark and sign, or nothing. -/
def isExponent (cs : List Char) : Bool :=
  match cs with
  | [] => true
  | mark :: sign :: digits =>
    (mark = 'e' || mark = 'E') && (sign = '+' || sign = '-') && !digits.isEmpty &&
      digits.all isDigit
  | _ => false

/-- A part of a number in base sixty: one digit, or two of which the first is
below six. -/
def isSixtieth (cs : List Char) : Bool :=
  match cs with
  | [d] => isDigit d
  | [t, d] => '0' ≤ t && t ≤ '5' && isDigit d
  | _ => false

/-- Digits with parts of base sixty after them, at least one. -/
def isSexagesimal (first : List Char → Bool) (cs : List Char) : Bool :=
  match Text.splitAt ':' cs with
  | head :: part :: parts => first head && (part :: parts).all isSixtieth
  | _ => false

/-- The text before a point and the text after it, if there is a point. -/
def atPoint? (cs : List Char) : Option (List Char × List Char) :=
  match cs.dropWhile (· ≠ '.') with
  | '.' :: rest => some (cs.takeWhile (· ≠ '.'), rest)
  | _ => none

/-- Digits after a point, then an exponent or nothing. -/
def isFraction (cs : List Char) : Bool :=
  isExponent (cs.dropWhile isDigitOrLow)

/-- Whether a text looks like a number with a point. -/
def isFloatText (cs : List Char) : Bool :=
  let body := unsigned cs
  let pointed :=
    match atPoint? body with
    | some (whole, fraction) =>
      (isDigits whole && isFraction fraction) ||
        (isSexagesimal isDigits whole && fraction.all isDigitOrLow)
    | none => false
  let bare :=
    match cs with
    | '.' :: d :: rest => isDigit d && isFraction rest
    | _ => false
  let named (words : List String) (cs : List Char) : Bool := words.contains (String.ofList cs)
  pointed || bare || named [".inf", ".Inf", ".INF"] body || named [".nan", ".NaN", ".NAN"] cs

/-- Digits of a base with underscores among them, at least one character. -/
def isBased (base : Nat) (cs : List Char) : Bool :=
  !cs.isEmpty && cs.all fun c => c = '_' || (c.toNat < 128 && (digitIn? base c).isSome)

/-- Digits that do not begin with a zero. -/
def isLeading (cs : List Char) : Bool :=
  isDigits cs && cs.head? ≠ some '0'

/-- Whether a text looks like an integer. -/
def isIntText (cs : List Char) : Bool :=
  let body := unsigned cs
  match body with
  | ['0'] => true
  | '0' :: 'b' :: digits => isBased 2 digits
  | '0' :: 'x' :: digits => isBased 16 digits
  | '0' :: digits => isBased 8 digits
  | _ => isLeading body || isSexagesimal isLeading body

/-- So many digits. -/
def isCount (least most : Nat) (cs : List Char) : Bool :=
  least ≤ cs.length && cs.length ≤ most && cs.all isDigit

/-- The rest after digits, of which there must be so many. -/
def afterDigits? (least most : Nat) (cs : List Char) : Option (List Char) :=
  let digits := (cs.takeWhile isDigit).take most
  if digits.length < least then none else some (cs.drop digits.length)

/-- The rest after a character. -/
def afterChar? (c : Char) (cs : List Char) : Option (List Char) :=
  match cs with
  | d :: rest => if d = c then some rest else none
  | [] => none

/-- A space or a tab. -/
def isSpaceOrTab (c : Char) : Bool :=
  c = ' ' || c = '\t'

/-- The zone of a time: nothing, the letter for universal time, or a difference to
it. -/
def isZone (cs : List Char) : Bool :=
  match cs.dropWhile isSpaceOrTab with
  | [] => cs.isEmpty
  | ['Z'] => true
  | sign :: rest =>
    (sign = '+' || sign = '-') &&
      match afterDigits? 1 2 rest with
      | some [] => true
      | some (':' :: minutes) => isCount 2 2 minutes
      | _ => false

/-- The rest after the mark between a date and a time. -/
def afterDate? (cs : List Char) : Option (List Char) :=
  match cs with
  | c :: rest =>
    if c = 'T' || c = 't' then some rest
    else if isSpaceOrTab c then some (rest.dropWhile isSpaceOrTab)
    else none
  | [] => none

/-- Whether a text is a time of day, with a fraction and a zone if it likes. -/
def isClock (cs : List Char) : Bool :=
  let rest? := do
    let rest ← afterDigits? 1 2 cs
    let rest ← afterDigits? 2 2 (← afterChar? ':' rest)
    afterDigits? 2 2 (← afterChar? ':' rest)
  match rest? with
  | some ('.' :: rest) => isZone (rest.dropWhile isDigit)
  | some rest => isZone rest
  | none => false

/-- Whether a text looks like a date in digits of full width, or like a date and a
time of day. -/
def isTimeText (cs : List Char) : Bool :=
  let date? (least : Nat) : Option (List Char) := do
    let rest ← afterDigits? 4 4 cs
    let rest ← afterDigits? least 2 (← afterChar? '-' rest)
    afterDigits? least 2 (← afterChar? '-' rest)
  date? 2 = some [] ||
    match (date? 1).bind afterDate? with
    | some rest => isClock rest
    | none => false

/-- The tag that a text gets from its shape. -/
def ofShape (s : String) : Tag :=
  let cs := s.toList
  if isTruthWord s then .bool
  else if isFloatText cs then .float
  else if isIntText cs then .int
  else if s = "<<" then .merge
  else if isNullWord s then .null
  else if isTimeText cs then .time
  else if s = "=" then .content
  else if s = "!" || s = "&" || s = "*" then .other (standardNames ++ "yaml")
  else .text

/-- A text without the line end that may close it. A line end alone stays. -/
def withoutLineEnd (cs : List Char) : List Char :=
  match cs.reverse with
  | '\n' :: c :: before => (c :: before).reverse
  | _ => cs

/-- The tag of a scalar that none is written for. The shape is that of the text
before a closing line end. -/
def ofPlain (s : String) : Tag :=
  ofShape (String.ofList (withoutLineEnd s.toList))

end Tag

end ClusterTopology.Yaml
