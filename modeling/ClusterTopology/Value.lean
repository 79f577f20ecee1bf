import ClusterTopology.Entries
import ClusterTopology.Number.Decimal
import ClusterTopology.Text.Quoted

/-!
# Values of documents

What a JSON or YAML text stands for: scalars, lists, mappings with scalar keys,
and the few other shapes that YAML tags ask for. `Value.shown` is the text of a
value inside a message, `Value.plain` the text a value turns into where a name
is wanted.
-/

namespace ClusterTopology

open Number

/-- A day of the calendar. -/
structure Date where
  year : Nat
  month : Nat
  day : Nat
  deriving DecidableEq, Repr

/-- A day and a time of day, with the seconds its clock is ahead of universal
time if the zone is known. -/
structure Moment where
  date : Date
  hour : Nat
  minute : Nat
  second : Nat
  microsecond : Nat
  offset : Option Int
  deriving DecidableEq, Repr

namespace Moment

/-- The number of days from the first of March of the year zero to a day. A year
that begins in March ends with its leap day. -/
def days (d : Date) : Int :=
  let year : Int := if d.month ≤ 2 then d.year - 1 else d.year
  let month := (d.month + 9) % 12
  year * 365 + year.fdiv 4 - year.fdiv 100 + year.fdiv 400 + ((153 * month + 2) / 5 : Nat) + d.day

/-- The microseconds from the first of March of the year zero to a moment of
universal time, if the zone is known. -/
def instant? (m : Moment) : Option Int :=
  m.offset.map fun ahead =>
    let seconds := days m.date * 86400 + m.hour * 3600 + m.minute * 60 + m.second - ahead
    seconds * 1000000 + m.microsecond

/-- Whether two moments are one: on clocks of known zones by universal time, and
else by what the clocks show. -/
def isSame (a b : Moment) : Bool :=
  match a.instant?, b.instant? with
  | none, none => a = b
  | x, y => x = y

end Moment

/-- Why a value cannot be shown. -/
inductive ShowError where
  /-- An integer has more digits than are written. -/
  | longInteger
  /-- Collections stand within each other more deeply than is followed. -/
  | tooDeep
  deriving DecidableEq, Repr

namespace ShowError

/-- The text that reports a value that cannot be shown. -/
def message : ShowError → String
  | .longInteger => unwritableMessage
  | .tooDeep => "maximum recursion depth exceeded while getting the repr of an object"

/-- Whether the value is at fault, as against the room there is for showing it. -/
def isBadValue : ShowError → Bool
  | .longInteger => true
  | .tooDeep => false

end ShowError

/-- A value without parts; only these may be keys of a mapping. -/
inductive Scalar where
  | null
  | bool (b : Bool)
  | int (n : Int)
  | float (x : Binary64)
  | text (s : String)
  | bytes (data : List UInt8)
  | date (d : Date)
  | moment (m : Moment)
  deriving DecidableEq, Repr

namespace Scalar

/-- The truth values count as the numbers one and zero among the keys. -/
def integer? : Scalar → Option Int
  | .bool b => some (if b then 1 else 0)
  | .int n => some n
  | _ => none

/-- Whether two scalars are one key: numbers by value whatever their kind, moments
by the time that they are, all else by equality. -/
def sameKey (a b : Scalar) : Bool :=
  match a, b with
  | .float x, .float y => x.sameValue y
  | .float x, b => b.integer?.any fun n => x.compareInt n == some .eq
  | a, .float y => a.integer?.any fun n => y.compareInt n == some .eq
  | .moment m, .moment n => m.isSame n
  | a, b =>
    match a.integer?, b.integer? with
    | some m, some n => m = n
    | none, none => a = b
    | _, _ => false

instance : BEq Scalar := ⟨sameKey⟩

@[simp]
theorem text_beq_text (s t : String) : (Scalar.text s == Scalar.text t) = decide (s = t) := by
  simp [BEq.beq, sameKey, integer?]

@[simp]
theorem beq_text (key : Scalar) (s : String) :
    (key == Scalar.text s) = decide (key = .text s) := by
  cases key with
  | text t => simp
  | _ => rfl

@[simp]
theorem text_beq (key : Scalar) (s : String) :
    (Scalar.text s == key) = decide (key = .text s) := by
  cases key with
  | text t => simp [eq_comm]
  | _ => rfl

/-- Raw bytes as they are shown inside a message. -/
def shownBytes (data : List UInt8) : String :=
  let cs := data.map fun b => Char.ofNat b.toNat
  let quote := Text.quoteFor cs
  let shown (c : Char) : List Char :=
    if c.toNat < 127 then Text.quotedChar quote c else Text.codePointEscape c.toNat
  "b" ++ String.ofList (quote :: cs.flatMap shown ++ [quote])

/-- A date as it is shown inside a message. -/
def shownDate (d : Date) : String :=
  toString d.year ++ ", " ++ toString d.month ++ ", " ++ toString d.day

/-- A span of seconds, split into days and the seconds of a day. -/
def shownSpan (seconds : Int) : String :=
  let days := seconds.fdiv 86400
  let rest := seconds.fmod 86400
  let parts :=
    (if days = 0 then [] else ["days=" ++ toString days]) ++
      (if rest = 0 then [] else ["seconds=" ++ toString rest])
  "datetime.timedelta(" ++ (if parts.isEmpty then "0" else ", ".intercalate parts) ++ ")"

/-- A time of day as it is shown after its date; seconds and smaller parts only
where they are needed. -/
def shownMoment (m : Moment) : String :=
  let seconds :=
    if m.microsecond ≠ 0 then ", " ++ toString m.second ++ ", " ++ toString m.microsecond
    else if m.second ≠ 0 then ", " ++ toString m.second
    else ""
  let zone :=
    match m.offset with
    | none => ""
    | some 0 => ", tzinfo=datetime.timezone.utc"
    | some seconds => ", tzinfo=datetime.timezone(" ++ shownSpan seconds ++ ")"
  "datetime.datetime(" ++ shownDate m.date ++ ", " ++ toString m.hour ++ ", " ++
    toString m.minute ++ seconds ++ zone ++ ")"

/-- A scalar as it is shown inside a message. -/
def shown : Scalar → String
  | .null => "None"
  | .bool b => if b then "True" else "False"
  | .int n => toString n
  | .float x => x.toText
  | .text s => Text.quoted s
  | .bytes data => shownBytes data
  | .date d => "datetime.date(" ++ shownDate d ++ ")"
  | .moment m => shownMoment m

/-- The least integer without a text: it has more digits than are written. -/
def unwritable : Nat := Nat.pow 10 4300

/-- Whether a scalar can be shown, which an integer with too many digits cannot. -/
def isShowable : Scalar → Bool
  | .int n => n.natAbs < unwritable
  | _ => true

/-- What keeps a scalar from being shown, if something does. -/
def hidden? (s : Scalar) : Option ShowError :=
  if s.isShowable then none else some .longInteger

/-- The text of a key: a text is itself. -/
def plain : Scalar → String
  | .text s => s
  | key => key.shown

end Scalar

/-- A value of a document. -/
inductive Value where
  | scalar (s : Scalar)
  | list (items : List Value)
  | map (entries : List (Scalar × Value))
  /-- The members of a set, in the order in which they are shown. -/
  | set (members : List Scalar)
  /-- An entry of an ordered mapping, where any value may be the key. -/
  | pair (key value : Value)
  /-- A list or a mapping at a place within itself. -/
  | again (isList : Bool)
  deriving Repr

namespace Value

@[match_pattern]
abbrev null : Value := .scalar .null

@[match_pattern]
abbrev bool (b : Bool) : Value := .scalar (.bool b)

@[match_pattern]
abbrev int (n : Int) : Value := .scalar (.int n)

@[match_pattern]
abbrev float (x : Binary64) : Value := .scalar (.float x)

@[match_pattern]
abbrev text (s : String) : Value := .scalar (.text s)

instance : Inhabited Value := ⟨.null⟩

mutual

/-- A value as it is shown inside a message. -/
def shown : Value → String
  | .scalar s => s.shown
  | .list items => "[" ++ shownItems items ++ "]"
  | .map entries => "\x7b" ++ shownEntries entries ++ "\x7d"
  | .set members =>
    if members.isEmpty then "set()"
    else "\x7b" ++ ", ".intercalate (members.map Scalar.shown) ++ "\x7d"
  | .pair key value => "(" ++ key.shown ++ ", " ++ value.shown ++ ")"
  | .again isList => if isList then "[...]" else "\x7b...\x7d"

/-- The items of a list, with commas between them. -/
def shownItems : List Value → String
  | [] => ""
  | [item] => item.shown
  | item :: rest => item.shown ++ ", " ++ shownItems rest

/-- The entries of a mapping, with commas between them. -/
def shownEntries : List (Scalar × Value) → String
  | [] => ""
  | [(key, value)] => key.shown ++ ": " ++ value.shown
  | (key, value) :: rest => key.shown ++ ": " ++ value.shown ++ ", " ++ shownEntries rest

end

/-- The greatest number of collections within each other that is followed where a
value is shown or a text is read. It stands for the number of calls that there may be
within each other, a thousand, less those that have been made by then. How many these
are differs a little from place to place; they are taken to be twelve everywhere. -/
def maxDepth : Nat := 988

mutual

/-- What keeps a value from being shown, if something does: of several things the one
that is met first from the beginning of the value on. `room` is the number of
collections that there may be from here on inwards. -/
def hidden? : Nat → Value → Option ShowError
  | _, .scalar s => s.hidden?
  | room, .list items => if room = 0 then some .tooDeep else hiddenItems? (room - 1) items
  | room, .map entries => if room = 0 then some .tooDeep else hiddenEntries? (room - 1) entries
  | room, .set members =>
    if room = 0 then some .tooDeep else members.findSome? Scalar.hidden?
  | room, .pair key value =>
    if room = 0 then some .tooDeep
    else (key.hidden? (room - 1)).or (value.hidden? (room - 1))
  | _, .again _ => none

/-- What keeps the items of a list from being shown. -/
def hiddenItems? : Nat → List Value → Option ShowError
  | _, [] => none
  | room, item :: rest => (item.hidden? room).or (hiddenItems? room rest)

/-- What keeps the entries of a mapping from being shown. -/
def hiddenEntries? : Nat → List (Scalar × Value) → Option ShowError
  | _, [] => none
  | room, (key, value) :: rest =>
    (key.hidden?.or (value.hidden? room)).or (hiddenEntries? room rest)

end

/-- Whether a value can be shown. -/
def isShowable (value : Value) : Bool :=
  (value.hidden? maxDepth).isNone

/-- The text that a value turns into where a name is wanted: a text is itself. -/
def plain : Value → String
  | .text s => s
  | value => value.shown

/-- Whether a value counts as present: neither null, false, zero nor empty. -/
def isPresent : Value → Bool
  | .scalar .null => false
  | .scalar (.bool b) => b
  | .scalar (.int n) => n ≠ 0
  | .scalar (.float x) => !x.isZero
  | .scalar (.text s) => s ≠ ""
  | .scalar (.bytes data) => !data.isEmpty
  | .scalar (.date _) => true
  | .scalar (.moment _) => true
  | .list items => !items.isEmpty
  | .map entries => !entries.isEmpty
  | .set members => !members.isEmpty
  | .pair _ _ => true
  | .again _ => true

/-- The name of a value's kind inside a message. -/
def kindName : Value → String
  | .scalar .null => "NoneType"
  | .scalar (.bool _) => "bool"
  | .scalar (.int _) => "int"
  | .scalar (.float _) => "float"
  | .scalar (.text _) => "str"
  | .scalar (.bytes _) => "bytes"
  | .scalar (.date _) => "datetime.date"
  | .scalar (.moment _) => "datetime.datetime"
  | .list _ => "list"
  | .map _ => "dict"
  | .set _ => "set"
  | .pair _ _ => "tuple"
  | .again isList => if isList then "list" else "dict"

/-- The value of a named entry. -/
def field? (entries : List (Scalar × Value)) (name : String) : Option Value :=
  Entries.get? entries (.text name)

end Value

end ClusterTopology
