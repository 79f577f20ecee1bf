import ClusterTopology.Number.Literal

/-!
# Arguments of the command

The words after the name of the command: options with and without a value. Long
options may be shortened as long as only one fits, a value may follow after an
equals sign or as the next word, and no word may be left over. All words are
looked at before the first one is acted on, so an option that is not clear is
reported before all other faults.
-/

namespace ClusterTopology.CommandLine

/-- An option of the command. -/
inductive Switch where
  | help
  | config
  | createConfig
  | endpoint
  | validate
  | datacenters
  | racks
  deriving DecidableEq, Repr

namespace Switch

/-- The spellings of all options, in the order in which they are tried. -/
def spellings : List (String × Switch) := [
  ("-h", .help), ("--help", .help), ("--config", .config), ("--create-config", .createConfig),
  ("--endpoint", .endpoint), ("--validate", .validate), ("--datacenters", .datacenters),
  ("--racks", .racks)]

/-- The option with a spelling. -/
def ofSpelling? (word : String) : Option Switch :=
  (spellings.find? fun entry => entry.1 = word).map Prod.snd

/-- All spellings of an option, as they are shown in messages. -/
def shown (o : Switch) : String :=
  "/".intercalate ((spellings.filter fun entry => entry.2 = o).map Prod.fst)

/-- Whether an option has a value. -/
def takesValue : Switch → Bool
  | .help => false
  | .validate => false
  | _ => true

end Switch

/-- Why the words after the command are refused. -/
inductive UsageError where
  | ambiguous (word : String) (spellings : List String)
  | noValue (o : Switch)
  | needlessValue (o : Switch) (value : String)
  | leftOver (words : List String)
  deriving DecidableEq, Repr

/-- The text that reports refused words. -/
def UsageError.message : UsageError → String
  | .ambiguous word spellings =>
    "ambiguous option: " ++ word ++ " could match " ++ ", ".intercalate spellings
  | .noValue o => "argument " ++ o.shown ++ ": expected one argument"
  | .needlessValue o value =>
    "argument " ++ o.shown ++ ": ignored explicit argument " ++ Text.quoted value
  | .leftOver words => "unrecognized arguments: " ++ " ".intercalate words

/-- The value of an option. Two dashes only separate words, so an equals sign with
nothing but two dashes after it leaves no text. -/
inductive OptionValue where
  | text (s : String)
  | nothing
  deriving DecidableEq, Repr

namespace OptionValue

/-- The value that follows an equals sign. -/
def attached (s : String) : OptionValue :=
  if s = "--" then .nothing else .text s

/-- The text of a value, if it has one. -/
def text? : OptionValue → Option String
  | .text s => some s
  | .nothing => none

end OptionValue

/-- What the command is asked to do. A path without a text is as good as none. -/
structure Arguments where
  config : Option String
  createConfig : Option String
  endpoints : List OptionValue
  validate : Bool
  datacenters : Option OptionValue
  racks : Option OptionValue
  deriving DecidableEq, Repr

namespace Arguments

/-- What a command without words is asked to do. -/
def none : Arguments := ⟨.none, .none, [], false, .none, .none⟩

/-- What one word is. -/
inductive Word where
  | plain (text : String)
  /-- Two dashes, after which all words are plain. -/
  | separator
  /-- An option with the value in the same word. `direct` tells that it is an option of
  one letter, after which the value needs no equals sign. -/
  | option (o : Switch) (direct : Bool) (value : Option String)
  | unknown (text : String)
  deriving DecidableEq, Repr

/-- A word cut at its first equals sign. -/
def cutAtEquals (cs : List Char) : String × Option String :=
  match cs.dropWhile (· ≠ '=') with
  | _ :: value => (String.ofList (cs.takeWhile (· ≠ '=')), some (String.ofList value))
  | [] => (String.ofList cs, .none)

/-- The spellings that a long word is the beginning of. -/
def shortened (word : String) : List (String × Switch) :=
  Switch.spellings.filter fun entry => word.toList.isPrefixOf entry.1.toList

/-- The spellings that a word may stand for, each with the value attached to it. -/
def candidates (cs : List Char) : List (String × Switch × Bool × Option String) :=
  match cs with
  | '-' :: '-' :: _ =>
    let (word, value) := cutAtEquals cs
    (shortened word).map fun (spelling, o) => (spelling, o, false, value)
  | a :: b :: rest =>
    Switch.spellings.filterMap fun (spelling, o) =>
      if spelling = String.ofList [a, b] then some (spelling, o, true, some (String.ofList rest))
      else if cs.isPrefixOf spelling.toList then some (spelling, o, true, .none)
      else .none
  | _ => []

/-- A decimal digit of any script. -/
def isAnyDigit (c : Char) : Bool :=
  (Number.decimalDigit? c).isSome

/-- Whether a word is a negative number: a dash, then digits with a point before the
last of them if it likes. A line feed may end it. -/
def isNegativeNumber (cs : List Char) : Bool :=
  let body := if cs.getLast? = some '\n' then cs.dropLast else cs
  match body with
  | '-' :: rest =>
    match rest.dropWhile isAnyDigit with
    | [] => !rest.isEmpty
    | '.' :: digits => !digits.isEmpty && digits.all isAnyDigit
    | _ => false
  | _ => false

/-- What a word is that no option is spelled like. -/
def ofOther (text : String) : Word :=
  if isNegativeNumber text.toList || text.toList.contains ' ' then .plain text else .unknown text

/-- Whether a spelling is that of an option of one letter. -/
def isLetter (spelling : String) : Bool :=
  spelling.length = 2

/-- What a word that begins with a dash is. -/
def ofDashed (text : String) : Except UsageError Word :=
  let (start, value) := cutAtEquals text.toList
  match Switch.ofSpelling? text, Switch.ofSpelling? start, value with
  | some o, _, _ => .ok (.option o false .none)
  | .none, some o, some value => .ok (.option o (isLetter start) (some value))
  | _, _, _ =>
    match candidates text.toList with
    | [] => .ok (ofOther text)
    | [(_, o, direct, value)] => .ok (.option o direct value)
    | several => .error (.ambiguous text (several.map Prod.fst))

/-- What the words are. -/
def classify : List String → Except UsageError (List Word)
  | [] => .ok []
  | text :: rest =>
    if text = "--" then .ok (.separator :: rest.map .plain)
    else do
      let word ←
        match text.toList with
        | '-' :: _ :: _ => ofDashed text
        | _ => .ok (.plain text)
      return word :: (← classify rest)

/-- What is asked for, once an option with its value has been read. -/
def set (args : Arguments) (o : Switch) (value : OptionValue) : Arguments :=
  match o with
  | .help => args
  | .config => { args with config := value.text? }
  | .createConfig => { args with createConfig := value.text? }
  | .endpoint => { args with endpoints := args.endpoints ++ [value] }
  | .validate => { args with validate := true }
  | .datacenters => { args with datacenters := some value }
  | .racks => { args with racks := some value }

/-- How reading ends: with what is asked for and the words that are left over, or
with a call for help. -/
inductive Ending where
  | help
  | done (args : Arguments) (leftOver : List String)

/-- A word that is left over in front of others. -/
def Ending.keep (text : String) : Ending → Ending
  | .help => .help
  | .done args leftOver => .done args (text :: leftOver)

/-- The value in the same word as an option that takes none. After an option of one
letter more such options may follow, of which there is only one. -/
def needless? (direct : Bool) (value : Option String) : Option String :=
  match direct, value with
  | true, some value =>
    let rest := value.toList.dropWhile (· = 'h')
    if rest.isEmpty && value ≠ "" then .none else some (String.ofList rest)
  | _, value => value

/-- Acts on the words, one after the other. -/
def act (args : Arguments) : List Word → Except UsageError Ending
  | [] => .ok (.done args [])
  | .option o direct value :: rest =>
    if o.takesValue then
      match value, rest with
      | some value, rest => act (args.set o (.attached value)) rest
      | .none, .plain value :: rest => act (args.set o (.text value)) rest
      | .none, _ => .error (.noValue o)
    else
      match needless? direct value with
      | some value => .error (.needlessValue o value)
      | .none => if o = .help then .ok .help else act (args.set o .nothing) rest
  | .plain text :: rest => (act args rest).map (Ending.keep text)
  | .separator :: rest => (act args rest).map (Ending.keep "--")
  | .unknown text :: rest => (act args rest).map (Ending.keep text)

/-- Reads the words after the command; nothing means a call for help. -/
def parse (words : List String) : Except UsageError (Option Arguments) := do
  match ← act .none (← classify words) with
  | .help => return .none
  | .done args [] => return some args
  | .done _ leftOver => .error (.leftOver leftOver)

end Arguments

end ClusterTopology.CommandLine
