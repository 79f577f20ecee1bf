import ClusterTopology.CommandLine.Arguments
import ClusterTopology.Settings.File
import ClusterTopology.Snitch

/-!
# The command

What the command does: it writes a new file of settings, or it starts a snitch,
prints the label of the own node and of the nodes that are asked for, and checks
names. It ends with 0, with 1 if names do not fit, and with 2 if it is used
wrongly or the snitch does not start.
-/

namespace ClusterTopology.CommandLine

/-- The name of the command. -/
def program : String := "racksentry"

/-- Prints a line. -/
def print (line : String) : Effect Unit :=
  Effect.emit (.out (line ++ "\n"))

/-- Prints a line on the error stream. -/
def complain (line : String) : Effect Unit :=
  Effect.emit (.err (line ++ "\n"))

/-- An option without a value counts as an empty list where a text is wanted for
`action`. -/
def withoutText (action : String) : Failure :=
  .notText (Value.list []).kindName action

/-- The pieces of a list with commas, without the blanks around them, each once. An
empty piece stays, an option that is not given has none. -/
def names : Option OptionValue → Except Failure (List String)
  | none => .ok []
  | some .nothing => .error (withoutText "split")
  | some (.text list) =>
    let pieces := Text.splitAt ',' list.toList
    .ok (pieces.map fun piece => String.ofList (Text.trim piece)).eraseDups

/-- The name of the constant that holds the form of log lines; it is no level. -/
def formatConstant : String := "BASIC_FORMAT"

/-- The form that this constant holds. -/
def formatText : String := "%(levelname)s:%(name)s:%(message)s"

/-- The name of the constant that holds the styles of log lines; it is no level. -/
def stylesConstant : String := "_STYLES"

/-- The styles that this constant holds, as they are shown. -/
def stylesText : String :=
  "\x7b'%': (<class 'logging.PercentStyle'>, '%(levelname)s:%(name)s:%(message)s'), " ++
    "'\x7b': (<class 'logging.StrFormatStyle'>, " ++
    "'\x7blevelname\x7d:\x7bname\x7d:\x7bmessage\x7d'), " ++
    "'$': (<class 'logging.StringTemplateStyle'>, " ++
    "'$\x7blevelname\x7d:$\x7bname\x7d:$\x7bmessage\x7d')\x7d"

/-- The file of a log, if there is one. -/
def logFile (file : Option String) : Effect (Option (List String)) := do
  match file with
  | none | some "" => return none
  | some text =>
    let files ← Effect.ask World.files
    let (names, _) ← Effect.lift .file (files.writable (Path.parse text).collapsed)
    return some names

/-- Sets up the log with the name of a level and a file. -/
def setUpLog (level : String) (file : Option String) : Effect Unit := do
  let names ← logFile file
  Effect.emit (.logSetup ⟨Threshold.named level, names⟩)
  if Threshold.capitals level = formatConstant then Effect.fail (.unknownLevel formatText)
  if Threshold.capitals level = stylesConstant then Effect.fail (.notLevel stylesText)

/-- The nodes that values name. -/
def nodes (values : List OptionValue) : Except Failure (List NodeAddress) :=
  values.mapM fun
    | .text s => (NodeAddress.parse s).mapError .address
    | .nothing => .error (withoutText "strip")

/-- The line that tells where a node is. -/
def labelLine (name : String) (label : Placement) : String :=
  name ++ ": datacenter=" ++ label.datacenter ++ " rack=" ++ label.rack

/-- Prints where nodes are. -/
def printLabels (resolver : Resolver) : List NodeAddress → Session SavedPlacements Unit
  | [] => return ()
  | node :: rest => do
    let label ← resolver.queryLabel node
    print (labelLine node.toText label)
    printLabels resolver rest

/-- Checks names, if that is asked for, and prints whether they fit. -/
def verdict (snitch : Snitch) (args : Arguments) : Effect Nat := do
  if args.validate then
    let datacenters ← Effect.ofExcept (names args.datacenters)
    let racks ← Effect.ofExcept (names args.racks)
    if ← snitch.validate datacenters racks then
      print "Topology names are valid"
      return 0
    else
      print "Topology names are not valid for Azure"
      return 1
  else return 0

/-- What is done with a snitch. -/
def serve (snitch : Snitch) (endpoints : List NodeAddress) (args : Arguments) :
    Session SavedPlacements Nat := do
  let resolver := snitch.resolver
  print (labelLine ("Local node " ++ resolver.localAddress.toText) resolver.label)
  printLabels resolver endpoints
  verdict snitch args

/-- Does what is asked of a snitch and closes it, whatever happens. -/
def serveAndClose (snitch : Snitch) (endpoints : List NodeAddress) (args : Arguments) :
    Effect Nat := do
  let (result, _) ← serve snitch endpoints args none
  snitch.close
  Effect.ofExcept result

/-- Starts the snitch that settings ask for and does what is asked of it. -/
def runSnitch (settings : Settings) (endpoints : List NodeAddress) (args : Arguments) :
    Effect Nat := do
  match ← (Snitch.ofSettings settings).attempt with
  | .ok snitch => serveAndClose snitch endpoints args
  | .error failure =>
    if failure.isOwn || failure.isBadValue then
      Effect.report "AzureSnitch" .error
        ("Unable to determine local topology: " ++ failure.message)
      return 2
    else Effect.fail failure

/-- Runs with settings. -/
def runConfigured (settings : Settings) (args : Arguments) : Effect Nat := do
  setUpLog ((settings.text? .logLevel).getD "INFO") (settings.text? .logFile)
  match nodes args.endpoints with
  | .ok endpoints => runSnitch settings endpoints args
  | .error (.address error) =>
    complain ("Error: " ++ error.message)
    return 2
  | .error failure => Effect.fail failure

/-- Does what is asked for. -/
def runWith (args : Arguments) : Effect Nat := do
  match args.createConfig with
  | none | some "" =>
    match ← (Settings.ofFile args.config).attempt with
    | .ok settings => runConfigured settings args
    | .error failure =>
      if failure.isOwn then
        complain ("Error: " ++ failure.message)
        return 2
      else Effect.fail failure
  | some path =>
    Settings.create path
    print ("Created default snitch configuration at " ++ path)
    return 0

/-- The text that tells how the command is used. -/
def usage : String :=
  "usage: " ++ program ++ " [-h] [--config CONFIG] [--create-config CREATE_CONFIG] " ++
    "[--endpoint ENDPOINT] [--validate] [--datacenters DATACENTERS] [--racks RACKS]"

/-- Runs the command with the words after its name; the result is the code that it
ends with. -/
def run (words : List String) : Effect Nat := do
  match Arguments.parse words with
  | .error error =>
    complain (program ++ ": error: " ++ error.message)
    return 2
  | .ok none =>
    print usage
    return 0
  | .ok (some args) => runWith args

end ClusterTopology.CommandLine
