import ClusterTopology.Effect
import ClusterTopology.Json.Reader
import ClusterTopology.Json.Writer
import ClusterTopology.Settings
import ClusterTopology.Yaml.Reader
import ClusterTopology.Yaml.Writer

/-!
# Files of settings

Settings are read from a YAML or a JSON file, by the end of its name, and written
over the initial values. A file that is missing or cannot be read means that
nothing is configured; a file that can be read has to hold sound settings.
-/

namespace ClusterTopology.Settings

/-- Who reports the reading and writing of settings. -/
def logger : String := "ConfigManager"

/-- Whether a file is YAML by the end of its name. -/
def isYaml (path : Path) : Bool :=
  let suffix := path.suffix.toLower
  suffix = ".yaml" || suffix = ".yml"

/-- The value that the bytes of a file of settings stand for. -/
def readData (path : Path) (data : List UInt8) : Except Failure Value :=
  if isYaml path then (Yaml.read data).mapError .yaml
  else do
    let text ← (Utf8.decodeLines data).mapError .undecodable
    (Json.read text).mapError .json

/-- The value in a file. -/
def readFile (files : Files) (path : Path) : Except Failure Value := do
  let data ← (files.read path).mapError .file
  readData path data

/-- Failures that only mean that nothing is configured: the system refuses the
file, or its text is neither YAML nor JSON. -/
def isUnreadable : Failure → Bool
  | .file (.refused _ _) => true
  | .yaml .malformed => true
  | .json (.malformed _ _) => true
  | _ => false

/-- The entries of a value that is meant to hold settings; null holds none. -/
def entriesOf? : Value → Option (Entries Scalar Value)
  | .null => some []
  | .map entries => some entries
  | _ => none

/-- The settings that a value makes, for the file it comes from. -/
def ofValue (file : String) (value : Value) : Except SettingsError Settings :=
  match entriesOf? value with
  | none => .error (.notMapping file)
  | some entries => (ofEntries (merge entries)).mapError (.ofViolations (some file))

/-- The settings that entries make. -/
def make (entries : Entries Scalar Value) : Except SettingsError Settings :=
  (ofEntries (merge entries)).mapError (.ofViolations none)

/-- The settings that a value makes which comes from no file. What counts as absent
holds no settings. -/
def ofConfig (value : Value) : Except Failure Settings :=
  if value.isPresent then do
    let entries ← (Listing.entries value).mapError .listing
    (make entries).mapError .settings
  else (make []).mapError .settings

/-- The settings in a file that is there. -/
def loadExisting (path : Path) : Effect Settings := do
  let files ← Effect.ask World.files
  match readFile files path with
  | .error failure =>
    if isUnreadable failure then
      Effect.report logger .error ("Error loading configuration: " ++ failure.message)
      return default
    else Effect.fail failure
  | .ok value =>
    let settings ← Effect.lift .settings (ofValue path.toText value)
    Effect.report logger .info ("Loaded configuration from " ++ path.toText)
    return settings

/-- The settings of a file, if there is one. -/
def load (text : Option String) : Effect Settings := do
  match text with
  | none | some "" =>
    Effect.report logger .warning "No configuration path provided, using defaults"
    return default
  | some text =>
    let path := Path.parse text
    let files ← Effect.ask World.files
    if ← Effect.lift .file (files.contains path) then loadExisting path
    else
      Effect.report logger .warning
        ("Configuration file not found: " ++ path.toText ++ ", using defaults")
      return default

/-- The settings of a file, checked once more as a whole. -/
def ofFile (text : Option String) : Effect Settings := do
  let loaded ← load text
  Effect.lift .settings (make loaded.entries)

/-- The initial values as scalars, in the order of their names. -/
def initialScalars : List (Scalar × Scalar) :=
  Setting.byName.map fun setting =>
    (setting.key, match setting.initial with
      | .scalar s => s
      | _ => .null)

/-- The text of a new file of settings. -/
def newText (path : Path) : String :=
  if isYaml path then Yaml.writeScalars initialScalars else Json.write (.map initial)

/-- Makes a directory with all directories on the way to it. -/
def makeDirectories (path : Path) : Effect Unit := do
  let files ← Effect.ask World.files
  let made ← Effect.lift .file (files.missingDirectories path)
  made.forM fun names => Effect.emit (.newDirectory names)

/-- Writes a file with the initial values of all settings. -/
def create (text : String) : Effect Unit := do
  let path := Path.parse text
  makeDirectories path.parent
  let files ← Effect.ask World.files
  let (names, _) ← Effect.lift .file (files.writable path)
  Effect.emit (.newFile names (Utf8.encode (newText path)))
  Effect.report logger .info ("Created default snitch configuration at " ++ path.toText)

end ClusterTopology.Settings
