import ClusterTopology.Log
import ClusterTopology.Settings.Rule

/-!
# The settings

The twelve settings with their names, the values they start with and the rules
for the values they are given. `violations` is what is wrong with a set of
entries; a value that is no mapping at all breaks one rule by itself. `check` tells
all that is wrong with a value, unless part of it cannot be shown.
-/

namespace ClusterTopology

/-- Something that can be configured. -/
inductive Setting where
  | suffix
  | broadcastAddress
  | metadataTimeout
  | redisEnabled
  | redisHost
  | redisPort
  | redisPassword
  | redisDatabase
  | redisNamespace
  | topologyFile
  | logLevel
  | logFile
  deriving DecidableEq, Repr

namespace Setting

/-- The name of a setting. -/
def name : Setting → String
  | .suffix => "dc_suffix"
  | .broadcastAddress => "broadcast_address"
  | .metadataTimeout => "metadata_timeout"
  | .redisEnabled => "redis_enabled"
  | .redisHost => "redis_host"
  | .redisPort => "redis_port"
  | .redisPassword => "redis_password"
  | .redisDatabase => "redis_db"
  | .redisNamespace => "redis_namespace"
  | .topologyFile => "topology_file"
  | .logLevel => "log_level"
  | .logFile => "log_file"

/-- The settings in the order in which they are listed. -/
def all : List Setting := [
  .suffix, .broadcastAddress, .metadataTimeout, .redisEnabled, .redisHost, .redisPort,
  .redisPassword, .redisDatabase, .redisNamespace, .topologyFile, .logLevel, .logFile]

/-- The settings in the order of their names. -/
def byName : List Setting := [
  .broadcastAddress, .suffix, .logFile, .logLevel, .metadataTimeout, .redisDatabase,
  .redisEnabled, .redisHost, .redisNamespace, .redisPassword, .redisPort, .topologyFile]

/-- Five seconds, as a number of double precision. -/
def fiveSeconds : Number.Binary64 := .ofInt 5

/-- The value of a setting that nobody sets. -/
def initial : Setting → Value
  | .suffix => .text ""
  | .broadcastAddress => .text "127.0.0.1:7000"
  | .metadataTimeout => .float fiveSeconds
  | .redisEnabled => .bool true
  | .redisHost => .text "localhost"
  | .redisPort => .int 6379
  | .redisPassword => .null
  | .redisDatabase => .int 0
  | .redisNamespace => .text "racksentry"
  | .topologyFile => .text "data/topology/peers.json"
  | .logLevel => .text "INFO"
  | .logFile => .null

/-- The rules for the value of a setting, in the order in which they are
checked. -/
def rules : Setting → List Settings.Rule
  | .suffix => [.kinds [.text]]
  | .broadcastAddress => [.kinds [.text], .nonEmpty]
  | .metadataTimeout => [.kinds [.number], .above 0]
  | .redisEnabled => [.kinds [.boolean]]
  | .redisHost => [.kinds [.text]]
  | .redisPort => [.kinds [.integer], .atLeast 1, .atMost 65535]
  | .redisPassword => [.kinds [.text, .null]]
  | .redisDatabase => [.kinds [.integer], .atLeast 0]
  | .redisNamespace => [.kinds [.text], .nonEmpty]
  | .topologyFile => [.kinds [.text, .null]]
  | .logLevel => [.oneOf ["DEBUG", "INFO", "WARNING", "ERROR", "CRITICAL"]]
  | .logFile => [.kinds [.text, .null]]

/-- The key of a setting in a mapping. -/
def key (setting : Setting) : Scalar :=
  .text setting.name

end Setting

namespace Settings

/-- A broken rule: which one, by which value, and under which setting. -/
inductive Violation where
  | notMapping (value : Value)
  | broken (setting : Setting) (rule : Rule) (value : Value)
  deriving Repr

/-- The value that breaks a rule. -/
def Violation.value : Violation → Value
  | .notMapping value => value
  | .broken _ _ value => value

/-- The setting whose value breaks a rule, if it is not the whole that does. -/
def Violation.setting? : Violation → Option Setting
  | .notMapping _ => none
  | .broken setting _ _ => some setting

/-- The text that reports a violation. It shows the value, so there is none if the value
cannot be shown. -/
def Violation.message : Violation → String
  | .notMapping value => "At root: " ++ value.shown ++ " is not of type 'object'"
  | .broken setting rule value => "At " ++ setting.name ++ ": " ++ rule.complaint value

/-- The rules that the value of a setting breaks. -/
def violationsOf (setting : Setting) (value : Value) : List Violation :=
  (setting.rules.filter fun rule => !rule.holds value).map fun rule => .broken setting rule value

/-- What is wrong with entries, in the order of the settings' names. Settings
that are not there and keys that are no settings break nothing. -/
def violations (entries : Entries Scalar Value) : List Violation :=
  Setting.byName.flatMap fun setting =>
    match Entries.get? entries setting.key with
    | some value => violationsOf setting value
    | none => []

/-- What is wrong with a value that is meant to hold settings. -/
def violationsIn : Value → List Violation
  | .map entries => violations entries
  | value => [.notMapping value]

/-- What keeps the violations at one place from being told, if something does. -/
def hiddenAt? (found : List Violation) (place : Option Setting) : Option ShowError :=
  (found.filter fun violation => violation.setting? = place).findSome? fun violation =>
    violation.value.hidden? Value.maxDepth

/-- What keeps violations from being told, if something does. Their texts are made in the
order in which the settings are listed, and only then put in order; so the first value
there counts that cannot be shown. -/
def hidden? (found : List Violation) : Option ShowError :=
  (none :: Setting.all.map some).findSome? (hiddenAt? found)

/-- The texts that report violations. -/
def tell (found : List Violation) : Except ShowError (List String) :=
  match hidden? found with
  | some error => .error error
  | none => .ok (found.map Violation.message)

/-- Checks a value that is meant to hold settings: the texts that report what is wrong
with it. -/
def check (value : Value) : Except ShowError (List String) :=
  tell (violationsIn value)

end Settings

end ClusterTopology
