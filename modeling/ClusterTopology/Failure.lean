import ClusterTopology.Files
import ClusterTopology.Json.Error
import ClusterTopology.Metadata.Error
import ClusterTopology.Settings.Error
import ClusterTopology.Settings.Listing
import ClusterTopology.Sources.Error
import ClusterTopology.Text.Utf8
import ClusterTopology.Yaml.Error

/-!
# Failures

Everything that can stop an operation, by cause. Operations that live with some
failures say which by the predicates of this module.
-/

namespace ClusterTopology

/-- A failure that comes from outside the library. Something else may have raised it
for any reason; what matters is its text, and whether it says that a value does not
fit. An interruption of the whole program is no failure. -/
structure ForeignError where
  message : String
  isBadValue : Bool
  deriving DecidableEq, Repr

/-- Why an operation stopped. -/
inductive Failure where
  | address (error : AddressError)
  | unknownAttribute (name : String)
  /-- A value of another kind stands where a record is expected. -/
  | notRecord (kind : String)
  /-- A value of another kind stands where a text is expected; `action` is what was to
  be done with the text. -/
  | notText (kind action : String)
  | json (error : Json.Error)
  | yaml (error : Yaml.Error)
  | undecodable (error : Utf8.Error)
  | file (error : FileError)
  | settings (error : SettingsError)
  | metadata (error : MetadataError)
  | source (error : SourceError)
  /-- Settings are given as a list that does not consist of pairs. -/
  | listing (error : ListingError)
  /-- A log cannot be set up with this level. -/
  | unknownLevel (name : String)
  /-- A log cannot be set up with something that is no level. -/
  | notLevel (shown : String)
  /-- A port has too many digits to be written. -/
  | unwritable
  /-- A failure of a kind that the library does not know. -/
  | foreign (error : ForeignError)
  deriving Repr

namespace Failure

/-- The text that reports a failure. -/
def message : Failure → String
  | .address error => error.message
  | .unknownAttribute name => Text.quoted name ++ " is not a valid ApplicationState"
  | .notRecord kind => "'" ++ kind ++ "' object has no attribute 'get'"
  | .notText kind action => "'" ++ kind ++ "' object has no attribute " ++ Text.quoted action
  | .json error => error.message
  | .yaml error => error.message
  | .undecodable error => error.message
  | .file error => error.message
  | .settings refused => refused.message
  | .metadata missing => missing.message
  | .source error => error.message
  | .listing error => error.message
  | .unknownLevel name => "Unknown level: " ++ Text.quoted name
  | .notLevel shown => "Level not an integer or a valid string: " ++ shown
  | .unwritable => Number.unwritableMessage
  | .foreign error => error.message

/-- Failures that the library itself raises: refused settings, metadata that
cannot be had, unreadable sources. -/
def isOwn : Failure → Bool
  | .settings (.unshowable _) => false
  | .settings _ => true
  | .metadata _ => true
  | .source _ => true
  | _ => false

/-- Failures by a value that does not fit, as against a fault of the system. -/
def isBadValue : Failure → Bool
  | .address _ => true
  | .unknownAttribute _ => true
  | .json (.tooDeep _) => false
  | .json _ => true
  | .yaml error => error.isBadValue
  | .undecodable _ => true
  | .settings (.unshowable error) => error.isBadValue
  | .file .nullInPath => true
  | .listing error => error.isBadValue
  | .unknownLevel _ => true
  | .unwritable => true
  | .foreign error => error.isBadValue
  | _ => false

end Failure

end ClusterTopology
