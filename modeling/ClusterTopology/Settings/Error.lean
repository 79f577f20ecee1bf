import ClusterTopology.Settings.Setting

/-!
# Refused settings

Why settings are refused: what a file holds is no mapping, or entries break
rules. A broken rule is told with the value that breaks it, unless that value
cannot be shown.
-/

namespace ClusterTopology

/-- Refused settings; `file` is the path they come from, if they come from a
file. -/
inductive SettingsError where
  | notMapping (file : String)
  | invalid (file : Option String) (violations : List Settings.Violation)
  /-- A value that breaks a rule cannot be shown. -/
  | unshowable (error : ShowError)
  deriving Repr

/-- The refusal of entries that break rules. -/
def SettingsError.ofViolations (file : Option String) (violations : List Settings.Violation) :
    SettingsError :=
  match Settings.tell violations with
  | .error error => .unshowable error
  | .ok _ => .invalid file violations

/-- The text that reports refused settings; it lists every violation. -/
def SettingsError.message : SettingsError → String
  | .notMapping file => "Configuration in " ++ file ++ " must be a mapping"
  | .invalid file violations =>
    (match file with
      | some path => "Invalid configuration in " ++ path ++ ": "
      | none => "Invalid snitch properties: ") ++
      "; ".intercalate (violations.map Settings.Violation.message)
  | .unshowable error => error.message

end ClusterTopology
