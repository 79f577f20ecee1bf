import ClusterTopology.Settings.Setting

/-!
# Sets of settings

Entries over the initial values that break no rule. Keys that are no settings
are kept as they are.
-/

namespace ClusterTopology

namespace Settings

/-- The initial values of all settings. -/
def initial : Entries Scalar Value :=
  Setting.all.map fun setting => (setting.key, setting.initial)

/-- Entries written over the initial values. -/
def merge (entries : Entries Scalar Value) : Entries Scalar Value :=
  Entries.update initial entries

end Settings

/-- Entries that break no rule. -/
structure Settings where
  entries : Entries Scalar Value
  sound : Settings.violations entries = []

namespace Settings

/-- The settings that entries make, or what is wrong with them. -/
def ofEntries (entries : Entries Scalar Value) : Except (List Violation) Settings :=
  match sound : violations entries with
  | [] => .ok ⟨entries, sound⟩
  | found => .error found

theorem violations_initial : violations initial = [] := by decide

/-- The settings of a node that configures nothing. -/
def default : Settings := ⟨initial, violations_initial⟩

instance : Inhabited Settings := ⟨default⟩

/-- The value under a key; without one, or with null, the given value. -/
def getKey (settings : Settings) (key : Scalar) (otherwise : Value) : Value :=
  match Entries.get? settings.entries key with
  | none => otherwise
  | some .null => otherwise
  | some value => value

/-- The value of a setting; without one, or with null, the given value. -/
def get (settings : Settings) (setting : Setting) (otherwise : Value) : Value :=
  settings.getKey setting.key otherwise

/-- The value of a setting as a text; other values count as missing. -/
def text? (settings : Settings) (setting : Setting) : Option String :=
  match settings.get setting .null with
  | .text s => some s
  | _ => none

/-- The settings as one value. -/
def toValue (settings : Settings) : Value :=
  .map settings.entries

end Settings

end ClusterTopology
