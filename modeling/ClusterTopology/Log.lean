/-!
# Log records

What the library reports while it works: a record names who reports, how
severe it is, and the message. A threshold decides which records are shown.
-/

namespace ClusterTopology

/-- How severe a report is. -/
inductive Level where
  | debug
  | info
  | warning
  | error
  | critical
  deriving DecidableEq, Repr

namespace Level

/-- The number that a level is compared by. -/
def rank : Level → Nat
  | .debug => 10
  | .info => 20
  | .warning => 30
  | .error => 40
  | .critical => 50

/-- The name that a level is shown under. -/
def name : Level → String
  | .debug => "DEBUG"
  | .info => "INFO"
  | .warning => "WARNING"
  | .error => "ERROR"
  | .critical => "CRITICAL"

/-- The level that is shown under a name. -/
def ofName? (name : String) : Option Level :=
  [debug, info, warning, error, critical].find? fun level => level.name = name

@[simp]
theorem ofName?_name (level : Level) : ofName? level.name = some level := by
  cases level <;> decide

end Level

/-- One report. -/
structure LogRecord where
  logger : String
  level : Level
  message : String
  deriving DecidableEq, Repr

/-- The line that shows a record with the time it was made at. -/
def LogRecord.line (record : LogRecord) (time : String) : String :=
  time ++ " - " ++ record.logger ++ " - " ++ record.level.name ++ " - " ++ record.message ++ "\n"

/-- Which records are shown once a log is set up, and the file that they are
also written to. -/
structure LogSetup where
  threshold : Nat
  file : Option (List String)
  deriving DecidableEq, Repr

/-- Whether a record is severe enough to be shown. -/
def LogSetup.shows (setup : LogSetup) (record : LogRecord) : Bool :=
  setup.threshold ≤ record.level.rank

namespace Threshold

/-- The capitals of an ASCII letter, and of the other letters and ligatures that have
ASCII capitals. -/
def capital (c : Char) : List Char :=
  match c with
  | 'ß' => ['S', 'S']
  | 'ı' => ['I']
  | 'ſ' => ['S']
  | 'ﬀ' => ['F', 'F']
  | 'ﬁ' => ['F', 'I']
  | 'ﬂ' => ['F', 'L']
  | 'ﬃ' => ['F', 'F', 'I']
  | 'ﬄ' => ['F', 'F', 'L']
  | 'ﬅ' => ['S', 'T']
  | 'ﬆ' => ['S', 'T']
  | c => [c.toUpper]

/-- A name in capitals. -/
def capitals (name : String) : String :=
  String.ofList (name.toList.flatMap capital)

/-- The thresholds by name. A name that is not listed stands for `INFO`. -/
def named (name : String) : Nat :=
  match capitals name with
  | "DEBUG" => 10
  | "INFO" => 20
  | "WARN" => 30
  | "WARNING" => 30
  | "ERROR" => 40
  | "CRITICAL" => 50
  | "FATAL" => 50
  | "NOTSET" => 0
  | _ => 20

end Threshold

end ClusterTopology
