import ClusterTopology.Failure
import ClusterTopology.Files
import ClusterTopology.Log
import ClusterTopology.Value

/-!
# The world outside

What the library can ask and change: metadata services that reply to requests,
a Redis server with its hashes, the files, and the log. What an operation does
to the world is a list of events, and `World.after` is the world that events
leave behind; only the log and the files change by them.
-/

namespace ClusterTopology

/-- How a request for a document ends. -/
inductive Reply where
  | answer (status : Int) (body : List UInt8)
  | unreachable (reason : String)
  /-- The request fails in a way that the caller does not know. -/
  | failing (error : ForeignError)
  deriving DecidableEq, Repr

/-- A field or a value of a hash: text, or bytes that were not decoded. The two
are never equal. -/
inductive Datum where
  | text (s : String)
  | bytes (data : List UInt8)
  deriving DecidableEq, Repr

/-- A datum as text; bytes are decoded. -/
def Datum.decode : Datum → Except Utf8.Error String
  | .text s => .ok s
  | .bytes data => Utf8.decode data

/-- A Redis server. While `failure` is there every read fails with it, and
`pingFailure` is how the test of a new connection fails. Both are failures that the
Redis library tells as its own; it is assumed that its calls fail in no other way. -/
structure Redis where
  hashes : Entries String (Entries Datum Datum)
  failure : Option String
  pingFailure : Option String
  deriving Repr

namespace Redis

/-- The fields of a hash with their values; a missing hash has none. -/
def hash (redis : Redis) (key : String) : Entries Datum Datum :=
  (Entries.get? redis.hashes key).getD []

/-- The server after a field of a hash was written. -/
def insert (redis : Redis) (key : String) (field value : Datum) : Redis :=
  { redis with
    hashes := Entries.insert redis.hashes key (Entries.insert (redis.hash key) field value) }

/-- The server without a hash. -/
def clear (redis : Redis) (key : String) : Redis :=
  { redis with hashes := redis.hashes.filter fun entry => entry.1 ≠ key }

end Redis

/-- The outside world at a moment. -/
structure World where
  http : String → Reply
  redis : Redis
  files : Files
  log : Option LogSetup
  /-- What log lines give as the time. -/
  time : String

/-- A call that reaches a service. -/
inductive Call where
  | get (url : String) (timeout : Value)
  | close
  | connect (host port password database : Value)
  | ping
  | hashGet (key field : String)
  | hashGetAll (key : String)
  deriving Repr

/-- What an operation leaves behind in the world. -/
inductive Event where
  | log (record : LogRecord)
  | call (call : Call)
  | out (line : String)
  | err (line : String)
  | logSetup (setup : LogSetup)
  | newDirectory (names : List String)
  | newFile (names : List String) (data : List UInt8)
  deriving Repr

namespace World

/-- The files once a record has been written to the log's file, if it has one
and shows the record. -/
def filesAfterRecord (w : World) (record : LogRecord) : Files :=
  match w.log with
  | some setup =>
    match setup.file with
    | some names =>
      if setup.shows record then
        w.files.append names (Utf8.encode (record.line w.time))
      else w.files
    | none => w.files
  | none => w.files

/-- The world after one event. -/
def step (w : World) : Event → World
  | .log record => { w with files := w.filesAfterRecord record }
  | .call _ => w
  | .out _ => w
  | .err _ => w
  | .logSetup setup =>
    { w with
      log := some setup
      files := match setup.file with
        | some names => w.files.append names []
        | none => w.files }
  | .newDirectory names => { w with files := w.files.putDirectory names }
  | .newFile names data => { w with files := w.files.put names data }

/-- The world that events leave behind. -/
def after (w : World) (events : List Event) : World :=
  events.foldl step w

@[simp]
theorem after_nil (w : World) : w.after [] = w := rfl

@[simp]
theorem after_cons (w : World) (event : Event) (events : List Event) :
    w.after (event :: events) = (w.step event).after events := rfl

theorem after_append (w : World) (first second : List Event) :
    w.after (first ++ second) = (w.after first).after second := by
  simp [after, List.foldl_append]

/-- Events change neither the services nor the server. -/
theorem http_step (w : World) (event : Event) : (w.step event).http = w.http := by
  cases event <;> rfl

theorem redis_step (w : World) (event : Event) : (w.step event).redis = w.redis := by
  cases event <;> rfl

@[simp]
theorem http_after (w : World) (events : List Event) : (w.after events).http = w.http := by
  induction events generalizing w with
  | nil => rfl
  | cons event events ih => rw [after_cons, ih, http_step]

@[simp]
theorem redis_after (w : World) (events : List Event) : (w.after events).redis = w.redis := by
  induction events generalizing w with
  | nil => rfl
  | cons event events ih => rw [after_cons, ih, redis_step]

end World

namespace Event

/-- The record of a report. -/
def record? : Event → Option LogRecord
  | .log report => some report
  | _ => none

/-- The call of a call. -/
def call? : Event → Option Call
  | .call made => some made
  | _ => none

/-- The reports among events, in order. -/
def records (events : List Event) : List LogRecord :=
  events.filterMap record?

/-- The calls among events, in order. -/
def calls (events : List Event) : List Call :=
  events.filterMap call?

/-- What events print, in order. -/
def printed (events : List Event) : String :=
  String.join (events.map fun
    | .out line => line
    | _ => "")

/-- What one event shows on the error stream while a log is set up or not. Before
that, warnings and worse are shown as bare messages. -/
def shown (time : String) (log : Option LogSetup) : Event → String
  | .err line => line
  | .log record =>
    match log with
    | some setup => if setup.shows record then record.line time else ""
    | none => if Level.rank .warning ≤ record.level.rank then record.message ++ "\n" else ""
  | _ => ""

/-- What events show on the error stream, in order. -/
def complained (time : String) (log : Option LogSetup) : List Event → String
  | [] => ""
  | .logSetup setup :: rest => complained time (some setup) rest
  | event :: rest => shown time log event ++ complained time log rest

end Event

end ClusterTopology
