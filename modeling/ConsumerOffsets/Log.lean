/-
# The log

What a log entry holds, how the events of a decoding become entries, and how entries become lines.
The lines are written by a library (`Logger`): it decides which entries a level lets through and what
a line looks like in each format.  What an entry is made of before it is written is decided here.
-/
import ConsumerOffsets.RecordJson

namespace ConsumerOffsets

/-! ## 1. Entries -/

/-- How serious a log entry is. -/
inductive Severity where
  | debug
  | info
  | warning
  | error
  | critical
deriving DecidableEq, Repr

namespace Severity

/-- The place in the order of severities.  Between two neighbours lies ten. -/
def rank : Severity → Nat
  | debug => 10
  | info => 20
  | warning => 30
  | error => 40
  | critical => 50

/-- The name that entries are marked with. -/
def name : Severity → String
  | debug => "debug"
  | info => "info"
  | warning => "warning"
  | error => "error"
  | critical => "critical"

end Severity

/-- A log entry: what happened, and with what. -/
structure LogEntry where
  severity : Severity
  event : String
  fields : List (String × Json)

/-- What is told of an entry that is written at the given time.  The event, the severity and the time
are told under names of their own, which no field can take from them. -/
def LogEntry.members (time : String) (entry : LogEntry) : List (String × Json) :=
  Json.setMember "timestamp" (.str time)
    (Json.setMember "level" (.str entry.severity.name)
      (Json.setMember "event" (.str entry.event) entry.fields))

/-! ## 2. Levels and formats -/

/-- The least rank that a log lets through. -/
structure LogLevel where
  rank : Nat
deriving DecidableEq, Repr

namespace LogLevel

/-- The levels by name.  Two of them have two names, and one lets everything through. -/
def byName : List (String × LogLevel) :=
  [("CRITICAL", ⟨50⟩), ("FATAL", ⟨50⟩), ("ERROR", ⟨40⟩), ("WARN", ⟨30⟩), ("WARNING", ⟨30⟩),
    ("INFO", ⟨20⟩), ("DEBUG", ⟨10⟩), ("NOTSET", ⟨0⟩)]

/-- The level of a name in capital letters. -/
def ofName? (name : String) : Option LogLevel := byName.lookup name

end LogLevel

/-- How log entries are written. -/
inductive LogFormat where
  /-- For people. -/
  | console
  /-- One JSON object a line. -/
  | json
deriving DecidableEq, Repr

/-- The name of a format. -/
def LogFormat.name : LogFormat → String
  | console => "console"
  | json => "json"

/-- The format of a name in small letters. -/
def LogFormat.ofName? (name : String) : Option LogFormat :=
  if name = "console" then some .console else if name = "json" then some .json else none

/-- How a log is set up. -/
structure LogSetup where
  level : LogLevel
  format : LogFormat
deriving DecidableEq, Repr

/-! ## 3. Lines -/

/-- The library that writes the log: which entries a level lets through, and the line for what is told
of an entry. -/
structure Logger where
  passes : LogLevel → Severity → Bool
  render : LogFormat → List (String × Json) → String

namespace Logger

/-- The entries that pass, in order. -/
def filter (logger : Logger) (level : LogLevel) (entries : List LogEntry) : List LogEntry :=
  entries.filter fun entry => logger.passes level entry.severity

/-- The lines that are written for a log, each at the time that the clock shows for it. -/
def lines (logger : Logger) (setup : LogSetup) (clock : Nat → String) (entries : List LogEntry) :
    List String :=
  (logger.filter setup.level entries).mapIdx fun n entry =>
    logger.render setup.format (entry.members (clock n))

/-- A logger to run with.  Its lines for people are the names and values that are told, one behind the
other. -/
def plain : Logger where
  passes level severity := level.rank ≤ severity.rank
  render
    | .json, members => (Json.obj members).compact
    | .console, members =>
      " ".intercalate (members.map fun (name, value) => name ++ "=" ++ value.compact)

end Logger

/-! ## 4. Events as entries -/

/-- What an entry tells of the record that failed. -/
def Subject.fields : Subject → List (String × Json)
  | record => []
  | groupMetadata none => [("message_type", .str "metadata")]
  | groupMetadata (some group) => [("message_type", .str "metadata"), ("group", .str group)]
  | offsetCommit none => [("message_type", .str "offset")]
  | offsetCommit (some key) =>
    [("message_type", .str "offset"),
      ("group", .str key.groupId),
      ("topic", .str key.topic),
      ("partition", .int key.partition.toInt)]

/-- What an entry tells of the reason. -/
def FailureReason.fields : FailureReason → List (String × Json)
  | keyVersion version => [("reason", .str "key version"), ("version", .int version)]
  | noValueVersion => [("reason", .str "no value version")]
  | valueVersion version => [("reason", .str "value version"), ("version", .int version)]
  | error e => [("reason", .str e.field.render), ("error", .str e.text)]

/-- The entry that reports an ownership. -/
def PartitionOwnership.toLogEntry (o : PartitionOwnership) : LogEntry where
  severity := .info
  event := "got group metadata"
  fields :=
    [("group", .str o.groupId),
      ("topic", .str o.topic),
      ("partition", .int o.partition.toInt),
      ("owner", .str o.clientHost),
      ("client_id", .str o.clientId)]

/-- The entry for an event.  Failures are warnings, ownerships are information. -/
def Event.toLogEntry : Event → LogEntry
  | failed subject reason =>
    { severity := .warning
      event := "failed to decode"
      fields := subject.fields ++ reason.fields }
  | owned ownership => ownership.toLogEntry

/-- The events that are shown: all, or all but the ownerships. -/
def Event.shown (reportOwnership : Bool) (events : List Event) : List Event :=
  if reportOwnership then events else events.filter fun event => !event.isOwnership

end ConsumerOffsets
