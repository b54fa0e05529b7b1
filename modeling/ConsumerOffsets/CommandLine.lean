/-
# The command line

`CommandLine.run` turns arguments and an environment into a report: what is printed, what is
logged, and the exit code.  Arguments are looked at first, then the environment, then the texts of
key and value, then the record.  Help and usage are laid out for the columns of the terminal, and the
log of a report is written by a logger, with the times at which it writes.
-/
import ConsumerOffsets.Settings
import ConsumerOffsets.Text.Hex
import ConsumerOffsets.Usage

namespace ConsumerOffsets.CommandLine

/-! ## 1. Decoding what the arguments name -/

/-- The record in the texts of key and value.  A missing value is a missing value, not an empty
one. -/
def readRecord (invocation : Invocation) : Except Text.Hex.Error StoredRecord := do
  let key ← Text.Hex.decode invocation.key
  let value ← invocation.value.mapM Text.Hex.decode
  return { key := some key, value, bareGroup := invocation.bareGroup }

/-- The entry for a text that is no bytes. -/
def badHexEntry (e : Text.Hex.Error) : LogEntry where
  severity := .error
  event := "invalid hex input"
  fields := [("error", .str e.text)]

/-- The entry for a record that failed to decode, in addition to those of the decoding. -/
def undecodableEntry (e : DecodeError) : LogEntry where
  severity := .error
  event := "record could not be decoded"
  fields := [("field", .str e.field.render), ("error", .str e.text)]

/-- How a run ends: its exit code, what it prints, and all that it has to log. -/
structure Ending where
  exitCode : Nat
  output : String
  log : List LogEntry

/-- Decodes what the arguments name. -/
def execute (reportOwnership : Bool) (invocation : Invocation) : Ending :=
  match readRecord invocation with
  | .error e => { exitCode := 2, output := "", log := [badHexEntry e] }
  | .ok stored =>
    let outcome := stored.decode
    let log := (Event.shown reportOwnership outcome.events).map Event.toLogEntry
    match outcome.result with
    | .error e => { exitCode := 1, output := "", log := log ++ [undecodableEntry e] }
    | .ok record => { exitCode := 0, output := record.toJson.pretty ++ "\n", log }

/-! ## 2. A whole run -/

/-- What a run prints, logs and returns. -/
structure Report where
  exitCode : Nat
  output : String
  /-- What is shown about refused arguments. -/
  refusal : Option String := none
  /-- All that is logged, whether or not the log level lets it through. -/
  log : List LogEntry := []
  /-- How the log is set up.  It is not, unless there is something to decode. -/
  setup : Option LogSetup := none

/-- The lines that are written for the log. -/
def Report.lines (logger : Logger) (clock : Nat → String) (report : Report) : List String :=
  match report.setup with
  | none => []
  | some setup => logger.lines setup clock report.log

/-- Runs the program.  The environment is not looked at unless there is something to decode. -/
def run (columns : Nat) (env : Environment) (arguments : List String) :
    Except SettingsError Report :=
  match Invocation.ofArguments arguments with
  | .error .help => .ok { exitCode := 0, output := help columns }
  | .error (.refused refusal) =>
    .ok { exitCode := 2, output := "", refusal := some (refusalText columns refusal) }
  | .ok invocation => do
    let settings ← Settings.load env
    let setup ← settings.logSetup
    let ending := execute settings.reportOwnership invocation
    return {
      exitCode := ending.exitCode
      output := ending.output
      log := ending.log
      setup := some setup }

end ConsumerOffsets.CommandLine
