/-
# Settings

What the environment decides: how serious a log entry has to be to be shown, how entries are
written, and whether ownerships are reported.  Letter case means nothing in any of the settings;
blanks do.  A variable that is set to nothing is set.
-/
import ConsumerOffsets.Log
import ConsumerOffsets.Text.Case

namespace ConsumerOffsets

/-- An environment: the value of each variable that is set. -/
abbrev Environment := String → Option String

/-- What the environment decides. -/
structure Settings where
  /-- The name of the log level, in small letters.  It may name none. -/
  logLevel : String
  logFormat : LogFormat
  reportOwnership : Bool
deriving DecidableEq, Repr

/-- Why an environment is refused. -/
inductive SettingsError where
  | unsupportedFormat (name : String)
  | unsupportedLevel (name : String)
deriving DecidableEq, Repr

/-- What is wrong, in words. -/
def SettingsError.text : SettingsError → String
  | unsupportedFormat name => s!"Unsupported log format: {name}"
  | unsupportedLevel name => s!"Unsupported log level: {name}"

namespace Settings

/-- The variable that names the log level. -/
def levelVariable : String := "GROUPMETA_LOG_LEVEL"

/-- The variable that names the log format. -/
def formatVariable : String := "GROUPMETA_LOG_FORMAT"

/-- The variable that says whether ownerships are reported. -/
def ownershipVariable : String := "GROUPMETA_REPORT_OWNERSHIP"

/-- The names of the variables that decide anything. -/
def names : List String := [levelVariable, formatVariable, ownershipVariable]

/-- The value of a variable in small letters, or the given one if it is not set. -/
def setting (env : Environment) (name default : String) : String :=
  Text.lower ((env name).getD default)

/-- The name of the log format. -/
def formatName (env : Environment) : String := setting env formatVariable "console"

/-- The settings that an environment holds. -/
def load (env : Environment) : Except SettingsError Settings :=
  match LogFormat.ofName? (formatName env) with
  | none => .error (.unsupportedFormat (formatName env))
  | some logFormat =>
    .ok
      { logLevel := setting env levelVariable "info"
        logFormat
        reportOwnership := setting env ownershipVariable "true" = "true" }

/-- The log level that the settings name. -/
def level (settings : Settings) : Except SettingsError LogLevel :=
  match (Text.upperAscii? settings.logLevel).bind LogLevel.ofName? with
  | some level => .ok level
  | none => .error (.unsupportedLevel settings.logLevel)

/-- How the log is set up. -/
def logSetup (settings : Settings) : Except SettingsError LogSetup := do
  return { level := ← settings.level, format := settings.logFormat }

end Settings

end ConsumerOffsets
