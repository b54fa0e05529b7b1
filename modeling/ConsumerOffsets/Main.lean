/-
# The program

Takes arguments, environment, time and the width of the terminal from the system, prints what the run
reports, and returns its exit code.  Decoded records go to standard output and everything else to
standard error, so the output can be read by another program.
-/
import Mathlib.Tactic.DeprecateTo
import ConsumerOffsets.CommandLine

namespace ConsumerOffsets

/-- The columns of the terminal, where they are told. -/
def columnsOf (value : Option String) : Nat :=
  match value.bind String.toNat? with
  | some (columns + 1) => columns + 1
  | _ => 80

/-- The time, as log entries tell it. -/
def timestamp : IO String := do
  let now := Std.Time.DateTime.ofTimestampWithZone (← Std.Time.Timestamp.now) .UTC
  return now.format "uuuu-MM-dd'T'HH:mm:ss.SSSSSS'Z'"

end ConsumerOffsets

open ConsumerOffsets in
/-- Runs the program on the arguments. -/
def main (arguments : List String) : IO UInt32 := do
  let values ← Settings.names.mapM fun name => return (name, ← IO.getEnv name)
  let env : Environment := fun name => (values.lookup name).join
  let columns := columnsOf (← IO.getEnv "COLUMNS")
  match CommandLine.run columns env arguments with
  | .error e =>
    IO.eprintln e.text
    return 1
  | .ok report =>
    let now ← timestamp
    for line in report.lines Logger.plain (fun _ => now) do IO.eprintln line
    if let some refusal := report.refusal then IO.eprint refusal
    IO.print report.output
    return UInt32.ofNat report.exitCode
