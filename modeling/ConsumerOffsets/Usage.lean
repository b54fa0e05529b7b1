/-
# Usage and help

The texts that say how the program is called.  They are laid out for a terminal of a number of
columns, of which the last two are left free.
-/
import ConsumerOffsets.Arguments
import ConsumerOffsets.Text.Wrap

namespace ConsumerOffsets.CommandLine

open Text (unlines wrap wrapParts)

/-! ## 1. What there is to say -/

/-- The name of the program. -/
def program : String := "groupmeta"

/-- What the program does. -/
def description : String := "Decode a record of the __consumer_offsets topic."

/-- How the options are given. -/
def optionParts : List String := ["[-h]", "[--group-metadata]"]

/-- How the operands are given. -/
def operandParts : List String := ["key", "[value]"]

/-- The operands, each with what it is. -/
def operandHelp : List (String × String) :=
  [("key", "record key, hex encoded"),
    ("value", "record value, hex encoded; omit for a tombstone")]

/-- The options, each with what it does. -/
def optionHelp : List (String × String) :=
  [("-h, --help", "show this help message and exit"),
    ("--group-metadata", "the key is a bare group id without the key version prefix")]

/-! ## 2. Layout -/

/-- Blanks in front of a line. -/
def margin (size : Nat) : List Char := List.replicate size ' '

/-- How many characters of a line are used. -/
def textWidth (columns : Nat) : Nat := columns - 2

/-- What the usage begins with. -/
def usageFront : List Char := "usage: ".toList

/-- The lines of the usage.  If they are more than one, the operands begin in a new line; and where
the name of the program takes more than three quarters of the width, so do the options. -/
def usageLines (width : Nat) : List (List Char) :=
  let options := optionParts.map String.toList
  let operands := operandParts.map String.toList
  let front := usageFront ++ program.toList
  let whole := front ++ (options ++ operands).flatMap (' ' :: ·)
  if whole.length ≤ width then [whole]
  else if 4 * front.length ≤ 3 * width then
    let behind := margin (front.length + 1)
    wrapParts width usageFront behind (program.toList :: options)
      ++ wrapParts width behind behind operands
  else
    let behind := margin usageFront.length
    let together := wrapParts width behind behind (options ++ operands)
    front ::
      if together.length ≤ 1 then together
      else wrapParts width behind behind options ++ wrapParts width behind behind operands

/-- The column in which explanations begin: behind the longest name, if there is room. -/
def helpColumn (width : Nat) : Nat :=
  let names := (operandHelp ++ optionHelp).map fun (name, _) => name.length + 4
  min (names.foldl max 0) (min 24 (max (width - 20) 4))

/-- The lines of a name and its explanation.  They share a line if the name leaves room. -/
def helpLines (width : Nat) (name text : String) : List (List Char) :=
  let column := helpColumn width
  let named := margin 2 ++ name.toList
  let lines := wrap (max (width - column) 11) text
  if named.length + 2 ≤ column then
    match lines with
    | [] => [named]
    | first :: rest =>
      (named ++ margin (column - named.length) ++ first) :: rest.map (margin column ++ ·)
  else named :: lines.map (margin column ++ ·)

/-- The lines of several names, each with its explanation. -/
def rows (width : Nat) (explained : List (String × String)) : List (List Char) :=
  explained.flatMap fun (name, text) => helpLines width name text

/-- The line that says how to call the program, or the lines. -/
def usage (columns : Nat) : String := unlines (usageLines (textWidth columns))

/-- The help text. -/
def help (columns : Nat) : String :=
  let width := textWidth columns
  unlines (usageLines width ++ [[]] ++ wrap (max width 11) description ++ [[]]
    ++ "positional arguments:".toList :: rows width operandHelp ++ [[]]
    ++ "options:".toList :: rows width optionHelp)

/-- What is shown for refused arguments. -/
def refusalText (columns : Nat) (refusal : Refusal) : String :=
  usage columns ++ program ++ ": error: " ++ refusal.text ++ "\n"

example : usage 80 = "usage: groupmeta [-h] [--group-metadata] key [value]\n" := by decide +kernel

end ConsumerOffsets.CommandLine
