/-
# Command line arguments

A command line names the key of a record, may name its value, and may say that the key is a bare
group.  `Invocation.ofArguments` reads it in two passes.  The first looks at each argument by
itself and tells operands from options (`Token.scan`).  The second goes through the tokens from
left to right (`Progress.step`), binds the first operands to key and value, and stops at the first
option that asks for help or is not acceptable.
-/
import ConsumerOffsets.Text.DecimalDigit
import ConsumerOffsets.Text.Quoted

namespace ConsumerOffsets

/-- What a command line asks to have decoded. -/
structure Invocation where
  key : String
  value : Option String
  /-- The key names a group and has no version tag. -/
  bareGroup : Bool
deriving DecidableEq, Repr

/-- The options. -/
inductive Flag where
  | help
  | bareGroup
deriving DecidableEq, Repr

namespace Flag

/-- All options, in the order in which they are listed. -/
def all : List Flag := [help, bareGroup]

/-- The long spelling. -/
def long : Flag → String
  | help => "--help"
  | bareGroup => "--group-metadata"

/-- All spellings. -/
def spellings : Flag → String
  | help => "-h/--help"
  | bareGroup => "--group-metadata"

/-- The options whose long spelling begins with the given text. -/
def abbreviatedBy (text : List Char) : List Flag :=
  all.filter fun flag => text.isPrefixOf flag.long.toList

end Flag

/-- Why arguments are refused. -/
inductive Refusal where
  /-- An abbreviation of more than one option. -/
  | ambiguous (argument : String)
  /-- A text is given to an option that takes none. -/
  | ignoredText (flag : Flag) (text : String)
  | missingKey
  | unrecognized (arguments : List String)
deriving DecidableEq, Repr

/-- What is wrong, in words. -/
def Refusal.text : Refusal → String
  | ambiguous argument =>
    "ambiguous option: " ++ argument ++ " could match " ++ ", ".intercalate (Flag.all.map Flag.long)
  | ignoredText flag text =>
    "argument " ++ flag.spellings ++ ": ignored explicit argument " ++ Text.Quoted.encode text
  | missingKey => "the following arguments are required: key"
  | unrecognized arguments => "unrecognized arguments: " ++ " ".intercalate arguments

/-! ## 1. One argument by itself -/

/-- What an argument is. -/
inductive Token where
  | operand (text : String)
  /-- The mark behind which everything is an operand. -/
  | separator
  | flag (flag : Flag)
  /-- An option with a text that it does not take. -/
  | flagWithText (flag : Flag) (text : String)
  /-- It has the form of an option and is none. -/
  | unknown (text : String)
deriving DecidableEq, Repr

namespace Token

/-- Whether a text is one decimal digit or more. -/
def isNumeral (s : List Char) : Bool := !s.isEmpty && s.all Text.isDecimalDigit

/-- Whether the text behind a minus sign makes a negative number: digits, or digits and a fraction.
A line break at the end does not count. -/
def isNumber (s : List Char) : Bool :=
  let s := if s.getLast? = some '\n' then s.dropLast else s
  let whole := s.takeWhile Text.isDecimalDigit
  match s.dropWhile Text.isDecimalDigit with
  | [] => isNumeral whole
  | '.' :: fraction => isNumeral fraction
  | _ => false

/-- An argument of the form of an option that is none.  One that holds a space is an operand. -/
def ofOther (argument : String) : Token :=
  if argument.toList.contains ' ' then operand argument else unknown argument

/-- What follows the short spelling of help in the same argument, behind an equals sign or directly:
the same option again, any number of times, or a text that it does not take. -/
def ofCluster : List Char → Token
  | [] => flagWithText .help ""
  | 'h' :: rest => if rest.isEmpty then flag .help else ofCluster rest
  | c :: rest => flagWithText .help (String.ofList (c :: rest))

/-- An argument that begins with two minus signs.  The option may be abbreviated, and a text may
follow an equals sign. -/
def ofLong (argument : String) : Except Refusal Token :=
  let name := argument.toList.takeWhile (· ≠ '=')
  match Flag.abbreviatedBy name with
  | [] => .ok (ofOther argument)
  | [meant] =>
    match argument.toList.dropWhile (· ≠ '=') with
    | [] => .ok (flag meant)
    | _ :: text => .ok (flagWithText meant (String.ofList text))
  | _ => .error (.ambiguous argument)

/-- What an argument is that stands before any separator. -/
def ofArgument (argument : String) : Except Refusal Token :=
  match argument.toList with
  | '-' :: '-' :: _ => ofLong argument
  | ['-', 'h'] => .ok (flag .help)
  | '-' :: 'h' :: '=' :: rest => .ok (ofCluster rest)
  | '-' :: 'h' :: rest => .ok (ofCluster rest)
  | '-' :: c :: rest =>
    if isNumber (c :: rest) then .ok (operand argument) else .ok (ofOther argument)
  | _ => .ok (operand argument)

/-- The arguments as tokens. -/
def scan : List String → Except Refusal (List Token)
  | [] => .ok []
  | argument :: rest =>
    if argument = "--" then .ok (separator :: rest.map operand)
    else do
      let token ← ofArgument argument
      let tokens ← scan rest
      return token :: tokens

end Token

/-! ## 2. The arguments from left to right -/

/-- How far the operands are bound. -/
inductive Binding where
  /-- No operand has come yet. -/
  | none
  /-- The key came last, and a value may follow it directly. -/
  | key (key : String)
  /-- The value came last. -/
  | value (key : String) (value : Option String)
  /-- Nothing more can be bound. -/
  | closed (key : String) (value : Option String)
deriving DecidableEq, Repr

/-- No operand can be bound to the value behind an option. -/
def Binding.close : Binding → Binding
  | none => none
  | key k => closed k Option.none
  | value k v => closed k v
  | closed k v => closed k v

/-- What is known of a command line when a part of it has been gone through. -/
structure Progress where
  binding : Binding := .none
  bareGroup : Bool := false
  /-- The arguments that nothing was made of. -/
  leftover : List String := []
deriving DecidableEq, Repr

/-- What ends the reading of a command line early. -/
inductive Interruption where
  | help
  | refused (refusal : Refusal)
deriving DecidableEq, Repr

namespace Progress

/-- Sets an argument aside, behind which nothing can be bound. -/
def setAside (progress : Progress) (argument : String) : Progress :=
  { progress with
    binding := progress.binding.close
    leftover := progress.leftover ++ [argument] }

/-- An operand: the key, the value directly behind it, or one too many.  In the place of the value
a second separator stands for no value. -/
def bindOperand (progress : Progress) (text : String) : Progress :=
  match progress.binding with
  | .none => { progress with binding := .key text }
  | .key k => { progress with binding := .value k (if text = "--" then none else some text) }
  | .value _ _ | .closed _ _ => progress.setAside text

/-- The separator means nothing among the operands that are bound. -/
def passSeparator (progress : Progress) : Progress :=
  match progress.binding with
  | .closed _ _ => progress.setAside "--"
  | _ => progress

/-- The next token. -/
def step (progress : Progress) : Token → Except Interruption Progress
  | .operand text => .ok (progress.bindOperand text)
  | .separator => .ok progress.passSeparator
  | .flag .help => .error .help
  | .flag .bareGroup => .ok { progress with binding := progress.binding.close, bareGroup := true }
  | .flagWithText flag text => .error (.refused (.ignoredText flag text))
  | .unknown text => .ok (progress.setAside text)

/-- What the whole command line asks for. -/
def finish (progress : Progress) : Except Interruption Invocation :=
  let invocation (key : String) (value : Option String) : Except Interruption Invocation :=
    if progress.leftover.isEmpty then .ok { key, value, bareGroup := progress.bareGroup }
    else .error (.refused (.unrecognized progress.leftover))
  match progress.binding with
  | .none => .error (.refused .missingKey)
  | .key k => invocation k none
  | .value k v => invocation k v
  | .closed k v => invocation k v

end Progress

/-- What the arguments ask for. -/
def Invocation.ofArguments (arguments : List String) : Except Interruption Invocation := do
  let tokens ← (Token.scan arguments).mapError .refused
  let progress ← tokens.foldlM Progress.step {}
  progress.finish

end ConsumerOffsets
