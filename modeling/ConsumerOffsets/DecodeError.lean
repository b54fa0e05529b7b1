/-
# Why a record cannot be decoded

One constructor a cause.  Each error has a field (`DecodeError.field`), a message without the
field (`DecodeError.message`), the full text that logs and the command line show
(`DecodeError.text`), and, where it stands for another error, that error (`DecodeError.cause`).
Those that are about too few bytes have the numbers too (`DecodeError.shortfall`).
-/
import ConsumerOffsets.FieldPath

namespace ConsumerOffsets

/-- The causes for which a record, or a part of one, cannot be decoded. -/
inductive DecodeError where
  /-- More bytes are needed than remain.  `available` is negative when the reading starts beyond
  the end of the data. -/
  | truncated (field : FieldPath) (needed : Nat) (available : Int)
  /-- The value is too short to hold a version: it has `present` bytes, or there is none. -/
  | missingVersion (present : Option Nat)
  /-- A length or a size is negative. -/
  | negativeLength (field : FieldPath) (length : Int)
  /-- A count of list elements is negative. -/
  | negativeCount (field : FieldPath) (count : Int)
  /-- A count of list elements is larger than the remaining bytes can hold. -/
  | excessiveCount (field : FieldPath) (count : Int) (remaining : Int)
  /-- The version tag of an assignment is negative. -/
  | invalidAssignmentVersion (field : FieldPath) (version : Int)
  /-- A key or a value has a version that this decoder does not know. -/
  | unsupportedVersion (field : FieldPath) (version : Int)
  /-- The assignment of a member cannot be decoded, for the given cause. -/
  | assignmentFailed (field : FieldPath) (cause : DecodeError)
  /-- The key is absent. -/
  | missingKey (field : FieldPath)
  /-- The key cannot be decoded, for the given cause. -/
  | invalidKey (cause : DecodeError)
deriving DecidableEq, Repr

namespace DecodeError

/-- The field at fault.  An undecodable key is at fault where its cause is. -/
def field : DecodeError → FieldPath
  | truncated field _ _ => field
  | missingVersion _ => .version
  | negativeLength field _ => field
  | negativeCount field _ => field
  | excessiveCount field _ _ => field
  | invalidAssignmentVersion field _ => field
  | unsupportedVersion field _ => field
  | assignmentFailed field _ => field
  | missingKey field => field
  | invalidKey cause => cause.field

/-- The size in bytes of a version tag. -/
def versionSize : Nat := 2

/-- The sentence about a read that found too few bytes. -/
def shortage (needed : Nat) (available : Int) : String :=
  s!"needed {needed} bytes but only {available} remain"

/-- How many bytes were needed and how many there were, where that is what is wrong. -/
def shortfall : DecodeError → Option (Nat × Int)
  | truncated _ needed available => some (needed, available)
  | missingVersion present => some (versionSize, present.getD 0)
  | _ => none

/-- What is wrong, without the field. -/
def message : DecodeError → String
  | truncated _ needed available => shortage needed available
  | missingVersion present => shortage versionSize (present.getD 0)
  | negativeLength _ length => s!"invalid length {length}"
  | negativeCount _ count => s!"negative count ({count})"
  | excessiveCount _ count remaining =>
    s!"count exceeds the {remaining} remaining bytes ({count})"
  | invalidAssignmentVersion _ version => s!"invalid assignment version {version}"
  | unsupportedVersion _ version => s!"version {version} is not supported"
  | assignmentFailed _ cause =>
    "assignment could not be decoded (" ++ (cause.field.render ++ ": " ++ cause.message) ++ ")"
  | missingKey _ => "invalid key (key is missing)"
  | invalidKey cause => "invalid key (" ++ (cause.field.render ++ ": " ++ cause.message) ++ ")"

/-- The full text: the path of the field, a colon, the message. -/
def text (e : DecodeError) : String := e.field.render ++ ": " ++ e.message

/-- The error that this one stands for.  A value too short for its version was truncated. -/
def cause : DecodeError → Option DecodeError
  | missingVersion (some present) => some (truncated .version versionSize present)
  | assignmentFailed _ cause => some cause
  | invalidKey cause => some cause
  | _ => none

/-- The same failure met `extra` bytes beyond the end of the data: a truncated read finds that
many bytes fewer. -/
def beyondEnd (extra : Nat) : DecodeError → DecodeError
  | truncated field needed available => truncated field needed (available - extra)
  | e => e

@[simp] theorem beyondEnd_zero (e : DecodeError) : e.beyondEnd 0 = e := by
  cases e <;> simp [beyondEnd]

@[simp] theorem field_beyondEnd (extra : Nat) (e : DecodeError) :
    (e.beyondEnd extra).field = e.field := by
  cases e <;> rfl

example : (assignmentFailed (.root "m") (negativeCount ((FieldPath.root "m").child "n") (-1))).text
    = "m: assignment could not be decoded (m.n: negative count (-1))" := by decide

end DecodeError

end ConsumerOffsets
