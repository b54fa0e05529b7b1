/-
# What a decoding reports

A decoding ends with a record or an error.  On the way it reports events: that a record failed to
decode, and why, or that a client owns a partition.  `Outcome` holds both.  Whether and how the
events are shown is up to who runs the decoding.
-/
import ConsumerOffsets.OffsetCommit
import ConsumerOffsets.Ownership

namespace ConsumerOffsets

open Binary

/-! ## 1. Events -/

/-- What was being decoded, as far as it was known. -/
inductive Subject where
  /-- A record whose kind is not known yet. -/
  | record
  /-- The metadata of a group. -/
  | groupMetadata (group : Option String)
  /-- A committed offset. -/
  | offsetCommit (key : Option OffsetKey)
deriving DecidableEq, Repr

/-- Why it failed. -/
inductive FailureReason where
  /-- The key has a version that stands for no kind of record. -/
  | keyVersion (version : Int)
  /-- The value is missing or too short for a version. -/
  | noValueVersion
  /-- The value has a version that cannot be decoded. -/
  | valueVersion (version : Int)
  /-- Any other error. -/
  | error (e : DecodeError)
deriving DecidableEq, Repr

/-- Something that a decoding reports. -/
inductive Event where
  /-- A record failed to decode. -/
  | failed (subject : Subject) (reason : FailureReason)
  /-- A client owns a partition. -/
  | owned (ownership : PartitionOwnership)
deriving DecidableEq, Repr

/-- Whether the event reports an ownership. -/
def Event.isOwnership : Event → Bool
  | owned _ => true
  | failed _ _ => false

/-- The ownership that the event reports. -/
def Event.ownership? : Event → Option PartitionOwnership
  | owned ownership => some ownership
  | failed _ _ => none

/-! ## 2. Outcomes -/

/-- The events that a decoding reported, in order, and how it ended. -/
structure Outcome (α : Type) where
  events : List Event
  result : Except DecodeError α

namespace Outcome

/-- Ended with a record, with nothing to report. -/
def succeed {α : Type} (a : α) : Outcome α := { events := [], result := .ok a }

/-- Ended with an error that is reported. -/
def fail {α : Type} (subject : Subject) (reason : FailureReason) (e : DecodeError) : Outcome α :=
  { events := [.failed subject reason], result := .error e }

/-- Ended as given, with nothing to report. -/
def silent {α : Type} (result : Except DecodeError α) : Outcome α := { events := [], result }

/-- The same with the record changed. -/
def map {α β : Type} (f : α → β) (outcome : Outcome α) : Outcome β :=
  { events := outcome.events, result := outcome.result.map f }

/-- The ownerships reported, in order. -/
def ownerships {α : Type} (outcome : Outcome α) : List PartitionOwnership :=
  outcome.events.filterMap Event.ownership?

/-- Reports who owns which partition of a group that was decoded whole.  A group that was not
reports nothing of the kind. -/
def reportOwnerships (outcome : Outcome GroupMetadata) : Outcome GroupMetadata :=
  match outcome.result with
  | .ok group => { outcome with events := outcome.events ++ group.ownerships.map .owned }
  | .error _ => outcome

/-- Decodes a value: its version tag, which has to be one of the supported ones, and then the body
that this version has.  Each failure is reported once. -/
def ofValue {α : Type} (subject : Subject) (supported : List Int) (body : Int16 → Decoder α) :
    Option (List UInt8) → Outcome α
  | none => fail subject .noValueVersion (.missingVersion none)
  | some bytes =>
    match Decoder.int16 .version bytes with
    | .error _ => fail subject .noValueVersion (.missingVersion (some bytes.length))
    | .ok (version, rest) =>
      if version.toInt ∉ supported then
        fail subject (.valueVersion version.toInt) (.unsupportedVersion .version version.toInt)
      else
        match body version rest with
        | .ok (a, _) => succeed a
        | .error e => fail subject (.error e) e

end Outcome

end ConsumerOffsets
