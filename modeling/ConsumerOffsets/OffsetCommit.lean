/-
# Offset commits

The position that a group has reached in one partition of a topic.  The key names group, topic and
partition; the value holds the offset and, depending on its version, what else was committed with
it.
-/
import ConsumerOffsets.Binary.Decoder

namespace ConsumerOffsets

open Binary

/-- The partition of a topic for which a group commits offsets. -/
structure OffsetKey where
  groupId : String
  topic : String
  partition : Int32
deriving DecidableEq, Repr

/-- What is committed. -/
structure OffsetValue where
  offset : Int64
  /-- The epoch of the partition's leader, from version 3 on. -/
  leaderEpoch : Option Int32 := none
  metadata : String
  commitTimestamp : Int64
  /-- When the commit expires, in version 1 only. -/
  expireTimestamp : Option Int64 := none
deriving DecidableEq, Repr

/-- A committed offset. -/
structure OffsetCommit extends OffsetValue where
  key : OffsetKey
  version : Int16
deriving DecidableEq, Repr

namespace OffsetKey

/-- The fields of a key behind its version tag. -/
def decodeBody : Decoder OffsetKey := do
  let groupId ← Decoder.string .keyGroup
  let topic ← Decoder.string .keyTopic
  let partition ← Decoder.int32 .keyPartition
  return { groupId, topic, partition }

/-- The key in the bytes behind the version tag.  What follows it is not looked at. -/
def decode : Option (List UInt8) → Except DecodeError OffsetKey
  | none => .error (.missingKey .key)
  | some bytes =>
    match decodeBody bytes with
    | .ok (key, _) => .ok key
    | .error e => .error (.invalidKey e)

end OffsetKey

/-- The fields of a value of the given version. -/
def OffsetValue.decode (version : Int) : Decoder OffsetValue := do
  let offset ← Decoder.int64 (.root "offset")
  let leaderEpoch ← Decoder.optional (3 ≤ version) (Decoder.int32 (.root "leader_epoch"))
  let metadata ← Decoder.string (.root "metadata")
  let commitTimestamp ← Decoder.int64 (.root "commit_timestamp")
  let expireTimestamp ←
    Decoder.optional (version = 1) (Decoder.int64 (.root "expire_timestamp"))
  return { offset, leaderEpoch, metadata, commitTimestamp, expireTimestamp }

namespace OffsetCommit

/-- The versions of a value that can be decoded. -/
def supportedVersions : List Int := [0, 1, 2, 3]

/-- The body of a value: everything behind its version tag. -/
def decode (key : OffsetKey) (version : Int16) : Decoder OffsetCommit := do
  let value ← OffsetValue.decode version.toInt
  return { value with key, version }

/-- The body of a value of any version.  The version is cast to two bytes last, once all fields are
decoded, and the cast may refuse it. -/
def decodeAt {ε : Type} (cast : Int → Except ε Int16) (key : OffsetKey) (version : Int) :
    Decoder (Except ε OffsetCommit) := do
  let value ← OffsetValue.decode version
  return (cast version).map fun version => { value with key, version }

end OffsetCommit

end ConsumerOffsets
