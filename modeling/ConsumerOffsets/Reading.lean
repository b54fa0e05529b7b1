/-
# Reading values at a cursor

The values of the offsets topic, and the parts of them, read by position.  The region of a member's
assignment is carved out, and read from a cursor of its own.
-/
import ConsumerOffsets.Binary.Reader
import ConsumerOffsets.Event

namespace ConsumerOffsets

open Binary

namespace Assignment

/-- One topic with its partitions. -/
def readTopic (field : FieldPath) : Reader TopicPartitions := do
  let topic ← Reader.string (field.child "name")
  let count ← Reader.boundedCount partitionSize (field.child "partition_count")
  let partitions ← Reader.list count fun j => Reader.int32 ((field.child "partitions").item j)
  return { topic, partitions }

/-- The body of an assignment: everything behind its version tag. -/
def read (field : FieldPath) : Reader Assignment := do
  let count ← Reader.boundedCount minTopicSize (field.child "topic_count")
  let entries ← Reader.list count fun i => readTopic ((field.child "topics").item i)
  Reader.skipRegion (field.child "user_data")
  return ofList entries

/-- The assignment in the region that a member has for it.  If bytes remain in the region, a version
tag comes first; what follows the body is not looked at. -/
def readRegion (member : FieldPath) (region : Cursor) : Except DecodeError Assignment :=
  if 0 < region.remaining then
    let versionField := member.child "consumer_protocol_version"
    match Reader.int .two versionField region with
    | .error e => .error e
    | .ok (version, body) =>
      if version < 0 then .error (.invalidAssignmentVersion versionField version)
      else
        match read (member.child "assignment") body with
        | .ok (assignment, _) => .ok assignment
        | .error e => .error (.assignmentFailed (member.child "assignment") e)
  else .ok []

end Assignment

/-- One member.  The metadata of its subscription is passed over. -/
def GroupMember.read (version : Int) (field : FieldPath) : Reader GroupMember := do
  let memberId ← Reader.string (field.child "member_id")
  let clientId ← Reader.string (field.child "client_id")
  let clientHost ← Reader.string (field.child "client_host")
  let rebalanceTimeout ←
    Reader.optional (version = 1) (Reader.int32 (field.child "rebalance_timeout"))
  let sessionTimeout ← Reader.int32 (field.child "session_timeout")
  let _subscription ← Reader.region (field.child "subscription_bytes")
  let region ← Reader.region (field.child "assignment_bytes")
  let assignment ← Assignment.readRegion field region
  return { memberId, clientId, clientHost, sessionTimeout, rebalanceTimeout, assignment }

/-- The header of a group. -/
def GroupHeader.read : Reader GroupHeader := do
  let protocolType ← Reader.string (.root "protocol_type")
  let generation ← Reader.int32 (.root "generation")
  let protocol ← Reader.string (.root "protocol")
  let leader ← Reader.string (.root "leader")
  return { protocolType, generation, protocol, leader }

namespace GroupMetadata

/-- The body of a value: everything behind its version tag. -/
def readBody (version : Int) (groupId : String) : Reader GroupMetadata := do
  let header ← GroupHeader.read
  let count ← Reader.count (.root "member_count")
  let members ← Reader.list count fun i => GroupMember.read version (FieldPath.members.item i)
  return { groupId, version := Int16.ofInt version, header, members }

/-- The body of a value of the given version, if that is a supported one. -/
def read (version : Int) (groupId : String) : Reader GroupMetadata := do
  if version ∉ supportedVersions then throw (.unsupportedVersion .version version)
  readBody version groupId

/-- Reads the body at a cursor and reports who owns what, once every member is read. -/
def readObserved (version : Int) (groupId : String) (c : Cursor) : Outcome GroupMetadata :=
  (Outcome.silent ((read version groupId c).map Prod.fst)).reportOwnerships

end GroupMetadata

/-- The fields of a value of the given version. -/
def OffsetValue.read (version : Int) : Reader OffsetValue := do
  let offset ← Reader.int64 (.root "offset")
  let leaderEpoch ← Reader.optional (3 ≤ version) (Reader.int32 (.root "leader_epoch"))
  let metadata ← Reader.string (.root "metadata")
  let commitTimestamp ← Reader.int64 (.root "commit_timestamp")
  let expireTimestamp ← Reader.optional (version = 1) (Reader.int64 (.root "expire_timestamp"))
  return { offset, leaderEpoch, metadata, commitTimestamp, expireTimestamp }

/-- The body of a value of any version.  The version is cast to two bytes last, once all fields are
read, and the cast may refuse it. -/
def OffsetCommit.readAt {ε : Type} (cast : Int → Except ε Int16) (key : OffsetKey) (version : Int) :
    Reader (Except ε OffsetCommit) := do
  let value ← OffsetValue.read version
  return (cast version).map fun version => { value with key, version }

end ConsumerOffsets
