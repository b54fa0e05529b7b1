/-
# Records as JSON

The JSON object of a record: its fields under their names, and the kind of the record as `type`.
The assignment of a member is an object with a member for each topic.
-/
import ConsumerOffsets.Json
import ConsumerOffsets.Record

namespace ConsumerOffsets

/-- Each topic with its partitions. -/
def Assignment.toJson (assignment : Assignment) : Json :=
  .obj (assignment.map fun entry =>
    (entry.topic, .arr (entry.partitions.map fun partition => .int partition.toInt)))

/-- The fields of a member. -/
def GroupMember.toJson (member : GroupMember) : Json :=
  .obj
    [("member_id", .str member.memberId),
      ("client_id", .str member.clientId),
      ("client_host", .str member.clientHost),
      ("session_timeout", .int member.sessionTimeout.toInt),
      ("rebalance_timeout", .ofInt? (member.rebalanceTimeout.map Int32.toInt)),
      ("assignment", member.assignment.toJson)]

/-- The fields of a header. -/
def GroupHeader.toJson (header : GroupHeader) : Json :=
  .obj
    [("protocol_type", .str header.protocolType),
      ("generation", .int header.generation.toInt),
      ("protocol", .str header.protocol),
      ("leader", .str header.leader)]

/-- The fields of an offset key. -/
def OffsetKey.toJson (key : OffsetKey) : Json :=
  .obj
    [("group_id", .str key.groupId),
      ("topic", .str key.topic),
      ("partition", .int key.partition.toInt)]

namespace Record

/-- The name of the kind of a record. -/
def typeName : Record → String
  | groupMetadata _ => "GroupMetadata"
  | groupTombstone _ => "GroupTombstone"
  | offsetCommit _ => "OffsetCommit"
  | offsetTombstone _ => "OffsetCommitTombstone"

/-- The fields of a record. -/
def fields : Record → List (String × Json)
  | groupMetadata group =>
    [("group_id", .str group.groupId),
      ("version", .int group.version.toInt),
      ("header", group.header.toJson),
      ("members", .arr (group.members.map GroupMember.toJson))]
  | groupTombstone group => [("group_id", .str group)]
  | offsetCommit commit =>
    [("key", commit.key.toJson),
      ("version", .int commit.version.toInt),
      ("offset", .int commit.offset.toInt),
      ("metadata", .str commit.metadata),
      ("commit_timestamp", .int commit.commitTimestamp.toInt),
      ("leader_epoch", .ofInt? (commit.leaderEpoch.map Int32.toInt)),
      ("expire_timestamp", .ofInt? (commit.expireTimestamp.map Int64.toInt))]
  | offsetTombstone key => [("key", key.toJson)]

/-- The record as a JSON object. -/
def toJson (record : Record) : Json := .obj (record.fields ++ [("type", .str record.typeName)])

end Record

end ConsumerOffsets
