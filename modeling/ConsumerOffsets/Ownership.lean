/-
# Ownership

A group's metadata says which member owns which partition.  `GroupMetadata.ownerships` lists that
partition by partition: the members in order, the topics of each in the order of its assignment,
the partitions of each topic in order and as often as they occur.
-/
import ConsumerOffsets.GroupMetadata

namespace ConsumerOffsets

/-- One partition and the client that owns it. -/
structure PartitionOwnership where
  groupId : String
  topic : String
  partition : Int32
  clientHost : String
  clientId : String
deriving DecidableEq, Repr

/-- The partitions that a member of the given group owns. -/
def GroupMember.ownerships (groupId : String) (member : GroupMember) : List PartitionOwnership :=
  member.assignment.flatMap fun entry =>
    entry.partitions.map fun partition =>
      { groupId, topic := entry.topic, partition,
        clientHost := member.clientHost, clientId := member.clientId }

/-- The partitions that the members of a group own. -/
def GroupMetadata.ownerships (group : GroupMetadata) : List PartitionOwnership :=
  group.members.flatMap fun member => member.ownerships group.groupId

end ConsumerOffsets
