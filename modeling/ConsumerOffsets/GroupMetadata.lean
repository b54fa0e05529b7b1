/-
# Group metadata

What the offsets topic knows of a consumer group: the protocol its members agreed on, and each
member with the partitions assigned to it.  A value has version 0 or 1; they differ in one field
of the member, the rebalance timeout, which only version 1 has.
-/
import ConsumerOffsets.Assignment

namespace ConsumerOffsets

open Binary

/-- What concerns the group as a whole. -/
structure GroupHeader where
  protocolType : String
  generation : Int32
  protocol : String
  leader : String
deriving DecidableEq, Repr

/-- A member of a group. -/
structure GroupMember where
  memberId : String
  clientId : String
  clientHost : String
  sessionTimeout : Int32
  /-- The time that a rebalance may take, where the version of the value has it. -/
  rebalanceTimeout : Option Int32 := none
  assignment : Assignment := []
deriving DecidableEq, Repr

/-- A consumer group. -/
structure GroupMetadata where
  groupId : String
  version : Int16
  header : GroupHeader
  members : List GroupMember
deriving DecidableEq, Repr

/-- One member.  The metadata of its subscription is passed over. -/
def GroupMember.decode (version : Int) (field : FieldPath) : Decoder GroupMember := do
  let memberId ← Decoder.string (field.child "member_id")
  let clientId ← Decoder.string (field.child "client_id")
  let clientHost ← Decoder.string (field.child "client_host")
  let rebalanceTimeout ←
    Decoder.optional (version = 1) (Decoder.int32 (field.child "rebalance_timeout"))
  let sessionTimeout ← Decoder.int32 (field.child "session_timeout")
  let _subscription ← Decoder.region (field.child "subscription_bytes")
  let region ← Decoder.region (field.child "assignment_bytes")
  let assignment ← Assignment.ofRegion field region
  return { memberId, clientId, clientHost, sessionTimeout, rebalanceTimeout, assignment }

/-- The header of a group. -/
def GroupHeader.decode : Decoder GroupHeader := do
  let protocolType ← Decoder.string (.root "protocol_type")
  let generation ← Decoder.int32 (.root "generation")
  let protocol ← Decoder.string (.root "protocol")
  let leader ← Decoder.string (.root "leader")
  return { protocolType, generation, protocol, leader }

namespace GroupMetadata

/-- The versions of a value that can be decoded. -/
def supportedVersions : List Int := [0, 1]

/-- The body of a value: everything behind its version tag. -/
def decodeBody (version : Int) (groupId : String) : Decoder GroupMetadata := do
  let header ← GroupHeader.decode
  let count ← Decoder.count (.root "member_count")
  let members ← Decoder.list count fun i => GroupMember.decode version (FieldPath.members.item i)
  return { groupId, version := Int16.ofInt version, header, members }

/-- The body of a value of the given version, if that is a supported one. -/
def decode (version : Int) (groupId : String) : Decoder GroupMetadata := do
  if version ∉ supportedVersions then throw (.unsupportedVersion .version version)
  decodeBody version groupId

end GroupMetadata

/-- The group that a key names, from the bytes behind its version tag.  What follows the name is
not looked at. -/
def GroupMetadata.decodeKey : Option (List UInt8) → Except DecodeError String
  | none => .error (.missingKey .keyGroup)
  | some bytes =>
    match Decoder.string .keyGroup bytes with
    | .ok (group, _) => .ok group
    | .error e => .error (.invalidKey e)

end ConsumerOffsets
