/-
# Group metadata as it is stored

The bytes of a group's value, part by part.  As for assignments, `encode` writes the parts,
`meaning` is what they stand for, and `Fits` says that the format has room for them.  Whatever fits
is read back to what it means (`StoredGroup.Fits.reads_encodeBody`).

`fields` is the row of fields that the bytes are made of, each under its path
(`StoredGroup.flatMap_fields`).  What the region of an assignment holds is no field of this row;
`assignmentFields` are the fields in there.
-/
import ConsumerOffsets.GroupMetadata
import ConsumerOffsets.Stored.Assignment
import ConsumerOffsets.Stored.Field

namespace ConsumerOffsets

open Binary

/-! ## 1. Members -/

/-- A member as it is stored.  Texts are given as their bytes. -/
structure StoredMember where
  memberId : List UInt8
  clientId : List UInt8
  clientHost : List UInt8
  /-- The time that a rebalance may take: version 1 has it, version 0 does not. -/
  rebalanceTimeout : Option Int32
  sessionTimeout : Int32
  /-- The metadata of the subscription, which is not looked at. -/
  subscription : List UInt8
  assignment : AssignmentRegion
deriving DecidableEq, Repr

namespace StoredMember

/-- The bytes of a member. -/
def encode (member : StoredMember) : List UInt8 :=
  Encoder.string member.memberId ++
    (Encoder.string member.clientId ++
      (Encoder.string member.clientHost ++
        (member.rebalanceTimeout.elim [] Encoder.int32 ++
          (Encoder.int32 member.sessionTimeout ++
            (Encoder.region member.subscription ++
              Encoder.region member.assignment.encode)))))

/-- The member that the bytes stand for. -/
def meaning (member : StoredMember) : GroupMember where
  memberId := Text.Utf8.decode member.memberId
  clientId := Text.Utf8.decode member.clientId
  clientHost := Text.Utf8.decode member.clientHost
  sessionTimeout := member.sessionTimeout
  rebalanceTimeout := member.rebalanceTimeout
  assignment := member.assignment.meaning

/-- The member has the fields of the given version, and their lengths can be written. -/
structure Fits (version : Int) (member : StoredMember) : Prop where
  memberId : member.memberId.length ≤ Encoder.maxStringLength
  clientId : member.clientId.length ≤ Encoder.maxStringLength
  clientHost : member.clientHost.length ≤ Encoder.maxStringLength
  rebalanceTimeout : member.rebalanceTimeout.isSome ↔ version = 1
  subscription : member.subscription.length ≤ Encoder.maxCount
  assignment : member.assignment.Fits

/-- A member that fits is read back. -/
theorem Fits.reads_encode {version : Int} {member : StoredMember} (h : member.Fits version)
    (field : FieldPath) :
    Decoder.Reads (GroupMember.decode version field) member.encode member.meaning := by
  have hassignment : Decoder.Reads (liftM (Assignment.ofRegion field member.assignment.encode))
      [] member.assignment.meaning :=
    Decoder.reads_liftM (AssignmentRegion.ofRegion_encode h.assignment field)
  rw [encode, ← List.append_nil (Encoder.region member.assignment.encode)]
  exact (Decoder.reads_string h.memberId _).bind
    ((Decoder.reads_string h.clientId _).bind
      ((Decoder.reads_string h.clientHost _).bind
        ((Decoder.reads_optional h.rebalanceTimeout fun t => Decoder.reads_int32 t _).bind
          ((Decoder.reads_int32 member.sessionTimeout _).bind
            ((Decoder.reads_region h.subscription _).bind
              ((Decoder.reads_region h.assignment.length_encode_le _).bind
                (hassignment.bind_pure
                  fun assignment => { member.meaning with assignment })))))))

/-- The fields of a member that lies at the given place. -/
def fields (place : FieldPath) (member : StoredMember) : List StoredField :=
  [.string (place.child "member_id") member.memberId,
    .string (place.child "client_id") member.clientId,
    .string (place.child "client_host") member.clientHost]
  ++ StoredField.optional (.int32 (place.child "rebalance_timeout")) member.rebalanceTimeout
  ++ [.int32 (place.child "session_timeout") member.sessionTimeout,
    .region (place.child "subscription_bytes") member.subscription,
    .region (place.child "assignment_bytes") member.assignment.encode]

theorem flatMap_fields (place : FieldPath) (member : StoredMember) :
    (member.fields place).flatMap StoredField.encode = member.encode := by
  simp [fields, encode]

/-- The fields of members from the given index on. -/
def fieldsFrom (index : Nat) (members : List StoredMember) : List StoredField :=
  StoredField.listed (fun i member => member.fields (FieldPath.members.item i)) index members

theorem flatMap_fieldsFrom (index : Nat) (members : List StoredMember) :
    (fieldsFrom index members).flatMap StoredField.encode = members.flatMap encode :=
  StoredField.flatMap_listed (fun _ member => member.flatMap_fields _) index members

end StoredMember

/-! ## 2. Values -/

/-- A value as it is stored. -/
structure StoredGroup where
  version : Int16
  protocolType : List UInt8
  generation : Int32
  protocol : List UInt8
  leader : List UInt8
  members : List StoredMember
deriving DecidableEq, Repr

namespace StoredGroup

/-- The bytes of a group's header. -/
def encodeHeader (group : StoredGroup) : List UInt8 :=
  Encoder.string group.protocolType ++
    (Encoder.int32 group.generation ++
      (Encoder.string group.protocol ++ Encoder.string group.leader))

/-- The bytes behind the version tag. -/
def encodeBody (group : StoredGroup) : List UInt8 :=
  group.encodeHeader ++
    (Encoder.count group.members.length ++ group.members.flatMap StoredMember.encode)

/-- The bytes of a value. -/
def encode (group : StoredGroup) : List UInt8 := Encoder.int16 group.version ++ group.encodeBody

/-- The header that the bytes stand for. -/
def header (group : StoredGroup) : GroupHeader where
  protocolType := Text.Utf8.decode group.protocolType
  generation := group.generation
  protocol := Text.Utf8.decode group.protocol
  leader := Text.Utf8.decode group.leader

/-- The group that the bytes stand for, under the name that its key gives. -/
def meaning (groupId : String) (group : StoredGroup) : GroupMetadata where
  groupId
  version := group.version
  header := group.header
  members := group.members.map StoredMember.meaning

/-- The version is supported, the members have its fields, and all lengths can be written. -/
structure Fits (group : StoredGroup) : Prop where
  version : group.version.toInt ∈ GroupMetadata.supportedVersions
  protocolType : group.protocolType.length ≤ Encoder.maxStringLength
  protocol : group.protocol.length ≤ Encoder.maxStringLength
  leader : group.leader.length ≤ Encoder.maxStringLength
  count : group.members.length ≤ Encoder.maxCount
  members : ∀ member ∈ group.members, member.Fits group.version.toInt

/-- The header of a group that fits is read back. -/
theorem Fits.reads_encodeHeader {group : StoredGroup} (h : group.Fits) :
    Decoder.Reads GroupHeader.decode group.encodeHeader group.header :=
  (Decoder.reads_string h.protocolType _).bind
    ((Decoder.reads_int32 group.generation _).bind
      ((Decoder.reads_string h.protocol _).bind
        ((Decoder.reads_string h.leader _).bind_pure
          fun leader => { group.header with leader })))

/-- A group that fits is read back. -/
theorem Fits.reads_encodeBody {group : StoredGroup} (h : group.Fits) (groupId : String) :
    Decoder.Reads (GroupMetadata.decodeBody group.version.toInt groupId) group.encodeBody
      (group.meaning groupId) := by
  have hlist := Decoder.reads_list fun member hm i =>
    (h.members member hm).reads_encode (FieldPath.members.item i)
  have hversion : Int16.ofInt group.version.toInt = group.version := Int16.ofInt_toInt _
  rw [show group.meaning groupId = { group.meaning groupId with
    version := Int16.ofInt group.version.toInt } by rw [hversion]; rfl]
  exact h.reads_encodeHeader.bind ((Decoder.reads_count h.count _).bind
    (hlist.bind_pure fun members => { group.meaning groupId with
      version := Int16.ofInt group.version.toInt, members }))

/-- The fields behind the version tag. -/
def bodyFields (group : StoredGroup) : List StoredField :=
  [.string (.root "protocol_type") group.protocolType,
    .int32 (.root "generation") group.generation,
    .string (.root "protocol") group.protocol,
    .string (.root "leader") group.leader,
    .count (.root "member_count") group.members.length]
  ++ StoredMember.fieldsFrom 0 group.members

theorem flatMap_bodyFields (group : StoredGroup) :
    group.bodyFields.flatMap StoredField.encode = group.encodeBody := by
  rw [bodyFields, List.flatMap_append, StoredMember.flatMap_fieldsFrom]
  simp [encodeBody, encodeHeader]

/-- The fields of a value. -/
def fields (group : StoredGroup) : List StoredField :=
  .int16 .version group.version :: group.bodyFields

/-- The fields of a value, written one after another, are the value. -/
theorem flatMap_fields (group : StoredGroup) :
    group.fields.flatMap StoredField.encode = group.encode := by
  rw [fields, List.flatMap_cons, flatMap_bodyFields, StoredField.encode_int16, encode]

/-- The fields inside the regions that the members have for their assignments. -/
def assignmentFields (group : StoredGroup) : List StoredField :=
  StoredField.listed (fun i member => member.assignment.fields (FieldPath.members.item i)) 0
    group.members

end StoredGroup

end ConsumerOffsets
