/-
# Assignments as they are stored

The bytes of an assignment, part by part, before any text is decoded and any repeated topic is
dropped.  `encode` writes the parts, `meaning` is the assignment that they stand for, and `Fits`
says which lengths the format has room for.  Whatever fits is read back to what it means
(`StoredAssignment.Fits.reads_encode`, `AssignmentRegion.ofRegion_encode`).  `fields` is the row of
fields that the bytes are made of.
-/
import ConsumerOffsets.Assignment
import ConsumerOffsets.Stored.Field

namespace ConsumerOffsets

open Binary

/-! ## 1. Topics -/

/-- A topic as it is stored: the bytes of its name, and its partitions. -/
structure StoredTopic where
  name : List UInt8
  partitions : List Int32
deriving DecidableEq, Repr

namespace StoredTopic

/-- The bytes of a topic. -/
def encode (topic : StoredTopic) : List UInt8 :=
  Encoder.string topic.name ++
    (Encoder.count topic.partitions.length ++ topic.partitions.flatMap Encoder.int32)

/-- The topic that the bytes stand for.  A name that is not UTF-8 is mended. -/
def meaning (topic : StoredTopic) : TopicPartitions where
  topic := Text.Utf8.decode topic.name
  partitions := topic.partitions

/-- The lengths of a topic can be written. -/
structure Fits (topic : StoredTopic) : Prop where
  name : topic.name.length ≤ Encoder.maxStringLength
  partitions : topic.partitions.length ≤ Encoder.maxCount

/-- A topic takes up its name, the two lengths, and its partitions. -/
theorem length_encode (topic : StoredTopic) : topic.encode.length
    = Assignment.minTopicSize + topic.name.length
      + topic.partitions.length * Assignment.partitionSize := by
  simp only [encode, Assignment.minTopicSize, Assignment.partitionSize, List.length_append,
    Encoder.length_string, Encoder.length_count, Encoder.length_flatMap_int32]
  omega

/-- A topic that fits is read back. -/
theorem Fits.reads_encode {topic : StoredTopic} (h : topic.Fits) (field : FieldPath) :
    Decoder.Reads (Assignment.decodeTopic field) topic.encode topic.meaning := by
  have hlist : Decoder.Reads (Decoder.list topic.partitions.length fun j =>
      Decoder.int32 ((field.child "partitions").item j))
      (topic.partitions.flatMap Encoder.int32) topic.partitions := by
    have hread := Decoder.reads_list (fun n (_ : n ∈ topic.partitions) j =>
      Decoder.reads_int32 (id n) ((field.child "partitions").item j))
    rwa [List.map_id] at hread
  have hroom : topic.partitions.length * Assignment.partitionSize
      ≤ (topic.partitions.flatMap Encoder.int32).length :=
    Nat.le_of_eq (Encoder.length_flatMap_int32 topic.partitions).symm
  exact (Decoder.reads_string h.name (field.child "name")).bind
    (Decoder.Reads.boundedCount_bind h.partitions hroom
      (hlist.bind_pure (TopicPartitions.mk (Text.Utf8.decode topic.name)))
      (field.child "partition_count"))

/-- The fields of a topic that lies at the given place. -/
def fields (place : FieldPath) (topic : StoredTopic) : List StoredField :=
  [.string (place.child "name") topic.name,
    .count (place.child "partition_count") topic.partitions.length]
  ++ StoredField.listed (fun j n => [.int32 ((place.child "partitions").item j) n]) 0
    topic.partitions

theorem flatMap_fields (place : FieldPath) (topic : StoredTopic) :
    (topic.fields place).flatMap StoredField.encode = topic.encode := by
  have hpartition : ∀ (j : Nat) (n : Int32),
      [StoredField.int32 ((place.child "partitions").item j) n].flatMap StoredField.encode
        = Encoder.int32 n := fun j n => by simp
  rw [fields, List.flatMap_append, StoredField.flatMap_listed hpartition]
  simp [encode]

end StoredTopic

/-! ## 2. Bodies -/

/-- The body of an assignment as it is stored: topics, which may repeat, and data of the user. -/
structure StoredAssignment where
  topics : List StoredTopic
  userData : List UInt8
deriving DecidableEq, Repr

namespace StoredAssignment

/-- The bytes of a body. -/
def encode (stored : StoredAssignment) : List UInt8 :=
  Encoder.count stored.topics.length ++
    (stored.topics.flatMap StoredTopic.encode ++ Encoder.region stored.userData)

/-- The assignment that a body stands for. -/
def meaning (stored : StoredAssignment) : Assignment :=
  Assignment.ofList (stored.topics.map StoredTopic.meaning)

/-- The lengths of a body can be written. -/
structure Fits (stored : StoredAssignment) : Prop where
  count : stored.topics.length ≤ Encoder.maxCount
  topics : ∀ topic ∈ stored.topics, topic.Fits
  userData : stored.userData.length ≤ Encoder.maxCount

/-- So many topics take up at least that many times the least size of one. -/
theorem le_length_flatMap_encode : ∀ topics : List StoredTopic,
    topics.length * Assignment.minTopicSize ≤ (topics.flatMap StoredTopic.encode).length
  | [] => by simp
  | topic :: topics => by
    have ih := le_length_flatMap_encode topics
    have hfirst := topic.length_encode
    simp only [List.length_cons, List.flatMap_cons, List.length_append, Nat.succ_mul]
    omega

/-- Where the size of a body could be written, so can its counts and the size of its user data: each
is less than the size of the body. -/
theorem fits_of_length_le {stored : StoredAssignment}
    (hname : ∀ topic ∈ stored.topics, topic.name.length ≤ Encoder.maxStringLength)
    (hsize : stored.encode.length ≤ Encoder.maxCount) : stored.Fits := by
  have hcount := le_length_flatMap_encode stored.topics
  simp only [encode, List.length_append, Encoder.length_count, Encoder.length_region,
    Assignment.minTopicSize] at hsize hcount
  refine ⟨by omega, ?_, by omega⟩
  intro topic ht
  have htopic : topic.encode.length ≤ (stored.topics.flatMap StoredTopic.encode).length :=
    (List.sublist_flatten_of_mem (List.mem_map_of_mem ht)).length_le
  have hpartitions := topic.length_encode
  rw [Assignment.partitionSize] at hpartitions
  exact ⟨hname topic ht, by omega⟩

/-- A body that fits is read back, its repeated topics dropped. -/
theorem Fits.reads_encode {stored : StoredAssignment} (h : stored.Fits) (field : FieldPath) :
    Decoder.Reads (Assignment.decode field) stored.encode stored.meaning := by
  have hlist := Decoder.reads_list fun topic ht i =>
    (h.topics topic ht).reads_encode ((field.child "topics").item i)
  have hroom : stored.topics.length * Assignment.minTopicSize
      ≤ (stored.topics.flatMap StoredTopic.encode ++ Encoder.region stored.userData).length := by
    have hle := le_length_flatMap_encode stored.topics
    rw [List.length_append]
    omega
  exact Decoder.Reads.boundedCount_bind h.count hroom
    (hlist.bind ((Decoder.reads_region h.userData (field.child "user_data")).bind_pure
      fun _ => stored.meaning)) (field.child "topic_count")

/-- The fields of a body that lies at the given place. -/
def fields (place : FieldPath) (stored : StoredAssignment) : List StoredField :=
  [.count (place.child "topic_count") stored.topics.length]
  ++ StoredField.listed (fun i topic => topic.fields ((place.child "topics").item i)) 0
    stored.topics
  ++ [.region (place.child "user_data") stored.userData]

theorem flatMap_fields (place : FieldPath) (stored : StoredAssignment) :
    (stored.fields place).flatMap StoredField.encode = stored.encode := by
  rw [fields, List.flatMap_append, List.flatMap_append,
    StoredField.flatMap_listed fun i topic => topic.flatMap_fields _]
  simp [encode]

end StoredAssignment

/-! ## 3. Regions -/

/-- What the region of a member holds for its assignment: nothing, or a version, the body, and
bytes behind the body that are not looked at. -/
inductive AssignmentRegion where
  | empty
  | holding (version : Int16) (body : StoredAssignment) (slack : List UInt8)
deriving DecidableEq, Repr

namespace AssignmentRegion

/-- The bytes of a region, without its size. -/
def encode : AssignmentRegion → List UInt8
  | empty => []
  | holding version body slack => Encoder.int16 version ++ (body.encode ++ slack)

/-- The assignment that a region stands for. -/
def meaning : AssignmentRegion → Assignment
  | empty => []
  | holding _ body _ => body.meaning

/-- The topics in a region, which may repeat. -/
def topics : AssignmentRegion → List StoredTopic
  | empty => []
  | holding _ body _ => body.topics

theorem meaning_eq_ofList : ∀ region : AssignmentRegion,
    region.meaning = Assignment.ofList (region.topics.map StoredTopic.meaning)
  | empty => rfl
  | holding _ _ _ => rfl

/-- The bytes behind the body. -/
def slack : AssignmentRegion → List UInt8
  | empty => []
  | holding _ _ slack => slack

/-- The fields in the region of a member that lies at the given place.  Bytes behind the body are in
no field. -/
def fields (member : FieldPath) : AssignmentRegion → List StoredField
  | empty => []
  | holding version body _ =>
    .int16 (member.child "consumer_protocol_version") version
      :: body.fields (member.child "assignment")

theorem flatMap_fields (member : FieldPath) : ∀ region : AssignmentRegion,
    (region.fields member).flatMap StoredField.encode ++ region.slack = region.encode
  | empty => rfl
  | holding version body slack => by
    rw [fields, List.flatMap_cons, body.flatMap_fields, StoredField.encode_int16, List.append_assoc]
    rfl

/-- The lengths of a region can be written, and its version is not negative. -/
def Fits : AssignmentRegion → Prop
  | empty => True
  | holding version body slack =>
    0 ≤ version.toInt ∧ body.Fits ∧
      (encode (holding version body slack)).length ≤ Encoder.maxCount

/-- The size of a region that fits can be written. -/
theorem Fits.length_encode_le : ∀ {region : AssignmentRegion}, region.Fits →
    region.encode.length ≤ Encoder.maxCount
  | empty, _ => by simp [encode]
  | holding _ _ _, h => h.2.2

/-- Where the size of a region can be written, so can the lengths of the body in it. -/
theorem fits_holding_iff {version : Int16} {body : StoredAssignment} {slack : List UInt8} :
    Fits (holding version body slack)
      ↔ 0 ≤ version.toInt ∧ (∀ topic ∈ body.topics, topic.name.length ≤ Encoder.maxStringLength)
        ∧ (encode (holding version body slack)).length ≤ Encoder.maxCount := by
  constructor
  · rintro ⟨hversion, hbody, hsize⟩
    exact ⟨hversion, fun topic ht => (hbody.topics topic ht).name, hsize⟩
  · rintro ⟨hversion, hname, hsize⟩
    have hbody : body.encode.length ≤ Encoder.maxCount := by
      simp only [encode, List.length_append] at hsize
      omega
    exact ⟨hversion, StoredAssignment.fits_of_length_le hname hbody, hsize⟩

/-- A region that fits is read back. -/
theorem ofRegion_encode {region : AssignmentRegion} (h : region.Fits) (member : FieldPath) :
    Assignment.ofRegion member region.encode = .ok region.meaning := by
  cases region with
  | empty => rfl
  | holding version body slack =>
    obtain ⟨hversion, hbody, _⟩ := h
    have hne : Encoder.int16 version ++ (body.encode ++ slack) ≠ [] := by
      rw [ne_eq, List.eq_nil_iff_length_eq_zero, List.length_append, Encoder.length_int16]
      omega
    have hv := Decoder.reads_int_int16 version (member.child "consumer_protocol_version")
      (body.encode ++ slack)
    have hb := hbody.reads_encode (member.child "assignment") slack
    rw [encode, Assignment.ofRegion_of_ne_nil hne, hv]
    dsimp only
    rw [if_neg (by omega), hb]
    rfl

end AssignmentRegion

end ConsumerOffsets
