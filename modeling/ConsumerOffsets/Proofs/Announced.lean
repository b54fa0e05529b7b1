/-
# Announced lengths are kept

A stored length is the number of the bytes behind it, and a stored count is the number of the
elements that follow: in a value that fits, every field keeps what it announces
(`StoredField.Honest`).  The reason is that the format has room for the lengths, so that writing one
in two or four bytes loses nothing.

Counts reach the group that is decoded as well (`StoredGroup.Keeps`): its members are as many as
the value says, and so are the partitions of each topic that a member has.
-/
import ConsumerOffsets.Proofs.LastWins
import ConsumerOffsets.Stored.Group
import ConsumerOffsets.Stored.Offset

namespace ConsumerOffsets

open Binary

namespace StoredField

/-! ## 1. Single fields -/

/-- An integer announces nothing. -/
theorem honest_integer (path : FieldPath) (lead : List UInt8) :
    Honest { path := path, lead := lead } where
  spelled := by simp
  kept h := absurd rfl h

theorem honest_count {n : Nat} (h : n ≤ Encoder.maxCount) (path : FieldPath) :
    (count path n).Honest where
  spelled := by
    intro announced heq
    cases heq
    exact intOfBytes_bytesOfInt_natCast (Encoder.two_mul_lt_of_le_maxCount h)
  kept h := absurd rfl h

theorem honest_string {raw : List UInt8} (h : raw.length ≤ Encoder.maxStringLength)
    (path : FieldPath) : (string path raw).Honest where
  spelled := by
    intro announced heq
    cases heq
    exact intOfBytes_bytesOfInt_natCast (Encoder.two_mul_lt_of_le_maxStringLength h)
  kept _ := rfl

theorem honest_region {raw : List UInt8} (h : raw.length ≤ Encoder.maxCount) (path : FieldPath) :
    (region path raw).Honest where
  spelled := by
    intro announced heq
    cases heq
    exact intOfBytes_bytesOfInt_natCast (Encoder.two_mul_lt_of_le_maxCount h)
  kept _ := rfl

end StoredField

open StoredField

/-! ## 2. Assignments -/

theorem StoredTopic.Fits.honest {topic : StoredTopic} (h : topic.Fits) (place : FieldPath) :
    ∀ field ∈ topic.fields place, field.Honest := by
  intro field hmem
  rcases List.mem_append.mp hmem with hmem | hmem
  · simp only [List.mem_cons, List.not_mem_nil, or_false] at hmem
    rcases hmem with rfl | rfl
    · exact honest_string h.name _
    · exact honest_count h.partitions _
  · obtain ⟨j, n, -, hrow⟩ := mem_listed_iff.mp hmem
    rw [List.mem_singleton.mp hrow]
    exact honest_integer _ _

theorem StoredAssignment.Fits.honest {stored : StoredAssignment} (h : stored.Fits)
    (place : FieldPath) : ∀ field ∈ stored.fields place, field.Honest := by
  intro field hmem
  rcases List.mem_append.mp hmem with hmem | hmem
  · rcases List.mem_append.mp hmem with hmem | hmem
    · rw [List.mem_singleton.mp hmem]
      exact honest_count h.count _
    · obtain ⟨i, topic, htopic, hrow⟩ := mem_listed_iff.mp hmem
      exact (h.topics topic (List.mem_of_getElem? htopic)).honest _ field hrow
  · rw [List.mem_singleton.mp hmem]
    exact honest_region h.userData _

theorem AssignmentRegion.Fits.honest {region : AssignmentRegion} (h : region.Fits)
    (member : FieldPath) : ∀ field ∈ region.fields member, field.Honest := by
  intro field hmem
  cases region with
  | empty => cases hmem
  | holding version body slack =>
    rcases List.mem_cons.mp hmem with rfl | hmem
    · exact honest_integer _ _
    · exact h.2.1.honest _ field hmem

/-! ## 3. Groups and offsets -/

/-- A field that is not always there is an integer wherever it is. -/
theorem honest_of_mem_optional {α : Type} {path : FieldPath} {lead : α → List UInt8}
    {stored : Option α} {field : StoredField}
    (h : field ∈ StoredField.optional (fun a => { path := path, lead := lead a }) stored) :
    field.Honest := by
  cases stored with
  | none => cases h
  | some a =>
    rw [List.mem_singleton.mp h]
    exact honest_integer _ _

theorem StoredMember.Fits.honest {version : Int} {member : StoredMember} (h : member.Fits version)
    (place : FieldPath) : ∀ field ∈ member.fields place, field.Honest := by
  intro field hmem
  rcases List.mem_append.mp hmem with hmem | hmem
  · rcases List.mem_append.mp hmem with hmem | hmem
    · simp only [List.mem_cons, List.not_mem_nil, or_false] at hmem
      rcases hmem with rfl | rfl | rfl
      · exact honest_string h.memberId _
      · exact honest_string h.clientId _
      · exact honest_string h.clientHost _
    · exact honest_of_mem_optional hmem
  · simp only [List.mem_cons, List.not_mem_nil, or_false] at hmem
    rcases hmem with rfl | rfl | rfl
    · exact honest_integer _ _
    · exact honest_region h.subscription _
    · exact honest_region h.assignment.length_encode_le _

/-- The fields of a group's value keep what they announce … -/
theorem StoredGroup.Fits.honest {group : StoredGroup} (h : group.Fits) :
    ∀ field ∈ group.fields, field.Honest := by
  intro field hmem
  rcases List.mem_cons.mp hmem with rfl | hmem
  · exact honest_integer _ _
  · rcases List.mem_append.mp hmem with hmem | hmem
    · simp only [List.mem_cons, List.not_mem_nil, or_false] at hmem
      rcases hmem with rfl | rfl | rfl | rfl | rfl
      · exact honest_string h.protocolType _
      · exact honest_integer _ _
      · exact honest_string h.protocol _
      · exact honest_string h.leader _
      · exact honest_count h.count _
    · obtain ⟨i, member, hmember, hrow⟩ := mem_listed_iff.mp hmem
      exact (h.members member (List.mem_of_getElem? hmember)).honest _ field hrow

/-- … and so do the fields inside its assignments. -/
theorem StoredGroup.Fits.honest_assignmentFields {group : StoredGroup} (h : group.Fits) :
    ∀ field ∈ group.assignmentFields, field.Honest := by
  intro field hmem
  obtain ⟨i, member, hmember, hrow⟩ := mem_listed_iff.mp hmem
  exact (h.members member (List.mem_of_getElem? hmember)).assignment.honest _ field hrow

theorem StoredOffset.Fits.honest {stored : StoredOffset} (h : stored.Fits) :
    ∀ field ∈ stored.fields, field.Honest := by
  intro field hmem
  rcases List.mem_cons.mp hmem with rfl | hmem
  · exact honest_integer _ _
  · rcases List.mem_append.mp hmem with hmem | hmem
    · rcases List.mem_append.mp hmem with hmem | hmem
      · rcases List.mem_append.mp hmem with hmem | hmem
        · rw [List.mem_singleton.mp hmem]
          exact honest_integer _ _
        · exact honest_of_mem_optional hmem
      · simp only [List.mem_cons, List.not_mem_nil, or_false] at hmem
        rcases hmem with rfl | rfl
        · exact honest_string h.metadata _
        · exact honest_integer _ _
    · exact honest_of_mem_optional hmem

/-! ## 4. Counts in what is decoded -/

/-- The lengths and counts of a value are kept, by its bytes and by the group decoded from it. -/
structure StoredGroup.Keeps (stored : StoredGroup) (group : GroupMetadata) : Prop where
  /-- The value is made up of its fields, and so is each region, but for the bytes behind them. -/
  layout : stored.fields.flatMap StoredField.encode = stored.encode
  regions : ∀ member ∈ stored.members, ∀ place : FieldPath,
    (member.assignment.fields place).flatMap StoredField.encode ++ member.assignment.slack
      = member.assignment.encode
  fields : ∀ field ∈ stored.fields, field.Honest
  assignmentFields : ∀ field ∈ stored.assignmentFields, field.Honest
  members : StoredField.count (.root "member_count") group.members.length ∈ stored.fields
  partitions : ∀ (i : Nat) (member : GroupMember), group.members[i]? = some member →
    ∀ entry ∈ member.assignment, ∃ j : Nat,
      StoredField.count (((((FieldPath.members.item i).child "assignment").child "topics").item
        j).child "partition_count") entry.partitions.length ∈ stored.assignmentFields

/-- The count of a topic's partitions is among the fields of a body. -/
theorem StoredAssignment.partitionCount_mem_fields {body : StoredAssignment} {topic : StoredTopic}
    {j : Nat} (h : body.topics[j]? = some topic) (place : FieldPath) :
    StoredField.count (((place.child "topics").item j).child "partition_count")
      topic.partitions.length ∈ body.fields place := by
  have hcount : StoredField.count (((place.child "topics").item j).child "partition_count")
      topic.partitions.length ∈ topic.fields ((place.child "topics").item (0 + j)) := by
    rw [Nat.zero_add]
    simp [StoredTopic.fields]
  exact List.mem_append_left _
    (List.mem_append_right _ (mem_listed_iff.mpr ⟨j, topic, h, hcount⟩))

/-- So it is among the fields of a region, for each topic that is left when the last occurrence has
won. -/
theorem AssignmentRegion.exists_partitionCount_mem_fields {region : AssignmentRegion}
    {entry : TopicPartitions} (h : entry ∈ region.meaning) (member : FieldPath) : ∃ j : Nat,
      StoredField.count ((((member.child "assignment").child "topics").item j).child
        "partition_count") entry.partitions.length ∈ region.fields member := by
  cases region with
  | empty => cases h
  | holding version body slack =>
    have hentry : entry ∈ body.topics.map StoredTopic.meaning :=
      (Assignment.lastWins_ofList _).mem h
    obtain ⟨topic, htopic, rfl⟩ := List.mem_map.mp hentry
    obtain ⟨j, hj⟩ := List.mem_iff_getElem?.mp htopic
    exact ⟨j, List.mem_cons_of_mem _ (StoredAssignment.partitionCount_mem_fields hj _)⟩

theorem StoredGroup.Fits.keeps {stored : StoredGroup} (h : stored.Fits) (groupId : String) :
    stored.Keeps (stored.meaning groupId) where
  layout := stored.flatMap_fields
  regions member _ place := member.assignment.flatMap_fields place
  fields := h.honest
  assignmentFields := h.honest_assignmentFields
  members := by simp [StoredGroup.fields, bodyFields, meaning]
  partitions := by
    intro i member hmember entry hentry
    rw [meaning, List.getElem?_map] at hmember
    obtain ⟨storedMember, hstored, rfl⟩ := Option.map_eq_some_iff.mp hmember
    obtain ⟨j, hcount⟩ := AssignmentRegion.exists_partitionCount_mem_fields hentry _
    exact ⟨j, mem_listed_iff.mpr ⟨i, storedMember, hstored, by rwa [Nat.zero_add]⟩⟩

end ConsumerOffsets
