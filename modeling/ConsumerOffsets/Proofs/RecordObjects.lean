/-
# Objects of records

Each record is told as a JSON object.  Two records are told by the same object, up to the order of
members, exactly if they are the same up to the order of the topics in the assignments of members
(`Record.sorted_toJson_eq_iff`).  It needs that an assignment has no topic twice, for equal names are put
in order by nothing.  In a record that was decoded this is so, since there the last occurrence of a topic
has won (`StoredRecord.hasDistinctTopics_of_decode`).

What is printed for a record is this object with the names at every level in ascending order
(`Record.IsPrinted`).
-/
import Mathlib.Data.List.Nodup
import Mathlib.Data.List.Perm.Basic
import ConsumerOffsets.RecordJson
import ConsumerOffsets.Proofs.JsonOrder
import ConsumerOffsets.Proofs.JsonReading
import ConsumerOffsets.Proofs.LastWins
import ConsumerOffsets.Proofs.Message

namespace ConsumerOffsets

open Json (sortedMember)

/-! ## 1. Equal objects -/

namespace Json

theorem sorted_ofInt? (n : Option Int) : (ofInt? n).sorted = ofInt? n := by
  cases n <;> rfl

theorem ofInt?_inj {m n : Option Int} : ofInt? m = ofInt? n ↔ m = n := by
  cases m <;> cases n <;> simp [ofInt?]

theorem ofInt?_int32_inj {m n : Option Int32} :
    ofInt? (m.map Int32.toInt) = ofInt? (n.map Int32.toInt) ↔ m = n :=
  ofInt?_inj.trans (Option.map_injective fun _ _ => Int32.toInt_inj.mp).eq_iff

theorem ofInt?_int64_inj {m n : Option Int64} :
    ofInt? (m.map Int64.toInt) = ofInt? (n.map Int64.toInt) ↔ m = n :=
  ofInt?_inj.trans (Option.map_injective fun _ _ => Int64.toInt_inj.mp).eq_iff

theorem distinct_ofInt? (n : Option Int) : (ofInt? n).Distinct := by
  cases n with
  | none => exact .null
  | some n => exact .int n

end Json

namespace TopicPartitions

/-- The member for a topic. -/
def toMember (entry : TopicPartitions) : String × Json :=
  (entry.topic, .arr (entry.partitions.map fun partition => .int partition.toInt))

theorem toMember_injective : Function.Injective toMember := by
  rintro ⟨topic, partitions⟩ ⟨topic', partitions'⟩ h
  simp only [toMember, Prod.mk.injEq, Json.arr.injEq] at h
  obtain ⟨rfl, h⟩ := h
  have hinjective : Function.Injective fun partition : Int32 => Json.int partition.toInt :=
    fun _ _ heq => Int32.toInt_inj.mp (Json.int.inj heq)
  rw [hinjective.list_map h]

theorem sortedMember_toMember (entry : TopicPartitions) :
    sortedMember entry.toMember = entry.toMember := by
  simp [sortedMember, toMember, Json.sorted, Json.sortedItems_eq_map, Function.comp_def]

end TopicPartitions

/-- Assignments give the same object if they have the same topics with the same partitions, in
whatever order the topics are. -/
theorem Assignment.sorted_toJson_eq_iff {assignment assignment' : Assignment}
    (h : assignment.topics.Nodup) :
    assignment.toJson.sorted = assignment'.toJson.sorted ↔ assignment.Perm assignment' := by
  have hjson : ∀ a : Assignment, a.toJson = .obj (a.map TopicPartitions.toMember) := fun _ => rfl
  have hnames : ((assignment.map TopicPartitions.toMember).map Prod.fst).Nodup := by
    rw [List.map_map]
    exact h
  have hsorted : ∀ a : Assignment,
      (a.map TopicPartitions.toMember).map sortedMember = a.map TopicPartitions.toMember := by
    intro a
    simp only [List.map_map, Function.comp_def, TopicPartitions.sortedMember_toMember]
  rw [hjson, hjson, Json.sorted, Json.sorted, Json.obj.injEq, Json.sortedMembers_eq_iff hnames,
    hsorted, hsorted, List.map_perm_map_iff TopicPartitions.toMember_injective]

theorem Assignment.distinct_toJson {assignment : Assignment} (h : assignment.topics.Nodup) :
    assignment.toJson.Distinct := by
  refine .obj (by rwa [List.map_map]) fun member hmember => ?_
  obtain ⟨entry, -, rfl⟩ := List.mem_map.mp hmember
  refine .arr fun item hitem => ?_
  obtain ⟨partition, -, rfl⟩ := List.mem_map.mp hitem
  exact .int _

namespace GroupMember

/-- The same member, but for the order of the topics in its assignment. -/
structure SameUpToTopicOrder (member member' : GroupMember) : Prop where
  rest : { member with assignment := member'.assignment } = member'
  assignment : member.assignment.Perm member'.assignment

theorem sorted_toJson (member : GroupMember) : member.toJson.sorted
    = .obj
      [("assignment", member.assignment.toJson.sorted),
        ("client_host", .str member.clientHost),
        ("client_id", .str member.clientId),
        ("member_id", .str member.memberId),
        ("rebalance_timeout", .ofInt? (member.rebalanceTimeout.map Int32.toInt)),
        ("session_timeout", .int member.sessionTimeout.toInt)] := by
  simp only [toJson, Json.sorted, Json.sortedMembers, Json.insertMember, Json.sorted_ofInt?,
    String.reduceLT, if_true, if_false]

theorem sorted_toJson_eq_iff {member member' : GroupMember} (h : member.assignment.topics.Nodup) :
    member.toJson.sorted = member'.toJson.sorted ↔ member.SameUpToTopicOrder member' := by
  rw [sorted_toJson, sorted_toJson]
  simp only [Json.obj.injEq, List.cons.injEq, Prod.mk.injEq, Json.str.injEq, Json.int.injEq,
    Json.ofInt?_int32_inj, true_and, and_true, Assignment.sorted_toJson_eq_iff h, Int32.toInt_inj]
  constructor
  · rintro ⟨hassignment, hhost, hclient, hid, hrebalance, hsession⟩
    refine ⟨?_, hassignment⟩
    rw [hhost, hclient, hid, hrebalance, hsession]
  · rintro ⟨hrest, hassignment⟩
    rw [← hrest]
    exact ⟨hassignment, rfl, rfl, rfl, rfl, rfl⟩

theorem distinct_toJson {member : GroupMember} (h : member.assignment.topics.Nodup) :
    member.toJson.Distinct := by
  refine .obj (by simp) ?_
  simp only [List.forall_mem_cons]
  exact ⟨.str _, .str _, .str _, .int _, Json.distinct_ofInt? _,
    Assignment.distinct_toJson h, List.forall_mem_nil _⟩

end GroupMember

theorem GroupHeader.sorted_toJson (header : GroupHeader) : header.toJson.sorted
    = .obj
      [("generation", .int header.generation.toInt),
        ("leader", .str header.leader),
        ("protocol", .str header.protocol),
        ("protocol_type", .str header.protocolType)] := by
  simp only [toJson, Json.sorted, Json.sortedMembers, Json.insertMember, String.reduceLT, if_true,
    if_false]

theorem OffsetKey.sorted_toJson (key : OffsetKey) : key.toJson.sorted
    = .obj
      [("group_id", .str key.groupId),
        ("partition", .int key.partition.toInt),
        ("topic", .str key.topic)] := by
  simp only [toJson, Json.sorted, Json.sortedMembers, Json.insertMember, String.reduceLT, if_true,
    if_false]

theorem GroupHeader.distinct_toJson (header : GroupHeader) : header.toJson.Distinct := by
  refine .obj (by simp) ?_
  simp only [List.forall_mem_cons]
  exact ⟨.str _, .int _, .str _, .str _, List.forall_mem_nil _⟩

theorem OffsetKey.distinct_toJson (key : OffsetKey) : key.toJson.Distinct := by
  refine .obj (by simp) ?_
  simp only [List.forall_mem_cons]
  exact ⟨.str _, .str _, .int _, List.forall_mem_nil _⟩

theorem GroupHeader.sorted_toJson_inj {header header' : GroupHeader} :
    header.toJson.sorted = header'.toJson.sorted ↔ header = header' := by
  rw [sorted_toJson, sorted_toJson]
  simp only [Json.obj.injEq, List.cons.injEq, Prod.mk.injEq, Json.str.injEq, Json.int.injEq,
    true_and, and_true, Int32.toInt_inj]
  cases header
  cases header'
  simp only [GroupHeader.mk.injEq]
  tauto

theorem OffsetKey.sorted_toJson_inj {key key' : OffsetKey} :
    key.toJson.sorted = key'.toJson.sorted ↔ key = key' := by
  rw [sorted_toJson, sorted_toJson]
  simp only [Json.obj.injEq, List.cons.injEq, Prod.mk.injEq, Json.str.injEq, Json.int.injEq,
    true_and, and_true, Int32.toInt_inj]
  cases key
  cases key'
  simp only [OffsetKey.mk.injEq]
  tauto

namespace Record

/-- Records of the same type that are equal, but for the order of the topics in the assignments of
members. -/
inductive SameUpToTopicOrder : Record → Record → Prop where
  | groupMetadata (group : GroupMetadata) {members : List GroupMember}
      (hmembers : List.Forall₂ GroupMember.SameUpToTopicOrder group.members members) :
      SameUpToTopicOrder (.groupMetadata group) (.groupMetadata { group with members })
  | groupTombstone (group : String) :
      SameUpToTopicOrder (.groupTombstone group) (.groupTombstone group)
  | offsetCommit (commit : OffsetCommit) :
      SameUpToTopicOrder (.offsetCommit commit) (.offsetCommit commit)
  | offsetTombstone (key : OffsetKey) :
      SameUpToTopicOrder (.offsetTombstone key) (.offsetTombstone key)

/-- No assignment in the record has a topic twice. -/
def HasDistinctTopics : Record → Prop
  | groupMetadata group => ∀ member ∈ group.members, member.assignment.topics.Nodup
  | _ => True

theorem sorted_toJson_groupMetadata (group : GroupMetadata) :
    (groupMetadata group).toJson.sorted
      = .obj
        [("group_id", .str group.groupId),
          ("header", group.header.toJson.sorted),
          ("members", .arr (group.members.map fun member => member.toJson.sorted)),
          ("type", .str "GroupMetadata"),
          ("version", .int group.version.toInt)] := by
  simp only [toJson, fields, typeName, List.cons_append, List.nil_append, Json.sorted,
    Json.sortedMembers, Json.insertMember, Json.sortedItems_eq_map, List.map_map, Function.comp_def,
    String.reduceLT, if_true, if_false]

theorem sorted_toJson_groupTombstone (group : String) :
    (groupTombstone group).toJson.sorted
      = .obj [("group_id", .str group), ("type", .str "GroupTombstone")] := by
  simp only [toJson, fields, typeName, List.cons_append, List.nil_append, Json.sorted,
    Json.sortedMembers, Json.insertMember, String.reduceLT, if_false]

theorem sorted_toJson_offsetCommit (commit : OffsetCommit) :
    (offsetCommit commit).toJson.sorted
      = .obj
        [("commit_timestamp", .int commit.commitTimestamp.toInt),
          ("expire_timestamp", .ofInt? (commit.expireTimestamp.map Int64.toInt)),
          ("key", commit.key.toJson.sorted),
          ("leader_epoch", .ofInt? (commit.leaderEpoch.map Int32.toInt)),
          ("metadata", .str commit.metadata),
          ("offset", .int commit.offset.toInt),
          ("type", .str "OffsetCommit"),
          ("version", .int commit.version.toInt)] := by
  simp only [toJson, fields, typeName, List.cons_append, List.nil_append, Json.sorted,
    Json.sortedMembers, Json.insertMember, Json.sorted_ofInt?, String.reduceLT, if_true, if_false]

theorem sorted_toJson_offsetTombstone (key : OffsetKey) :
    (offsetTombstone key).toJson.sorted
      = .obj [("key", key.toJson.sorted), ("type", .str "OffsetCommitTombstone")] := by
  simp only [toJson, fields, typeName, List.cons_append, List.nil_append, Json.sorted,
    Json.sortedMembers, Json.insertMember, String.reduceLT, if_false]

/-- The members of the object of a record. -/
def jsonMembers (record : Record) : List (String × Json) :=
  record.fields ++ [("type", .str record.typeName)]

/-- All fields have different names, and none is called like the type. -/
theorem nodup_jsonMembers (record : Record) : (record.jsonMembers.map Prod.fst).Nodup := by
  cases record <;> simp [jsonMembers, fields]

theorem type_mem_jsonMembers (record : Record) :
    ("type", .str record.typeName) ∈ record.jsonMembers :=
  List.mem_append_right _ (List.mem_singleton_self _)

/-- The object tells the type of its record. -/
theorem typeName_eq_of_sorted_toJson_eq {record record' : Record}
    (h : record.toJson.sorted = record'.toJson.sorted) : record.typeName = record'.typeName := by
  have hmem : ("type", .str record.typeName) ∈ Json.sortedMembers record.jsonMembers :=
    (Json.perm_sortedMembers _).mem_iff.mpr
      (List.mem_map.mpr ⟨_, record.type_mem_jsonMembers, rfl⟩)
  have hmembers : Json.sortedMembers record.jsonMembers = Json.sortedMembers record'.jsonMembers :=
    Json.obj.inj h
  rw [hmembers] at hmem
  obtain ⟨member, hmember, heq⟩ := List.mem_map.mp ((Json.perm_sortedMembers _).mem_iff.mp hmem)
  have hname : member.1 = "type" := congrArg Prod.fst heq
  obtain rfl : member = ("type", .str record'.typeName) :=
    List.inj_on_of_nodup_map record'.nodup_jsonMembers hmember record'.type_mem_jsonMembers hname
  exact (Json.str.inj (congrArg Prod.snd heq)).symm

/-- Members give the same sorted objects exactly if they are the same up to the order of topics. -/
theorem map_sorted_toJson_eq_iff : ∀ {members members' : List GroupMember},
    (∀ member ∈ members, member.assignment.topics.Nodup) →
      (members.map (fun member => member.toJson.sorted)
          = members'.map (fun member => member.toJson.sorted)
        ↔ List.Forall₂ GroupMember.SameUpToTopicOrder members members')
  | [], [], _ => iff_of_true rfl .nil
  | [], _ :: _, _ => iff_of_false nofun nofun
  | _ :: _, [], _ => iff_of_false nofun nofun
  | member :: members, member' :: members', h => by
    have hmember := h member List.mem_cons_self
    have hmembers := fun other hother => h other (List.mem_cons_of_mem member hother)
    rw [List.map_cons, List.map_cons, List.cons.injEq, List.forall₂_cons,
      GroupMember.sorted_toJson_eq_iff hmember, map_sorted_toJson_eq_iff hmembers]

/-- Groups give the same sorted object exactly if they are the same up to the order of topics. -/
theorem sorted_toJson_groupMetadata_eq_iff {group group' : GroupMetadata}
    (h : (groupMetadata group).HasDistinctTopics) :
    (groupMetadata group).toJson.sorted = (groupMetadata group').toJson.sorted
      ↔ (groupMetadata group).SameUpToTopicOrder (groupMetadata group') := by
  rw [sorted_toJson_groupMetadata, sorted_toJson_groupMetadata]
  simp only [Json.obj.injEq, List.cons.injEq, Prod.mk.injEq, Json.str.injEq, Json.int.injEq,
    Json.arr.injEq, true_and, and_true, map_sorted_toJson_eq_iff h, Int16.toInt_inj,
    GroupHeader.sorted_toJson_inj]
  obtain ⟨groupId, version, header, members⟩ := group
  obtain ⟨groupId', version', header', members'⟩ := group'
  constructor
  · rintro ⟨rfl, rfl, hmembers, rfl⟩
    exact .groupMetadata _ hmembers
  · rintro ⟨_, hmembers⟩
    exact ⟨rfl, rfl, hmembers, rfl⟩

theorem sorted_toJson_offsetCommit_inj {commit commit' : OffsetCommit}
    (h : (offsetCommit commit).toJson.sorted = (offsetCommit commit').toJson.sorted) :
    commit = commit' := by
  rw [sorted_toJson_offsetCommit, sorted_toJson_offsetCommit] at h
  simp only [Json.obj.injEq, List.cons.injEq, Prod.mk.injEq, Json.str.injEq, Json.int.injEq,
    Json.ofInt?_int32_inj, Json.ofInt?_int64_inj, true_and, and_true, OffsetKey.sorted_toJson_inj,
    Int16.toInt_inj, Int64.toInt_inj] at h
  obtain ⟨⟨offset, epoch, metadata, committed, expires⟩, key, version⟩ := commit
  obtain ⟨⟨offset', epoch', metadata', committed', expires'⟩, key', version'⟩ := commit'
  obtain ⟨rfl, rfl, rfl, rfl, rfl, rfl, rfl⟩ := h
  rfl

/-- Records give the same sorted object exactly if they are the same up to the order of topics. -/
theorem sorted_toJson_eq_iff {record record' : Record} (h : record.HasDistinctTopics) :
    record.toJson.sorted = record'.toJson.sorted ↔ record.SameUpToTopicOrder record' := by
  constructor
  · intro heq
    have htype := typeName_eq_of_sorted_toJson_eq heq
    -- Two records of different types are ruled out by `htype`; the four pairs of one type are left.
    cases record <;> cases record' <;> simp only [typeName, String.reduceEq] at htype
    case groupMetadata.groupMetadata => exact (sorted_toJson_groupMetadata_eq_iff h).mp heq
    case groupTombstone.groupTombstone group group' =>
      rw [sorted_toJson_groupTombstone, sorted_toJson_groupTombstone] at heq
      cases heq
      exact .groupTombstone group
    case offsetCommit.offsetCommit commit commit' =>
      rw [sorted_toJson_offsetCommit_inj heq]
      exact .offsetCommit commit'
    case offsetTombstone.offsetTombstone key key' =>
      rw [sorted_toJson_offsetTombstone, sorted_toJson_offsetTombstone] at heq
      simp only [Json.obj.injEq, List.cons.injEq, Prod.mk.injEq, true_and, and_true,
        OffsetKey.sorted_toJson_inj] at heq
      rw [heq]
      exact .offsetTombstone key'
  · intro hsame
    cases hsame with
    | groupMetadata group hmembers =>
      exact (sorted_toJson_groupMetadata_eq_iff h).mpr (.groupMetadata group hmembers)
    | groupTombstone => rfl
    | offsetCommit => rfl
    | offsetTombstone => rfl

theorem distinct_toJson {record : Record} (h : record.HasDistinctTopics) :
    record.toJson.Distinct := by
  have hfields : ∀ member ∈ record.fields, member.2.Distinct := by
    cases record with
    | groupMetadata group =>
      have hmembers : ∀ item ∈ group.members.map GroupMember.toJson, item.Distinct := by
        intro item hitem
        obtain ⟨member, hmember, rfl⟩ := List.mem_map.mp hitem
        exact GroupMember.distinct_toJson (h member hmember)
      rw [fields]
      simp only [List.forall_mem_cons]
      exact ⟨.str _, .int _, group.header.distinct_toJson, .arr hmembers, List.forall_mem_nil _⟩
    | groupTombstone group => exact List.forall_mem_singleton.mpr (.str group)
    | offsetCommit commit =>
      rw [fields]
      simp only [List.forall_mem_cons]
      exact ⟨commit.key.distinct_toJson, .int _, .int _, .str _, .int _, Json.distinct_ofInt? _,
        Json.distinct_ofInt? _, List.forall_mem_nil _⟩
    | offsetTombstone key => exact List.forall_mem_singleton.mpr key.distinct_toJson
  have htype : ∀ member ∈ [("type", Json.str record.typeName)], member.2.Distinct :=
    List.forall_mem_singleton.mpr (.str _)
  exact .obj record.nodup_jsonMembers (List.forall_mem_append.mpr ⟨hfields, htype⟩)

end Record

/-! ## 2. Decoded records -/

/-- In a group that is decoded, the topics of each assignment are different. -/
theorem GroupMetadata.nodup_topics_of_decodeMessage {key value : Option (List UInt8)}
    {group : GroupMetadata} (h : (GroupMetadata.decodeMessage key value).result = .ok group) :
    ∀ member ∈ group.members, member.assignment.topics.Nodup := by
  cases value with
  | none =>
    rw [result_decodeMessage] at h
    cases hkey : GroupMetadata.decodeKey key with
    | error e =>
      rw [hkey] at h
      cases h
    | ok groupId =>
      rw [hkey] at h
      cases h
  | some value =>
    obtain ⟨groupId, stored, rest, -, -, -, rfl⟩ := exists_stored_of_decodeMessage h
    intro member hmember
    obtain ⟨member, -, rfl⟩ := List.mem_map.mp hmember
    rw [StoredMember.meaning, AssignmentRegion.meaning_eq_ofList]
    exact (Assignment.lastWins_ofList _).nodup

/-- What is decoded under another name was decoded. -/
theorem exists_of_map_eq_ok {α β : Type} {f : α → β} {result : Except DecodeError α} {b : β}
    (h : result.map f = .ok b) : ∃ a, result = .ok a ∧ f a = b := by
  cases result with
  | error e => cases h
  | ok a =>
    cases h
    exact ⟨a, rfl, rfl⟩

namespace Record

theorem hasDistinctTopics_of_decodeMessage {key value : Option (List UInt8)} {record : Record}
    (h : ((GroupMetadata.decodeMessage key value).map groupMetadata).result = .ok record) :
    record.HasDistinctTopics := by
  obtain ⟨group, hgroup, rfl⟩ := exists_of_map_eq_ok h
  exact GroupMetadata.nodup_topics_of_decodeMessage hgroup

theorem hasDistinctTopics_of_decode {key value : Option (List UInt8)} {record : Record}
    (h : (decode key value).result = .ok record) : record.HasDistinctTopics := by
  unfold decode at h
  split at h
  · cases h
  · split at h
    · cases h
    · next kind _ =>
      split at h
      · cases kind <;> obtain ⟨_, -, rfl⟩ := exists_of_map_eq_ok h <;> trivial
      · cases kind with
        | offsetCommit =>
          obtain ⟨_, -, rfl⟩ := exists_of_map_eq_ok h
          trivial
        | groupMetadata => exact hasDistinctTopics_of_decodeMessage h

end Record

theorem StoredRecord.hasDistinctTopics_of_decode {stored : StoredRecord} {record : Record}
    (h : stored.decode.result = .ok record) : record.HasDistinctTopics := by
  unfold decode at h
  split at h
  · exact Record.hasDistinctTopics_of_decodeMessage h
  · exact Record.hasDistinctTopics_of_decode h

/-! ## 3. Printed objects -/

/-- The text is the object of a record, but for the order of members, which have their names in
ascending order at every level.  It is written over several lines with each level indented by two spaces,
and there is a line break at its end.  Whoever reads it as JSON gets this object. -/
structure Record.IsPrinted (record : Record) (j : Json) (output : String) : Prop where
  object : record.toJson.Rearranges j
  ascending : j.Ascending
  layout : ∃ text, Json.Written .indented 0 j text ∧ output = String.ofList text ++ "\n"
  read : Json.read? output = some j

theorem Record.isPrinted_pretty {record : Record} (h : record.HasDistinctTopics) :
    record.IsPrinted record.toJson.sorted (record.toJson.pretty ++ "\n") where
  object := Json.rearranges_sorted _
  ascending := (Record.distinct_toJson h).ascending_sorted
  layout := ⟨_, Json.written_layout 0 _, rfl⟩
  read := Json.read?_pretty _

end ConsumerOffsets
