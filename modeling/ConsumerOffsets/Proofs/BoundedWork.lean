/-
# Announced members cost no more than the bytes that are there

A value announces how many members it has, and that number is compared with nothing: the members of
any number up to `2 ^ 31 - 1` are begun.  They do not get further than the bytes do.  Each member
takes off its least size, whatever it holds, and the first for which the bytes do not suffice is the
last that is begun.  So the loop over the members is bounded by the length of the value, and not by
what the value announces (`GroupMetadata.bounded_by_length`).

What is decoded is bounded in the same way: a group has no more members, topics and partitions than
bytes to store them in.  Topics that are stored again and overwritten only make the value longer
(`Assignment.sum_leastSize_ofList_le`).

The steps of a loop are not to be seen in its result.  `Decoder.listFromCounting` is the same loop
with a count of the elements begun, and `GroupMetadata.decodeMessageCounting` is the decoding of a
message with that loop in it.
-/
import Mathlib.Algebra.GroupWithZero.Nat
import Mathlib.Control.Monad.Basic
import ConsumerOffsets.Proofs.EarlyRefusal
import ConsumerOffsets.Proofs.OwnershipRuns

namespace ConsumerOffsets

open Binary Binary.Decoder

/-! ## 1. Loops that count -/

namespace Binary.Decoder

variable {α : Type} {item : Nat → Decoder α}

/-- The elements of a list as `listFrom` decodes them, and how many of them were begun.  One that
fails was begun too. -/
def listFromCounting (item : Nat → Decoder α) (index : Nat) :
    Nat → List UInt8 → Nat × Except DecodeError (List α × List UInt8)
  | 0, input => (0, .ok ([], input))
  | n + 1, input =>
    match item index input with
    | .error e => (1, .error e)
    | .ok (a, rest) =>
      let (begun, result) := listFromCounting item (index + 1) n rest
      (begun + 1, result.map fun (as, rest) => (a :: as, rest))

/-- Counting changes nothing. -/
theorem snd_listFromCounting : ∀ (n index : Nat) (input : List UInt8),
    (listFromCounting item index n input).2 = listFrom item index n input
  | 0, _, _ => rfl
  | n + 1, index, input => by
    cases hitem : item index input with
    | error e => rw [listFromCounting, hitem, listFrom, bind_of_error hitem]
    | ok p =>
      obtain ⟨a, rest⟩ := p
      have hrest := snd_listFromCounting n (index + 1) rest
      rw [listFromCounting, hitem, listFrom, bind_of_ok hitem]
      dsimp only
      rw [hrest]
      cases hlist : listFrom item (index + 1) n rest with
      | error e => rw [bind_of_error hlist]; rfl
      | ok q => rw [bind_of_ok hlist]; rfl

/-- How a loop ends whose elements take off at least `size` bytes each: with all elements, or in the
middle of the one that was begun last. -/
inductive LoopEnds (item : Nat → Decoder α) (size index n : Nat) (input : List UInt8) :
    Nat → Except DecodeError (List α × List UInt8) → Prop where
  | through {as : List α} {rest : List UInt8} (hcount : as.length = n)
      (hroom : rest.length + size * n ≤ input.length) :
      LoopEnds item size index n input n (.ok (as, rest))
  | stopped {k : Nat} {middle : List UInt8} {e : DecodeError}
      (hroom : middle.length + size * k ≤ input.length)
      (hitem : item (index + k) middle = .error e) :
      LoopEnds item size index n input (k + 1) (.error e)

/-- By recursion on the elements that are left. -/
theorem loopEnds_listFromCounting {size : Nat} (h : ∀ i, TakesAtLeast size (item i)) :
    ∀ (n index : Nat) (input : List UInt8), LoopEnds item size index n input
      (listFromCounting item index n input).1 (listFromCounting item index n input).2
  | 0, index, input => .through rfl (Nat.le_refl _)
  | n + 1, index, input => by
    rw [listFromCounting]
    cases hitem : item index input with
    -- the first element fails, and nothing was taken off in front of it
    | error e => exact .stopped (k := 0) (Nat.le_refl _) hitem
    | ok p =>
      obtain ⟨a, rest⟩ := p
      have hsize : rest.length + size ≤ input.length := h index _ _ _ hitem
      have ih := loopEnds_listFromCounting h n (index + 1) rest
      dsimp only
      generalize listFromCounting item (index + 1) n rest = run at ih ⊢
      obtain ⟨begun, result⟩ := run
      dsimp only at ih ⊢
      cases ih with
      | @through as left hcount hroom =>
        have htaken : left.length + size * (n + 1) ≤ input.length := by
          rw [Nat.mul_succ]
          omega
        exact .through (by rw [List.length_cons, hcount]) htaken
      | @stopped k middle e hroom hitem =>
        rw [Nat.add_right_comm, Nat.add_assoc] at hitem
        have htaken : middle.length + size * (k + 1) ≤ input.length := by
          rw [Nat.mul_succ]
          omega
        exact .stopped htaken hitem

/-! ## 2. The least that members take off -/

variable {decoder : Decoder α}

theorem takesAtLeast_region (field : FieldPath) : TakesAtLeast 4 (region field) :=
  (takesAtLeast_int field .four).bind (takesAtLeast_counted field)

theorem takesAtLeast_liftM (x : Except DecodeError α) : TakesAtLeast 0 (liftM x) := by
  intro input rest a h
  obtain ⟨-, rfl⟩ := liftM_eq_ok_iff.mp h
  exact Nat.le_refl _

theorem TakesAtLeast.optional {size : Nat} (h : TakesAtLeast size decoder) (present : Prop)
    [Decidable present] :
    TakesAtLeast (if present then size else 0) (Decoder.optional present decoder) := by
  unfold Decoder.optional
  split
  · exact h.bind_pure some
  · exact takesAtLeast_pure none

end Binary.Decoder

/-- The fewest bytes that a member takes up: three empty texts, a timeout, two empty regions, and in
version 1 a second timeout. -/
def GroupMember.minSize (version : Int) : Nat := if version = 1 then 22 else 18

theorem GroupMember.minSize_pos (version : Int) : 0 < GroupMember.minSize version := by
  unfold GroupMember.minSize
  split
  · decide
  · decide

theorem GroupMember.takesAtLeast_decode (version : Int) (place : FieldPath) :
    TakesAtLeast (GroupMember.minSize version) (GroupMember.decode version place) := by
  have hparts := (takesAtLeast_string (place.child "member_id")).bind fun memberId =>
    (takesAtLeast_string (place.child "client_id")).bind fun clientId =>
      (takesAtLeast_string (place.child "client_host")).bind fun clientHost =>
        ((takesAtLeast_int32 (place.child "rebalance_timeout")).optional (version = 1)).bind
          fun rebalanceTimeout =>
            (takesAtLeast_int32 (place.child "session_timeout")).bind fun sessionTimeout =>
              (takesAtLeast_region (place.child "subscription_bytes")).bind fun _ =>
                (takesAtLeast_region (place.child "assignment_bytes")).bind fun region =>
                  (takesAtLeast_liftM (Assignment.ofRegion place region)).bind_pure
                    fun assignment => GroupMember.mk memberId clientId clientHost sessionTimeout
                      rebalanceTimeout assignment
  refine TakesAtLeast.mono hparts ?_
  unfold GroupMember.minSize
  split
  · decide
  · decide

theorem GroupHeader.takesAtLeast_decode : TakesAtLeast 10 GroupHeader.decode :=
  (takesAtLeast_string _).bind fun _ =>
    (takesAtLeast_int32 _).bind fun _ =>
      (takesAtLeast_string _).bind fun _ => (takesAtLeast_string _).bind_pure _

/-! ## 3. What is decoded fits the bytes -/

/-- The fewest bytes in which a topic with these partitions is stored: an empty name, the number of
the partitions, and each of them. -/
def TopicPartitions.leastSize (entry : TopicPartitions) : Nat := 6 + 4 * entry.partitions.length

namespace Assignment

/-- The fewest bytes in which an assignment is stored.  One that is not empty has a version, the
number of its topics, and the size of the data of the user besides the topics. -/
def leastSize (assignment : Assignment) : Nat :=
  if assignment = [] then 0 else 10 + (assignment.map TopicPartitions.leastSize).sum

/-- One topic more adds its size at most, and less if it takes the place of another. -/
theorem sum_leastSize_assign_le (entry : TopicPartitions) : ∀ assignment : Assignment,
    ((assign entry assignment).map TopicPartitions.leastSize).sum
      ≤ (assignment.map TopicPartitions.leastSize).sum + entry.leastSize
  | [] => by simp [assign]
  | first :: rest => by
    have ih := sum_leastSize_assign_le entry rest
    unfold assign
    split
    · simp only [List.map_cons, List.sum_cons]
      omega
    · simp only [List.map_cons, List.sum_cons]
      omega

theorem sum_leastSize_foldl_assign_le : ∀ (entries : List TopicPartitions) (assignment : Assignment),
    ((entries.foldl (fun assignment entry => assign entry assignment) assignment).map
        TopicPartitions.leastSize).sum
      ≤ (assignment.map TopicPartitions.leastSize).sum
        + (entries.map TopicPartitions.leastSize).sum
  | [], assignment => Nat.le_refl _
  | entry :: entries, assignment => by
    have hrest := sum_leastSize_foldl_assign_le entries (assign entry assignment)
    have hfirst := sum_leastSize_assign_le entry assignment
    simp only [List.foldl_cons, List.map_cons, List.sum_cons]
    omega

/-- An assignment is no larger than the topics that were stored for it, overwritten ones included. -/
theorem sum_leastSize_ofList_le (entries : List TopicPartitions) :
    ((ofList entries).map TopicPartitions.leastSize).sum
      ≤ (entries.map TopicPartitions.leastSize).sum := by
  have h := sum_leastSize_foldl_assign_le entries []
  rwa [List.map_nil, List.sum_nil, Nat.zero_add] at h

end Assignment

theorem StoredTopic.leastSize_meaning_le (topic : StoredTopic) :
    topic.meaning.leastSize ≤ topic.encode.length := by
  have hleast : topic.meaning.leastSize = 6 + 4 * topic.partitions.length := rfl
  rw [hleast, topic.length_encode, Assignment.minTopicSize, Assignment.partitionSize]
  omega

theorem StoredTopic.sum_leastSize_meaning_le : ∀ topics : List StoredTopic,
    ((topics.map StoredTopic.meaning).map TopicPartitions.leastSize).sum
      ≤ (topics.flatMap StoredTopic.encode).length
  | [] => Nat.le_refl _
  | topic :: topics => by
    have hfirst := topic.leastSize_meaning_le
    have hrest := sum_leastSize_meaning_le topics
    simp only [List.map_cons, List.sum_cons, List.flatMap_cons, List.length_append]
    omega

theorem StoredAssignment.sum_leastSize_meaning_le (stored : StoredAssignment) :
    8 + (stored.meaning.map TopicPartitions.leastSize).sum ≤ stored.encode.length := by
  have hkept := Assignment.sum_leastSize_ofList_le (stored.topics.map StoredTopic.meaning)
  have hstored := StoredTopic.sum_leastSize_meaning_le stored.topics
  simp only [encode, List.length_append, Encoder.length_count, Encoder.length_region]
  rw [meaning]
  omega

theorem AssignmentRegion.leastSize_meaning_le : ∀ region : AssignmentRegion,
    region.meaning.leastSize ≤ region.encode.length
  | empty => Nat.le_refl _
  | holding version body slack => by
    have hbody := body.sum_leastSize_meaning_le
    rw [meaning, encode, Assignment.leastSize, List.length_append, List.length_append,
      Encoder.length_int16]
    split
    · exact Nat.zero_le _
    · omega

theorem StoredMember.Fits.leastSize_meaning_le {version : Int} {member : StoredMember}
    (h : member.Fits version) :
    GroupMember.minSize version + member.meaning.assignment.leastSize ≤ member.encode.length := by
  have hregion : member.meaning.assignment.leastSize ≤ member.assignment.encode.length :=
    member.assignment.leastSize_meaning_le
  -- the version says whether there is a second timeout
  have hrebalance := h.rebalanceTimeout
  simp only [encode, List.length_append, Encoder.length_string, Encoder.length_int32,
    Encoder.length_region]
  unfold GroupMember.minSize
  split
  · next hone =>
    obtain ⟨timeout, htimeout⟩ := Option.isSome_iff_exists.mp (hrebalance.mpr hone)
    simp only [htimeout, Option.elim_some, Encoder.length_int32]
    omega
  · omega

/-- The members of a group take up at least their least sizes. -/
theorem StoredMember.sum_leastSize_meaning_le {version : Int} : ∀ {members : List StoredMember},
    (∀ member ∈ members, member.Fits version) →
      GroupMember.minSize version * members.length
          + ((members.map meaning).map fun member => member.assignment.leastSize).sum
        ≤ (members.flatMap encode).length
  | [], _ => Nat.le_refl _
  | member :: members, h => by
    have hfirst := (h member List.mem_cons_self).leastSize_meaning_le
    have hrest := sum_leastSize_meaning_le fun m hm => h m (List.mem_cons_of_mem _ hm)
    simp only [List.length_cons, Nat.mul_succ, List.map_cons, List.sum_cons, List.flatMap_cons,
      List.length_append]
    omega

/-- The fewest bytes in which a group is stored. -/
def GroupMetadata.leastSize (group : GroupMetadata) : Nat :=
  16 + GroupMember.minSize group.version.toInt * group.members.length
    + (group.members.map fun member => member.assignment.leastSize).sum

theorem StoredGroup.Fits.leastSize_meaning_le {stored : StoredGroup} (h : stored.Fits)
    (groupId : String) : (stored.meaning groupId).leastSize ≤ stored.encode.length := by
  have hmembers := StoredMember.sum_leastSize_meaning_le h.members
  simp only [GroupMetadata.leastSize, meaning, encode, encodeBody, encodeHeader, List.length_append,
    List.length_map, Encoder.length_int16, Encoder.length_int32, Encoder.length_string,
    Encoder.length_count]
  omega

/-! ## 4. Ownerships -/

theorem Assignment.sum_length_partitions_le : ∀ assignment : Assignment,
    4 * (assignment.map fun entry => entry.partitions.length).sum
      ≤ (assignment.map TopicPartitions.leastSize).sum
  | [] => Nat.le_refl _
  | entry :: rest => by
    have ih := sum_length_partitions_le rest
    simp only [List.map_cons, List.sum_cons, TopicPartitions.leastSize] at ih ⊢
    omega

/-- A member owns no more partitions than its assignment has room for. -/
theorem GroupMember.length_ownerships_le (groupId : String) (member : GroupMember) :
    4 * (member.ownerships groupId).length ≤ member.assignment.leastSize := by
  have hpartitions := Assignment.sum_length_partitions_le member.assignment
  simp only [ownerships, List.length_flatMap, List.length_map]
  rw [Assignment.leastSize]
  split
  · next hempty => simp [hempty]
  · omega

theorem GroupMetadata.length_ownerships_le (group : GroupMetadata) :
    4 * group.ownerships.length ≤ group.leastSize := by
  have hmembers : ∀ members : List GroupMember,
      4 * (members.flatMap fun member => member.ownerships group.groupId).length
        ≤ (members.map fun member => member.assignment.leastSize).sum := by
    intro members
    induction members with
    | nil => exact Nat.le_refl _
    | cons member members ih =>
      have hfirst := member.length_ownerships_le group.groupId
      simp only [List.flatMap_cons, List.length_append, List.map_cons, List.sum_cons]
      omega
  have hgroup := hmembers group.members
  rw [ownerships, leastSize]
  omega

namespace Outcome.Reports

variable {α : Type} {outcome : Outcome α} {owned : α → List PartitionOwnership}

theorem ownerships_of_ok (h : outcome.Reports owned) {a : α} (ha : outcome.result = .ok a) :
    outcome.ownerships = owned a := by
  cases h with
  | succeed a' =>
    cases ha
    exact Event.filterMap_ownership?_map_owned (owned a)
  | fail subject reason e => cases ha

theorem ownerships_of_error (h : outcome.Reports owned) {e : DecodeError}
    (he : outcome.result = .error e) : outcome.ownerships = [] := by
  cases h with
  | succeed a => cases he
  | fail subject reason e' => rfl

end Outcome.Reports

/-! ## 5. The member that an error is about -/

namespace FieldPath

/-- One path is written as the other, or goes on from there. -/
def BeginsWith (path outer : FieldPath) : Prop := outer.render.toList <+: path.render.toList

theorem render_item (list : FieldPath) (index : Nat) : (list.item index).render.toList
    = list.render.toList ++ '[' :: (Nat.toDigits 10 index ++ [']']) := by
  simp [render]

theorem beginsWith_child (path : FieldPath) (name : String) :
    (path.child name).BeginsWith path := by
  refine ⟨".".toList ++ name.toList, ?_⟩
  simp [render]

/-- The bracket ends an index, whatever follows. -/
theorem takeWhile_toDigits (index : Nat) (t : List Char) :
    (Nat.toDigits 10 index ++ ']' :: t).takeWhile (· ≠ ']') = Nat.toDigits 10 index := by
  have hdigits : ∀ c ∈ Nat.toDigits 10 index, (decide (c ≠ ']')) = true := by
    intro c hc
    rw [decide_eq_true_eq]
    rintro rfl
    exact absurd (Nat.isDigit_of_mem_toDigits (by decide) (by decide) hc) (by decide)
  rw [List.takeWhile_append_of_pos hdigits, List.takeWhile_cons_of_neg (by simp), List.append_nil]

/-- A path does not begin with two elements of one list. -/
theorem BeginsWith.index_unique {path list : FieldPath} {i j : Nat}
    (hi : path.BeginsWith (list.item i)) (hj : path.BeginsWith (list.item j)) : i = j := by
  obtain ⟨t, ht⟩ := hi
  obtain ⟨u, hu⟩ := hj
  rw [← hu, render_item, render_item] at ht
  simp only [List.append_assoc, List.cons_append, List.nil_append, List.append_cancel_left_eq,
    List.cons.injEq, true_and] at ht
  -- what follows the bracket is of no account, and the digits in front of it are the index
  have hdigits := congrArg (List.takeWhile (· ≠ ']')) ht
  rw [takeWhile_toDigits, takeWhile_toDigits] at hdigits
  have hindex := congrArg (fun digits => Nat.ofDigitChars 10 digits 0) hdigits
  simpa only [Nat.ofDigitChars_ten_toDigits] using hindex

/-- No path that is written otherwise begins with a member. -/
theorem not_beginsWith_members {path : FieldPath}
    (h : ¬ "members[".toList <+: path.render.toList) (i : Nat) :
    ¬ path.BeginsWith (members.item i) := by
  intro hmember
  refine h (List.IsPrefix.trans ?_ hmember)
  rw [render_item]
  exact ⟨Nat.toDigits 10 i ++ [']'], rfl⟩

end FieldPath

/-- Nothing is wrong with a member but with a part of it. -/
theorem GroupMember.Failure.beginsWith {version : Int} {place : FieldPath} {e : DecodeError}
    (h : GroupMember.Failure version place e) : e.field.BeginsWith place := by
  have hpart : ∃ name, e.field = place.child name := by
    cases h with
    | memberId h => exact ⟨_, h.field_eq⟩
    | clientId h => exact ⟨_, h.field_eq⟩
    | clientHost h => exact ⟨_, h.field_eq⟩
    | rebalanceTimeout _ h => exact ⟨_, h.field_eq⟩
    | sessionTimeout h => exact ⟨_, h.field_eq⟩
    | subscription h => exact ⟨_, h.field_eq⟩
    | assignmentRegion h => exact ⟨_, h.field_eq⟩
    | assignment h =>
      cases h with
      | noVersion h => exact ⟨_, h.field_eq⟩
      | badVersion _ => exact ⟨_, rfl⟩
      | body _ => exact ⟨_, rfl⟩
  obtain ⟨name, hname⟩ := hpart
  rw [hname]
  exact FieldPath.beginsWith_child place name

/-! ## 6. Messages -/

/-- The error is about no member. -/
def DecodeError.OutsideMembers (e : DecodeError) : Prop :=
  ∀ i, ¬ e.field.BeginsWith (FieldPath.members.item i)

theorem DecodeError.outsideMembers_of_field_eq {e : DecodeError} {field : FieldPath}
    (h : e.field = field) (hfield : ¬ "members[".toList <+: field.render.toList) :
    e.OutsideMembers := by
  intro i
  rw [h]
  exact FieldPath.not_beginsWith_members hfield i

namespace GroupMetadata

/-- What is in front of the members, and how many members are announced. -/
def decodeFront : Decoder (GroupHeader × Nat) := do
  let header ← GroupHeader.decode
  let count ← Decoder.count (.root "member_count")
  return (header, count)

theorem takesAtLeast_decodeFront : TakesAtLeast 14 decodeFront :=
  GroupHeader.takesAtLeast_decode.bind fun _ => (takesAtLeast_count _).bind_pure _

theorem failsWith_decodeFront : FailsWith decodeFront DecodeError.OutsideMembers := by
  have hstring : ∀ field : FieldPath, ¬ "members[".toList <+: field.render.toList →
      FailsWith (Decoder.string field) DecodeError.OutsideMembers :=
    fun field hfield =>
      failsWith_string.mono fun h => DecodeError.outsideMembers_of_field_eq h.field_eq hfield
  have hgeneration : FailsWith (Decoder.int32 (.root "generation")) DecodeError.OutsideMembers :=
    failsWith_int32.mono fun h => DecodeError.outsideMembers_of_field_eq h.field_eq (by decide)
  have hcount : FailsWith (Decoder.count (.root "member_count")) DecodeError.OutsideMembers :=
    failsWith_count.mono fun h => DecodeError.outsideMembers_of_field_eq h.field_eq (by decide)
  have hheader : FailsWith GroupHeader.decode DecodeError.OutsideMembers :=
    (hstring (.root "protocol_type") (by decide)).bind fun _ =>
      hgeneration.bind fun _ =>
        (hstring (.root "protocol") (by decide)).bind fun _ =>
          (hstring (.root "leader") (by decide)).bind_pure _
  exact hheader.bind fun _ => hcount.bind_pure _

/-- A body as `decodeBody` decodes it, and how many members were begun. -/
def decodeBodyCounting (version : Int) (groupId : String) (input : List UInt8) :
    Nat × Except DecodeError (GroupMetadata × List UInt8) :=
  match decodeFront input with
  | .error e => (0, .error e)
  | .ok ((header, count), input) =>
    let (begun, members) := listFromCounting
      (fun i => GroupMember.decode version (FieldPath.members.item i)) 0 count input
    (begun, members.map fun (members, rest) =>
      ({ groupId, version := Int16.ofInt version, header, members }, rest))

theorem snd_decodeBodyCounting (version : Int) (groupId : String) (input : List UInt8) :
    (decodeBodyCounting version groupId input).2 = decodeBody version groupId input := by
  have hbody : decodeBody version groupId = decodeFront >>= fun (header, count) => do
      let members ← Decoder.list count fun i =>
        GroupMember.decode version (FieldPath.members.item i)
      return { groupId, version := Int16.ofInt version, header, members } := by
    simp only [decodeBody, decodeFront, bind_assoc, pure_bind]
  rw [decodeBodyCounting, hbody]
  cases hfront : decodeFront input with
  | error e => rw [bind_of_error hfront]
  | ok p =>
    obtain ⟨⟨header, count⟩, rest⟩ := p
    rw [bind_of_ok hfront]
    dsimp only
    rw [snd_listFromCounting, ← Decoder.list]
    cases hlist : Decoder.list count (fun i =>
        GroupMember.decode version (FieldPath.members.item i)) rest with
    | error e =>
      rw [bind_of_error hlist]
      rfl
    | ok q =>
      rw [bind_of_ok hlist]
      rfl

/-- A value as it is decoded under the name of a group, without the reports, and how many members
were begun. -/
def decodeValueCounting (group : String) :
    Option (List UInt8) → Nat × Except DecodeError GroupMetadata
  | none => (0, .error (.missingVersion none))
  | some bytes =>
    match Decoder.int16 .version bytes with
    | .error _ => (0, .error (.missingVersion (some bytes.length)))
    | .ok (version, body) =>
      if version.toInt ∉ supportedVersions then
        (0, .error (.unsupportedVersion .version version.toInt))
      else
        let (begun, result) := decodeBodyCounting version.toInt group body
        (begun, result.map Prod.fst)

/-- A message as `decodeMessage` decodes it, in the same way. -/
def decodeMessageCounting (key value : Option (List UInt8)) :
    Nat × Except DecodeError GroupMetadata :=
  match decodeKey key with
  | .error e => (0, .error e)
  | .ok group => decodeValueCounting group value

theorem snd_decodeValueCounting (group : String) (value : Option (List UInt8)) :
    (decodeValueCounting group value).2
      = (Outcome.ofValue (.groupMetadata (some group)) supportedVersions
          (fun version => decode version.toInt group) value).result := by
  cases value with
  | none => rfl
  | some bytes =>
    rw [decodeValueCounting, Outcome.ofValue]
    cases Decoder.int16 .version bytes with
    | error e => rfl
    | ok p =>
      obtain ⟨version, body⟩ := p
      dsimp only
      by_cases hversion : version.toInt ∈ supportedVersions
      · rw [if_neg (not_not_intro hversion), if_neg (not_not_intro hversion),
          decode_of_supported hversion]
        dsimp only
        rw [snd_decodeBodyCounting]
        cases decodeBody version.toInt group body <;> rfl
      · rw [if_pos hversion, if_pos hversion]
        rfl

/-- Counting the members that are begun changes no message. -/
theorem snd_decodeMessageCounting (key value : Option (List UInt8)) :
    (decodeMessageCounting key value).2 = (decodeMessage key value).result := by
  rw [result_decodeMessage, decodeMessageCounting]
  cases decodeKey key with
  | error e => rfl
  | ok group => exact snd_decodeValueCounting group value

/-- How the loop over the members of a value ends: something in front of it fails and no member is
begun, or a member fails, or all of them are decoded. -/
inductive MembersEnd (value : Option (List UInt8)) :
    Nat → Except DecodeError GroupMetadata → Prop where
  | unreached {e : DecodeError} (he : e.OutsideMembers) : MembersEnd value 0 (.error e)
  | stopped {version : Int16} {body : List UInt8} {k : Nat} {e : DecodeError}
      (hvalue : value = some (Encoder.int16 version ++ body))
      (hversion : version.toInt ∈ supportedVersions)
      (hroom : 14 + GroupMember.minSize version.toInt * k ≤ body.length)
      (he : e.field.BeginsWith (FieldPath.members.item k)) : MembersEnd value (k + 1) (.error e)
  | through (group : GroupMetadata) : MembersEnd value group.members.length (.ok group)

theorem membersEnd_decodeBodyCounting {version : Int16} (hversion : version.toInt ∈ supportedVersions)
    (groupId : String) (body : List UInt8) :
    MembersEnd (some (Encoder.int16 version ++ body))
      (decodeBodyCounting version.toInt groupId body).1
      ((decodeBodyCounting version.toInt groupId body).2.map Prod.fst) := by
  rw [decodeBodyCounting]
  cases hfront : decodeFront body with
  | error e => exact .unreached (failsWith_decodeFront _ _ hfront)
  | ok p =>
    obtain ⟨⟨header, count⟩, rest⟩ := p
    have hsize : rest.length + 14 ≤ body.length := takesAtLeast_decodeFront _ _ _ hfront
    have hloop := loopEnds_listFromCounting
      (fun i => GroupMember.takesAtLeast_decode version.toInt (FieldPath.members.item i)) count 0 rest
    dsimp only
    generalize listFromCounting
      (fun i => GroupMember.decode version.toInt (FieldPath.members.item i)) 0 count rest = run
      at hloop ⊢
    obtain ⟨begun, result⟩ := run
    dsimp only at hloop ⊢
    cases hloop with
    | @through members left hcount hroom =>
      subst hcount
      exact .through { groupId, version := Int16.ofInt version.toInt, header, members }
    | @stopped k middle e hroom hitem =>
      rw [Nat.zero_add] at hitem
      have hfailure := GroupMember.failsWith_decode _ _ _ _ hitem
      exact .stopped rfl hversion (by omega) hfailure.beginsWith

theorem membersEnd_decodeMessageCounting (key value : Option (List UInt8)) :
    MembersEnd value (decodeMessageCounting key value).1 (decodeMessageCounting key value).2 := by
  rw [decodeMessageCounting]
  cases hkey : decodeKey key with
  | error e =>
    refine .unreached ?_
    cases key with
    | none =>
      cases hkey
      exact DecodeError.outsideMembers_of_field_eq rfl (by decide)
    | some bytes =>
      obtain ⟨cause, rfl, hcause⟩ := failure_of_decodeKey hkey
      exact DecodeError.outsideMembers_of_field_eq hcause.field_eq (by decide)
  | ok group =>
    have hversion : ∀ e : DecodeError, e.field = .version → e.OutsideMembers :=
      fun e he => DecodeError.outsideMembers_of_field_eq he (by decide)
    cases value with
    | none => exact .unreached (hversion _ rfl)
    | some bytes =>
      dsimp only
      rw [decodeValueCounting]
      cases hread : Decoder.int16 .version bytes with
      | error e => exact .unreached (hversion _ rfl)
      | ok p =>
        obtain ⟨version, body⟩ := p
        obtain rfl := int16_eq_ok hread
        dsimp only
        split
        · exact .unreached (hversion _ rfl)
        · next hsupported =>
          exact membersEnd_decodeBodyCounting (Decidable.not_not.mp hsupported) group body

/-! ## 7. What a value can cost -/

theorem mem_supportedVersions {version : Int} :
    version ∈ supportedVersions ↔ version = 0 ∨ version = 1 := by
  simp [supportedVersions]

/-- A message without a value is not decoded. -/
theorem exists_value_of_decodeMessage {key value : Option (List UInt8)} {group : GroupMetadata}
    (h : (decodeMessage key value).result = .ok group) : ∃ bytes, value = some bytes := by
  cases value with
  | some bytes => exact ⟨bytes, rfl⟩
  | none =>
    rw [result_decodeMessage] at h
    cases hkey : decodeKey key with
    | error e =>
      rw [hkey] at h
      cases h
    | ok groupId =>
      rw [hkey] at h
      cases h

/-- Nothing that is decoded outgrows the value.  A group takes up its least size at most, with at
most one ownership for every four bytes.  The members that are begun are those of the group, or those
up to the one that fails, which the bytes in front of it pay for; a value that fails elsewhere has
none.  `decodeMessageCounting` counts them, and is `decodeMessage` otherwise. -/
theorem bounded_by_length (key value : Option (List UInt8)) :
    (decodeMessageCounting key value).2 = (decodeMessage key value).result
    ∧ (∀ group, (decodeMessage key value).result = .ok group →
      ∃ (version : Int16) (body : List UInt8), value = some (Encoder.int16 version ++ body)
        ∧ group.version = version ∧ (version.toInt = 0 ∨ version.toInt = 1)
        ∧ 16 + GroupMember.minSize version.toInt * group.members.length
            + (group.members.map fun member => member.assignment.leastSize).sum
          ≤ (Encoder.int16 version ++ body).length
        ∧ (decodeMessage key value).ownerships.length
          ≤ (Encoder.int16 version ++ body).length / 4
        ∧ (decodeMessageCounting key value).1 = group.members.length)
    ∧ (∀ e, (decodeMessage key value).result = .error e →
      (decodeMessage key value).ownerships = []
        ∧ (e.OutsideMembers → (decodeMessageCounting key value).1 = 0))
    ∧ ∀ e i, (decodeMessage key value).result = .error e →
      e.field.BeginsWith (FieldPath.members.item i) →
        ∃ (version : Int16) (body : List UInt8), value = some (Encoder.int16 version ++ body)
          ∧ (version.toInt = 0 ∨ version.toInt = 1)
          ∧ 16 + GroupMember.minSize version.toInt * i ≤ (Encoder.int16 version ++ body).length
          ∧ (decodeMessageCounting key value).1 = i + 1
          ∧ i + 1 ≤ ((Encoder.int16 version ++ body).length - 16)
            / GroupMember.minSize version.toInt + 1 := by
  have hends := membersEnd_decodeMessageCounting key value
  have hreports := reports_decodeMessage key value
  rw [snd_decodeMessageCounting] at hends
  generalize (decodeMessageCounting key value).1 = begun at hends ⊢
  refine ⟨snd_decodeMessageCounting key value, ?_, ?_, ?_⟩
  · intro group hgroup
    rw [hreports.ownerships_of_ok hgroup]
    obtain ⟨bytes, rfl⟩ := exists_value_of_decodeMessage hgroup
    obtain ⟨groupId, stored, rest, -, hfits, rfl, rfl⟩ := exists_stored_of_decodeMessage hgroup
    have hleast := hfits.leastSize_meaning_le groupId
    have howned := (stored.meaning groupId).length_ownerships_le
    have hlength : stored.encode.length
        ≤ (Encoder.int16 stored.version ++ (stored.encodeBody ++ rest)).length := by
      simp only [StoredGroup.encode, List.length_append]
      omega
    refine ⟨stored.version, stored.encodeBody ++ rest, ?_, rfl, mem_supportedVersions.mp hfits.version,
      Nat.le_trans hleast hlength, by omega, ?_⟩
    · rw [StoredGroup.encode, List.append_assoc]
    · rw [hgroup] at hends
      cases hends
      rfl
  · intro e he
    refine ⟨hreports.ownerships_of_error he, ?_⟩
    intro houtside
    rw [he] at hends
    cases hends with
    | unreached _ => rfl
    | stopped _ _ _ hmember => exact absurd hmember (houtside _)
  · intro e i he hi
    rw [he] at hends
    cases hends with
    | unreached houtside => exact absurd hi (houtside i)
    | @stopped version body k _ hvalue hversion hroom hmember =>
      obtain rfl := hi.index_unique hmember
      have hlength : 16 + GroupMember.minSize version.toInt * i
          ≤ (Encoder.int16 version ++ body).length := by
        rw [List.length_append, Encoder.length_int16]
        omega
      refine ⟨version, body, hvalue, mem_supportedVersions.mp hversion, hlength, rfl, ?_⟩
      refine Nat.succ_le_succ ((Nat.le_div_iff_mul_le (GroupMember.minSize_pos _)).mpr ?_)
      rw [Nat.mul_comm]
      omega

/-- One member with two partitions, which the value has room for.  And as many members announced as
can be, where the bytes end behind the first: a second one is begun, and no third. -/
theorem bounded_by_length_of_huge_count :
    let key : List UInt8 := [0, 1, 0x67]
    let owned : List UInt8 := [0, 0, 0, 0, 0, 0, 0, 0, 0, 0, 0, 0, 0, 0, 0, 1,
      0, 0, 0, 0, 0, 0, 0, 0, 0, 0, 0, 0, 0, 0, 0, 0, 0, 25,
      0, 0, 0, 0, 0, 1, 0, 1, 0x74, 0, 0, 0, 2, 0, 0, 0, 5, 0, 0, 0, 6, 0, 0, 0, 0]
    let value : List UInt8 := [0, 0, 0, 0, 0, 0, 0, 0, 0, 0, 0, 0, 0x7f, 0xff, 0xff, 0xff,
      0, 0, 0, 0, 0, 0, 0, 0, 0, 0, 0, 0, 0, 0, 0, 0, 0, 0]
    let e : DecodeError := .truncated ((FieldPath.members.item 1).child "member_id") 2 0
    ((decodeMessage (some key) (some owned)).result
        = .ok ⟨"g", 0, ⟨"", 0, "", ""⟩, [⟨"", "", "", 0, none, [⟨"t", [5, 6]⟩]⟩]⟩
      ∧ 16 + 18 * 1 + (10 + (6 + 4 * 2)) ≤ owned.length
      ∧ (decodeMessage (some key) (some owned)).ownerships.length = 2 ∧ 2 ≤ owned.length / 4
      ∧ (decodeMessageCounting (some key) (some owned)).1 = 1)
    ∧ (decodeMessage (some key) (some value)).result = .error e
    ∧ e.field.BeginsWith (FieldPath.members.item 1)
    ∧ 16 + 18 * 1 ≤ value.length
    ∧ (decodeMessageCounting (some key) (some value)).1 = 2
    ∧ 2 ≤ (value.length - 16) / 18 + 1 := by
  intro key owned value e
  have hsize : GroupMember.minSize (0 : Int16).toInt = 18 := rfl
  constructor
  · have hresult : (decodeMessage (some key) (some owned)).result
        = .ok ⟨"g", 0, ⟨"", 0, "", ""⟩, [⟨"", "", "", 0, none, [⟨"t", [5, 6]⟩]⟩]⟩ := by
      decide +kernel
    have howned : (decodeMessage (some key) (some owned)).ownerships.length = 2 := by
      decide +kernel
    obtain ⟨version, body, hvalue, hversion, -, hlength, hevents, hbegun⟩ :=
      (bounded_by_length (some key) (some owned)).2.1 _ hresult
    obtain rfl : (0 : Int16) = version := hversion
    rw [← Option.some.inj hvalue] at hlength hevents
    rw [hsize] at hlength
    rw [howned] at hevents
    exact ⟨hresult, hlength, howned, hevents, hbegun⟩
  · have hresult : (decodeMessage (some key) (some value)).result = .error e := by decide +kernel
    have hfield : e.field.BeginsWith (FieldPath.members.item 1) :=
      FieldPath.beginsWith_child _ "member_id"
    obtain ⟨version, body, hvalue, -, hlength, hbegun, hle⟩ :=
      (bounded_by_length (some key) (some value)).2.2.2 e 1 hresult hfield
    obtain rfl : version = 0 := by
      have hread := reads_int16 version .version body
      rw [← Option.some.inj hvalue] at hread
      have hzero : Decoder.int16 .version value = .ok (0, value.drop 2) := by decide +kernel
      rw [hzero] at hread
      cases hread
      rfl
    rw [← Option.some.inj hvalue] at hlength hle
    rw [hsize] at hlength hle
    exact ⟨hresult, hfield, hlength, hbegun, hle⟩

end GroupMetadata

end ConsumerOffsets
