/-
# All the ways in which a record fails

A record that cannot be decoded has one of a few things wrong with it: a field with too few bytes,
a length or a count that cannot be, a version that is not supported.  Which of them it can be
depends on the field.  The families of errors here say what can be wrong with a single field, and
from these what can be wrong with an assignment (`Assignment.Failure`), a member, a group, an offset
and, in the end, with a record of any kind (`Record.Failure`).

`Decoder.FailsWith` says that a decoder has no errors but those of a family.  It goes up the
decoders like `Decoder.Stable` does.  There is one place where this is not enough: the partitions
of a topic.  Their count is checked against the bytes that are there, so that none of them is ever
missing, and no error is about one (`Assignment.failsWith_decodeTopic`).

The main statement, `Record.decode_ok_or_failure`, is about every key and every value.
-/
import Mathlib.Control.Monad.Basic
import ConsumerOffsets.Binary.Script
import ConsumerOffsets.Proofs.Message

namespace ConsumerOffsets

open Binary

namespace DecodeError

/-! ## 1. What can be wrong with a field -/

/-- Fewer bytes are there than the field needs. -/
inductive Shortage (field : FieldPath) : DecodeError → Prop where
  | intro {needed available : Nat} (h : available < needed) :
      Shortage field (.truncated field needed available)

/-- What can be wrong with a text or a region: too few bytes, or a negative length. -/
inductive BadLength (field : FieldPath) : DecodeError → Prop where
  | short {e : DecodeError} (h : Shortage field e) : BadLength field e
  | negative {length : Int} (h : length < 0) : BadLength field (.negativeLength field length)

/-- What can be wrong with a count: too few bytes, or a negative number. -/
inductive BadCount (field : FieldPath) : DecodeError → Prop where
  | short {e : DecodeError} (h : Shortage field e) : BadCount field e
  | negative {count : Int} (h : count < 0) : BadCount field (.negativeCount field count)

/-- What can be wrong with a count that is compared with the bytes behind it: in addition, they can
be too few for as many elements of the given size. -/
inductive BadBoundedCount (itemSize : Nat) (field : FieldPath) : DecodeError → Prop where
  | count {e : DecodeError} (h : BadCount field e) : BadBoundedCount itemSize field e
  | excessive {count remaining : Nat} (h : remaining < count * itemSize) :
      BadBoundedCount itemSize field (.excessiveCount field count remaining)

theorem Shortage.field_eq {field : FieldPath} {e : DecodeError} (h : Shortage field e) :
    e.field = field := by
  cases h
  rfl

theorem BadLength.field_eq {field : FieldPath} {e : DecodeError} (h : BadLength field e) :
    e.field = field := by
  cases h with
  | short h => exact h.field_eq
  | negative _ => rfl

theorem BadCount.field_eq {field : FieldPath} {e : DecodeError} (h : BadCount field e) :
    e.field = field := by
  cases h with
  | short h => exact h.field_eq
  | negative _ => rfl

theorem BadBoundedCount.field_eq {itemSize : Nat} {field : FieldPath} {e : DecodeError}
    (h : BadBoundedCount itemSize field e) : e.field = field := by
  cases h with
  | count h => exact h.field_eq
  | excessive _ => rfl

end DecodeError

namespace Binary.Decoder

variable {α β : Type} {decoder : Decoder α} {errors : DecodeError → Prop}

/-! ## 2. Decoders with no errors but those of a family -/

/-- Whatever the decoder fails with is one of these errors. -/
def FailsWith (decoder : Decoder α) (errors : DecodeError → Prop) : Prop :=
  ∀ (input : List UInt8) (e : DecodeError), decoder input = .error e → errors e

theorem failsWith_pure (a : α) : FailsWith (pure a) errors := by
  intro input e h
  cases h

theorem failsWith_throw {e : DecodeError} (h : errors e) :
    FailsWith (throw e : Decoder α) errors := by
  intro input e' h'
  cases h'
  exact h

theorem failsWith_liftM {x : Except DecodeError α} (h : ∀ e, x = .error e → errors e) :
    FailsWith (liftM x) errors := by
  cases x with
  | ok a => exact failsWith_pure a
  | error e => exact failsWith_throw (h e rfl)

theorem FailsWith.mono {errors' : DecodeError → Prop} (h : FailsWith decoder errors)
    (hsub : ∀ {e}, errors e → errors' e) : FailsWith decoder errors' :=
  fun input e he => hsub (h input e he)

theorem FailsWith.bind {next : α → Decoder β} (h : FailsWith decoder errors)
    (h' : ∀ a, FailsWith (next a) errors) : FailsWith (decoder >>= next) errors := by
  intro input e he
  rcases bind_eq_error_iff.mp he with hfirst | ⟨a, middle, -, hnext⟩
  · exact h input e hfirst
  · exact h' a middle e hnext

theorem FailsWith.bind_pure (h : FailsWith decoder errors) (f : α → β) :
    FailsWith (decoder >>= fun a => pure (f a)) errors :=
  h.bind fun a => failsWith_pure (f a)

/-- A field that is not there has no errors. -/
theorem FailsWith.optional {present : Prop} [Decidable present]
    (h : present → FailsWith decoder errors) :
    FailsWith (Decoder.optional present decoder) errors := by
  unfold Decoder.optional
  split
  · next hpresent => exact (h hpresent).bind_pure some
  · exact failsWith_pure none

/-- By recursion on the number of elements. -/
theorem failsWith_listFrom {item : Nat → Decoder α} (h : ∀ i, FailsWith (item i) errors) :
    ∀ index n : Nat, FailsWith (listFrom item index n) errors
  | _, 0 => failsWith_pure []
  | index, n + 1 =>
    (h index).bind fun a => (failsWith_listFrom h (index + 1) n).bind_pure (a :: ·)

/-! ## 3. Single fields -/

section Fields

open DecodeError

variable {field : FieldPath}

theorem failsWith_bytes (size : Nat) : FailsWith (bytes size field) (Shortage field) := by
  intro input e h
  obtain ⟨hshort, rfl⟩ := bytes_eq_error h
  exact .intro hshort

theorem failsWith_int (width : Width) : FailsWith (int width field) (Shortage field) :=
  (failsWith_bytes width.size).bind_pure intOfBytes

theorem failsWith_int16 : FailsWith (int16 field) (Shortage field) :=
  (failsWith_int .two).bind_pure Int16.ofInt

theorem failsWith_int32 : FailsWith (int32 field) (Shortage field) :=
  (failsWith_int .four).bind_pure Int32.ofInt

theorem failsWith_int64 : FailsWith (int64 field) (Shortage field) :=
  (failsWith_int .eight).bind_pure Int64.ofInt

theorem failsWith_counted (length : Int) : FailsWith (counted length field) (BadLength field) := by
  unfold counted
  split
  · next hneg => exact failsWith_throw (.negative hneg)
  · exact (failsWith_bytes _).mono .short

theorem failsWith_string : FailsWith (string field) (BadLength field) :=
  ((failsWith_int .two).mono .short).bind fun length =>
    (failsWith_counted length).bind_pure Text.Utf8.decode

theorem failsWith_region : FailsWith (region field) (BadLength field) :=
  ((failsWith_int .four).mono .short).bind failsWith_counted

theorem failsWith_count : FailsWith (count field) (BadCount field) := by
  refine ((failsWith_int .four).mono .short).bind fun n => ?_
  split
  · next hneg => exact (failsWith_throw (.negative hneg)).bind fun _ => failsWith_pure _
  · exact failsWith_pure _

theorem failsWith_boundedCount (itemSize : Nat) :
    FailsWith (boundedCount itemSize field) (BadBoundedCount itemSize field) := by
  refine (failsWith_count.mono .count).bind fun n => FailsWith.bind ?_ fun left => ?_
  · intro input e h
    cases h
  · split
    · next hleft => exact (failsWith_throw (.excessive hleft)).bind fun _ => failsWith_pure _
    · exact failsWith_pure _

end Fields

/-! ## 4. Elements whose count was checked -/

theorem exists_bytes_of_le {size : Nat} (field : FieldPath) {input : List UInt8}
    (h : size ≤ input.length) :
    ∃ raw rest, bytes size field input = .ok (raw, rest) ∧ rest.length + size = input.length := by
  refine ⟨input.take size, input.drop size, ?_, ?_⟩
  · unfold bytes
    rw [if_neg (by rw [List.length_take]; omega)]
  · rw [List.length_drop]
    omega

theorem exists_int32_of_le (field : FieldPath) {input : List UInt8} (h : 4 ≤ input.length) :
    ∃ n rest, int32 field input = .ok (n, rest) ∧ rest.length + 4 = input.length := by
  obtain ⟨raw, rest, hraw, hrest⟩ := exists_bytes_of_le field h
  have hint : int .four field input = .ok (intOfBytes raw, rest) := bind_of_ok hraw
  exact ⟨Int32.ofInt (intOfBytes raw), rest, bind_of_ok hint, hrest⟩

/-- With four bytes for each of them, integers are read whatever the bytes are. -/
theorem exists_listFrom_int32 (place : Nat → FieldPath) {n : Nat} :
    ∀ (index : Nat) {input : List UInt8}, n * 4 ≤ input.length →
      ∃ numbers rest, listFrom (fun j => int32 (place j)) index n input = .ok (numbers, rest) := by
  induction n with
  | zero =>
    intro index input _
    exact ⟨[], input, rfl⟩
  | succ n ih =>
    intro index input h
    have hfour : 4 ≤ input.length := by omega
    obtain ⟨a, middle, ha, hmiddle⟩ := exists_int32_of_le (place index) hfour
    have hleft : n * 4 ≤ middle.length := by omega
    obtain ⟨numbers, rest, hnumbers⟩ := ih (index + 1) hleft
    refine ⟨a :: numbers, rest, ?_⟩
    rw [listFrom, bind_of_ok ha, bind_of_ok hnumbers]
    rfl

end Binary.Decoder

open Binary.Decoder DecodeError

/-! ## 5. Assignments -/

/-- What can be wrong with the body of an assignment. -/
inductive Assignment.Failure (field : FieldPath) : DecodeError → Prop where
  | topicCount {e : DecodeError}
      (h : BadBoundedCount Assignment.minTopicSize (field.child "topic_count") e) : Failure field e
  | topicName (i : Nat) {e : DecodeError}
      (h : BadLength (((field.child "topics").item i).child "name") e) : Failure field e
  | partitionCount (i : Nat) {e : DecodeError}
      (h : BadBoundedCount Assignment.partitionSize
        (((field.child "topics").item i).child "partition_count") e) : Failure field e
  | userData {e : DecodeError} (h : BadLength (field.child "user_data") e) : Failure field e

/-- No error is about a partition: the count that was read before them was checked. -/
theorem Assignment.failsWith_decodeTopic (field : FieldPath) (i : Nat) :
    FailsWith (Assignment.decodeTopic ((field.child "topics").item i))
      (Assignment.Failure field) := by
  intro input e h
  rcases bind_eq_error_iff.mp h with hname | ⟨topic, _, -, h⟩
  · exact .topicName i (failsWith_string _ _ hname)
  rcases bind_eq_error_iff.mp h with hcount | ⟨count, left, hcount, h⟩
  · exact .partitionCount i (failsWith_boundedCount _ _ _ hcount)
  have hroom : count * Assignment.partitionSize ≤ left.length := (boundedCount_eq_ok hcount).1.2
  obtain ⟨partitions, rest, hpartitions⟩ :=
    exists_listFrom_int32 (fun j => (((field.child "topics").item i).child "partitions").item j) 0
      hroom
  rw [Decoder.list, bind_of_ok hpartitions] at h
  cases h

theorem Assignment.failsWith_decode (field : FieldPath) :
    FailsWith (Assignment.decode field) (Assignment.Failure field) :=
  ((failsWith_boundedCount _).mono .topicCount).bind fun count =>
    (failsWith_listFrom (Assignment.failsWith_decodeTopic field) 0 count).bind fun _ =>
      (failsWith_region.mono .userData).bind_pure _

/-- What can be wrong inside the region of an assignment, for the member at the given place.  What is
wrong with the body is the cause of an error about the assignment as a whole. -/
inductive Assignment.RegionFailure (place : FieldPath) : DecodeError → Prop where
  | noVersion {e : DecodeError} (h : Shortage (place.child "consumer_protocol_version") e) :
      RegionFailure place e
  | badVersion {version : Int} (h : version < 0) :
      RegionFailure place
        (.invalidAssignmentVersion (place.child "consumer_protocol_version") version)
  | body {cause : DecodeError} (h : Assignment.Failure (place.child "assignment") cause) :
      RegionFailure place (.assignmentFailed (place.child "assignment") cause)

theorem Assignment.failure_of_ofRegion {place : FieldPath} {region : List UInt8} {e : DecodeError}
    (h : Assignment.ofRegion place region = .error e) : Assignment.RegionFailure place e := by
  have hne : region ≠ [] := by
    rintro rfl
    cases h
  rw [Assignment.ofRegion_of_ne_nil hne] at h
  split at h
  · next hversion =>
    cases h
    exact .noVersion (failsWith_int _ _ _ hversion)
  · split at h
    · next hneg =>
      cases h
      exact .badVersion hneg
    · split at h
      · cases h
      · next hbody =>
        cases h
        exact .body (Assignment.failsWith_decode _ _ _ hbody)

/-! ## 6. Groups -/

/-- What can be wrong with a member that lies at the given place. -/
inductive GroupMember.Failure (version : Int) (place : FieldPath) : DecodeError → Prop where
  | memberId {e : DecodeError} (h : BadLength (place.child "member_id") e) :
      Failure version place e
  | clientId {e : DecodeError} (h : BadLength (place.child "client_id") e) :
      Failure version place e
  | clientHost {e : DecodeError} (h : BadLength (place.child "client_host") e) :
      Failure version place e
  | rebalanceTimeout {e : DecodeError} (hversion : version = 1)
      (h : Shortage (place.child "rebalance_timeout") e) : Failure version place e
  | sessionTimeout {e : DecodeError} (h : Shortage (place.child "session_timeout") e) :
      Failure version place e
  | subscription {e : DecodeError} (h : BadLength (place.child "subscription_bytes") e) :
      Failure version place e
  | assignmentRegion {e : DecodeError} (h : BadLength (place.child "assignment_bytes") e) :
      Failure version place e
  | assignment {e : DecodeError} (h : Assignment.RegionFailure place e) : Failure version place e

theorem GroupMember.failsWith_decode (version : Int) (place : FieldPath) :
    FailsWith (GroupMember.decode version place) (GroupMember.Failure version place) :=
  (failsWith_string.mono .memberId).bind fun _ =>
    (failsWith_string.mono .clientId).bind fun _ =>
      (failsWith_string.mono .clientHost).bind fun _ =>
        (FailsWith.optional fun h => failsWith_int32.mono (.rebalanceTimeout h)).bind fun _ =>
          (failsWith_int32.mono .sessionTimeout).bind fun _ =>
            (failsWith_region.mono .subscription).bind fun _ =>
              (failsWith_region.mono .assignmentRegion).bind fun _ =>
                (failsWith_liftM fun _ he => .assignment (Assignment.failure_of_ofRegion he)).bind_pure _

/-- What can be wrong with the body of a group's value. -/
inductive GroupMetadata.Failure (version : Int) : DecodeError → Prop where
  | protocolType {e : DecodeError} (h : BadLength (.root "protocol_type") e) : Failure version e
  | generation {e : DecodeError} (h : Shortage (.root "generation") e) : Failure version e
  | protocol {e : DecodeError} (h : BadLength (.root "protocol") e) : Failure version e
  | leader {e : DecodeError} (h : BadLength (.root "leader") e) : Failure version e
  | memberCount {e : DecodeError} (h : BadCount (.root "member_count") e) : Failure version e
  | member (i : Nat) {e : DecodeError}
      (h : GroupMember.Failure version (FieldPath.members.item i) e) : Failure version e

theorem GroupHeader.failsWith_decode (version : Int) :
    FailsWith GroupHeader.decode (GroupMetadata.Failure version) :=
  (failsWith_string.mono .protocolType).bind fun _ =>
    (failsWith_int32.mono .generation).bind fun _ =>
      (failsWith_string.mono .protocol).bind fun _ =>
        (failsWith_string.mono .leader).bind_pure _

theorem GroupMetadata.failsWith_decodeBody (version : Int) (groupId : String) :
    FailsWith (GroupMetadata.decodeBody version groupId) (GroupMetadata.Failure version) :=
  (GroupHeader.failsWith_decode version).bind fun _ =>
    (failsWith_count.mono .memberCount).bind fun count =>
      (failsWith_listFrom (fun i => (GroupMember.failsWith_decode version _).mono (.member i))
        0 count).bind_pure _

/-! ## 7. Offsets -/

/-- What can be wrong with the body of an offset's value. -/
inductive OffsetCommit.Failure (version : Int) : DecodeError → Prop where
  | offset {e : DecodeError} (h : Shortage (.root "offset") e) : Failure version e
  | leaderEpoch {e : DecodeError} (hversion : 3 ≤ version) (h : Shortage (.root "leader_epoch") e) :
      Failure version e
  | metadata {e : DecodeError} (h : BadLength (.root "metadata") e) : Failure version e
  | commitTimestamp {e : DecodeError} (h : Shortage (.root "commit_timestamp") e) :
      Failure version e
  | expireTimestamp {e : DecodeError} (hversion : version = 1)
      (h : Shortage (.root "expire_timestamp") e) : Failure version e

theorem OffsetCommit.failsWith_decode (key : OffsetKey) (version : Int16) :
    FailsWith (OffsetCommit.decode key version) (OffsetCommit.Failure version.toInt) := by
  have hvalue : FailsWith (OffsetValue.decode version.toInt) (OffsetCommit.Failure version.toInt) :=
    (failsWith_int64.mono .offset).bind fun _ =>
      (FailsWith.optional fun h => failsWith_int32.mono (.leaderEpoch h)).bind fun _ =>
        (failsWith_string.mono .metadata).bind fun _ =>
          (failsWith_int64.mono .commitTimestamp).bind fun _ =>
            (FailsWith.optional fun h => failsWith_int64.mono (.expireTimestamp h)).bind_pure _
  exact hvalue.bind_pure _

/-! ## 8. Values and keys -/

/-- What can be wrong with a value that is there: it is too short for a version, its version is not
supported, or its body has something wrong with it. -/
inductive ValueFailure (supported : List Int) (body : Int → DecodeError → Prop) :
    DecodeError → Prop where
  | noVersion {present : Nat} (h : present < versionSize) :
      ValueFailure supported body (.missingVersion (some present))
  | unsupportedVersion {version : Int} (h : version ∉ supported) :
      ValueFailure supported body (.unsupportedVersion .version version)
  | body {version : Int} (hversion : version ∈ supported) {e : DecodeError} (h : body version e) :
      ValueFailure supported body e

theorem Outcome.valueFailure_of_ofValue {α : Type} {subject : Subject} {supported : List Int}
    {body : Int16 → Decoder α} {errors : Int → DecodeError → Prop}
    (hbody : ∀ version : Int16, version.toInt ∈ supported →
      FailsWith (body version) (errors version.toInt))
    {bytes : List UInt8} {e : DecodeError}
    (h : (ofValue subject supported body (some bytes)).result = .error e) :
    ValueFailure supported errors e := by
  rcases Nat.lt_or_ge bytes.length 2 with hshort | hlong
  · rw [ofValue_of_short hshort] at h
    cases h
    exact .noVersion hshort
  obtain ⟨version, input, rfl⟩ := exists_eq_int16_append hlong
  by_cases hversion : version.toInt ∈ supported
  · rw [ofValue_of_supported hversion] at h
    cases hrun : body version input with
    | error e' =>
      rw [hrun] at h
      cases h
      exact .body hversion (hbody version hversion _ _ hrun)
    | ok p =>
      rw [hrun] at h
      cases h
  · rw [ofValue_of_unsupported hversion] at h
    cases h
    exact .unsupportedVersion hversion

/-- What can be wrong with the key of an offset. -/
inductive OffsetKey.Failure : DecodeError → Prop where
  | groupId {e : DecodeError} (h : BadLength .keyGroup e) : Failure e
  | topic {e : DecodeError} (h : BadLength .keyTopic e) : Failure e
  | partition {e : DecodeError} (h : Shortage .keyPartition e) : Failure e

theorem OffsetKey.failsWith_decodeBody : FailsWith OffsetKey.decodeBody OffsetKey.Failure :=
  (failsWith_string.mono .groupId).bind fun _ =>
    (failsWith_string.mono .topic).bind fun _ =>
      (failsWith_int32.mono .partition).bind_pure _

theorem OffsetKey.failure_of_decode {bytes : List UInt8} {e : DecodeError}
    (h : OffsetKey.decode (some bytes) = .error e) :
    ∃ cause, e = .invalidKey cause ∧ OffsetKey.Failure cause := by
  unfold OffsetKey.decode at h
  dsimp only at h
  split at h
  · cases h
  · next cause hcause =>
    cases h
    exact ⟨cause, rfl, OffsetKey.failsWith_decodeBody _ _ hcause⟩

theorem GroupMetadata.failure_of_decodeKey {bytes : List UInt8} {e : DecodeError}
    (h : GroupMetadata.decodeKey (some bytes) = .error e) :
    ∃ cause, e = .invalidKey cause ∧ BadLength .keyGroup cause := by
  unfold GroupMetadata.decodeKey at h
  dsimp only at h
  split at h
  · cases h
  · next cause hcause =>
    cases h
    exact ⟨cause, rfl, failsWith_string _ _ hcause⟩

/-! ## 9. Records -/

/-- The version of the key stands for this kind of record. -/
def RecordKind.IsOf (key : Option (List UInt8)) (kind : RecordKind) : Prop :=
  ∃ (version : Int16) (body : List UInt8), splitKey key = .ok (version, body)
    ∧ RecordKind.ofKeyVersion? version.toInt = some kind

/-- What can be wrong with the bytes behind a key's version. -/
def RecordKind.KeyFailure : RecordKind → DecodeError → Prop
  | .groupMetadata => BadLength .keyGroup
  | .offsetCommit => OffsetKey.Failure

/-- What can be wrong with the value of a record of this kind. -/
def RecordKind.ValueFailure : RecordKind → DecodeError → Prop
  | .groupMetadata => ConsumerOffsets.ValueFailure [0, 1] GroupMetadata.Failure
  | .offsetCommit => ConsumerOffsets.ValueFailure [0, 1, 2, 3] OffsetCommit.Failure

/-- What can be wrong with a record.  An error about the key has no cause if there is no key, and
otherwise the error of the field that is at fault. -/
inductive Record.Failure (key value : Option (List UInt8)) : DecodeError → Prop where
  | noKey (hkey : key = none) : Failure key value (.missingKey .keyVersion)
  | noKeyVersion (hkey : key ≠ none) {cause : DecodeError} (h : Shortage .keyVersion cause) :
      Failure key value (.invalidKey cause)
  | keyVersion {version : Int} (hkey : key ≠ none) (h : version ∉ [0, 1, 2]) :
      Failure key value (.unsupportedVersion .keyVersion version)
  | keyBody {kind : RecordKind} (hkind : kind.IsOf key) {cause : DecodeError}
      (h : kind.KeyFailure cause) : Failure key value (.invalidKey cause)
  | value {kind : RecordKind} (hkind : kind.IsOf key) (hvalue : value ≠ none) {e : DecodeError}
      (h : kind.ValueFailure e) : Failure key value e

theorem failure_of_splitKey {key : Option (List UInt8)} {e : DecodeError}
    (h : splitKey key = .error e) :
    key = none ∧ e = .missingKey .keyVersion
      ∨ key ≠ none ∧ ∃ cause, e = .invalidKey cause ∧ Shortage .keyVersion cause := by
  cases key with
  | none =>
    cases h
    exact Or.inl ⟨rfl, rfl⟩
  | some bytes =>
    right
    refine ⟨Option.some_ne_none bytes, ?_⟩
    unfold splitKey at h
    dsimp only at h
    cases hread : Decoder.int16 .keyVersion bytes with
    | ok p =>
      rw [hread] at h
      cases h
    | error cause =>
      rw [hread] at h
      cases h
      exact ⟨cause, rfl, failsWith_int16 _ _ hread⟩

theorem RecordKind.notMem_of_ofKeyVersion? {version : Int}
    (h : RecordKind.ofKeyVersion? version = none) : version ∉ [0, 1, 2] := by
  unfold RecordKind.ofKeyVersion? at h
  split at h
  · cases h
  · split at h
    · cases h
    · simp only [List.mem_cons, List.not_mem_nil, or_false]
      omega

/-- Changing what was decoded changes no error. -/
theorem error_of_map_eq_error {α β : Type} {f : α → β} {result : Except DecodeError α}
    {e : DecodeError} (h : result.map f = .error e) : result = .error e := by
  cases result with
  | error e' =>
    cases h
    rfl
  | ok a => cases h

/-- A message whose key is decoded fails for its value. -/
theorem GroupMetadata.valueFailure_of_decodeMessage {key : Option (List UInt8)}
    {value : List UInt8} {group : String} (hkey : GroupMetadata.decodeKey key = .ok group)
    {e : DecodeError} (h : (GroupMetadata.decodeMessage key (some value)).result = .error e) :
    RecordKind.groupMetadata.ValueFailure e := by
  rw [GroupMetadata.result_decodeMessage, hkey] at h
  refine Outcome.valueFailure_of_ofValue (fun version hversion => ?_) h
  rw [GroupMetadata.decode_of_supported hversion]
  exact GroupMetadata.failsWith_decodeBody _ group

theorem OffsetCommit.valueFailure_of_decodeMessage {key : Option (List UInt8)}
    {value : List UInt8} {offsetKey : OffsetKey} (hkey : OffsetKey.decode key = .ok offsetKey)
    {e : DecodeError} (h : (OffsetCommit.decodeMessage key (some value)).result = .error e) :
    RecordKind.offsetCommit.ValueFailure e := by
  rw [OffsetCommit.result_decodeMessage, hkey] at h
  exact Outcome.valueFailure_of_ofValue
    (fun version _ => OffsetCommit.failsWith_decode offsetKey version) h

/-- A message fails for its key or for its value. -/
theorem GroupMetadata.failure_of_decodeMessage {key value : List UInt8} {e : DecodeError}
    (h : (GroupMetadata.decodeMessage (some key) (some value)).result = .error e) :
    (∃ cause, e = .invalidKey cause ∧ RecordKind.groupMetadata.KeyFailure cause)
      ∨ RecordKind.groupMetadata.ValueFailure e := by
  cases hkey : GroupMetadata.decodeKey (some key) with
  | error e' =>
    rw [GroupMetadata.result_decodeMessage, hkey] at h
    cases h
    exact Or.inl (GroupMetadata.failure_of_decodeKey hkey)
  | ok group => exact Or.inr (GroupMetadata.valueFailure_of_decodeMessage hkey h)

theorem OffsetCommit.failure_of_decodeMessage {key value : List UInt8} {e : DecodeError}
    (h : (OffsetCommit.decodeMessage (some key) (some value)).result = .error e) :
    (∃ cause, e = .invalidKey cause ∧ RecordKind.offsetCommit.KeyFailure cause)
      ∨ RecordKind.offsetCommit.ValueFailure e := by
  cases hkey : OffsetKey.decode (some key) with
  | error e' =>
    rw [OffsetCommit.result_decodeMessage, hkey] at h
    cases h
    exact Or.inl (OffsetKey.failure_of_decode hkey)
  | ok offsetKey => exact Or.inr (OffsetCommit.valueFailure_of_decodeMessage hkey h)

namespace Record

theorem failure_of_decodeTombstone {kind : RecordKind} {key : List UInt8} {e : DecodeError}
    (h : (decodeTombstone kind key).result = .error e) :
    ∃ cause, e = .invalidKey cause ∧ kind.KeyFailure cause := by
  cases kind with
  | groupMetadata =>
    exact GroupMetadata.failure_of_decodeKey (error_of_map_eq_error h)
  | offsetCommit =>
    exact OffsetKey.failure_of_decode (error_of_map_eq_error h)

theorem failure_of_decodeLive {kind : RecordKind} {key value : List UInt8} {e : DecodeError}
    (h : (decodeLive kind key value).result = .error e) :
    (∃ cause, e = .invalidKey cause ∧ kind.KeyFailure cause) ∨ kind.ValueFailure e := by
  cases kind with
  | groupMetadata => exact GroupMetadata.failure_of_decodeMessage (error_of_map_eq_error h)
  | offsetCommit => exact OffsetCommit.failure_of_decodeMessage (error_of_map_eq_error h)

theorem failure_of_decode {key value : Option (List UInt8)} {e : DecodeError}
    (h : (decode key value).result = .error e) : Failure key value e := by
  unfold decode at h
  split at h
  · next hsplit =>
    cases h
    rcases failure_of_splitKey hsplit with ⟨hkey, rfl⟩ | ⟨hkey, cause, rfl, hcause⟩
    · exact .noKey hkey
    · exact .noKeyVersion hkey hcause
  · next version body hsplit =>
    have hkey : key ≠ none := by
      rintro rfl
      cases hsplit
    split at h
    · next hversion =>
      cases h
      exact .keyVersion hkey (RecordKind.notMem_of_ofKeyVersion? hversion)
    · next kind hversion =>
      have hkind : kind.IsOf key := ⟨version, body, hsplit, hversion⟩
      split at h
      · obtain ⟨cause, rfl, hcause⟩ := failure_of_decodeTombstone h
        exact .keyBody hkind hcause
      · rcases failure_of_decodeLive h with ⟨cause, rfl, hcause⟩ | hvalue
        · exact .keyBody hkind hcause
        · exact .value hkind (Option.some_ne_none _) hvalue

end Record

/-! ## 10. Nothing else can go wrong -/

/-- Integers are read in widths that integers are stored in. -/
theorem Binary.Read.run_int_ne_unsupportedWidth (c : Cursor) (width : Width) (field : FieldPath)
    (size : Int) : (Read.int width.size field).run c ≠ .error (.unsupportedWidth size) := by
  intro h
  simp only [Read.run, Width.ofSize?_size] at h
  cases hread : c.run (Decoder.int width field) with
  | error e =>
    rw [hread] at h
    cases h
  | ok p =>
    rw [hread] at h
    cases h

/-- A version that was read from two bytes is not refused by a cast to two bytes. -/
theorem OffsetCommit.decodeAt_toInt {ε : Type} {cast : Int → Except ε Int16}
    (hcast : ∀ version : Int16, cast version.toInt = .ok version) (key : OffsetKey)
    (version : Int16) (input : List UInt8) :
    OffsetCommit.decodeAt cast key version.toInt input
      = (OffsetCommit.decode key version input).map fun (commit, rest) => (.ok commit, rest) := by
  cases hvalue : OffsetValue.decode version.toInt input with
  | error e =>
    rw [OffsetCommit.decodeAt, OffsetCommit.decode, bind_of_error hvalue, bind_of_error hvalue]
    rfl
  | ok p =>
    obtain ⟨value, rest⟩ := p
    rw [OffsetCommit.decodeAt, OffsetCommit.decode, bind_of_ok hvalue, bind_of_ok hvalue, hcast]
    rfl

/-- Every key and every value give a record or one of the errors that `Record.Failure` lists.
Besides errors, a read could be of a width that there is not, and a number could lie outside the
range that it is stored in, so that a cast to that range refuses it: neither occurs. -/
theorem Record.decode_ok_or_failure (key value : Option (List UInt8)) :
    ((∃ record, (Record.decode key value).result = .ok record)
      ∨ ∃ e, (Record.decode key value).result = .error e ∧ Record.Failure key value e)
    ∧ (∀ (c : Cursor) (width : Width) (field : FieldPath) (size : Int),
        (Read.int width.size field).run c ≠ .error (.unsupportedWidth size))
    ∧ (∀ (width : Width) (field : FieldPath) (input rest : List UInt8) (n : Int),
        Decoder.int width field input = .ok (n, rest) →
          -(byteRange width.size : Int) ≤ 2 * n ∧ 2 * n < byteRange width.size)
    ∧ ∀ (ε : Type) (cast : Int → Except ε Int16),
        (∀ version : Int16, cast version.toInt = .ok version) →
          ∀ (offsetKey : OffsetKey) (version : Int16) (input : List UInt8),
            OffsetCommit.decodeAt cast offsetKey version.toInt input
              = (OffsetCommit.decode offsetKey version input).map
                  fun (commit, rest) => (.ok commit, rest) := by
  refine ⟨?_, Read.run_int_ne_unsupportedWidth, ?_, fun _ _ => OffsetCommit.decodeAt_toInt⟩
  · cases hresult : (Record.decode key value).result with
    | ok record => exact Or.inl ⟨record, rfl⟩
    | error e => exact Or.inr ⟨e, rfl, Record.failure_of_decode hresult⟩
  · intro width field input rest n h
    exact (int_eq_ok h).2

/-- A cast to two bytes that refuses every number that does not fit. -/
def OffsetCommit.checkedCast (n : Int) : Except String Int16 :=
  if -32768 ≤ n ∧ n ≤ 32767 then .ok (Int16.ofInt n) else .error s!"Could not parse i16 from {n}"

theorem OffsetCommit.checkedCast_toInt (version : Int16) :
    checkedCast version.toInt = .ok version := by
  have hlo := version.le_toInt
  have hhi := version.toInt_lt
  rw [checkedCast, if_pos ⟨by omega, by omega⟩, Int16.ofInt_toInt]

/-- A member whose assignment announces two partitions and has the bytes of one: the count is at
fault, and no partition is.  The cast of a version refuses a number beyond two bytes, but not the
greatest that two bytes hold. -/
theorem Record.decode_ok_or_failure_of_excess : (∃ key value : List UInt8,
    (Record.decode (some key) (some value)).result
        = .error (.assignmentFailed ((FieldPath.members.item 0).child "assignment")
            (.excessiveCount (((((FieldPath.members.item 0).child "assignment").child "topics").item
              0).child "partition_count") 2 4))
      ∧ Record.Failure (some key) (some value)
          (.assignmentFailed ((FieldPath.members.item 0).child "assignment")
            (.excessiveCount (((((FieldPath.members.item 0).child "assignment").child "topics").item
              0).child "partition_count") 2 4)))
    ∧ OffsetCommit.checkedCast 32768 = .error "Could not parse i16 from 32768"
    ∧ ∀ key input, OffsetCommit.decodeAt OffsetCommit.checkedCast key 32767 input
      = (OffsetCommit.decode key 32767 input).map fun (commit, rest) => (.ok commit, rest) := by
  have hresult : (Record.decode (some [0, 2, 0, 1, 0x67]) (some [0, 0, 0, 0, 0, 0, 0, 0, 0, 0, 0, 0,
      0, 0, 0, 1, 0, 1, 0x6d, 0, 0, 0, 0, 0, 0, 0, 0, 0, 0, 0, 0, 0, 0, 0, 17, 0, 0, 0, 0, 0, 1, 0, 1,
      0x74, 0, 0, 0, 2, 0, 0, 0, 5])).result
        = .error (.assignmentFailed ((FieldPath.members.item 0).child "assignment")
            (.excessiveCount (((((FieldPath.members.item 0).child "assignment").child "topics").item
              0).child "partition_count") 2 4)) := by
    decide +kernel
  have hfailure : ∀ {key value : Option (List UInt8)} {e : DecodeError},
      (Record.decode key value).result = .error e → Record.Failure key value e := by
    intro key value e h
    rcases (Record.decode_ok_or_failure key value).1 with ⟨record, hok⟩ | ⟨e', herror, hfailure⟩
    · rw [hok] at h
      cases h
    · rw [herror] at h
      cases h
      exact hfailure
  obtain ⟨-, -, -, hcast⟩ := Record.decode_ok_or_failure none none
  refine ⟨⟨_, _, hresult, hfailure hresult⟩, by decide +kernel, fun key input => ?_⟩
  exact hcast String OffsetCommit.checkedCast OffsetCommit.checkedCast_toInt key 32767 input

end ConsumerOffsets
