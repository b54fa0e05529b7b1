/-
# A reading does not depend on its place

A reader has all of the data, and its position, before it.  Still it reads the same wherever the
position is: nothing in front of it is looked at.  The reason is that each reader follows the
decoder of the same name (`Binary.Reader.Follows`), which is given the bytes behind the position
and nothing else.  That goes up from the fields through the three lists, one in another, and
through the regions, which are read from cursors of their own; errors are followed as results are.

So on a cursor a value is read as its decoder decodes it there (`read_eq_run`), and the main
statement, `reads_alike_anywhere`, compares two cursors: one with any bytes in front, and one that
starts where the first one stands.
-/
import Mathlib.Control.Monad.Basic
import ConsumerOffsets.Reading
import ConsumerOffsets.Proofs.CursorRuns

namespace ConsumerOffsets

namespace Binary.Reader

variable {α β : Type}

/-! ## 1. Readers follow decoders -/

/-- Wherever the input stands behind some bytes, the reader gives there what the decoder gives for
the input, and stops behind what the decoder takes off.  It fails when the decoder fails, with the
same error. -/
structure Follows (reader : Reader α) (decoder : Decoder α) : Prop where
  ok : ∀ {input rest : List UInt8} {a : α}, decoder input = .ok (a, rest) →
    ∃ taken, input = taken ++ rest ∧ ∀ front : List UInt8, reader ⟨front ++ input, front.length⟩
      = .ok (a, ⟨front ++ input, front.length + taken.length⟩)
  error : ∀ {input : List UInt8} {e : DecodeError}, decoder input = .error e →
    ∀ front : List UInt8, reader ⟨front ++ input, front.length⟩ = .error e

theorem follows_pure (a : α) : Follows (pure a) (pure a) := by
  refine ⟨?_, ?_⟩
  · intro input rest b h
    cases h
    exact ⟨[], rfl, fun _ => rfl⟩
  · intro input e h
    cases h

theorem follows_throw (e : DecodeError) : Follows (throw e : Reader α) (throw e) := by
  refine ⟨?_, ?_⟩
  · intro input rest b h
    cases h
  · intro input e' h front
    cases h
    rfl

theorem follows_liftM (x : Except DecodeError α) : Follows (liftM x) (liftM x) := by
  cases x with
  | ok a => exact follows_pure a
  | error e => exact follows_throw e

/-- What is read may be something made of what is decoded, if what comes next follows that. -/
theorem Follows.bind_map {γ : Type} {reader : Reader β} {decoder : Decoder α} {f : α → β}
    {next : β → Reader γ} {next' : α → Decoder γ}
    (h : Follows reader (decoder >>= fun a => pure (f a)))
    (hnext : ∀ a, Follows (next (f a)) (next' a)) :
    Follows (reader >>= next) (decoder >>= next') := by
  refine ⟨?_, ?_⟩
  · intro input rest c hc
    obtain ⟨a, middle, ha, hafter⟩ := Decoder.bind_eq_ok_iff.mp hc
    obtain ⟨taken, rfl, hread⟩ := h.ok (Decoder.bind_of_ok ha)
    obtain ⟨taken', rfl, hread'⟩ := (hnext a).ok hafter
    refine ⟨taken ++ taken', by simp, ?_⟩
    intro front
    rw [bind_of_ok (hread front)]
    simpa [Nat.add_assoc] using hread' (front ++ taken)
  · intro input e he front
    rcases Decoder.bind_eq_error_iff.mp he with hfirst | ⟨a, middle, ha, hafter⟩
    · exact bind_of_error (h.error (Decoder.bind_of_error hfirst) front)
    · obtain ⟨taken, rfl, hread⟩ := h.ok (Decoder.bind_of_ok ha)
      rw [bind_of_ok (hread front)]
      simpa using (hnext a).error hafter (front ++ taken)

theorem Follows.bind {reader : Reader α} {decoder : Decoder α} {next : α → Reader β}
    {next' : α → Decoder β} (h : Follows reader decoder) (hnext : ∀ a, Follows (next a) (next' a)) :
    Follows (reader >>= next) (decoder >>= next') := by
  have hid : Follows reader (decoder >>= fun a => pure (id a)) := by
    rwa [show (decoder >>= fun a => pure (id a)) = decoder from bind_pure decoder]
  exact hid.bind_map hnext

theorem Follows.bind_pure {reader : Reader α} {decoder : Decoder α} (h : Follows reader decoder)
    (f : α → β) : Follows (reader >>= fun a => pure (f a)) (decoder >>= fun a => pure (f a)) :=
  h.bind fun a => follows_pure (f a)

/-! ## 2. Fields -/

section Fields

variable (field : FieldPath)

@[simp] theorem remaining_append (front input : List UInt8) :
    Cursor.remaining ⟨front ++ input, front.length⟩ = input.length := by
  rw [Cursor.remaining, List.length_append]
  push_cast
  omega

theorem follows_counted (length : Int) :
    Follows (bytes length field) (Decoder.counted length field) := by
  by_cases hneg : length < 0
  · refine ⟨?_, ?_⟩
    · intro input rest raw h
      rw [Decoder.counted, if_pos hneg] at h
      cases h
    · intro input e h front
      rw [Decoder.counted, if_pos hneg] at h
      cases h
      rw [bytes, Cursor.take, if_pos hneg]
  · obtain ⟨size, rfl⟩ : ∃ size : Nat, length = size := ⟨length.toNat, by omega⟩
    refine ⟨?_, ?_⟩
    · intro input rest raw h
      rw [Decoder.counted, if_neg hneg, Int.toNat_natCast] at h
      obtain ⟨rfl, rfl⟩ := Decoder.bytes_eq_ok h
      refine ⟨raw, rfl, ?_⟩
      intro front
      have hroom : ¬ ((raw ++ rest).length : Int) < raw.length := by
        rw [List.length_append]
        omega
      rw [bytes, Cursor.take, if_neg hneg, remaining_append, if_neg hroom, Cursor.unread_append,
        Int.toNat_natCast, List.take_left]
      rfl
    · intro input e h front
      rw [Decoder.counted, if_neg hneg, Int.toNat_natCast] at h
      obtain ⟨hshort, rfl⟩ := Decoder.bytes_eq_error h
      have hroom : (input.length : Int) < size := by omega
      rw [bytes, Cursor.take, if_neg hneg, remaining_append, if_pos hroom, Int.toNat_natCast]

theorem follows_int (width : Width) : Follows (int width field) (Decoder.int width field) := by
  have hbytes : Decoder.counted width.size field = Decoder.bytes width.size field := by
    have hneg : ¬ (width.size : Int) < 0 := by omega
    rw [Decoder.counted, if_neg hneg, Int.toNat_natCast]
  have h := follows_counted field width.size
  rw [hbytes] at h
  exact h.bind_pure intOfBytes

theorem follows_int32 : Follows (int32 field) (Decoder.int32 field) :=
  (follows_int field .four).bind_pure Int32.ofInt

theorem follows_int64 : Follows (int64 field) (Decoder.int64 field) :=
  (follows_int field .eight).bind_pure Int64.ofInt

theorem follows_string : Follows (string field) (Decoder.string field) :=
  (follows_int field .two).bind fun length =>
    (follows_counted field length).bind_pure Text.Utf8.decode

/-- What is carved out is a cursor at the start of the bytes that are decoded. -/
theorem follows_carve (size : Int) : Follows (carve size field)
    (Decoder.counted size field >>= fun raw => pure (⟨raw, 0⟩ : Cursor)) :=
  (follows_counted field size).bind_pure fun raw => (⟨raw, 0⟩ : Cursor)

theorem follows_region : Follows (region field)
    (Decoder.region field >>= fun raw => pure (⟨raw, 0⟩ : Cursor)) := by
  rw [Decoder.region, bind_assoc]
  exact (follows_int field .four).bind fun size => follows_carve field size

theorem follows_skip (size : Int) : Follows (skip size field)
    (Decoder.counted size field >>= fun _ => pure ()) := by
  have hskip : skip size field = (bytes size field >>= fun _ => pure ()) := by
    funext c
    cases htake : c.take size field with
    | error e =>
      have hbytes : bytes size field c = .error e := htake
      rw [bind_of_error hbytes, skip, Cursor.skip, htake]
      rfl
    | ok p =>
      obtain ⟨raw, next⟩ := p
      have hbytes : bytes size field c = .ok (raw, next) := htake
      rw [bind_of_ok hbytes, skip, Cursor.skip, htake]
      rfl
  rw [hskip]
  exact (follows_counted field size).bind_pure fun _ => ()

theorem follows_skipRegion : Follows (skipRegion field)
    (Decoder.region field >>= fun _ => pure ()) := by
  rw [Decoder.region, bind_assoc]
  exact (follows_int field .four).bind fun size => follows_skip field size

theorem follows_remaining :
    Follows remaining (Decoder.remaining >>= fun left => pure (left : Int)) := by
  refine ⟨?_, ?_⟩
  · intro input rest left h
    cases h
    refine ⟨[], rfl, ?_⟩
    intro front
    rw [remaining, remaining_append]
    rfl
  · intro input e h
    cases h

theorem follows_count : Follows (count field) (Decoder.count field) := by
  refine (follows_int field .four).bind fun n => ?_
  split
  · exact (follows_throw _).bind fun _ => follows_pure n.toNat
  · exact follows_pure n.toNat

theorem follows_boundedCount (itemSize : Nat) :
    Follows (boundedCount itemSize field) (Decoder.boundedCount itemSize field) := by
  refine (follows_count field).bind fun n => follows_remaining.bind_map fun left => ?_
  by_cases hshort : left < n * itemSize
  · rw [if_pos (Int.ofNat_lt.mpr hshort), if_pos hshort]
    exact (follows_throw _).bind fun _ => follows_pure n
  · rw [if_neg (mt Int.ofNat_lt.mp hshort), if_neg hshort]
    exact follows_pure n

end Fields

theorem Follows.optional {present : Prop} [Decidable present] {reader : Reader α}
    {decoder : Decoder α} (h : Follows reader decoder) :
    Follows (optional present reader) (Decoder.optional present decoder) := by
  rw [Reader.optional, Decoder.optional]
  split
  · exact h.bind_pure some
  · exact follows_pure none

/-- Element by element, the readers of a list follow the decoders. -/
theorem follows_listFrom {item : Nat → Reader α} {item' : Nat → Decoder α}
    (h : ∀ i, Follows (item i) (item' i)) (n : Nat) :
    ∀ index, Follows (listFrom item index n) (Decoder.listFrom item' index n) := by
  induction n with
  | zero => exact fun _ => follows_pure []
  | succ n ih =>
    intro index
    exact (h index).bind fun a => (ih (index + 1)).bind_pure (a :: ·)

end Binary.Reader

/-! ## 3. Assignments, members, groups and offsets -/

open Binary Binary.Reader

namespace Assignment

theorem follows_readTopic (field : FieldPath) : Follows (readTopic field) (decodeTopic field) := by
  refine (follows_string _).bind fun topic => (follows_boundedCount _ _).bind fun count => ?_
  have hpartitions := follows_listFrom (fun j => follows_int32 ((field.child "partitions").item j))
    count 0
  exact hpartitions.bind_pure fun partitions => TopicPartitions.mk topic partitions

theorem follows_read (field : FieldPath) : Follows (read field) (decode field) := by
  refine (follows_boundedCount _ _).bind fun count => ?_
  have htopics := follows_listFrom
    (fun i => follows_readTopic ((field.child "topics").item i)) count 0
  refine htopics.bind fun entries => ?_
  exact (follows_skipRegion _).bind_map fun _ => follows_pure (ofList entries)

/-- The region of an assignment is read as it is decoded, from a cursor at its start. -/
theorem readRegion_eq (member : FieldPath) (raw : List UInt8) :
    readRegion member ⟨raw, 0⟩ = ofRegion member raw := by
  cases raw with
  | nil => rfl
  | cons b raw =>
    have hsome : 0 < Cursor.remaining ⟨b :: raw, 0⟩ := by
      simp [Cursor.remaining]
    rw [readRegion, if_pos hsome, ofRegion_of_ne_nil (List.cons_ne_nil b raw)]
    dsimp only
    have hversion := follows_int (member.child "consumer_protocol_version") .two
    cases hint : Decoder.int .two (member.child "consumer_protocol_version") (b :: raw) with
    | error e =>
      have hread := hversion.error hint []
      rw [List.nil_append, List.length_nil] at hread
      rw [hread]
    | ok p =>
      obtain ⟨version, body⟩ := p
      obtain ⟨tag, hsplit, hread⟩ := hversion.ok hint
      have htag := hread []
      have hbody := follows_read (member.child "assignment")
      rw [List.nil_append, List.length_nil, Nat.zero_add] at htag
      rw [htag, hsplit]
      dsimp only
      split
      · rfl
      · cases hdecode : decode (member.child "assignment") body with
        | error e => rw [hbody.error hdecode tag]
        | ok p =>
          obtain ⟨assignment, rest⟩ := p
          obtain ⟨taken, -, hrest⟩ := hbody.ok hdecode
          rw [hrest tag]

end Assignment

theorem GroupMember.follows_read (version : Int) (field : FieldPath) :
    Follows (read version field) (decode version field) := by
  refine (follows_string _).bind fun memberId => (follows_string _).bind fun clientId =>
    (follows_string _).bind fun clientHost => (follows_int32 _).optional.bind fun rebalance =>
    (follows_int32 _).bind fun session => (follows_region _).bind_map fun subscription =>
    (follows_region _).bind_map fun raw => ?_
  rw [Assignment.readRegion_eq]
  exact (follows_liftM _).bind_pure fun assignment =>
    GroupMember.mk memberId clientId clientHost session rebalance assignment

theorem GroupHeader.follows_read : Follows read decode :=
  (follows_string _).bind fun protocolType => (follows_int32 _).bind fun generation =>
    (follows_string _).bind fun protocol => (follows_string _).bind_pure fun leader =>
      GroupHeader.mk protocolType generation protocol leader

theorem GroupMetadata.follows_readBody (version : Int) (groupId : String) :
    Follows (readBody version groupId) (decodeBody version groupId) := by
  refine GroupHeader.follows_read.bind fun header => (follows_count _).bind fun count => ?_
  have hmembers := follows_listFrom
    (fun i => GroupMember.follows_read version (FieldPath.members.item i)) count 0
  exact hmembers.bind_pure fun members =>
    GroupMetadata.mk groupId (Int16.ofInt version) header members

theorem GroupMetadata.follows_read (version : Int) (groupId : String) :
    Follows (read version groupId) (decode version groupId) := by
  rw [read, decode]
  split
  · exact (follows_throw _).bind fun _ => follows_readBody version groupId
  · exact follows_readBody version groupId

theorem OffsetValue.follows_read (version : Int) : Follows (read version) (decode version) :=
  (follows_int64 _).bind fun offset => (follows_int32 _).optional.bind fun leaderEpoch =>
    (follows_string _).bind fun metadata => (follows_int64 _).bind fun commitTimestamp =>
      (follows_int64 _).optional.bind_pure fun expireTimestamp =>
        OffsetValue.mk offset leaderEpoch metadata commitTimestamp expireTimestamp

theorem OffsetCommit.follows_readAt {ε : Type} (cast : Int → Except ε Int16) (key : OffsetKey)
    (version : Int) : Follows (readAt cast key version) (decodeAt cast key version) :=
  (OffsetValue.follows_read version).bind_pure fun value =>
    (cast version).map fun version => OffsetCommit.mk value key version

/-! ## 4. The same wherever it starts -/

/-- The second of two readings of the same bytes starts `shift` bytes nearer to the start of its
data.  Both fail with the same error, or both give the same, leave the same bytes unread and stop
as far apart as they started. -/
inductive ReadsAlike {α : Type} (shift : Nat) :
    Except DecodeError (α × Cursor) → Except DecodeError (α × Cursor) → Prop where
  | ok {a : α} {after after' : Cursor} (unread : after.unread = after'.unread)
      (position : after.position = shift + after'.position) :
      ReadsAlike shift (.ok (a, after)) (.ok (a, after'))
  | error (e : DecodeError) : ReadsAlike shift (.error e) (.error e)

theorem ReadsAlike.map_fst_eq {α : Type} {shift : Nat} {r r' : Except DecodeError (α × Cursor)}
    (h : ReadsAlike shift r r') : r.map Prod.fst = r'.map Prod.fst := by
  cases h with
  | ok _ _ => rfl
  | error e => rfl

namespace Binary.Reader

variable {α : Type} {reader : Reader α} {decoder : Decoder α}

/-- On a cursor that is not beyond its end, a reader does what its decoder does when it is run
there. -/
theorem Follows.eq_run (h : Follows reader decoder) {c : Cursor}
    (hc : c.position ≤ c.data.length) : reader c = c.run decoder := by
  have hfront := Cursor.eq_append_unread hc
  generalize c.unread = input at hfront
  generalize c.data.take c.position = front at hfront
  subst hfront
  cases hdecode : decoder input with
  | error e =>
    have hoverrun : Cursor.overrun ⟨front ++ input, front.length⟩ = 0 := by simp [Cursor.overrun]
    have hunread : decoder (Cursor.unread ⟨front ++ input, front.length⟩) = .error e := by
      rw [Cursor.unread_append, hdecode]
    rw [h.error hdecode front, Cursor.run_of_error hunread, hoverrun, DecodeError.beyondEnd_zero]
  | ok result =>
    obtain ⟨a, rest⟩ := result
    obtain ⟨taken, rfl, hread⟩ := h.ok hdecode
    rw [hread front]
    refine (Cursor.run_eq_ok_iff.mpr ⟨rest, ?_, ?_⟩).symm
    · rw [Cursor.unread_append, hdecode]
    · simp [Cursor.advance]

/-- What stands in front of a cursor makes no difference to a reader that follows a decoder. -/
theorem Follows.readsAlike (h : Follows reader decoder) (pre : List UInt8) {data : List UInt8}
    {p : Nat} (hp : p ≤ data.length) :
    ReadsAlike (pre.length + p) (reader ⟨pre ++ data, pre.length + p⟩)
      (reader ⟨data.drop p, 0⟩) := by
  have hfront : (⟨pre ++ data, pre.length + p⟩ : Cursor)
      = ⟨(pre ++ data.take p) ++ data.drop p, (pre ++ data.take p).length⟩ := by
    simp [hp]
  have hstart : (⟨data.drop p, 0⟩ : Cursor) = ⟨[] ++ data.drop p, ([] : List UInt8).length⟩ := rfl
  rw [hfront, hstart]
  cases hdecode : decoder (data.drop p) with
  | error e =>
    rw [h.error hdecode (pre ++ data.take p), h.error hdecode []]
    exact .error e
  | ok result =>
    obtain ⟨a, rest⟩ := result
    obtain ⟨taken, hsplit, hread⟩ := h.ok hdecode
    have hunread : ∀ front : List UInt8,
        Cursor.unread ⟨front ++ data.drop p, front.length + taken.length⟩ = rest := by
      intro front
      rw [hsplit, ← List.append_assoc, ← List.length_append, Cursor.unread_append]
    rw [hread (pre ++ data.take p), hread []]
    refine .ok ?_ ?_
    · rw [hunread, hunread]
    · simp [hp]

end Binary.Reader

/-- Within the data of a cursor, values are read as they are decoded there. -/
theorem read_eq_run {c : Cursor} (hc : c.position ≤ c.data.length) :
    (∀ field, Assignment.read field c = c.run (Assignment.decode field))
    ∧ (∀ version field, GroupMember.read version field c = c.run (GroupMember.decode version field))
    ∧ (∀ version groupId,
      GroupMetadata.read version groupId c = c.run (GroupMetadata.decode version groupId))
    ∧ ∀ (ε : Type) (cast : Int → Except ε Int16) key version,
      OffsetCommit.readAt cast key version c = c.run (OffsetCommit.decodeAt cast key version) := by
  refine ⟨?_, ?_, ?_, ?_⟩
  · intro field
    exact (Assignment.follows_read field).eq_run hc
  · intro version field
    exact (GroupMember.follows_read version field).eq_run hc
  · intro version groupId
    exact (GroupMetadata.follows_read version groupId).eq_run hc
  · intro ε cast key version
    exact (OffsetCommit.follows_readAt cast key version).eq_run hc

/-- An assignment, a member of any version and the value of a committed offset of any version, with
whatever cast for that, are read at a cursor with any bytes in front as they are read at the start of
the bytes from the cursor on: the result or the error is the same, the same bytes are left, and the position is
shifted by what stands in front.  So is a group of any version, with what it reports. -/
theorem reads_alike_anywhere (pre data : List UInt8) (p : Nat) (hp : p ≤ data.length) :
    (∀ field, ReadsAlike (pre.length + p)
      (Assignment.read field ⟨pre ++ data, pre.length + p⟩)
      (Assignment.read field ⟨data.drop p, 0⟩))
    ∧ (∀ version field, ReadsAlike (pre.length + p)
      (GroupMember.read version field ⟨pre ++ data, pre.length + p⟩)
      (GroupMember.read version field ⟨data.drop p, 0⟩))
    ∧ (∀ version groupId,
      GroupMetadata.readObserved version groupId ⟨pre ++ data, pre.length + p⟩
        = GroupMetadata.readObserved version groupId ⟨data.drop p, 0⟩)
    ∧ ∀ (ε : Type) (cast : Int → Except ε Int16) key version, ReadsAlike (pre.length + p)
      (OffsetCommit.readAt cast key version ⟨pre ++ data, pre.length + p⟩)
      (OffsetCommit.readAt cast key version ⟨data.drop p, 0⟩) := by
  refine ⟨?_, ?_, ?_, ?_⟩
  · intro field
    exact (Assignment.follows_read field).readsAlike pre hp
  · intro version field
    exact (GroupMember.follows_read version field).readsAlike pre hp
  · intro version groupId
    have hgroup := (GroupMetadata.follows_read version groupId).readsAlike pre hp
    rw [GroupMetadata.readObserved, hgroup.map_fst_eq, GroupMetadata.readObserved]
  · intro ε cast key version
    exact (OffsetCommit.follows_readAt cast key version).readsAlike pre hp

/-- A topic with one partition, behind two bytes of which one belongs to the data. -/
theorem reads_alike_anywhere_of_two_bytes_in_front :
    ReadsAlike 2
      (Assignment.read (.root "a")
        ⟨[0xff, 0xee, 0, 0, 0, 1, 0, 1, 0x74, 0, 0, 0, 1, 0, 0, 0, 7, 0, 0, 0, 0, 0xdd], 2⟩)
      (.ok ([⟨"t", [7]⟩],
        ⟨[0, 0, 0, 1, 0, 1, 0x74, 0, 0, 0, 1, 0, 0, 0, 7, 0, 0, 0, 0, 0xdd], 19⟩)) := by
  let data : List UInt8 :=
    [0xee, 0, 0, 0, 1, 0, 1, 0x74, 0, 0, 0, 1, 0, 0, 0, 7, 0, 0, 0, 0, 0xdd]
  have hstart : Assignment.read (.root "a") ⟨data.drop 1, 0⟩
      = .ok ([⟨"t", [7]⟩], ⟨data.drop 1, 19⟩) := by decide +kernel
  have halike := (reads_alike_anywhere [0xff] data 1 (by decide)).1 (.root "a")
  rwa [hstart] at halike

end ConsumerOffsets
