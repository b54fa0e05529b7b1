/-
# Bytes that are passed over

A member stores two things that are carried along and not looked at: the metadata of its
subscription, and in the region of its assignment everything but the topics: which version the tag
has, the data of the user, and what follows it.  Two values that differ in nothing else are decoded
to the same group, or fail with the same error, and report the same events
(`GroupMetadata.decodeMessage_passes_over`).  What follows the passed bytes may be anything: it is
decoded by the same decoder from the same place, and an error counts what remains of it, which is
the same in both values.

The argument follows two runs at once.  As long as they read the same bytes they stay together
(`Decoder.Reads.bind_congr`), and behind the bytes that are passed over both have the same input
left.
-/
import Mathlib.Control.Monad.Basic
import ConsumerOffsets.Proofs.Message

namespace ConsumerOffsets

namespace Binary.Decoder

variable {α β σ : Type} {decoder : Decoder α} {next : α → Decoder β} {x x' : List UInt8}

/-! ## 1. Two runs at once -/

/-- Runs that read the same bytes first are the same if they go on in the same way. -/
theorem Reads.bind_congr {w : List UInt8} {a : α} (h : Reads decoder w a)
    (hnext : next a x = next a x') :
    (decoder >>= next) (w ++ x) = (decoder >>= next) (w ++ x') := by
  rw [bind_of_ok (h x), bind_of_ok (h x'), hnext]

/-- Runs that are the same from the start stay the same. -/
theorem bind_congr_left (h : decoder x = decoder x') :
    (decoder >>= next) x = (decoder >>= next) x' := by
  cases hrun : decoder x' with
  | error e => rw [bind_of_error (h.trans hrun), bind_of_error hrun]
  | ok p => rw [bind_of_ok (h.trans hrun), bind_of_ok hrun]

/-- Two runs over a list that has more elements than were read are the same if they are on the next
element. -/
theorem listFrom_congr {item : Nat → Decoder α} {written : σ → List UInt8} {meaning : σ → α} :
    ∀ (index : Nat) (stored : List σ) {n : Nat}, stored.length < n →
      (∀ s ∈ stored, ∀ i, Reads (item i) (written s) (meaning s)) →
      (∀ i, item i x = item i x') →
      listFrom item index n (stored.flatMap written ++ x)
        = listFrom item index n (stored.flatMap written ++ x')
  | _, _, 0, hcount, _, _ => absurd hcount (Nat.not_lt_zero _)
  | index, [], n + 1, _, _, hitem => bind_congr_left (hitem index)
  | index, s :: stored, n + 1, hcount, hread, hitem => by
    have hrest : listFrom item (index + 1) n (stored.flatMap written ++ x)
        = listFrom item (index + 1) n (stored.flatMap written ++ x') :=
      listFrom_congr (index + 1) stored (Nat.lt_of_succ_lt_succ hcount)
        (fun t ht => hread t (List.mem_cons_of_mem _ ht)) hitem
    rw [List.flatMap_cons, List.append_assoc, List.append_assoc]
    exact (hread s List.mem_cons_self index).bind_congr (bind_congr_left hrest)

end Binary.Decoder

open Binary

/-! ## 2. The part of a value in front of what is passed over -/

/-- The fields of a member in front of its two regions.  Texts are given as their bytes. -/
structure StoredMemberHead where
  memberId : List UInt8
  clientId : List UInt8
  clientHost : List UInt8
  rebalanceTimeout : Option Int32
  sessionTimeout : Int32
deriving DecidableEq, Repr

namespace StoredMemberHead

/-- The bytes of these fields. -/
def encode (head : StoredMemberHead) : List UInt8 :=
  Encoder.string head.memberId ++
    (Encoder.string head.clientId ++
      (Encoder.string head.clientHost ++
        (head.rebalanceTimeout.elim [] Encoder.int32 ++ Encoder.int32 head.sessionTimeout)))

/-- The fields are those of the given version, and their lengths can be written. -/
structure Fits (version : Int) (head : StoredMemberHead) : Prop where
  memberId : head.memberId.length ≤ Encoder.maxStringLength
  clientId : head.clientId.length ≤ Encoder.maxStringLength
  clientHost : head.clientHost.length ≤ Encoder.maxStringLength
  rebalanceTimeout : head.rebalanceTimeout.isSome ↔ version = 1

end StoredMemberHead

/-- A value up to the two regions of one of its members: the group as far as the members in front of
this one, how many members there are said to be, and the fields of this one. -/
structure StoredGroupHead where
  group : StoredGroup
  count : Nat
  member : StoredMemberHead
deriving DecidableEq, Repr

namespace StoredGroupHead

/-- The bytes of this part. -/
def encode (head : StoredGroupHead) : List UInt8 :=
  Encoder.int16 head.group.version ++
    (head.group.encodeHeader ++
      (Encoder.count head.count ++
        (head.group.members.flatMap StoredMember.encode ++ head.member.encode)))

/-- All of it can be written, and there are more members than those in front. -/
structure Fits (head : StoredGroupHead) : Prop where
  group : head.group.Fits
  more : head.group.members.length < head.count
  count : head.count ≤ Encoder.maxCount
  member : head.member.Fits head.group.version.toInt

end StoredGroupHead

/-! ## 3. Members -/

namespace StoredMemberHead

/-- The member that has these fields and an assignment. -/
def meaning (head : StoredMemberHead) (assignment : Assignment) : GroupMember where
  memberId := Text.Utf8.decode head.memberId
  clientId := Text.Utf8.decode head.clientId
  clientHost := Text.Utf8.decode head.clientHost
  sessionTimeout := head.sessionTimeout
  rebalanceTimeout := head.rebalanceTimeout
  assignment

variable {version : Int} {head : StoredMemberHead} {place : FieldPath}

/-- Behind the fields of the head come the two regions, and the first is passed over. -/
theorem Fits.decode_append (h : head.Fits version) (x : List UInt8) :
    GroupMember.decode version place (head.encode ++ x)
      = (do
          let _subscription ← Decoder.region (place.child "subscription_bytes")
          let region ← Decoder.region (place.child "assignment_bytes")
          let assignment ← Assignment.ofRegion place region
          return head.meaning assignment : Decoder GroupMember) x := by
  rw [GroupMember.decode, encode]
  simp only [List.append_assoc]
  rw [Decoder.bind_of_ok (Decoder.reads_string h.memberId _ _),
    Decoder.bind_of_ok (Decoder.reads_string h.clientId _ _),
    Decoder.bind_of_ok (Decoder.reads_string h.clientHost _ _),
    Decoder.bind_of_ok
      (Decoder.reads_optional h.rebalanceTimeout (fun t => Decoder.reads_int32 t _) _),
    Decoder.bind_of_ok (Decoder.reads_int32 head.sessionTimeout _ _)]
  rfl

/-- Two subscriptions, whatever follows them. -/
theorem Fits.decode_subscription_congr (h : head.Fits version) {blob blob' : List UInt8}
    (hblob : blob.length ≤ Encoder.maxCount) (hblob' : blob'.length ≤ Encoder.maxCount)
    (rest : List UInt8) :
    GroupMember.decode version place (head.encode ++ (Encoder.region blob ++ rest))
      = GroupMember.decode version place (head.encode ++ (Encoder.region blob' ++ rest)) := by
  rw [h.decode_append, h.decode_append, Decoder.bind_of_ok (Decoder.reads_region hblob _ rest),
    Decoder.bind_of_ok (Decoder.reads_region hblob' _ rest)]

/-- Two regions that hold the same assignment, whatever follows them. -/
theorem Fits.decode_region_congr (h : head.Fits version) {blob : List UInt8}
    (hblob : blob.length ≤ Encoder.maxCount) {region region' : AssignmentRegion}
    (hregion : region.Fits) (hregion' : region'.Fits) (hmeaning : region.meaning = region'.meaning)
    (rest : List UInt8) :
    GroupMember.decode version place
        (head.encode ++ (Encoder.region blob ++ (Encoder.region region.encode ++ rest)))
      = GroupMember.decode version place
        (head.encode ++ (Encoder.region blob ++ (Encoder.region region'.encode ++ rest))) := by
  rw [h.decode_append, h.decode_append]
  refine (Decoder.reads_region hblob _).bind_congr ?_
  rw [Decoder.bind_of_ok (Decoder.reads_region hregion.length_encode_le _ rest),
    Decoder.bind_of_ok (Decoder.reads_region hregion'.length_encode_le _ rest),
    AssignmentRegion.ofRegion_encode hregion, AssignmentRegion.ofRegion_encode hregion', hmeaning]

end StoredMemberHead

/-! ## 4. Values -/

/-- What ends a value ends its decoding: the same result and the same report. -/
theorem Outcome.ofValue_congr {α : Type} {subject : Subject} {supported : List Int}
    {body : Int16 → Decoder α} {version : Int16} {x x' : List UInt8}
    (h : body version x = body version x') :
    ofValue subject supported body (some (Encoder.int16 version ++ x))
      = ofValue subject supported body (some (Encoder.int16 version ++ x')) := by
  simp only [ofValue, Decoder.reads_int16 version .version _, h]

namespace GroupMetadata

/-- Two values that begin alike are decoded alike if the member that they differ in is. -/
theorem decodeMessage_congr (key : Option (List UInt8)) {head : StoredGroupHead} (h : head.Fits)
    {x x' : List UInt8}
    (hmember : ∀ place, GroupMember.decode head.group.version.toInt place (head.member.encode ++ x)
      = GroupMember.decode head.group.version.toInt place (head.member.encode ++ x')) :
    GroupMetadata.decodeMessage key (some (head.encode ++ x))
      = GroupMetadata.decodeMessage key (some (head.encode ++ x')) := by
  unfold GroupMetadata.decodeMessage
  cases GroupMetadata.decodeKey key with
  | error e => rfl
  | ok group =>
    dsimp only
    simp only [StoredGroupHead.encode, List.append_assoc]
    congr 1
    refine Outcome.ofValue_congr ?_
    rw [decode_of_supported h.group.version]
    have hread : ∀ member ∈ head.group.members, ∀ i, Decoder.Reads
        (GroupMember.decode head.group.version.toInt (FieldPath.members.item i))
        member.encode member.meaning :=
      fun member hm i => (h.group.members member hm).reads_encode (FieldPath.members.item i)
    refine h.group.reads_encodeHeader.bind_congr ?_
    refine (Decoder.reads_count h.count _).bind_congr ?_
    exact Decoder.bind_congr_left
      (Decoder.listFrom_congr 0 head.group.members h.more hread fun i => hmember _)

/-- Bytes that are passed over leave no trace.  In a value that is well-formed up to the regions of
a member, another subscription in place of the first changes nothing of the outcome, whatever
follows; and neither does, where the region of the assignment is well-formed, another version,
other data of the user, and other bytes behind them. -/
theorem decodeMessage_passes_over (key : Option (List UInt8)) {head : StoredGroupHead}
    (h : head.Fits) {blob : List UInt8} (hblob : blob.length ≤ Encoder.maxCount)
    (rest : List UInt8) :
    (∀ blob' : List UInt8, blob'.length ≤ Encoder.maxCount →
      GroupMetadata.decodeMessage key (some (head.encode ++ (Encoder.region blob ++ rest)))
        = GroupMetadata.decodeMessage key (some (head.encode ++ (Encoder.region blob' ++ rest))))
    ∧ ∀ (topics : List StoredTopic) (version version' : Int16)
        (userData userData' slack slack' : List UInt8),
      (AssignmentRegion.holding version ⟨topics, userData⟩ slack).Fits →
      (AssignmentRegion.holding version' ⟨topics, userData'⟩ slack').Fits →
      GroupMetadata.decodeMessage key (some (head.encode ++ (Encoder.region blob ++
          (Encoder.region (AssignmentRegion.holding version ⟨topics, userData⟩ slack).encode
            ++ rest))))
        = GroupMetadata.decodeMessage key (some (head.encode ++ (Encoder.region blob ++
          (Encoder.region (AssignmentRegion.holding version' ⟨topics, userData'⟩ slack').encode
            ++ rest)))) := by
  constructor
  · intro blob' hblob'
    exact decodeMessage_congr key h fun place =>
      h.member.decode_subscription_congr hblob hblob' rest
  · intro topics version version' userData userData' slack slack' hregion hregion'
    exact decodeMessage_congr key h fun place =>
      h.member.decode_region_congr hblob hregion hregion' rfl rest

/-- The second of three members.  Once it has a subscription or none, and the region behind it ends
too early; once its region has another version, no data of the user and nothing behind it, and the
third member is missing.  The errors are the same, with their numbers. -/
theorem decodeMessage_passes_over_of_broken_rest : ∃ head : StoredGroupHead, head.Fits
    ∧ GroupMetadata.decodeMessage (some [0, 1, 0x67])
        (some (head.encode ++ (Encoder.region [0xaa, 0xab] ++ [0, 0, 0, 5, 0xff])))
      = GroupMetadata.decodeMessage (some [0, 1, 0x67])
        (some (head.encode ++ (Encoder.region [] ++ [0, 0, 0, 5, 0xff])))
    ∧ (GroupMetadata.decodeMessage (some [0, 1, 0x67])
        (some (head.encode ++ (Encoder.region [] ++ [0, 0, 0, 5, 0xff])))).result
      = .error (.truncated ((FieldPath.members.item 1).child "assignment_bytes") 5 1)
    ∧ GroupMetadata.decodeMessage (some [0, 1, 0x67]) (some (head.encode ++ (Encoder.region [0xaa]
        ++ (Encoder.region (AssignmentRegion.holding 3 ⟨[⟨[0x74], [5]⟩], [0xbb]⟩ [0xcc]).encode
          ++ [0]))))
      = GroupMetadata.decodeMessage (some [0, 1, 0x67]) (some (head.encode ++ (Encoder.region [0xaa]
        ++ (Encoder.region (AssignmentRegion.holding 0 ⟨[⟨[0x74], [5]⟩], []⟩ []).encode ++ [0]))))
    ∧ (GroupMetadata.decodeMessage (some [0, 1, 0x67]) (some (head.encode ++ (Encoder.region [0xaa]
        ++ (Encoder.region (AssignmentRegion.holding 0 ⟨[⟨[0x74], [5]⟩], []⟩ []).encode
          ++ [0]))))).result
      = .error (.truncated ((FieldPath.members.item 2).child "member_id") 2 1) := by
  have hfits : (⟨⟨1, [0x63], 7, [], [], [⟨[0x6c], [], [], some 9, 8, [], .empty⟩]⟩, 3,
      ⟨[0x6d], [], [0x68], some 9, 8⟩⟩ : StoredGroupHead).Fits := by
    refine ⟨⟨by decide, by decide, by decide, by decide, by decide, ?_⟩, by decide, by decide,
      ⟨by decide, by decide, by decide, by decide⟩⟩
    intro member hmember
    rw [List.mem_singleton.mp hmember]
    exact ⟨by decide, by decide, by decide, by decide, by decide, trivial⟩
  have hregion : (AssignmentRegion.holding 3 ⟨[⟨[0x74], [5]⟩], [0xbb]⟩ [0xcc]).Fits :=
    AssignmentRegion.fits_holding_iff.mpr ⟨by decide, by decide, by decide⟩
  have hregion' : (AssignmentRegion.holding 0 ⟨[⟨[0x74], [5]⟩], []⟩ []).Fits :=
    AssignmentRegion.fits_holding_iff.mpr ⟨by decide, by decide, by decide⟩
  have hblob : ([0xaa, 0xab] : List UInt8).length ≤ Encoder.maxCount := by decide
  have hblob' : ([0xaa] : List UInt8).length ≤ Encoder.maxCount := by decide
  obtain ⟨hsubscription, -⟩ := decodeMessage_passes_over (some [0, 1, 0x67]) hfits hblob
    [0, 0, 0, 5, 0xff]
  obtain ⟨-, hassignment⟩ := decodeMessage_passes_over (some [0, 1, 0x67]) hfits hblob' [0]
  exact ⟨_, hfits, hsubscription [] (by decide), by decide +kernel,
    hassignment _ _ _ _ _ _ _ hregion hregion', by decide +kernel⟩

end GroupMetadata

end ConsumerOffsets
