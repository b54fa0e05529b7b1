/-
# Groups are written and read back

The two directions of the correspondence between values and groups, for whole messages.  Whatever
fits the format is decoded to what it means, behind any bytes that follow
(`GroupMetadata.decodeMessage_encode`).  And whatever is decoded was written: its value is the
written form of exactly one stored group, up to the bytes behind it
(`GroupMetadata.exists_unique_stored`).

Each direction goes up field by field: the first by `Decoder.Reads`, the second by
`Decoder.Accepts`.  That there is one stored group only is `StoredGroup.unambiguous_encode`.
-/
import Mathlib.Control.Monad.Basic
import ConsumerOffsets.Proofs.Announced
import ConsumerOffsets.Proofs.Message
import ConsumerOffsets.Proofs.Unambiguous

namespace ConsumerOffsets

open Binary

/-! ## 1. From stored groups to values -/

namespace GroupMetadata

/-- A stored group that fits is decoded to what it means, whatever follows it.  In the assignment of
each member the last occurrence of a topic has won, at the place of the first. -/
theorem decodeMessage_encode {stored : StoredGroup} (h : stored.Fits) {groupId : List UInt8}
    (hgroup : groupId.length ≤ Encoder.maxStringLength) (rest : List UInt8) :
    (GroupMetadata.decodeMessage (some (Encoder.string groupId))
        (some (stored.encode ++ rest))).result
      = .ok (stored.meaning (Text.Utf8.decode groupId))
    ∧ ∀ member ∈ stored.members, Assignment.LastWins
        (member.assignment.topics.map StoredTopic.meaning) member.meaning.assignment := by
  constructor
  · exact decodeMessage_of_fits (decodeKey_string hgroup) h rest
  · intro member _
    rw [StoredMember.meaning, AssignmentRegion.meaning_eq_ofList]
    exact Assignment.lastWins_ofList _

/-- A member that stores the topic `t` twice, with user data and slack behind its topics, and next to
it one without an assignment. -/
theorem decodeMessage_encode_of_repeated : ∃ stored : StoredGroup, stored.Fits
    ∧ (GroupMetadata.decodeMessage (some (Encoder.string [0x67]))
        (some (stored.encode ++ [0xee]))).result
      = .ok ⟨"g", 1, ⟨"c", 7, "", "\uFFFD"⟩,
          [⟨"m", "", "", 8, some 9, [⟨"t", [6, 6]⟩, ⟨"u", []⟩]⟩, ⟨"n", "", "", 8, some 9, []⟩]⟩ := by
  have hregion : (AssignmentRegion.holding 3
      ⟨[⟨[0x74], [5]⟩, ⟨[0x75], []⟩, ⟨[0x74], [6, 6]⟩], [0xbb]⟩ [0xcc, 0xdd]).Fits :=
    AssignmentRegion.fits_holding_iff.mpr ⟨by decide, by decide, by decide⟩
  have hfits : (⟨1, [0x63], 7, [], [0xff],
      [⟨[0x6d], [], [], some 9, 8, [0xaa], .holding 3
        ⟨[⟨[0x74], [5]⟩, ⟨[0x75], []⟩, ⟨[0x74], [6, 6]⟩], [0xbb]⟩ [0xcc, 0xdd]⟩,
       ⟨[0x6e], [], [], some 9, 8, [], .empty⟩]⟩ : StoredGroup).Fits := by
    refine ⟨by decide, by decide, by decide, by decide, by decide, ?_⟩
    intro member hmember
    simp only [List.mem_cons, List.not_mem_nil, or_false] at hmember
    rcases hmember with rfl | rfl
    · exact ⟨by decide, by decide, by decide, by decide, by decide, hregion⟩
    · exact ⟨by decide, by decide, by decide, by decide, by decide, trivial⟩
  have hgroup : ([0x67] : List UInt8).length ≤ Encoder.maxStringLength := by decide
  refine ⟨_, hfits, (decodeMessage_encode hfits hgroup [0xee]).1.trans ?_⟩
  decide +kernel

/-! ## 2. From values to stored groups -/

/-- A value that is decoded is the written form of one stored group, and of no other, with some
bytes behind it.  The group is what was stored, under the name from the key, and it keeps all
lengths and counts. -/
theorem exists_unique_stored {key : Option (List UInt8)} {value : List UInt8}
    {group : GroupMetadata}
    (h : (GroupMetadata.decodeMessage key (some value)).result = .ok group) :
    ∃ (stored : StoredGroup) (rest : List UInt8),
      (stored.Fits ∧ value = stored.encode ++ rest)
      ∧ (∀ (stored' : StoredGroup) (rest' : List UInt8),
          stored'.Fits → value = stored'.encode ++ rest' → stored' = stored ∧ rest' = rest)
      ∧ (∃ groupId : String,
          GroupMetadata.decodeKey key = .ok groupId ∧ group = stored.meaning groupId)
      ∧ stored.Keeps group := by
  obtain ⟨groupId, stored, rest, hkey, hfits, hvalue, rfl⟩ := exists_stored_of_decodeMessage h
  refine ⟨stored, rest, ⟨hfits, hvalue⟩, ?_, ⟨groupId, hkey, rfl⟩, hfits.keeps groupId⟩
  intro stored' rest' hfits' hvalue'
  exact StoredGroup.unambiguous_encode hfits' hfits (hvalue'.symm.trans hvalue)

/-- A value of one member, with one byte behind it. -/
theorem exists_unique_stored_of_member : ∃ (stored : StoredGroup) (rest : List UInt8),
    (stored.Fits ∧ [0, 1, 0, 1, 0x63, 0, 0, 0, 7, 0, 0, 0, 0, 0, 0, 0, 1, 0, 1, 0x6d, 0, 0, 0, 1,
      0xff, 0, 0, 0, 9, 0, 0, 0, 8, 0, 0, 0, 1, 0xaa, 0, 0, 0, 22, 0, 3, 0, 0, 0, 1, 0, 1, 0x74,
      0, 0, 0, 1, 0, 0, 0, 5, 0, 0, 0, 0, 0xcc, 0xdd] = stored.encode ++ rest)
    ∧ stored.Keeps ⟨"g", 1, ⟨"c", 7, "", ""⟩, [⟨"m", "", "\uFFFD", 8, some 9, [⟨"t", [5]⟩]⟩]⟩ := by
  have hdecoded : (GroupMetadata.decodeMessage (some [0, 1, 0x67]) (some [0, 1, 0, 1, 0x63, 0, 0, 0,
      7, 0, 0, 0, 0, 0, 0, 0, 1, 0, 1, 0x6d, 0, 0, 0, 1, 0xff, 0, 0, 0, 9, 0, 0, 0, 8, 0, 0, 0, 1,
      0xaa, 0, 0, 0, 22, 0, 3, 0, 0, 0, 1, 0, 1, 0x74, 0, 0, 0, 1, 0, 0, 0, 5, 0, 0, 0, 0, 0xcc,
      0xdd])).result
        = .ok ⟨"g", 1, ⟨"c", 7, "", ""⟩, [⟨"m", "", "\uFFFD", 8, some 9, [⟨"t", [5]⟩]⟩]⟩ := by
    decide +kernel
  obtain ⟨stored, rest, hvalue, -, -, hkeeps⟩ := exists_unique_stored hdecoded
  exact ⟨stored, rest, hvalue, hkeeps⟩

end GroupMetadata

end ConsumerOffsets
