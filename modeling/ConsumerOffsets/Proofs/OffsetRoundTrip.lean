/-
# Offsets are written and read back

The correspondence between values and committed offsets, for whole messages.  A value is decoded
exactly when it begins with the written form of a stored offset; there is one such offset at most,
and the commit is what it means, under the key.  In the other direction a commit that has the fields
of its version is written as a key and a value (`OffsetKey.stored`, `OffsetCommit.stored`) and read
back unchanged.  `OffsetCommit.decodes_exactly_stored` states both.

There are four layouts.  They differ in two fields that some versions lack, one in the middle and one
at the end; which of them a commit has is `OffsetCommit.HasVersionFields`.
-/
import Mathlib.Control.Monad.Basic
import ConsumerOffsets.Proofs.Keys

namespace ConsumerOffsets

open Binary

/-! ## 1. From stored offsets to values, and back -/

namespace OffsetCommit

/-- A stored offset that fits is decoded to what it means, whatever follows it. -/
theorem decodeMessage_of_fits {key : Option (List UInt8)} {offsetKey : OffsetKey}
    (hkey : OffsetKey.decode key = .ok offsetKey) {stored : StoredOffset} (h : stored.Fits)
    (rest : List UInt8) :
    (OffsetCommit.decodeMessage key (some (stored.encode ++ rest))).result
      = .ok (stored.meaning offsetKey) := by
  rw [result_decodeMessage, hkey, Except.bind, StoredOffset.encode, List.append_assoc,
    Outcome.ofValue_of_supported h.version, h.reads_encodeBody offsetKey rest]
  rfl

/-- A value that is decoded begins with a stored offset that fits. -/
theorem exists_decodeMessage_iff {key : Option (List UInt8)} {offsetKey : OffsetKey}
    (hkey : OffsetKey.decode key = .ok offsetKey) {value : Option (List UInt8)} :
    (∃ commit, (OffsetCommit.decodeMessage key value).result = .ok commit)
      ↔ ∃ (stored : StoredOffset) (rest : List UInt8), stored.Fits
          ∧ value = some (stored.encode ++ rest) := by
  constructor
  · rintro ⟨commit, h⟩
    cases value with
    | none =>
      rw [result_decodeMessage, hkey] at h
      cases h
    | some bytes =>
      obtain ⟨_, stored, rest, -, hfits, rfl, -⟩ := exists_stored_of_decodeMessage h
      exact ⟨stored, rest, hfits, rfl⟩
  · rintro ⟨stored, rest, hfits, rfl⟩
    exact ⟨_, decodeMessage_of_fits hkey hfits rest⟩

/-! ## 2. The fields of a version -/

/-- The commit has a version that can be decoded, and of the two fields that not every version has
it has those of its own. -/
structure HasVersionFields (commit : OffsetCommit) : Prop where
  version : commit.version.toInt ∈ supportedVersions
  leaderEpoch : commit.leaderEpoch.isSome ↔ commit.version.toInt = 3
  expireTimestamp : commit.expireTimestamp.isSome ↔ commit.version.toInt = 1

theorem three_le_iff_of_supported {version : Int} (h : version ∈ supportedVersions) :
    3 ≤ version ↔ version = 3 := by
  simp only [supportedVersions, List.mem_cons, List.not_mem_nil, or_false] at h
  omega

theorem hasVersionFields_meaning {stored : StoredOffset} (h : stored.Fits) (key : OffsetKey) :
    (stored.meaning key).HasVersionFields where
  version := h.version
  leaderEpoch := h.leaderEpoch.trans (three_le_iff_of_supported h.version)
  expireTimestamp := h.expireTimestamp

end OffsetCommit

/-! ## 3. Commits in their stored form -/

/-- The stored form of a key. -/
def OffsetKey.stored (key : OffsetKey) : StoredOffsetKey where
  groupId := Text.Utf8.encode key.groupId
  topic := Text.Utf8.encode key.topic
  partition := key.partition

theorem OffsetKey.meaning_stored (key : OffsetKey) : key.stored.meaning = key := by
  rw [stored, StoredOffsetKey.meaning, Text.Utf8.decode_encode, Text.Utf8.decode_encode]

namespace OffsetCommit

/-- The stored form of a commit, without its key. -/
def stored (commit : OffsetCommit) : StoredOffset where
  version := commit.version
  offset := commit.offset
  leaderEpoch := commit.leaderEpoch
  metadata := Text.Utf8.encode commit.metadata
  commitTimestamp := commit.commitTimestamp
  expireTimestamp := commit.expireTimestamp

theorem meaning_stored (commit : OffsetCommit) : commit.stored.meaning commit.key = commit := by
  rw [stored, StoredOffset.meaning, StoredOffset.value, Text.Utf8.decode_encode]

theorem HasVersionFields.fits_stored {commit : OffsetCommit} (h : commit.HasVersionFields)
    (hmetadata : (Text.Utf8.encode commit.metadata).length ≤ Encoder.maxStringLength) :
    commit.stored.Fits where
  version := h.version
  leaderEpoch := h.leaderEpoch.trans (three_le_iff_of_supported h.version).symm
  metadata := hmetadata
  expireTimestamp := h.expireTimestamp

/-- With a key that is decoded, a value is decoded exactly when it begins with a stored offset.  It
does so in one way only; the commit is what is stored there, and has no field that its version
lacks.  And a commit with the fields of its version is decoded from what it is written as. -/
theorem decodes_exactly_stored :
    (∀ {key : Option (List UInt8)} {offsetKey : OffsetKey}, OffsetKey.decode key = .ok offsetKey →
      ∀ value : Option (List UInt8),
        ((∃ commit, (OffsetCommit.decodeMessage key value).result = .ok commit)
          ↔ ∃ (stored : StoredOffset) (rest : List UInt8), stored.Fits
              ∧ value = some (stored.encode ++ rest))
        ∧ ∀ (stored : StoredOffset) (rest : List UInt8), stored.Fits →
            value = some (stored.encode ++ rest) →
            (∀ (stored' : StoredOffset) (rest' : List UInt8), stored'.Fits →
              value = some (stored'.encode ++ rest') → stored' = stored ∧ rest' = rest)
            ∧ (OffsetCommit.decodeMessage key value).result = .ok (stored.meaning offsetKey)
            ∧ (stored.meaning offsetKey).HasVersionFields)
    ∧ ∀ commit : OffsetCommit, commit.HasVersionFields →
        commit.key.stored.Fits →
        (Text.Utf8.encode commit.metadata).length ≤ Encoder.maxStringLength →
        (OffsetCommit.decodeMessage (some commit.key.stored.encode)
          (some commit.stored.encode)).result = .ok commit := by
  constructor
  · intro key offsetKey hkey value
    refine ⟨exists_decodeMessage_iff hkey, ?_⟩
    rintro stored rest hfits rfl
    refine ⟨?_, decodeMessage_of_fits hkey hfits rest, hasVersionFields_meaning hfits offsetKey⟩
    intro stored' rest' hfits' hvalue
    exact StoredOffset.unambiguous_encode hfits' hfits (Option.some.inj hvalue).symm
  · intro commit hfields hkeyFits hmetadata
    have hkey : OffsetKey.decode (some commit.key.stored.encode) = .ok commit.key := by
      have hread := OffsetKey.decode_encode_append hkeyFits []
      rwa [List.append_nil, OffsetKey.meaning_stored] at hread
    have hmessage := decodeMessage_of_fits hkey (hfields.fits_stored hmetadata) []
    rwa [List.append_nil, meaning_stored] at hmessage

/-- A value of version 1 with a negative time of expiry and a text that is no UTF-8, and a commit of
version 3 with the least offset. -/
theorem decodes_exactly_stored_of_extremes :
    (OffsetCommit.decodeMessage (some [0, 1, 0x67, 0, 1, 0x74, 0, 0, 0, 4])
        (some [0, 1, 0, 0, 0, 0, 0, 0, 0, 5, 0, 1, 0xff, 0, 0, 0, 0, 0, 0, 0, 9, 0xff, 0xff, 0xff,
          0xff, 0xff, 0xff, 0xff, 0xfe, 0xee])).result
      = .ok ⟨⟨5, none, "\uFFFD", 9, some (-2)⟩, ⟨"g", "t", 4⟩, 1⟩
    ∧ (OffsetCommit.decodeMessage
        (some (OffsetKey.stored ⟨"g", "é", -1⟩).encode)
        (some (stored ⟨⟨-9223372036854775808, some 2, "😀", 9, none⟩, ⟨"g", "é", -1⟩, 3⟩).encode)).result
      = .ok ⟨⟨-9223372036854775808, some 2, "😀", 9, none⟩, ⟨"g", "é", -1⟩, 3⟩ := by
  obtain ⟨hdecoded, hwritten⟩ := decodes_exactly_stored
  constructor
  · have hkey : OffsetKey.decode (some [0, 1, 0x67, 0, 1, 0x74, 0, 0, 0, 4])
        = .ok ⟨"g", "t", 4⟩ := by
      decide +kernel
    have hfits : (⟨1, 5, none, [0xff], 9, some (-2)⟩ : StoredOffset).Fits :=
      ⟨by decide, by decide, by decide, by decide⟩
    have hvalue : some [0, 1, 0, 0, 0, 0, 0, 0, 0, 5, 0, 1, 0xff, 0, 0, 0, 0, 0, 0, 0, 9, 0xff, 0xff,
        0xff, 0xff, 0xff, 0xff, 0xff, 0xfe, 0xee]
          = some ((⟨1, 5, none, [0xff], 9, some (-2)⟩ : StoredOffset).encode ++ [0xee]) := by
      decide +kernel
    have hmeaning : (⟨1, 5, none, [0xff], 9, some (-2)⟩ : StoredOffset).meaning ⟨"g", "t", 4⟩
        = ⟨⟨5, none, "\uFFFD", 9, some (-2)⟩, ⟨"g", "t", 4⟩, 1⟩ := by
      decide +kernel
    obtain ⟨-, hresult, -⟩ := (hdecoded hkey _).2 _ _ hfits hvalue
    rwa [hmeaning] at hresult
  · have hfields : HasVersionFields
        ⟨⟨-9223372036854775808, some 2, "😀", 9, none⟩, ⟨"g", "é", -1⟩, 3⟩ :=
      ⟨by decide, by decide, by decide⟩
    have hresult := hwritten _ hfields ⟨by decide +kernel, by decide +kernel⟩ (by decide +kernel)
    exact hresult

end OffsetCommit

end ConsumerOffsets
