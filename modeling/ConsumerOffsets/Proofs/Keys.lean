/-
# Which keys are accepted

The key of a group is the written form of its name, and the key of an offset is written as two texts
and a number, both behind the version tag.  A key is accepted exactly when it begins like that
(`GroupMetadata.decodeKey_eq_ok_iff`, `OffsetKey.decode_eq_ok_iff`).  What follows is not looked at:
no decoder here asks whether its input is used up, and the ones for keys do not either
(`surplus_accepted`).

So different keys can name the same group, if one has more bytes behind the name.  That is the only
way, as long as the names are well-formed: keys that read alike begin alike
(`keys_read_by_their_beginning`).
-/
import Mathlib.Control.Monad.Basic
import ConsumerOffsets.Proofs.Failures
import ConsumerOffsets.Proofs.Unambiguous
import ConsumerOffsets.Proofs.WellFormedText

namespace ConsumerOffsets

open Binary

/-! ## 1. Keys of groups -/

namespace GroupMetadata

theorem decodeKey_eq_ok_iff {key : List UInt8} {group : String} :
    GroupMetadata.decodeKey (some key) = .ok group
      ↔ ∃ raw rest, raw.length ≤ Encoder.maxStringLength ∧ key = Encoder.string raw ++ rest
          ∧ group = Text.Utf8.decode raw := by
  constructor
  · intro h
    unfold GroupMetadata.decodeKey at h
    dsimp only at h
    split at h
    · next rest hread =>
      cases h
      obtain ⟨raw, hraw, rfl, rfl⟩ := Decoder.accepts_string .keyGroup hread
      exact ⟨raw, rest, hraw, rfl, rfl⟩
    · cases h
  · rintro ⟨raw, rest, hraw, rfl, rfl⟩
    exact decodeKey_string_append hraw rest

/-- Well-formed names that are read alike are the same, whatever follows them in their keys. -/
theorem name_eq_of_decodeKey_eq {raw raw' rest rest' : List UInt8}
    (hlength : raw.length ≤ Encoder.maxStringLength)
    (hlength' : raw'.length ≤ Encoder.maxStringLength)
    (hraw : Text.Utf8.WellFormed raw) (hraw' : Text.Utf8.WellFormed raw')
    (h : GroupMetadata.decodeKey (some (Encoder.string raw ++ rest))
      = GroupMetadata.decodeKey (some (Encoder.string raw' ++ rest'))) : raw = raw' := by
  rw [decodeKey_string_append hlength, decodeKey_string_append hlength'] at h
  exact hraw.eq_of_decode_eq hraw' (Except.ok.inj h)

end GroupMetadata

/-! ## 2. Keys of offsets -/

/-- The texts of a key are well-formed. -/
structure StoredOffsetKey.WellFormed (key : StoredOffsetKey) : Prop where
  groupId : Text.Utf8.WellFormed key.groupId
  topic : Text.Utf8.WellFormed key.topic

/-- Well-formed keys that mean the same are the same. -/
theorem StoredOffsetKey.WellFormed.eq_of_meaning_eq {key key' : StoredOffsetKey}
    (h : key.WellFormed) (h' : key'.WellFormed) (heq : key.meaning = key'.meaning) : key = key' := by
  have hgroupId : key.groupId = key'.groupId :=
    h.groupId.eq_of_decode_eq h'.groupId (congrArg OffsetKey.groupId heq)
  have htopic : key.topic = key'.topic :=
    h.topic.eq_of_decode_eq h'.topic (congrArg OffsetKey.topic heq)
  have hpartition : key.partition = key'.partition := congrArg OffsetKey.partition heq
  cases key
  cases key'
  congr

namespace OffsetKey

theorem decode_encode_append {stored : StoredOffsetKey} (h : stored.Fits) (rest : List UInt8) :
    OffsetKey.decode (some (stored.encode ++ rest)) = .ok stored.meaning := by
  rw [OffsetKey.decode, h.reads_encode rest]

theorem decode_eq_ok_iff {key : List UInt8} {offsetKey : OffsetKey} :
    OffsetKey.decode (some key) = .ok offsetKey
      ↔ ∃ (stored : StoredOffsetKey) (rest : List UInt8), stored.Fits
          ∧ key = stored.encode ++ rest ∧ offsetKey = stored.meaning := by
  constructor
  · intro h
    unfold OffsetKey.decode at h
    dsimp only at h
    split at h
    · next rest hread =>
      cases h
      obtain ⟨stored, hfits, rfl, rfl⟩ := StoredOffsetKey.accepts_decodeBody hread
      exact ⟨stored, rest, hfits, rfl, rfl⟩
    · cases h
  · rintro ⟨stored, rest, hfits, rfl, rfl⟩
    exact decode_encode_append hfits rest

/-- Well-formed keys that are read alike begin alike. -/
theorem stored_eq_of_decode_eq {stored stored' : StoredOffsetKey} {rest rest' : List UInt8}
    (hfits : stored.Fits) (hfits' : stored'.Fits) (hstored : stored.WellFormed)
    (hstored' : stored'.WellFormed)
    (h : OffsetKey.decode (some (stored.encode ++ rest))
      = OffsetKey.decode (some (stored'.encode ++ rest'))) : stored = stored' := by
  rw [decode_encode_append hfits, decode_encode_append hfits'] at h
  exact hstored.eq_of_meaning_eq hstored' (Except.ok.inj h)

end OffsetKey

/-! ## 3. Both kinds -/

/-- A key is accepted exactly when it begins with the written form that its kind of record has, and
it is read as what that form means, whatever follows.  Any other key is an invalid key.  Among keys
with well-formed texts, two that are read alike begin with the same form. -/
theorem keys_read_by_their_beginning :
    (∀ (key : List UInt8) (group : String), GroupMetadata.decodeKey (some key) = .ok group
      ↔ ∃ raw rest, raw.length ≤ Encoder.maxStringLength ∧ key = Encoder.string raw ++ rest
          ∧ group = Text.Utf8.decode raw)
    ∧ (∀ (key : List UInt8) (offsetKey : OffsetKey), OffsetKey.decode (some key) = .ok offsetKey
      ↔ ∃ (stored : StoredOffsetKey) (rest : List UInt8), stored.Fits
          ∧ key = stored.encode ++ rest ∧ offsetKey = stored.meaning)
    ∧ (∀ (key : List UInt8) (e : DecodeError), GroupMetadata.decodeKey (some key) = .error e →
        ∃ cause, e = .invalidKey cause)
    ∧ (∀ (key : List UInt8) (e : DecodeError), OffsetKey.decode (some key) = .error e →
        ∃ cause, e = .invalidKey cause)
    ∧ (∀ raw raw' rest rest' : List UInt8, raw.length ≤ Encoder.maxStringLength →
        raw'.length ≤ Encoder.maxStringLength →
        Text.Utf8.WellFormed raw → Text.Utf8.WellFormed raw' →
        GroupMetadata.decodeKey (some (Encoder.string raw ++ rest))
          = GroupMetadata.decodeKey (some (Encoder.string raw' ++ rest')) → raw = raw')
    ∧ (∀ (stored stored' : StoredOffsetKey) (rest rest' : List UInt8), stored.Fits → stored'.Fits →
        stored.WellFormed → stored'.WellFormed →
        OffsetKey.decode (some (stored.encode ++ rest))
          = OffsetKey.decode (some (stored'.encode ++ rest')) → stored = stored') := by
  refine ⟨fun _ _ => GroupMetadata.decodeKey_eq_ok_iff, fun _ _ => OffsetKey.decode_eq_ok_iff,
    ?_, ?_, ?_, ?_⟩
  · intro key e h
    obtain ⟨cause, rfl, -⟩ := GroupMetadata.failure_of_decodeKey h
    exact ⟨cause, rfl⟩
  · intro key e h
    obtain ⟨cause, rfl, -⟩ := OffsetKey.failure_of_decode h
    exact ⟨cause, rfl⟩
  · intro raw raw' rest rest' hlength hlength' hraw hraw' h
    exact GroupMetadata.name_eq_of_decodeKey_eq hlength hlength' hraw hraw' h
  · intro stored stored' rest rest' hfits hfits' hstored hstored' h
    exact OffsetKey.stored_eq_of_decode_eq hfits hfits' hstored hstored' h

/-- The names `g` and `h` are told apart, whatever is behind them, and so are two partitions of the
topic `t`. -/
theorem keys_read_by_their_beginning_of_surplus :
    GroupMetadata.decodeKey (some [0, 1, 0x67, 0xff]) = .ok "g"
    ∧ GroupMetadata.decodeKey (some [0, 1, 0x67, 0xff])
      ≠ GroupMetadata.decodeKey (some [0, 1, 0x68, 0xee])
    ∧ OffsetKey.decode (some [0, 1, 0x67, 0, 1, 0x74, 0, 0, 0, 4, 0xff])
      ≠ OffsetKey.decode (some [0, 1, 0x67, 0, 1, 0x74, 0, 0, 0, 5]) := by
  have hg : Text.Utf8.WellFormed [0x67] := ⟨"g", by decide +kernel⟩
  have hh : Text.Utf8.WellFormed [0x68] := ⟨"h", by decide +kernel⟩
  have ht : Text.Utf8.WellFormed [0x74] := ⟨"t", by decide +kernel⟩
  obtain ⟨hgroup, -, -, -, hnames, hstored⟩ := keys_read_by_their_beginning
  refine ⟨(hgroup _ _).mpr ⟨[0x67], [0xff], by decide, by decide, by decide +kernel⟩, ?_, ?_⟩
  · intro h
    have hraw := hnames [0x67] [0x68] [0xff] [0xee] (by decide) (by decide) hg hh h
    exact absurd hraw (by decide)
  · intro h
    have hkey := hstored ⟨[0x67], [0x74], 4⟩ ⟨[0x67], [0x74], 5⟩ [0xff] [] ⟨by decide, by decide⟩
      ⟨by decide, by decide⟩ ⟨hg, ht⟩ ⟨hg, ht⟩ h
    exact absurd hkey (by decide)

/-- The name `g` with one byte behind it is the written form of no name.  It is accepted all the same,
and so is an offset's key with one byte behind it: both are read like the keys without that byte. -/
theorem surplus_accepted :
    (∀ raw : List UInt8, [0, 1, 0x67, 0xff] ≠ Encoder.string raw)
    ∧ GroupMetadata.decodeKey (some [0, 1, 0x67, 0xff]) = .ok "g"
    ∧ GroupMetadata.decodeKey (some [0, 1, 0x67]) = .ok "g"
    ∧ OffsetKey.decode (some [0, 1, 0x67, 0, 1, 0x74, 0, 0, 0, 4, 0xff]) = .ok ⟨"g", "t", 4⟩
    ∧ OffsetKey.decode (some [0, 1, 0x67, 0, 1, 0x74, 0, 0, 0, 4]) = .ok ⟨"g", "t", 4⟩ := by
  refine ⟨?_, by decide +kernel, by decide +kernel, by decide +kernel, by decide +kernel⟩
  intro raw h
  have hlength := congrArg List.length h
  rw [Encoder.length_string] at hlength
  have hsplit : Encoder.string [0x67] ++ [0xff] = Encoder.string raw ++ [] := by
    rw [List.append_nil, ← h]
    decide
  have hshort : raw.length ≤ Encoder.maxStringLength := by
    rw [Encoder.maxStringLength]
    have hfour : ([0, 1, 0x67, 0xff] : List UInt8).length = 4 := rfl
    omega
  obtain ⟨-, hrest⟩ := unambiguous_string (by decide) hshort hsplit
  cases hrest

end ConsumerOffsets
