/-
# How a value is decoded

`GroupMetadata.decodeMessage` and `OffsetCommit.decodeMessage` first decode the key, and then the
value in the same way: a version tag, a check of the version, a body.  These lemmas say how that
ends, for each form that the bytes of a value can have: too short for a tag, or a tag and what
follows it.
-/
import ConsumerOffsets.Proofs.Inversion
import ConsumerOffsets.Record

namespace ConsumerOffsets

open Binary

/-! ## 1. Version tags -/

/-- Two bytes and more are a version tag and what follows it. -/
theorem exists_eq_int16_append {bytes : List UInt8} (h : 2 ≤ bytes.length) :
    ∃ (version : Int16) (rest : List UInt8), bytes = Encoder.int16 version ++ rest := by
  have hlength : (bytes.take 2).length = Width.two.size := by
    rw [List.length_take, Width.size]
    omega
  have hread := (Decoder.reads_int .two .version _ hlength).bind_pure Int16.ofInt (bytes.drop 2)
  rw [List.take_append_drop] at hread
  exact ⟨_, _, Decoder.int16_eq_ok hread⟩

namespace Outcome

variable {α : Type} {subject : Subject} {supported : List Int} {body : Int16 → Decoder α}

theorem ofValue_of_short {bytes : List UInt8} (h : bytes.length < 2) :
    (ofValue subject supported body (some bytes)).result
      = .error (.missingVersion (some bytes.length)) := by
  rw [ofValue, Decoder.int16_of_short h]
  rfl

theorem ofValue_of_unsupported {version : Int16} (h : version.toInt ∉ supported)
    (rest : List UInt8) :
    (ofValue subject supported body (some (Encoder.int16 version ++ rest))).result
      = .error (.unsupportedVersion .version version.toInt) := by
  simp only [ofValue, Decoder.reads_int16 version .version rest]
  rw [if_pos h]
  rfl

theorem ofValue_of_supported {version : Int16} (h : version.toInt ∈ supported)
    (rest : List UInt8) :
    (ofValue subject supported body (some (Encoder.int16 version ++ rest))).result
      = (body version rest).map Prod.fst := by
  simp only [ofValue, Decoder.reads_int16 version .version rest]
  rw [if_neg (not_not_intro h)]
  cases body version rest <;> rfl

/-- A value is decoded exactly when it is a supported version and a body of that version. -/
theorem ofValue_eq_ok_iff {bytes : List UInt8} {a : α} :
    (ofValue subject supported body (some bytes)).result = .ok a
      ↔ ∃ (version : Int16) (input rest : List UInt8), version.toInt ∈ supported
        ∧ bytes = Encoder.int16 version ++ input ∧ body version input = .ok (a, rest) := by
  constructor
  · intro h
    rcases Nat.lt_or_ge bytes.length 2 with hshort | hlong
    · rw [ofValue_of_short hshort] at h
      cases h
    · obtain ⟨version, input, rfl⟩ := exists_eq_int16_append hlong
      by_cases hversion : version.toInt ∈ supported
      · rw [ofValue_of_supported hversion] at h
        cases hbody : body version input with
        | error e =>
          rw [hbody] at h
          cases h
        | ok p =>
          rw [hbody] at h
          cases h
          exact ⟨version, input, p.2, hversion, rfl, hbody⟩
      · rw [ofValue_of_unsupported hversion] at h
        cases h
  · rintro ⟨version, input, rest, hversion, rfl, hbody⟩
    rw [ofValue_of_supported hversion, hbody]
    rfl

/-- Reporting ownerships leaves the group as it is. -/
theorem result_reportOwnerships (outcome : Outcome GroupMetadata) :
    outcome.reportOwnerships.result = outcome.result := by
  rw [reportOwnerships]
  split <;> rfl

end Outcome

/-! ## 2. Keys -/

/-- A name is read from the front of a key, whatever follows it. -/
theorem GroupMetadata.decodeKey_string_append {raw : List UInt8}
    (h : raw.length ≤ Encoder.maxStringLength) (rest : List UInt8) :
    GroupMetadata.decodeKey (some (Encoder.string raw ++ rest)) = .ok (Text.Utf8.decode raw) := by
  rw [GroupMetadata.decodeKey, Decoder.reads_string h .keyGroup rest]

/-- The key of a group is decoded to the group's name. -/
theorem GroupMetadata.decodeKey_string {raw : List UInt8}
    (h : raw.length ≤ Encoder.maxStringLength) :
    GroupMetadata.decodeKey (some (Encoder.string raw)) = .ok (Text.Utf8.decode raw) := by
  have hkey := GroupMetadata.decodeKey_string_append h []
  rwa [List.append_nil] at hkey

/-! ## 3. Messages -/

theorem GroupMetadata.decode_of_supported {version : Int}
    (h : version ∈ GroupMetadata.supportedVersions) (groupId : String) :
    GroupMetadata.decode version groupId = GroupMetadata.decodeBody version groupId := by
  rw [GroupMetadata.decode, if_neg (not_not_intro h)]

/-- A group's message fails for its key, or is decoded from its value. -/
theorem GroupMetadata.result_decodeMessage (key value : Option (List UInt8)) :
    (GroupMetadata.decodeMessage key value).result
      = (GroupMetadata.decodeKey key).bind fun group =>
          (Outcome.ofValue (.groupMetadata (some group)) GroupMetadata.supportedVersions
            (fun version => GroupMetadata.decode version.toInt group) value).result := by
  rw [GroupMetadata.decodeMessage]
  cases GroupMetadata.decodeKey key with
  | error e => rfl
  | ok group => exact Outcome.result_reportOwnerships _

/-- An offset's message fails for its key, or is decoded from its value. -/
theorem OffsetCommit.result_decodeMessage (key value : Option (List UInt8)) :
    (OffsetCommit.decodeMessage key value).result
      = (OffsetKey.decode key).bind fun key =>
          (Outcome.ofValue (.offsetCommit (some key)) OffsetCommit.supportedVersions
            (OffsetCommit.decode key) value).result := by
  rw [OffsetCommit.decodeMessage]
  cases OffsetKey.decode key <;> rfl

/-- A stored group that fits is decoded to what it means under the name from the key, whatever
follows it. -/
theorem GroupMetadata.decodeMessage_of_fits {key : Option (List UInt8)} {groupId : String}
    (hkey : GroupMetadata.decodeKey key = .ok groupId) {stored : StoredGroup} (h : stored.Fits)
    (rest : List UInt8) :
    (GroupMetadata.decodeMessage key (some (stored.encode ++ rest))).result
      = .ok (stored.meaning groupId) := by
  rw [result_decodeMessage, hkey, Except.bind, StoredGroup.encode, List.append_assoc,
    Outcome.ofValue_of_supported h.version, decode_of_supported h.version,
    h.reads_encodeBody groupId rest]
  rfl

/-- A group whose message is decoded was stored in the value, under the name from the key. -/
theorem GroupMetadata.exists_stored_of_decodeMessage {key : Option (List UInt8)}
    {value : List UInt8} {group : GroupMetadata}
    (h : (GroupMetadata.decodeMessage key (some value)).result = .ok group) :
    ∃ (groupId : String) (stored : StoredGroup) (rest : List UInt8),
      GroupMetadata.decodeKey key = .ok groupId ∧ stored.Fits ∧ value = stored.encode ++ rest
        ∧ group = stored.meaning groupId := by
  rw [GroupMetadata.result_decodeMessage] at h
  cases hkey : GroupMetadata.decodeKey key with
  | error e =>
    rw [hkey] at h
    cases h
  | ok groupId =>
    rw [hkey] at h
    obtain ⟨version, input, rest, hversion, rfl, hbody⟩ := Outcome.ofValue_eq_ok_iff.mp h
    rw [GroupMetadata.decode_of_supported hversion] at hbody
    obtain ⟨stored, ⟨rfl, hfits⟩, rfl, rfl⟩ := StoredGroup.accepts_decodeBody hversion _ hbody
    refine ⟨groupId, stored, rest, rfl, hfits, ?_, rfl⟩
    rw [StoredGroup.encode, List.append_assoc]

/-- An offset whose message is decoded was stored in the value, under the key's meaning. -/
theorem OffsetCommit.exists_stored_of_decodeMessage {key : Option (List UInt8)}
    {value : List UInt8} {commit : OffsetCommit}
    (h : (OffsetCommit.decodeMessage key (some value)).result = .ok commit) :
    ∃ (offsetKey : OffsetKey) (stored : StoredOffset) (rest : List UInt8),
      OffsetKey.decode key = .ok offsetKey ∧ stored.Fits ∧ value = stored.encode ++ rest
        ∧ commit = stored.meaning offsetKey := by
  rw [OffsetCommit.result_decodeMessage] at h
  cases hkey : OffsetKey.decode key with
  | error e =>
    rw [hkey] at h
    cases h
  | ok offsetKey =>
    rw [hkey] at h
    obtain ⟨version, input, rest, hversion, rfl, hbody⟩ := Outcome.ofValue_eq_ok_iff.mp h
    obtain ⟨stored, ⟨rfl, hfits⟩, rfl, rfl⟩ := StoredOffset.accepts_decode hversion _ hbody
    refine ⟨offsetKey, stored, rest, rfl, hfits, ?_, rfl⟩
    rw [StoredOffset.encode, List.append_assoc]

end ConsumerOffsets
