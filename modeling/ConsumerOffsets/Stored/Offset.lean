/-
# Committed offsets as they are stored

The bytes of an offset's key and value, part by part.  Whatever fits the format is read back to
what it means (`StoredOffsetKey.Fits.reads_encode`, `StoredOffset.Fits.reads_encodeBody`), and the
fields of a value make up its bytes (`StoredOffset.flatMap_fields`).
-/
import ConsumerOffsets.OffsetCommit
import ConsumerOffsets.Stored.Field

namespace ConsumerOffsets

open Binary

/-! ## 1. Keys -/

/-- A key as it is stored, without its version tag.  Texts are given as their bytes. -/
structure StoredOffsetKey where
  groupId : List UInt8
  topic : List UInt8
  partition : Int32
deriving DecidableEq, Repr

namespace StoredOffsetKey

/-- The bytes of a key. -/
def encode (key : StoredOffsetKey) : List UInt8 :=
  Encoder.string key.groupId ++ (Encoder.string key.topic ++ Encoder.int32 key.partition)

/-- The key that the bytes stand for. -/
def meaning (key : StoredOffsetKey) : OffsetKey where
  groupId := Text.Utf8.decode key.groupId
  topic := Text.Utf8.decode key.topic
  partition := key.partition

/-- The lengths of a key can be written. -/
structure Fits (key : StoredOffsetKey) : Prop where
  groupId : key.groupId.length ≤ Encoder.maxStringLength
  topic : key.topic.length ≤ Encoder.maxStringLength

/-- A key that fits is read back. -/
theorem Fits.reads_encode {key : StoredOffsetKey} (h : key.Fits) :
    Decoder.Reads OffsetKey.decodeBody key.encode key.meaning :=
  (Decoder.reads_string h.groupId _).bind
    ((Decoder.reads_string h.topic _).bind
      ((Decoder.reads_int32 key.partition _).bind_pure
        fun partition => { key.meaning with partition }))

end StoredOffsetKey

/-! ## 2. Values -/

/-- A value as it is stored. -/
structure StoredOffset where
  version : Int16
  offset : Int64
  leaderEpoch : Option Int32
  metadata : List UInt8
  commitTimestamp : Int64
  expireTimestamp : Option Int64
deriving DecidableEq, Repr

namespace StoredOffset

/-- The bytes behind the version tag. -/
def encodeBody (stored : StoredOffset) : List UInt8 :=
  Encoder.int64 stored.offset ++
    (stored.leaderEpoch.elim [] Encoder.int32 ++
      (Encoder.string stored.metadata ++
        (Encoder.int64 stored.commitTimestamp ++
          stored.expireTimestamp.elim [] Encoder.int64)))

/-- The bytes of a value. -/
def encode (stored : StoredOffset) : List UInt8 :=
  Encoder.int16 stored.version ++ stored.encodeBody

/-- What was committed. -/
def value (stored : StoredOffset) : OffsetValue where
  offset := stored.offset
  leaderEpoch := stored.leaderEpoch
  metadata := Text.Utf8.decode stored.metadata
  commitTimestamp := stored.commitTimestamp
  expireTimestamp := stored.expireTimestamp

/-- The committed offset that the bytes stand for, under its key. -/
def meaning (key : OffsetKey) (stored : StoredOffset) : OffsetCommit :=
  { stored.value with key, version := stored.version }

/-- The version is supported, the value has its fields, and the length of its text can be
written. -/
structure Fits (stored : StoredOffset) : Prop where
  version : stored.version.toInt ∈ OffsetCommit.supportedVersions
  leaderEpoch : stored.leaderEpoch.isSome ↔ 3 ≤ stored.version.toInt
  metadata : stored.metadata.length ≤ Encoder.maxStringLength
  expireTimestamp : stored.expireTimestamp.isSome ↔ stored.version.toInt = 1

/-- An offset that fits is read back. -/
theorem Fits.reads_encodeBody {stored : StoredOffset} (h : stored.Fits) (key : OffsetKey) :
    Decoder.Reads (OffsetCommit.decode key stored.version) stored.encodeBody
      (stored.meaning key) := by
  have hvalue : Decoder.Reads (OffsetValue.decode stored.version.toInt) stored.encodeBody
      stored.value :=
    (Decoder.reads_int64 stored.offset _).bind
      ((Decoder.reads_optional h.leaderEpoch fun n => Decoder.reads_int32 n _).bind
        ((Decoder.reads_string h.metadata _).bind
          ((Decoder.reads_int64 stored.commitTimestamp _).bind
            ((Decoder.reads_optional h.expireTimestamp fun n => Decoder.reads_int64 n _).bind_pure
              fun expireTimestamp => { stored.value with expireTimestamp }))))
  exact hvalue.bind_pure fun value : OffsetValue =>
    ({ value with key, version := stored.version } : OffsetCommit)

/-- The fields behind the version tag. -/
def bodyFields (stored : StoredOffset) : List StoredField :=
  [.int64 (.root "offset") stored.offset]
  ++ StoredField.optional (.int32 (.root "leader_epoch")) stored.leaderEpoch
  ++ [.string (.root "metadata") stored.metadata,
    .int64 (.root "commit_timestamp") stored.commitTimestamp]
  ++ StoredField.optional (.int64 (.root "expire_timestamp")) stored.expireTimestamp

theorem flatMap_bodyFields (stored : StoredOffset) :
    stored.bodyFields.flatMap StoredField.encode = stored.encodeBody := by
  simp [bodyFields, encodeBody]

/-- The fields of a value. -/
def fields (stored : StoredOffset) : List StoredField :=
  .int16 .version stored.version :: stored.bodyFields

/-- The fields of a value, written one after another, are the value. -/
theorem flatMap_fields (stored : StoredOffset) :
    stored.fields.flatMap StoredField.encode = stored.encode := by
  rw [fields, List.flatMap_cons, flatMap_bodyFields, StoredField.encode_int16, encode]

end StoredOffset

end ConsumerOffsets
