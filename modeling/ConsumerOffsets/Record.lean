/-
# Records of the offsets topic

The version of a record's key says what the record holds: versions 0 and 1 a committed offset,
version 2 the metadata of a group.  A record without a value is a tombstone: it deletes what its
key names.
-/
import ConsumerOffsets.Event

namespace ConsumerOffsets

open Binary

/-- A decoded record. -/
inductive Record where
  | groupMetadata (group : GroupMetadata)
  | groupTombstone (group : String)
  | offsetCommit (commit : OffsetCommit)
  | offsetTombstone (key : OffsetKey)
deriving DecidableEq, Repr

/-! ## 1. Keys without and with a version -/

/-- A record of group metadata, from its value and its key without version tag. -/
def GroupMetadata.decodeMessage (key value : Option (List UInt8)) : Outcome GroupMetadata :=
  match GroupMetadata.decodeKey key with
  | .error e => .fail (.groupMetadata none) (.error e) e
  | .ok group =>
    (Outcome.ofValue (.groupMetadata (some group)) GroupMetadata.supportedVersions
      (fun version => GroupMetadata.decode version.toInt group) value).reportOwnerships

/-- A record of a committed offset, from its value and its key without version tag. -/
def OffsetCommit.decodeMessage (key value : Option (List UInt8)) : Outcome OffsetCommit :=
  match OffsetKey.decode key with
  | .error e => .fail (.offsetCommit none) (.error e) e
  | .ok key =>
    Outcome.ofValue (.offsetCommit (some key)) OffsetCommit.supportedVersions
      (OffsetCommit.decode key) value

/-- The version tag of a key and the bytes behind it. -/
def splitKey : Option (List UInt8) → Except DecodeError (Int16 × List UInt8)
  | none => .error (.missingKey .keyVersion)
  | some bytes => (Decoder.int16 .keyVersion bytes).mapError .invalidKey

/-! ## 2. Any record -/

/-- What kind of record a key is for. -/
inductive RecordKind where
  | offsetCommit
  | groupMetadata
deriving DecidableEq, Repr

/-- The kind that a key version stands for. -/
def RecordKind.ofKeyVersion? (version : Int) : Option RecordKind :=
  if version = 0 ∨ version = 1 then some .offsetCommit
  else if version = 2 then some .groupMetadata
  else none

namespace Record

/-- The tombstone for what a key names.  A key that cannot be decoded is not reported. -/
def decodeTombstone (kind : RecordKind) (key : List UInt8) : Outcome Record :=
  match kind with
  | .offsetCommit => .silent ((OffsetKey.decode (some key)).map .offsetTombstone)
  | .groupMetadata => .silent ((GroupMetadata.decodeKey (some key)).map .groupTombstone)

/-- A record with a value. -/
def decodeLive (kind : RecordKind) (key value : List UInt8) : Outcome Record :=
  match kind with
  | .offsetCommit => (OffsetCommit.decodeMessage (some key) (some value)).map .offsetCommit
  | .groupMetadata => (GroupMetadata.decodeMessage (some key) (some value)).map .groupMetadata

/-- A record, from its key and its value. -/
def decode (key value : Option (List UInt8)) : Outcome Record :=
  match splitKey key with
  | .error e => .fail .record (.error e) e
  | .ok (version, body) =>
    match RecordKind.ofKeyVersion? version.toInt with
    | none =>
      .fail .record (.keyVersion version.toInt) (.unsupportedVersion .keyVersion version.toInt)
    | some kind =>
      match value with
      | none => decodeTombstone kind body
      | some value => decodeLive kind body value

end Record

/-! ## 3. Runs of records -/

/-- A record as stored, and how its key is to be read. -/
structure StoredRecord where
  key : Option (List UInt8)
  value : Option (List UInt8)
  /-- The key names a group and has no version tag. -/
  bareGroup : Bool := false
deriving DecidableEq, Repr

/-- Decodes a stored record. -/
def StoredRecord.decode (stored : StoredRecord) : Outcome Record :=
  if stored.bareGroup then (GroupMetadata.decodeMessage stored.key stored.value).map .groupMetadata
  else Record.decode stored.key stored.value

/-- Decodes records one after another and collects the ownerships that they report in one list:
each outcome with what had been collected after it. -/
def StoredRecord.decodeAll (collected : List PartitionOwnership) :
    List StoredRecord → List (Outcome Record × List PartitionOwnership)
  | [] => []
  | stored :: rest =>
    let outcome := stored.decode
    let collected := collected ++ outcome.ownerships
    (outcome, collected) :: decodeAll collected rest

end ConsumerOffsets
