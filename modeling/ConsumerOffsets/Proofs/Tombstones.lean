/-
# Tombstones and the records they delete

A tombstone has the key of a record and no value.  What its key says is what the key says when there
is a value (`Record.decode_agreesOnKey`): if the tombstone fails, so does every record with that
key, with the same error, whatever its value is; and if the tombstone is decoded, a record with that
key either has the group or the offset key that the tombstone names, or fails for its value.

That an error is about the value (`DecodeError.AboutValue`) is read off its field: the fields of
values have other roots than those of keys.
-/
import Mathlib.Control.Monad.Basic
import ConsumerOffsets.Proofs.Failures

namespace ConsumerOffsets

/-! ## 1. The root of a path -/

namespace FieldPath

/-- The name at which a path begins. -/
def rootName : FieldPath → String
  | root name => name
  | child parent _ => parent.rootName
  | item list _ => list.rootName

/-- A path that reaches into another one begins where that one does. -/
theorem rootName_eq_of_within {outer : FieldPath} : ∀ path : FieldPath, Within outer path →
    path.rootName = outer.rootName
  | root _, h => congrArg rootName h
  | child _ _, Or.inl h => congrArg rootName h
  | child parent _, Or.inr h => rootName_eq_of_within parent h
  | item _ _, Or.inl h => congrArg rootName h
  | item list _, Or.inr h => rootName_eq_of_within list h

/-- The fields of a value do not begin like the key. -/
theorem not_within_key {path : FieldPath} (h : path.rootName ≠ "key") : ¬ Within key path :=
  fun hwithin => h (rootName_eq_of_within path hwithin)

end FieldPath

/-! ## 2. Errors about the value -/

namespace DecodeError

/-- The error is not one that only keys have, and its field is not in the key. -/
structure AboutValue (e : DecodeError) : Prop where
  ne_invalidKey : ∀ cause, e ≠ .invalidKey cause
  ne_missingKey : ∀ field, e ≠ .missingKey field
  field : ¬ FieldPath.Within .key e.field

variable {field : FieldPath} {e : DecodeError}

theorem Shortage.aboutValue (h : Shortage field e) (hroot : field.rootName ≠ "key") :
    e.AboutValue := by
  cases h
  exact ⟨nofun, nofun, FieldPath.not_within_key hroot⟩

theorem BadLength.aboutValue (h : BadLength field e) (hroot : field.rootName ≠ "key") :
    e.AboutValue := by
  cases h with
  | short h => exact h.aboutValue hroot
  | negative _ => exact ⟨nofun, nofun, FieldPath.not_within_key hroot⟩

theorem BadCount.aboutValue (h : BadCount field e) (hroot : field.rootName ≠ "key") :
    e.AboutValue := by
  cases h with
  | short h => exact h.aboutValue hroot
  | negative _ => exact ⟨nofun, nofun, FieldPath.not_within_key hroot⟩

end DecodeError

theorem Assignment.RegionFailure.aboutValue {place : FieldPath} {e : DecodeError}
    (h : Assignment.RegionFailure place e) (hroot : place.rootName ≠ "key") : e.AboutValue := by
  cases h with
  | noVersion h => exact h.aboutValue hroot
  | badVersion _ => exact ⟨nofun, nofun, FieldPath.not_within_key hroot⟩
  | body _ => exact ⟨nofun, nofun, FieldPath.not_within_key hroot⟩

theorem GroupMember.Failure.aboutValue {version : Int} {place : FieldPath} {e : DecodeError}
    (h : GroupMember.Failure version place e) (hroot : place.rootName ≠ "key") :
    e.AboutValue := by
  cases h with
  | memberId h => exact h.aboutValue hroot
  | clientId h => exact h.aboutValue hroot
  | clientHost h => exact h.aboutValue hroot
  | rebalanceTimeout _ h => exact h.aboutValue hroot
  | sessionTimeout h => exact h.aboutValue hroot
  | subscription h => exact h.aboutValue hroot
  | assignmentRegion h => exact h.aboutValue hroot
  | assignment h => exact h.aboutValue hroot

theorem GroupMetadata.Failure.aboutValue {version : Int} {e : DecodeError}
    (h : GroupMetadata.Failure version e) : e.AboutValue := by
  cases h with
  | protocolType h => exact h.aboutValue (by decide)
  | generation h => exact h.aboutValue (by decide)
  | protocol h => exact h.aboutValue (by decide)
  | leader h => exact h.aboutValue (by decide)
  | memberCount h => exact h.aboutValue (by decide)
  | member i h => exact h.aboutValue (show "members" ≠ "key" by decide)

theorem OffsetCommit.Failure.aboutValue {version : Int} {e : DecodeError}
    (h : OffsetCommit.Failure version e) : e.AboutValue := by
  cases h with
  | offset h => exact h.aboutValue (by decide)
  | leaderEpoch _ h => exact h.aboutValue (by decide)
  | metadata h => exact h.aboutValue (by decide)
  | commitTimestamp h => exact h.aboutValue (by decide)
  | expireTimestamp _ h => exact h.aboutValue (by decide)

theorem ValueFailure.aboutValue {supported : List Int} {body : Int → DecodeError → Prop}
    (hbody : ∀ {version : Int} {e : DecodeError}, body version e → e.AboutValue) {e : DecodeError}
    (h : ValueFailure supported body e) : e.AboutValue := by
  have hversion : FieldPath.version.rootName ≠ "key" := by decide
  cases h with
  | noVersion _ => exact ⟨nofun, nofun, FieldPath.not_within_key hversion⟩
  | unsupportedVersion _ => exact ⟨nofun, nofun, FieldPath.not_within_key hversion⟩
  | body _ h => exact hbody h

/-- What is wrong with a value is about the value. -/
theorem RecordKind.aboutValue_of_valueFailure {kind : RecordKind} {e : DecodeError}
    (h : kind.ValueFailure e) : e.AboutValue := by
  cases kind with
  | groupMetadata => exact ConsumerOffsets.ValueFailure.aboutValue (·.aboutValue) h
  | offsetCommit => exact ConsumerOffsets.ValueFailure.aboutValue (·.aboutValue) h

/-! ## 3. Two records with one key -/

/-- What a tombstone is decoded to, and what a record with the same key and a value is decoded to.
Either the key is at fault, and both fail alike; or the tombstone names a group or an offset key, and
the other record has just that, or fails with an error about its value. -/
inductive Record.AgreesOnKey : Except DecodeError Record → Except DecodeError Record → Prop where
  | badKey (e : DecodeError) : AgreesOnKey (.error e) (.error e)
  | group (group : GroupMetadata) :
      AgreesOnKey (.ok (.groupTombstone group.groupId)) (.ok (.groupMetadata group))
  | offset (commit : OffsetCommit) :
      AgreesOnKey (.ok (.offsetTombstone commit.key)) (.ok (.offsetCommit commit))
  | badGroup (group : String) {e : DecodeError} (h : RecordKind.groupMetadata.ValueFailure e)
      (hvalue : e.AboutValue) : AgreesOnKey (.ok (.groupTombstone group)) (.error e)
  | badOffset (key : OffsetKey) {e : DecodeError} (h : RecordKind.offsetCommit.ValueFailure e)
      (hvalue : e.AboutValue) : AgreesOnKey (.ok (.offsetTombstone key)) (.error e)

/-- A group has the name from its key. -/
theorem GroupMetadata.groupId_of_decodeMessage {key : Option (List UInt8)} {value : List UInt8}
    {groupId : String} {group : GroupMetadata} (hkey : GroupMetadata.decodeKey key = .ok groupId)
    (h : (GroupMetadata.decodeMessage key (some value)).result = .ok group) :
    group.groupId = groupId := by
  obtain ⟨groupId', stored, rest, hkey', -, -, rfl⟩ := exists_stored_of_decodeMessage h
  rw [hkey] at hkey'
  cases hkey'
  rfl

/-- A commit has the key that its key stands for. -/
theorem OffsetCommit.key_of_decodeMessage {key : Option (List UInt8)} {value : List UInt8}
    {offsetKey : OffsetKey} {commit : OffsetCommit} (hkey : OffsetKey.decode key = .ok offsetKey)
    (h : (OffsetCommit.decodeMessage key (some value)).result = .ok commit) :
    commit.key = offsetKey := by
  obtain ⟨offsetKey', stored, rest, hkey', -, -, rfl⟩ := exists_stored_of_decodeMessage h
  rw [hkey] at hkey'
  cases hkey'
  rfl

namespace Record

/-- The bytes behind the version of a key are decoded alike with and without a value. -/
theorem agreesOnKey_of_kind (kind : RecordKind) (key value : List UInt8) :
    AgreesOnKey (decodeTombstone kind key).result (decodeLive kind key value).result := by
  cases kind with
  | groupMetadata =>
    show AgreesOnKey ((GroupMetadata.decodeKey (some key)).map groupTombstone)
      ((GroupMetadata.decodeMessage (some key) (some value)).result.map groupMetadata)
    cases hkey : GroupMetadata.decodeKey (some key) with
    | error e =>
      rw [GroupMetadata.result_decodeMessage, hkey]
      exact .badKey e
    | ok groupId =>
      cases hresult : (GroupMetadata.decodeMessage (some key) (some value)).result with
      | error e =>
        have hvalue := GroupMetadata.valueFailure_of_decodeMessage hkey hresult
        exact .badGroup groupId hvalue (RecordKind.aboutValue_of_valueFailure hvalue)
      | ok group =>
        rw [← GroupMetadata.groupId_of_decodeMessage hkey hresult]
        exact .group group
  | offsetCommit =>
    show AgreesOnKey ((OffsetKey.decode (some key)).map offsetTombstone)
      ((OffsetCommit.decodeMessage (some key) (some value)).result.map offsetCommit)
    cases hkey : OffsetKey.decode (some key) with
    | error e =>
      rw [OffsetCommit.result_decodeMessage, hkey]
      exact .badKey e
    | ok offsetKey =>
      cases hresult : (OffsetCommit.decodeMessage (some key) (some value)).result with
      | error e =>
        have hvalue := OffsetCommit.valueFailure_of_decodeMessage hkey hresult
        exact .badOffset offsetKey hvalue (RecordKind.aboutValue_of_valueFailure hvalue)
      | ok commit =>
        rw [← OffsetCommit.key_of_decodeMessage hkey hresult]
        exact .offset commit

/-- A tombstone and a record with a value agree on the key that they share. -/
theorem decode_agreesOnKey (key : Option (List UInt8)) (value : List UInt8) :
    AgreesOnKey (decode key none).result (decode key (some value)).result := by
  unfold decode
  cases splitKey key with
  | error e => exact .badKey e
  | ok p =>
    obtain ⟨version, body⟩ := p
    dsimp only
    cases RecordKind.ofKeyVersion? version.toInt with
    | none => exact .badKey _
    | some kind => exact agreesOnKey_of_kind kind body value

end Record

end ConsumerOffsets
