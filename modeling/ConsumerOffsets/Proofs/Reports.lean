/-
# What a decoding reports

A decoding that fails reports one failure, and one that gives a record reports who owns what in that
record (`Outcome.Reports`).  So do the messages of groups and of offsets, whatever is wrong with
them, and every record that has a value (`Record.reports_decodeLive`).

Tombstones do not.  A tombstone's key is decoded without a report: when its version stands for a
kind of record but what follows it is malformed, the tombstone fails and the log is empty.  This is
the only way to fail without a warning (`Record.length_warnings_decode`).
-/
import Mathlib.Control.Monad.Basic
import ConsumerOffsets.Log
import ConsumerOffsets.Proofs.Failures

namespace ConsumerOffsets

open Binary

/-! ## 1. Reports -/

namespace Outcome

variable {α β : Type}

/-- One failure is reported if the decoding fails, and otherwise nothing but the ownerships of what
was decoded. -/
inductive Reports (owned : α → List PartitionOwnership) : Outcome α → Prop where
  | succeed (a : α) : Reports owned { events := (owned a).map Event.owned, result := .ok a }
  | fail (subject : Subject) (reason : FailureReason) (e : DecodeError) :
      Reports owned (.fail subject reason e)

/-- Changing the record changes no event. -/
theorem Reports.map {outcome : Outcome α} (f : α → β) {owned : β → List PartitionOwnership}
    (h : outcome.Reports fun a => owned (f a)) : (outcome.map f).Reports owned := by
  cases h with
  | succeed a => exact .succeed (f a)
  | fail subject reason e => exact .fail subject reason e

/-- A value fails in one place, and reports there.  No ownership is reported before it is decoded. -/
theorem reports_ofValue (subject : Subject) (supported : List Int) (body : Int16 → Decoder α)
    (value : Option (List UInt8)) :
    (ofValue subject supported body value).Reports fun _ => [] := by
  cases value with
  | none => exact .fail ..
  | some bytes =>
    unfold ofValue
    dsimp only
    split
    · exact .fail ..
    · split
      · exact .fail ..
      · split
        · exact .succeed _
        · exact .fail ..

/-- The ownerships of a group are reported once the group is there. -/
theorem Reports.reportOwnerships {outcome : Outcome GroupMetadata}
    (h : outcome.Reports fun _ => []) :
    outcome.reportOwnerships.Reports GroupMetadata.ownerships := by
  cases h with
  | succeed group => exact .succeed group
  | fail subject reason e => exact .fail subject reason e

end Outcome

/-! ## 2. Messages and records -/

theorem GroupMetadata.reports_decodeMessage (key value : Option (List UInt8)) :
    (GroupMetadata.decodeMessage key value).Reports GroupMetadata.ownerships := by
  unfold GroupMetadata.decodeMessage
  split
  · exact .fail ..
  · exact (Outcome.reports_ofValue ..).reportOwnerships

theorem OffsetCommit.reports_decodeMessage (key value : Option (List UInt8)) :
    (OffsetCommit.decodeMessage key value).Reports fun _ => [] := by
  unfold OffsetCommit.decodeMessage
  split
  · exact .fail ..
  · exact Outcome.reports_ofValue ..

namespace Record

/-- The ownerships of a record.  Only a group has members that own something. -/
def ownerships : Record → List PartitionOwnership
  | groupMetadata group => group.ownerships
  | groupTombstone _ | offsetCommit _ | offsetTombstone _ => []

theorem reports_decodeLive (kind : RecordKind) (key value : List UInt8) :
    (decodeLive kind key value).Reports ownerships := by
  cases kind with
  | groupMetadata => exact .map groupMetadata (GroupMetadata.reports_decodeMessage _ _)
  | offsetCommit => exact .map offsetCommit (OffsetCommit.reports_decodeMessage _ _)

/-- A tombstone reports nothing, also if it fails. -/
theorem events_decodeTombstone (kind : RecordKind) (key : List UInt8) :
    (decodeTombstone kind key).events = [] := by
  cases kind <;> rfl

end Record

/-! ## 3. Warnings -/

/-- The entry warns that something failed to decode. -/
def LogEntry.isFailure (entry : LogEntry) : Bool :=
  entry.severity = .warning && entry.event = "failed to decode"

theorem Event.isFailure_toLogEntry_owned (ownership : PartitionOwnership) :
    (Event.owned ownership).toLogEntry.isFailure = false := rfl

namespace Outcome

variable {α : Type}

/-- The warnings that a decoding leaves in the log. -/
def warnings (outcome : Outcome α) : List LogEntry :=
  (outcome.events.map Event.toLogEntry).filter LogEntry.isFailure

/-- A failure is warned of once, and without a failure there is no warning. -/
def WarnsOnce (outcome : Outcome α) : Prop :=
  outcome.warnings.length = match outcome.result with
    | .ok _ => 0
    | .error _ => 1

/-- Ownerships are no warnings, and a failure is one. -/
theorem Reports.warnsOnce {outcome : Outcome α} {owned : α → List PartitionOwnership}
    (h : outcome.Reports owned) : outcome.WarnsOnce := by
  cases h with
  | succeed a =>
    have hnone : (((owned a).map Event.owned).map Event.toLogEntry).filter LogEntry.isFailure
        = [] := by
      rw [List.map_map, List.filter_eq_nil_iff]
      intro entry hentry
      obtain ⟨ownership, _, rfl⟩ := List.mem_map.mp hentry
      rw [Function.comp_apply, Event.isFailure_toLogEntry_owned]
      exact Bool.false_ne_true
    rw [WarnsOnce, warnings, hnone]
    rfl
  | fail subject reason e => rfl

end Outcome

namespace Record

/-- What is behind the version of a key is not its version. -/
theorem field_ne_of_keyFailure {kind : RecordKind} {cause : DecodeError}
    (h : kind.KeyFailure cause) : cause.field ≠ .keyVersion := by
  cases kind with
  | groupMetadata =>
    have hfield : cause.field = .keyGroup := h.field_eq
    rw [hfield]
    decide
  | offsetCommit =>
    cases h with
    | groupId h => rw [h.field_eq]; decide
    | topic h => rw [h.field_eq]; decide
    | partition h => rw [h.field_eq]; decide

theorem field_of_splitKey {key : Option (List UInt8)} {e : DecodeError}
    (h : splitKey key = .error e) : e.field = .keyVersion := by
  rcases failure_of_splitKey h with ⟨-, rfl⟩ | ⟨-, cause, rfl, hcause⟩
  · rfl
  · exact hcause.field_eq

theorem warnings_decodeTombstone (kind : RecordKind) (key : List UInt8) :
    (decodeTombstone kind key).warnings = [] := by
  rw [Outcome.warnings, events_decodeTombstone]
  rfl

theorem field_ne_of_decodeTombstone {kind : RecordKind} {key : List UInt8} {e : DecodeError}
    (h : (decodeTombstone kind key).result = .error e) : e.field ≠ .keyVersion := by
  obtain ⟨cause, rfl, hcause⟩ := failure_of_decodeTombstone h
  have hfield := field_ne_of_keyFailure hcause
  exact hfield

/-- A record that fails is warned of once, unless it is a tombstone and its key is at fault behind
the version: then there is no warning.  A record that is decoded leaves no warning either. -/
theorem length_warnings_decode (key value : Option (List UInt8)) :
    (decode key value).warnings.length = match (decode key value).result with
      | .ok _ => 0
      | .error e => if value = none ∧ e.field ≠ .keyVersion then 0 else 1 := by
  unfold decode
  split
  · next hsplit => exact (if_neg fun h => h.2 (field_of_splitKey hsplit)).symm
  · next version body _ =>
    split
    · exact (if_neg fun h => h.2 rfl).symm
    · next kind _ =>
      cases value with
      | none =>
        dsimp only
        rw [warnings_decodeTombstone]
        cases hresult : (decodeTombstone kind body).result with
        | ok record => rfl
        | error e => exact (if_pos ⟨rfl, field_ne_of_decodeTombstone hresult⟩).symm
      | some value =>
        dsimp only
        rw [(reports_decodeLive kind body value).warnsOnce]
        cases (decodeLive kind body value).result with
        | ok record => rfl
        | error e => exact (if_neg fun h => Option.some_ne_none _ h.1).symm

/-- A tombstone of a group whose name is announced with five bytes and has two: it fails, and the log
is empty. -/
theorem not_warnsOnce_decode_tombstone :
    (decode (some [0, 2, 0, 5, 0x61, 0x62]) none).result
        = .error (.invalidKey (.truncated .keyGroup 5 2))
      ∧ (decode (some [0, 2, 0, 5, 0x61, 0x62]) none).warnings.length = 0
      ∧ ¬ (decode (some [0, 2, 0, 5, 0x61, 0x62]) none).WarnsOnce := by
  have hresult : (decode (some [0, 2, 0, 5, 0x61, 0x62]) none).result
      = .error (.invalidKey (.truncated .keyGroup 5 2)) := by
    decide +kernel
  have hwarnings : (decode (some [0, 2, 0, 5, 0x61, 0x62]) none).warnings.length = 0 := by
    decide +kernel
  refine ⟨hresult, hwarnings, ?_⟩
  rw [Outcome.WarnsOnce, hwarnings, hresult]
  decide

end Record

end ConsumerOffsets
