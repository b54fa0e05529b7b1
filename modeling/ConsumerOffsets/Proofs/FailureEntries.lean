/-
# What is logged about a failed message

A message that is decoded leaves nothing in the log, and one that fails leaves one entry
(`messages_log_failures`).  The entry holds what the key names, as long as the key itself is not what
is wrong, and it tells the error (`LogEntry.IsAbout`).

Two errors are about the version of a value and are told in words of their own.  Every other error is
told by the path of its field.  The two ways cannot be mistaken for each other: the words have blanks
in them, and no path of a field has (`FieldPath.Plain.not_mem_render`).  So the reason in an entry says
which error it was (`LogEntry.IsAbout.noVersion_iff`, `LogEntry.IsAbout.badVersion_iff`).
-/
import Mathlib.Control.Monad.Basic
import ConsumerOffsets.Proofs.Endings
import ConsumerOffsets.Proofs.Tombstones

namespace ConsumerOffsets

open Binary

/-! ## 1. Paths without blanks -/

namespace FieldPath

/-- No name in the path has a blank in it. -/
def Plain : FieldPath → Prop
  | root name => ' ' ∉ name.toList
  | child parent name => parent.Plain ∧ ' ' ∉ name.toList
  | item list _ => list.Plain

instance decidablePlain : ∀ path : FieldPath, Decidable path.Plain
  | root name => inferInstanceAs (Decidable (' ' ∉ name.toList))
  | child parent name =>
    have := decidablePlain parent
    inferInstanceAs (Decidable (parent.Plain ∧ ' ' ∉ name.toList))
  | item list _ => decidablePlain list

theorem not_mem_toString (index : Nat) : ' ' ∉ (toString index).toList := by
  rw [Nat.toString_eq_ofList_toDigits, String.toList_ofList]
  intro hmem
  have hdigit := Nat.isDigit_of_mem_toDigits (by decide) (by decide) hmem
  exact absurd hdigit (by decide)

/-- The written form of such a path has none either. -/
theorem Plain.not_mem_render : ∀ {path : FieldPath}, path.Plain → ' ' ∉ path.render.toList
  | root _, h => h
  | child parent name, h => by
    have hparent := Plain.not_mem_render h.1
    simp only [render, String.toList_append, List.mem_append, not_or]
    exact ⟨⟨hparent, by decide⟩, h.2⟩
  | item list index, h => by
    have hlist : ' ' ∉ list.render.toList := Plain.not_mem_render h
    simp only [render, String.toList_append, List.mem_append, not_or]
    exact ⟨⟨⟨hlist, by decide⟩, not_mem_toString index⟩, by decide⟩

/-- A text with a blank in it is not the written form of such a path. -/
theorem Plain.render_ne {path : FieldPath} (h : path.Plain) {text : String}
    (hblank : ' ' ∈ text.toList) : path.render ≠ text := by
  rintro rfl
  exact h.not_mem_render hblank

end FieldPath

/-! ## 2. Errors told by their field -/

namespace DecodeError

/-- The reason under which an error is reported. -/
def reason : DecodeError → FailureReason
  | missingVersion _ => .noValueVersion
  | unsupportedVersion _ version => .valueVersion version
  | e => .error e

/-- The key is what is wrong. -/
def IsInvalidKey : DecodeError → Prop
  | missingKey _ | invalidKey _ => True
  | _ => False

/-- The error is neither of the two about the version of a value, and the path of its field has no
blank. -/
structure ToldByField (e : DecodeError) : Prop where
  reason_eq : e.reason = .error e
  plain : e.field.Plain

theorem AboutValue.not_isInvalidKey {e : DecodeError} (h : e.AboutValue) : ¬ e.IsInvalidKey := by
  cases e with
  | missingKey field => exact absurd rfl (h.ne_missingKey field)
  | invalidKey cause => exact absurd rfl (h.ne_invalidKey cause)
  | _ => exact id

variable {field : FieldPath} {e : DecodeError}

theorem Shortage.toldByField (h : Shortage field e) (hfield : field.Plain) : e.ToldByField := by
  cases h
  exact ⟨rfl, hfield⟩

theorem BadLength.toldByField (h : BadLength field e) (hfield : field.Plain) : e.ToldByField := by
  cases h with
  | short h => exact h.toldByField hfield
  | negative _ => exact ⟨rfl, hfield⟩

theorem BadCount.toldByField (h : BadCount field e) (hfield : field.Plain) : e.ToldByField := by
  cases h with
  | short h => exact h.toldByField hfield
  | negative _ => exact ⟨rfl, hfield⟩

end DecodeError

theorem Assignment.RegionFailure.toldByField {place : FieldPath} {e : DecodeError}
    (h : Assignment.RegionFailure place e) (hplace : place.Plain) : e.ToldByField := by
  cases h with
  | noVersion h => exact h.toldByField ⟨hplace, by decide⟩
  | badVersion _ => exact ⟨rfl, hplace, by decide⟩
  | body _ => exact ⟨rfl, hplace, by decide⟩

theorem GroupMember.Failure.toldByField {version : Int} {place : FieldPath} {e : DecodeError}
    (h : GroupMember.Failure version place e) (hplace : place.Plain) : e.ToldByField := by
  cases h with
  | memberId h => exact h.toldByField ⟨hplace, by decide⟩
  | clientId h => exact h.toldByField ⟨hplace, by decide⟩
  | clientHost h => exact h.toldByField ⟨hplace, by decide⟩
  | rebalanceTimeout _ h => exact h.toldByField ⟨hplace, by decide⟩
  | sessionTimeout h => exact h.toldByField ⟨hplace, by decide⟩
  | subscription h => exact h.toldByField ⟨hplace, by decide⟩
  | assignmentRegion h => exact h.toldByField ⟨hplace, by decide⟩
  | assignment h => exact h.toldByField hplace

theorem GroupMetadata.Failure.toldByField {version : Int} {e : DecodeError}
    (h : GroupMetadata.Failure version e) : e.ToldByField := by
  cases h with
  | protocolType h => exact h.toldByField (by decide)
  | generation h => exact h.toldByField (by decide)
  | protocol h => exact h.toldByField (by decide)
  | leader h => exact h.toldByField (by decide)
  | memberCount h => exact h.toldByField (by decide)
  | member i h => exact h.toldByField (show FieldPath.members.Plain by decide)

theorem OffsetCommit.Failure.toldByField {version : Int} {e : DecodeError}
    (h : OffsetCommit.Failure version e) : e.ToldByField := by
  cases h with
  | offset h => exact h.toldByField (by decide)
  | leaderEpoch _ h => exact h.toldByField (by decide)
  | metadata h => exact h.toldByField (by decide)
  | commitTimestamp h => exact h.toldByField (by decide)
  | expireTimestamp _ h => exact h.toldByField (by decide)

theorem OffsetKey.Failure.toldByField {e : DecodeError} (h : OffsetKey.Failure e) :
    e.ToldByField := by
  cases h with
  | groupId h => exact h.toldByField (by decide)
  | topic h => exact h.toldByField (by decide)
  | partition h => exact h.toldByField (by decide)

/-- A key that is not decoded is told by its field, whether it is there or not, if what is wrong
inside a key is. -/
theorem DecodeError.toldByField_of_key {κ : Type}
    {decode : Option (List UInt8) → Except DecodeError κ} {place : FieldPath} (hplace : place.Plain)
    (hmissing : decode none = .error (.missingKey place))
    (hinvalid : ∀ bytes e, decode (some bytes) = .error e →
      ∃ cause, e = .invalidKey cause ∧ cause.ToldByField)
    {key : Option (List UInt8)} {e : DecodeError} (h : decode key = .error e) :
    e.ToldByField ∧ e.IsInvalidKey := by
  cases key with
  | none =>
    cases hmissing.symm.trans h
    exact ⟨⟨rfl, hplace⟩, trivial⟩
  | some bytes =>
    obtain ⟨cause, rfl, hcause⟩ := hinvalid bytes e h
    exact ⟨⟨rfl, hcause.plain⟩, trivial⟩

/-! ## 3. One reason a failure -/

namespace Outcome

variable {α : Type} {subject : Subject}

/-- Nothing is reported, or a failure of the value under the reason that its error has. -/
inductive ReportsReason (subject : Subject) : Outcome α → Prop where
  | succeed (a : α) : ReportsReason subject (.succeed a)
  | fail (e : DecodeError) (hplain : e.field.Plain) (hvalid : ¬ e.IsInvalidKey) :
      ReportsReason subject (.fail subject e.reason e)

/-- A value fails for its version, which has reasons of its own, or for one of its fields. -/
theorem reportsReason_ofValue {supported : List Int} {body : Int16 → Decoder α}
    (hbody : ∀ version : Int16, version.toInt ∈ supported →
      (body version).FailsWith fun e => e.ToldByField ∧ ¬ e.IsInvalidKey)
    (value : Option (List UInt8)) : (ofValue subject supported body value).ReportsReason subject := by
  have hversion : FieldPath.version.Plain := by decide
  cases value with
  | none => exact .fail (.missingVersion none) hversion id
  | some bytes =>
    unfold ofValue
    dsimp only
    split
    · exact .fail (.missingVersion (some bytes.length)) hversion id
    · next version rest _ =>
      split
      · exact .fail (.unsupportedVersion .version version.toInt) hversion id
      · next hsupported =>
        split
        · exact .succeed _
        · next e herror =>
          obtain ⟨htold, hvalid⟩ := hbody version (not_not.mp hsupported) rest e herror
          rw [← htold.reason_eq]
          exact .fail e htold.plain hvalid

/-- The decoding when nobody observes the ownerships. -/
def unobserved (outcome : Outcome α) : Outcome α :=
  { outcome with events := Event.shown false outcome.events }

/-- Then it makes no difference whether ownerships are reported. -/
theorem unobserved_reportOwnerships (outcome : Outcome GroupMetadata) :
    outcome.reportOwnerships.unobserved = outcome.unobserved := by
  unfold reportOwnerships
  split
  · next group _ =>
    have howned := Event.shown_false_map_owned group.ownerships
    simp only [unobserved, Event.shown, Bool.false_eq_true, if_false, List.filter_append] at howned ⊢
    rw [howned, List.append_nil]
  · rfl

theorem ReportsReason.unobserved_eq {outcome : Outcome α} (h : outcome.ReportsReason subject) :
    outcome.unobserved = outcome := by
  cases h <;> rfl

end Outcome

/-! ## 4. The entry -/

/-- The value of the field with this name. -/
def LogEntry.get? (entry : LogEntry) (name : String) : Option Json := entry.fields.lookup name

/-- What an entry tells of an error. -/
def DecodeError.told : DecodeError → List (String × Json)
  | missingVersion _ => [("reason", .str "no value version")]
  | unsupportedVersion _ version => [("reason", .str "value version"), ("version", .int version)]
  | e => [("reason", .str e.field.render), ("error", .str e.text)]

theorem DecodeError.fields_reason (e : DecodeError) : e.reason.fields = e.told := by
  cases e <;> rfl

section Told

variable {e : DecodeError}

/-- The words for a missing version tell that error, since they are not the path of a field. -/
theorem FieldPath.Plain.lookup_told_eq_noVersion_iff (h : e.field.Plain) :
    e.told.lookup "reason" = some (.str "no value version")
      ↔ ∃ present, e = .missingVersion present := by
  have hrender : e.field.render ≠ "no value version" := h.render_ne (by decide)
  cases e with
  | missingVersion present => exact iff_of_true rfl ⟨present, rfl⟩
  | _ => simp [DecodeError.told, hrender]

/-- So do the words for a version that is not supported, and that version is told with them. -/
theorem FieldPath.Plain.lookup_told_eq_badVersion_iff (h : e.field.Plain) :
    e.told.lookup "reason" = some (.str "value version")
      ↔ ∃ field version, e = .unsupportedVersion field version
          ∧ e.told.lookup "version" = some (.int version) := by
  have hrender : e.field.render ≠ "value version" := h.render_ne (by decide)
  cases e with
  | unsupportedVersion field version => exact iff_of_true rfl ⟨field, version, rfl, rfl⟩
  | _ => simp [DecodeError.told, hrender]

end Told

/-- The entry warns of an error in a message of the given type.  `named` are the fields for what the
key names; there are none exactly if the key is what is wrong. -/
structure LogEntry.IsAbout (messageType : String) (named : Option (List (String × Json)))
    (e : DecodeError) (entry : LogEntry) : Prop where
  severity : entry.severity = .warning
  event : entry.event = "failed to decode"
  fields : entry.fields = ("message_type", .str messageType) :: named.getD [] ++ e.told
  named_iff : named = none ↔ e.IsInvalidKey
  noVersion_iff : entry.get? "reason" = some (.str "no value version")
    ↔ ∃ present, e = .missingVersion present
  badVersion_iff : entry.get? "reason" = some (.str "value version")
    ↔ ∃ field version, e = .unsupportedVersion field version
        ∧ entry.get? "version" = some (.int version)
  text : e.text = e.field.render ++ ": " ++ e.message

theorem Subject.lookup_fields_eq_none (subject : Subject) :
    subject.fields.lookup "reason" = none ∧ subject.fields.lookup "version" = none := by
  cases subject with
  | record => exact ⟨rfl, rfl⟩
  | groupMetadata group => cases group <;> exact ⟨rfl, rfl⟩
  | offsetCommit key => cases key <;> exact ⟨rfl, rfl⟩

theorem LogEntry.isAbout_failed {subject : Subject} {messageType : String}
    {named : Option (List (String × Json))} {e : DecodeError}
    (hsubject : subject.fields = ("message_type", .str messageType) :: named.getD [])
    (hnamed : named = none ↔ e.IsInvalidKey) (hplain : e.field.Plain) :
    (Event.failed subject e.reason).toLogEntry.IsAbout messageType named e := by
  obtain ⟨hreason, hversion⟩ := subject.lookup_fields_eq_none
  have hfields : (Event.failed subject e.reason).toLogEntry.fields = subject.fields ++ e.told :=
    congrArg (subject.fields ++ ·) e.fields_reason
  have hget : ∀ name, subject.fields.lookup name = none →
      (Event.failed subject e.reason).toLogEntry.get? name = e.told.lookup name := by
    intro name hname
    rw [LogEntry.get?, hfields, List.lookup_append, hname, Option.none_or]
  refine ⟨rfl, rfl, by rw [hfields, hsubject], hnamed, ?_, ?_, rfl⟩
  · rw [hget _ hreason]
    exact hplain.lookup_told_eq_noVersion_iff
  · rw [hget _ hreason, hget _ hversion]
    exact hplain.lookup_told_eq_badVersion_iff

/-! ## 5. Messages -/

/-- The fields for what the key of a group names. -/
def GroupMetadata.keyFields (key : Option (List UInt8)) : Option (List (String × Json)) :=
  (GroupMetadata.decodeKey key).toOption.map fun group => [("group", .str group)]

/-- The fields for what the key of an offset names. -/
def OffsetCommit.keyFields (key : Option (List UInt8)) : Option (List (String × Json)) :=
  (OffsetKey.decode key).toOption.map fun key =>
    [("group", .str key.groupId), ("topic", .str key.topic),
      ("partition", .int key.partition.toInt)]

/-- What a failed decoding leaves in the log is one entry about its error.  Nothing is logged about
what is decoded. -/
def Outcome.LogsFailure {α : Type} (outcome : Outcome α) (messageType : String)
    (named : Option (List (String × Json))) : Prop :=
  match outcome.result with
  | .ok _ => outcome.events.map Event.toLogEntry = []
  | .error e =>
    ∃ entry, outcome.events.map Event.toLogEntry = [entry] ∧ entry.IsAbout messageType named e

/-- A message is decoded key first.  If the key is what is wrong, this is told by its field, and
nothing of what it names; otherwise the value fails for one reason, under what the key names. -/
theorem Outcome.logsFailure_of_key {κ α : Type} {key : Except DecodeError κ} {outcome : Outcome α}
    {messageType : String} {fields : κ → List (String × Json)} (subject : Option κ → Subject)
    (hsubject : ∀ named, (subject named).fields
      = ("message_type", .str messageType) :: (named.map fields).getD [])
    (hkey : ∀ e, key = .error e →
      outcome = .fail (subject none) (.error e) e ∧ e.ToldByField ∧ e.IsInvalidKey)
    (hvalue : ∀ k, key = .ok k → outcome.ReportsReason (subject (some k))) :
    outcome.LogsFailure messageType (key.toOption.map fields) := by
  cases key with
  | error e =>
    obtain ⟨rfl, htold, hinvalid⟩ := hkey e rfl
    rw [← htold.reason_eq]
    exact ⟨_, rfl, LogEntry.isAbout_failed (hsubject none) (iff_of_true rfl hinvalid) htold.plain⟩
  | ok k =>
    cases hvalue k rfl with
    | succeed a => rfl
    | fail e hplain hvalid =>
      exact ⟨_, rfl, LogEntry.isAbout_failed (hsubject (some k))
        (iff_of_false (Option.some_ne_none _) hvalid) hplain⟩

theorem GroupMetadata.logsFailure_decodeMessage (key value : Option (List UInt8)) :
    (GroupMetadata.decodeMessage key value).unobserved.LogsFailure "metadata"
      (GroupMetadata.keyFields key) := by
  refine Outcome.logsFailure_of_key Subject.groupMetadata (by rintro (_ | _) <;> rfl) ?_ ?_
  · intro e hkey
    refine ⟨?_, DecodeError.toldByField_of_key (by decide) rfl ?_ hkey⟩
    · rw [GroupMetadata.decodeMessage, hkey]
      rfl
    · intro bytes e he
      obtain ⟨cause, rfl, hcause⟩ := GroupMetadata.failure_of_decodeKey he
      exact ⟨cause, rfl, hcause.toldByField (by decide)⟩
  · intro group hkey
    have hreports : (Outcome.ofValue (.groupMetadata (some group)) GroupMetadata.supportedVersions
        (fun version => GroupMetadata.decode version.toInt group) value).ReportsReason
          (.groupMetadata (some group)) := by
      refine Outcome.reportsReason_ofValue (fun version hversion => ?_) value
      rw [GroupMetadata.decode_of_supported hversion]
      exact (GroupMetadata.failsWith_decodeBody _ group).mono fun h =>
        ⟨h.toldByField, h.aboutValue.not_isInvalidKey⟩
    rw [GroupMetadata.decodeMessage, hkey]
    dsimp only
    rwa [Outcome.unobserved_reportOwnerships, hreports.unobserved_eq]

theorem OffsetCommit.logsFailure_decodeMessage (key value : Option (List UInt8)) :
    (OffsetCommit.decodeMessage key value).LogsFailure "offset" (OffsetCommit.keyFields key) := by
  refine Outcome.logsFailure_of_key Subject.offsetCommit (by rintro (_ | _) <;> rfl) ?_ ?_
  · intro e hkey
    refine ⟨?_, DecodeError.toldByField_of_key (by decide) rfl ?_ hkey⟩
    · rw [OffsetCommit.decodeMessage, hkey]
    · intro bytes e he
      obtain ⟨cause, rfl, hcause⟩ := OffsetKey.failure_of_decode he
      exact ⟨cause, rfl, hcause.toldByField⟩
  · intro offsetKey hkey
    rw [OffsetCommit.decodeMessage, hkey]
    exact Outcome.reportsReason_ofValue (fun version _ =>
      (OffsetCommit.failsWith_decode offsetKey version).mono fun h =>
        ⟨h.toldByField, h.aboutValue.not_isInvalidKey⟩) value

/-- Whatever the key and the value are, a message that fails leaves one entry in the log, and one
that is decoded leaves none. -/
theorem messages_log_failures (key value : Option (List UInt8)) :
    (GroupMetadata.decodeMessage key value).unobserved.LogsFailure "metadata"
        (GroupMetadata.keyFields key)
      ∧ (OffsetCommit.decodeMessage key value).LogsFailure "offset" (OffsetCommit.keyFields key) :=
  ⟨GroupMetadata.logsFailure_decodeMessage key value,
    OffsetCommit.logsFailure_decodeMessage key value⟩

end ConsumerOffsets
