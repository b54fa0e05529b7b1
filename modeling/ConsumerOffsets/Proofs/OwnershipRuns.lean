/-
# Ownerships over a run of records

Records are decoded one after another, and what they report goes to one list.  Each record adds a
list of its own at the end: who owns the partitions of the group, if it is decoded to a group, and
nothing otherwise.  A record that fails adds nothing, wherever it fails.

The step is `StoredRecord.ownerships_decode`: what a record reports depends on its result alone.  The
run follows by induction (`StoredRecord.collectedAfter_eq`, `StoredRecord.filter_info_runLog`), and
`StoredRecord.collected_all_or_nothing` puts both together, for the list and for the log.
-/
import Mathlib.Control.Monad.Basic
import ConsumerOffsets.Proofs.Reports

namespace ConsumerOffsets

/-! ## 1. What one record reports -/

theorem Event.filterMap_ownership?_map_owned (owned : List PartitionOwnership) :
    (owned.map Event.owned).filterMap Event.ownership? = owned := by
  have hid : Event.ownership? ∘ Event.owned = some := rfl
  rw [List.filterMap_map, hid, List.filterMap_some]

/-- The ownerships of what a record is decoded to.  There are none if it is not decoded. -/
def Record.ownershipsOf : Except DecodeError Record → List PartitionOwnership
  | .ok record => record.ownerships
  | .error _ => []

/-- The ownerships that a decoding reports are those of its result. -/
theorem Outcome.Reports.ownerships_eq {outcome : Outcome Record}
    (h : outcome.Reports Record.ownerships) :
    outcome.ownerships = Record.ownershipsOf outcome.result := by
  cases h with
  | succeed record => exact Event.filterMap_ownership?_map_owned record.ownerships
  | fail subject reason e => rfl

namespace Record

/-- A tombstone reports nothing, also if it fails, and has no ownerships that it could report. -/
theorem silent_decodeTombstone (kind : RecordKind) (key : List UInt8) :
    (decodeTombstone kind key).events = []
      ∧ ownershipsOf (decodeTombstone kind key).result = [] := by
  refine ⟨events_decodeTombstone kind key, ?_⟩
  cases kind with
  | groupMetadata =>
    unfold decodeTombstone
    cases GroupMetadata.decodeKey (some key) <;> rfl
  | offsetCommit =>
    unfold decodeTombstone
    cases OffsetKey.decode (some key) <;> rfl

/-- A record reports its failure or its ownerships, unless it is a tombstone. -/
theorem reports_or_silent (key value : Option (List UInt8)) :
    (decode key value).Reports ownerships
      ∨ ((decode key value).events = [] ∧ ownershipsOf (decode key value).result = []) := by
  unfold decode
  split
  · exact .inl (.fail ..)
  · split
    · exact .inl (.fail ..)
    · split
      · exact .inr (silent_decodeTombstone ..)
      · exact .inl (reports_decodeLive ..)

end Record

namespace StoredRecord

theorem reports_or_silent (stored : StoredRecord) :
    stored.decode.Reports Record.ownerships
      ∨ (stored.decode.events = [] ∧ Record.ownershipsOf stored.decode.result = []) := by
  unfold decode
  split
  · exact .inl (.map Record.groupMetadata
      (GroupMetadata.reports_decodeMessage stored.key stored.value))
  · exact Record.reports_or_silent stored.key stored.value

/-- The ownerships of what a stored record is decoded to. -/
def ownerships (stored : StoredRecord) : List PartitionOwnership :=
  Record.ownershipsOf stored.decode.result

/-- What a stored record reports are the ownerships of what it is decoded to. -/
theorem ownerships_decode (stored : StoredRecord) :
    stored.decode.ownerships = stored.ownerships := by
  rcases stored.reports_or_silent with hreports | ⟨hevents, howned⟩
  · exact hreports.ownerships_eq
  · rw [ownerships, howned, Outcome.ownerships, hevents, List.filterMap_nil]

/-! ## 2. Runs -/

/-- What has been collected after the records, from what had been collected before. -/
def collectedAfter (collected : List PartitionOwnership) (records : List StoredRecord) :
    List PartitionOwnership :=
  match (decodeAll collected records).getLast? with
  | some (_, total) => total
  | none => collected

/-- The log of a run: the entries of each record, in order. -/
def runLog (records : List StoredRecord) : List LogEntry :=
  (decodeAll [] records).flatMap fun (outcome, _) => outcome.events.map Event.toLogEntry

/-- One record adds its ownerships at the end of what had been collected. -/
theorem collectedAfter_cons (collected : List PartitionOwnership) (stored : StoredRecord)
    (rest : List StoredRecord) :
    collectedAfter collected (stored :: rest)
      = collectedAfter (collected ++ stored.ownerships) rest := by
  rw [collectedAfter, decodeAll, ownerships_decode, List.getLast?_cons, collectedAfter]
  cases (decodeAll (collected ++ stored.ownerships) rest).getLast? <;> rfl

theorem collectedAfter_eq (records : List StoredRecord) : ∀ collected : List PartitionOwnership,
    collectedAfter collected records = collected ++ records.flatMap ownerships := by
  induction records with
  | nil =>
    intro collected
    exact (List.append_nil collected).symm
  | cons stored rest ih =>
    intro collected
    rw [collectedAfter_cons, ih, List.flatMap_cons, List.append_assoc]

/-! ## 3. The log of a run -/

/-- What was collected before has no influence on what a record reports. -/
theorem map_fst_decodeAll (records : List StoredRecord) :
    ∀ collected : List PartitionOwnership,
      (decodeAll collected records).map Prod.fst = records.map decode := by
  induction records with
  | nil =>
    intro collected
    rfl
  | cons stored rest ih =>
    intro collected
    rw [decodeAll, List.map_cons, List.map_cons, ih]

theorem runLog_eq (records : List StoredRecord) :
    runLog records
      = records.flatMap fun stored => stored.decode.events.map Event.toLogEntry := by
  have hfst : runLog records = ((decodeAll [] records).map Prod.fst).flatMap
      fun outcome => outcome.events.map Event.toLogEntry := by
    rw [List.flatMap_map]
    rfl
  rw [hfst, map_fst_decodeAll, List.flatMap_map]

end StoredRecord

/-- The entries for information are those for the ownerships. -/
theorem Event.filter_info_map_toLogEntry (events : List Event) :
    (events.map Event.toLogEntry).filter (fun entry => entry.severity = .info)
      = (events.filterMap Event.ownership?).map PartitionOwnership.toLogEntry := by
  induction events with
  | nil => rfl
  | cons event rest ih =>
    cases event with
    | failed subject reason => exact ih
    | owned ownership => exact congrArg (ownership.toLogEntry :: ·) ih

namespace StoredRecord

theorem filter_info_log (stored : StoredRecord) :
    (stored.decode.events.map Event.toLogEntry).filter (fun entry => entry.severity = .info)
      = stored.ownerships.map PartitionOwnership.toLogEntry := by
  rw [Event.filter_info_map_toLogEntry, ← ownerships_decode]
  rfl

theorem filter_info_runLog (records : List StoredRecord) :
    (runLog records).filter (fun entry => entry.severity = .info)
      = (records.flatMap ownerships).map PartitionOwnership.toLogEntry := by
  rw [runLog_eq]
  induction records with
  | nil => rfl
  | cons stored rest ih =>
    rw [List.flatMap_cons, List.flatMap_cons, List.filter_append, List.map_append, filter_info_log,
      ih]

/-- A record that is not decoded to a group has no ownerships. -/
theorem ownerships_eq_nil {stored : StoredRecord}
    (h : ∀ group, stored.decode.result ≠ .ok (.groupMetadata group)) : stored.ownerships = [] := by
  unfold ownerships
  cases hresult : stored.decode.result with
  | error e => rfl
  | ok record =>
    cases record with
    | groupMetadata group => exact absurd hresult (h group)
    | groupTombstone _ | offsetCommit _ | offsetTombstone _ => rfl

/-- What is collected over a run is one list a record, joined in the order of the records, and the
entries for information in the log are the same.  The list of a record that is decoded to a group has
the partitions of its members, and each other record has the empty list. -/
theorem collected_all_or_nothing (records : List StoredRecord) :
    collectedAfter [] records = records.flatMap ownerships
    ∧ (runLog records).filter (fun entry => entry.severity = .info)
        = ((records.flatMap ownerships).map fun ownership =>
          { severity := .info
            event := "got group metadata"
            fields :=
              [("group", .str ownership.groupId),
                ("topic", .str ownership.topic),
                ("partition", .int ownership.partition.toInt),
                ("owner", .str ownership.clientHost),
                ("client_id", .str ownership.clientId)] })
    ∧ ∀ stored ∈ records,
      (∀ group, stored.decode.result = .ok (.groupMetadata group) →
        stored.ownerships = group.members.flatMap fun member =>
          member.assignment.flatMap fun entry => entry.partitions.map fun partition =>
            { groupId := group.groupId, topic := entry.topic, partition,
              clientHost := member.clientHost, clientId := member.clientId })
      ∧ ((∀ group, stored.decode.result ≠ .ok (.groupMetadata group)) →
        stored.ownerships = []
          ∧ ∀ event ∈ stored.decode.events, event.toLogEntry.severity ≠ .info) := by
  refine ⟨collectedAfter_eq records [], filter_info_runLog records, ?_⟩
  intro stored _
  constructor
  · intro group hgroup
    rw [ownerships, hgroup]
    rfl
  · intro hnone
    have hempty := ownerships_eq_nil hnone
    refine ⟨hempty, ?_⟩
    have hinfo := filter_info_log stored
    rw [hempty, List.map_nil, List.filter_eq_nil_iff] at hinfo
    intro event hevent
    simpa using hinfo _ (List.mem_map_of_mem hevent)

/-- A group, the same without the last byte of its value, and the group again, now by its bare name.
The last byte lies behind all partitions of the only member, and yet without it none is collected. -/
theorem collected_all_or_nothing_of_cut : ∃ value : List UInt8,
    collectedAfter [] [⟨some [0, 2, 0, 1, 0x67], some value, false⟩,
        ⟨some [0, 2, 0, 1, 0x67], some value.dropLast, false⟩,
        ⟨some [0, 1, 0x67], some value, true⟩]
      = [⟨"g", "t", 5, "h", "c"⟩, ⟨"g", "t", 5, "h", "c"⟩, ⟨"g", "t", 5, "h", "c"⟩,
        ⟨"g", "t", 5, "h", "c"⟩]
    ∧ ownerships ⟨some [0, 2, 0, 1, 0x67], some value.dropLast, false⟩ = [] := by
  have hnone : ∀ (stored : StoredRecord) (e : DecodeError),
      stored.decode.result = .error e → stored.ownerships = [] := by
    intro stored e herror
    refine (((collected_all_or_nothing [stored]).2.2 stored List.mem_cons_self).2 ?_).1
    intro group hok
    rw [herror] at hok
    cases hok
  refine ⟨[0, 0, 0, 0, 0, 0, 0, 0, 0, 0, 0, 0, 0, 0, 0, 1, 0, 1, 0x6d, 0, 1, 0x63, 0, 1, 0x68, 0, 0,
    0, 0, 0, 0, 0, 0, 0, 0, 0, 25, 0, 0, 0, 0, 0, 1, 0, 1, 0x74, 0, 0, 0, 2, 0, 0, 0, 5, 0, 0, 0, 5,
    0, 0, 0, 0], (collected_all_or_nothing _).1.trans (by decide +kernel), ?_⟩
  exact hnone _ (.truncated ((FieldPath.members.item 0).child "assignment_bytes") 25 24)
    (by decide +kernel)

end StoredRecord

end ConsumerOffsets
