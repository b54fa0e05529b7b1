/-
# Lines of the log

A line tells one entry, and the time at which it was written.  In a log of JSON lines each line is an
object, and since the names in it are different, the rank of the entry and what happened can be read off
the line (`LogEntry.IsToldBy`).

The library that writes the log has to keep to two things (`Logger.Lawful`): the level lets pass what
has its rank, and an object is written so that it can be read.  Then the lines tell the entries that
pass, one each and in order (`Logger.Lawful.forall₂_isToldBy_lines`).  So lines can be left out by what
they say, and what two logs tell of the same entries differs in nothing but the time.
-/
import Mathlib.Data.List.Forall2
import ConsumerOffsets.CommandLine
import ConsumerOffsets.Proofs.JsonReading

namespace ConsumerOffsets

/-! ## 1. What an entry tells -/

/-- A name that is not there yet comes last. -/
theorem Json.setMember_of_not_mem {name : String} (value : Json) {members : List (String × Json)}
    (h : name ∉ members.map Prod.fst) :
    setMember name value members = members ++ [(name, value)] := by
  induction members with
  | nil => rfl
  | cons first members ih =>
    rw [List.map_cons, List.mem_cons, not_or] at h
    rw [setMember, if_neg (Ne.symm h.1), ih h.2, List.cons_append]

namespace LogEntry

/-- The names of the fields are different, and none is a name that every entry has. -/
def HasDistinctNames (entry : LogEntry) : Prop :=
  (entry.fields.map Prod.fst ++ ["event", "level", "timestamp"]).Nodup

/-- What is told besides the fields comes behind them. -/
theorem members_eq {entry : LogEntry} (h : entry.HasDistinctNames) (time : String) :
    entry.members time
      = entry.fields ++ [("event", .str entry.event), ("level", .str entry.severity.name),
        ("timestamp", .str time)] := by
  obtain ⟨-, -, hne⟩ := List.nodup_append.mp h
  have hnot : ∀ name ∈ ["event", "level", "timestamp"], name ∉ entry.fields.map Prod.fst :=
    fun name hname hmem => hne name hmem name hname rfl
  have hlevel : "level" ∉ (entry.fields ++ [("event", Json.str entry.event)]).map Prod.fst := by
    simpa using hnot "level" (by simp)
  have htime : "timestamp" ∉ ((entry.fields ++ [("event", Json.str entry.event)])
      ++ [("level", Json.str entry.severity.name)]).map Prod.fst := by
    simpa using hnot "timestamp" (by simp)
  rw [members, Json.setMember_of_not_mem _ (hnot "event" (by simp)),
    Json.setMember_of_not_mem _ hlevel, Json.setMember_of_not_mem _ htime, List.append_assoc,
    List.append_assoc]
  rfl

/-- No field hides what is told besides the fields. -/
theorem lookup_fields_append {entry : LogEntry} (h : entry.HasDistinctNames) {name : String}
    (hname : name ∈ ["event", "level", "timestamp"]) (members : List (String × Json)) :
    (entry.fields ++ members).lookup name = members.lookup name := by
  obtain ⟨-, -, hne⟩ := List.nodup_append.mp h
  have hnone : entry.fields.lookup name = none := by
    rw [List.lookup_eq_none_iff]
    intro field hfield
    exact bne_iff_ne.mpr (hne field.1 (List.mem_map_of_mem hfield) name hname).symm
  rw [List.lookup_append, hnone, Option.none_or]

end LogEntry

theorem Event.hasDistinctNames_toLogEntry (event : Event) : event.toLogEntry.HasDistinctNames := by
  cases event with
  | failed subject reason =>
    rcases subject with _ | (_ | group) | (_ | key) <;> cases reason <;>
      simp [LogEntry.HasDistinctNames, toLogEntry, Subject.fields, FailureReason.fields]
  | owned ownership =>
    simp [LogEntry.HasDistinctNames, toLogEntry, PartitionOwnership.toLogEntry]

/-- All that is logged at the end of a run has different names. -/
theorem CommandLine.hasDistinctNames_of_mem_log_execute {wanted : Bool} {invocation : Invocation}
    {entry : LogEntry} (h : entry ∈ (execute wanted invocation).log) : entry.HasDistinctNames := by
  have hevents : ∀ events : List Event, ∀ entry ∈ events.map Event.toLogEntry,
      entry.HasDistinctNames := by
    intro events entry hentry
    obtain ⟨event, -, rfl⟩ := List.mem_map.mp hentry
    exact event.hasDistinctNames_toLogEntry
  unfold execute at h
  split at h
  · rw [List.mem_singleton.mp h]
    simp [LogEntry.HasDistinctNames, badHexEntry]
  · dsimp only at h
    split at h
    · rcases List.mem_append.mp h with h | h
      · exact hevents _ entry h
      · rw [List.mem_singleton.mp h]
        simp [LogEntry.HasDistinctNames, undecodableEntry]
    · exact hevents _ entry h

/-! ## 2. What a line says -/

/-- The line is the JSON object of the entry, with the time when it was written. -/
structure LogEntry.IsToldBy (entry : LogEntry) (line : String) : Prop where
  names : entry.HasDistinctNames
  read : ∃ time, Json.read? line
    = some (.obj (entry.fields ++ [("event", .str entry.event), ("level", .str entry.severity.name),
      ("timestamp", .str time)]))

/-- The text that stands under a name in the JSON object that a line is. -/
def textUnder? (name line : String) : Option String :=
  match Json.read? line with
  | some (.obj members) =>
    match members.lookup name with
    | some (.str text) => some text
    | _ => none
  | _ => none

/-- The rank of the level that a line gives itself. -/
def lineRank? (line : String) : Option Nat := do
  let level ← textUnder? "level" line
  [("debug", 10), ("info", 20), ("warning", 30), ("error", 40), ("critical", 50)].lookup level

/-- What a line says has happened. -/
def lineEvent? (line : String) : Option String := textUnder? "event" line

namespace LogEntry.IsToldBy

variable {entry : LogEntry} {line line' : String}

theorem lineRank?_eq (h : entry.IsToldBy line) : lineRank? line = some entry.severity.rank := by
  obtain ⟨time, hread⟩ := h.read
  have hlevel : textUnder? "level" line = some entry.severity.name := by
    rw [textUnder?, hread]
    dsimp only
    rw [lookup_fields_append h.names (by simp)]
    rfl
  rw [lineRank?, hlevel]
  cases entry.severity <;> rfl

theorem lineEvent?_eq (h : entry.IsToldBy line) : lineEvent? line = some entry.event := by
  obtain ⟨time, hread⟩ := h.read
  rw [lineEvent?, textUnder?, hread]
  dsimp only
  rw [lookup_fields_append h.names (by simp)]
  rfl

end LogEntry.IsToldBy

/-- The lines are the same JSON object, but for the time in it. -/
def OnlyTimeDiffers (line line' : String) : Prop :=
  ∃ members time time', Json.read? line = some (.obj (members ++ [("timestamp", .str time)]))
    ∧ Json.read? line' = some (.obj (members ++ [("timestamp", .str time')]))

theorem LogEntry.IsToldBy.onlyTimeDiffers {entry : LogEntry} {line line' : String}
    (h : entry.IsToldBy line) (h' : entry.IsToldBy line') : OnlyTimeDiffers line line' := by
  obtain ⟨time, hread⟩ := h.read
  obtain ⟨time', hread'⟩ := h'.read
  refine ⟨entry.fields ++ [("event", .str entry.event), ("level", .str entry.severity.name)], time,
    time', ?_, ?_⟩
  · rw [hread, List.append_assoc]
    rfl
  · rw [hread', List.append_assoc]
    rfl

/-- Lines that tell the same entries are the same, but for the time. -/
theorem forall₂_onlyTimeDiffers {entries : List LogEntry} {lines lines' : List String}
    (h : List.Forall₂ LogEntry.IsToldBy entries lines)
    (h' : List.Forall₂ LogEntry.IsToldBy entries lines') :
    List.Forall₂ OnlyTimeDiffers lines lines' := by
  induction h generalizing lines' with
  | nil =>
    cases h'
    exact .nil
  | cons htold _ ih =>
    cases h' with
    | cons htold' h' => exact .cons (htold.onlyTimeDiffers htold') (ih h')

/-! ## 3. What is left out -/

/-- The entries that have at least this rank. -/
def entriesAt (rank : Nat) (entries : List LogEntry) : List LogEntry :=
  entries.filter fun entry => rank ≤ entry.severity.rank

/-- The lines whose own level has at least this rank. -/
def linesAt (rank : Nat) (lines : List String) : List String :=
  lines.filter fun line => (lineRank? line).any (rank ≤ ·)

/-- The entries that do not report an ownership. -/
def entriesWithoutOwnerships (entries : List LogEntry) : List LogEntry :=
  entries.filter fun entry => entry.event ≠ "got group metadata"

/-- The lines that do not report an ownership. -/
def linesWithoutOwnerships (lines : List String) : List String :=
  lines.filter fun line => lineEvent? line ≠ some "got group metadata"

/-- Of two ranks that are asked for, only the higher one counts. -/
theorem entriesAt_entriesAt {rank rank' : Nat} (hle : rank ≤ rank') (entries : List LogEntry) :
    entriesAt rank' (entriesAt rank entries) = entriesAt rank' entries := by
  rw [entriesAt, entriesAt, List.filter_filter]
  refine List.filter_congr fun entry _ => ?_
  rw [Bool.and_eq_left_iff_imp, decide_eq_true_eq, decide_eq_true_eq]
  exact hle.trans

theorem entriesAt_entriesWithoutOwnerships (rank : Nat) (entries : List LogEntry) :
    entriesAt rank (entriesWithoutOwnerships entries)
      = entriesWithoutOwnerships (entriesAt rank entries) :=
  List.filter_comm ..

variable {entries : List LogEntry} {lines : List String}

theorem forall₂_linesAt (rank : Nat) (h : List.Forall₂ LogEntry.IsToldBy entries lines) :
    List.Forall₂ LogEntry.IsToldBy (entriesAt rank entries) (linesAt rank lines) := by
  refine List.rel_filter ?_ h
  intro entry line hline
  simp only [hline.lineRank?_eq, Option.any_some]

theorem forall₂_linesWithoutOwnerships (h : List.Forall₂ LogEntry.IsToldBy entries lines) :
    List.Forall₂ LogEntry.IsToldBy (entriesWithoutOwnerships entries)
      (linesWithoutOwnerships lines) := by
  refine List.rel_filter ?_ h
  intro entry line hline
  simp only [hline.lineEvent?_eq, ne_eq, Option.some.injEq]

/-! ## 4. Loggers -/

namespace Logger

/-- What the library that writes the log is known for.  An entry passes if its rank reaches the one of
the level, and a line of JSON is an object with the members that it is given, as far as their names
differ. -/
structure Lawful (logger : Logger) : Prop where
  passes_iff : ∀ level severity, logger.passes level severity = true ↔ level.rank ≤ severity.rank
  read_render : ∀ members : List (String × Json), (members.map Prod.fst).Nodup →
    Json.read? (logger.render .json members) = some (.obj members)

theorem lawful_plain : plain.Lawful where
  passes_iff _ _ := decide_eq_true_iff
  read_render members _ := Json.read?_compact (.obj members)

variable {logger : Logger}

theorem Lawful.filter_eq (hlogger : logger.Lawful) (level : LogLevel) (entries : List LogEntry) :
    logger.filter level entries = entriesAt level.rank entries :=
  List.filter_congr fun entry _ =>
    Bool.eq_iff_iff.mpr ((hlogger.passes_iff level entry.severity).trans decide_eq_true_iff.symm)

theorem Lawful.isToldBy_render (hlogger : logger.Lawful) {entry : LogEntry}
    (hnames : entry.HasDistinctNames) (time : String) :
    entry.IsToldBy (logger.render .json (entry.members time)) := by
  refine ⟨hnames, time, ?_⟩
  rw [← entry.members_eq hnames]
  refine hlogger.read_render _ ?_
  rw [entry.members_eq hnames, List.map_append]
  exact hnames

/-- Lines that are written one after another tell the entries one after another. -/
theorem Lawful.forall₂_mapIdx (hlogger : logger.Lawful) (clock : Nat → String)
    {entries : List LogEntry} (hnames : ∀ entry ∈ entries, entry.HasDistinctNames) :
    List.Forall₂ LogEntry.IsToldBy entries
      (entries.mapIdx fun n entry => logger.render .json (entry.members (clock n))) := by
  -- The clock is generalized: behind the first line it shows what it shows one line later.
  induction entries generalizing clock with
  | nil => exact .nil
  | cons entry entries ih =>
    obtain ⟨hentry, hentries⟩ := List.forall_mem_cons.mp hnames
    rw [List.mapIdx_cons]
    exact .cons (hlogger.isToldBy_render hentry _) (ih (fun n => clock (n + 1)) hentries)

/-- The lines of a log tell the entries that reach the level, one each and in order. -/
theorem Lawful.forall₂_isToldBy_lines (hlogger : logger.Lawful) {setup : LogSetup}
    (hformat : setup.format = .json) (clock : Nat → String) {entries : List LogEntry}
    (hnames : ∀ entry ∈ entries, entry.HasDistinctNames) :
    List.Forall₂ LogEntry.IsToldBy (entriesAt setup.level.rank entries)
      (logger.lines setup clock entries) := by
  rw [lines, hformat, hlogger.filter_eq]
  exact hlogger.forall₂_mapIdx clock fun entry hentry => hnames entry (List.mem_of_mem_filter hentry)

end Logger

end ConsumerOffsets
