/-
# How a run ends

A run whose arguments and environment are accepted ends in one of three ways (`CommandLine.Ends`): a
text stands for no bytes, the bytes are no record, or the record is printed.  The exit code says which,
and each way leaves its own log (`CommandLine.run_ends`).

What a run logs in front of its own last entry is what the decoding reported.  So the first section
says this for a whole record, by its result: the ownerships in it if it is decoded
(`StoredRecord.events_of_ok`), and otherwise a single failure, or nothing
(`StoredRecord.events_of_error`).
-/
import Mathlib.Control.Monad.Basic
import ConsumerOffsets.CommandLine
import ConsumerOffsets.Proofs.Environments
import ConsumerOffsets.Proofs.HexText
import ConsumerOffsets.Proofs.OwnershipRuns
import ConsumerOffsets.Proofs.RecordObjects

namespace ConsumerOffsets

/-! ## 1. Events by result -/

namespace Outcome.Reports

variable {α : Type} {outcome : Outcome α} {owned : α → List PartitionOwnership}

theorem events_of_ok (h : outcome.Reports owned) {a : α} (hok : outcome.result = .ok a) :
    outcome.events = (owned a).map Event.owned := by
  cases h with
  | succeed b =>
    cases hok
    rfl
  | fail subject reason e => cases hok

theorem events_of_error (h : outcome.Reports owned) {e : DecodeError}
    (herror : outcome.result = .error e) :
    ∃ subject reason, outcome.events = [.failed subject reason] := by
  cases h with
  | succeed a => cases herror
  | fail subject reason e => exact ⟨subject, reason, rfl⟩

end Outcome.Reports

namespace StoredRecord

/-- A record that is decoded reports the ownerships in it, and no failure. -/
theorem events_of_ok {stored : StoredRecord} {record : Record}
    (hok : stored.decode.result = .ok record) :
    stored.decode.events = record.ownerships.map Event.owned := by
  rcases stored.reports_or_silent with hreports | ⟨hevents, hnone⟩
  · exact hreports.events_of_ok hok
  · rw [hok, Record.ownershipsOf] at hnone
    rw [hevents, hnone, List.map_nil]

/-- A record that is not decoded reports one failure at most, and no ownership. -/
theorem events_of_error {stored : StoredRecord} {e : DecodeError}
    (herror : stored.decode.result = .error e) :
    stored.decode.events = [] ∨ ∃ subject reason, stored.decode.events = [.failed subject reason] := by
  rcases stored.reports_or_silent with hreports | ⟨hevents, -⟩
  · exact .inr (hreports.events_of_error herror)
  · exact .inl hevents

end StoredRecord

/-! ## 2. What is shown -/

namespace Event

/-- Nobody is told of ownerships that are not wanted. -/
theorem shown_false_map_owned (owned : List PartitionOwnership) :
    shown false (owned.map Event.owned) = [] := by
  rw [shown, if_neg Bool.false_ne_true, List.filter_eq_nil_iff]
  intro event hevent
  obtain ⟨ownership, -, rfl⟩ := List.mem_map.mp hevent
  exact Bool.false_ne_true

/-- Whoever wants ownerships is told of all of them. -/
theorem map_toLogEntry_shown_true (owned : List PartitionOwnership) :
    (shown true (owned.map Event.owned)).map toLogEntry
      = owned.map PartitionOwnership.toLogEntry := by
  rw [shown, if_pos rfl, List.map_map]
  rfl

end Event

namespace StoredRecord

variable {stored : StoredRecord} {e : DecodeError}

/-- A failure is shown to everybody. -/
theorem shown_of_error (wanted : Bool) (herror : stored.decode.result = .error e) :
    Event.shown wanted stored.decode.events = stored.decode.events := by
  rcases events_of_error herror with hevents | ⟨subject, reason, hevents⟩
  · rw [hevents]
    cases wanted <;> rfl
  · rw [hevents]
    cases wanted <;> rfl

/-- It is shown as a warning, and nothing else is shown. -/
theorem warnings_of_error (herror : stored.decode.result = .error e) :
    (∀ entry ∈ stored.decode.events.map Event.toLogEntry,
        entry.severity = .warning ∧ entry.event = "failed to decode")
      ∧ (stored.decode.events.map Event.toLogEntry).length ≤ 1 := by
  rcases events_of_error herror with hevents | ⟨subject, reason, hevents⟩
  · rw [hevents]
    exact ⟨List.forall_mem_nil _, Nat.zero_le 1⟩
  · rw [hevents]
    exact ⟨List.forall_mem_singleton.mpr ⟨rfl, rfl⟩, le_refl 1⟩

end StoredRecord

/-! ## 3. What the texts stand for -/

/-- The texts of key and value are hexadecimal, as far as they are given. -/
structure Invocation.IsHex (invocation : Invocation) : Prop where
  key : Text.Hex.IsHex invocation.key
  value : ∀ text, invocation.value = some text → Text.Hex.IsHex text

namespace CommandLine

/-- The texts stand for the bytes of the record.  A value that is not given is missing. -/
inductive Spells : Invocation → StoredRecord → Prop where
  | withoutValue {keyText : String} {key : List UInt8} (bareGroup : Bool)
      (hkey : Text.Hex.decode keyText = .ok key) :
      Spells ⟨keyText, none, bareGroup⟩ ⟨some key, none, bareGroup⟩
  | withValue {keyText valueText : String} {key value : List UInt8} (bareGroup : Bool)
      (hkey : Text.Hex.decode keyText = .ok key) (hvalue : Text.Hex.decode valueText = .ok value) :
      Spells ⟨keyText, some valueText, bareGroup⟩ ⟨some key, some value, bareGroup⟩

/-- What is wrong with the texts.  A fault of the value counts only behind a sound key. -/
inductive FirstFault (invocation : Invocation) (e : Text.Hex.Error) : Prop where
  | key (hkey : Text.Hex.decode invocation.key = .error e)
  | value {text : String} (hkey : Text.Hex.IsHex invocation.key)
      (hgiven : invocation.value = some text) (hvalue : Text.Hex.decode text = .error e)

theorem Spells.isHex {invocation : Invocation} {stored : StoredRecord}
    (h : Spells invocation stored) : invocation.IsHex := by
  cases h with
  | withoutValue bareGroup hkey => exact ⟨Text.Hex.isHex_of_decode_ok hkey, by rintro _ ⟨⟩⟩
  | withValue bareGroup hkey hvalue =>
    refine ⟨Text.Hex.isHex_of_decode_ok hkey, ?_⟩
    rintro _ ⟨⟩
    exact Text.Hex.isHex_of_decode_ok hvalue

theorem FirstFault.not_isHex {invocation : Invocation} {e : Text.Hex.Error}
    (h : FirstFault invocation e) : ¬ invocation.IsHex := by
  intro hhex
  cases h with
  | key hkey => exact Text.Hex.not_isHex_of_decode_error hkey hhex.key
  | value _ hgiven hvalue =>
    exact Text.Hex.not_isHex_of_decode_error hvalue (hhex.value _ hgiven)

/-- Reading the texts gives the record that they stand for, or their first fault. -/
theorem spells_or_firstFault (invocation : Invocation) :
    (∃ stored, readRecord invocation = .ok stored ∧ Spells invocation stored)
      ∨ ∃ e, readRecord invocation = .error e ∧ FirstFault invocation e := by
  obtain ⟨keyText, value?, bareGroup⟩ := invocation
  cases hkey : Text.Hex.decode keyText with
  | error e => exact .inr ⟨e, by simp [readRecord, hkey, bind, Except.bind], .key hkey⟩
  | ok key =>
    cases value? with
    | none =>
      exact .inl ⟨_, by simp [readRecord, hkey, bind, Except.bind, pure, Except.pure],
        .withoutValue bareGroup hkey⟩
    | some valueText =>
      cases hvalue : Text.Hex.decode valueText with
      | error e =>
        exact .inr ⟨e, by simp [readRecord, hkey, hvalue, bind, Except.bind],
          .value (Text.Hex.isHex_of_decode_ok hkey) rfl hvalue⟩
      | ok value =>
        exact .inl ⟨_, by simp [readRecord, hkey, hvalue, bind, Except.bind, pure, Except.pure],
          .withValue bareGroup hkey hvalue⟩

/-! ## 4. The three endings -/

variable {wanted : Prop} {invocation : Invocation} {ending : Ending}

/-- How decoding what is named can end, with the whole log, where ownerships are wanted or not. -/
inductive Ends (wanted : Prop) (invocation : Invocation) : Ending → Prop where
  /-- A text stands for no bytes.  There is no record to decode, and the fault is all that is logged. -/
  | badText (e : Text.Hex.Error) (hfault : FirstFault invocation e)
      (hnothing : ∀ stored, ¬ Spells invocation stored) :
      Ends wanted invocation
        { exitCode := 2
          output := ""
          log :=
            [{ severity := .error
               event := "invalid hex input"
               fields :=
                [("error",
                  .str ("non-hexadecimal number found in fromhex() arg at position "
                    ++ toString e.position))] }] }
  /-- The record fails to decode.  The error is logged behind what the decoding reported, which is one
  failure at most. -/
  | undecodable (stored : StoredRecord) (e : DecodeError) (warnings : List LogEntry)
      (hspells : Spells invocation stored) (herror : stored.decode.result = .error e)
      (hwarnings : warnings = stored.decode.events.map Event.toLogEntry)
      (hfailures : ∀ entry ∈ warnings,
        entry.severity = .warning ∧ entry.event = "failed to decode")
      (hone : warnings.length ≤ 1) :
      Ends wanted invocation
        { exitCode := 1
          output := ""
          log := warnings ++
            [{ severity := .error
               event := "record could not be decoded"
               fields :=
                [("field", .str e.field.render),
                  ("error", .str (e.field.render ++ ": " ++ e.message))] }] }
  /-- The record is printed, and only its ownerships are logged, if they are wanted. -/
  | decoded (stored : StoredRecord) (record : Record) (j : Json) (output : String)
      (log : List LogEntry) (hspells : Spells invocation stored)
      (hok : stored.decode.result = .ok record)
      (houtput : output = record.toJson.pretty ++ "\n") (hprinted : record.IsPrinted j output)
      (hwanted : wanted → log
        = record.ownerships.map fun ownership =>
          { severity := .info
            event := "got group metadata"
            fields :=
              [("group", .str ownership.groupId),
                ("topic", .str ownership.topic),
                ("partition", .int ownership.partition.toInt),
                ("owner", .str ownership.clientHost),
                ("client_id", .str ownership.clientId)] })
      (hunwanted : ¬ wanted → log = []) :
      Ends wanted invocation { exitCode := 0, output, log }

theorem ends_execute_of_error {stored : StoredRecord} {e : DecodeError} (wanted : Bool)
    (hread : readRecord invocation = .ok stored) (hspells : Spells invocation stored)
    (herror : stored.decode.result = .error e) :
    Ends (wanted = true) invocation (execute wanted invocation) := by
  have hexecute : execute wanted invocation
      = { exitCode := 1
          output := ""
          log := stored.decode.events.map Event.toLogEntry ++ [undecodableEntry e] } := by
    simp only [execute, hread, herror, StoredRecord.shown_of_error wanted herror]
  obtain ⟨hfailures, hone⟩ := StoredRecord.warnings_of_error herror
  rw [hexecute]
  exact .undecodable stored e _ hspells herror rfl hfailures hone

theorem ends_execute_of_ok {stored : StoredRecord} {record : Record} (wanted : Bool)
    (hread : readRecord invocation = .ok stored) (hspells : Spells invocation stored)
    (hok : stored.decode.result = .ok record) :
    Ends (wanted = true) invocation (execute wanted invocation) := by
  have hexecute : execute wanted invocation
      = { exitCode := 0
          output := record.toJson.pretty ++ "\n"
          log := (Event.shown wanted (record.ownerships.map Event.owned)).map Event.toLogEntry } := by
    simp only [execute, hread, hok, StoredRecord.events_of_ok hok]
  rw [hexecute]
  refine .decoded stored record _ _ _ hspells hok rfl
    (Record.isPrinted_pretty (StoredRecord.hasDistinctTopics_of_decode hok)) ?_ ?_
  · rintro rfl
    exact Event.map_toLogEntry_shown_true _
  · intro hunwanted
    rw [Bool.eq_false_of_not_eq_true hunwanted, Event.shown_false_map_owned, List.map_nil]

theorem ends_execute (wanted : Bool) (invocation : Invocation) :
    Ends (wanted = true) invocation (execute wanted invocation) := by
  rcases spells_or_firstFault invocation with ⟨stored, hread, hspells⟩ | ⟨e, hread, hfault⟩
  · cases hresult : stored.decode.result with
    | error e => exact ends_execute_of_error wanted hread hspells hresult
    | ok record => exact ends_execute_of_ok wanted hread hspells hresult
  · have hexecute : execute wanted invocation
        = { exitCode := 2, output := "", log := [badHexEntry e] } := by
      simp only [execute, hread]
    rw [hexecute]
    exact .badText e hfault fun stored hspells => hfault.not_isHex hspells.isHex

/-! ## 5. Exit codes -/

/-- The texts stand for one record at most. -/
theorem Spells.unique {stored other : StoredRecord} (h : Spells invocation stored)
    (hother : Spells invocation other) : stored = other := by
  cases h with
  | withoutValue bareGroup hkey =>
    cases hother with
    | withoutValue _ hkey' =>
      cases hkey.symm.trans hkey'
      rfl
  | withValue bareGroup hkey hvalue =>
    cases hother with
    | withValue _ hkey' hvalue' =>
      cases hkey.symm.trans hkey'
      cases hvalue.symm.trans hvalue'
      rfl

/-- There is one first fault at most. -/
theorem FirstFault.unique {e e' : Text.Hex.Error} (h : FirstFault invocation e)
    (h' : FirstFault invocation e') : e = e' := by
  cases h with
  | key hkey =>
    cases h' with
    | key hkey' => exact Except.error.inj (hkey.symm.trans hkey')
    | value hhex => exact absurd hhex (Text.Hex.not_isHex_of_decode_error hkey)
  | value hhex hgiven hvalue =>
    cases h' with
    | key hkey' => exact absurd hhex (Text.Hex.not_isHex_of_decode_error hkey')
    | value _ hgiven' hvalue' =>
      cases hgiven.symm.trans hgiven'
      exact Except.error.inj (hvalue.symm.trans hvalue')

namespace Ends

theorem exitCode_eq_two_iff (h : Ends wanted invocation ending) :
    ending.exitCode = 2 ↔ ¬ invocation.IsHex := by
  cases h with
  | badText e hfault => exact iff_of_true rfl hfault.not_isHex
  | undecodable stored e warnings hspells =>
    exact iff_of_false nofun (not_not_intro hspells.isHex)
  | decoded stored record j output log hspells =>
    exact iff_of_false nofun (not_not_intro hspells.isHex)

theorem exitCode_eq_one_iff (h : Ends wanted invocation ending) :
    ending.exitCode = 1
      ↔ ∃ stored e, Spells invocation stored ∧ stored.decode.result = .error e := by
  cases h with
  | badText e hfault hnothing =>
    refine iff_of_false nofun ?_
    rintro ⟨stored, _, hspells, -⟩
    exact hnothing stored hspells
  | undecodable stored e warnings hspells herror =>
    exact iff_of_true rfl ⟨stored, e, hspells, herror⟩
  | decoded stored record j output log hspells hok =>
    refine iff_of_false nofun ?_
    rintro ⟨other, e, hother, herror⟩
    rw [← hspells.unique hother, hok] at herror
    cases herror

theorem exitCode_eq_zero_iff (h : Ends wanted invocation ending) :
    ending.exitCode = 0
      ↔ ∃ stored record, Spells invocation stored ∧ stored.decode.result = .ok record := by
  cases h with
  | badText e hfault hnothing =>
    refine iff_of_false nofun ?_
    rintro ⟨stored, _, hspells, -⟩
    exact hnothing stored hspells
  | undecodable stored e warnings hspells herror =>
    refine iff_of_false nofun ?_
    rintro ⟨other, record, hother, hok⟩
    rw [← hspells.unique hother, herror] at hok
    cases hok
  | decoded stored record j output log hspells hok =>
    exact iff_of_true rfl ⟨stored, record, hspells, hok⟩

/-- Where a text has a fault, no other way is left, and so it is for the other two. -/
theorem of_firstFault (h : Ends wanted invocation ending) {e : Text.Hex.Error}
    (hfault : FirstFault invocation e) :
    ending.exitCode = 2 ∧ ending.output = "" ∧ ending.log = [badHexEntry e] := by
  cases h with
  | badText e' hfault' =>
    cases hfault.unique hfault'
    exact ⟨rfl, rfl, rfl⟩
  | undecodable stored e' warnings hspells => exact absurd hspells.isHex hfault.not_isHex
  | decoded stored record j output log hspells => exact absurd hspells.isHex hfault.not_isHex

theorem of_error (h : Ends wanted invocation ending) {stored : StoredRecord} {e : DecodeError}
    (hspells : Spells invocation stored) (herror : stored.decode.result = .error e) :
    ending.exitCode = 1 ∧ ending.output = ""
      ∧ ending.log = stored.decode.events.map Event.toLogEntry ++ [undecodableEntry e] := by
  cases h with
  | badText e' hfault hnothing => exact absurd hspells (hnothing stored)
  | undecodable stored' e' warnings hspells' herror' hwarnings =>
    rw [hspells'.unique hspells] at herror' hwarnings
    cases herror.symm.trans herror'
    rw [hwarnings]
    exact ⟨rfl, rfl, rfl⟩
  | decoded stored' record j output log hspells' hok =>
    rw [hspells'.unique hspells, herror] at hok
    cases hok

theorem of_ok (h : Ends wanted invocation ending) {stored : StoredRecord} {record : Record}
    (hspells : Spells invocation stored) (hok : stored.decode.result = .ok record) :
    ending.exitCode = 0 ∧ ending.output = record.toJson.pretty ++ "\n"
      ∧ (wanted → ending.log = record.ownerships.map PartitionOwnership.toLogEntry) := by
  cases h with
  | badText e hfault hnothing => exact absurd hspells (hnothing stored)
  | undecodable stored' e warnings hspells' herror =>
    rw [hspells'.unique hspells, hok] at herror
    cases herror
  | decoded stored' record' j output log hspells' hok' houtput hprinted hwanted =>
    rw [hspells'.unique hspells, hok] at hok'
    cases hok'
    exact ⟨rfl, houtput, hwanted⟩

end Ends

/-! ## 6. Runs -/

variable {env : Environment} {arguments : List String} {settings : Settings}
  {setup : LogSetup}

theorem run_of_accepts (columns : Nat) (harguments : Invocation.ofArguments arguments = .ok invocation)
    (henv : Accepts env settings setup) :
    run columns env arguments
      = .ok
        { exitCode := (execute settings.reportOwnership invocation).exitCode
          output := (execute settings.reportOwnership invocation).output
          log := (execute settings.reportOwnership invocation).log
          setup := some setup } := by
  simp only [run, harguments, henv.hload, henv.hsetup, bind, Except.bind, pure, Except.pure]

/-- Where there is something to decode, a run does not come to an end unless the environment is
accepted. -/
theorem exists_accepts_of_run {columns : Nat} {report : Report}
    (harguments : Invocation.ofArguments arguments = .ok invocation)
    (hrun : run columns env arguments = .ok report) :
    ∃ settings setup, Accepts env settings setup := by
  simp only [run, harguments, bind, Except.bind] at hrun
  cases hsettings : Settings.load env with
  | error e =>
    rw [hsettings] at hrun
    cases hrun
  | ok settings =>
    cases hsetup : settings.logSetup with
    | error e =>
      simp only [hsettings, hsetup] at hrun
      cases hrun
    | ok setup => exact ⟨settings, setup, hsettings, hsetup⟩

/-- A run on acceptable arguments and settings always comes to an end, and to one of three.  Its exit
code is 2 if a text is not hexadecimal, 1 if the texts are and the record that they stand for fails to
decode, and 0 if it is decoded.  The log is told as a whole, before the level leaves anything out. -/
theorem run_ends (columns : Nat) (harguments : Invocation.ofArguments arguments = .ok invocation)
    (henv : Accepts env settings setup) :
    ∃ ending,
      run columns env arguments
          = .ok
            { exitCode := ending.exitCode
              output := ending.output
              log := ending.log
              setup := some setup }
        ∧ Ends env.ReportsOwnership invocation ending
        ∧ (ending.exitCode = 2 ↔ ¬ invocation.IsHex)
        ∧ (ending.exitCode = 1
          ↔ ∃ stored e, Spells invocation stored ∧ stored.decode.result = .error e)
        ∧ (ending.exitCode = 0
          ↔ ∃ stored record, Spells invocation stored ∧ stored.decode.result = .ok record) := by
  have hends := ends_execute settings.reportOwnership invocation
  rw [henv.reportOwnership_eq, decide_eq_true_eq] at hends
  refine ⟨_, ?_, hends, hends.exitCode_eq_two_iff, hends.exitCode_eq_one_iff,
    hends.exitCode_eq_zero_iff⟩
  rw [← henv.reportOwnership_eq]
  exact run_of_accepts columns harguments henv

/-- A key that is no text of digits, a value that ends behind its version, and a group whose member owns
a partition. -/
theorem run_ends_in_each_way :
    (∃ report, run 80 (fun _ => none) ["0z"] = .ok report
      ∧ report.exitCode = 2 ∧ report.output = ""
      ∧ report.log
        = [{ severity := .error
             event := "invalid hex input"
             fields :=
              [("error", .str "non-hexadecimal number found in fromhex() arg at position 1")] }])
    ∧ (∃ report, run 80 (fun _ => none) ["--group-metadata", "000167", "0x00 00"] = .ok report
      ∧ report.exitCode = 1 ∧ report.output = ""
      ∧ report.log
        = [{ severity := .warning
             event := "failed to decode"
             fields :=
              [("message_type", .str "metadata"), ("group", .str "g"),
                ("reason", .str "protocol_type"),
                ("error", .str "protocol_type: needed 2 bytes but only 0 remain")] },
           { severity := .error
             event := "record could not be decoded"
             fields :=
              [("field", .str "protocol_type"),
                ("error", .str "protocol_type: needed 2 bytes but only 0 remain")] }])
    ∧ ∃ report, run 80 (fun _ => none) ["00020001 67",
          "0000 000163 00000001 0000 0000 00000001 00016d 000169 000168 00000008 00000000 "
            ++ "00000015 0000 00000001 000174 00000001 00000005 00000000"] = .ok report
      ∧ report.exitCode = 0
      ∧ report.output
        = "\x7b\n  \"group_id\": \"g\",\n  \"header\": \x7b\n    \"generation\": 1,\n"
          ++ "    \"leader\": \"\",\n    \"protocol\": \"\",\n    \"protocol_type\": \"c\"\n  \x7d,\n"
          ++ "  \"members\": [\n    \x7b\n      \"assignment\": \x7b\n        \"t\": [\n          5\n"
          ++ "        ]\n      \x7d,\n      \"client_host\": \"h\",\n      \"client_id\": \"i\",\n"
          ++ "      \"member_id\": \"m\",\n      \"rebalance_timeout\": null,\n"
          ++ "      \"session_timeout\": 8\n    \x7d\n  ],\n  \"type\": \"GroupMetadata\",\n"
          ++ "  \"version\": 0\n\x7d\n"
      ∧ report.log
        = [{ severity := .info
             event := "got group metadata"
             fields :=
              [("group", .str "g"), ("topic", .str "t"), ("partition", .int 5), ("owner", .str "h"),
                ("client_id", .str "i")] }] := by
  have henv : Accepts (fun _ => none) ⟨"info", .console, true⟩ ⟨⟨20⟩, .console⟩ :=
    ⟨by decide +kernel, by decide +kernel⟩
  have hwanted : Environment.ReportsOwnership fun _ => none := by decide +kernel
  refine ⟨?_, ?_, ?_⟩
  · obtain ⟨ending, hrun, hends, -⟩ := run_ends 80
      (by decide +kernel : Invocation.ofArguments ["0z"] = .ok ⟨"0z", none, false⟩) henv
    obtain ⟨hcode, houtput, hlog⟩ :=
      hends.of_firstFault (.key (rfl : Text.Hex.decode "0z" = .error ⟨1⟩))
    exact ⟨_, hrun, hcode, houtput, hlog⟩
  · obtain ⟨ending, hrun, hends, -⟩ := run_ends 80
      (by decide +kernel : Invocation.ofArguments ["--group-metadata", "000167", "0x00 00"]
        = .ok ⟨"000167", some "0x00 00", true⟩) henv
    have hspells : Spells ⟨"000167", some "0x00 00", true⟩
        ⟨some [0, 1, 0x67], some [0, 0], true⟩ := .withValue true rfl rfl
    have hevents : (StoredRecord.decode ⟨some [0, 1, 0x67], some [0, 0], true⟩).events
        = [.failed (.groupMetadata (some "g"))
            (.error (.truncated (.root "protocol_type") 2 0))] := by decide +kernel
    have herror : (StoredRecord.decode ⟨some [0, 1, 0x67], some [0, 0], true⟩).result
        = .error (.truncated (.root "protocol_type") 2 0) := by decide +kernel
    have htext : DecodeError.text (.truncated (.root "protocol_type") 2 0)
        = "protocol_type: needed 2 bytes but only 0 remain" := by decide +kernel
    obtain ⟨hcode, houtput, hlog⟩ := hends.of_error hspells herror
    refine ⟨_, hrun, hcode, houtput, hlog.trans ?_⟩
    rw [hevents]
    simp only [List.map_cons, List.map_nil, Event.toLogEntry, Subject.fields, FailureReason.fields,
      undecodableEntry, DecodeError.field, FieldPath.render, htext, List.cons_append,
      List.nil_append]
  · obtain ⟨ending, hrun, hends, -⟩ := run_ends 80
      (by decide +kernel : Invocation.ofArguments ["00020001 67",
          "0000 000163 00000001 0000 0000 00000001 00016d 000169 000168 00000008 00000000 "
            ++ "00000015 0000 00000001 000174 00000001 00000005 00000000"]
        = .ok ⟨"00020001 67", some <|
          "0000 000163 00000001 0000 0000 00000001 00016d 000169 000168 00000008 00000000 "
            ++ "00000015 0000 00000001 000174 00000001 00000005 00000000", false⟩) henv
    obtain ⟨stored, hspells, hok⟩ : ∃ stored, Spells ⟨"00020001 67", some <|
          "0000 000163 00000001 0000 0000 00000001 00016d 000169 000168 00000008 00000000 "
            ++ "00000015 0000 00000001 000174 00000001 00000005 00000000", false⟩ stored
        ∧ stored.decode.result = .ok (.groupMetadata ⟨"g", 0, ⟨"c", 1, "", ""⟩,
          [⟨"m", "i", "h", 8, none, [⟨"t", [5]⟩]⟩]⟩) :=
      ⟨⟨some [0, 2, 0, 1, 0x67], some [0, 0, 0, 1, 0x63, 0, 0, 0, 1, 0, 0, 0, 0, 0, 0, 0, 1, 0, 1, 0x6d,
          0, 1, 0x69, 0, 1, 0x68, 0, 0, 0, 8, 0, 0, 0, 0, 0, 0, 0, 21, 0, 0, 0, 0, 0, 1, 0, 1, 0x74, 0, 0,
          0, 1, 0, 0, 0, 5, 0, 0, 0, 0], false⟩,
        .withValue false (by decide +kernel) (by decide +kernel), by decide +kernel⟩
    obtain ⟨hcode, houtput, hlog⟩ := hends.of_ok hspells hok
    refine ⟨_, hrun, hcode, houtput.trans ?_, hlog hwanted⟩
    decide +kernel

end CommandLine

end ConsumerOffsets
