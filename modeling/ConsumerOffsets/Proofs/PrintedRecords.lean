/-
# What a printed record tells

The text that is printed for a record tells everything about it but one thing: the order of the topics
in a member's assignment (`CommandLine.output_tells_record`).  It is written in ASCII characters,
whatever the strings of the record are, and read as JSON it is the object of the record, with the names
at every level in ascending order.

A text that is printed is read back (`Record.IsPrinted`), so two texts are equal exactly if the sorted
objects are.
-/
import ConsumerOffsets.Proofs.Endings

namespace ConsumerOffsets.CommandLine

/-- A run decodes the record that its arguments name, and prints this. -/
structure Prints (columns : Nat) (env : Environment) (arguments : List String) (record : Record)
    (output : String) : Prop where
  decoded : ∃ invocation stored, Invocation.ofArguments arguments = .ok invocation
    ∧ Spells invocation stored ∧ stored.decode.result = .ok record
  printed : ∃ report, run columns env arguments = .ok report ∧ report.exitCode = 0
    ∧ report.output = output

variable {columns columns' : Nat} {env env' : Environment} {arguments arguments' : List String}
  {record record' : Record} {output output' : String}

theorem Prints.hasDistinctTopics (h : Prints columns env arguments record output) :
    record.HasDistinctTopics := by
  obtain ⟨_, _, -, -, hok⟩ := h.decoded
  exact StoredRecord.hasDistinctTopics_of_decode hok

/-- What is printed is the object of the record. -/
theorem Prints.output_eq (h : Prints columns env arguments record output) :
    output = record.toJson.pretty ++ "\n" := by
  obtain ⟨⟨invocation, stored, harguments, hspells, hok⟩, report, hrun, hcode, rfl⟩ := h
  obtain ⟨settings, setup, henv⟩ := exists_accepts_of_run harguments hrun
  cases (run_of_accepts columns harguments henv).symm.trans hrun
  exact ((ends_execute settings.reportOwnership invocation).of_ok hspells hok).2.1

/-- The record that arguments name, if it can be decoded. -/
def decoded? (arguments : List String) : Option Record := do
  let invocation ← (Invocation.ofArguments arguments).toOption
  let stored ← (readRecord invocation).toOption
  stored.decode.result.toOption

/-- In an environment that is accepted, a record that is decoded is printed. -/
theorem prints_of_decoded? (columns : Nat) {settings : Settings} {setup : LogSetup}
    (henv : Accepts env settings setup) (h : decoded? arguments = some record) :
    Prints columns env arguments record (record.toJson.pretty ++ "\n") := by
  have hok : ∀ {ε α : Type} {x : Except ε α} {a : α}, x.toOption = some a → x = .ok a := by
    rintro _ _ (_ | a) _ ⟨⟩
    rfl
  obtain ⟨invocation, harguments, h⟩ := Option.bind_eq_some_iff.mp h
  obtain ⟨stored, hread, hresult⟩ := Option.bind_eq_some_iff.mp h
  have hspells : Spells invocation stored := by
    rcases spells_or_firstFault invocation with ⟨stored', hread', hspells⟩ | ⟨e, herror, -⟩
    · cases (hok hread).symm.trans hread'
      exact hspells
    · cases (hok hread).symm.trans herror
  have hrun := run_of_accepts columns (hok harguments) henv
  refine ⟨⟨invocation, stored, hok harguments, hspells, hok hresult⟩, _, hrun, ?_⟩
  simp only [execute, hok hread, hok hresult, and_self]

/-- Two printed texts are equal exactly if the records are of the same type and equal up to the order of
the topics in each assignment.  Such a text is all ASCII characters.  Read as JSON it is the object of
the record, but for the order of members, which are in the ascending order of their names at every
level. -/
theorem output_tells_record (h : Prints columns env arguments record output)
    (h' : Prints columns' env' arguments' record' output') :
    (output = output' ↔ record.SameUpToTopicOrder record')
      ∧ Json.Ascii output.toList
      ∧ ∃ j, Json.read? output = some j ∧ j.Ascending ∧ record.toJson.Rearranges j := by
  have hdistinct := h.hasDistinctTopics
  have houtput := h.output_eq
  have houtput' := h'.output_eq
  subst houtput houtput'
  have hprinted := Record.isPrinted_pretty hdistinct
  refine ⟨?_, Json.ascii_pretty _, record.toJson.sorted, hprinted.read, hprinted.ascending,
    hprinted.object⟩
  rw [← Record.sorted_toJson_eq_iff hdistinct]
  constructor
  · intro heq
    have hread := Json.read?_pretty record.toJson
    rw [heq, Json.read?_pretty] at hread
    exact (Option.some.inj hread).symm
  · intro heq
    rw [Json.pretty, Json.pretty, heq]

/-- Two values of one member that differ in the order of its two topics.  The client has a quote and a
character beyond sixteen bits in its name. -/
theorem output_tells_record_of_swapped_topics : ∃ output output' : String,
    Prints 80 (fun _ => none) ["--group-metadata", "000167",
        "0000 000163 00000001 0000 0000 00000001 00016d 0005 22f09f9880 0000 00000008 00000000 "
          ++ "0000001c 0000 00000002 000161 00000001 00000005 000162 00000000 00000000"]
      (.groupMetadata ⟨"g", 0, ⟨"c", 1, "", ""⟩,
        [⟨"m", "\"😀", "", 8, none, [⟨"a", [5]⟩, ⟨"b", []⟩]⟩]⟩) output
    ∧ Prints 80 (fun _ => none) ["--group-metadata", "000167",
        "0000 000163 00000001 0000 0000 00000001 00016d 0005 22f09f9880 0000 00000008 00000000 "
          ++ "0000001c 0000 00000002 000162 00000000 000161 00000001 00000005 00000000"]
      (.groupMetadata ⟨"g", 0, ⟨"c", 1, "", ""⟩,
        [⟨"m", "\"😀", "", 8, none, [⟨"b", []⟩, ⟨"a", [5]⟩]⟩]⟩) output'
    ∧ output = output' ∧ Json.Ascii output.toList := by
  have henv : Accepts (fun _ => none) ⟨"info", .console, true⟩ ⟨⟨20⟩, .console⟩ :=
    ⟨by decide +kernel, by decide +kernel⟩
  have hfirst := prints_of_decoded? 80 henv (by decide +kernel : decoded? ["--group-metadata", "000167",
        "0000 000163 00000001 0000 0000 00000001 00016d 0005 22f09f9880 0000 00000008 00000000 "
          ++ "0000001c 0000 00000002 000161 00000001 00000005 000162 00000000 00000000"]
      = some (.groupMetadata ⟨"g", 0, ⟨"c", 1, "", ""⟩,
        [⟨"m", "\"😀", "", 8, none, [⟨"a", [5]⟩, ⟨"b", []⟩]⟩]⟩))
  have hsecond := prints_of_decoded? 80 henv (by decide +kernel : decoded? ["--group-metadata", "000167",
        "0000 000163 00000001 0000 0000 00000001 00016d 0005 22f09f9880 0000 00000008 00000000 "
          ++ "0000001c 0000 00000002 000162 00000000 000161 00000001 00000005 00000000"]
      = some (.groupMetadata ⟨"g", 0, ⟨"c", 1, "", ""⟩,
        [⟨"m", "\"😀", "", 8, none, [⟨"b", []⟩, ⟨"a", [5]⟩]⟩]⟩))
  obtain ⟨hequal, hascii, -⟩ := output_tells_record hfirst hsecond
  refine ⟨_, _, hfirst, hsecond, hequal.mpr (.groupMetadata _ (.cons ⟨rfl, ?_⟩ .nil)), hascii⟩
  exact .swap ..

end ConsumerOffsets.CommandLine
