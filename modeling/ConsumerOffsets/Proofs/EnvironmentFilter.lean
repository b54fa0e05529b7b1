/-
# What the environment decides

Of two environments that are accepted, neither can be told from the other by the exit code and the
output of a run.  What they decide is which lines are logged (`CommandLine.environment_only_filters`).
A higher level leaves out the lines whose own level is less, and without reports of ownerships the
lines that report one are left out.

Two things are no setting and have a part in a run all the same.  The columns of the terminal decide the
layout of help and refusals, and the clock decides the times in the lines.
-/
import ConsumerOffsets.Proofs.Endings
import ConsumerOffsets.Proofs.HelpLayout
import ConsumerOffsets.Proofs.LogLines

namespace ConsumerOffsets

/-! ## 1. Endings

Whether ownerships are reported is the only part of the settings that decoding is told. -/

/-- Failures have another name. -/
theorem Event.not_isOwnership_eq (event : Event) :
    (!event.isOwnership) = decide (event.toLogEntry.event ≠ "got group metadata") := by
  cases event with
  | failed subject reason => exact (decide_eq_true (by decide : "failed to decode" ≠ _)).symm
  | owned ownership => exact (decide_eq_false (not_not_intro rfl)).symm

namespace CommandLine

/-- It has no part in the exit code and the output. -/
theorem execute_agrees (reportOwnership reportOwnership' : Bool) (invocation : Invocation) :
    (execute reportOwnership invocation).exitCode
        = (execute reportOwnership' invocation).exitCode
      ∧ (execute reportOwnership invocation).output
        = (execute reportOwnership' invocation).output := by
  unfold execute
  split
  · exact ⟨rfl, rfl⟩
  · dsimp only
    split <;> exact ⟨rfl, rfl⟩

/-- Reports of ownerships are all that is left out of the log without them. -/
theorem log_execute_false (invocation : Invocation) :
    (execute false invocation).log = entriesWithoutOwnerships (execute true invocation).log := by
  have hshown : ∀ events : List Event, (Event.shown false events).map Event.toLogEntry
      = entriesWithoutOwnerships ((Event.shown true events).map Event.toLogEntry) := by
    intro events
    rw [entriesWithoutOwnerships, List.filter_map]
    exact congrArg (List.map Event.toLogEntry)
      (List.filter_congr fun event _ => event.not_isOwnership_eq)
  unfold execute
  split
  · rfl
  · dsimp only
    split
    · rw [hshown, entriesWithoutOwnerships, entriesWithoutOwnerships, List.filter_append]
      rfl
    · exact hshown _

/-! ## 2. Two environments -/

/-- What two runs on the same arguments show is the same.  Only the layout of help and refusals is up to
the columns. -/
structure ShowSame (columns columns' : Nat) (arguments : List String) (report report' : Report) :
    Prop where
  exitCode : report.exitCode = report'.exitCode
  output : columns = columns' ∨ Invocation.ofArguments arguments ≠ .error .help →
    report.output = report'.output
  outputInk : Text.ink report.output = Text.ink report'.output
  refusal : columns = columns' → report.refusal = report'.refusal
  refusalInk : report.refusal.map Text.ink = report'.refusal.map Text.ink

variable {env env' : Environment} {settings settings' : Settings} {setup setup' : LogSetup}
  {arguments : List String}

/-- Where the arguments name nothing to decode, no environment is looked at, and nothing is logged. -/
theorem run_of_interruption (columns columns' : Nat) {stop : Interruption}
    (harguments : Invocation.ofArguments arguments = .error stop) :
    ∃ report report', (∀ env, run columns env arguments = .ok report)
      ∧ (∀ env, run columns' env arguments = .ok report')
      ∧ ShowSame columns columns' arguments report report'
      ∧ report.setup = none ∧ report'.setup = none := by
  cases stop with
  | help =>
    refine ⟨{ exitCode := 0, output := help columns }, { exitCode := 0, output := help columns' },
      fun env => by rw [run, harguments], fun env => by rw [run, harguments],
      ⟨rfl, ?_, ink_help columns columns', fun _ => rfl, rfl⟩, rfl, rfl⟩
    rintro (rfl | hother)
    · rfl
    · exact absurd harguments hother
  | refused refusal =>
    refine ⟨{ exitCode := 2, output := "", refusal := some (refusalText columns refusal) },
      { exitCode := 2, output := "", refusal := some (refusalText columns' refusal) },
      fun env => by rw [run, harguments], fun env => by rw [run, harguments],
      ⟨rfl, fun _ => rfl, rfl, ?_, congrArg some (ink_refusalText columns columns' refusal)⟩, rfl, rfl⟩
    rintro rfl
    rfl

/-- The lines of a log of JSON lines tell what reaches the level. -/
theorem forall₂_isToldBy_of_accepts {logger : Logger} (hlogger : logger.Lawful)
    (h : Accepts env settings setup) (hjson : env.WritesJson) (clock : Nat → String) (wanted : Bool)
    (invocation : Invocation) :
    List.Forall₂ LogEntry.IsToldBy (entriesAt setup.level.rank (execute wanted invocation).log)
      (logger.lines setup clock (execute wanted invocation).log) :=
  hlogger.forall₂_isToldBy_lines (h.format_eq_json hjson) clock
    fun _ hentry => hasDistinctNames_of_mem_log_execute hentry

end CommandLine

end ConsumerOffsets
