/-
# What an environment says

An environment says three things: whether ownerships are reported, whether the lines of the log are
JSON, and which rank a log entry needs.  Here they are read off the variables themselves.  The settings
of an environment that is accepted (`CommandLine.Accepts`) say the same.
-/
import Mathlib.Control.Monad.Basic
import Mathlib.Data.List.Nodup
import ConsumerOffsets.CommandLine

namespace ConsumerOffsets

/-! ## 1. Variables -/

namespace Environment

/-- The environment in which these variables are set. -/
def ofList (entries : List (String × String)) : Environment := fun name => entries.lookup name

/-- Ownerships are reported.  So they are if nothing is said about it. -/
def ReportsOwnership (env : Environment) : Prop :=
  Text.lower ((env "GROUPMETA_REPORT_OWNERSHIP").getD "true") = "true"

instance (env : Environment) : Decidable env.ReportsOwnership := inferInstanceAs (Decidable (_ = _))

/-- The lines of the log are JSON. -/
def WritesJson (env : Environment) : Prop :=
  Text.lower ((env "GROUPMETA_LOG_FORMAT").getD "console") = "json"

instance (env : Environment) : Decidable env.WritesJson := inferInstanceAs (Decidable (_ = _))

/-- The ranks of the levels that have a name. -/
def namedRanks : List (String × Nat) :=
  [("CRITICAL", 50), ("FATAL", 50), ("ERROR", 40), ("WARN", 30), ("WARNING", 30), ("INFO", 20),
    ("DEBUG", 10), ("NOTSET", 0)]

/-- The level that the environment names has the rank. -/
def HasLevel (env : Environment) (rank : Nat) : Prop :=
  ∃ name, Text.upperAscii? (Text.lower ((env "GROUPMETA_LOG_LEVEL").getD "info")) = some name
    ∧ (name, rank) ∈ namedRanks

/-- No name has two ranks. -/
theorem HasLevel.unique {env : Environment} {rank rank' : Nat} (h : env.HasLevel rank)
    (h' : env.HasLevel rank') : rank = rank' := by
  obtain ⟨name, hname, hmem⟩ := h
  obtain ⟨name', hname', hmem'⟩ := h'
  obtain rfl : name = name' := Option.some.inj (hname.symm.trans hname')
  have hnodup : (namedRanks.map Prod.fst).Nodup := by decide
  exact congrArg Prod.snd (List.inj_on_of_nodup_map hnodup hmem hmem' rfl)

end Environment

/-! ## 2. Settings -/

theorem LogLevel.mem_namedRanks_of_ofName? {name : String} {level : LogLevel}
    (h : ofName? name = some level) : (name, level.rank) ∈ Environment.namedRanks := by
  have hmem : (name, level) ∈ byName := by
    obtain ⟨before, behind, heq, -⟩ := List.lookup_eq_some_iff.mp h
    rw [heq]
    exact List.mem_append_right _ List.mem_cons_self
  exact List.mem_map_of_mem (f := fun (name, level) => (name, LogLevel.rank level)) hmem

namespace CommandLine

/-- The settings of the environment can be used, and the log is set up by them. -/
structure Accepts (env : Environment) (settings : Settings) (setup : LogSetup) : Prop where
  hload : Settings.load env = .ok settings
  hsetup : settings.logSetup = .ok setup

namespace Accepts

variable {env : Environment} {settings : Settings} {setup : LogSetup}

/-- What the settings are made of. -/
theorem settings_eq (h : Accepts env settings setup) :
    LogFormat.ofName? (Settings.formatName env) = some settings.logFormat
      ∧ settings.logLevel = Text.lower ((env "GROUPMETA_LOG_LEVEL").getD "info")
      ∧ settings.reportOwnership = decide env.ReportsOwnership := by
  have hload := h.hload
  unfold Settings.load at hload
  split at hload
  · cases hload
  · next hformat =>
    cases hload
    exact ⟨hformat, rfl, rfl⟩

theorem reportOwnership_eq (h : Accepts env settings setup) :
    settings.reportOwnership = decide env.ReportsOwnership := h.settings_eq.2.2

/-- The log has the format that the settings name, and its level is the one of their name. -/
theorem setup_eq (h : Accepts env settings setup) :
    setup.format = settings.logFormat ∧ settings.level = .ok setup.level := by
  have hsetup := h.hsetup
  rw [Settings.logSetup] at hsetup
  cases hlevel : settings.level with
  | error e =>
    rw [hlevel] at hsetup
    cases hsetup
  | ok level =>
    rw [hlevel] at hsetup
    cases hsetup
    exact ⟨rfl, rfl⟩

theorem format_eq_json (h : Accepts env settings setup) (hjson : env.WritesJson) :
    setup.format = .json := by
  obtain ⟨hformat, -, -⟩ := h.settings_eq
  have hname : Settings.formatName env = "json" := hjson
  have hnamed : LogFormat.ofName? "json" = some .json := by decide
  rw [hname, hnamed] at hformat
  exact h.setup_eq.1.trans (Option.some.inj hformat).symm

theorem hasLevel (h : Accepts env settings setup) : env.HasLevel setup.level.rank := by
  obtain ⟨-, hname, -⟩ := h.settings_eq
  have hlevel := h.setup_eq.2
  unfold Settings.level at hlevel
  split at hlevel
  · next hsome =>
    cases hlevel
    rw [hname] at hsome
    obtain ⟨name, hupper, hfound⟩ := Option.bind_eq_some_iff.mp hsome
    exact ⟨name, hupper, LogLevel.mem_namedRanks_of_ofName? hfound⟩
  · cases hlevel

end Accepts

end CommandLine

end ConsumerOffsets
