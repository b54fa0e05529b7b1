/-
# Where the flag for bare groups may stand

The flag may be given any number of times, in front of the key and behind the operands, and it makes
no difference where and how often (`CommandLine.run_of_flags`).  The one place that does is between
the key and the value.  The value is bound only directly behind the key, so that behind a flag it is
an operand too many, and the arguments are refused for it.

Arguments are split here into the flags in front of the operands, between and behind them.  Flags
that come together do to the progress what one of them does (`Progress.foldlM_flags`), and each part
takes the progress one operand further.
-/
import Mathlib.Control.Monad.Basic
import ConsumerOffsets.CommandLine

namespace ConsumerOffsets

/-! ## 1. Flags and operands by themselves -/

/-- The text does not begin like an option. -/
def IsOperand (text : String) : Prop := text.toList.head? ≠ some '-'

instance (text : String) : Decidable (IsOperand text) :=
  inferInstanceAs (Decidable (text.toList.head? ≠ some '-'))

theorem IsOperand.ne_flag {text : String} (h : IsOperand text) : text ≠ "--group-metadata" := by
  rintro rfl
  exact h rfl

theorem IsOperand.ne_separator {text : String} (h : IsOperand text) : text ≠ "--" := by
  rintro rfl
  exact h rfl

namespace Token

/-- The token of an argument that is the flag or an operand. -/
def ofText (text : String) : Token :=
  if text = "--group-metadata" then flag .bareGroup else operand text

theorem ofText_operand {text : String} (h : IsOperand text) : ofText text = operand text :=
  if_neg h.ne_flag

theorem ofArgument_flag : ofArgument "--group-metadata" = .ok (flag .bareGroup) := rfl

theorem ofArgument_operand {text : String} (h : IsOperand text) :
    ofArgument text = .ok (operand text) := by
  have hdash : ∀ rest, text.toList ≠ '-' :: rest := by
    intro rest hrest
    rw [IsOperand, hrest] at h
    exact h rfl
  unfold ofArgument
  split
  · next heq => exact absurd heq (hdash _)
  · next heq => exact absurd heq (hdash _)
  · next heq => exact absurd heq (hdash _)
  · next heq => exact absurd heq (hdash _)
  · next heq => exact absurd heq (hdash _)
  · rfl

/-- Flags and operands are looked at one by one. -/
theorem scan_eq_map : ∀ {arguments : List String},
    (∀ a ∈ arguments, a = "--group-metadata" ∨ IsOperand a) →
      scan arguments = .ok (arguments.map ofText)
  | [], _ => rfl
  | argument :: rest, h => by
    have hrest := scan_eq_map fun a ha => h a (List.mem_cons_of_mem _ ha)
    have hfirst : argument ≠ "--" ∧ ofArgument argument = .ok (ofText argument) := by
      rcases h argument List.mem_cons_self with rfl | hoperand
      · exact ⟨by decide, ofArgument_flag⟩
      · rw [ofText_operand hoperand]
        exact ⟨hoperand.ne_separator, ofArgument_operand hoperand⟩
    rw [scan, if_neg hfirst.1, hfirst.2, hrest]
    rfl

end Token

/-! ## 2. Flags that come together -/

theorem Binding.close_close (binding : Binding) : binding.close.close = binding.close := by
  cases binding <;> rfl

namespace Progress

/-- The progress behind flags that come together: behind the first of them nothing changes. -/
def passFlags (flags : List String) (progress : Progress) : Progress :=
  if flags = [] then progress
  else { progress with binding := progress.binding.close, bareGroup := true }

/-- By induction on the flags. -/
theorem foldlM_flags {flags : List String} (h : ∀ a ∈ flags, a = "--group-metadata") :
    ∀ progress : Progress,
      (flags.map Token.ofText).foldlM step progress = .ok (progress.passFlags flags) := by
  induction flags with
  | nil => exact fun _ => rfl
  | cons flag flags ih =>
    intro progress
    obtain rfl := h flag List.mem_cons_self
    have hstep : step progress (Token.ofText "--group-metadata")
        = .ok { progress with binding := progress.binding.close, bareGroup := true } := rfl
    have hrest := ih (fun a ha => h a (List.mem_cons_of_mem _ ha))
      { progress with binding := progress.binding.close, bareGroup := true }
    rw [List.map_cons, List.foldlM_cons, hstep]
    refine Eq.trans hrest ?_
    unfold passFlags
    split
    · rfl
    · rw [Binding.close_close]
      rfl

end Progress

/-! ## 3. Flags among the operands -/

section Arguments

variable {key : String} {value : Option String} {arguments : List String}

/-- The arguments are the flag, at least once, and key and value in this order. -/
structure WithFlags (key : String) (value : Option String) (arguments : List String) : Prop where
  isKey : IsOperand key
  isValue : ∀ v, value = some v → IsOperand v
  operands : arguments.filter (· ≠ "--group-metadata") = key :: value.toList
  flag : "--group-metadata" ∈ arguments

namespace WithFlags

theorem isOperand (h : WithFlags key value arguments) : ∀ a ∈ key :: value.toList, IsOperand a := by
  intro a ha
  rcases List.mem_cons.mp ha with rfl | ha
  · exact h.isKey
  · exact h.isValue a (Option.mem_toList.mp ha)

/-- Flags in front of the operands, and nothing between them. -/
theorem canonical (hkey : IsOperand key) (hvalue : ∀ v, value = some v → IsOperand v) :
    WithFlags key value ("--group-metadata" :: key :: value.toList) where
  isKey := hkey
  isValue := hvalue
  operands := by
    have hoperands : ∀ a ∈ key :: value.toList, a ≠ "--group-metadata" := by
      intro a ha
      rcases List.mem_cons.mp ha with rfl | ha
      · exact hkey.ne_flag
      · exact (hvalue a (Option.mem_toList.mp ha)).ne_flag
    rw [List.filter_cons_of_neg (by simp), List.filter_eq_self]
    exact fun a ha => decide_eq_true (hoperands a ha)
  flag := List.mem_cons_self

theorem scan_eq (h : WithFlags key value arguments) :
    Token.scan arguments = .ok (arguments.map Token.ofText) := by
  refine Token.scan_eq_map fun a ha => ?_
  by_cases hflag : a = "--group-metadata"
  · exact Or.inl hflag
  · have hmem : a ∈ arguments.filter (· ≠ "--group-metadata") :=
      List.mem_filter.mpr ⟨ha, decide_eq_true hflag⟩
    rw [h.operands] at hmem
    exact Or.inr (h.isOperand a hmem)

theorem ofArguments_eq (h : WithFlags key value arguments) :
    Invocation.ofArguments arguments
      = (arguments.map Token.ofText).foldlM Progress.step {} >>= Progress.finish := by
  rw [Invocation.ofArguments, h.scan_eq]
  rfl

/-- Where nothing stands between the operands, there are only flags around them. -/
theorem exists_of_together (h : WithFlags key value arguments)
    (htogether : key :: value.toList <:+: arguments) :
    ∃ front behind : List String, arguments = front ++ (key :: value.toList) ++ behind
      ∧ (∀ a ∈ front, a = "--group-metadata") ∧ ∀ a ∈ behind, a = "--group-metadata" := by
  obtain ⟨front, behind, rfl⟩ := htogether
  have hoperands := h.operands
  have hkept : (key :: value.toList).filter (· ≠ "--group-metadata") = key :: value.toList := by
    rw [List.filter_eq_self]
    exact fun a ha => decide_eq_true (h.isOperand a ha).ne_flag
  rw [List.filter_append, List.filter_append, hkept] at hoperands
  have hlength := congrArg List.length hoperands
  simp only [List.length_append] at hlength
  have hfront := List.eq_nil_of_length_eq_zero (by omega :
    (front.filter (· ≠ "--group-metadata")).length = 0)
  have hbehind := List.eq_nil_of_length_eq_zero (by omega :
    (behind.filter (· ≠ "--group-metadata")).length = 0)
  refine ⟨front, behind, rfl, ?_, ?_⟩
  · simpa using List.filter_eq_nil_iff.mp hfront
  · simpa using List.filter_eq_nil_iff.mp hbehind

/-- Where something stands between the key and the value, it is flags. -/
theorem exists_of_apart {v : String} (h : WithFlags key (some v) arguments)
    (hapart : ¬ [key, v] <:+: arguments) :
    ∃ front between behind : List String,
      arguments = front ++ key :: (between ++ v :: behind) ∧ between ≠ []
      ∧ (∀ a ∈ front, a = "--group-metadata") ∧ (∀ a ∈ between, a = "--group-metadata")
      ∧ ∀ a ∈ behind, a = "--group-metadata" := by
  obtain ⟨front, rest, rfl, hfront, -, hrest⟩ := List.filter_eq_cons_iff.mp h.operands
  obtain ⟨between, behind, rfl, hbetween, -, hbehind⟩ := List.filter_eq_cons_iff.mp hrest
  refine ⟨front, between, behind, rfl, ?_, ?_, ?_, ?_⟩
  · rintro rfl
    exact hapart ⟨front, behind, by simp⟩
  · simpa using hfront
  · simpa using hbetween
  · simpa using List.filter_eq_nil_iff.mp hbehind

end WithFlags

/-! ## 4. From part to part -/

namespace Progress

/-- Flags in front of the operands bind nothing. -/
theorem passFlags_start (front : List String) :
    passFlags front {} = { bareGroup := decide (front ≠ []) } := by
  unfold passFlags
  split
  · next hnil => simp [hnil]
  · next hne =>
    rw [decide_eq_true hne]
    rfl

/-- How far operands are bound that stand together. -/
def bound (key : String) : Option String → Binding
  | none => .key key
  | some v => .value key (some v)

theorem foldlM_operands (hkey : IsOperand key) (hvalue : ∀ v, value = some v → IsOperand v)
    (bareGroup : Bool) :
    ((key :: value.toList).map Token.ofText).foldlM step { bareGroup }
      = .ok { binding := bound key value, bareGroup } := by
  cases value with
  | none =>
    rw [Option.toList_none, List.map_singleton, Token.ofText_operand hkey]
    rfl
  | some v =>
    have hv : IsOperand v := hvalue v rfl
    have hstep : step { binding := .key key, bareGroup } (.operand v)
        = .ok { binding := .value key (some v), bareGroup } := by
      simp only [step, bindOperand, if_neg hv.ne_separator]
    rw [Option.toList_some, List.map_cons, List.map_singleton, Token.ofText_operand hkey,
      Token.ofText_operand hv]
    exact hstep

/-- Flags behind the operands change nothing about them. -/
theorem finish_passFlags {behind : List String} {bareGroup : Bool}
    (hbare : bareGroup = true ∨ behind ≠ []) :
    (passFlags behind { binding := bound key value, bareGroup }).finish
      = .ok { key, value, bareGroup := true } := by
  unfold passFlags
  split
  · next hnil =>
    obtain rfl := hbare.resolve_right (not_not_intro hnil)
    cases value <;> rfl
  · cases value <;> rfl

end Progress

namespace WithFlags

open Progress

theorem ofArguments_of_together (h : WithFlags key value arguments)
    (htogether : key :: value.toList <:+: arguments) :
    Invocation.ofArguments arguments = .ok { key, value, bareGroup := true } := by
  obtain ⟨front, behind, rfl, hfront, hbehind⟩ := h.exists_of_together htogether
  -- the flag that there is stands on one side of the operands
  have hbare : decide (front ≠ []) = true ∨ behind ≠ [] := by
    rcases List.mem_append.mp h.flag with hmem | hmem
    · rcases List.mem_append.mp hmem with hmem | hmem
      · exact Or.inl (decide_eq_true (List.ne_nil_of_mem hmem))
      · exact absurd rfl (h.isOperand _ hmem).ne_flag
    · exact Or.inr (List.ne_nil_of_mem hmem)
  rw [h.ofArguments_eq, List.map_append, List.map_append, List.foldlM_append, List.foldlM_append,
    foldlM_flags hfront, passFlags_start]
  have hoperands := foldlM_operands h.isKey h.isValue (decide (front ≠ []))
  have hrest := foldlM_flags hbehind
    { binding := bound key value, bareGroup := decide (front ≠ []) }
  simp only [bind, Except.bind, hoperands, hrest]
  exact finish_passFlags hbare

/-- Behind the flags the value is one operand too many. -/
theorem ofArguments_of_apart {v : String} (h : WithFlags key (some v) arguments)
    (hapart : ¬ [key, v] <:+: arguments) :
    Invocation.ofArguments arguments = .error (.refused (.unrecognized [v])) := by
  obtain ⟨front, between, behind, rfl, hne, hfront, hbetween, hbehind⟩ :=
    h.exists_of_apart hapart
  have hkey : step { bareGroup := decide (front ≠ []) } (Token.ofText key)
      = .ok { binding := .key key, bareGroup := decide (front ≠ []) } := by
    rw [Token.ofText_operand h.isKey]
    rfl
  -- the key is bound alone: the flags behind it close the binding, which the value finds closed
  have hclosed := foldlM_flags hbetween
    { binding := .key key, bareGroup := decide (front ≠ []) }
  rw [passFlags, if_neg hne] at hclosed
  have hvalue : step { binding := .closed key none, bareGroup := true } (Token.ofText v)
      = .ok { binding := .closed key none, bareGroup := true, leftover := [v] } := by
    rw [Token.ofText_operand (h.isValue v rfl)]
    rfl
  have hrest := foldlM_flags hbehind
    { binding := .closed key none, bareGroup := true, leftover := [v] }
  have hsame : passFlags behind { binding := .closed key none, bareGroup := true, leftover := [v] }
      = { binding := .closed key none, bareGroup := true, leftover := [v] } := ite_self _
  rw [hsame] at hrest
  rw [h.ofArguments_eq, List.map_append, List.foldlM_append, foldlM_flags hfront, passFlags_start,
    List.map_cons, List.map_append, List.map_cons]
  simp only [bind, Except.bind, List.foldlM_cons, List.foldlM_append, hkey, hclosed, Binding.close,
    hvalue, hrest]
  rfl

end WithFlags

/-! ## 5. Runs -/

namespace CommandLine

/-- A single argument that is not recognized is named behind the usage. -/
theorem refusalText_unrecognized (columns : Nat) (argument : String) :
    refusalText columns (.unrecognized [argument])
      = usage columns ++ "groupmeta: error: unrecognized arguments: " ++ argument ++ "\n" := by
  have htext : (Refusal.unrecognized [argument]).text = "unrecognized arguments: " ++ argument := rfl
  have hfront : program ++ (": error: " ++ "unrecognized arguments: ")
      = "groupmeta: error: unrecognized arguments: " := by decide +kernel
  rw [← hfront, refusalText, htext]
  simp only [String.append_assoc]

/-- Flags in front of the operands and behind them change nothing, however many there are: where the
value stands directly behind the key, or there is none, a run is the same as with one flag in front.
Flags between the key and the value keep the value from being bound.  The arguments are refused for
it in every environment and for every width of the terminal, and nothing is printed or logged. -/
theorem run_of_flags (columns : Nat) (env : Environment) (h : WithFlags key value arguments) :
    (value = none → key :: value.toList <:+: arguments)
    ∧ (key :: value.toList <:+: arguments →
      run columns env arguments = run columns env ("--group-metadata" :: key :: value.toList))
    ∧ ∀ v, value = some v → ¬ [key, v] <:+: arguments →
      run columns env arguments
        = .ok
          { exitCode := 2
            output := ""
            refusal := some
              (usage columns ++ "groupmeta: error: unrecognized arguments: " ++ v ++ "\n")
            log := [] } := by
  refine ⟨?_, ?_, ?_⟩
  · rintro rfl
    have hmem : key ∈ arguments := by
      have hkept : key ∈ arguments.filter (· ≠ "--group-metadata") := by
        rw [h.operands]
        exact List.mem_cons_self
      exact (List.mem_filter.mp hkept).1
    obtain ⟨front, behind, rfl⟩ := List.append_of_mem hmem
    exact ⟨front, behind, by simp⟩
  · intro htogether
    have hcanonical := WithFlags.canonical h.isKey h.isValue
    have hfront : key :: value.toList <:+: "--group-metadata" :: key :: value.toList :=
      (List.suffix_cons _ _).isInfix
    simp only [run, h.ofArguments_of_together htogether, hcanonical.ofArguments_of_together hfront]
  · rintro v rfl hapart
    simp only [run, h.ofArguments_of_apart hapart, refusalText_unrecognized]

/-- Flags on both sides of the operands, and one between them. -/
theorem run_of_flags_around_and_between :
    WithFlags "000167" (some "0000")
      ["--group-metadata", "000167", "0000", "--group-metadata"]
    ∧ ["000167", "0000"] <:+: ["--group-metadata", "000167", "0000", "--group-metadata"]
    ∧ run 80 (fun _ => none) ["--group-metadata", "000167", "0000", "--group-metadata"]
        = run 80 (fun _ => none) ["--group-metadata", "000167", "0000"]
    ∧ WithFlags "000167" (some "0000") ["000167", "--group-metadata", "0000"]
    ∧ ¬ ["000167", "0000"] <:+: ["000167", "--group-metadata", "0000"]
    ∧ run 80 (fun _ => none) ["000167", "--group-metadata", "0000"]
        = .ok
          { exitCode := 2
            output := ""
            refusal := some
              ("usage: groupmeta [-h] [--group-metadata] key [value]\n"
                ++ "groupmeta: error: unrecognized arguments: " ++ "0000" ++ "\n")
            log := [] } := by
  have hvalue : ∀ v, some "0000" = some v → IsOperand v := by
    rintro v ⟨⟩
    decide
  have haround : WithFlags "000167" (some "0000")
      ["--group-metadata", "000167", "0000", "--group-metadata"] :=
    ⟨by decide, hvalue, by decide, by decide⟩
  have hbetween : WithFlags "000167" (some "0000") ["000167", "--group-metadata", "0000"] :=
    ⟨by decide, hvalue, by decide, by decide⟩
  have htogether : ["000167", "0000"]
      <:+: ["--group-metadata", "000167", "0000", "--group-metadata"] := by decide
  have hapart : ¬ ["000167", "0000"] <:+: ["000167", "--group-metadata", "0000"] := by decide
  have husage : usage 80 = "usage: groupmeta [-h] [--group-metadata] key [value]\n" := by
    decide +kernel
  rw [← husage]
  exact ⟨haround, htogether, (run_of_flags 80 _ haround).2.1 htogether, hbetween, hapart,
    (run_of_flags 80 _ hbetween).2.2 _ rfl hapart⟩

/-- A group without members, once with the flag between its key and its value and once with the flag
in front: the first is refused and the second decoded. -/
theorem not_forall_run_of_flags :
    ¬ ∀ (columns : Nat) (env : Environment) (key : String) (value : Option String)
        (arguments : List String), WithFlags key value arguments →
      run columns env arguments = run columns env ("--group-metadata" :: key :: value.toList) := by
  intro hsame
  have hflags : WithFlags "000167" (some "00000000000000000000000000000000")
      ["000167", "--group-metadata", "00000000000000000000000000000000"] :=
    ⟨by decide, by rintro v ⟨⟩; decide, by decide, by decide⟩
  have hrefused : (run 80 (fun _ => none)
      ["000167", "--group-metadata", "00000000000000000000000000000000"]).map Report.exitCode
        = .ok 2 := by decide +kernel
  have hdecoded : (run 80 (fun _ => none)
      ["--group-metadata", "000167", "00000000000000000000000000000000"]).map Report.exitCode
        = .ok 0 := by decide +kernel
  have hcodes := congrArg (Except.map Report.exitCode) (hsame 80 (fun _ => none) _ _ _ hflags)
  rw [hrefused] at hcodes
  cases hcodes.trans hdecoded

end CommandLine

end Arguments

end ConsumerOffsets
