/-
# What a layout keeps

Help and usage are laid out for the columns of the terminal.  What is laid out is the same for every
number of columns, for the layout puts in and leaves out nothing but blanks and line breaks: with the
blanks left out, the characters of the help text are the same (`CommandLine.ink_help`).

Lines are filled step by step, so what a step does to the characters is said first, for each kind of
step, and then for all of them by induction on what is put into lines.
-/
import Mathlib.Data.List.Basic
import ConsumerOffsets.CommandLine

namespace ConsumerOffsets.Text

/-! ## 1. Characters that are seen -/

/-- The characters that are neither blanks nor line breaks. -/
def seen (cs : List Char) : List Char := cs.filter fun c => c ≠ ' ' ∧ c ≠ '\n'

/-- The same of a text. -/
def ink (text : String) : List Char := seen text.toList

@[simp] theorem seen_nil : seen [] = [] := rfl

@[simp] theorem seen_append (front back : List Char) : seen (front ++ back) = seen front ++ seen back :=
  List.filter_append ..

theorem ink_append (front back : String) : ink (front ++ back) = ink front ++ ink back := by
  rw [ink, String.toList_append, seen_append, ink, ink]

@[simp] theorem seen_blank : seen [' '] = [] := by decide

theorem seen_cons_blank (cs : List Char) : seen (' ' :: cs) = seen cs :=
  List.filter_cons_of_neg (by decide)

theorem seen_cons (c : Char) (cs : List Char) : seen (c :: cs) = seen [c] ++ seen cs :=
  seen_append [c] cs

/-- What is seen of lines. -/
def seenIn (lines : List (List Char)) : List Char := lines.flatMap seen

@[simp] theorem seenIn_append (front back : List (List Char)) :
    seenIn (front ++ back) = seenIn front ++ seenIn back :=
  List.flatMap_append

@[simp] theorem seenIn_cons (line : List Char) (lines : List (List Char)) :
    seenIn (line :: lines) = seen line ++ seenIn lines := rfl

@[simp] theorem seenIn_nil : seenIn [] = [] := rfl

/-- Of the characters of a text in lines only line breaks are not seen in the lines. -/
theorem ink_unlines (lines : List (List Char)) : ink (unlines lines) = seenIn lines := by
  rw [ink, unlines, String.toList_ofList]
  induction lines with
  | nil => rfl
  | cons line lines ih =>
    have hbreak : seen ['\n'] = [] := by decide
    rw [List.flatMap_cons, seen_append, ih, seen_append, hbreak, List.append_nil, seenIn_cons]

/-! ## 2. Lines that are filled -/

namespace Paragraph

/-- What is seen of all lines. -/
def seen (paragraph : Paragraph) : List Char := seenIn paragraph.lines

@[simp] theorem seen_write (paragraph : Paragraph) (text : List Char) :
    (paragraph.write text).seen = paragraph.seen ++ Text.seen text := by
  simp [seen, lines, write]

@[simp] theorem seen_breakLine (paragraph : Paragraph) (text : List Char) :
    (paragraph.breakLine text).seen = paragraph.seen ++ Text.seen text := by
  simp [seen, lines, breakLine]

theorem seen_addChar (width : Nat) (paragraph : Paragraph) (c : Char) :
    (paragraph.addChar width c).seen = paragraph.seen ++ Text.seen [c] := by
  unfold addChar
  split
  · rw [seen_write]
  · rw [seen_breakLine]

theorem seen_addBlank (width : Nat) (paragraph : Paragraph) :
    (paragraph.addBlank width).seen = paragraph.seen := by
  unfold addBlank
  split
  · rfl
  · split
    · rw [seen_write, seen_blank, List.append_nil]
    · rw [seen_breakLine, seen_nil, List.append_nil]

theorem seen_foldl_addChar (width : Nat) (word : List Char) (paragraph : Paragraph) :
    (word.foldl (addChar width) paragraph).seen = paragraph.seen ++ Text.seen word := by
  induction word generalizing paragraph with
  | nil => simp
  | cons c word ih => rw [List.foldl_cons, ih, seen_addChar, seen_cons c word, List.append_assoc]

theorem seen_addWord (width : Nat) (paragraph : Paragraph) (word : List Char) :
    (paragraph.addWord width word).seen = paragraph.seen ++ Text.seen word := by
  unfold addWord
  dsimp only
  split
  · rw [seen_write, seen_addBlank]
  · split
    · rw [seen_foldl_addChar, seen_addBlank]
    · rw [seen_breakLine]

theorem seen_addPart (width : Nat) {margin : List Char} (hmargin : Text.seen margin = [])
    (paragraph : Paragraph) (part : List Char) :
    (paragraph.addPart width margin part).seen = paragraph.seen ++ Text.seen part := by
  unfold addPart
  split
  · rw [seen_write, seen_cons_blank]
  · rw [seen_breakLine, seen_append, hmargin, List.nil_append]

/-- A step that shows what it puts into the lines, done for each of the pieces. -/
theorem seen_foldl {step : Paragraph → List Char → Paragraph}
    (hstep : ∀ paragraph piece, (step paragraph piece).seen = paragraph.seen ++ Text.seen piece)
    (pieces : List (List Char)) (paragraph : Paragraph) :
    (pieces.foldl step paragraph).seen = paragraph.seen ++ seenIn pieces := by
  induction pieces generalizing paragraph with
  | nil => simp
  | cons piece pieces ih => rw [List.foldl_cons, ih, hstep, seenIn_cons, List.append_assoc]

end Paragraph

/-- Words are the text without the blanks between them. -/
theorem seenIn_splitOn (text : List Char) : seenIn (text.splitOn ' ') = seen text := by
  induction text with
  | nil => rfl
  | cons c text ih =>
    rw [List.splitOn, List.splitOnP_cons_eq_if_modifyHead]
    split
    · next hblank =>
      obtain rfl : c = ' ' := by simpa using hblank
      rw [seen_cons_blank, ← ih]
      rfl
    · obtain ⟨word, others, heq⟩ := List.exists_cons_of_ne_nil (List.splitOnP_ne_nil (· == ' ') text)
      rw [List.splitOn, heq, seenIn_cons] at ih
      rw [heq, List.modifyHead_cons, seenIn_cons, seen_cons c word, seen_cons c text, ← ih,
        List.append_assoc]

theorem seenIn_wrap (width : Nat) (text : String) : seenIn (wrap width text) = ink text := by
  have hwords :=
    Paragraph.seen_foldl (Paragraph.seen_addWord width) (text.toList.splitOn ' ') {}
  rw [seenIn_splitOn] at hwords
  exact hwords

theorem seenIn_wrapParts (width : Nat) (front : List Char) {margin : List Char}
    (hmargin : seen margin = []) {parts : List (List Char)} (hne : parts ≠ []) :
    seenIn (wrapParts width front margin parts) = seen front ++ seenIn parts := by
  cases parts with
  | nil => exact absurd rfl hne
  | cons part parts =>
    have hparts := Paragraph.seen_foldl (Paragraph.seen_addPart width hmargin) parts
      { current := front ++ part }
    refine hparts.trans ?_
    simp [Paragraph.seen, Paragraph.lines]

end ConsumerOffsets.Text

/-! ## 3. Help and usage -/

namespace ConsumerOffsets.CommandLine

open Text

theorem seen_margin (size : Nat) : seen (margin size) = [] := by
  rw [seen, List.filter_eq_nil_iff]
  intro c hc
  rw [List.eq_of_mem_replicate hc]
  decide

/-- What is seen of the usage, whatever its lines are. -/
theorem seenIn_usageLines (width : Nat) :
    seenIn (usageLines width) = "usage:groupmeta[-h][--group-metadata]key[value]".toList := by
  have hoptions : optionParts.map String.toList ≠ [] := by decide
  have hoperands : operandParts.map String.toList ≠ [] := by decide
  have hboth : optionParts.map String.toList ++ operandParts.map String.toList ≠ [] := by decide
  unfold usageLines
  dsimp only
  split
  · decide +kernel
  · split
    · rw [seenIn_append, seenIn_wrapParts _ _ (seen_margin _) (List.cons_ne_nil _ _),
        seenIn_wrapParts _ _ (seen_margin _) hoperands, seen_margin]
      decide +kernel
    · rw [seenIn_cons]
      split
      · rw [seenIn_wrapParts _ _ (seen_margin _) hboth, seen_margin]
        decide +kernel
      · rw [seenIn_append, seenIn_wrapParts _ _ (seen_margin _) hoptions,
          seenIn_wrapParts _ _ (seen_margin _) hoperands, seen_margin]
        decide +kernel

/-- The same refusal is shown for every number of columns. -/
theorem ink_refusalText (columns columns' : Nat) (refusal : Refusal) :
    ink (refusalText columns refusal) = ink (refusalText columns' refusal) := by
  simp only [refusalText, usage, ink_append, ink_unlines, seenIn_usageLines]

theorem seenIn_map_margin (size : Nat) (lines : List (List Char)) :
    seenIn (lines.map (margin size ++ ·)) = seenIn lines := by
  induction lines with
  | nil => rfl
  | cons line lines ih =>
    rw [List.map_cons, seenIn_cons, seenIn_cons, seen_append, seen_margin, List.nil_append, ih]

theorem seenIn_helpLines (width : Nat) (name text : String) :
    seenIn (helpLines width name text) = ink name ++ ink text := by
  have hname : seen (margin 2 ++ name.toList) = ink name := by
    rw [seen_append, seen_margin, List.nil_append, ink]
  have hlines := seenIn_wrap (max (width - helpColumn width) 11) text
  unfold helpLines
  dsimp only
  split
  · split
    · next hnil =>
      rw [hnil, seenIn_nil] at hlines
      rw [seenIn_cons, hname, seenIn_nil, ← hlines]
    · next first rest hcons =>
      rw [hcons, seenIn_cons] at hlines
      rw [seenIn_cons, seenIn_map_margin, seen_append, seen_append, hname, seen_margin,
        List.append_nil, List.append_assoc, hlines]
  · rw [seenIn_cons, hname, seenIn_map_margin, hlines]

theorem seenIn_rows (width : Nat) (explained : List (String × String)) :
    seenIn (rows width explained) = explained.flatMap fun (name, text) => ink name ++ ink text := by
  induction explained with
  | nil => rfl
  | cons first explained ih =>
    have hrows : rows width (first :: explained)
        = helpLines width first.1 first.2 ++ rows width explained := rfl
    rw [hrows, seenIn_append, seenIn_helpLines, ih, List.flatMap_cons]

/-- The same help is shown for every number of columns. -/
theorem ink_help (columns columns' : Nat) : ink (help columns) = ink (help columns') := by
  simp only [help, ink_unlines, seenIn_append, seenIn_cons, seenIn_usageLines, seenIn_wrap, seenIn_rows]

end ConsumerOffsets.CommandLine
