/-
# Written JSON

Which texts write a value (`Json.Written`): its parts in order, with white space behind brackets and
commas where a form has it (`Json.Spacing`).  Both forms that values are written in here are of this
kind, the one on a single line (`Json.written_line`) and the one over several lines
(`Json.written_layout`), and what is said of written values holds of both.  For one thing, they are made
of ASCII characters (`Json.Written.ascii`).
-/
import ConsumerOffsets.Json.Reader

namespace ConsumerOffsets.Json

/-! ## 1. Strings and numbers -/

/-- The first half of a character beyond sixteen bits … -/
def highUnit (c : Char) : Nat := 0xD800 + (c.toNat - 0x10000) / 0x400

/-- … and the second one. -/
def lowUnit (c : Char) : Nat := 0xDC00 + (c.toNat - 0x10000) % 0x400

/-- The ways in which a character is written inside a string. -/
inductive Escaped (c : Char) : List Char → Prop where
  /-- A backslash and one character. -/
  | short {escaped : Char} (h : unescape? escaped = some c) (hc : c.toNat < 0x80)
      (hescaped : escaped.toNat < 0x80) : Escaped c ['\\', escaped]
  /-- As it is. -/
  | plain (hquote : c ≠ '"') (hslash : c ≠ '\\') (hlo : 0x20 ≤ c.toNat) (hhi : c.toNat ≤ 0x7E) :
      Escaped c [c]
  /-- As one unit of sixteen bits. -/
  | unit (h : c.toNat < 0x10000) : Escaped c (escapeUnit c.toNat)
  /-- As two. -/
  | pair (h : 0x10000 ≤ c.toNat) : Escaped c (escapeUnit (highUnit c) ++ escapeUnit (lowUnit c))

theorem escaped_escapeChar (c : Char) : Escaped c (escapeChar c) := by
  unfold escapeChar
  by_cases hquote : c = '"'
  · subst hquote
    exact .short rfl (by decide) (by decide)
  by_cases hslash : c = '\\'
  · subst hslash
    exact .short rfl (by decide) (by decide)
  by_cases hnewline : c = '\n'
  · subst hnewline
    exact .short rfl (by decide) (by decide)
  by_cases hreturn : c = '\r'
  · subst hreturn
    exact .short rfl (by decide) (by decide)
  by_cases htab : c = '\t'
  · subst htab
    exact .short rfl (by decide) (by decide)
  by_cases hbackspace : c.toNat = 8
  · obtain rfl : c = '\x08' := Char.toNat_inj.mp hbackspace
    exact .short rfl (by decide) (by decide)
  by_cases hfeed : c.toNat = 12
  · obtain rfl : c = '\x0c' := Char.toNat_inj.mp hfeed
    exact .short rfl (by decide) (by decide)
  simp only [hquote, hslash, hnewline, hreturn, htab, hbackspace, hfeed, if_false]
  split
  · next hplain => exact .plain hquote hslash hplain.1 hplain.2
  · split
    · next hunit => exact .unit hunit
    · next hpair => exact .pair (by omega)

theorem number_natCast (n : Nat) : number n = Nat.toDigits 10 n := by
  show (toString n).toList = _
  rw [Nat.toString_eq_ofList_toDigits, String.toList_ofList]

theorem number_negSucc (n : Nat) : number (Int.negSucc n) = '-' :: Nat.toDigits 10 (n + 1) := by
  have hdigits : (toString (n + 1)).toList = Nat.toDigits 10 (n + 1) := number_natCast (n + 1)
  show ("-" ++ toString (n + 1)).toList = _
  rw [String.toList_append, hdigits]
  rfl

/-! ## 2. Values -/

/-- White space, or nothing. -/
def Blank (spaces : List Char) : Prop := spaces.all isSpace = true

/-- Which white space may stand in a written value at the given depth: behind an opening bracket, behind
a comma, and in front of a closing bracket. -/
structure Spacing where
  first : Nat → List Char → Prop
  next : Nat → List Char → Prop
  last : Nat → List Char → Prop

namespace Spacing

/-- All on one line, with a space behind commas. -/
def oneLine : Spacing where
  first _ spaces := spaces = []
  next _ spaces := spaces = [' ']
  last _ spaces := spaces = []

/-- Each element or member on a line of its own, indented by two spaces a level. -/
def indented : Spacing where
  first depth spaces := spaces = '\n' :: List.replicate (2 * (depth + 1)) ' '
  next depth spaces := spaces = '\n' :: List.replicate (2 * (depth + 1)) ' '
  last depth spaces := spaces = '\n' :: List.replicate (2 * depth) ' '

/-- Nothing but white space stands there. -/
structure OfBlanks (spacing : Spacing) : Prop where
  first : ∀ {depth spaces}, spacing.first depth spaces → Blank spaces
  next : ∀ {depth spaces}, spacing.next depth spaces → Blank spaces
  last : ∀ {depth spaces}, spacing.last depth spaces → Blank spaces

theorem ofBlanks_oneLine : oneLine.OfBlanks where
  first := by
    rintro _ _ rfl
    rfl
  next := by
    rintro _ _ rfl
    rfl
  last := by
    rintro _ _ rfl
    rfl

end Spacing

theorem blank_newline (depth : Nat) : Blank (newline depth) := by
  refine List.all_eq_true.mpr fun c hc => ?_
  rcases List.mem_cons.mp hc with rfl | hc
  · rfl
  · rw [List.eq_of_mem_replicate hc]
    rfl

theorem Spacing.ofBlanks_indented : indented.OfBlanks where
  first := by
    rintro depth _ rfl
    exact blank_newline (depth + 1)
  next := by
    rintro depth _ rfl
    exact blank_newline (depth + 1)
  last := by
    rintro depth _ rfl
    exact blank_newline depth

mutual

/-- The text writes the value, at the given depth and with such white space. -/
inductive Written (spacing : Spacing) : Nat → Json → List Char → Prop where
  | null {depth : Nat} : Written spacing depth null "null".toList
  | bool {depth : Nat} (b : Bool) : Written spacing depth (bool b) (truth b)
  | int {depth : Nat} (n : Int) : Written spacing depth (int n) (number n)
  | str {depth : Nat} (s : String) : Written spacing depth (str s) (quote s)
  | emptyArr {depth : Nat} : Written spacing depth (arr []) ['[', ']']
  | arr {depth : Nat} (spaces : List Char) (hspaces : spacing.first depth spaces) {item : Json}
      {items : List Json} {text rest : List Char} (hitem : Written spacing (depth + 1) item text)
      (hitems : WrittenItems spacing depth items rest) :
      Written spacing depth (arr (item :: items)) ('[' :: spaces ++ text ++ rest)
  | emptyObj {depth : Nat} : Written spacing depth (obj []) ['\x7b', '\x7d']
  | obj {depth : Nat} (spaces : List Char) (hspaces : spacing.first depth spaces) (name : String)
      {value : Json} {members : List (String × Json)} {text rest : List Char}
      (hvalue : Written spacing (depth + 1) value text)
      (hmembers : WrittenMembers spacing depth members rest) :
      Written spacing depth (obj ((name, value) :: members))
        ('\x7b' :: spaces ++ quote name ++ [':', ' '] ++ text ++ rest)

/-- The text writes the elements behind the first, and the end of the array. -/
inductive WrittenItems (spacing : Spacing) : Nat → List Json → List Char → Prop where
  | nil {depth : Nat} (spaces : List Char) (hspaces : spacing.last depth spaces) :
      WrittenItems spacing depth [] (spaces ++ [']'])
  | cons {depth : Nat} (spaces : List Char) (hspaces : spacing.next depth spaces) {item : Json}
      {items : List Json} {text rest : List Char} (hitem : Written spacing (depth + 1) item text)
      (hitems : WrittenItems spacing depth items rest) :
      WrittenItems spacing depth (item :: items) (',' :: spaces ++ text ++ rest)

/-- The text writes the members behind the first, and the end of the object. -/
inductive WrittenMembers (spacing : Spacing) : Nat → List (String × Json) → List Char → Prop where
  | nil {depth : Nat} (spaces : List Char) (hspaces : spacing.last depth spaces) :
      WrittenMembers spacing depth [] (spaces ++ ['\x7d'])
  | cons {depth : Nat} (spaces : List Char) (hspaces : spacing.next depth spaces) (name : String)
      {value : Json} {members : List (String × Json)} {text rest : List Char}
      (hvalue : Written spacing (depth + 1) value text)
      (hmembers : WrittenMembers spacing depth members rest) :
      WrittenMembers spacing depth ((name, value) :: members)
        (',' :: spaces ++ quote name ++ [':', ' '] ++ text ++ rest)

end

mutual

theorem written_line : ∀ (depth : Nat) (j : Json), Written .oneLine depth j (line j)
  | _, null => .null
  | _, bool b => .bool b
  | _, int n => .int n
  | _, str s => .str s
  | _, arr [] => .emptyArr
  | depth, arr (item :: items) => .arr [] rfl (written_line _ item) (writtenItems_lineItems depth items)
  | _, obj [] => .emptyObj
  | depth, obj ((name, value) :: members) =>
    .obj [] rfl name (written_line _ value) (writtenMembers_lineMembers depth members)

theorem writtenItems_lineItems : ∀ (depth : Nat) (items : List Json),
    WrittenItems .oneLine depth items (lineItems items)
  | _, [] => .nil [] rfl
  | depth, item :: items => .cons [' '] rfl (written_line _ item) (writtenItems_lineItems depth items)

theorem writtenMembers_lineMembers : ∀ (depth : Nat) (members : List (String × Json)),
    WrittenMembers .oneLine depth members (lineMembers members)
  | _, [] => .nil [] rfl
  | depth, (name, value) :: members =>
    .cons [' '] rfl name (written_line _ value) (writtenMembers_lineMembers depth members)

end

mutual

theorem written_layout : ∀ (depth : Nat) (j : Json), Written .indented depth j (layout depth j)
  | _, null => .null
  | _, bool b => .bool b
  | _, int n => .int n
  | _, str s => .str s
  | _, arr [] => .emptyArr
  | depth, arr (item :: items) =>
    .arr _ rfl (written_layout _ item) (writtenItems_layoutItems depth items)
  | _, obj [] => .emptyObj
  | depth, obj ((name, value) :: members) =>
    .obj _ rfl name (written_layout _ value) (writtenMembers_layoutMembers depth members)

theorem writtenItems_layoutItems : ∀ (depth : Nat) (items : List Json),
    WrittenItems .indented depth items (layoutItems depth items)
  | _, [] => .nil _ rfl
  | depth, item :: items =>
    .cons _ rfl (written_layout _ item) (writtenItems_layoutItems depth items)

theorem writtenMembers_layoutMembers : ∀ (depth : Nat) (members : List (String × Json)),
    WrittenMembers .indented depth members (layoutMembers depth members)
  | _, [] => .nil _ rfl
  | depth, (name, value) :: members =>
    .cons _ rfl name (written_layout _ value) (writtenMembers_layoutMembers depth members)

end

/-! ## 3. Characters -/

/-- All of them are ASCII characters. -/
def Ascii (cs : List Char) : Prop := ∀ c ∈ cs, c.toNat < 0x80

instance (cs : List Char) : Decidable (Ascii cs) :=
  decidable_of_iff (cs.all fun c => c.toNat < 0x80) (by simp [Ascii])

theorem Ascii.append {front back : List Char} (hfront : Ascii front) (hback : Ascii back) :
    Ascii (front ++ back) :=
  List.forall_mem_append.mpr ⟨hfront, hback⟩

theorem Ascii.cons {cs : List Char} (hc : c.toNat < 0x80) (hcs : Ascii cs) : Ascii (c :: cs) :=
  List.forall_mem_cons.mpr ⟨hc, hcs⟩

theorem ascii_hexDigits : ∀ width n : Nat, Ascii (Text.hexDigits width n)
  | 0, _ => fun _ hc => by cases hc
  | width + 1, n => by
    have hdigit : ∀ d < 16, (Text.hexDigit d).toNat < 0x80 := by decide
    exact .cons (hdigit _ (Nat.mod_lt _ (by decide))) (ascii_hexDigits width n)

theorem ascii_escapeUnit (n : Nat) : Ascii (escapeUnit n) :=
  .cons (by decide) (.cons (by decide) (ascii_hexDigits 4 n))

theorem ascii_escapeChar (c : Char) : Ascii (escapeChar c) := by
  have hescaped := escaped_escapeChar c
  generalize escapeChar c = written at hescaped
  cases hescaped with
  | short _ _ hlt => exact .cons (by decide) (.cons hlt (fun _ hd => by cases hd))
  | plain _ _ _ hle => exact .cons (by omega) (fun _ hd => by cases hd)
  | unit => exact ascii_escapeUnit _
  | pair => exact (ascii_escapeUnit _).append (ascii_escapeUnit _)

theorem ascii_quote (s : String) : Ascii (quote s) := by
  have hinside : Ascii (s.toList.flatMap escapeChar) := fun d hd => by
    obtain ⟨c, -, hd⟩ := List.mem_flatMap.mp hd
    exact ascii_escapeChar c d hd
  exact .cons (by decide) (hinside.append (by decide))

theorem ascii_number (n : Int) : Ascii (number n) := by
  have hdigits : ∀ m, Ascii (Nat.toDigits 10 m) := fun m d hd => by
    have hdigit := Nat.isDigit_of_mem_toDigits (by decide) (by decide) hd
    simp only [Char.isDigit, Bool.and_eq_true, decide_eq_true_eq] at hdigit
    exact Nat.lt_of_le_of_lt (UInt32.le_iff_toNat_le.mp hdigit.2) (by decide)
  cases n with
  | ofNat n =>
    rw [Int.ofNat_eq_natCast, number_natCast]
    exact hdigits n
  | negSucc n =>
    rw [number_negSucc]
    exact .cons (by decide) (hdigits _)

theorem ascii_truth (b : Bool) : Ascii (truth b) := by
  cases b <;> decide

theorem Blank.ascii {spaces : List Char} (h : Blank spaces) : Ascii spaces := by
  intro c hc
  have hspace := List.all_eq_true.mp h c hc
  simp only [isSpace, Bool.or_eq_true, decide_eq_true_eq] at hspace
  rcases hspace with ((rfl | rfl) | rfl) | rfl <;> decide

/-- A name, and the colon behind it. -/
theorem ascii_name (name : String) : Ascii (quote name ++ [':', ' ']) :=
  (ascii_quote name).append (by decide)

section Written

variable {spacing : Spacing} (hspacing : spacing.OfBlanks)

include hspacing

mutual

/-- What writes a value is made of ASCII characters, whatever the strings in it are. -/
theorem Written.ascii : ∀ {depth : Nat} {j : Json} {text : List Char},
    Written spacing depth j text → Ascii text
  | _, _, _, .null => (by decide : Ascii "null".toList)
  | _, _, _, .bool b => ascii_truth b
  | _, _, _, .int n => ascii_number n
  | _, _, _, .str s => ascii_quote s
  | _, _, _, .emptyArr => (by decide : Ascii ['[', ']'])
  | _, _, _, .arr _ hspaces hitem hitems =>
    (((hspacing.first hspaces).ascii.cons (by decide)).append hitem.ascii).append hitems.ascii
  | _, _, _, .emptyObj => (by decide : Ascii ['\x7b', '\x7d'])
  | _, _, _, .obj _ hspaces name hvalue hmembers => by
    have hname := ((hspacing.first hspaces).ascii.cons
      (by decide : '\x7b'.toNat < 0x80)).append (ascii_name name)
    rw [← List.append_assoc] at hname
    exact (hname.append hvalue.ascii).append hmembers.ascii

theorem WrittenItems.ascii : ∀ {depth : Nat} {items : List Json} {text : List Char},
    WrittenItems spacing depth items text → Ascii text
  | _, _, _, .nil _ hspaces => (hspacing.last hspaces).ascii.append (by decide)
  | _, _, _, .cons _ hspaces hitem hitems =>
    (((hspacing.next hspaces).ascii.cons (by decide)).append hitem.ascii).append hitems.ascii

theorem WrittenMembers.ascii : ∀ {depth : Nat} {members : List (String × Json)}
    {text : List Char}, WrittenMembers spacing depth members text → Ascii text
  | _, _, _, .nil _ hspaces => (hspacing.last hspaces).ascii.append (by decide)
  | _, _, _, .cons _ hspaces name hvalue hmembers => by
    have hname := ((hspacing.next hspaces).ascii.cons
      (by decide : ','.toNat < 0x80)).append (ascii_name name)
    rw [← List.append_assoc] at hname
    exact (hname.append hvalue.ascii).append hmembers.ascii

end

end Written

theorem ascii_pretty (j : Json) : Ascii (j.pretty ++ "\n").toList := by
  rw [pretty, String.toList_append, String.toList_ofList]
  exact ((written_layout 0 j.sorted).ascii Spacing.ofBlanks_indented).append (by decide)

end ConsumerOffsets.Json
