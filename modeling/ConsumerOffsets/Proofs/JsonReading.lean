/-
# Written JSON is read back

A text that writes a value is read as that value (`Json.Written.read?`), with whatever white space is
behind it.  So a value comes back as it was from one line, and with its members in order from several
lines (`Json.read?_compact`, `Json.read?_pretty`); and two values that are written alike are the same
value, whatever their strings are.

The argument has two halves.  All texts that write a value are cut into the same lexemes
(`Json.lexemes`, `Json.Written.lex?`): they differ in white space alone.  Each part of the text is
followed by one that it cannot run into; only for words this has to be said (`Json.Separated`).  And
the lexemes of a value, taken in any state in which a value may come, leave that value behind
(`Json.Reading.run_lexemes`).
-/
import Mathlib.Tactic.Ring
import ConsumerOffsets.Proofs.WrittenJson

namespace ConsumerOffsets.Json

/-! ## 1. Strings -/

theorem hexDigits_succ (width n : Nat) : Text.hexDigits (width + 1) n
    = Text.hexDigit (n / 16 ^ width % 16) :: Text.hexDigits width n :=
  rfl

/-- The digits of a number are read back, behind the digits that were read before. -/
theorem foldlM_hexDigits : ∀ width n acc : Nat,
    (Text.hexDigits width n).foldlM (fun n digit => (Text.hexValue? digit).map (16 * n + ·)) acc
      = some (acc * 16 ^ width + n % 16 ^ width)
  | 0, n, acc => by
    rw [Nat.pow_zero, Nat.mul_one, Nat.mod_one, Nat.add_zero]
    rfl
  | width + 1, n, acc => by
    have hdigit : Text.hexValue? (Text.hexDigit (n / 16 ^ width % 16))
        = some (n / 16 ^ width % 16) :=
      Text.hexValue?_hexDigit ⟨_, Nat.mod_lt _ (by decide)⟩
    have hsplit : n % 16 ^ (width + 1) = n % 16 ^ width + 16 ^ width * (n / 16 ^ width % 16) := by
      rw [Nat.pow_succ, Nat.mod_mul]
    rw [hexDigits_succ, List.foldlM_cons, hdigit]
    show (Text.hexDigits width n).foldlM _ (16 * acc + n / 16 ^ width % 16) = _
    rw [foldlM_hexDigits width n, hsplit, Nat.pow_succ]
    congr 1
    ring

theorem hexNumber?_hexDigits {n : Nat} (h : n < 0x10000) :
    hexNumber? (Text.hexDigits 4 n) = some n := by
  have hmod : n % 16 ^ 4 = n := Nat.mod_eq_of_lt h
  rw [hexNumber?, foldlM_hexDigits, Nat.zero_mul, Nat.zero_add, hmod]

/-- The units as which a character is written. -/
def unitsOf (c : Char) : List Nat :=
  if c.toNat < 0x10000 then [c.toNat] else [highUnit c, lowUnit c]

variable {c : Char} {rest after : List Char} {units : List Nat}

theorem units?_escapeUnit {n : Nat} (hn : n < 0x10000) (h : units? rest = some (units, after)) :
    units? (escapeUnit n ++ rest) = some (n :: units, after) := by
  have hnumber := hexNumber?_hexDigits hn
  obtain ⟨a, b, c, d, hdigits⟩ : ∃ a b c d, Text.hexDigits 4 n = [a, b, c, d] :=
    ⟨_, _, _, _, rfl⟩
  rw [hdigits] at hnumber
  rw [escapeUnit, hdigits]
  simp only [List.cons_append, List.nil_append, units?, hnumber, h]
  rfl

theorem units?_escaped {escaped : Char} (hc : unescape? escaped = some c)
    (h : units? rest = some (units, after)) :
    units? ('\\' :: escaped :: rest) = some (c.toNat :: units, after) := by
  have hu : escaped ≠ 'u' := by
    rintro rfl
    cases hc
  rw [units?, hc, h]
  · rfl
  · rintro _ _ _ _ _ rfl
    exact absurd rfl hu

/-- A character that is written as it is. -/
theorem units?_cons (hquote : c ≠ '"') (hslash : c ≠ '\\') (hlow : 0x20 ≤ c.toNat)
    (h : units? rest = some (units, after)) :
    units? (c :: rest) = some (c.toNat :: units, after) := by
  rw [units?, if_neg (Nat.not_lt.mpr hlow), h]
  · rfl
  · exact hquote
  all_goals simp [hslash]

/-- A code point is small enough, and none of those that are halves of characters. -/
theorem toNat_range (c : Char) : c.toNat < 0xD800 ∨ (0xDFFF < c.toNat ∧ c.toNat < 0x110000) := by
  have h := c.valid
  simp only [UInt32.isValidChar, Nat.isValidChar] at h
  exact h

/-- Every character is read as its units. -/
theorem units?_escapeChar (c : Char) (h : units? rest = some (units, after)) :
    units? (escapeChar c ++ rest) = some (unitsOf c ++ units, after) := by
  have hrange := toNat_range c
  have hone : c.toNat < 0x10000 → unitsOf c = [c.toNat] := fun hlt => if_pos hlt
  have hescaped := escaped_escapeChar c
  generalize escapeChar c = written at hescaped
  cases hescaped with
  | short hc hlt _ =>
    rw [hone (by omega)]
    exact units?_escaped hc h
  | plain hquote hslash hlo hhi =>
    rw [hone (by omega)]
    exact units?_cons hquote hslash hlo h
  | unit hlt =>
    rw [hone hlt]
    exact units?_escapeUnit hlt h
  | pair hge =>
    rw [unitsOf, if_neg (by omega), List.append_assoc]
    have hlow : lowUnit c < 0x10000 := by
      rw [lowUnit]
      omega
    have hhigh : highUnit c < 0x10000 := by
      rw [highUnit]
      omega
    exact units?_escapeUnit hhigh (units?_escapeUnit hlow h)

theorem char?_toNat (c : Char) : char? c.toNat = some c := by
  have hvalid : c.toNat.isValidChar := c.valid
  rw [char?, if_pos hvalid, Char.ofNat_toNat]

/-- The units of a character are that character again, whatever units follow. -/
theorem chars?_unitsOf (c : Char) {cs : List Char} (h : chars? units = some cs) :
    chars? (unitsOf c ++ units) = some (c :: cs) := by
  have hrange := toNat_range c
  by_cases hlt : c.toNat < 0x10000
  · have hhigh : isHigh c.toNat = false := by
      simp only [isHigh, Bool.and_eq_false_iff, decide_eq_false_iff_not]
      omega
    rw [unitsOf, if_pos hlt, List.singleton_append]
    cases units with
    | nil =>
      cases h
      rw [chars?, char?_toNat]
      rfl
    | cons next units =>
      rw [chars?, hhigh, Bool.false_and, if_neg Bool.false_ne_true, char?_toNat, h]
      rfl
  · have hpair : (isHigh (highUnit c) && isLow (lowUnit c)) = true := by
      simp only [isHigh, isLow, Bool.and_eq_true, decide_eq_true_eq]
      rw [highUnit, lowUnit]
      omega
    have hjoin : 0x10000 + (highUnit c - 0xD800) * 0x400 + (lowUnit c - 0xDC00) = c.toNat := by
      rw [highUnit, lowUnit]
      omega
    rw [unitsOf, if_neg hlt]
    show chars? (highUnit c :: lowUnit c :: units) = _
    rw [chars?, if_pos hpair, hjoin, char?_toNat, h]
    rfl

/-- The inside of a written string. -/
theorem exists_units?_flatMap_escapeChar (rest : List Char) : ∀ cs : List Char,
    ∃ units, units? (cs.flatMap escapeChar ++ '"' :: rest) = some (units, rest)
      ∧ chars? units = some cs
  | [] => ⟨[], by rw [List.flatMap_nil, List.nil_append, units?], rfl⟩
  | c :: cs => by
    obtain ⟨units, hunits, hchars⟩ := exists_units?_flatMap_escapeChar rest cs
    refine ⟨unitsOf c ++ units, ?_, chars?_unitsOf c hchars⟩
    rw [List.flatMap_cons, List.append_assoc]
    exact units?_escapeChar c hunits

/-- A written string is read back, behind its first quote. -/
theorem string?_escaped (s : String) (rest : List Char) :
    string? (s.toList.flatMap escapeChar ++ '"' :: rest) = some (s, rest) := by
  obtain ⟨units, hunits, hchars⟩ := exists_units?_flatMap_escapeChar rest s.toList
  rw [string?, hunits]
  show (do return (String.ofList (← chars? units), rest)) = _
  rw [hchars]
  show some (String.ofList s.toList, rest) = _
  rw [String.ofList_toList]

example : string? "\\ud83d\\ude00\",".toList = some ("😀", [',']) := by decide +kernel

/-! ## 2. Words -/

/-- The digits of a number do not begin with a zero, unless it is zero. -/
theorem head?_toDigits_ne {n : Nat} (h : 0 < n) : (Nat.toDigits 10 n).head? ≠ some '0' := by
  have hdigit : ∀ d < 10, 0 < d → Nat.digitChar d ≠ '0' := by decide
  induction n using Nat.strongRecOn with
  | ind n ih =>
    rcases Nat.lt_or_ge n 10 with hlt | hge
    · rw [Nat.toDigits_of_lt_base hlt, List.head?_cons]
      exact fun heq => hdigit n hlt h (Option.some.inj heq)
    · have hhead := ih (n / 10) (by omega) (by omega)
      obtain ⟨digit, digits, hdigits⟩ :=
        List.exists_cons_of_ne_nil (Nat.toDigits_ne_nil : Nat.toDigits 10 (n / 10) ≠ [])
      rw [hdigits] at hhead
      rw [Nat.toDigits_of_base_le (by decide) hge, hdigits]
      exact hhead

theorem natural?_toDigits (n : Nat) : natural? (Nat.toDigits 10 n) = some n := by
  have hdigits : (Nat.toDigits 10 n).all Char.isDigit = true := by
    rw [List.all_eq_true]
    exact fun c hc => Nat.isDigit_of_mem_toDigits (by decide) (by decide) hc
  have hzero : (Nat.toDigits 10 n).head? = some '0' → Nat.toDigits 10 n = ['0'] := by
    intro hhead
    rcases Nat.eq_zero_or_pos n with rfl | hpos
    · rfl
    · exact absurd hhead (head?_toDigits_ne hpos)
  rw [natural?, if_pos ⟨Nat.toDigits_ne_nil, hdigits, hzero⟩, Nat.ofDigitChars_ten_toDigits]

/-- Digits are a number and no other word. -/
theorem word?_of_digits {digits : List Char} {n : Nat} (h : natural? digits = some n) :
    word? digits = some (int n) := by
  have hdigits : digits.all Char.isDigit = true := by
    unfold natural? at h
    split at h
    · next hnumber => exact hnumber.2.1
    · cases h
  rw [word?, h]
  · rfl
  all_goals
    intros
    subst digits
    simp [Char.isDigit] at hdigits

/-- A written number is read back. -/
theorem word?_number : ∀ n : Int, word? (number n) = some (int n)
  | .ofNat n => by
    rw [Int.ofNat_eq_natCast, number_natCast]
    exact word?_of_digits (natural?_toDigits n)
  | .negSucc n => by
    rw [number_negSucc, word?, natural?_toDigits]
    rfl

/-! ## 3. Lexemes -/

/-- A word that stands in front of this text ends there. -/
def Separated (rest : List Char) : Prop := ∀ c ∈ rest.head?, isWordChar c = false

theorem separated_nil : Separated [] := fun _ hc => by cases hc

theorem separated_cons (hc : isWordChar c = false) (rest : List Char) : Separated (c :: rest) := by
  intro d hd
  cases hd
  exact hc

/-- A character of a word is neither white space nor a lexeme by itself, and begins no string. -/
theorem class_of_isWordChar (hc : isWordChar c = true) :
    isSpace c = false ∧ mark? c = none ∧ c ≠ '"' := by
  refine ⟨?_, ?_, ?_⟩
  · by_contra hspace
    simp only [isSpace, Bool.not_eq_false, Bool.or_eq_true, decide_eq_true_eq] at hspace
    rcases hspace with ((rfl | rfl) | rfl) | rfl <;> cases hc
  · unfold mark?
    split <;> first | rfl | cases hc
  · rintro rfl
    cases hc

variable {ls : List Lexeme}

theorem lex?_spaces {spaces : List Char} (hspaces : Blank spaces)
    (rest : List Char) : lex? (spaces ++ rest) = lex? rest := by
  induction spaces with
  | nil => rfl
  | cons c spaces ih =>
    obtain ⟨hc, hspaces⟩ := Bool.and_eq_true_iff.mp hspaces
    rw [List.cons_append, lex?, if_pos hc]
    exact ih hspaces

theorem lex?_mark {mark : Lexeme} (hmark : mark? c = some mark) (h : lex? rest = some ls) :
    lex? (c :: rest) = some (mark :: ls) := by
  have hspace : isSpace c = false := by
    by_contra hspace
    simp only [isSpace, Bool.not_eq_false, Bool.or_eq_true, decide_eq_true_eq] at hspace
    rcases hspace with ((rfl | rfl) | rfl) | rfl <;> cases hmark
  rw [lex?, hspace, if_neg Bool.false_ne_true, hmark, h]
  rfl

theorem lex?_quote (s : String) (h : lex? rest = some ls) :
    lex? (quote s ++ rest) = some (.text s :: ls) := by
  have hstring := string?_escaped s rest
  have htext : quote s ++ rest = '"' :: (s.toList.flatMap escapeChar ++ '"' :: rest) := by
    simp [quote]
  have hmark : mark? '"' = none := rfl
  rw [htext, lex?, if_neg (by decide), hmark]
  dsimp only
  rw [if_pos rfl]
  split
  · next hread =>
    cases hread.symm.trans hstring
    rw [h]
    rfl
  · next hread => cases hread.symm.trans hstring

theorem lex?_word {word : List Char} {value : Json} (hword : word? (c :: word) = some value)
    (hchars : (c :: word).all isWordChar = true) (hrest : Separated rest)
    (h : lex? rest = some ls) :
    lex? (c :: word ++ rest) = some (.word value :: ls) := by
  obtain ⟨hc, hchars⟩ := Bool.and_eq_true_iff.mp hchars
  obtain ⟨hspace, hmark, hquote⟩ := class_of_isWordChar hc
  have hword' : ∀ d ∈ word, isWordChar d = true := List.all_eq_true.mp hchars
  have hstop : rest.takeWhile isWordChar = [] ∧ rest.dropWhile isWordChar = rest := by
    cases rest with
    | nil => exact ⟨rfl, rfl⟩
    | cons d rest =>
      have hd : isWordChar d = false := hrest d rfl
      exact ⟨List.takeWhile_cons_of_neg (by simp [hd]), List.dropWhile_cons_of_neg (by simp [hd])⟩
  rw [List.cons_append, lex?, hspace, if_neg Bool.false_ne_true, hmark, if_neg hquote,
    List.takeWhile_append_of_pos hword', List.dropWhile_append_of_pos hword', hstop.1, hstop.2,
    List.append_nil, hword, h]
  rfl

theorem lex?_number (n : Int) (hrest : Separated rest) (h : lex? rest = some ls) :
    lex? (number n ++ rest) = some (.word (int n) :: ls) := by
  have hdigit : ∀ m, ∀ d ∈ Nat.toDigits 10 m, isWordChar d = true := by
    intro m d hd
    have hd := Nat.isDigit_of_mem_toDigits (by decide) (by decide) hd
    simp [isWordChar, Char.isAlphanum, hd]
  have hchars : ∀ d ∈ number n, isWordChar d = true := by
    cases n with
    | ofNat n =>
      rw [Int.ofNat_eq_natCast, number_natCast]
      exact hdigit n
    | negSucc n =>
      rw [number_negSucc]
      rintro d (_ | ⟨_, hd⟩)
      · rfl
      · exact hdigit (n + 1) d hd
  have hword := word?_number n
  generalize number n = word at hword hchars
  cases word with
  | nil => cases hword
  | cons c word => exact lex?_word hword (List.all_eq_true.mpr hchars) hrest h

theorem lex?_truth (b : Bool) (hrest : Separated rest) (h : lex? rest = some ls) :
    lex? (truth b ++ rest) = some (.word (bool b) :: ls) := by
  cases b with
  | false => exact lex?_word (c := 'f') rfl (by decide) hrest h
  | true => exact lex?_word (c := 't') rfl (by decide) hrest h

theorem lex?_null (hrest : Separated rest) (h : lex? rest = some ls) :
    lex? ("null".toList ++ rest) = some (.word null :: ls) :=
  lex?_word (c := 'n') rfl (by decide) hrest h

mutual

/-- The lexemes of a written value. -/
def lexemes : Json → List Lexeme
  | null => [.word null]
  | bool b => [.word (bool b)]
  | int n => [.word (int n)]
  | str s => [.text s]
  | arr [] => [.arrayBegin, .arrayEnd]
  | arr (item :: items) => .arrayBegin :: lexemes item ++ itemLexemes items
  | obj [] => [.objectBegin, .objectEnd]
  | obj ((name, value) :: members) =>
    .objectBegin :: .text name :: .colon :: lexemes value ++ memberLexemes members

/-- Those of the elements behind the first, and of the end of the array. -/
def itemLexemes : List Json → List Lexeme
  | [] => [.arrayEnd]
  | item :: items => .comma :: lexemes item ++ itemLexemes items

/-- Those of the members behind the first, and of the end of the object. -/
def memberLexemes : List (String × Json) → List Lexeme
  | [] => [.objectEnd]
  | (name, value) :: members =>
    .comma :: .text name :: .colon :: lexemes value ++ memberLexemes members

end

/-- The name of a member, and what stands between it and the value. -/
theorem lex?_name (name : String) (h : lex? rest = some ls) :
    lex? (quote name ++ ([':', ' '] ++ rest)) = some (.text name :: .colon :: ls) := by
  have hspace : lex? ([' '] ++ rest) = some ls := by rwa [lex?_spaces (rfl : Blank [' '])]
  exact lex?_quote name (lex?_mark rfl hspace)

theorem isWordChar_of_isSpace (h : isSpace c = true) : isWordChar c = false := by
  by_contra hword
  rw [Bool.not_eq_false] at hword
  exact absurd h (Bool.eq_false_iff.mp (class_of_isWordChar hword).1)

/-- White space ends a word too. -/
theorem Separated.behind_spaces {spaces : List Char} (hrest : Separated rest)
    (hspaces : Blank spaces) : Separated (spaces ++ rest) := by
  cases spaces with
  | nil => exact hrest
  | cons space spaces =>
    exact separated_cons (isWordChar_of_isSpace (Bool.and_eq_true_iff.mp hspaces).1) _

section Written

variable {spacing : Spacing} (hspacing : spacing.OfBlanks)

include hspacing

theorem WrittenItems.separated {depth : Nat} {items : List Json} {text : List Char}
    (h : WrittenItems spacing depth items text) (rest : List Char) : Separated (text ++ rest) := by
  cases h with
  | nil spaces hspaces =>
    rw [List.append_assoc]
    exact (separated_cons rfl rest).behind_spaces (hspacing.last hspaces)
  | cons => exact separated_cons rfl _

theorem WrittenMembers.separated {depth : Nat} {members : List (String × Json)} {text : List Char}
    (h : WrittenMembers spacing depth members text) (rest : List Char) : Separated (text ++ rest) := by
  cases h with
  | nil spaces hspaces =>
    rw [List.append_assoc]
    exact (separated_cons rfl rest).behind_spaces (hspacing.last hspaces)
  | cons => exact separated_cons rfl _

mutual

/-- A text that writes a value has the value's lexemes. -/
theorem Written.lex? : ∀ {depth : Nat} {j : Json} {text rest : List Char} {ls : List Lexeme},
    Written spacing depth j text → Separated rest → Json.lex? rest = some ls →
      Json.lex? (text ++ rest) = some (lexemes j ++ ls)
  | _, _, _, _, _, .null, hrest, h => lex?_null hrest h
  | _, _, _, _, _, .bool b, hrest, h => lex?_truth b hrest h
  | _, _, _, _, _, .int n, hrest, h => lex?_number n hrest h
  | _, _, _, _, _, .str s, _, h => lex?_quote s h
  | _, _, _, _, _, .emptyArr, _, h => lex?_mark rfl (lex?_mark rfl h)
  | _, _, _, rest, _, .arr _ hspaces hitem hitems, _, h => by
    have hlex := hitem.lex? (hitems.separated hspacing rest) (hitems.lex? h)
    simp only [lexemes, List.cons_append, List.append_assoc]
    refine lex?_mark rfl ?_
    rwa [lex?_spaces (hspacing.first hspaces)]
  | _, _, _, _, _, .emptyObj, _, h => lex?_mark rfl (lex?_mark rfl h)
  | _, _, _, rest, _, .obj _ hspaces name hvalue hmembers, _, h => by
    have hlex := hvalue.lex? (hmembers.separated hspacing rest) (hmembers.lex? h)
    simp only [lexemes, List.cons_append, List.append_assoc]
    refine lex?_mark rfl ?_
    rw [lex?_spaces (hspacing.first hspaces)]
    exact lex?_name name hlex

/-- Those of the elements behind the first. -/
theorem WrittenItems.lex? : ∀ {depth : Nat} {items : List Json} {text rest : List Char}
    {ls : List Lexeme}, WrittenItems spacing depth items text → Json.lex? rest = some ls →
      Json.lex? (text ++ rest) = some (itemLexemes items ++ ls)
  | _, _, _, _, _, .nil _ hspaces, h => by
    rw [List.append_assoc, lex?_spaces (hspacing.last hspaces)]
    exact lex?_mark rfl h
  | _, _, _, rest, _, .cons _ hspaces hitem hitems, h => by
    have hlex := hitem.lex? (hitems.separated hspacing rest) (hitems.lex? h)
    simp only [itemLexemes, List.cons_append, List.append_assoc]
    refine lex?_mark rfl ?_
    rwa [lex?_spaces (hspacing.next hspaces)]

/-- Those of the members behind the first. -/
theorem WrittenMembers.lex? : ∀ {depth : Nat} {members : List (String × Json)}
    {text rest : List Char} {ls : List Lexeme}, WrittenMembers spacing depth members text →
      Json.lex? rest = some ls → Json.lex? (text ++ rest) = some (memberLexemes members ++ ls)
  | _, _, _, _, _, .nil _ hspaces, h => by
    rw [List.append_assoc, lex?_spaces (hspacing.last hspaces)]
    exact lex?_mark rfl h
  | _, _, _, rest, _, .cons _ hspaces name hvalue hmembers, h => by
    have hlex := hvalue.lex? (hmembers.separated hspacing rest) (hmembers.lex? h)
    simp only [memberLexemes, List.cons_append, List.append_assoc]
    refine lex?_mark rfl ?_
    rw [lex?_spaces (hspacing.next hspaces)]
    exact lex?_name name hlex

end

end Written

/-! ## 4. Values -/

namespace Reading

theorem run_of_step {reading next : Reading} {lexeme : Lexeme}
    (h : reading.step lexeme = some next) (rest : List Lexeme) :
    reading.run (lexeme :: rest) = next.run rest := by
  rw [run, h]
  rfl

/-- A value does not begin like the end of an array, so it may come first. -/
theorem run_firstItem (j : Json) (frames : List Frame) (rest : List Lexeme) :
    (firstItem frames).run (lexemes j ++ rest)
      = (value (.array [] :: frames)).run (lexemes j ++ rest) := by
  cases j with
  | arr items => cases items <;> rfl
  | obj members => cases members <;> rfl
  | _ => rfl

mutual

/-- The lexemes of a value leave it behind, whatever is open around it. -/
theorem run_lexemes : ∀ (j : Json) (frames : List Frame) (rest : List Lexeme),
    (value frames).run (lexemes j ++ rest) = (behind j frames).run rest
  | null, _, _ => rfl
  | bool _, _, _ => rfl
  | int _, _, _ => rfl
  | str _, _, _ => rfl
  | arr [], _, _ => rfl
  | arr (item :: items), frames, rest => by
    have hitem := run_lexemes item (.array [] :: frames) (itemLexemes items ++ rest)
    rw [lexemes]
    simp only [List.cons_append, List.append_assoc]
    rw [run_of_step rfl, run_firstItem, hitem, run_itemLexemes]
    rfl
  | obj [], _, _ => rfl
  | obj ((key, item) :: members), frames, rest => by
    have hitem := run_lexemes item (.object [] key :: frames) (memberLexemes members ++ rest)
    rw [lexemes]
    simp only [List.cons_append, List.append_assoc]
    rw [run_of_step rfl, run_of_step rfl, run_of_step rfl, hitem, run_memberLexemes]
    rfl

/-- Those of the elements behind one complete the array. -/
theorem run_itemLexemes : ∀ (items : List Json) (item : Json) (complete : List Json)
    (frames : List Frame) (rest : List Lexeme),
    (behind item (.array complete :: frames)).run (itemLexemes items ++ rest)
      = (behind (.arr (complete.reverse ++ item :: items)) frames).run rest
  | [], item, complete, frames, rest => by
    have hreverse : (item :: complete).reverse = complete.reverse ++ [item] := List.reverse_cons
    rw [itemLexemes, List.singleton_append, run_of_step rfl, hreverse]
  | next :: items, item, complete, frames, rest => by
    have hnext := run_lexemes next (.array (item :: complete) :: frames) (itemLexemes items ++ rest)
    rw [itemLexemes]
    simp only [List.cons_append, List.append_assoc]
    rw [run_of_step rfl, hnext, run_itemLexemes, List.reverse_cons, List.append_assoc]
    rfl

/-- Those of the members behind one complete the object. -/
theorem run_memberLexemes : ∀ (members : List (String × Json)) (item : Json) (key : String)
    (complete : List (String × Json)) (frames : List Frame) (rest : List Lexeme),
    (behind item (.object complete key :: frames)).run (memberLexemes members ++ rest)
      = (behind (.obj (complete.reverse ++ (key, item) :: members)) frames).run rest
  | [], item, key, complete, frames, rest => by
    have hreverse : ((key, item) :: complete).reverse = complete.reverse ++ [(key, item)] :=
      List.reverse_cons
    rw [memberLexemes, List.singleton_append, run_of_step rfl, hreverse]
  | (nextKey, next) :: members, item, key, complete, frames, rest => by
    have hnext := run_lexemes next (.object ((key, item) :: complete) nextKey :: frames)
      (memberLexemes members ++ rest)
    rw [memberLexemes]
    simp only [List.cons_append, List.append_assoc]
    rw [run_of_step rfl, run_of_step rfl, run_of_step rfl, hnext, run_memberLexemes,
      List.reverse_cons, List.append_assoc]
    rfl

end

end Reading

/-- A text that writes a value is read as that value, whatever white space is behind it. -/
theorem Written.read? {spacing : Spacing} (hspacing : spacing.OfBlanks) {depth : Nat} {j : Json}
    {text spaces : List Char} (h : Written spacing depth j text) (hspaces : Blank spaces) :
    Json.read? (String.ofList (text ++ spaces)) = some j := by
  have hseparated := separated_nil.behind_spaces hspaces
  have hend : Json.lex? (spaces ++ []) = some [] := by rw [lex?_spaces hspaces, Json.lex?]
  have hlex := h.lex? hspacing hseparated hend
  have hrun := Reading.run_lexemes j [] []
  rw [List.append_nil] at hlex hrun
  rw [List.append_nil] at hlex
  rw [Json.read?, String.toList_ofList, hlex]
  show ((Reading.value []).run (lexemes j)).bind Reading.value? = some j
  rw [hrun]
  rfl

/-- A value on one line is read back. -/
theorem read?_compact (j : Json) : read? j.compact = some j := by
  have hread := (written_line 0 j).read? Spacing.ofBlanks_oneLine (rfl : Blank [])
  rwa [List.append_nil] at hread

/-- A value over several lines is read back with its members in order. -/
theorem read?_pretty (j : Json) : read? (j.pretty ++ "\n") = some j.sorted := by
  have hread := (written_layout 0 j.sorted).read? Spacing.ofBlanks_indented (blank_newline 0)
  rwa [String.ofList_append] at hread

end ConsumerOffsets.Json
