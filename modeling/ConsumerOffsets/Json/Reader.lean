/-
# Reading JSON

What a text means as JSON, whoever wrote it.  The text is first cut into lexemes: marks, strings, and
the words for numbers, truth values and null (`Json.lex?`).  White space stands between lexemes and
means nothing.  Then the lexemes are taken one after another, with the arrays and objects that are open
kept on a stack (`Json.Reading.step`).

The grammar is that of JSON, with one restriction: a number has no fraction and no exponent, since
there are no such values here.  The members of an object are kept in the order of the text.
-/
import ConsumerOffsets.Json

namespace ConsumerOffsets.Json

/-! ## 1. Strings -/

/-- The number that hexadecimal digits spell. -/
def hexNumber? (digits : List Char) : Option Nat :=
  digits.foldlM (fun n digit => (Text.hexValue? digit).map (16 * n + ·)) 0

/-- The character behind a backslash stands for this one. -/
def unescape? : Char → Option Char
  | '"' => some '"'
  | '\\' => some '\\'
  | '/' => some '/'
  | 'b' => some '\x08'
  | 'f' => some '\x0c'
  | 'n' => some '\n'
  | 'r' => some '\r'
  | 't' => some '\t'
  | _ => none

/-- The inside of a string, up to the closing quote, and what follows that.  A character that is
written as it is counts as its code point, and an escape as a unit of sixteen bits. -/
def units? : List Char → Option (List Nat × List Char)
  | [] => none
  | '"' :: rest => some ([], rest)
  | '\\' :: 'u' :: a :: b :: c :: d :: rest => do
    let unit ← hexNumber? [a, b, c, d]
    let (units, rest) ← units? rest
    return (unit :: units, rest)
  | '\\' :: escaped :: rest => do
    let c ← unescape? escaped
    let (units, rest) ← units? rest
    return (c.toNat :: units, rest)
  | c :: rest =>
    if c.toNat < 0x20 then none
    else do
      let (units, rest) ← units? rest
      return (c.toNat :: units, rest)

/-- The first half of a character beyond sixteen bits. -/
def isHigh (unit : Nat) : Bool := 0xD800 ≤ unit && unit < 0xDC00

/-- The second half. -/
def isLow (unit : Nat) : Bool := 0xDC00 ≤ unit && unit < 0xE000

/-- The character with this code point. -/
def char? (n : Nat) : Option Char := if n.isValidChar then some (Char.ofNat n) else none

/-- The characters that units stand for.  Two halves that meet are one character, and a half that is
alone is none. -/
def chars? : List Nat → Option (List Char)
  | [] => some []
  | [unit] => do return [← char? unit]
  | unit :: next :: units =>
    if isHigh unit && isLow next then do
      let c ← char? (0x10000 + (unit - 0xD800) * 0x400 + (next - 0xDC00))
      return c :: (← chars? units)
    else do
      let c ← char? unit
      return c :: (← chars? (next :: units))

/-- The string up to the closing quote, and what follows that. -/
def string? (text : List Char) : Option (String × List Char) := do
  let (units, rest) ← units? text
  return (String.ofList (← chars? units), rest)

/-! ## 2. Words -/

/-- A natural number.  It does not begin with a zero, unless it is zero. -/
def natural? (digits : List Char) : Option Nat :=
  if digits ≠ [] ∧ digits.all Char.isDigit ∧ (digits.head? = some '0' → digits = ['0']) then
    some (Nat.ofDigitChars 10 digits 0)
  else none

/-- What a word stands for. -/
def word? : List Char → Option Json
  | ['n', 'u', 'l', 'l'] => some null
  | ['t', 'r', 'u', 'e'] => some (bool true)
  | ['f', 'a', 'l', 's', 'e'] => some (bool false)
  | '-' :: digits => (natural? digits).map fun n => int (-n)
  | digits => (natural? digits).map fun n => int n

/-! ## 3. Lexemes -/

/-- A smallest part of a text that means something. -/
inductive Lexeme where
  | arrayBegin
  | arrayEnd
  | objectBegin
  | objectEnd
  | comma
  | colon
  | text (s : String)
  /-- A number, a truth value or null. -/
  | word (value : Json)

/-- White space. -/
def isSpace (c : Char) : Bool := c = ' ' || c = '\t' || c = '\n' || c = '\r'

/-- The character is a lexeme by itself. -/
def mark? : Char → Option Lexeme
  | '[' => some .arrayBegin
  | ']' => some .arrayEnd
  | '\x7b' => some .objectBegin
  | '\x7d' => some .objectEnd
  | ',' => some .comma
  | ':' => some .colon
  | _ => none

/-- A character of a word. -/
def isWordChar (c : Char) : Bool := c.isAlphanum || c = '-' || c = '+' || c = '.'

/-- A string is shorter than the text that it stands in. -/
theorem length_lt_of_units? {text rest : List Char} {units : List Nat}
    (h : units? text = some (units, rest)) : rest.length < text.length := by
  fun_induction units? text generalizing units with
  | case1 => cases h
  | case2 rest =>
    cases h
    exact Nat.lt_succ_self _
  | case3 a b c d text ih =>
    obtain ⟨unit, -, h⟩ := Option.bind_eq_some_iff.mp h
    obtain ⟨⟨units, rest⟩, hunits, h⟩ := Option.bind_eq_some_iff.mp h
    cases h
    have hlt := ih hunits
    simp only [List.length_cons]
    omega
  | case4 escaped text _ ih =>
    obtain ⟨c, -, h⟩ := Option.bind_eq_some_iff.mp h
    obtain ⟨⟨units, rest⟩, hunits, h⟩ := Option.bind_eq_some_iff.mp h
    cases h
    have hlt := ih hunits
    simp only [List.length_cons]
    omega
  | case5 => cases h
  | case6 c text _ _ _ _ ih =>
    obtain ⟨⟨units, rest⟩, hunits, h⟩ := Option.bind_eq_some_iff.mp h
    cases h
    have hlt := ih hunits
    simp only [List.length_cons]
    omega

theorem length_lt_of_string? {text rest : List Char} {s : String}
    (h : string? text = some (s, rest)) : rest.length < text.length := by
  obtain ⟨⟨units, rest⟩, hunits, h⟩ := Option.bind_eq_some_iff.mp h
  obtain ⟨chars, -, h⟩ := Option.bind_eq_some_iff.mp h
  cases h
  exact length_lt_of_units? hunits

/-- The lexemes of a text. -/
def lex? (text : List Char) : Option (List Lexeme) :=
  match text with
  | [] => some []
  | c :: rest =>
    if isSpace c then lex? rest
    else
      match mark? c with
      | some mark => (lex? rest).map (mark :: ·)
      | none =>
        if c = '"' then
          match _h : string? rest with
          | some (s, rest) => (lex? rest).map (.text s :: ·)
          | none => none
        else
          match word? (c :: rest.takeWhile isWordChar) with
          | some value => (lex? (rest.dropWhile isWordChar)).map (.word value :: ·)
          | none => none
termination_by text.length
decreasing_by
  all_goals simp only [List.length_cons]
  · omega
  · omega
  · have hlt := length_lt_of_string? _h
    omega
  · have hle := (List.dropWhile_suffix isWordChar (l := rest)).length_le
    omega

/-! ## 4. Values -/

/-- An array or an object that is open, with what is complete of it, the last first. -/
inductive Frame where
  | array (items : List Json)
  /-- The value of the member with this name comes next. -/
  | object (members : List (String × Json)) (name : String)

/-- What comes next, and what is open. -/
inductive Reading where
  | value (frames : List Frame)
  /-- The first element of an array, or its end. -/
  | firstItem (frames : List Frame)
  /-- The first name of an object, or its end. -/
  | firstName (frames : List Frame)
  | name (members : List (String × Json)) (frames : List Frame)
  | colon (members : List (String × Json)) (name : String) (frames : List Frame)
  /-- What follows a value. -/
  | behind (value : Json) (frames : List Frame)

namespace Reading

/-- Begins a value. -/
def begin (frames : List Frame) : Lexeme → Option Reading
  | .word j => some (behind j frames)
  | .text s => some (behind (.str s) frames)
  | .arrayBegin => some (firstItem frames)
  | .objectBegin => some (firstName frames)
  | _ => none

/-- Takes a lexeme. -/
def step : Reading → Lexeme → Option Reading
  | value frames, lexeme => begin frames lexeme
  | firstItem frames, .arrayEnd => some (behind (.arr []) frames)
  | firstItem frames, lexeme => begin (.array [] :: frames) lexeme
  | firstName frames, .objectEnd => some (behind (.obj []) frames)
  | firstName frames, .text s => some (colon [] s frames)
  | name members frames, .text s => some (colon members s frames)
  | colon members n frames, .colon => some (value (.object members n :: frames))
  | behind j (.array items :: frames), .comma => some (value (.array (j :: items) :: frames))
  | behind j (.array items :: frames), .arrayEnd =>
    some (behind (.arr (j :: items).reverse) frames)
  | behind j (.object members n :: frames), .comma => some (name ((n, j) :: members) frames)
  | behind j (.object members n :: frames), .objectEnd =>
    some (behind (.obj ((n, j) :: members).reverse) frames)
  | _, _ => none

/-- Takes lexemes one after another. -/
def run : Reading → List Lexeme → Option Reading
  | reading, [] => some reading
  | reading, lexeme :: lexemes => (reading.step lexeme).bind fun next => next.run lexemes

/-- The value, if it is complete and nothing is open. -/
def value? : Reading → Option Json
  | behind j [] => some j
  | _ => none

end Reading

/-- The value that a text is. -/
def read? (text : String) : Option Json := do
  let lexemes ← lex? text.toList
  let reading ← (Reading.value []).run lexemes
  reading.value?

end ConsumerOffsets.Json
