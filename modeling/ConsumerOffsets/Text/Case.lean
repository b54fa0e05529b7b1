/-
# Letter case

`lower` puts a text into lower case.  Almost every character goes to one character, whatever
stands around it.  There are two exceptions: the capital I with a dot becomes two characters, and
a capital sigma becomes a final sigma at the end of a word.

`upperAscii?` puts a text into upper case if the result is ASCII throughout, which is all that a
comparison with ASCII names needs.
-/
import ConsumerOffsets.Text.CaseTable

namespace ConsumerOffsets.Text

/-! ## 1. Lower case -/

/-- Whether a character is passed over when a sigma looks for the letters around it. -/
def isCaseIgnorable (c : Char) : Bool := caseIgnorableRanges.contains c.toNat

/-- Whether a character has letter case. -/
def isCased (c : Char) : Bool := casedRanges.contains c.toNat

/-- Whether the first character that is not passed over has letter case. -/
def startsCased (s : List Char) : Bool :=
  match s.dropWhile isCaseIgnorable with
  | c :: _ => isCased c
  | [] => false

/-- The lower case form of a single character, for characters that have one of their own. -/
def lowerChar (c : Char) : Char :=
  match lowerRuns.find? fun run => run.contains c.toNat with
  | some run => Char.ofNat (c.toNat + run.shift).toNat
  | none => c

/-- The lower case form of a character between the text before it, nearest character first, and
the text after it. -/
def lowerBetween (before : List Char) (c : Char) (after : List Char) : List Char :=
  if c = 'İ' then ['i', '\u0307']
  else if c = 'Σ' then
    if startsCased before && !startsCased after then ['ς'] else ['σ']
  else [lowerChar c]

/-- Puts the rest of a text into lower case, given what stands before it. -/
def lowerAfter (before : List Char) : List Char → List Char
  | [] => []
  | c :: after => lowerBetween before c after ++ lowerAfter (c :: before) after

/-- The text in lower case. -/
def lower (s : String) : String := String.ofList (lowerAfter [] s.toList)

example : lower "WARNING" = "warning" := by decide +kernel
example : lower "ΟΔΟΣ ΣΑΣ" = "οδος σας" := by decide +kernel

/-! ## 2. Upper case within ASCII -/

/-- The upper case form of a character, if it lies in ASCII.  Apart from the small letters of
ASCII, the dotless i, the long s, the sharp s and the ligatures of f and s have such a form. -/
def upperAsciiChar? (c : Char) : Option (List Char) :=
  if c.toNat < 0x80 then some [c.toUpper]
  else
    match c with
    | 'ı' => some ['I']
    | 'ſ' => some ['S']
    | 'ß' => some ['S', 'S']
    | 'ﬀ' => some ['F', 'F']
    | 'ﬁ' => some ['F', 'I']
    | 'ﬂ' => some ['F', 'L']
    | 'ﬃ' => some ['F', 'F', 'I']
    | 'ﬄ' => some ['F', 'F', 'L']
    | 'ﬅ' => some ['S', 'T']
    | 'ﬆ' => some ['S', 'T']
    | _ => none

/-- The text in upper case, if that is ASCII throughout. -/
def upperAscii? (s : String) : Option String :=
  (s.toList.mapM upperAsciiChar?).map fun parts => String.ofList parts.flatten

example : upperAscii? "ınfo" = some "INFO" := by decide
example : upperAscii? "àé" = none := by decide

end ConsumerOffsets.Text
