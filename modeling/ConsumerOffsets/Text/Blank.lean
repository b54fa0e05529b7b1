/-
# Blank characters

The characters that separate words: the control characters for tabs, lines and separators, the
spaces of all widths, and the line and paragraph separators.
-/
import ConsumerOffsets.Text.Ranges

namespace ConsumerOffsets.Text

/-- The code points of the blank characters. -/
def blankRanges : Ranges :=
  [(0x09, 0x0D), (0x1C, 0x20), (0x85, 0x85), (0xA0, 0xA0), (0x1680, 0x1680), (0x2000, 0x200A),
    (0x2028, 0x2029), (0x202F, 0x202F), (0x205F, 0x205F), (0x3000, 0x3000)]

/-- Whether a character is blank. -/
def isBlank (c : Char) : Bool := blankRanges.contains c.toNat

example : isBlank 'a' = false ∧ isBlank '\u200b' = false := by decide

/-- A text without its blank characters. -/
def dropBlanks (s : List Char) : List Char := s.filter fun c => !isBlank c

end ConsumerOffsets.Text
