/-
# Text in lines

Words are put into lines from left to right, as many into each line as its width has room for.  A
word that is wider than a line is broken: it fills up the line that is begun and goes on in the next.
-/

namespace ConsumerOffsets.Text

/-- The lines that are complete, and the one that is being filled. -/
structure Paragraph where
  complete : List (List Char) := []
  current : List Char := []

namespace Paragraph

/-- All lines. -/
def lines (paragraph : Paragraph) : List (List Char) :=
  paragraph.complete ++ [paragraph.current]

/-- Writes on in the current line. -/
def write (paragraph : Paragraph) (text : List Char) : Paragraph :=
  { paragraph with current := paragraph.current ++ text }

/-- Completes the current line and begins another. -/
def breakLine (paragraph : Paragraph) (text : List Char) : Paragraph :=
  { complete := paragraph.lines, current := text }

/-- Adds a character, in a new line if the current one is full. -/
def addChar (width : Nat) (paragraph : Paragraph) (c : Char) : Paragraph :=
  if paragraph.current.length < width then paragraph.write [c] else paragraph.breakLine [c]

/-- Adds the blank in front of a word.  None is needed where a line begins. -/
def addBlank (width : Nat) (paragraph : Paragraph) : Paragraph :=
  if paragraph.current = [] then paragraph
  else if paragraph.current.length < width then paragraph.write [' ']
  else paragraph.breakLine []

/-- Adds a word.  If it does not fit behind the blank, a new line begins with it in place of the
blank; but a word that fits into no line is broken. -/
def addWord (width : Nat) (paragraph : Paragraph) (word : List Char) : Paragraph :=
  let spaced := paragraph.addBlank width
  if spaced.current.length + word.length ≤ width then spaced.write word
  else if width < word.length then word.foldl (addChar width) spaced
  else paragraph.breakLine word

/-- Adds a part that is not broken.  Each new line begins with a margin. -/
def addPart (width : Nat) (margin : List Char) (paragraph : Paragraph) (part : List Char) :
    Paragraph :=
  if paragraph.current.length + 1 + part.length ≤ width then paragraph.write (' ' :: part)
  else paragraph.breakLine (margin ++ part)

end Paragraph

/-- The text in lines of a width. -/
def wrap (width : Nat) (text : String) : List (List Char) :=
  ((text.toList.splitOn ' ').foldl (Paragraph.addWord width) {}).lines

/-- Parts in lines of a width.  The first line begins with `front`, and each other with a margin. -/
def wrapParts (width : Nat) (front margin : List Char) : List (List Char) → List (List Char)
  | [] => []
  | first :: rest =>
    (rest.foldl (Paragraph.addPart width margin) { current := front ++ first }).lines

/-- Lines as a text, each with a line break at its end. -/
def unlines (lines : List (List Char)) : String :=
  String.ofList (lines.flatMap fun line => line ++ ['\n'])

example : (wrap 14 "record of the __consumer_offsets topic.").map String.ofList
    = ["record of the ", "__consumer_off", "sets topic."] := by decide

end ConsumerOffsets.Text
