/-
# Quoted text

Texts that a message repeats stand in single quotes, or in double quotes if they hold single
quotes and no double ones.  The quote, the backslash and everything that would not show are
written with a backslash.
-/
import ConsumerOffsets.Text.Numeral
import ConsumerOffsets.Text.Printable

namespace ConsumerOffsets.Text.Quoted

/-- The quote that stands around a text. -/
def quoteFor (s : List Char) : Char :=
  if s.contains '\'' && !s.contains '"' then '"' else '\''

/-- How a character is written between the given quotes. -/
def encodeChar (quote c : Char) : List Char :=
  let n := c.toNat
  if c = quote ∨ c = '\\' then ['\\', c]
  else if c = '\t' then ['\\', 't']
  else if c = '\n' then ['\\', 'n']
  else if c = '\r' then ['\\', 'r']
  else if isPrintable c then [c]
  else if n < 0x100 then '\\' :: 'x' :: hexDigits 2 n
  else if n < 0x10000 then '\\' :: 'u' :: hexDigits 4 n
  else '\\' :: 'U' :: hexDigits 8 n

/-- The text in quotes. -/
def encode (s : String) : String :=
  let quote := quoteFor s.toList
  String.ofList (quote :: s.toList.flatMap (encodeChar quote) ++ [quote])

end ConsumerOffsets.Text.Quoted
