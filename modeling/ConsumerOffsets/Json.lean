/-
# JSON

JSON values and their written form.  Everything outside printable ASCII is written as an escape,
so the written form can be sent through any encoding.  `compact` writes a value on one line,
`pretty` writes one element or member a line, indented by two spaces a level, with the members of
every object in the order of their names.
-/
import ConsumerOffsets.Text.Numeral

namespace ConsumerOffsets

/-- A JSON value without fractions. -/
inductive Json where
  | null
  | bool (b : Bool)
  | int (n : Int)
  | str (s : String)
  | arr (items : List Json)
  | obj (members : List (String × Json))
deriving Inhabited

namespace Json

/-! ## 1. Scalars -/

/-- The escape of a sixteen-bit unit. -/
def escapeUnit (n : Nat) : List Char := '\\' :: 'u' :: Text.hexDigits 4 n

/-- How a character is written inside a string.  One that needs more than sixteen bits is written
as two units. -/
def escapeChar (c : Char) : List Char :=
  let n := c.toNat
  if c = '"' then ['\\', '"']
  else if c = '\\' then ['\\', '\\']
  else if c = '\n' then ['\\', 'n']
  else if c = '\r' then ['\\', 'r']
  else if c = '\t' then ['\\', 't']
  else if n = 8 then ['\\', 'b']
  else if n = 12 then ['\\', 'f']
  else if 0x20 ≤ n ∧ n ≤ 0x7E then [c]
  else if n < 0x10000 then escapeUnit n
  else
    escapeUnit (0xD800 + (n - 0x10000) / 0x400) ++ escapeUnit (0xDC00 + (n - 0x10000) % 0x400)

/-- The written form of a string. -/
def quote (s : String) : List Char := '"' :: s.toList.flatMap escapeChar ++ ['"']

/-- The written form of a number. -/
def number (n : Int) : List Char := (toString n).toList

/-- The written form of a truth value. -/
def truth (b : Bool) : List Char := if b then "true".toList else "false".toList

/-! ## 2. One line -/

mutual

/-- The written form on one line. -/
def line : Json → List Char
  | null => "null".toList
  | bool b => truth b
  | int n => number n
  | str s => quote s
  | arr [] => ['[', ']']
  | arr (item :: items) => '[' :: line item ++ lineItems items
  | obj [] => ['\x7b', '\x7d']
  | obj ((name, value) :: members) =>
    '\x7b' :: quote name ++ [':', ' '] ++ line value ++ lineMembers members

/-- The elements behind the first, and the end of the array. -/
def lineItems : List Json → List Char
  | [] => [']']
  | item :: items => [',', ' '] ++ line item ++ lineItems items

/-- The members behind the first, and the end of the object. -/
def lineMembers : List (String × Json) → List Char
  | [] => ['\x7d']
  | (name, value) :: members =>
    [',', ' '] ++ quote name ++ [':', ' '] ++ line value ++ lineMembers members

end

/-- The value on one line. -/
def compact (j : Json) : String := String.ofList j.line

/-! ## 3. Indented -/

/-- The start of a new line at the given depth. -/
def newline (depth : Nat) : List Char := '\n' :: List.replicate (2 * depth) ' '

mutual

/-- The written form over several lines, for a value at the given depth. -/
def layout (depth : Nat) : Json → List Char
  | null => "null".toList
  | bool b => truth b
  | int n => number n
  | str s => quote s
  | arr [] => ['[', ']']
  | arr (item :: items) =>
    '[' :: newline (depth + 1) ++ layout (depth + 1) item ++ layoutItems depth items
  | obj [] => ['\x7b', '\x7d']
  | obj ((name, value) :: members) =>
    '\x7b' :: newline (depth + 1) ++ quote name ++ [':', ' '] ++ layout (depth + 1) value
      ++ layoutMembers depth members

/-- The elements behind the first, and the end of an array at the given depth. -/
def layoutItems (depth : Nat) : List Json → List Char
  | [] => newline depth ++ [']']
  | item :: items =>
    ',' :: newline (depth + 1) ++ layout (depth + 1) item ++ layoutItems depth items

/-- The members behind the first, and the end of an object at the given depth. -/
def layoutMembers (depth : Nat) : List (String × Json) → List Char
  | [] => newline depth ++ ['\x7d']
  | (name, value) :: members =>
    ',' :: newline (depth + 1) ++ quote name ++ [':', ' '] ++ layout (depth + 1) value
      ++ layoutMembers depth members

end

/-! ## 4. Members in order -/

/-- Puts a member in front of the first one with a greater name. -/
def insertMember (member : String × Json) : List (String × Json) → List (String × Json)
  | [] => [member]
  | first :: rest =>
    if first.1 < member.1 then first :: insertMember member rest else member :: first :: rest

mutual

/-- The same value with the members of every object in ascending order of their names. -/
def sorted : Json → Json
  | arr items => arr (sortedItems items)
  | obj members => obj (sortedMembers members)
  | null => null
  | bool b => bool b
  | int n => int n
  | str s => str s

/-- The elements, each sorted. -/
def sortedItems : List Json → List Json
  | [] => []
  | item :: items => sorted item :: sortedItems items

/-- The members in ascending order, each value sorted. -/
def sortedMembers : List (String × Json) → List (String × Json)
  | [] => []
  | (name, value) :: members => insertMember (name, sorted value) (sortedMembers members)

end

/-- The value over several lines, with the members of every object in order. -/
def pretty (j : Json) : String := String.ofList (layout 0 j.sorted)

/-! ## 5. Members by name -/

/-- Gives the member of this name the value.  One that is there already keeps its place. -/
def setMember (name : String) (value : Json) : List (String × Json) → List (String × Json)
  | [] => [(name, value)]
  | first :: rest =>
    if first.1 = name then (name, value) :: rest else first :: setMember name value rest

/-- A number, or null where there is none. -/
def ofInt? : Option Int → Json
  | some n => int n
  | none => null

end Json

end ConsumerOffsets
