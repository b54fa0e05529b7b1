/-
# Text from bytes

Text is stored in UTF-8.  Bytes that are no UTF-8 do not fail: they are cut, from left to right,
into the sequences that encode a scalar and the longest runs that only begin such a sequence, and
each run of the second kind (or byte that begins none) reads as one replacement character U+FFFD.
`segments` gives the cut, `decode` the text.

Which bytes may follow which is one table (`Sequence.ofBytes`): no scalar has two encodings, the
surrogates U+D800 to U+DFFF and everything above U+10FFFF have none.
-/

namespace ConsumerOffsets.Text.Utf8

/-! ## 1. The well-formed sequences -/

/-- What the first bytes of a sequence can be. -/
inductive Sequence where
  /-- All of a sequence: it encodes this scalar. -/
  | complete (c : Char)
  /-- The beginning of a longer one. -/
  | unfinished
  /-- No sequence begins like this. -/
  | illFormed
deriving DecidableEq, Repr

/-- A byte that may stand after the second place. -/
def isTrailing (b : UInt8) : Bool := 0x80 ≤ b && b ≤ 0xBF

/-- A byte that may stand second, after the given lead byte. -/
def isSecond (lead b : UInt8) : Bool :=
  if lead = 0xE0 then 0xA0 ≤ b && b ≤ 0xBF
  else if lead = 0xED then 0x80 ≤ b && b ≤ 0x9F
  else if lead = 0xF0 then 0x90 ≤ b && b ≤ 0xBF
  else if lead = 0xF4 then 0x80 ≤ b && b ≤ 0x8F
  else isTrailing b

/-- The low six bits that a trailing byte carries. -/
def payload (b : UInt8) : Nat := b.toNat % 64

/-- Judges one to four bytes, each of which continues a sequence that the ones before it began. -/
def Sequence.ofBytes : List UInt8 → Sequence
  | [a] =>
    if a < 0x80 then .complete (Char.ofNat a.toNat)
    else if 0xC2 ≤ a && a ≤ 0xF4 then .unfinished
    else .illFormed
  | [a, b] =>
    if !isSecond a b then .illFormed
    else if a < 0xE0 then .complete (Char.ofNat (a.toNat % 32 * 64 + payload b))
    else .unfinished
  | [a, b, c] =>
    if !isTrailing c then .illFormed
    else if a < 0xF0 then
      .complete (Char.ofNat (a.toNat % 16 * 4096 + payload b * 64 + payload c))
    else .unfinished
  | [a, b, c, d] =>
    if !isTrailing d then .illFormed
    else .complete
      (Char.ofNat (a.toNat % 8 * 262144 + payload b * 4096 + payload c * 64 + payload d))
  | _ => .illFormed

/-- The sequence that encodes a scalar. -/
def encodeChar (c : Char) : List UInt8 :=
  let n := c.toNat
  let trailing (shift : Nat) : UInt8 := UInt8.ofNat (0x80 + n / shift % 64)
  if n < 0x80 then [UInt8.ofNat n]
  else if n < 0x800 then [UInt8.ofNat (0xC0 + n / 64), trailing 1]
  else if n < 0x10000 then [UInt8.ofNat (0xE0 + n / 4096), trailing 64, trailing 1]
  else [UInt8.ofNat (0xF0 + n / 262144), trailing 4096, trailing 64, trailing 1]

/-- The UTF-8 of a text. -/
def encode (s : String) : List UInt8 := s.toList.flatMap encodeChar

/-! ## 2. The cut of arbitrary bytes -/

/-- A piece of a byte string. -/
inductive Segment where
  /-- A sequence that encodes the scalar. -/
  | scalar (c : Char)
  /-- Bytes that encode nothing. -/
  | illFormed (bytes : List UInt8)
deriving DecidableEq, Repr

/-- The character that stands replaced for ill-formed bytes. -/
def replacement : Char := '\uFFFD'

/-- How a piece reads. -/
def Segment.char : Segment → Char
  | scalar c => c
  | illFormed _ => replacement

/-- Cuts the bytes that follow an unfinished sequence `begun`, or no sequence if it is empty.  A
byte that cannot continue the sequence ends it there and is looked at afresh. -/
def segmentsAfter : List UInt8 → List UInt8 → List Segment
  | [], [] => []
  | begun, [] => [.illFormed begun]
  | begun, b :: rest =>
    match Sequence.ofBytes (begun ++ [b]) with
    | .complete c => .scalar c :: segmentsAfter [] rest
    | .unfinished => segmentsAfter (begun ++ [b]) rest
    | .illFormed =>
      if begun.isEmpty then .illFormed [b] :: segmentsAfter [] rest
      else
        .illFormed begun ::
          match Sequence.ofBytes [b] with
          | .complete c => .scalar c :: segmentsAfter [] rest
          | .unfinished => segmentsAfter [b] rest
          | .illFormed => .illFormed [b] :: segmentsAfter [] rest

/-- The pieces of a byte string, from left to right. -/
def segments (bytes : List UInt8) : List Segment := segmentsAfter [] bytes

/-- The text that the bytes read as. -/
def decode (bytes : List UInt8) : String := String.ofList ((segments bytes).map Segment.char)

example : decode [0x61, 0xC3, 0xA9, 0xF0, 0x9F, 0x98, 0x80] = "aé😀" := by decide
example : segments [0xF0, 0x9F, 0x98, 0x61] = [.illFormed [0xF0, 0x9F, 0x98], .scalar 'a'] := by
  decide
example : (segments [0xED, 0xA0, 0x80]).length = 3 := by decide
example : encode "aé😀" = [0x61, 0xC3, 0xA9, 0xF0, 0x9F, 0x98, 0x80] := by decide

end ConsumerOffsets.Text.Utf8
