/-
# Bytes as hexadecimal text

Bytes are given as text with two digits a byte, in either case.  Blank characters may stand
anywhere and mean nothing, and one `0x` or `0X` may stand in front.
-/
import ConsumerOffsets.Text.Blank
import ConsumerOffsets.Text.Numeral

namespace ConsumerOffsets.Text.Hex

/-! ## 1. Writing -/

/-- The two digits of a byte. -/
def encodeByte (b : UInt8) : List Char := hexDigits 2 b.toNat

/-- The digits of some bytes. -/
def encode (bytes : List UInt8) : String := String.ofList (bytes.flatMap encodeByte)

/-! ## 2. Reading -/

/-- The text is no bytes: it fails at this character, counted without the blanks and the mark in
front. -/
structure Error where
  position : Nat
deriving DecidableEq, Repr

/-- What is wrong, in words. -/
def Error.text (e : Error) : String :=
  s!"non-hexadecimal number found in fromhex() arg at position {e.position}"

/-- The characters that have to be digits: all but the blanks, without the mark in front. -/
def digits (s : List Char) : List Char :=
  match dropBlanks s with
  | '0' :: 'x' :: rest => rest
  | '0' :: 'X' :: rest => rest
  | rest => rest

/-- The bytes that digits spell two by two. -/
def bytesOfDigits : List Char → Option (List UInt8)
  | [] => some []
  | [_] => none
  | high :: low :: rest => do
    let h ← hexValue? high
    let l ← hexValue? low
    let bytes ← bytesOfDigits rest
    return UInt8.ofNat (16 * h + l) :: bytes

/-- Where characters that spell no bytes fail.  A character beyond ASCII counts before any other;
then the first that is no digit; then the missing digit at the end. -/
def faultPosition (s : List Char) : Nat :=
  match s.findIdx? fun c => 0x80 ≤ c.toNat with
  | some position => position
  | none => s.findIdx fun c => (hexValue? c).isNone

/-- The bytes that a text stands for. -/
def decode (text : String) : Except Error (List UInt8) :=
  let s := digits text.toList
  match bytesOfDigits s with
  | some bytes => .ok bytes
  | none => .error ⟨faultPosition s⟩

example : decode "0x00 fF" = .ok [0x00, 0xff] := rfl
example : decode "00 f" = .error ⟨3⟩ := rfl
example : decode "0g é" = .error ⟨2⟩ := rfl

end ConsumerOffsets.Text.Hex
