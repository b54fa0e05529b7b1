/-
# The table of well-formed sequences

Which bytes encode a scalar, said by a table: a row gives a range for each place of a sequence
(`IsSequence`).  Bytes at whose front no sequence stands have a maximal subpart there: the longest
piece that is the beginning of a sequence, or else a single byte (`MaximalSubpart`).  Going from
left to right, any bytes are cut into sequences and maximal subparts (`Decomposes`).

Nothing here reads bytes; this is what the reading of text is measured against.
-/
import ConsumerOffsets.Text.Utf8

namespace ConsumerOffsets.Text.Utf8

/-! ## 1. Rows -/

/-- Bytes from a first one to a last one. -/
abbrev ByteRange := UInt8 × UInt8

/-- The rows.  After four of the lead bytes the second place has a range of its own: so no scalar
is encoded longer than it has to be (`E0`, `F0`), no surrogate is encoded (`ED`), and nothing
beyond the last scalar (`F4`). -/
def table : List (List ByteRange) :=
  [[(0x00, 0x7F)],
    [(0xC2, 0xDF), (0x80, 0xBF)],
    [(0xE0, 0xE0), (0xA0, 0xBF), (0x80, 0xBF)],
    [(0xE1, 0xEC), (0x80, 0xBF), (0x80, 0xBF)],
    [(0xED, 0xED), (0x80, 0x9F), (0x80, 0xBF)],
    [(0xEE, 0xEF), (0x80, 0xBF), (0x80, 0xBF)],
    [(0xF0, 0xF0), (0x90, 0xBF), (0x80, 0xBF), (0x80, 0xBF)],
    [(0xF1, 0xF3), (0x80, 0xBF), (0x80, 0xBF), (0x80, 0xBF)],
    [(0xF4, 0xF4), (0x80, 0x8F), (0x80, 0xBF), (0x80, 0xBF)]]

/-- The bytes lie in the ranges of a row, one byte in each. -/
def InRow : List ByteRange → List UInt8 → Prop
  | [], [] => True
  | range :: row, b :: bytes => (range.1 ≤ b ∧ b ≤ range.2) ∧ InRow row bytes
  | [], _ :: _ => False
  | _ :: _, [] => False

instance decidableInRow : ∀ (row : List ByteRange) (bytes : List UInt8), Decidable (InRow row bytes)
  | [], [] => isTrue trivial
  | range :: row, b :: bytes =>
    have := decidableInRow row bytes
    inferInstanceAs (Decidable ((range.1 ≤ b ∧ b ≤ range.2) ∧ InRow row bytes))
  | [], _ :: _ => isFalse id
  | _ :: _, [] => isFalse id

/-- The bytes are one sequence. -/
def IsSequence (bytes : List UInt8) : Prop := ∃ row ∈ table, InRow row bytes

instance decidableIsSequence (bytes : List UInt8) : Decidable (IsSequence bytes) :=
  inferInstanceAs (Decidable (∃ row ∈ table, InRow row bytes))

/-- The bytes are the beginning of a sequence, or a whole one. -/
def IsInitial (bytes : List UInt8) : Prop := ∃ more, IsSequence (bytes ++ more)

/-- The bytes are sequences, one after another. -/
def InSequences (bytes : List UInt8) : Prop :=
  ∃ sequences : List (List UInt8), (∀ w ∈ sequences, IsSequence w) ∧ bytes = sequences.flatten

/-! ## 2. Bytes that are no sequences -/

/-- No sequence stands in front, and `part` is the longest piece there that is the beginning of one.
If no piece is, it is the first byte. -/
structure MaximalSubpart (part rest : List UInt8) : Prop where
  unconvertible : ∀ w, w <+: part ++ rest → ¬ IsSequence w
  piece : part.length = 1 ∨ part ≠ [] ∧ IsInitial part
  longest : ∀ w, w <+: part ++ rest → IsInitial w → w.length ≤ part.length

/-- The bytes are cut, from left to right, into sequences, each with the scalar that it encodes, and
maximal subparts. -/
inductive Decomposes : List UInt8 → List Segment → Prop where
  | nil : Decomposes [] []
  | sequence {w rest : List UInt8} {c : Char} {pieces : List Segment} (hw : IsSequence w)
      (hc : encodeChar c = w) (hrest : Decomposes rest pieces) :
      Decomposes (w ++ rest) (.scalar c :: pieces)
  | subpart {part rest : List UInt8} {pieces : List Segment} (hpart : MaximalSubpart part rest)
      (hrest : Decomposes rest pieces) : Decomposes (part ++ rest) (.illFormed part :: pieces)

example : IsSequence [0xF0, 0x9F, 0x98, 0x80] ∧ ¬ IsSequence [0xED, 0xA0, 0x80] := by decide

end ConsumerOffsets.Text.Utf8
