/-
# Cursors

A cursor is a position in some bytes.  Reading from it never changes it: a read gives what was
read and the cursor behind it.  A region carved out of the bytes is a cursor of its own, over
nothing but the region.

The position may lie beyond the end of the data.  Then fewer than no bytes remain, and every read
fails, a read of no bytes too.
-/
import ConsumerOffsets.Binary.Decoder

namespace ConsumerOffsets.Binary

/-- A position in some bytes. -/
structure Cursor where
  data : List UInt8
  position : Nat := 0
deriving DecidableEq, Repr

namespace Cursor

/-- The bytes from the position on. -/
def unread (c : Cursor) : List UInt8 := c.data.drop c.position

/-- How many bytes remain; negative when the position lies beyond the end. -/
def remaining (c : Cursor) : Int := (c.data.length : Int) - c.position

/-- How far the position lies beyond the end of the data. -/
def overrun (c : Cursor) : Nat := c.position - c.data.length

/-- The cursor `n` bytes further on. -/
def advance (c : Cursor) (n : Nat) : Cursor := { c with position := c.position + n }

/-- Runs a decoder at the cursor: what it decodes, and the cursor behind what it read. -/
def run {α : Type} (decoder : Decoder α) (c : Cursor) : Except DecodeError (α × Cursor) :=
  match decoder c.unread with
  | .ok (a, rest) => .ok (a, c.advance (c.unread.length - rest.length))
  | .error e => .error (e.beyondEnd c.overrun)

/-- A run that succeeds decodes the bytes from the position on, and leaves the cursor behind what
was taken off. -/
theorem run_eq_ok_iff {α : Type} {decoder : Decoder α} {c after : Cursor} {a : α} :
    c.run decoder = .ok (a, after) ↔ ∃ rest, decoder c.unread = .ok (a, rest)
      ∧ after = c.advance (c.unread.length - rest.length) := by
  unfold run
  cases decoder c.unread with
  | error e => simp
  | ok p =>
    obtain ⟨b, rest⟩ := p
    constructor
    · intro h
      cases h
      exact ⟨rest, rfl, rfl⟩
    · rintro ⟨rest', h, rfl⟩
      cases h
      rfl

/-- A run fails as the decoder does, met at the place of the cursor. -/
theorem run_of_error {α : Type} {decoder : Decoder α} {c : Cursor} {e : DecodeError}
    (h : decoder c.unread = .error e) : c.run decoder = .error (e.beyondEnd c.overrun) := by
  rw [run, h]

/-- Cuts off the next `size` bytes. -/
def take (c : Cursor) (size : Int) (field : FieldPath) :
    Except DecodeError (List UInt8 × Cursor) :=
  if size < 0 then .error (.negativeLength field size)
  else if c.remaining < size then .error (.truncated field size.toNat c.remaining)
  else .ok (c.unread.take size.toNat, c.advance size.toNat)

/-- Passes over the next `size` bytes. -/
def skip (c : Cursor) (size : Int) (field : FieldPath) : Except DecodeError Cursor := do
  let (_, next) ← c.take size field
  return next

/-- Carves the next `size` bytes out as a region: a cursor at its start, and the one behind it. -/
def carve (c : Cursor) (size : Int) (field : FieldPath) :
    Except DecodeError (Cursor × Cursor) := do
  let (bytes, next) ← c.take size field
  return ({ data := bytes }, next)

/-- Reads a four-byte size and carves out a region of that size. -/
def region (c : Cursor) (field : FieldPath) : Except DecodeError (Cursor × Cursor) := do
  let (bytes, next) ← c.run (Decoder.region field)
  return ({ data := bytes }, next)

end Cursor

end ConsumerOffsets.Binary
