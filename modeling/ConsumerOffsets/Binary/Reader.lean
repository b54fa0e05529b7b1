/-
# Readers

A reader works by position: it has all the data before it, that in front of the cursor too, and
gives what it read together with the cursor behind it.  Here are the readers for single fields;
the ones for whole records are put together from them.
-/
import ConsumerOffsets.Binary.Cursor

namespace ConsumerOffsets.Binary

/-- Reads an `α` at a cursor and moves the cursor behind it, or fails. -/
abbrev Reader (α : Type) := StateT Cursor (Except DecodeError) α

namespace Reader

variable {α β : Type} {reader : Reader α} {next : α → Reader β} {c middle : Cursor}

/-- Two readers run one after the other: the second starts where the first one stopped. -/
theorem bind_of_ok {a : α} (h : reader c = .ok (a, middle)) :
    (reader >>= next) c = next a middle := by
  show (reader c >>= fun p => next p.1 p.2) = _
  rw [h]
  rfl

/-- When the first of two readers fails, the second does not run. -/
theorem bind_of_error {e : DecodeError} (h : reader c = .error e) :
    (reader >>= next) c = .error e := by
  show (reader c >>= fun p => next p.1 p.2) = _
  rw [h]
  rfl

/-! ## 1. Fields -/

/-- How many bytes remain behind the cursor. -/
def remaining : Reader Int := fun c => .ok (c.remaining, c)

/-- The next `size` bytes. -/
def bytes (size : Int) (field : FieldPath) : Reader (List UInt8) := fun c => c.take size field

/-- The integer of the given width. -/
def int (width : Width) (field : FieldPath) : Reader Int := do
  return intOfBytes (← bytes width.size field)

/-- A two-byte integer. -/
def int16 (field : FieldPath) : Reader Int16 := do
  return Int16.ofInt (← int .two field)

/-- A four-byte integer. -/
def int32 (field : FieldPath) : Reader Int32 := do
  return Int32.ofInt (← int .four field)

/-- An eight-byte integer. -/
def int64 (field : FieldPath) : Reader Int64 := do
  return Int64.ofInt (← int .eight field)

/-- A text: a two-byte length, then that many bytes of UTF-8. -/
def string (field : FieldPath) : Reader String := do
  let length ← int .two field
  return Text.Utf8.decode (← bytes length field)

/-- The next `size` bytes, carved out: a cursor over nothing but them. -/
def carve (size : Int) (field : FieldPath) : Reader Cursor := fun c => c.carve size field

/-- Passes over the next `size` bytes. -/
def skip (size : Int) (field : FieldPath) : Reader Unit := fun c => do
  let next ← c.skip size field
  return ((), next)

/-- A region: a four-byte size, then that many bytes, carved out. -/
def region (field : FieldPath) : Reader Cursor := do
  let size ← int .four field
  carve size field

/-- A region that is passed over. -/
def skipRegion (field : FieldPath) : Reader Unit := do
  let size ← int .four field
  skip size field

/-- A field that is there only under a condition. -/
def optional (present : Prop) [Decidable present] (reader : Reader α) : Reader (Option α) :=
  if present then some <$> reader else pure none

/-! ## 2. Lists -/

/-- The number of elements of a list: a four-byte count that is not negative. -/
def count (field : FieldPath) : Reader Nat := do
  let n ← int .four field
  if n < 0 then throw (.negativeCount field n)
  return n.toNat

/-- The number of elements of a list, each of which takes up `itemSize` bytes or more. -/
def boundedCount (itemSize : Nat) (field : FieldPath) : Reader Nat := do
  let n ← count field
  let left ← remaining
  if left < (n * itemSize : Nat) then throw (.excessiveCount field n left)
  return n

/-- The elements with index `index`, `index + 1`, … of a list, `n` of them. -/
def listFrom (item : Nat → Reader α) (index : Nat) : Nat → Reader (List α)
  | 0 => pure []
  | n + 1 => do
    let a ← item index
    let rest ← listFrom item (index + 1) n
    return a :: rest

/-- A list of `n` elements; each is told its index. -/
def list (n : Nat) (item : Nat → Reader α) : Reader (List α) := listFrom item 0 n

end Reader

end ConsumerOffsets.Binary
