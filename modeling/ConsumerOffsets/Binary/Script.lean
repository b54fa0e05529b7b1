/-
# Scripts of reads

A script runs reads one after another, each at one of the cursors that exist by then: the first
cursor, and whatever the earlier reads have produced.  A read that fails produces no cursor, and
the script goes on.
-/
import ConsumerOffsets.Binary.Cursor

namespace ConsumerOffsets.Binary

/-- A read at a cursor. -/
inductive Read where
  /-- An integer of `size` bytes, a size that may have no integers. -/
  | int (size : Int) (field : FieldPath)
  | string (field : FieldPath)
  | skip (size : Int) (field : FieldPath)
  | carve (size : Int) (field : FieldPath)
  | region (field : FieldPath)
deriving DecidableEq, Repr

/-- Why a read fails. -/
inductive ReadError where
  /-- No integers are stored in so many bytes. -/
  | unsupportedWidth (size : Int)
  | decode (e : DecodeError)
deriving DecidableEq, Repr

/-- What is wrong, in words. -/
def ReadError.text : ReadError → String
  | unsupportedWidth size => s!"unsupported integer width {size}"
  | decode e => e.text

/-- What a read gives besides cursors. -/
inductive ReadValue where
  | nothing
  | int (n : Int)
  | text (s : String)
deriving DecidableEq, Repr

namespace Read

/-- Runs a read: its value and the cursors it produces, in order.  A carved region comes before
the cursor behind it. -/
def run (c : Cursor) : Read → Except ReadError (ReadValue × List Cursor)
  | int size field =>
    match Width.ofSize? size with
    | none => .error (.unsupportedWidth size)
    | some width => do
      let (n, next) ← (c.run (Decoder.int width field)).mapError .decode
      return (.int n, [next])
  | string field => do
    let (s, next) ← (c.run (Decoder.string field)).mapError .decode
    return (.text s, [next])
  | skip size field => do
    let next ← (c.skip size field).mapError .decode
    return (.nothing, [next])
  | carve size field => do
    let (part, next) ← (c.carve size field).mapError .decode
    return (.nothing, [part, next])
  | region field => do
    let (part, next) ← (c.region field).mapError .decode
    return (.nothing, [part, next])

end Read

/-- A read at the cursor with the given index, or at the latest one. -/
structure Step where
  on : Option Nat
  read : Read
deriving DecidableEq, Repr

/-- The cursor that a step acts on. -/
def Step.target (cursors : List Cursor) (on : Option Nat) : Option Cursor :=
  match on with
  | some index => cursors[index]?
  | none => cursors.getLast?

/-- Runs one step over the cursors that exist: what it answers, and the cursors that exist then.
A step at a cursor that does not exist answers nothing. -/
def Step.run (cursors : List Cursor) (step : Step) :
    Option (Except ReadError (ReadValue × List Cursor)) × List Cursor :=
  match Step.target cursors step.on with
  | none => (none, cursors)
  | some c =>
    match step.read.run c with
    | .error e => (some (.error e), cursors)
    | .ok (value, produced) => (some (.ok (value, produced)), cursors ++ produced)

/-- All the cursors that exist after a script. -/
def Step.cursorsAfter : List Cursor → List Step → List Cursor
  | cursors, [] => cursors
  | cursors, step :: rest => cursorsAfter (step.run cursors).2 rest

end ConsumerOffsets.Binary
