/-
# Decoders

A decoder takes what it needs from the front of the bytes not read yet, and fails with the field
it was reading when they do not suffice.  What was read before is out of its sight.  Here are the
decoders for single fields; the ones for whole records are put together from them.
-/
import ConsumerOffsets.Binary.Integer
import ConsumerOffsets.DecodeError
import ConsumerOffsets.Text.Utf8

namespace ConsumerOffsets.Binary

/-- Decodes an `α` from the front of some bytes and leaves the rest, or fails. -/
abbrev Decoder (α : Type) := StateT (List UInt8) (Except DecodeError) α

namespace Decoder

/-! ## 1. Running decoders -/

variable {α β : Type} {decoder : Decoder α} {next : α → Decoder β} {input rest : List UInt8}

theorem pure_apply (a : α) (input : List UInt8) : (pure a : Decoder α) input = .ok (a, input) := rfl

/-- Two decoders run one after the other: the second starts where the first one ended. -/
theorem bind_of_ok {a : α} (h : decoder input = .ok (a, rest)) :
    (decoder >>= next) input = next a rest := by
  show (decoder input >>= fun p => next p.1 p.2) = _
  rw [h]
  rfl

/-- When the first of two decoders fails, the second does not run. -/
theorem bind_of_error {e : DecodeError} (h : decoder input = .error e) :
    (decoder >>= next) input = .error e := by
  show (decoder input >>= fun p => next p.1 p.2) = _
  rw [h]
  rfl

theorem bind_eq_ok_iff {b : β} : (decoder >>= next) input = .ok (b, rest)
    ↔ ∃ a middle, decoder input = .ok (a, middle) ∧ next a middle = .ok (b, rest) := by
  cases h : decoder input with
  | error e => simp [bind_of_error h]
  | ok p =>
    obtain ⟨a, middle⟩ := p
    rw [bind_of_ok h]
    constructor
    · intro hn
      exact ⟨a, middle, rfl, hn⟩
    · rintro ⟨a', middle', heq, hn⟩
      cases heq
      exact hn

theorem bind_eq_error_iff {e : DecodeError} : (decoder >>= next) input = .error e
    ↔ decoder input = .error e
      ∨ ∃ a middle, decoder input = .ok (a, middle) ∧ next a middle = .error e := by
  cases h : decoder input with
  | error e' => simp [bind_of_error h]
  | ok p =>
    obtain ⟨a, middle⟩ := p
    rw [bind_of_ok h]
    constructor
    · intro hn
      exact Or.inr ⟨a, middle, rfl, hn⟩
    · rintro (heq | ⟨a', middle', heq, hn⟩)
      · cases heq
      · cases heq
        exact hn

/-! ## 2. Fields -/

/-- The number of bytes not read yet. -/
def remaining : Decoder Nat := fun input => .ok (input.length, input)

/-- The next `size` bytes. -/
def bytes (size : Nat) (field : FieldPath) : Decoder (List UInt8) := fun input =>
  let taken := input.take size
  if taken.length < size then .error (.truncated field size input.length)
  else .ok (taken, input.drop size)

/-- The integer of the given width. -/
def int (width : Width) (field : FieldPath) : Decoder Int := do
  return intOfBytes (← bytes width.size field)

/-- A two-byte integer. -/
def int16 (field : FieldPath) : Decoder Int16 := do
  return Int16.ofInt (← int .two field)

/-- A four-byte integer. -/
def int32 (field : FieldPath) : Decoder Int32 := do
  return Int32.ofInt (← int .four field)

/-- An eight-byte integer. -/
def int64 (field : FieldPath) : Decoder Int64 := do
  return Int64.ofInt (← int .eight field)

/-- As many bytes as a length read before it says. -/
def counted (length : Int) (field : FieldPath) : Decoder (List UInt8) :=
  if length < 0 then throw (.negativeLength field length) else bytes length.toNat field

/-- A text: a two-byte length, then that many bytes of UTF-8. -/
def string (field : FieldPath) : Decoder String := do
  let length ← int .two field
  return Text.Utf8.decode (← counted length field)

/-- A region: a four-byte size, then that many bytes. -/
def region (field : FieldPath) : Decoder (List UInt8) := do
  let size ← int .four field
  counted size field

/-! Fewer bytes than a field takes up are an error that has their number. -/

theorem bytes_of_short {size : Nat} {field : FieldPath} (h : input.length < size) :
    bytes size field input = .error (.truncated field size input.length) := by
  unfold bytes
  rw [if_pos (by rw [List.length_take]; omega)]

/-- Reading fails for too few bytes only. -/
theorem bytes_eq_error {size : Nat} {field : FieldPath} {e : DecodeError}
    (h : bytes size field input = .error e) :
    input.length < size ∧ e = .truncated field size input.length := by
  rcases Nat.lt_or_ge input.length size with hlt | hge
  · rw [bytes_of_short hlt] at h
    cases h
    exact ⟨hlt, rfl⟩
  · unfold bytes at h
    rw [if_neg (by rw [List.length_take]; omega)] at h
    cases h

theorem int_of_short {width : Width} {field : FieldPath} (h : input.length < width.size) :
    int width field input = .error (.truncated field width.size input.length) :=
  bind_of_error (bytes_of_short h)

theorem int16_of_short {field : FieldPath} (h : input.length < 2) :
    int16 field input = .error (.truncated field 2 input.length) :=
  bind_of_error (show int .two field input = _ from int_of_short h)

theorem counted_of_short {size : Nat} {field : FieldPath} (h : input.length < size) :
    counted size field input = .error (.truncated field size input.length) := by
  have hneg : ¬ (size : Int) < 0 := by omega
  rw [counted, if_neg hneg, Int.toNat_natCast]
  exact bytes_of_short h

/-- A field that is there only under a condition. -/
def optional {α : Type} (present : Prop) [Decidable present] (decoder : Decoder α) :
    Decoder (Option α) :=
  if present then some <$> decoder else pure none

/-! ## 3. Lists -/

/-- The number of elements of a list: a four-byte count that is not negative. -/
def count (field : FieldPath) : Decoder Nat := do
  let n ← int .four field
  if n < 0 then throw (.negativeCount field n)
  return n.toNat

/-- The number of elements of a list, each of which takes up `itemSize` bytes or more: a count for
which too few bytes remain is refused before any element is read. -/
def boundedCount (itemSize : Nat) (field : FieldPath) : Decoder Nat := do
  let n ← count field
  let left ← remaining
  if left < n * itemSize then throw (.excessiveCount field n left)
  return n

/-- The elements with index `index`, `index + 1`, … of a list, `n` of them. -/
def listFrom {α : Type} (item : Nat → Decoder α) (index : Nat) : Nat → Decoder (List α)
  | 0 => pure []
  | n + 1 => do
    let a ← item index
    let rest ← listFrom item (index + 1) n
    return a :: rest

/-- A list of `n` elements; each is told its index. -/
def list {α : Type} (n : Nat) (item : Nat → Decoder α) : Decoder (List α) := listFrom item 0 n

end Decoder

end ConsumerOffsets.Binary
