/-
# Encoders

What stands in the bytes for a single field, beside the decoders that read it.  `Decoder.Reads`
says that a decoder takes exactly some bytes off the front, whatever follows them, and what it
decodes them to; each encoder here comes with the statement that its decoder reads it back.
-/
import ConsumerOffsets.Binary.Decoder

namespace ConsumerOffsets.Binary

/-! ## 1. The bytes of a field -/

namespace Encoder

/-- A two-byte integer. -/
def int16 (n : Int16) : List UInt8 := bytesOfInt 2 n.toInt

/-- A four-byte integer. -/
def int32 (n : Int32) : List UInt8 := bytesOfInt 4 n.toInt

/-- An eight-byte integer. -/
def int64 (n : Int64) : List UInt8 := bytesOfInt 8 n.toInt

/-- A count of list elements. -/
def count (n : Nat) : List UInt8 := bytesOfInt 4 n

/-- A text, given as its bytes: their number in two bytes, then the bytes. -/
def string (raw : List UInt8) : List UInt8 := bytesOfInt 2 raw.length ++ raw

/-- A region: its size in four bytes, then its bytes. -/
def region (raw : List UInt8) : List UInt8 := bytesOfInt 4 raw.length ++ raw

/-- The longest text, in bytes. -/
def maxStringLength : Nat := 32767

/-- The largest count, and the largest size of a region. -/
def maxCount : Nat := 2147483647

/-- Two bytes are enough for the length of a text … -/
theorem two_mul_lt_of_le_maxStringLength {n : Nat} (h : n ≤ maxStringLength) :
    2 * (n : Int) < byteRange Width.two.size := by
  rw [maxStringLength] at h
  simp only [Width.size, byteRange]
  omega

/-- … and four for a count or the size of a region. -/
theorem two_mul_lt_of_le_maxCount {n : Nat} (h : n ≤ maxCount) :
    2 * (n : Int) < byteRange Width.four.size := by
  rw [maxCount] at h
  simp only [Width.size, byteRange]
  omega

@[simp] theorem length_int16 (n : Int16) : (int16 n).length = 2 := length_bytesOfInt ..

@[simp] theorem length_int32 (n : Int32) : (int32 n).length = 4 := length_bytesOfInt ..

@[simp] theorem length_int64 (n : Int64) : (int64 n).length = 8 := length_bytesOfInt ..

@[simp] theorem length_count (n : Nat) : (count n).length = 4 := length_bytesOfInt ..

@[simp] theorem length_string (raw : List UInt8) : (string raw).length = 2 + raw.length := by
  simp [string]

@[simp] theorem length_region (raw : List UInt8) : (region raw).length = 4 + raw.length := by
  simp [region]

/-- Integers of four bytes, one after another, take up four bytes each. -/
@[simp] theorem length_flatMap_int32 (numbers : List Int32) :
    (numbers.flatMap int32).length = numbers.length * 4 := by
  induction numbers with
  | nil => rfl
  | cons n numbers ih => simp only [List.flatMap_cons, List.length_append, length_int32, ih,
      List.length_cons]; omega

end Encoder

/-! ## 2. Reading exactly some bytes -/

namespace Decoder

/-- The decoder takes `written` off the front of the input, whatever follows, and gives `a`. -/
def Reads {α : Type} (decoder : Decoder α) (written : List UInt8) (a : α) : Prop :=
  ∀ rest : List UInt8, decoder (written ++ rest) = .ok (a, rest)

variable {α β : Type}

theorem reads_pure (a : α) : Reads (pure a : Decoder α) [] a := fun _ => rfl

/-- What two decoders read one after the other is what they read, joined. -/
theorem Reads.bind {decoder : Decoder α} {next : α → Decoder β} {w w' : List UInt8} {a : α} {b : β}
    (h : Reads decoder w a) (h' : Reads (next a) w' b) : Reads (decoder >>= next) (w ++ w') b := by
  intro rest
  rw [List.append_assoc, bind_of_ok (h _)]
  exact h' rest

/-- Changing what was decoded reads nothing more. -/
theorem Reads.bind_pure {decoder : Decoder α} {w : List UInt8} {a : α} (h : Reads decoder w a)
    (f : α → β) : Reads (decoder >>= fun x => pure (f x)) w (f a) := by
  intro rest
  rw [bind_of_ok (h rest)]
  rfl

theorem Reads.map {decoder : Decoder α} {w : List UInt8} {a : α} (h : Reads decoder w a)
    (f : α → β) : Reads (f <$> decoder) w (f a) := h.bind_pure f

/-- What has been worked out already reads nothing. -/
theorem reads_liftM {x : Except DecodeError α} {a : α} (h : x = .ok a) :
    Reads (liftM x) [] a := by
  intro rest
  rw [h]
  rfl

/-- A field that is there exactly when it is stored. -/
theorem reads_optional {present : Prop} [Decidable present] {decoder : Decoder α}
    {written : α → List UInt8} {stored : Option α} (h : stored.isSome ↔ present)
    (hread : ∀ a, Reads decoder (written a) a) :
    Reads (optional present decoder) (stored.elim [] written) stored := by
  cases stored with
  | none =>
    have hp : ¬ present := fun hp => by simpa using h.2 hp
    rw [optional, if_neg hp]
    exact reads_pure none
  | some a =>
    rw [optional, if_pos (h.1 rfl)]
    exact (hread a).map some

/-- The elements of a list are read one after another. -/
theorem reads_listFrom {σ : Type} {item : Nat → Decoder α} {written : σ → List UInt8}
    {meaning : σ → α} : ∀ (index : Nat) (stored : List σ),
      (∀ s ∈ stored, ∀ i, Reads (item i) (written s) (meaning s)) →
      Reads (listFrom item index stored.length) (stored.flatMap written) (stored.map meaning)
  | _, [], _ => reads_pure []
  | index, s :: stored, h => by
    have hfirst := h s (List.mem_cons_self ..) index
    have hrest := reads_listFrom (index + 1) stored fun t ht => h t (List.mem_cons_of_mem _ ht)
    exact hfirst.bind (hrest.bind_pure (meaning s :: ·))

theorem reads_list {σ : Type} {item : Nat → Decoder α} {written : σ → List UInt8}
    {meaning : σ → α} {stored : List σ}
    (h : ∀ s ∈ stored, ∀ i, Reads (item i) (written s) (meaning s)) :
    Reads (list stored.length item) (stored.flatMap written) (stored.map meaning) :=
  reads_listFrom 0 stored h

/-! ## 3. Each field is read back -/

theorem reads_bytes (raw : List UInt8) (field : FieldPath) :
    Reads (bytes raw.length field) raw raw := by
  intro rest
  simp [bytes]

theorem reads_int (width : Width) (field : FieldPath) (raw : List UInt8)
    (h : raw.length = width.size) : Reads (int width field) raw (intOfBytes raw) := by
  have hb := reads_bytes raw field
  rw [h] at hb
  exact hb.bind_pure intOfBytes

/-- An integer of a width is read back, if it lies in its range. -/
theorem reads_int_bytesOfInt (width : Width) (field : FieldPath) {n : Int}
    (hlo : -(byteRange width.size : Int) ≤ 2 * n) (hhi : 2 * n < byteRange width.size) :
    Reads (int width field) (bytesOfInt width.size n) n := by
  have h := reads_int width field (bytesOfInt width.size n) (length_bytesOfInt _ _)
  rwa [intOfBytes_bytesOfInt hlo hhi] at h

theorem reads_int_natCast (width : Width) (field : FieldPath) {n : Nat}
    (h : 2 * (n : Int) < byteRange width.size) :
    Reads (int width field) (bytesOfInt width.size n) n :=
  reads_int_bytesOfInt width field (by omega) h

/-- A two-byte integer can be read as a number of any size. -/
theorem reads_int_int16 (n : Int16) (field : FieldPath) :
    Reads (int .two field) (Encoder.int16 n) n.toInt := by
  have hlo := n.le_toInt
  have hhi := n.toInt_lt
  exact reads_int_bytesOfInt .two field (by simp [Width.size, byteRange]; omega)
    (by simp [Width.size, byteRange]; omega)

theorem reads_int16 (n : Int16) (field : FieldPath) : Reads (int16 field) (Encoder.int16 n) n := by
  have h := (reads_int_int16 n field).bind_pure Int16.ofInt
  rwa [Int16.ofInt_toInt] at h

theorem reads_int32 (n : Int32) (field : FieldPath) : Reads (int32 field) (Encoder.int32 n) n := by
  have hlo := n.le_toInt
  have hhi := n.toInt_lt
  have h := (reads_int_bytesOfInt .four field (n := n.toInt)
    (by simp [Width.size, byteRange]; omega)
    (by simp [Width.size, byteRange]; omega)).bind_pure Int32.ofInt
  rwa [Int32.ofInt_toInt] at h

theorem reads_int64 (n : Int64) (field : FieldPath) : Reads (int64 field) (Encoder.int64 n) n := by
  have hlo := n.le_toInt
  have hhi := n.toInt_lt
  have h := (reads_int_bytesOfInt .eight field (n := n.toInt)
    (by simp [Width.size, byteRange]; omega)
    (by simp [Width.size, byteRange]; omega)).bind_pure Int64.ofInt
  rwa [Int64.ofInt_toInt] at h

theorem reads_counted (raw : List UInt8) (field : FieldPath) :
    Reads (counted raw.length field) raw raw := by
  have h : ¬ ((raw.length : Int) < 0) := by omega
  rw [counted, if_neg h, Int.toNat_natCast]
  exact reads_bytes raw field

theorem reads_string {raw : List UInt8} (h : raw.length ≤ Encoder.maxStringLength)
    (field : FieldPath) :
    Reads (string field) (Encoder.string raw) (Text.Utf8.decode raw) := by
  have hlength := reads_int_natCast .two field (Encoder.two_mul_lt_of_le_maxStringLength h)
  exact hlength.bind ((reads_counted raw field).bind_pure Text.Utf8.decode)

theorem reads_region {raw : List UInt8} (h : raw.length ≤ Encoder.maxCount) (field : FieldPath) :
    Reads (region field) (Encoder.region raw) raw := by
  have hsize := reads_int_natCast .four field (Encoder.two_mul_lt_of_le_maxCount h)
  exact hsize.bind (reads_counted raw field)

theorem reads_count {n : Nat} (h : n ≤ Encoder.maxCount) (field : FieldPath) :
    Reads (count field) (Encoder.count n) n := by
  have hn := reads_int_natCast .four field (Encoder.two_mul_lt_of_le_maxCount h)
  have hneg : ¬ ((n : Int) < 0) := by omega
  rw [show Encoder.count n = Encoder.count n ++ [] from (List.append_nil _).symm]
  refine hn.bind ?_
  rw [if_neg hneg]
  exact reads_pure n

/-- A count is not refused when its list follows it, each element of its least size or more. -/
theorem Reads.boundedCount_bind {β : Type} {next : Nat → Decoder β} {n itemSize : Nat}
    {w : List UInt8} {b : β} (h : n ≤ Encoder.maxCount) (hw : n * itemSize ≤ w.length)
    (hnext : Reads (next n) w b) (field : FieldPath) :
    Reads (boundedCount itemSize field >>= next) (Encoder.count n ++ w) b := by
  intro rest
  have hroom : ¬ (w ++ rest).length < n * itemSize := by
    rw [List.length_append]
    omega
  have hbounded : boundedCount itemSize field (Encoder.count n ++ (w ++ rest))
      = .ok (n, w ++ rest) := by
    have hleft : remaining (w ++ rest) = .ok ((w ++ rest).length, w ++ rest) := rfl
    rw [boundedCount, bind_of_ok (reads_count h field (w ++ rest)), bind_of_ok hleft,
      if_neg hroom]
    rfl
  rw [List.append_assoc, bind_of_ok hbounded]
  exact hnext rest

end Decoder

end ConsumerOffsets.Binary
