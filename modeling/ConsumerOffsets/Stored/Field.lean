/-
# Fields as they are stored

A value is a row of fields.  Each is an integer, or a length with as many bytes behind it.  A value
that ends too early ends inside one field of the row, and that field is reported
(`StoredField.truncation`): its integer or its length is incomplete, or else what its length
announces is.
-/
import ConsumerOffsets.Binary.Encoder

namespace ConsumerOffsets

open Binary

/-- A field as it is stored: where it lies in the record, the bytes of its integer or of its
length, and the bytes that the length announces. -/
structure StoredField where
  path : FieldPath
  lead : List UInt8
  payload : List UInt8 := []
  /-- What a length or a count says how many there are of.  Other integers announce nothing. -/
  announced : Option Nat := none
deriving DecidableEq, Repr

namespace StoredField

/-! ## 1. The kinds of fields -/

/-- A two-byte integer. -/
def int16 (path : FieldPath) (n : Int16) : StoredField := { path, lead := Encoder.int16 n }

/-- A four-byte integer. -/
def int32 (path : FieldPath) (n : Int32) : StoredField := { path, lead := Encoder.int32 n }

/-- An eight-byte integer. -/
def int64 (path : FieldPath) (n : Int64) : StoredField := { path, lead := Encoder.int64 n }

/-- A count of list elements. -/
def count (path : FieldPath) (n : Nat) : StoredField :=
  { path, lead := Encoder.count n, announced := some n }

/-- A text, given as its bytes. -/
def string (path : FieldPath) (raw : List UInt8) : StoredField :=
  { path, lead := bytesOfInt 2 raw.length, payload := raw, announced := some raw.length }

/-- A region. -/
def region (path : FieldPath) (raw : List UInt8) : StoredField :=
  { path, lead := bytesOfInt 4 raw.length, payload := raw, announced := some raw.length }

/-! ## 2. Rows of fields -/

/-- The bytes of a field. -/
def encode (field : StoredField) : List UInt8 := field.lead ++ field.payload

@[simp] theorem encode_int16 (path : FieldPath) (n : Int16) :
    (int16 path n).encode = Encoder.int16 n := List.append_nil _

@[simp] theorem encode_int32 (path : FieldPath) (n : Int32) :
    (int32 path n).encode = Encoder.int32 n := List.append_nil _

@[simp] theorem encode_int64 (path : FieldPath) (n : Int64) :
    (int64 path n).encode = Encoder.int64 n := List.append_nil _

@[simp] theorem encode_count (path : FieldPath) (n : Nat) :
    (count path n).encode = Encoder.count n := List.append_nil _

@[simp] theorem encode_string (path : FieldPath) (raw : List UInt8) :
    (string path raw).encode = Encoder.string raw := rfl

@[simp] theorem encode_region (path : FieldPath) (raw : List UInt8) :
    (region path raw).encode = Encoder.region raw := rfl

/-- A field keeps what it announces: its integer spells the number announced, and what is announced
of a field with bytes behind its length is how many those are. -/
structure Honest (field : StoredField) : Prop where
  spelled : ∀ n, field.announced = some n → intOfBytes field.lead = n
  kept : field.payload ≠ [] → field.announced = some field.payload.length

/-- The fields that a row has for something that is not always there. -/
def optional {α : Type} (field : α → StoredField) (stored : Option α) : List StoredField :=
  (stored.map field).toList

@[simp] theorem flatMap_optional {α : Type} (field : α → StoredField) (stored : Option α) :
    (optional field stored).flatMap encode = stored.elim [] fun a => (field a).encode := by
  cases stored <;> simp [optional]

/-- The fields that a row has for the elements of a list, each of which is told its index, from the
given index on. -/
def listed {σ : Type} (row : Nat → σ → List StoredField) (index : Nat) : List σ → List StoredField
  | [] => []
  | s :: stored => row index s ++ listed row (index + 1) stored

theorem flatMap_listed {σ : Type} {row : Nat → σ → List StoredField} {written : σ → List UInt8}
    (h : ∀ i s, (row i s).flatMap encode = written s) : ∀ (index : Nat) (stored : List σ),
      (listed row index stored).flatMap encode = stored.flatMap written
  | _, [] => rfl
  | index, s :: stored => by
    rw [listed, List.flatMap_append, h, flatMap_listed h, List.flatMap_cons]

/-- The fields that a row has for a list are those of its elements, each at its index. -/
theorem mem_listed_iff {σ : Type} {row : Nat → σ → List StoredField} {field : StoredField} :
    ∀ {index : Nat} {stored : List σ}, field ∈ listed row index stored
      ↔ ∃ i s, stored[i]? = some s ∧ field ∈ row (index + i) s
  | _, [] => by simp [listed]
  | index, s :: stored => by
    rw [listed, List.mem_append, mem_listed_iff]
    constructor
    · rintro (hfirst | ⟨i, t, ht, hrow⟩)
      · exact ⟨0, s, rfl, hfirst⟩
      · exact ⟨i + 1, t, ht, by rwa [Nat.add_right_comm, Nat.add_assoc] at hrow⟩
    · rintro ⟨i, t, ht, hrow⟩
      cases i with
      | zero =>
        cases ht
        exact Or.inl hrow
      | succ i => exact Or.inr ⟨i, t, ht, by rwa [Nat.add_right_comm, Nat.add_assoc]⟩

/-! ## 3. Rows that end too early -/

/-- The error for a field of which only the first `present` bytes are there. -/
def truncation (field : StoredField) (present : Nat) : DecodeError :=
  if present < field.lead.length then .truncated field.path field.lead.length present
  else .truncated field.path field.payload.length ((present : Int) - field.lead.length)

/-- The error names the field, of which `own` bytes are there.  It has the size of the part that is
incomplete, the lead or the payload, and how much of that part is there. -/
def ReportedBy (field : StoredField) (own : Nat) (e : DecodeError) : Prop :=
  e.field = field.path
  ∧ e.shortfall = some (if own < field.lead.length then (field.lead.length, (own : Int))
      else (field.payload.length, (own : Int) - field.lead.length))

theorem reportedBy_truncation (field : StoredField) (own : Nat) :
    field.ReportedBy own (field.truncation own) := by
  unfold ReportedBy truncation
  split
  · exact ⟨rfl, rfl⟩
  · exact ⟨rfl, rfl⟩

/-- The first field of a row that is incomplete when only the first `present` bytes of the row are
there, with the number of its own bytes that are. -/
def cut : List StoredField → Nat → Option (StoredField × Nat)
  | [], _ => none
  | field :: fields, present =>
    if present < field.encode.length then some (field, present)
    else cut fields (present - field.encode.length)

/-- No field is incomplete exactly when the whole row is there. -/
theorem cut_eq_none_iff : ∀ (fields : List StoredField) (present : Nat),
    cut fields present = none ↔ (fields.flatMap encode).length ≤ present
  | [], _ => by simp [cut]
  | field :: fields, present => by
    have ih := cut_eq_none_iff fields (present - field.encode.length)
    rw [cut, List.flatMap_cons, List.length_append]
    split
    · next h => exact iff_of_false (by simp) (by omega)
    · next h => rw [ih]; omega

/-- Where the bytes of a row end after `position` of them, it is inside this field, whose own bytes
begin at `start`. -/
def Spans (fields : List StoredField) (field : StoredField) (start position : Nat) : Prop :=
  ∃ before after, fields = before ++ field :: after ∧ start = (before.flatMap encode).length
    ∧ start ≤ position ∧ position < start + field.encode.length

/-- Bytes end inside the first field of a row, or behind it and inside one of the others. -/
theorem spans_cons_iff {first field : StoredField} {fields : List StoredField}
    {start position : Nat} : Spans (first :: fields) field start position
      ↔ (field = first ∧ start = 0 ∧ position < first.encode.length)
        ∨ ∃ start', Spans fields field start' (position - first.encode.length)
          ∧ start = first.encode.length + start' ∧ first.encode.length ≤ position := by
  constructor
  · rintro ⟨before, after, hfields, hstart, hle, hlt⟩
    cases before with
    | nil =>
      cases hfields
      rw [List.flatMap_nil, List.length_nil] at hstart
      exact Or.inl ⟨rfl, hstart, by omega⟩
    | cons g before =>
      cases hfields
      rw [List.flatMap_cons, List.length_append] at hstart
      exact Or.inr ⟨_, ⟨before, after, rfl, rfl, by omega, by omega⟩, hstart, by omega⟩
  · rintro (⟨rfl, rfl, hlt⟩ | ⟨start', ⟨before, after, rfl, rfl, hle, hlt⟩, rfl, hfirst⟩)
    · exact ⟨[], fields, rfl, rfl, Nat.zero_le _, by omega⟩
    · refine ⟨first :: before, after, rfl, ?_, by omega, by omega⟩
      rw [List.flatMap_cons, List.length_append]

/-- The field that is incomplete is the one that the bytes end inside. -/
theorem cut_eq_some_iff {field : StoredField} {own : Nat} : ∀ {fields : List StoredField}
    {present : Nat}, cut fields present = some (field, own)
      ↔ ∃ start, Spans fields field start present ∧ own = present - start
  | [], _ => by simp [cut, Spans]
  | first :: fields, present => by
    rw [cut]
    split
    · next hfirst =>
      constructor
      · intro h
        cases h
        exact ⟨0, spans_cons_iff.mpr (Or.inl ⟨rfl, rfl, hfirst⟩), rfl⟩
      · rintro ⟨start, hspan, rfl⟩
        rcases spans_cons_iff.mp hspan with ⟨rfl, rfl, -⟩ | ⟨_, -, -, hle⟩
        · rfl
        · exact absurd hfirst (Nat.not_lt_of_le hle)
    · next hfirst =>
      rw [cut_eq_some_iff]
      constructor
      · rintro ⟨start, hspan, rfl⟩
        exact ⟨_, spans_cons_iff.mpr (Or.inr ⟨start, hspan, rfl, by omega⟩), by omega⟩
      · rintro ⟨start, hspan, rfl⟩
        rcases spans_cons_iff.mp hspan with ⟨-, -, hlt⟩ | ⟨start', hspan', rfl, -⟩
        · exact absurd hlt hfirst
        · exact ⟨start', hspan', by omega⟩

/-- Bytes that do not make up the whole row end inside one field of it … -/
theorem exists_spans_of_lt {fields : List StoredField} {position : Nat}
    (h : position < (fields.flatMap encode).length) :
    ∃ field start, Spans fields field start position := by
  cases hcut : cut fields position with
  | none =>
    rw [cut_eq_none_iff] at hcut
    omega
  | some p =>
    obtain ⟨field, own⟩ := p
    obtain ⟨start, hspan, -⟩ := cut_eq_some_iff.mp hcut
    exact ⟨field, start, hspan⟩

/-- … and inside one only. -/
theorem Spans.unique {fields : List StoredField} {field field' : StoredField}
    {start start' position : Nat} (h : Spans fields field start position)
    (h' : Spans fields field' start' position) : field = field' ∧ start = start' := by
  have hcut := cut_eq_some_iff.mpr ⟨start, h, rfl⟩
  rw [cut_eq_some_iff.mpr ⟨start', h', rfl⟩] at hcut
  obtain ⟨-, -, -, -, hle, -⟩ := h
  obtain ⟨-, -, -, -, hle', -⟩ := h'
  injection hcut with hpair
  injection hpair with hfield hown
  exact ⟨hfield.symm, by omega⟩

/-- Two rows one after the other end inside the first … -/
theorem cut_append_of_lt : ∀ {fields fields' : List StoredField} {present : Nat},
    present < (fields.flatMap encode).length → cut (fields ++ fields') present = cut fields present
  | [], _, _, h => absurd h (Nat.not_lt_zero _)
  | field :: fields, fields', present, h => by
    rw [List.flatMap_cons, List.length_append] at h
    rw [List.cons_append, cut, cut]
    split
    · rfl
    · exact cut_append_of_lt (by omega)

/-- … or inside the second. -/
theorem cut_append_of_le : ∀ {fields fields' : List StoredField} {present : Nat},
    (fields.flatMap encode).length ≤ present →
      cut (fields ++ fields') present = cut fields' (present - (fields.flatMap encode).length)
  | [], _, _, _ => rfl
  | field :: fields, fields', present, h => by
    rw [List.flatMap_cons, List.length_append] at h ⊢
    rw [List.cons_append, cut, if_neg (by omega), cut_append_of_le (by omega), Nat.sub_sub]

end StoredField

end ConsumerOffsets
