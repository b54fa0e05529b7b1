/-
# Reads stay within their data

Whatever a script reads, no cursor gets beyond the end of its data, and the data of every cursor is
a piece of the bytes that the script began with (`Step.cursors_contained`).

A read takes up a lead, which holds its integer or its length, and a payload behind it: as many
bytes as the length says, or as the read was told.  Said with these two, all reads come out in the
same four ways (`Read.Outcome`), and at a cursor within its data every read does come out in one of
them (`Read.outcome_run`).  The invariant is that a cursor is within its data and that its data is a
piece of the first (`Cursor.Inside`).  It goes from a cursor to the ones that are read from it, by
a look at the four ways, and to all cursors of a script by induction on the script.
-/
import Mathlib.Control.Monad.Basic
import ConsumerOffsets.Binary.Script
import ConsumerOffsets.Proofs.AnyPosition

namespace ConsumerOffsets.Binary

/-! ## 1. What a read takes up -/

namespace Read

/-- The field that the read is for. -/
def field : Read → FieldPath
  | int _ field | string field | skip _ field | carve _ field | region field => field

/-- Integers of the size can be stored.  Other reads are not of integers. -/
def Supported : Read → Prop
  | int size _ => size = 1 ∨ size = 2 ∨ size = 4 ∨ size = 8
  | string _ | skip .. | carve .. | region _ => True

/-- How many bytes the integer or the length of the read takes up. -/
def leadSize : Read → Nat
  | int size _ => size.toNat
  | string _ => 2
  | skip .. | carve .. => 0
  | region _ => 4

/-- How many bytes are read behind the lead: as many as the length in it says, or as the read was
told. -/
def payloadSize (lead : List UInt8) : Read → Int
  | int .. => 0
  | string _ | region _ => intOfBytes lead
  | skip size _ | carve size _ => size

/-- The value of what is read. -/
def value (lead payload : List UInt8) : Read → ReadValue
  | int .. => .int (intOfBytes lead)
  | string _ => .text (Text.Utf8.decode payload)
  | skip .. | carve .. | region _ => .nothing

/-- The regions that are carved out: the payload, if it is a region. -/
def regions (payload : List UInt8) : Read → List Cursor
  | carve .. | region _ => [⟨payload, 0⟩]
  | int .. | string _ | skip .. => []

/-- The length is there, or the read was told one, and it is negative. -/
def AsksNegative (c : Cursor) (read : Read) : Prop :=
  ∃ lead back, c.unread = lead ++ back ∧ lead.length = read.leadSize ∧ read.payloadSize lead < 0

/-- More bytes are needed than remain, for the lead or behind it. -/
def LacksBytes (c : Cursor) (read : Read) : Prop :=
  c.unread.length < read.leadSize
  ∨ ∃ lead back, c.unread = lead ++ back ∧ lead.length = read.leadSize
      ∧ (back.length : Int) < read.payloadSize lead

/-- The ways in which a read comes out at a cursor within its data. -/
inductive Outcome (c : Cursor) (read : Read) :
    Except ReadError (ReadValue × List Cursor) → Prop where
  /-- Too few bytes are there for the lead. -/
  | shortLead (hlack : c.unread.length < read.leadSize) :
      Outcome c read
        (.error (.decode (.truncated read.field read.leadSize c.unread.length)))
  /-- The length is negative. -/
  | negative {lead back : List UInt8} (hunread : c.unread = lead ++ back)
      (hlead : lead.length = read.leadSize) (hneg : read.payloadSize lead < 0) :
      Outcome c read
        (.error (.decode (.negativeLength read.field (read.payloadSize lead))))
  /-- Too few bytes are there behind the lead. -/
  | shortPayload {lead back : List UInt8} {needed : Nat} (hunread : c.unread = lead ++ back)
      (hlead : lead.length = read.leadSize) (hneeded : read.payloadSize lead = needed)
      (hlack : back.length < needed) :
      Outcome c read (.error (.decode (.truncated read.field needed back.length)))
  /-- All bytes are there.  The cursor behind them is produced, and one over the payload if that is
  carved out. -/
  | taken {lead payload back : List UInt8} (hunread : c.unread = lead ++ (payload ++ back))
      (hlead : lead.length = read.leadSize) (hpayload : read.payloadSize lead = payload.length) :
      Outcome c read
        (.ok (read.value lead payload,
          read.regions payload ++ [c.advance (read.leadSize + payload.length)]))

end Read

/-! ## 2. How reads come out -/

/-- Bytes that were announced: their number is negative, or some are missing, or they are there. -/
theorem Decoder.counted_cases (length : Int) (field : FieldPath) (back : List UInt8) :
    (length < 0 ∧ counted length field back = .error (.negativeLength field length))
    ∨ (∃ needed : Nat, length = needed ∧ back.length < needed
        ∧ counted length field back = .error (.truncated field needed back.length))
    ∨ ∃ payload rest, back = payload ++ rest ∧ length = payload.length
        ∧ counted length field back = .ok (payload, rest) := by
  rcases Int.lt_or_le length 0 with hneg | hnonneg
  · left
    rw [counted, if_pos hneg]
    exact ⟨hneg, rfl⟩
  · obtain ⟨needed, rfl⟩ := Int.eq_ofNat_of_zero_le hnonneg
    right
    rcases Nat.lt_or_ge back.length needed with hlack | hroom
    · exact Or.inl ⟨needed, rfl, hlack, counted_of_short hlack⟩
    · have htaken : (back.take needed).length = needed := by simp [hroom]
      have hread := reads_counted (back.take needed) field (back.drop needed)
      rw [htaken, List.take_append_drop] at hread
      exact Or.inr ⟨_, _, (List.take_append_drop needed back).symm, by rw [htaken], hread⟩

namespace Cursor

variable {α : Type} {decoder : Decoder α} {c : Cursor}

theorem overrun_eq_zero (h : c.position ≤ c.data.length) : c.overrun = 0 :=
  Nat.sub_eq_zero_of_le h

theorem remaining_eq (h : c.position ≤ c.data.length) : c.remaining = c.unread.length := by
  rw [remaining, unread, List.length_drop]
  omega

/-- Within the data of the cursor a run fails as the decoder does. -/
theorem run_of_error_of_le (hc : c.position ≤ c.data.length) {e : DecodeError}
    (h : decoder c.unread = .error e) : c.run decoder = .error e := by
  rw [run_of_error h, overrun_eq_zero hc, DecodeError.beyondEnd_zero]

/-- A run moves the cursor behind the bytes that the decoder takes off. -/
theorem run_of_append {w back : List UInt8} {a : α} (hunread : c.unread = w ++ back)
    (h : decoder c.unread = .ok (a, back)) : c.run decoder = .ok (a, c.advance w.length) := by
  refine run_eq_ok_iff.mpr ⟨back, h, ?_⟩
  rw [hunread, List.length_append, Nat.add_sub_cancel]

/-- Within the data of the cursor, bytes are cut off as they are decoded. -/
theorem take_eq_run (hc : c.position ≤ c.data.length) (size : Int) (field : FieldPath) :
    c.take size field = c.run (Decoder.counted size field) :=
  (Reader.follows_counted field size).eq_run hc

end Cursor

namespace Read

variable {c : Cursor} {read : Read}

/-- A read that goes on behind its lead as announced bytes are decoded comes out in one of the
ways. -/
theorem outcome_of_counted {lead back : List UInt8} (hunread : c.unread = lead ++ back)
    (hlead : lead.length = read.leadSize)
    (herror : ∀ e, Decoder.counted (read.payloadSize lead) read.field back = .error e →
      read.run c = .error (.decode e))
    (hok : ∀ payload rest, back = payload ++ rest →
      Decoder.counted (read.payloadSize lead) read.field back = .ok (payload, rest) →
        read.run c = .ok (read.value lead payload,
          read.regions payload ++ [c.advance (read.leadSize + payload.length)])) :
    read.Outcome c (read.run c) := by
  rcases Decoder.counted_cases (read.payloadSize lead) read.field back with
    ⟨hneg, hcounted⟩ | ⟨needed, hneeded, hlack, hcounted⟩ | ⟨payload, rest, rfl, hsize, hcounted⟩
  · rw [herror _ hcounted]
    exact .negative hunread hlead hneg
  · rw [herror _ hcounted]
    exact .shortPayload hunread hlead hneeded hlack
  · rw [hok _ _ rfl hcounted]
    exact .taken hunread hlead hsize

/-- Enough bytes for the lead are the lead and what is behind it. -/
theorem exists_lead {size : Nat} {input : List UInt8} (h : size ≤ input.length) :
    ∃ lead back, input = lead ++ back ∧ lead.length = size :=
  ⟨input.take size, input.drop size, (List.take_append_drop size input).symm, by simp [h]⟩

theorem outcome_int (hc : c.position ≤ c.data.length) (width : Width) (field : FieldPath) :
    (int width.size field).Outcome c ((int width.size field).run c) := by
  simp only [run, Width.ofSize?_size]
  rcases Nat.lt_or_ge c.unread.length width.size with hlack | hroom
  · rw [Cursor.run_of_error_of_le hc (Decoder.int_of_short hlack)]
    exact .shortLead hlack
  · obtain ⟨lead, back, hunread, hlead⟩ := exists_lead hroom
    have hint := Decoder.reads_int width field lead hlead back
    rw [← hunread] at hint
    rw [Cursor.run_of_append hunread hint, hlead]
    rw [← List.nil_append back] at hunread
    exact .taken hunread hlead rfl

/-- A read that decodes a length and what the length announces, and makes something of that. -/
theorem outcome_of_length (hc : c.position ≤ c.data.length) {α : Type} {width : Width}
    {decoder : Decoder α} {make : List UInt8 → α}
    (hdecoder : decoder = Decoder.int width read.field >>= fun length =>
      Decoder.counted length read.field >>= fun raw => pure (make raw))
    (hsize : read.leadSize = width.size) (hlength : ∀ lead, read.payloadSize lead = intOfBytes lead)
    (herror : ∀ e, c.run decoder = .error e → read.run c = .error (.decode e))
    (hok : ∀ lead payload next, c.run decoder = .ok (make payload, next) →
      read.run c = .ok (read.value lead payload, read.regions payload ++ [next])) :
    read.Outcome c (read.run c) := by
  rcases Nat.lt_or_ge c.unread.length width.size with hlack | hroom
  · have hshort : decoder c.unread
        = .error (.truncated read.field width.size c.unread.length) := by
      rw [hdecoder]
      exact Decoder.bind_of_error (Decoder.int_of_short hlack)
    rw [herror _ (Cursor.run_of_error_of_le hc hshort), ← hsize]
    exact .shortLead (by rwa [hsize])
  · obtain ⟨lead, back, hunread, hlead⟩ := exists_lead hroom
    have hbehind : decoder c.unread
        = (Decoder.counted (read.payloadSize lead) read.field >>= fun raw => pure (make raw))
            back := by
      rw [hdecoder, hunread, hlength]
      exact Decoder.bind_of_ok (Decoder.reads_int width read.field lead hlead back)
    refine outcome_of_counted hunread (hlead.trans hsize.symm) ?_ ?_
    · intro e he
      exact herror e (Cursor.run_of_error_of_le hc (hbehind.trans (Decoder.bind_of_error he)))
    · intro payload rest hback hcounted
      have hwhole : c.unread = (lead ++ payload) ++ rest := by
        rw [hunread, hback, List.append_assoc]
      have hrun := Cursor.run_of_append hwhole (hbehind.trans (Decoder.bind_of_ok hcounted))
      rw [List.length_append, hlead, ← hsize] at hrun
      exact hok lead payload _ hrun

theorem outcome_string (hc : c.position ≤ c.data.length) (field : FieldPath) :
    (string field).Outcome c ((string field).run c) := by
  have hstring : Decoder.string field = Decoder.int .two field >>= fun length =>
      Decoder.counted length field >>= fun raw => pure (Text.Utf8.decode raw) := rfl
  refine outcome_of_length hc hstring rfl (fun _ => rfl) ?_ ?_
  · intro e he
    rw [run, he]
    rfl
  · intro lead payload next hnext
    rw [run, hnext]
    rfl

theorem outcome_region (hc : c.position ≤ c.data.length) (field : FieldPath) :
    (region field).Outcome c ((region field).run c) := by
  have hregion : Decoder.region field = Decoder.int .four field >>= fun length =>
      Decoder.counted length field >>= fun raw => pure (id raw) := by
    simp [Decoder.region]
  refine outcome_of_length hc hregion rfl (fun _ => rfl) ?_ ?_
  · intro e he
    rw [run, Cursor.region, he]
    rfl
  · intro lead payload next hnext
    rw [run, Cursor.region, hnext]
    rfl

/-- A read that cuts off as many bytes as it was told. -/
theorem outcome_of_take (hc : c.position ≤ c.data.length) (hsize : read.leadSize = 0)
    (herror : ∀ e, c.take (read.payloadSize []) read.field = .error e →
      read.run c = .error (.decode e))
    (hok : ∀ payload next, c.take (read.payloadSize []) read.field = .ok (payload, next) →
      read.run c = .ok (read.value [] payload, read.regions payload ++ [next])) :
    read.Outcome c (read.run c) := by
  rw [Cursor.take_eq_run hc] at herror hok
  refine outcome_of_counted (List.nil_append _).symm hsize.symm ?_ ?_
  · intro e he
    exact herror e (Cursor.run_of_error_of_le hc he)
  · intro payload rest hback hcounted
    rw [hsize, Nat.zero_add]
    exact hok payload _ (Cursor.run_of_append hback hcounted)

theorem outcome_skip (hc : c.position ≤ c.data.length) (size : Int) (field : FieldPath) :
    (skip size field).Outcome c ((skip size field).run c) := by
  refine outcome_of_take hc rfl ?_ ?_
  · intro e he
    have htake : c.take size field = .error e := he
    rw [run, Cursor.skip, htake]
    rfl
  · intro payload next hnext
    have htake : c.take size field = .ok (payload, next) := hnext
    rw [run, Cursor.skip, htake]
    rfl

theorem outcome_carve (hc : c.position ≤ c.data.length) (size : Int) (field : FieldPath) :
    (carve size field).Outcome c ((carve size field).run c) := by
  refine outcome_of_take hc rfl ?_ ?_
  · intro e he
    have htake : c.take size field = .error e := he
    rw [run, Cursor.carve, htake]
    rfl
  · intro payload next hnext
    have htake : c.take size field = .ok (payload, next) := hnext
    rw [run, Cursor.carve, htake]
    rfl

theorem Supported.exists_width {size : Int} {field : FieldPath}
    (h : (int size field).Supported) : ∃ width : Width, size = width.size := by
  rcases h with rfl | rfl | rfl | rfl
  · exact ⟨.one, rfl⟩
  · exact ⟨.two, rfl⟩
  · exact ⟨.four, rfl⟩
  · exact ⟨.eight, rfl⟩

/-- At a cursor within its data every read comes out in one of the ways. -/
theorem outcome_run (hc : c.position ≤ c.data.length) (hread : read.Supported) :
    read.Outcome c (read.run c) := by
  cases read with
  | int size field =>
    obtain ⟨width, rfl⟩ := hread.exists_width
    exact outcome_int hc width field
  | string field => exact outcome_string hc field
  | skip size field => exact outcome_skip hc size field
  | carve size field => exact outcome_carve hc size field
  | region field => exact outcome_region hc field

/-- No integers of other sizes are read. -/
theorem run_of_not_supported (hread : ¬ read.Supported) : ∃ e, read.run c = .error e := by
  cases read with
  | int size field =>
    have hnone : Width.ofSize? size = none := by
      simp only [Supported, not_or] at hread
      simp [Width.ofSize?, hread]
    exact ⟨.unsupportedWidth size, by simp only [run, hnone]⟩
  | string _ | skip _ _ | carve _ _ | region _ => exact absurd trivial hread

end Read

/-! ## 3. Which reads fail -/

namespace Read.Outcome

variable {c : Cursor} {read : Read} {result : Except ReadError (ReadValue × List Cursor)}

/-- A read fails for a negative length exactly when it has one … -/
theorem negative_iff (h : read.Outcome c result) :
    (∃ length, length < 0 ∧ result = .error (.decode (.negativeLength read.field length)))
      ↔ read.AsksNegative c := by
  constructor
  · rintro ⟨length, -, rfl⟩
    cases h with
    | negative hunread hlead hneg => exact ⟨_, _, hunread, hlead, hneg⟩
  · rintro ⟨lead, back, hunread, hlead, hneg⟩
    cases h with
    | shortLead hlack =>
      rw [hunread, List.length_append] at hlack
      omega
    | negative hunread' hlead' hneg' => exact ⟨_, hneg', rfl⟩
    | shortPayload hunread' hlead' hneeded hlack =>
      obtain ⟨rfl, -⟩ := List.append_inj (hunread'.symm.trans hunread) (hlead'.trans hlead.symm)
      omega
    | taken hunread' hlead' hpayload =>
      obtain ⟨rfl, -⟩ := List.append_inj (hunread'.symm.trans hunread) (hlead'.trans hlead.symm)
      omega

/-- … and for too few bytes exactly when it lacks some. -/
theorem truncated_iff (h : read.Outcome c result) :
    (∃ needed available : Nat, available < needed
        ∧ result = .error (.decode (.truncated read.field needed available)))
      ↔ read.LacksBytes c := by
  constructor
  · rintro ⟨needed, available, -, hresult⟩
    cases h with
    | shortLead hlack => exact Or.inl hlack
    | negative hunread hlead hneg => cases hresult
    | shortPayload hunread hlead hneeded hlack =>
      exact Or.inr ⟨_, _, hunread, hlead, by omega⟩
    | taken hunread hlead hpayload => cases hresult
  · intro hlacks
    cases h with
    | shortLead hlack => exact ⟨_, _, hlack, rfl⟩
    | shortPayload hunread hlead hneeded hlack => exact ⟨_, _, hlack, rfl⟩
    | negative hunread hlead hneg =>
      rcases hlacks with hshort | ⟨lead', back', hunread', hlead', hshort⟩
      · rw [hunread, List.length_append] at hshort
        omega
      · obtain ⟨rfl, rfl⟩ := List.append_inj (hunread.symm.trans hunread') (hlead.trans hlead'.symm)
        omega
    | taken hunread hlead hpayload =>
      rcases hlacks with hshort | ⟨lead', back', hunread', hlead', hshort⟩
      · rw [hunread, List.length_append] at hshort
        omega
      · obtain ⟨rfl, rfl⟩ := List.append_inj (hunread.symm.trans hunread') (hlead.trans hlead'.symm)
        rw [List.length_append] at hshort
        omega

/-- There are no other failures. -/
theorem error_iff (h : read.Outcome c result) :
    (∃ e, result = .error e) ↔ read.AsksNegative c ∨ read.LacksBytes c := by
  rw [← h.negative_iff, ← h.truncated_iff]
  constructor
  · rintro ⟨e, rfl⟩
    cases h with
    | shortLead hlack => exact Or.inr ⟨_, _, hlack, rfl⟩
    | negative hunread hlead hneg => exact Or.inl ⟨_, hneg, rfl⟩
    | shortPayload hunread hlead hneeded hlack => exact Or.inr ⟨_, _, hlack, rfl⟩
  · rintro (⟨_, -, hresult⟩ | ⟨_, _, -, hresult⟩)
    · exact ⟨_, hresult⟩
    · exact ⟨_, hresult⟩

end Read.Outcome

/-! ## 4. Beyond the end -/

/-- Beyond the end of its data a cursor has nothing to read, and lacks more than is needed. -/
theorem Cursor.run_of_short_of_lt {α : Type} {decoder : Decoder α} {c : Cursor} {field : FieldPath}
    {needed : Nat} (hc : c.data.length < c.position)
    (h : decoder [] = .error (.truncated field needed 0)) :
    c.run decoder = .error (.truncated field needed c.remaining) := by
  have hnone : c.unread = [] := List.drop_eq_nil_of_le (Nat.le_of_lt hc)
  have hlack : (0 : Int) - c.overrun = c.remaining := by
    rw [overrun, remaining]
    omega
  rw [run_of_error (hnone ▸ h), DecodeError.beyondEnd, hlack]

theorem Cursor.take_of_lt {c : Cursor} (hc : c.data.length < c.position) (size : Int)
    (field : FieldPath) :
    c.take size field
      = if size < 0 then .error (.negativeLength field size)
        else .error (.truncated field size.toNat c.remaining) := by
  unfold take
  split
  · rfl
  · next hnonneg =>
    have hlack : c.remaining < size := by
      rw [remaining]
      omega
    rw [if_pos hlack]

/-- Beyond the end every read fails: for the negative size that it was told, or for too few bytes,
of which there are fewer than none. -/
theorem Read.run_of_lt {c : Cursor} (hc : c.data.length < c.position) {read : Read}
    (hread : read.Supported) :
    ∃ e, read.run c = .error (.decode e)
      ∧ ((∃ size < 0, e = .negativeLength read.field size)
        ∨ ∃ needed, e = .truncated read.field needed c.remaining) := by
  have htold : ∀ (size : Int) (field : FieldPath), ∃ e, c.take size field = .error e
      ∧ ((∃ size < 0, e = .negativeLength field size)
        ∨ ∃ needed, e = .truncated field needed c.remaining) := by
    intro size field
    rw [Cursor.take_of_lt hc]
    split
    · next hneg => exact ⟨_, rfl, Or.inl ⟨size, hneg, rfl⟩⟩
    · exact ⟨_, rfl, Or.inr ⟨_, rfl⟩⟩
  cases read with
  | int size field =>
    obtain ⟨width, rfl⟩ := hread.exists_width
    have hshort : c.run (Decoder.int width field)
        = .error (.truncated field width.size c.remaining) :=
      Cursor.run_of_short_of_lt hc (Decoder.int_of_short width.size_pos)
    exact ⟨_, by simp only [run, Width.ofSize?_size, hshort]; rfl, Or.inr ⟨_, rfl⟩⟩
  | string field =>
    have hshort : c.run (Decoder.string field) = .error (.truncated field 2 c.remaining) :=
      Cursor.run_of_short_of_lt hc rfl
    exact ⟨_, by rw [run, hshort]; rfl, Or.inr ⟨_, rfl⟩⟩
  | skip size field =>
    obtain ⟨e, he, hkind⟩ := htold size field
    exact ⟨e, by rw [run, Cursor.skip, he]; rfl, hkind⟩
  | carve size field =>
    obtain ⟨e, he, hkind⟩ := htold size field
    exact ⟨e, by rw [run, Cursor.carve, he]; rfl, hkind⟩
  | region field =>
    have hshort : c.run (Decoder.region field) = .error (.truncated field 4 c.remaining) :=
      Cursor.run_of_short_of_lt hc rfl
    exact ⟨_, by rw [run, Cursor.region, hshort]; rfl, Or.inr ⟨_, rfl⟩⟩

/-! ## 5. Scripts -/

/-- The cursor is within its data, and that is a piece of the first data. -/
structure Cursor.Inside (data : List UInt8) (c : Cursor) : Prop where
  position_le : c.position ≤ c.data.length
  piece : c.data <:+: data

variable {data : List UInt8}

/-- What is read from a cursor inside the data is inside the data. -/
theorem Read.inside_of_run {c : Cursor} (hc : c.Inside data) {read : Read} {value : ReadValue}
    {produced : List Cursor} (h : read.run c = .ok (value, produced)) :
    ∀ next ∈ produced, next.Inside data := by
  by_cases hread : read.Supported
  · have hout := outcome_run hc.position_le hread
    rw [h] at hout
    cases hout with
    | @taken lead payload back hunread hlead hpayload =>
      have hlength : c.data.length - c.position
          = lead.length + (payload.length + back.length) := by
        rw [← List.length_append, ← List.length_append, ← hunread, Cursor.unread, List.length_drop]
      have hposition := hc.position_le
      have hpayload : payload <:+: c.data := by
        have hunreadPiece : c.unread <:+: c.data := (List.drop_suffix _ _).isInfix
        rw [hunread] at hunreadPiece
        exact (List.infix_append' lead payload back).trans hunreadPiece
      intro next hnext
      rcases List.mem_append.mp hnext with hregion | hadvanced
      · have hregion : next = ⟨payload, 0⟩ := by
          cases read <;> simp_all [regions]
        subst hregion
        exact ⟨Nat.zero_le _, hpayload.trans hc.piece⟩
      · obtain rfl := List.mem_singleton.mp hadvanced
        refine ⟨?_, hc.piece⟩
        show c.position + _ ≤ c.data.length
        omega
  · obtain ⟨e, he⟩ := run_of_not_supported (c := c) hread
    rw [h] at he
    cases he

namespace Step

theorem target_mem {cursors : List Cursor} {on : Option Nat} {c : Cursor}
    (h : target cursors on = some c) : c ∈ cursors := by
  cases on with
  | some index => exact List.mem_of_getElem? h
  | none => exact List.mem_of_getLast? h

variable {cursors : List Cursor} {step : Step} {c : Cursor}

/-- A read that fails produces no cursor … -/
theorem run_of_error (htarget : target cursors step.on = some c) {e : ReadError}
    (h : step.read.run c = .error e) : (step.run cursors).2 = cursors := by
  rw [run, htarget]
  simp only [h]

/-- … and the cursors that any other produces come behind those that exist. -/
theorem run_of_ok (htarget : target cursors step.on = some c) {value : ReadValue}
    {produced : List Cursor} (h : step.read.run c = .ok (value, produced)) :
    (step.run cursors).2 = cursors ++ produced := by
  rw [run, htarget]
  simp only [h]

/-- One step keeps the cursors inside the data. -/
theorem inside_run (hinside : ∀ c ∈ cursors, c.Inside data) (step : Step) :
    ∀ c ∈ (step.run cursors).2, c.Inside data := by
  cases htarget : target cursors step.on with
  | none => simpa only [run, htarget] using hinside
  | some c =>
    cases hrun : step.read.run c with
    | error e => rwa [run_of_error htarget hrun]
    | ok result =>
      obtain ⟨value, produced⟩ := result
      rw [run_of_ok htarget hrun]
      intro next hnext
      rcases List.mem_append.mp hnext with hold | hnew
      · exact hinside next hold
      · exact Read.inside_of_run (hinside c (target_mem htarget)) hrun next hnew

/-- By induction on the script. -/
theorem inside_cursorsAfter (script : List Step) (hinside : ∀ c ∈ cursors, c.Inside data) :
    ∀ c ∈ cursorsAfter cursors script, c.Inside data := by
  induction script generalizing cursors with
  | nil => exact hinside
  | cons step rest ih => exact ih (inside_run hinside step)

/-- The last step of a script acts on what the steps in front of it leave. -/
theorem cursorsAfter_append_singleton (script : List Step) (step : Step) :
    cursorsAfter cursors (script ++ [step]) = (step.run (cursorsAfter cursors script)).2 := by
  induction script generalizing cursors with
  | nil => rfl
  | cons first rest ih => exact ih

/-- A single cursor from which nothing can be read stays alone. -/
theorem cursorsAfter_of_fails (hfails : ∀ read : Read, ∃ e, read.run c = .error e)
    (script : List Step) : cursorsAfter [c] script = [c] := by
  induction script with
  | nil => rfl
  | cons step rest ih =>
    have hstay : (step.run [c]).2 = [c] := by
      cases htarget : target [c] step.on with
      | none => simp only [run, htarget]
      | some c' =>
        obtain rfl := List.mem_singleton.mp (target_mem htarget)
        obtain ⟨e, he⟩ := hfails step.read
        exact run_of_error htarget he
    rw [cursorsAfter, hstay, ih]

/-- All the cursors of a script that starts within its data are within theirs, and read pieces of the
first data.  Each read at one of them comes out in one of the four ways: it fails exactly if its
length is negative or it lacks bytes, and otherwise the cursor moves by exactly the bytes that are
read, and a region that is carved out has exactly the bytes of its payload.  A failed read produces
no cursor.  Where the start is beyond the end of the data, every read fails. -/
theorem cursors_contained (data : List UInt8) (position : Nat) (script : List Step) :
    let start : Cursor := ⟨data, position⟩
    let cursors := cursorsAfter [start] script
    (position ≤ data.length →
      ∀ c ∈ cursors,
        (c.position ≤ c.data.length ∧ c.data <:+: data)
        ∧ c.remaining = c.unread.length
        ∧ ∀ read : Read, read.Supported →
          read.Outcome c (read.run c)
          ∧ ((∃ e, read.run c = .error e) ↔ read.AsksNegative c ∨ read.LacksBytes c)
          ∧ ((∃ length, length < 0
                ∧ read.run c = .error (.decode (.negativeLength read.field length)))
              ↔ read.AsksNegative c)
          ∧ ((∃ needed available : Nat, available < needed
                ∧ read.run c = .error (.decode (.truncated read.field needed available)))
              ↔ read.LacksBytes c))
    ∧ (∀ (step : Step) (c : Cursor), target cursors step.on = some c →
      (∀ e, step.read.run c = .error e → cursorsAfter [start] (script ++ [step]) = cursors)
      ∧ ∀ value produced, step.read.run c = .ok (value, produced) →
        cursorsAfter [start] (script ++ [step]) = cursors ++ produced)
    ∧ (data.length < position →
      cursors = [start] ∧ start.remaining < 0
      ∧ ∀ read : Read, read.Supported →
        ∃ e, read.run start = .error (.decode e)
          ∧ ((∃ size < 0, e = .negativeLength read.field size)
            ∨ ∃ needed, e = .truncated read.field needed start.remaining)) := by
  intro start cursors
  refine ⟨?_, ?_, ?_⟩
  · intro hstart c hc
    have hfirst : ∀ c ∈ [start], c.Inside data := by
      intro c hc
      obtain rfl := List.mem_singleton.mp hc
      exact ⟨hstart, List.infix_rfl⟩
    have hinside := inside_cursorsAfter script hfirst c hc
    refine ⟨⟨hinside.position_le, hinside.piece⟩, Cursor.remaining_eq hinside.position_le, ?_⟩
    intro read hread
    have hout := Read.outcome_run hinside.position_le hread
    exact ⟨hout, hout.error_iff, hout.negative_iff, hout.truncated_iff⟩
  · intro step c htarget
    rw [cursorsAfter_append_singleton]
    exact ⟨fun e he => run_of_error htarget he, fun value produced h => run_of_ok htarget h⟩
  · intro hbeyond
    have hfails : ∀ read : Read, ∃ e, read.run start = .error e := by
      intro read
      by_cases hread : read.Supported
      · obtain ⟨e, he, -⟩ := Read.run_of_lt (c := start) hbeyond hread
        exact ⟨_, he⟩
      · exact Read.run_of_not_supported hread
    refine ⟨cursorsAfter_of_fails hfails script, ?_, fun read => Read.run_of_lt hbeyond⟩
    show (data.length : Int) - position < 0
    omega

/-- A region, a text in it, a size that is negative and one that is too large. -/
theorem cursors_contained_of_region :
    let data : List UInt8 := [0xaa, 0, 0, 0, 3, 0, 1, 0x74, 0xee]
    let script : List Step := [⟨none, .region (.root "r")⟩, ⟨some 1, .string (.root "s")⟩,
      ⟨some 0, .skip (-1) (.root "t")⟩, ⟨some 2, .carve 2147483647 (.root "u")⟩]
    let cursors := cursorsAfter [⟨data, 1⟩] script
    cursors = [⟨data, 1⟩, ⟨[0, 1, 0x74], 0⟩, ⟨data, 8⟩, ⟨[0, 1, 0x74], 3⟩]
    ∧ ∀ c ∈ cursors, c.position ≤ c.data.length ∧ c.data <:+: data := by
  intro data script cursors
  refine ⟨by decide +kernel, ?_⟩
  intro c hc
  exact ((cursors_contained data 1 script).1 (by decide) c hc).1

end Step

end ConsumerOffsets.Binary
