/-
# Text is replaced exactly where it is ill-formed

The reader of text judges bytes one by one, from a beginning that it has already judged
(`Sequence.ofBytes`).  Here this is measured against the table of well-formed sequences: what a
beginning and one more byte are judged to be is what they are (`isOf_ofBytes`).  So the reader
cuts any bytes into sequences and maximal subparts (`decomposes_segments`), and there is no other
way to cut them (`Decomposes.unique`).

The main statement, `Binary.Cursor.reads_text_in_pieces`, is about a text behind its length at a
cursor, whatever stands around it: what is read has one scalar for each sequence and one
replacement character for each maximal subpart.
-/
import Mathlib.Tactic.SplitIfs
import ConsumerOffsets.Text.Utf8.Table
import ConsumerOffsets.Proofs.WellFormedText
import ConsumerOffsets.Proofs.CursorRuns

namespace ConsumerOffsets

namespace Text.Utf8

/-! ## 1. Beginnings of sequences -/

/-- The bytes lie in the first ranges of a row, one byte in each, and leave some ranges over. -/
def InFront : List ByteRange → List UInt8 → Prop
  | _ :: _, [] => True
  | range :: row, b :: bytes => (range.1 ≤ b ∧ b ≤ range.2) ∧ InFront row bytes
  | [], _ => False

/-- The bytes are the beginning of a longer sequence. -/
def Begins (bytes : List UInt8) : Prop := ∃ more, more ≠ [] ∧ IsSequence (bytes ++ more)

theorem isInitial_iff {bytes : List UInt8} : IsInitial bytes ↔ IsSequence bytes ∨ Begins bytes := by
  constructor
  · rintro ⟨more, hmore⟩
    by_cases hne : more = []
    · rw [hne, List.append_nil] at hmore
      exact Or.inl hmore
    · exact Or.inr ⟨more, hne, hmore⟩
  · rintro (h | ⟨more, -, hmore⟩)
    · exact ⟨[], by rwa [List.append_nil]⟩
    · exact ⟨more, hmore⟩

theorem IsSequence.isInitial {bytes : List UInt8} (h : IsSequence bytes) : IsInitial bytes :=
  isInitial_iff.mpr (Or.inl h)

/-- What is in front of a beginning is one too. -/
theorem IsInitial.of_prefix {w bytes : List UInt8} (h : IsInitial bytes) (hw : w <+: bytes) :
    IsInitial w := by
  obtain ⟨between, rfl⟩ := hw
  obtain ⟨more, hmore⟩ := h
  exact ⟨between ++ more, by rwa [← List.append_assoc]⟩

theorem Begins.of_prefix {w bytes : List UInt8} (h : Begins bytes) (hw : w <+: bytes) :
    Begins w := by
  obtain ⟨between, rfl⟩ := hw
  obtain ⟨more, hne, hmore⟩ := h
  exact ⟨between ++ more, List.append_ne_nil_of_right_ne_nil between hne, by
    rwa [← List.append_assoc]⟩

/-- There are bytes for every row of ranges that are not empty. -/
theorem exists_inRow : ∀ {row : List ByteRange}, (∀ range ∈ row, range.1 ≤ range.2) →
    ∃ bytes, InRow row bytes
  | [], _ => ⟨[], trivial⟩
  | range :: row, h => by
    obtain ⟨bytes, hbytes⟩ := exists_inRow fun r hr => h r (List.mem_cons_of_mem _ hr)
    exact ⟨range.1 :: bytes, ⟨UInt8.le_refl _, h range List.mem_cons_self⟩, hbytes⟩

theorem inFront_iff : ∀ {row : List ByteRange}, (∀ range ∈ row, range.1 ≤ range.2) →
    ∀ {bytes : List UInt8}, InFront row bytes ↔ ∃ more, more ≠ [] ∧ InRow row (bytes ++ more)
  | [], _, bytes => by
    constructor
    · exact False.elim
    · rintro ⟨more, hne, hin⟩
      cases hbytes : bytes ++ more with
      | nil => exact hne (List.append_eq_nil_iff.mp hbytes).2
      | cons b rest => rwa [hbytes] at hin
  | range :: row, h, [] => by
    obtain ⟨bytes, hbytes⟩ := exists_inRow h
    refine ⟨fun _ => ⟨bytes, ?_, hbytes⟩, fun _ => trivial⟩
    rintro rfl
    exact hbytes
  | range :: row, h, b :: bytes => by
    have hrow : ∀ r ∈ row, r.1 ≤ r.2 := fun r hr => h r (List.mem_cons_of_mem _ hr)
    constructor
    · rintro ⟨hb, hfront⟩
      obtain ⟨more, hne, hmore⟩ := (inFront_iff hrow).mp hfront
      exact ⟨more, hne, hb, hmore⟩
    · rintro ⟨more, hne, hb, hmore⟩
      exact ⟨hb, (inFront_iff hrow).mpr ⟨more, hne, hmore⟩⟩

theorem ranges_of_table : ∀ row ∈ table, ∀ range ∈ row, range.1 ≤ range.2 := by
  have hall : (table.all fun row => row.all fun range => decide (range.1 ≤ range.2)) = true := by
    decide
  simpa [List.all_eq_true] using hall

theorem begins_iff {bytes : List UInt8} : Begins bytes ↔ ∃ row ∈ table, InFront row bytes := by
  constructor
  · rintro ⟨more, hne, row, hrow, hin⟩
    exact ⟨row, hrow, (inFront_iff (ranges_of_table row hrow)).mpr ⟨more, hne, hin⟩⟩
  · rintro ⟨row, hrow, hfront⟩
    obtain ⟨more, hne, hin⟩ := (inFront_iff (ranges_of_table row hrow)).mp hfront
    exact ⟨more, hne, row, hrow, hin⟩

/-! ## 2. The table by the number of bytes -/

section ByLength

variable {a b c d : UInt8}

theorem isTrailing_iff : isTrailing b = true ↔ 0x80 ≤ b.toNat ∧ b.toNat ≤ 0xBF := by
  simp [isTrailing, UInt8.le_iff_toNat_le]

theorem isSecond_iff : isSecond a b = true ↔ isTrailing b = true
    ∧ (a.toNat = 0xE0 → 0xA0 ≤ b.toNat) ∧ (a.toNat = 0xED → b.toNat ≤ 0x9F)
    ∧ (a.toNat = 0xF0 → 0x90 ≤ b.toNat) ∧ (a.toNat = 0xF4 → b.toNat ≤ 0x8F) := by
  rw [isTrailing_iff]
  simp only [isSecond, isTrailing, ← UInt8.toNat_inj, UInt8.le_iff_toNat_le, UInt8.reduceToNat]
  split_ifs <;> simp only [Bool.and_eq_true, decide_eq_true_eq] <;> omega

theorem isSequence_one_iff : IsSequence [a] ↔ a.toNat < 0x80 := by
  simp [IsSequence, table, InRow, UInt8.le_iff_toNat_le]
  omega

theorem isSequence_two_iff : IsSequence [a, b] ↔
    (0xC2 ≤ a.toNat ∧ a.toNat < 0xE0) ∧ isSecond a b = true := by
  simp [IsSequence, table, InRow, UInt8.le_iff_toNat_le, isSecond_iff, isTrailing_iff]
  omega

theorem isSequence_three_iff : IsSequence [a, b, c] ↔
    (0xE0 ≤ a.toNat ∧ a.toNat < 0xF0) ∧ isSecond a b = true ∧ isTrailing c = true := by
  simp [IsSequence, table, InRow, UInt8.le_iff_toNat_le, isSecond_iff, isTrailing_iff]
  omega

theorem isSequence_four_iff : IsSequence [a, b, c, d] ↔ (0xF0 ≤ a.toNat ∧ a.toNat ≤ 0xF4)
    ∧ isSecond a b = true ∧ isTrailing c = true ∧ isTrailing d = true := by
  simp [IsSequence, table, InRow, UInt8.le_iff_toNat_le, isSecond_iff, isTrailing_iff]
  omega

theorem begins_one_iff : Begins [a] ↔ 0xC2 ≤ a.toNat ∧ a.toNat ≤ 0xF4 := by
  simp [begins_iff, table, InFront, UInt8.le_iff_toNat_le]
  omega

theorem begins_two_iff : Begins [a, b] ↔
    (0xE0 ≤ a.toNat ∧ a.toNat ≤ 0xF4) ∧ isSecond a b = true := by
  simp [begins_iff, table, InFront, UInt8.le_iff_toNat_le, isSecond_iff, isTrailing_iff]
  omega

theorem begins_three_iff : Begins [a, b, c] ↔
    (0xF0 ≤ a.toNat ∧ a.toNat ≤ 0xF4) ∧ isSecond a b = true ∧ isTrailing c = true := by
  simp [begins_iff, table, InFront, UInt8.le_iff_toNat_le, isSecond_iff, isTrailing_iff]
  omega

/-- No sequence is longer than four bytes. -/
theorem not_begins_of_four {more : List UInt8} : ¬ Begins (a :: b :: c :: d :: more) := by
  simp [begins_iff, table, InFront]

end ByLength

/-- No sequence is the beginning of another. -/
theorem IsSequence.not_begins : ∀ {w : List UInt8}, IsSequence w → ¬ Begins w
  | [], h, _ => absurd h (by decide)
  | [_], h, h' => by
    have hshort := isSequence_one_iff.mp h
    have hlong := begins_one_iff.mp h'
    omega
  | [_, _], h, h' => by
    have hshort := (isSequence_two_iff.mp h).1
    have hlong := (begins_two_iff.mp h').1
    omega
  | [_, _, _], h, h' => by
    have hshort := (isSequence_three_iff.mp h).1
    have hlong := (begins_three_iff.mp h').1
    omega
  | _ :: _ :: _ :: _ :: _, _, h' => not_begins_of_four h'

/-- Two sequences at the front of the same bytes are the same. -/
theorem IsSequence.eq_of_prefix {w w' bytes : List UInt8} (h : IsSequence w) (h' : IsSequence w')
    (hw : w <+: bytes) (hw' : w' <+: bytes) : w = w' := by
  have hends : ∀ {v v' : List UInt8}, IsSequence v → IsSequence v' → v <+: v' → v = v' := by
    rintro v _ hv hv' ⟨more, rfl⟩
    by_cases hne : more = []
    · rw [hne, List.append_nil]
    · exact absurd ⟨more, hne, hv'⟩ hv.not_begins
  rcases List.prefix_or_prefix_of_prefix hw hw' with hle | hle
  · exact hends h h' hle
  · exact (hends h' h hle).symm

/-! ## 3. What a byte is judged to be -/

/-- The judgement fits the bytes. -/
def Sequence.IsOf (bytes : List UInt8) : Sequence → Prop
  | complete c => IsSequence bytes ∧ encodeChar c = bytes
  | unfinished => Begins bytes
  | illFormed => ¬ IsInitial bytes

theorem toNat_charOfNat {n : Nat} (h : n.isValidChar) : (Char.ofNat n).toNat = n := by
  rw [Char.ofNat, dif_pos h]
  rfl

theorem encodeChar_ofNat {n : Nat} (h : n.isValidChar) : encodeChar (Char.ofNat n)
    = if n < 0x80 then [UInt8.ofNat n]
      else if n < 0x800 then [UInt8.ofNat (0xC0 + n / 64), trailing n]
      else if n < 0x10000 then [UInt8.ofNat (0xE0 + n / 4096), trailing (n / 64), trailing n]
      else
        [UInt8.ofNat (0xF0 + n / 262144), trailing (n / 4096), trailing (n / 64), trailing n] := by
  simp only [encodeChar, toNat_charOfNat h, trailing, Nat.div_one]

theorem payload_lt (b : UInt8) : payload b < 64 := Nat.mod_lt _ (by decide)

/-- A trailing byte is its payload, marked. -/
theorem payload_add {b : UInt8} (h : isTrailing b = true) : payload b + 0x80 = b.toNat := by
  have hb := isTrailing_iff.mp h
  rw [payload]
  omega

theorem trailing_eq {n : Nat} {b : UInt8} (h : isTrailing b = true) (hn : n % 64 = payload b) :
    trailing n = b := by
  have hb := payload_add h
  rw [← UInt8.toNat_inj, toNat_trailing]
  omega

section Judged

variable {a b c : UInt8}

theorem isOf_ofBytes_one (a : UInt8) : (Sequence.ofBytes [a]).IsOf [a] := by
  rw [Sequence.ofBytes]
  simp only [Bool.and_eq_true, decide_eq_true_eq, UInt8.lt_iff_toNat_lt, UInt8.le_iff_toNat_le,
    UInt8.reduceToNat]
  split_ifs with hascii hlead
  · have hvalid : a.toNat.isValidChar := Or.inl (by omega)
    refine ⟨isSequence_one_iff.mpr hascii, ?_⟩
    rw [encodeChar_ofNat hvalid, if_pos hascii, UInt8.ofNat_toNat]
  · exact begins_one_iff.mpr hlead
  · rw [Sequence.IsOf, isInitial_iff, isSequence_one_iff, begins_one_iff]
    omega

theorem isOf_ofBytes_two (h : Begins [a]) (b : UInt8) :
    (Sequence.ofBytes [a, b]).IsOf [a, b] := by
  have hlead := begins_one_iff.mp h
  rw [Sequence.ofBytes]
  simp only [Bool.not_eq_true', UInt8.lt_iff_toNat_lt, UInt8.reduceToNat]
  split_ifs with hsecond hshort
  · simp [Sequence.IsOf, isInitial_iff, isSequence_two_iff, begins_two_iff, hsecond]
  · rw [Bool.not_eq_false] at hsecond
    have hb := (isSecond_iff.mp hsecond).1
    have hpb := payload_lt b
    have hvalid : (a.toNat % 32 * 64 + payload b).isValidChar := Or.inl (by omega)
    have hfirst : UInt8.ofNat (0xC0 + (a.toNat % 32 * 64 + payload b) / 64) = a := by
      rw [ofNat_eq_iff (by omega)]
      omega
    refine ⟨isSequence_two_iff.mpr ⟨⟨hlead.1, hshort⟩, hsecond⟩, ?_⟩
    rw [encodeChar_ofNat hvalid, if_neg (by omega), if_pos (by omega), hfirst,
      trailing_eq hb (by omega)]
  · rw [Bool.not_eq_false] at hsecond
    exact begins_two_iff.mpr ⟨⟨by omega, hlead.2⟩, hsecond⟩

theorem isOf_ofBytes_three (h : Begins [a, b]) (c : UInt8) :
    (Sequence.ofBytes [a, b, c]).IsOf [a, b, c] := by
  obtain ⟨hlead, hsecond⟩ := begins_two_iff.mp h
  rw [Sequence.ofBytes]
  simp only [Bool.not_eq_true', UInt8.lt_iff_toNat_lt, UInt8.reduceToNat]
  split_ifs with hthird hshort
  · simp [Sequence.IsOf, isInitial_iff, isSequence_three_iff, begins_three_iff, hthird]
  · rw [Bool.not_eq_false] at hthird
    obtain ⟨hb, hspecial⟩ := isSecond_iff.mp hsecond
    have hvalue := payload_add hb
    have hpb := payload_lt b
    have hpc := payload_lt c
    -- the second byte keeps out what two bytes encode, and the surrogates
    have hlong : 0x800 ≤ a.toNat % 16 * 4096 + payload b * 64 + payload c := by omega
    have hvalid : (a.toNat % 16 * 4096 + payload b * 64 + payload c).isValidChar := by
      rw [Nat.isValidChar]
      omega
    have hfirst : UInt8.ofNat (0xE0 + (a.toNat % 16 * 4096 + payload b * 64 + payload c) / 4096)
        = a := by
      rw [ofNat_eq_iff (by omega)]
      omega
    refine ⟨isSequence_three_iff.mpr ⟨⟨hlead.1, hshort⟩, hsecond, hthird⟩, ?_⟩
    rw [encodeChar_ofNat hvalid, if_neg (by omega), if_neg (by omega), if_pos (by omega), hfirst,
      trailing_eq hb (by omega), trailing_eq hthird (by omega)]
  · rw [Bool.not_eq_false] at hthird
    exact begins_three_iff.mpr ⟨⟨by omega, hlead.2⟩, hsecond, hthird⟩

theorem isOf_ofBytes_four (h : Begins [a, b, c]) (d : UInt8) :
    (Sequence.ofBytes [a, b, c, d]).IsOf [a, b, c, d] := by
  obtain ⟨hlead, hsecond, hthird⟩ := begins_three_iff.mp h
  rw [Sequence.ofBytes]
  simp only [Bool.not_eq_true']
  split_ifs with hfourth
  · simp [Sequence.IsOf, isInitial_iff, isSequence_four_iff, not_begins_of_four, hfourth]
  · rw [Bool.not_eq_false] at hfourth
    obtain ⟨hb, hspecial⟩ := isSecond_iff.mp hsecond
    have hvalue := payload_add hb
    have hpb := payload_lt b
    have hpc := payload_lt c
    have hpd := payload_lt d
    -- the second byte keeps out what three bytes encode, and what lies beyond the last scalar
    have hlong : 0x10000
        ≤ a.toNat % 8 * 262144 + payload b * 4096 + payload c * 64 + payload d := by
      omega
    have hvalid : (a.toNat % 8 * 262144 + payload b * 4096 + payload c * 64
        + payload d).isValidChar := Or.inr (by omega)
    have hfirst : UInt8.ofNat
        (0xF0 + (a.toNat % 8 * 262144 + payload b * 4096 + payload c * 64 + payload d) / 262144)
          = a := by
      rw [ofNat_eq_iff (by omega)]
      omega
    refine ⟨isSequence_four_iff.mpr ⟨hlead, hsecond, hthird, hfourth⟩, ?_⟩
    rw [encodeChar_ofNat hvalid, if_neg (by omega), if_neg (by omega), if_neg (by omega), hfirst,
      trailing_eq hb (by omega), trailing_eq hthird (by omega), trailing_eq hfourth (by omega)]

end Judged

/-- A beginning, be it empty, and one more byte are judged as what they are. -/
theorem isOf_ofBytes : ∀ {begun : List UInt8}, Begins begun → ∀ b : UInt8,
    (Sequence.ofBytes (begun ++ [b])).IsOf (begun ++ [b])
  | [], _, b => isOf_ofBytes_one b
  | [_], h, b => isOf_ofBytes_two h b
  | [_, _], h, b => isOf_ofBytes_three h b
  | [_, _, _], h, b => isOf_ofBytes_four h b
  | _ :: _ :: _ :: _ :: _, h, _ => absurd h not_begins_of_four

/-! ## 4. Cutting bytes -/

section Stopped

variable {begun rest : List UInt8}

/-- When no sequence begins like the bytes with the next one behind them, every beginning of a
sequence in front is within them. -/
theorem prefix_of_isInitial (hstop : ∀ b more, rest = b :: more → ¬ IsInitial (begun ++ [b]))
    {w : List UInt8} (hw : w <+: begun ++ rest) (hinitial : IsInitial w) : w <+: begun := by
  rcases List.prefix_or_prefix_of_prefix hw (List.prefix_append begun rest) with hle | ⟨extra, rfl⟩
  · exact hle
  · cases extra with
    | nil => simp
    | cons b extra =>
      obtain ⟨after, hafter⟩ := hw
      rw [List.append_assoc, List.append_cancel_left_eq] at hafter
      have hb : begun ++ [b] <+: begun ++ b :: extra := ⟨extra, by simp⟩
      exact absurd (hinitial.of_prefix hb) (hstop b (extra ++ after) hafter.symm)

theorem maximalSubpart_of_begins (h : Begins begun) (hne : begun ≠ [])
    (hstop : ∀ b more, rest = b :: more → ¬ IsInitial (begun ++ [b])) :
    MaximalSubpart begun rest := by
  refine ⟨?_, Or.inr ⟨hne, isInitial_iff.mpr (Or.inr h)⟩, ?_⟩
  · intro w hw hsequence
    have hwithin : w <+: begun := prefix_of_isInitial hstop hw hsequence.isInitial
    exact hsequence.not_begins (h.of_prefix hwithin)
  · intro w hw hinitial
    exact (prefix_of_isInitial hstop hw hinitial).length_le

/-- A byte that begins no sequence is a maximal subpart of its own. -/
theorem maximalSubpart_singleton {b : UInt8} (h : ¬ IsInitial [b]) : MaximalSubpart [b] rest := by
  have hstop : ∀ b' more, b :: rest = b' :: more → ¬ IsInitial ([] ++ [b']) := by
    intro b' more heq
    cases heq
    exact h
  have hempty : ∀ w, w <+: [b] ++ rest → IsInitial w → w = [] := by
    intro w hw hinitial
    exact List.prefix_nil.mp (prefix_of_isInitial hstop hw hinitial)
  refine ⟨?_, Or.inl rfl, ?_⟩
  · intro w hw hsequence
    rw [hempty w hw hsequence.isInitial] at hsequence
    exact absurd hsequence (by decide)
  · intro w hw hinitial
    rw [hempty w hw hinitial]
    exact Nat.zero_le _

end Stopped

theorem begins_nil : Begins [] := ⟨[0], by simp, by decide⟩

/-- A byte that cannot continue what has begun ends it, and is looked at afresh. -/
theorem segmentsAfter_of_illFormed {begun rest : List UInt8} {b : UInt8} (hne : begun ≠ [])
    (h : Sequence.ofBytes (begun ++ [b]) = .illFormed) :
    segmentsAfter begun (b :: rest) = .illFormed begun :: segmentsAfter [] (b :: rest) := by
  have hempty : begun.isEmpty = false := List.isEmpty_eq_false_iff.mpr hne
  rw [segmentsAfter, h, segmentsAfter, List.nil_append]
  cases Sequence.ofBytes [b] <;> simp [hempty]

/-- The bytes are cut as the table says behind everything that a sequence can begin with. -/
def CutsRest (rest : List UInt8) : Prop :=
  ∀ {begun : List UInt8}, Begins begun → Decomposes (begun ++ rest) (segmentsAfter begun rest)

section Step

variable {begun rest : List UInt8} {b : UInt8}

/-- A byte that continues or completes what has begun leaves the rest to be cut; what is done with
one that does neither depends on whether something has begun. -/
theorem CutsRest.decomposes_cons (hrest : CutsRest rest) (hbegun : Begins begun)
    (hill : Sequence.ofBytes (begun ++ [b]) = .illFormed → ¬ IsInitial (begun ++ [b]) →
      Decomposes (begun ++ b :: rest) (segmentsAfter begun (b :: rest))) :
    Decomposes (begun ++ b :: rest) (segmentsAfter begun (b :: rest)) := by
  have hjudged := isOf_ofBytes hbegun b
  cases hseq : Sequence.ofBytes (begun ++ [b]) with
  | complete c =>
    rw [hseq] at hjudged
    rw [segmentsAfter_of_complete hseq, List.append_cons]
    exact Decomposes.sequence hjudged.1 hjudged.2 (hrest begins_nil)
  | unfinished =>
    rw [hseq] at hjudged
    rw [segmentsAfter_of_unfinished hseq, List.append_cons]
    exact hrest hjudged
  | illFormed =>
    rw [hseq] at hjudged
    exact hill hseq hjudged

/-- A byte in front of which nothing has begun. -/
theorem CutsRest.decomposes_fresh (hrest : CutsRest rest) :
    Decomposes (b :: rest) (segmentsAfter [] (b :: rest)) := by
  refine hrest.decomposes_cons begins_nil fun hseq hinitial => ?_
  have hcut : segmentsAfter [] (b :: rest) = .illFormed [b] :: segmentsAfter [] rest := by
    rw [segmentsAfter, hseq]
    rfl
  rw [hcut]
  exact Decomposes.subpart (maximalSubpart_singleton hinitial) (hrest begins_nil)

theorem CutsRest.cons (hrest : CutsRest rest) : CutsRest (b :: rest) := by
  intro begun hbegun
  refine hrest.decomposes_cons hbegun fun hseq hinitial => ?_
  by_cases hne : begun = []
  · rw [hne]
    exact hrest.decomposes_fresh
  · have hpart : MaximalSubpart begun (b :: rest) := by
      refine maximalSubpart_of_begins hbegun hne ?_
      intro b' more heq
      cases heq
      exact hinitial
    rw [segmentsAfter_of_illFormed hne hseq]
    exact Decomposes.subpart hpart hrest.decomposes_fresh

end Step

/-- The reader cuts any bytes as the table says: induction on the bytes that it has not looked at,
whatever it has begun with. -/
theorem cutsRest (rest : List UInt8) : CutsRest rest := by
  induction rest with
  | nil =>
    intro begun hbegun
    cases begun with
    | nil => exact Decomposes.nil
    | cons a begun =>
      have hpart : MaximalSubpart (a :: begun) [] :=
        maximalSubpart_of_begins hbegun (by simp) (by simp)
      exact Decomposes.subpart hpart Decomposes.nil
  | cons b rest ih => exact ih.cons

theorem decomposes_segments (raw : List UInt8) : Decomposes raw (segments raw) :=
  cutsRest raw begins_nil

/-! ## 5. There is one way to cut bytes -/

theorem MaximalSubpart.ne_nil {part rest : List UInt8} (h : MaximalSubpart part rest) :
    part ≠ [] := by
  rcases h.piece with hone | ⟨hne, -⟩
  · rintro rfl
    cases hone
  · exact hne

/-- Of two maximal subparts at the front of the same bytes neither is the longer one. -/
theorem MaximalSubpart.length_le {part rest part' rest' : List UInt8}
    (h : MaximalSubpart part rest) (h' : MaximalSubpart part' rest')
    (heq : part ++ rest = part' ++ rest') : part'.length ≤ part.length := by
  rcases h'.piece with hone | ⟨-, hinitial⟩
  · have hpos : 0 < part.length := List.length_pos_iff.mpr h.ne_nil
    omega
  · have hprefix : part' <+: part ++ rest := by
      rw [heq]
      exact List.prefix_append part' rest'
    exact h.longest part' hprefix hinitial

theorem encodeChar_injective : Function.Injective encodeChar := by
  intro c c' heq
  have h := segmentsAfter_encodeChar c []
  rw [heq, segmentsAfter_encodeChar] at h
  simpa using h.symm

theorem IsSequence.ne_nil {w : List UInt8} (h : IsSequence w) : w ≠ [] := by
  rintro rfl
  exact absurd h (by decide)

/-- No piece is empty. -/
theorem Decomposes.length_le {raw : List UInt8} {pieces : List Segment}
    (h : Decomposes raw pieces) : pieces.length ≤ raw.length := by
  induction h with
  | nil => exact Nat.le_refl _
  | sequence hw _ _ ih =>
    have hpos := List.length_pos_iff.mpr hw.ne_nil
    rw [List.length_cons, List.length_append]
    omega
  | subpart hpart _ ih =>
    have hpos := List.length_pos_iff.mpr hpart.ne_nil
    rw [List.length_cons, List.length_append]
    omega

/-- The same bytes are cut the same way: what stands first decides whether it is a sequence or a
maximal subpart, and where it ends. -/
theorem Decomposes.unique {raw raw' : List UInt8} {pieces pieces' : List Segment}
    (h : Decomposes raw pieces) (h' : Decomposes raw' pieces') (heq : raw = raw') :
    pieces = pieces' := by
  induction h generalizing raw' pieces' with
  | nil =>
    rw [← heq] at h'
    have hlength : pieces'.length = 0 := Nat.le_zero.mp h'.length_le
    exact (List.length_eq_zero_iff.mp hlength).symm
  | @sequence w rest c pieces hw hc _ ih =>
    have hfront : w <+: raw' := ⟨rest, heq⟩
    cases h' with
    | nil => exact absurd (List.prefix_nil.mp hfront) hw.ne_nil
    | sequence hw' hc' hrest' =>
      obtain rfl := hw.eq_of_prefix hw' hfront (List.prefix_append ..)
      rw [encodeChar_injective (hc.trans hc'.symm), ih hrest' (List.append_cancel_left heq)]
    | subpart hpart' _ => exact absurd hw (hpart'.unconvertible w hfront)
  | @subpart part rest pieces hpart _ ih =>
    have hfront : part <+: raw' := ⟨rest, heq⟩
    cases h' with
    | nil => exact absurd (List.prefix_nil.mp hfront) hpart.ne_nil
    | @sequence w' rest' _ _ hw' _ _ =>
      have hfront' : w' <+: part ++ rest := ⟨rest', heq.symm⟩
      exact absurd hw' (hpart.unconvertible w' hfront')
    | subpart hpart' hrest' =>
      have hlength := Nat.le_antisymm (hpart'.length_le hpart heq.symm) (hpart.length_le hpart' heq)
      obtain ⟨rfl, hrest⟩ := List.append_inj heq hlength
      rw [ih hrest' hrest]

/-! ## 6. Well-formed bytes -/

/-- Scalars are encoded by sequences. -/
theorem isSequence_encodeChar (c : Char) : IsSequence (encodeChar c) := by
  have h := decomposes_segments (encodeChar c ++ [])
  rw [segments, segmentsAfter_encodeChar] at h
  generalize encodeChar c ++ [] = raw at h
  cases h with
  | sequence hw hc _ => rwa [hc]

/-- Every sequence encodes a scalar. -/
theorem IsSequence.exists_encodeChar {w : List UInt8} (h : IsSequence w) :
    ∃ c, encodeChar c = w := by
  have hcut := decomposes_segments w
  generalize segments w = pieces at hcut
  generalize hraw : w = raw at hcut
  cases hcut with
  | nil => exact absurd hraw h.ne_nil
  | @sequence w' rest c _ hw' hc _ =>
    have hsame : w = w' := h.eq_of_prefix hw' List.prefix_rfl ⟨rest, hraw.symm⟩
    exact ⟨c, hc.trans (hsame.symm.trans hraw)⟩
  | subpart hpart _ => exact absurd h (hpart.unconvertible w ⟨[], by simpa using hraw⟩)

/-- Bytes are the UTF-8 of some text exactly when they are sequences. -/
theorem inSequences_iff {bytes : List UInt8} : InSequences bytes ↔ WellFormed bytes := by
  constructor
  · rintro ⟨sequences, hall, rfl⟩
    induction sequences with
    | nil => exact ⟨"", rfl⟩
    | cons w sequences ih =>
      obtain ⟨c, hc⟩ := (hall w List.mem_cons_self).exists_encodeChar
      obtain ⟨text, htext⟩ := ih fun v hv => hall v (List.mem_cons_of_mem _ hv)
      refine ⟨String.ofList (c :: text.toList), ?_⟩
      rw [List.flatten_cons, htext, encode, encode, String.toList_ofList, List.flatMap_cons, hc]
  · rintro ⟨text, rfl⟩
    refine ⟨text.toList.map encodeChar, ?_, List.flatMap_def ..⟩
    intro w hw
    obtain ⟨c, -, rfl⟩ := List.mem_map.mp hw
    exact isSequence_encodeChar c

theorem encode_decode_iff {raw : List UInt8} : encode (decode raw) = raw ↔ InSequences raw := by
  rw [inSequences_iff]
  constructor
  · intro h
    exact ⟨decode raw, h.symm⟩
  · rintro ⟨text, rfl⟩
    rw [decode_encode]

theorem length_decode_le (raw : List UInt8) : (decode raw).length ≤ raw.length := by
  have hpieces := (decomposes_segments raw).length_le
  simpa [decode] using hpieces

end Text.Utf8

namespace Binary.Cursor

open Text.Utf8

/-! ## 7. A text at a cursor -/

/-- Behind their length, whatever stands around the two, the bytes are read as the text, and the
cursor is left behind them. -/
def ReadsText (raw : List UInt8) (text : String) : Prop :=
  ∀ (front rest : List UInt8) (field : FieldPath),
    run (Decoder.string field) ⟨front ++ (Encoder.string raw ++ rest), front.length⟩
      = .ok (text, ⟨front ++ (Encoder.string raw ++ rest), front.length + (2 + raw.length)⟩)

theorem readsText_decode {raw : List UInt8} (h : raw.length ≤ Encoder.maxStringLength) :
    ReadsText raw (decode raw) := by
  intro front rest field
  have hrun := run_of_reads (Decoder.reads_string h field) front rest
  rwa [Encoder.length_string] at hrun

/-- Any bytes that a length can announce are read as a text, with one scalar for each sequence and
one replacement character for each maximal subpart of the one way to cut them.  So the UTF-8 of a
text is read as that text; what is read encodes to the bytes again exactly when they are
sequences; it has no more characters than there are bytes, and no surrogate; and sequences in
front are read as their text, followed by what the bytes behind them are read as alone. -/
theorem reads_text_in_pieces (raw : List UInt8) (h : raw.length ≤ Encoder.maxStringLength) :
    ∃ text, ReadsText raw text
      ∧ (∃ pieces, Decomposes raw pieces ∧ (∀ other, Decomposes raw other → other = pieces)
        ∧ text = String.ofList (pieces.map Segment.char))
      ∧ (∀ scalars : String, raw = encode scalars → text = scalars)
      ∧ (encode text = raw ↔ InSequences raw)
      ∧ text.length ≤ raw.length
      ∧ (∀ c ∈ text.toList, ¬ (0xD800 ≤ c.toNat ∧ c.toNat ≤ 0xDFFF))
      ∧ ∀ a b, raw = a ++ b → InSequences a →
        ∃ s t, encode s = a ∧ ReadsText a s ∧ ReadsText b t ∧ text = s ++ t := by
  refine ⟨decode raw, readsText_decode h, ?_, ?_, encode_decode_iff, length_decode_le raw, ?_, ?_⟩
  · have hcut := decomposes_segments raw
    exact ⟨segments raw, hcut, fun other hother => hother.unique hcut rfl, rfl⟩
  · rintro scalars rfl
    exact decode_encode scalars
  · intro c _ hsurrogate
    have hvalid : c.toNat < 0xD800 ∨ 0xDFFF < c.toNat ∧ c.toNat < 0x110000 := c.valid
    omega
  · rintro a b rfl ha
    rw [List.length_append] at h
    obtain ⟨s, rfl⟩ := inSequences_iff.mp ha
    have hs : ReadsText (encode s) s := by
      have hlength : (encode s).length ≤ Encoder.maxStringLength := by omega
      have hread := readsText_decode hlength
      rwa [decode_encode] at hread
    exact ⟨s, decode b, rfl, hs, readsText_decode (by omega), decode_encode_append s b⟩

/-- A letter, an encoded surrogate, a sequence that breaks off before its last byte, and a letter
of two bytes: of the two that are ill-formed the first is three maximal subparts and the second is
one. -/
theorem reads_text_in_pieces_of_surrogate :
    ReadsText [0x61, 0xED, 0xA0, 0x80, 0xF0, 0x9F, 0x98, 0xC3, 0xA9]
      "a\uFFFD\uFFFD\uFFFD\uFFFDé" := by
  let raw : List UInt8 := [0x61, 0xED, 0xA0, 0x80, 0xF0, 0x9F, 0x98, 0xC3, 0xA9]
  obtain ⟨text, hreads, ⟨pieces, -, hunique, rfl⟩, -⟩ := reads_text_in_pieces raw (by decide)
  have hcut : segments raw = pieces := hunique (segments raw) (decomposes_segments raw)
  have htext : decode raw = "a\uFFFD\uFFFD\uFFFD\uFFFDé" := by decide
  rw [← hcut] at hreads
  rwa [← htext]

end Binary.Cursor

end ConsumerOffsets
