/-
# Well-formed text survives

Bytes that are the UTF-8 of some text (`Text.Utf8.WellFormed`) read as that text, so that different
texts have different bytes and well-formed bytes that read alike are alike
(`Text.Utf8.WellFormed.eq_of_decode_eq`).  Ill-formed bytes do not have this: they read as
replacement characters, whatever they are.

The argument goes along the bytes of one character: the lead byte and the trailing bytes leave a
sequence unfinished up to the last of them, which completes it to that character
(`Text.Utf8.segmentsAfter_encodeChar`).  Four lead bytes ask for more than a trailing byte behind
them; that is where it matters that a character is no surrogate and has no longer form.
-/
import ConsumerOffsets.Text.Utf8

namespace ConsumerOffsets.Text.Utf8

/-! ## 1. Lead bytes and trailing bytes -/

theorem toNat_ofNat_of_lt {n : Nat} (h : n < 256) : (UInt8.ofNat n).toNat = n :=
  UInt8.toNat_ofNat_of_lt' h

theorem ofNat_lt_iff {m : Nat} (h : m < 256) (a : UInt8) : UInt8.ofNat m < a ↔ m < a.toNat := by
  rw [UInt8.lt_iff_toNat_lt, toNat_ofNat_of_lt h]

theorem ofNat_eq_iff {m : Nat} (h : m < 256) (a : UInt8) : UInt8.ofNat m = a ↔ m = a.toNat := by
  rw [← UInt8.toNat_inj, toNat_ofNat_of_lt h]

/-- The trailing byte that carries the low six bits of a number. -/
def trailing (n : Nat) : UInt8 := UInt8.ofNat (0x80 + n % 64)

theorem toNat_trailing (n : Nat) : (trailing n).toNat = 0x80 + n % 64 :=
  toNat_ofNat_of_lt (by omega)

theorem payload_trailing (n : Nat) : payload (trailing n) = n % 64 := by
  rw [payload, toNat_trailing]
  omega

theorem between_trailing {a b : UInt8} {n : Nat} (hlo : a.toNat ≤ 0x80 + n % 64)
    (hhi : 0x80 + n % 64 ≤ b.toNat) : (a ≤ trailing n && trailing n ≤ b) = true := by
  rw [Bool.and_eq_true, decide_eq_true_eq, decide_eq_true_eq, UInt8.le_iff_toNat_le,
    UInt8.le_iff_toNat_le, toNat_trailing]
  exact ⟨hlo, hhi⟩

theorem isTrailing_trailing (n : Nat) : isTrailing (trailing n) = true :=
  between_trailing (show 128 ≤ _ by omega) (show _ ≤ 191 by omega)

/-- A trailing byte may stand second, but for what the four special lead bytes exclude. -/
theorem isSecond_trailing {m n : Nat} (hm : m < 256) (he0 : m = 0xE0 → 0x20 ≤ n % 64)
    (hed : m = 0xED → n % 64 < 0x20) (hf0 : m = 0xF0 → 0x10 ≤ n % 64)
    (hf4 : m = 0xF4 → n % 64 < 0x10) : isSecond (UInt8.ofNat m) (trailing n) = true := by
  simp only [isSecond, ofNat_eq_iff hm]
  split
  · next h =>
    have hlow := he0 h
    exact between_trailing (show 160 ≤ _ by omega) (show _ ≤ 191 by omega)
  split
  · next h =>
    have hhigh := hed h
    exact between_trailing (show 128 ≤ _ by omega) (show _ ≤ 159 by omega)
  split
  · next h =>
    have hlow := hf0 h
    exact between_trailing (show 144 ≤ _ by omega) (show _ ≤ 191 by omega)
  split
  · next h =>
    have hhigh := hf4 h
    exact between_trailing (show 128 ≤ _ by omega) (show _ ≤ 143 by omega)
  · exact isTrailing_trailing n

/-! ## 2. Sequences byte by byte -/

section Sequences

variable {m j k n : Nat}

theorem ofBytes_ascii (h : m < 0x80) :
    Sequence.ofBytes [UInt8.ofNat m] = .complete (Char.ofNat m) := by
  have hm : m < 256 := by omega
  rw [Sequence.ofBytes, if_pos ((ofNat_lt_iff hm 0x80).mpr h), toNat_ofNat_of_lt hm]

/-- A lead byte begins a longer sequence. -/
theorem ofBytes_lead (hlo : 0xC2 ≤ m) (hhi : m ≤ 0xF4) :
    Sequence.ofBytes [UInt8.ofNat m] = .unfinished := by
  have hm : m < 256 := by omega
  have hge : ¬ UInt8.ofNat m < 0x80 := by
    rw [ofNat_lt_iff hm]
    exact show ¬ m < 128 by omega
  have hlead : (0xC2 ≤ UInt8.ofNat m && UInt8.ofNat m ≤ 0xF4) = true := by
    rw [Bool.and_eq_true, decide_eq_true_eq, decide_eq_true_eq, UInt8.le_iff_toNat_le,
      UInt8.le_iff_toNat_le, toNat_ofNat_of_lt hm]
    exact ⟨hlo, hhi⟩
  rw [Sequence.ofBytes, if_neg hge, if_pos hlead]

theorem ofBytes_two (hlo : 0xC2 ≤ m) (hhi : m < 0xE0) :
    Sequence.ofBytes [UInt8.ofNat m, trailing n]
      = .complete (Char.ofNat (m % 32 * 64 + n % 64)) := by
  have hm : m < 256 := by omega
  have hsecond : isSecond (UInt8.ofNat m) (trailing n) = true :=
    isSecond_trailing hm (by omega) (by omega) (by omega) (by omega)
  rw [Sequence.ofBytes, hsecond, if_neg (by decide), if_pos ((ofNat_lt_iff hm 0xE0).mpr hhi),
    payload_trailing, toNat_ofNat_of_lt hm]

theorem ofBytes_second (hlo : 0xE0 ≤ m) (hm : m < 256)
    (hsecond : isSecond (UInt8.ofNat m) (trailing n) = true) :
    Sequence.ofBytes [UInt8.ofNat m, trailing n] = .unfinished := by
  have hge : ¬ UInt8.ofNat m < 0xE0 := by
    rw [ofNat_lt_iff hm]
    exact show ¬ m < 224 by omega
  rw [Sequence.ofBytes, hsecond, if_neg (by decide), if_neg hge]

theorem ofBytes_three (hhi : m < 0xF0) :
    Sequence.ofBytes [UInt8.ofNat m, trailing j, trailing n]
      = .complete (Char.ofNat (m % 16 * 4096 + j % 64 * 64 + n % 64)) := by
  have hm : m < 256 := by omega
  rw [Sequence.ofBytes, isTrailing_trailing, if_neg (by decide),
    if_pos ((ofNat_lt_iff hm 0xF0).mpr hhi), payload_trailing, payload_trailing, toNat_ofNat_of_lt hm]

theorem ofBytes_third (hlo : 0xF0 ≤ m) (hm : m < 256) :
    Sequence.ofBytes [UInt8.ofNat m, trailing j, trailing n] = .unfinished := by
  have hge : ¬ UInt8.ofNat m < 0xF0 := by
    rw [ofNat_lt_iff hm]
    exact show ¬ m < 240 by omega
  rw [Sequence.ofBytes, isTrailing_trailing, if_neg (by decide), if_neg hge]

theorem ofBytes_four (hm : m < 256) :
    Sequence.ofBytes [UInt8.ofNat m, trailing j, trailing k, trailing n]
      = .complete (Char.ofNat (m % 8 * 262144 + j % 64 * 4096 + k % 64 * 64 + n % 64)) := by
  rw [Sequence.ofBytes, isTrailing_trailing, if_neg (by decide), payload_trailing,
    payload_trailing, payload_trailing, toNat_ofNat_of_lt hm]

end Sequences

/-! ## 3. Characters and texts -/

theorem segmentsAfter_of_complete {begun rest : List UInt8} {b : UInt8} {c : Char}
    (h : Sequence.ofBytes (begun ++ [b]) = .complete c) :
    segmentsAfter begun (b :: rest) = .scalar c :: segmentsAfter [] rest := by
  rw [segmentsAfter, h]

theorem segmentsAfter_of_unfinished {begun rest : List UInt8} {b : UInt8}
    (h : Sequence.ofBytes (begun ++ [b]) = .unfinished) :
    segmentsAfter begun (b :: rest) = segmentsAfter (begun ++ [b]) rest := by
  rw [segmentsAfter, h]

/-- The bytes of a character are cut off as one piece. -/
theorem segmentsAfter_encodeChar (c : Char) (rest : List UInt8) :
    segmentsAfter [] (encodeChar c ++ rest) = .scalar c :: segmentsAfter [] rest := by
  have hvalid : c.toNat < 0xD800 ∨ 0xDFFF < c.toNat ∧ c.toNat < 0x110000 := c.valid
  have hchar : ∀ {n : Nat}, n = c.toNat → Char.ofNat n = c := by
    rintro _ rfl
    exact Char.ofNat_toNat c
  unfold encodeChar
  dsimp only
  split
  · next h1 =>
    have hfirst := ofBytes_ascii h1
    rw [hchar rfl] at hfirst
    exact segmentsAfter_of_complete hfirst
  split
  · next h1 h2 =>
    have hfirst : Sequence.ofBytes [UInt8.ofNat (0xC0 + c.toNat / 64)] = .unfinished :=
      ofBytes_lead (by omega) (by omega)
    have hlast : Sequence.ofBytes
        [UInt8.ofNat (0xC0 + c.toNat / 64), trailing (c.toNat / 1)] = .complete c := by
      rw [ofBytes_two (by omega) (by omega), hchar (by omega)]
    exact (segmentsAfter_of_unfinished hfirst).trans (segmentsAfter_of_complete hlast)
  split
  · next h1 h2 h3 =>
    have hfirst : Sequence.ofBytes [UInt8.ofNat (0xE0 + c.toNat / 4096)] = .unfinished :=
      ofBytes_lead (by omega) (by omega)
    have hsecond : Sequence.ofBytes
        [UInt8.ofNat (0xE0 + c.toNat / 4096), trailing (c.toNat / 64)] = .unfinished :=
      ofBytes_second (by omega) (by omega)
        (isSecond_trailing (by omega) (by omega) (by omega) (by omega) (by omega))
    have hlast : Sequence.ofBytes [UInt8.ofNat (0xE0 + c.toNat / 4096), trailing (c.toNat / 64),
        trailing (c.toNat / 1)] = .complete c := by
      rw [ofBytes_three (by omega), hchar (by omega)]
    exact (segmentsAfter_of_unfinished hfirst).trans
      ((segmentsAfter_of_unfinished hsecond).trans (segmentsAfter_of_complete hlast))
  · next h1 h2 h3 =>
    have hfirst : Sequence.ofBytes [UInt8.ofNat (0xF0 + c.toNat / 262144)] = .unfinished :=
      ofBytes_lead (by omega) (by omega)
    have hsecond : Sequence.ofBytes
        [UInt8.ofNat (0xF0 + c.toNat / 262144), trailing (c.toNat / 4096)] = .unfinished :=
      ofBytes_second (by omega) (by omega)
        (isSecond_trailing (by omega) (by omega) (by omega) (by omega) (by omega))
    have hthird : Sequence.ofBytes [UInt8.ofNat (0xF0 + c.toNat / 262144),
        trailing (c.toNat / 4096), trailing (c.toNat / 64)] = .unfinished :=
      ofBytes_third (by omega) (by omega)
    have hlast : Sequence.ofBytes [UInt8.ofNat (0xF0 + c.toNat / 262144),
        trailing (c.toNat / 4096), trailing (c.toNat / 64), trailing (c.toNat / 1)]
          = .complete c := by
      rw [ofBytes_four (by omega), hchar (by omega)]
    exact (segmentsAfter_of_unfinished hfirst).trans
      ((segmentsAfter_of_unfinished hsecond).trans
        ((segmentsAfter_of_unfinished hthird).trans (segmentsAfter_of_complete hlast)))

/-- The bytes of a text are cut into its characters, whatever follows them. -/
theorem segments_encode_append (text : String) (rest : List UInt8) :
    segments (encode text ++ rest) = text.toList.map Segment.scalar ++ segments rest := by
  rw [encode]
  induction text.toList with
  | nil => rfl
  | cons c cs ih =>
    rw [segments] at ih
    rw [segments, List.flatMap_cons, List.append_assoc, segmentsAfter_encodeChar, ih,
      List.map_cons, List.cons_append]

/-- A text is read back from its bytes, in front of what the bytes behind them read as. -/
theorem decode_encode_append (text : String) (rest : List UInt8) :
    decode (encode text ++ rest) = text ++ decode rest := by
  have hchar : Segment.char ∘ Segment.scalar = id := rfl
  rw [decode, segments_encode_append, List.map_append, List.map_map, hchar, List.map_id,
    String.ofList_append, String.ofList_toList, decode]

/-- A text is read back from its bytes. -/
theorem decode_encode (text : String) : decode (encode text) = text := by
  have h := decode_encode_append text []
  rwa [List.append_nil, show decode [] = "" from rfl, String.append_empty] at h

/-- The bytes are the UTF-8 of some text. -/
def WellFormed (bytes : List UInt8) : Prop := ∃ text : String, bytes = encode text

/-- Well-formed bytes that read as the same text are the same. -/
theorem WellFormed.eq_of_decode_eq {bytes bytes' : List UInt8} (h : WellFormed bytes)
    (h' : WellFormed bytes') (heq : decode bytes = decode bytes') : bytes = bytes' := by
  obtain ⟨text, rfl⟩ := h
  obtain ⟨text', rfl⟩ := h'
  rw [decode_encode, decode_encode] at heq
  rw [heq]

end ConsumerOffsets.Text.Utf8
