/-
# What hexadecimal text stands for

Which bytes a text stands for, and where a text that stands for none fails, said without the reading
of it (`Text.Hex.decodes_digits_between_blanks`).  The characters that count are those that are left
of a text without its blanks and without one mark in front (`Leaves`).  They spell bytes two by two,
the digit of the higher value first (`Spells`), or there is a first fault among them (`FaultAt`).

Blanks may be put anywhere, into the mark and between the two digits of a byte as well
(`WithBlanks`), because they are dropped before anything else is looked at.  That a second mark is a
fault and not a mark is no case of its own: its `x` is no digit.
-/
import ConsumerOffsets.Proofs.HexText

namespace ConsumerOffsets.Text.Hex

/-! ## 1. Digits -/

/-- The digits in small letters, each at the place of its value. -/
def smallDigits : List Char :=
  ['0', '1', '2', '3', '4', '5', '6', '7', '8', '9', 'a', 'b', 'c', 'd', 'e', 'f']

/-- The digits in capital letters, each at the place of its value. -/
def capitalDigits : List Char :=
  ['0', '1', '2', '3', '4', '5', '6', '7', '8', '9', 'A', 'B', 'C', 'D', 'E', 'F']

/-- The character is a digit of this value, in either case. -/
def IsDigit (n : Nat) (c : Char) : Prop := smallDigits[n]? = some c ∨ capitalDigits[n]? = some c

theorem hexValue?_smallDigits : ∀ n : Fin 16, hexValue? (smallDigits[n.val]) = some n.val := by
  decide

theorem hexValue?_capitalDigits : ∀ n : Fin 16, hexValue? (capitalDigits[n.val]) = some n.val := by
  decide

/-- Characters that follow each other in code points as well as among the digits. -/
theorem getElem?_of_range {digits : List Char} {place first m : Nat}
    (h : ∀ k : Fin m, digits[place + k.val]? = some (Char.ofNat (first + k.val))) {c : Char}
    (hfirst : first ≤ c.toNat) (hlast : c.toNat < first + m) :
    digits[place + (c.toNat - first)]? = some c := by
  have hk := h ⟨c.toNat - first, by omega⟩
  have hc : first + (c.toNat - first) = c.toNat := by omega
  rwa [hc, Char.ofNat_toNat] at hk

/-- The digits are found by their code points, range by range. -/
theorem hexValue?_eq_some_iff {c : Char} {n : Nat} : hexValue? c = some n ↔ IsDigit n c := by
  constructor
  · intro h
    have hnumber : ∀ k : Fin 10, smallDigits[0 + k.val]? = some (Char.ofNat (48 + k.val)) := by
      decide
    have hsmall : ∀ k : Fin 6, smallDigits[10 + k.val]? = some (Char.ofNat (97 + k.val)) := by
      decide
    have hcapital : ∀ k : Fin 6, capitalDigits[10 + k.val]? = some (Char.ofNat (65 + k.val)) := by
      decide
    simp only [hexValue?] at h
    split at h
    · next hrange =>
      obtain rfl : 0 + (c.toNat - 48) = n := by simp only [Option.some.injEq] at h; omega
      exact Or.inl (getElem?_of_range hnumber hrange.1 (by omega))
    · split at h
      · next hrange =>
        obtain rfl : 10 + (c.toNat - 97) = n := by simp only [Option.some.injEq] at h; omega
        exact Or.inl (getElem?_of_range hsmall hrange.1 (by omega))
      · split at h
        · next hrange =>
          obtain rfl : 10 + (c.toNat - 65) = n := by simp only [Option.some.injEq] at h; omega
          exact Or.inr (getElem?_of_range hcapital hrange.1 (by omega))
        · cases h
  · rintro (h | h)
    · obtain ⟨hn, rfl⟩ := List.getElem?_eq_some_iff.mp h
      exact hexValue?_smallDigits ⟨n, hn⟩
    · obtain ⟨hn, rfl⟩ := List.getElem?_eq_some_iff.mp h
      exact hexValue?_capitalDigits ⟨n, hn⟩

/-- The character is a digit. -/
def IsHexDigit (c : Char) : Prop := ∃ n, IsDigit n c

theorem isSome_hexValue?_iff {c : Char} : (hexValue? c).isSome ↔ IsHexDigit c := by
  rw [Option.isSome_iff_exists]
  exact exists_congr fun n => hexValue?_eq_some_iff

theorem IsHexDigit.mem {c : Char} (h : IsHexDigit c) : c ∈ smallDigits ++ capitalDigits := by
  obtain ⟨n, hn | hn⟩ := h
  · exact List.mem_append_left _ (List.mem_of_getElem? hn)
  · exact List.mem_append_right _ (List.mem_of_getElem? hn)

-- Both go through the digits: there is also an instance that goes through all characters there are.

theorem IsHexDigit.lt {c : Char} (h : IsHexDigit c) : c.toNat < 0x80 := by
  have hall : (smallDigits ++ capitalDigits).all fun c => decide (c.toNat < 0x80) := by decide
  exact of_decide_eq_true (List.all_eq_true.mp hall c h.mem)

theorem IsHexDigit.not_blank {c : Char} (h : IsHexDigit c) : isBlank c = false := by
  have hall : (smallDigits ++ capitalDigits).all fun c => !isBlank c := by decide
  simpa using List.all_eq_true.mp hall c h.mem

/-! ## 2. Bytes -/

/-- The characters are two digits a byte, the one of the higher value first. -/
inductive Spells : List Char → List UInt8 → Prop where
  | nil : Spells [] []
  | cons {high low : Char} {b : UInt8} {s : List Char} {bytes : List UInt8}
      (hhigh : IsDigit (b.toNat / 16) high) (hlow : IsDigit (b.toNat % 16) low)
      (hrest : Spells s bytes) : Spells (high :: low :: s) (b :: bytes)

/-- A byte is made of the values of its two digits. -/
theorem ofNat_eq_iff {h l : Nat} (hh : h < 16) (hl : l < 16) {b : UInt8} :
    UInt8.ofNat (16 * h + l) = b ↔ b.toNat / 16 = h ∧ b.toNat % 16 = l := by
  have hsize : 16 * h + l < UInt8.size := by
    rw [UInt8.size]
    omega
  have hvalue : (UInt8.ofNat (16 * h + l)).toNat = 16 * h + l := UInt8.toNat_ofNat_of_lt' hsize
  rw [← UInt8.toNat_inj, hvalue]
  omega

/-- By recursion on pairs, as the digits are read. -/
theorem bytesOfDigits_eq_some_iff : ∀ {s : List Char} {bytes : List UInt8},
    bytesOfDigits s = some bytes ↔ Spells s bytes
  | [], bytes => by
    constructor
    · intro h
      cases h
      exact .nil
    · rintro ⟨⟩
      rfl
  | [_], bytes => by
    constructor
    · intro h
      cases h
    · rintro ⟨⟩
  | high :: low :: s, bytes => by
    constructor
    · intro h
      simp only [bytesOfDigits, Option.bind_eq_bind, Option.bind_eq_some_iff, Option.pure_def,
        Option.some.injEq] at h
      obtain ⟨h, hhigh, l, hlow, rest, hrest, rfl⟩ := h
      obtain ⟨hh, hl⟩ := (ofNat_eq_iff (hexValue?_lt hhigh) (hexValue?_lt hlow)).mp rfl
      refine .cons ?_ ?_ (bytesOfDigits_eq_some_iff.mp hrest)
      · rw [hh]
        exact hexValue?_eq_some_iff.mp hhigh
      · rw [hl]
        exact hexValue?_eq_some_iff.mp hlow
    · intro h
      cases h with
      | cons hhigh hlow hrest =>
        have hh := hexValue?_eq_some_iff.mpr hhigh
        have hl := hexValue?_eq_some_iff.mpr hlow
        have hb := (ofNat_eq_iff (hexValue?_lt hh) (hexValue?_lt hl)).mpr ⟨rfl, rfl⟩
        have hbytes := bytesOfDigits_eq_some_iff.mpr hrest
        simp only [bytesOfDigits, hh, hl, hbytes, Option.bind_eq_bind, Option.bind_some,
          Option.pure_def, hb]

theorem isDigit_hexDigit {n : Nat} (hn : n < 16) : IsDigit n (hexDigit n) :=
  hexValue?_eq_some_iff.mp (hexValue?_hexDigit ⟨n, hn⟩)

theorem encodeByte_eq (b : UInt8) :
    encodeByte b = [hexDigit (b.toNat / 16), hexDigit (b.toNat % 16)] := by
  have hb : b.toNat < 256 := b.toNat_lt
  have hhigh : b.toNat / 16 % 16 = b.toNat / 16 := by omega
  have hdigits : encodeByte b = [hexDigit (b.toNat / 16 % 16), hexDigit (b.toNat / 1 % 16)] := rfl
  rw [hdigits, hhigh, Nat.div_one]

/-- What is written for bytes spells them. -/
theorem spells_encode (bytes : List UInt8) : Spells (encode bytes).toList bytes := by
  rw [encode, String.toList_ofList]
  induction bytes with
  | nil => exact .nil
  | cons b bytes ih =>
    have hb : b.toNat < 256 := b.toNat_lt
    rw [List.flatMap_cons, encodeByte_eq]
    exact .cons (isDigit_hexDigit (by omega)) (isDigit_hexDigit (by omega)) ih

theorem Spells.isHexDigit {s : List Char} {bytes : List UInt8} (h : Spells s bytes) :
    ∀ c ∈ s, IsHexDigit c := by
  induction h with
  | nil => simp
  | cons hhigh hlow hrest ih =>
    intro c hc
    rcases List.mem_cons.mp hc with rfl | hc
    · exact ⟨_, hhigh⟩
    · rcases List.mem_cons.mp hc with rfl | hc
      · exact ⟨_, hlow⟩
      · exact ih c hc

/-- Characters spell bytes exactly if they are digits, and an even number of them. -/
theorem exists_spells_iff {s : List Char} :
    (∃ bytes, Spells s bytes) ↔ s.length % 2 = 0 ∧ ∀ c ∈ s, IsHexDigit c := by
  have hsome := isSome_bytesOfDigits_iff s
  rw [Option.isSome_iff_exists] at hsome
  simpa only [isSome_hexValue?_iff, bytesOfDigits_eq_some_iff] using hsome

/-! ## 3. Faults -/

/-- The characters spell no bytes, and this is the place where they fail.  A character beyond ASCII
counts before any other fault. -/
inductive FaultAt (s : List Char) : Nat → Prop where
  /-- The first character beyond ASCII. -/
  | beyondAscii {front back : List Char} {c : Char} (hs : s = front ++ c :: back)
      (hfront : ∀ a ∈ front, a.toNat < 0x80) (hc : 0x80 ≤ c.toNat) : FaultAt s front.length
  /-- The first character that is no digit. -/
  | noDigit {front back : List Char} {c : Char} (hascii : ∀ a ∈ s, a.toNat < 0x80)
      (hs : s = front ++ c :: back) (hfront : ∀ a ∈ front, IsHexDigit a) (hc : ¬ IsHexDigit c) :
      FaultAt s front.length
  /-- The end, where a digit is missing. -/
  | missing (hdigits : ∀ a ∈ s, IsHexDigit a) (hodd : s.length % 2 = 1) : FaultAt s s.length

/-- A first element of a kind is found where it stands. -/
theorem findIdx_append_cons (p : Char → Bool) {front : List Char} (back : List Char) {c : Char}
    (hfront : ∀ a ∈ front, p a = false) (hc : p c = true) :
    (front ++ c :: back).findIdx p = front.length := by
  have hlength : front.findIdx p = front.length :=
    List.findIdx_eq_length.mpr hfront
  simp [List.findIdx_append, hlength, List.findIdx_cons, hc]

theorem FaultAt.faultPosition_eq {s : List Char} {n : Nat} (h : FaultAt s n) :
    faultPosition s = n := by
  have hascii : (∀ a ∈ s, a.toNat < 0x80) → s.findIdx? (fun c => 0x80 ≤ c.toNat) = none := by
    intro hall
    simpa [List.findIdx?_eq_none_iff] using hall
  cases h with
  | @beyondAscii front back c hs hfront hc =>
    have hfound : s.findIdx? (fun c => 0x80 ≤ c.toNat) = some front.length := by
      have hidx := findIdx_append_cons (fun c => 0x80 ≤ c.toNat) back
        (fun a ha => by simpa using hfront a ha) (by simpa using hc)
      rw [hs, ← hidx]
      exact List.findIdx?_eq_some_of_exists ⟨c, by simp, by simpa using hc⟩
    rw [faultPosition, hfound]
  | @noDigit front back c hall hs hfront hc =>
    rw [faultPosition, hascii hall, hs]
    refine findIdx_append_cons _ back ?_ ?_
    · intro a ha
      simpa using isSome_hexValue?_iff.mpr (hfront a ha)
    · simpa [← isSome_hexValue?_iff] using hc
  | missing hdigits hodd =>
    -- nothing is found among digits, so that the search ends behind them
    rw [faultPosition, hascii fun a ha => (hdigits a ha).lt]
    refine List.findIdx_eq_length.mpr fun a ha => ?_
    simpa using isSome_hexValue?_iff.mpr (hdigits a ha)

/-- Where there is a fault no bytes are spelled. -/
theorem FaultAt.not_spells {s : List Char} {n : Nat} (h : FaultAt s n) (bytes : List UInt8) :
    ¬ Spells s bytes := by
  intro hspells
  obtain ⟨heven, hdigits⟩ := exists_spells_iff.mp ⟨bytes, hspells⟩
  cases h with
  | @beyondAscii front back c hs hfront hc =>
    have hlt := (hdigits c (by rw [hs]; simp)).lt
    omega
  | @noDigit front back c hascii hs hfront hc => exact hc (hdigits c (by rw [hs]; simp))
  | missing hdigits' hodd => omega

/-- Characters that spell no bytes have a fault. -/
theorem spells_or_faultAt (s : List Char) : (∃ bytes, Spells s bytes) ∨ ∃ n, FaultAt s n := by
  -- a character beyond ASCII is looked for first, since it counts wherever it stands
  cases hbeyond : s.find? fun c => 0x80 ≤ c.toNat with
  | some c =>
    obtain ⟨hc, front, back, hs, hfront⟩ := List.find?_eq_some_iff_append.mp hbeyond
    exact Or.inr ⟨_, .beyondAscii hs (by simpa using hfront) (by simpa using hc)⟩
  | none =>
    have hascii : ∀ a ∈ s, a.toNat < 0x80 := by simpa using hbeyond
    cases hother : s.find? fun c => (hexValue? c).isNone with
    | some c =>
      obtain ⟨hc, front, back, hs, hfront⟩ := List.find?_eq_some_iff_append.mp hother
      refine Or.inr ⟨_, .noDigit hascii hs ?_ ?_⟩
      · intro a ha
        exact isSome_hexValue?_iff.mp (by simpa using hfront a ha)
      · rw [← isSome_hexValue?_iff]
        simpa using hc
    | none =>
      have hdigits : ∀ a ∈ s, IsHexDigit a := by
        intro a ha
        rw [← isSome_hexValue?_iff]
        have hnone := List.find?_eq_none.mp hother a ha
        simpa [Option.isSome_iff_ne_none] using hnone
      rcases Nat.mod_two_eq_zero_or_one s.length with heven | hodd
      · exact Or.inl (exists_spells_iff.mpr ⟨heven, hdigits⟩)
      · exact Or.inr ⟨_, .missing hdigits hodd⟩

/-! ## 4. Blanks and the mark -/

/-- The ways of writing the mark that may stand in front, and none. -/
def marks : List (List Char) := [[], ['0', 'x'], ['0', 'X']]

/-- What is left of a text without its blanks and then without the mark in front, if there is one. -/
inductive Leaves (text : List Char) : List Char → Prop where
  | marked {mark s : List Char} (hmark : mark = ['0', 'x'] ∨ mark = ['0', 'X'])
      (htext : dropBlanks text = mark ++ s) : Leaves text s
  | unmarked {s : List Char} (htext : dropBlanks text = s) (hsmall : ¬ ['0', 'x'] <+: s)
      (hcapital : ¬ ['0', 'X'] <+: s) : Leaves text s

theorem leaves_iff {text s : List Char} : Leaves text s ↔ s = digits text := by
  constructor
  · intro h
    cases h with
    | marked hmark htext => rcases hmark with rfl | rfl <;> simp [digits, htext]
    | unmarked htext hsmall hcapital =>
      unfold digits
      rw [htext]
      split
      · exact absurd ⟨_, rfl⟩ hsmall
      · exact absurd ⟨_, rfl⟩ hcapital
      · rfl
  · rintro rfl
    unfold digits
    split
    · next rest htext => exact .marked (Or.inl rfl) htext
    · next rest htext => exact .marked (Or.inr rfl) htext
    · next hsmall hcapital =>
      refine .unmarked rfl ?_ ?_
      · rintro ⟨rest, hrest⟩
        exact hsmall rest hrest.symm
      · rintro ⟨rest, hrest⟩
        exact hcapital rest hrest.symm

/-- The second text is the first with blanks put in, anywhere and any number of them. -/
inductive WithBlanks : List Char → List Char → Prop where
  | nil : WithBlanks [] []
  | keep (c : Char) {s t : List Char} (h : WithBlanks s t) : WithBlanks (c :: s) (c :: t)
  | blank {c : Char} (hc : isBlank c = true) {s t : List Char} (h : WithBlanks s t) :
      WithBlanks s (c :: t)

theorem WithBlanks.dropBlanks_eq {s t : List Char} (h : WithBlanks s t) :
    dropBlanks t = dropBlanks s := by
  induction h with
  | nil => rfl
  | keep c h ih =>
    simp only [dropBlanks, List.filter_cons] at ih ⊢
    rw [ih]
  | blank hc h ih => simpa [dropBlanks, hc] using ih

/-- Digits behind a mark are what is left of a text of them with blanks put in. -/
theorem Spells.leaves {s text mark : List Char} {bytes : List UInt8} (h : Spells s bytes)
    (hmark : mark ∈ marks) (htext : WithBlanks (mark ++ s) text) : Leaves text s := by
  have hdigits : dropBlanks s = s := by
    rw [dropBlanks, List.filter_eq_self]
    intro c hc
    simp [(h.isHexDigit c hc).not_blank]
  have hdrop : dropBlanks text = mark ++ s := by
    have hmark : dropBlanks mark = mark :=
      (by decide : ∀ mark ∈ marks, dropBlanks mark = mark) mark hmark
    rw [htext.dropBlanks_eq, dropBlanks, List.filter_append, ← dropBlanks, ← dropBlanks, hmark,
      hdigits]
  simp only [marks, List.mem_cons, List.not_mem_nil, or_false] at hmark
  rcases hmark with rfl | hmark | hmark
  · refine .unmarked hdrop ?_ ?_
    · intro hstart
      have hx := h.isHexDigit 'x' (hstart.subset (by simp))
      exact absurd hx.mem (by decide)
    · intro hstart
      have hx := h.isHexDigit 'X' (hstart.subset (by simp))
      exact absurd hx.mem (by decide)
  · exact .marked (Or.inl hmark) hdrop
  · exact .marked (Or.inr hmark) hdrop

/-! ## 5. Texts -/

theorem decode_eq_ok_iff {text : String} {bytes : List UInt8} :
    decode text = .ok bytes ↔ Spells (digits text.toList) bytes := by
  rw [← bytesOfDigits_eq_some_iff, decode]
  cases bytesOfDigits (digits text.toList) <;> simp

theorem decode_eq_error_iff {text : String} {n : Nat} :
    decode text = .error ⟨n⟩ ↔ FaultAt (digits text.toList) n := by
  constructor
  · intro h
    rcases spells_or_faultAt (digits text.toList) with ⟨bytes, hspells⟩ | ⟨m, hfault⟩
    · rw [decode_eq_ok_iff.mpr hspells] at h
      cases h
    · have hnone : bytesOfDigits (digits text.toList) = none := by
        rw [Option.eq_none_iff_forall_ne_some]
        intro bytes hbytes
        exact hfault.not_spells bytes (bytesOfDigits_eq_some_iff.mp hbytes)
      simp only [decode, hnone, hfault.faultPosition_eq] at h
      cases h
      exact hfault
  · intro hfault
    cases hdecode : decode text with
    | ok bytes => exact absurd (decode_eq_ok_iff.mp hdecode) (hfault.not_spells bytes)
    | error e =>
      have hposition := hfault.faultPosition_eq
      unfold decode at hdecode
      dsimp only at hdecode
      split at hdecode
      · cases hdecode
      · cases hdecode
        rw [hposition]

/-- A text stands for the bytes that its digits spell, which are all that is left of it without its
blanks and the mark in front.  It stands for none if the number of characters left is odd or not all
of them are digits, and fails at the first fault among them.  Every writing of some bytes, in letters
of either case, with a mark or without one and with blanks anywhere, is read as those bytes.  More
blanks change neither result nor error. -/
theorem decodes_digits_between_blanks :
    (∀ text : String, ∃ s, (∀ s', Leaves text.toList s' ↔ s' = s)
      ∧ (∀ bytes, decode text = .ok bytes ↔ Spells s bytes)
      ∧ ((∃ bytes, decode text = .ok bytes) ↔ s.length % 2 = 0 ∧ ∀ c ∈ s, IsHexDigit c)
      ∧ ∀ n, decode text = .error ⟨n⟩ ↔ FaultAt s n)
    ∧ (∀ bytes : List UInt8, Spells (encode bytes).toList bytes
      ∧ ∀ (s mark : List Char) (text : String), Spells s bytes → mark ∈ marks →
        WithBlanks (mark ++ s) text.toList → decode text = .ok bytes)
    ∧ ∀ text text' : String, WithBlanks text.toList text'.toList → decode text' = decode text := by
  refine ⟨?_, ?_, ?_⟩
  · intro text
    refine ⟨digits text.toList, fun s' => leaves_iff, fun bytes => decode_eq_ok_iff, ?_,
      fun n => decode_eq_error_iff⟩
    rw [← exists_spells_iff]
    exact exists_congr fun bytes => decode_eq_ok_iff
  · intro bytes
    refine ⟨spells_encode bytes, ?_⟩
    intro s mark text hspells hmark htext
    obtain rfl := leaves_iff.mp (hspells.leaves hmark htext)
    exact decode_eq_ok_iff.mpr hspells
  · intro text text' hblanks
    have hdigits : digits text'.toList = digits text.toList := by
      unfold digits
      rw [hblanks.dropBlanks_eq]
    unfold decode
    rw [hdigits]

/-- Blanks in the mark and between the two digits of a byte, and letters of both cases. -/
theorem decodes_digits_between_blanks_of_split_digits :
    Spells ['a', 'B', '0', '0'] [0xab, 0x00]
    ∧ ['0', 'x'] ∈ marks
    ∧ WithBlanks (['0', 'x'] ++ ['a', 'B', '0', '0']) "0 x\u3000a B0\t0".toList
    ∧ decode "0 x\u3000a B0\t0" = .ok [0xab, 0x00] := by
  have hspells : Spells ['a', 'B', '0', '0'] [0xab, 0x00] :=
    .cons (Or.inl rfl) (Or.inr rfl) (.cons (Or.inl rfl) (Or.inl rfl) .nil)
  have hmark : ['0', 'x'] ∈ marks := by decide
  have htext : WithBlanks (['0', 'x'] ++ ['a', 'B', '0', '0']) "0 x\u3000a B0\t0".toList := by
    show WithBlanks ['0', 'x', 'a', 'B', '0', '0']
      ['0', ' ', 'x', '\u3000', 'a', ' ', 'B', '0', '\t', '0']
    exact .keep _ (.blank rfl (.keep _ (.blank rfl (.keep _ (.blank rfl (.keep _ (.keep _
      (.blank rfl (.keep _ .nil)))))))))
  have hdecode := (decodes_digits_between_blanks.2.1 [0xab, 0x00]).2 ['a', 'B', '0', '0']
    ['0', 'x'] "0 x\u3000a B0\t0" hspells hmark htext
  exact ⟨hspells, hmark, htext, hdecode⟩

end ConsumerOffsets.Text.Hex
