/-
# Integers of a fixed width

What the bytes of an integer are is said here without reading or writing any (`Width.Encodes`): as
many bytes as the width has, each of which is a digit of the number in base 256, the most
significant first.  Division rounds down, so that the digits of a negative number are those of its
two's complement.

Every integer has one such encoding in each width, namely the bytes that encoders write
(`Width.encodes_iff`).  The main statement, `integers_read_exactly`, is that reading is its inverse
on the integers in the range of the width.  They are read back from their bytes wherever these
stand; and where there are enough bytes, an integer in the range is read, of which they are the
encoding.  So a number that was read can be cast to a type of its own width, and the typed fields
hold it as it is.
-/
import Mathlib.Algebra.Group.Int.Defs
import ConsumerOffsets.Proofs.Containment

namespace ConsumerOffsets.Binary

/-! ## 1. Digits -/

theorem byteRange_eq_pow (size : Nat) : (byteRange size : Int) = 256 ^ size := by
  induction size with
  | zero => rfl
  | succ size ih =>
    rw [byteRange, Int.natCast_mul, ih, pow_succ]
    rfl

/-- What a number is modulo the range of one more byte: the last digits, and the digit in front of
them. -/
theorem emod_byteRange_succ (size : Nat) (n : Int) :
    n % byteRange (size + 1)
      = n % byteRange size + byteRange size * (n / byteRange size % 256) := by
  have hpos := byteRange_pos size
  have hdiv : n / byteRange size / 256 = n / (byteRange size * 256) := by
    rw [Int.ediv_ediv, if_neg (by omega), Int.sub_zero]
  have hrange : (byteRange (size + 1) : Int) = byteRange size * 256 := Int.natCast_mul _ _
  -- Both sides are `n` less the same multiple of the longer range.
  rw [hrange, Int.emod_def n, Int.emod_def n, Int.emod_def (n / _), hdiv, Int.mul_sub,
    Int.mul_assoc]
  omega

/-- The first byte of a number is the digit with as many digits behind it as there are bytes. -/
theorem bytesOfInt_succ (size : Nat) (n : Int) :
    bytesOfInt (size + 1) n = UInt8.ofInt (n / byteRange size) :: bytesOfInt size n := by
  have hpos := byteRange_pos size
  obtain ⟨digit, hdigit⟩ := Int.eq_ofNat_of_zero_le (Int.emod_nonneg (n / byteRange size)
    (b := 256) (by decide))
  obtain ⟨last, hlast⟩ := Int.eq_ofNat_of_zero_le (Int.emod_nonneg n (b := byteRange size)
    (by omega))
  have hlt : last < byteRange size := by
    have h := Int.emod_lt_of_pos n (b := byteRange size) (by omega)
    omega
  have hsplit : (n % byteRange (size + 1)).toNat = digit * byteRange size + last := by
    rw [emod_byteRange_succ, hdigit, hlast, ← Int.natCast_mul, ← Int.natCast_add,
      Int.toNat_natCast, Nat.mul_comm, Nat.add_comm]
  have hfirst : (digit * byteRange size + last) / byteRange size = digit := by
    rw [Nat.add_comm, Nat.add_mul_div_right _ _ hpos, Nat.div_eq_of_lt hlt, Nat.zero_add]
  have hbyte : UInt8.ofInt (n / byteRange size) = UInt8.ofNat digit := by
    show UInt8.ofNat (n / byteRange size % 256).toNat = _
    rw [hdigit, Int.toNat_natCast]
  rw [bytesOfInt, hsplit, bytesOfNat, hfirst, bytesOfNat_mul_add, hbyte, bytesOfInt, hlast,
    Int.toNat_natCast]

namespace Width

/-- The integers that the width has in two's complement. -/
def InRange (width : Width) (n : Int) : Prop :=
  -2 ^ (8 * width.size - 1) ≤ n ∧ n < 2 ^ (8 * width.size - 1)

instance (width : Width) (n : Int) : Decidable (width.InRange n) :=
  inferInstanceAs (Decidable (_ ∧ _))

/-- There are as many of them as so many bytes can spell, half of them negative. -/
theorem inRange_iff {width : Width} {n : Int} :
    width.InRange n ↔ -(byteRange width.size : Int) ≤ 2 * n ∧ 2 * n < byteRange width.size := by
  cases width <;> simp only [InRange, size, byteRange] <;> omega

/-- The bytes are the integer in the given width, most significant first: the byte with `k` bytes
behind it is the digit of the number in base 256 that has `k` digits behind it. -/
structure Encodes (width : Width) (n : Int) (bytes : List UInt8) : Prop where
  length : bytes.length = width.size
  digit : ∀ (i : Nat) (h : i < bytes.length),
    (bytes[i].toNat : Int) = n / 256 ^ (bytes.length - 1 - i) % 256

end Width

theorem toNat_ofInt (n : Int) : ((UInt8.ofInt n).toNat : Int) = n % 256 := by
  have hnonneg : 0 ≤ n % 256 := Int.emod_nonneg n (by decide)
  have hlt : n % 256 < 256 := Int.emod_lt_of_pos n (by decide)
  show (((n % 256).toNat % 256 : Nat) : Int) = n % 256
  omega

/-- By induction on their number, the bytes that are written are the digits. -/
theorem digit_bytesOfInt (n : Int) : ∀ (size i : Nat) (h : i < (bytesOfInt size n).length),
    ((bytesOfInt size n)[i].toNat : Int) = n / 256 ^ (size - 1 - i) % 256
  | 0, _, h => by simp at h
  | size + 1, 0, _ => by
    simp only [bytesOfInt_succ, List.getElem_cons_zero]
    rw [toNat_ofInt, byteRange_eq_pow]
    rfl
  | size + 1, i + 1, h => by
    have hrest : i < (bytesOfInt size n).length := by simpa using h
    have hplace : size + 1 - 1 - (i + 1) = size - 1 - i := by omega
    simp only [bytesOfInt_succ, List.getElem_cons_succ]
    rw [digit_bytesOfInt n size i hrest, hplace]

namespace Width

variable {width : Width} {n : Int} {bytes : List UInt8}

theorem encodes_bytesOfInt (width : Width) (n : Int) :
    width.Encodes n (bytesOfInt width.size n) := by
  refine ⟨length_bytesOfInt _ _, ?_⟩
  intro i h
  rw [digit_bytesOfInt n width.size i h, length_bytesOfInt]

theorem Encodes.unique {bytes' : List UInt8} (h : width.Encodes n bytes)
    (h' : width.Encodes n bytes') : bytes = bytes' := by
  have hlength : bytes.length = bytes'.length := h.length.trans h'.length.symm
  refine List.ext_getElem hlength ?_
  intro i hi hi'
  have hdigit : (bytes[i].toNat : Int) = bytes'[i].toNat := by
    rw [h.digit i hi, h'.digit i hi', hlength]
  exact UInt8.toNat_inj.mp (Int.ofNat.inj hdigit)

theorem encodes_iff : width.Encodes n bytes ↔ bytes = bytesOfInt width.size n := by
  constructor
  · intro h
    exact h.unique (encodes_bytesOfInt width n)
  · rintro rfl
    exact encodes_bytesOfInt width n

end Width

/-! ## 2. Reading -/

/-- The integer of the width at the cursor is `n`.  It does not matter how it is read: as decoders
do, by position, or in a script.  Each gives `n` and the cursor behind its bytes. -/
structure ReadsInt (width : Width) (c : Cursor) (n : Int) : Prop where
  decoder : ∀ field, c.run (Decoder.int width field) = .ok (n, c.advance width.size)
  reader : ∀ field, Reader.int width field c = .ok (n, c.advance width.size)
  script : ∀ field, (Read.int width.size field).run c = .ok (.int n, [c.advance width.size])

namespace ReadsInt

variable {width : Width} {c : Cursor} {n : Int}

/-- Within the data of the cursor, enough bytes are read as the integer that they spell. -/
theorem of_unread (hc : c.position ≤ c.data.length) {lead back : List UInt8}
    (hunread : c.unread = lead ++ back) (hlead : lead.length = width.size) :
    ReadsInt width c (intOfBytes lead) := by
  have hrun : ∀ field, c.run (Decoder.int width field)
      = .ok (intOfBytes lead, c.advance width.size) := by
    intro field
    have hint := Decoder.reads_int width field lead hlead back
    rw [← hunread] at hint
    rw [Cursor.run_of_append hunread hint, hlead]
  refine ⟨hrun, ?_, ?_⟩
  · intro field
    rw [(Reader.follows_int field width).eq_run hc, hrun]
  · intro field
    simp only [Read.run, Width.ofSize?_size, hrun]
    rfl

/-- Where an integer is read, its bytes are the first that are not read yet. -/
theorem exists_unread (h : ReadsInt width c n) :
    width.InRange n ∧ ∃ back, c.unread = bytesOfInt width.size n ++ back := by
  obtain ⟨back, hint, -⟩ := Cursor.run_eq_ok_iff.mp (h.decoder (.root "n"))
  obtain ⟨hunread, hrange⟩ := Decoder.int_eq_ok hint
  exact ⟨Width.inRange_iff.mpr hrange, back, hunread⟩

theorem encodes (h : ReadsInt width c n) : width.Encodes n (c.unread.take width.size) := by
  obtain ⟨-, back, hunread⟩ := h.exists_unread
  have htake : c.unread.take width.size = bytesOfInt width.size n := by
    rw [hunread, List.take_left' (length_bytesOfInt _ _)]
  exact Width.encodes_iff.mpr htake

theorem exists_of_le_remaining (h : (width.size : Int) ≤ c.remaining) :
    ∃ n, ReadsInt width c n := by
  have hpos := width.size_pos
  have hc : c.position ≤ c.data.length := by
    rw [Cursor.remaining] at h
    omega
  rw [Cursor.remaining_eq hc] at h
  obtain ⟨lead, back, hunread, hlead⟩ := Read.exists_lead (Int.ofNat_le.mp h)
  exact ⟨_, of_unread hc hunread hlead⟩

end ReadsInt

/-- The fields hold integers of the width as values of another type: where an integer is read, they
read the value that stands for it, and leave the same cursor. -/
def HoldInts {τ : Type} (width : Width) (toInt : τ → Int) (decoder : FieldPath → Decoder τ)
    (reader : FieldPath → Reader τ) : Prop :=
  ∀ (c : Cursor) (n : Int), ReadsInt width c n → ∀ field, ∃ t, toInt t = n
    ∧ c.run (decoder field) = .ok (t, c.advance width.size)
    ∧ reader field c = .ok (t, c.advance width.size)

/-- A conversion that loses nothing in the range of the width loses nothing that was read. -/
theorem holdInts_of_inRange {τ : Type} {width : Width} {toInt : τ → Int} {ofInt : Int → τ}
    (h : ∀ n, width.InRange n → toInt (ofInt n) = n) :
    HoldInts width toInt (fun field => Decoder.int width field >>= fun n => pure (ofInt n))
      (fun field => Reader.int width field >>= fun n => pure (ofInt n)) := by
  intro c n hread field
  refine ⟨ofInt n, h n hread.exists_unread.1, ?_, ?_⟩
  · obtain ⟨rest, hint, hafter⟩ := Cursor.run_eq_ok_iff.mp (hread.decoder field)
    rw [Cursor.run_eq_ok_iff, hafter]
    exact ⟨rest, Decoder.bind_of_ok hint, rfl⟩
  · exact Reader.bind_of_ok (hread.reader field)

theorem holdInts_int16 : HoldInts .two Int16.toInt Decoder.int16 Reader.int16 :=
  holdInts_of_inRange fun _ h => Int16.toInt_ofInt_of_le h.1 h.2

theorem holdInts_int32 : HoldInts .four Int32.toInt Decoder.int32 Reader.int32 :=
  holdInts_of_inRange fun _ h => Int32.toInt_ofInt_of_le h.1 h.2

theorem holdInts_int64 : HoldInts .eight Int64.toInt Decoder.int64 Reader.int64 :=
  holdInts_of_inRange fun _ h => Int64.toInt_ofInt_of_le h.1 h.2

/-! ## 3. Exactly the integers of the width -/

/-- Every integer has one encoding in each width.  Where the encoding of an integer in the range of
the width stands, whatever is in front of it and behind it, that integer is read and the cursor
moves behind the encoding.  Conversely, at every cursor with enough bytes an integer in the range is
read, and the bytes that the cursor moves over are its encoding; so bytes that are read as the same
integer are the same.  A cast to the type of the width, if it accepts the integers in the range,
accepts every integer that was read in that width; and the fields of two, four and eight bytes hold
the integers that are read as they are. -/
theorem integers_read_exactly {ε : Type} (cast : Width → Int → Except ε Int)
    (hcast : ∀ width n, width.InRange n → cast width n = .ok n) :
    (∀ (width : Width) (n : Int), ∃! bytes, width.Encodes n bytes)
    ∧ (∀ (width : Width) (n : Int) (bytes front back : List UInt8),
      width.InRange n → width.Encodes n bytes →
      ReadsInt width ⟨front ++ (bytes ++ back), front.length⟩ n)
    ∧ (∀ (width : Width) (c : Cursor), (width.size : Int) ≤ c.remaining →
      ∃ n, ReadsInt width c n ∧ width.InRange n
        ∧ width.Encodes n (c.unread.take width.size))
    ∧ (∀ (width : Width) (c c' : Cursor) (n : Int), ReadsInt width c n → ReadsInt width c' n →
      c.unread.take width.size = c'.unread.take width.size)
    ∧ (∀ (width : Width) (c : Cursor) (n : Int), ReadsInt width c n → cast width n = .ok n)
    ∧ HoldInts .two Int16.toInt Decoder.int16 Reader.int16
    ∧ HoldInts .four Int32.toInt Decoder.int32 Reader.int32
    ∧ HoldInts .eight Int64.toInt Decoder.int64 Reader.int64 := by
  refine ⟨?_, ?_, ?_, ?_, ?_, holdInts_int16, holdInts_int32, holdInts_int64⟩
  · intro width n
    exact ⟨_, Width.encodes_bytesOfInt width n, fun _ h => Width.encodes_iff.mp h⟩
  · intro width n bytes front back hrange hbytes
    obtain rfl := Width.encodes_iff.mp hbytes
    obtain ⟨hlo, hhi⟩ := Width.inRange_iff.mp hrange
    have hc : front.length ≤ (front ++ (bytesOfInt width.size n ++ back)).length := by simp
    have hread := ReadsInt.of_unread hc (Cursor.unread_append _ _) hbytes.length
    rwa [intOfBytes_bytesOfInt hlo hhi] at hread
  · intro width c hroom
    obtain ⟨n, hread⟩ := ReadsInt.exists_of_le_remaining hroom
    exact ⟨n, hread, hread.exists_unread.1, hread.encodes⟩
  · intro width c c' n hread hread'
    exact hread.encodes.unique hread'.encodes
  · intro width c n hread
    exact hcast width n hread.exists_unread.1

/-- The cast to the type of the width that refuses all other integers. -/
def Width.checkedCast (width : Width) (n : Int) : Except String Int :=
  if width.InRange n then .ok n else .error s!"Could not parse i{8 * width.size} from {n}"

/-- The least integer of four bytes, with a byte in front of it and one behind.  It can be cast to
its own width and not to a smaller one. -/
theorem integers_read_exactly_of_least :
    (∀ width n, width.InRange n → Width.checkedCast width n = .ok n)
    ∧ Width.four.InRange (-2147483648) ∧ Width.four.Encodes (-2147483648) [0x80, 0, 0, 0]
    ∧ ReadsInt .four ⟨[0xaa, 0x80, 0, 0, 0, 0xbb], 1⟩ (-2147483648)
    ∧ Width.checkedCast .four (-2147483648) = .ok (-2147483648)
    ∧ Width.checkedCast .two (-2147483648) = .error "Could not parse i16 from -2147483648" := by
  have hcast : ∀ width n, width.InRange n → Width.checkedCast width n = .ok n :=
    fun _ _ h => if_pos h
  obtain ⟨-, hread, -, -, hcasts, -⟩ := integers_read_exactly Width.checkedCast hcast
  have hrange : Width.four.InRange (-2147483648) := by decide
  have hbytes : Width.four.Encodes (-2147483648) [0x80, 0, 0, 0] :=
    Width.encodes_iff.mpr (by decide)
  have hleast : ReadsInt .four ⟨[0xaa, 0x80, 0, 0, 0, 0xbb], 1⟩ (-2147483648) :=
    hread .four _ _ [0xaa] [0xbb] hrange hbytes
  exact ⟨hcast, hrange, hbytes, hleast, hcasts .four _ _ hleast, by decide +kernel⟩

end ConsumerOffsets.Binary
