/-
# Fixed-width integers

Integers stand in records as one, two, four or eight bytes, most significant byte first, negative
numbers in two's complement.  `natOfBytes` and `bytesOfNat` convert between bytes and the unsigned
number they spell, `intOfBytes` and `bytesOfInt` do the same for the signed number.
-/

namespace ConsumerOffsets.Binary

/-- The widths in which integers are stored. -/
inductive Width where
  | one
  | two
  | four
  | eight
deriving DecidableEq, Repr

namespace Width

/-- The number of bytes. -/
def size : Width → Nat
  | one => 1
  | two => 2
  | four => 4
  | eight => 8

/-- The width of so many bytes, if integers are stored in it. -/
def ofSize? (size : Int) : Option Width :=
  if size = 1 then some one
  else if size = 2 then some two
  else if size = 4 then some four
  else if size = 8 then some eight
  else none

theorem ofSize?_size (w : Width) : ofSize? w.size = some w := by
  cases w <;> rfl

theorem size_pos (w : Width) : 0 < w.size := by
  cases w <;> decide

end Width

/-! ## 1. Unsigned -/

/-- How many numbers there are that so many bytes can spell. -/
def byteRange : Nat → Nat
  | 0 => 1
  | size + 1 => byteRange size * 256

theorem byteRange_pos : ∀ size : Nat, 0 < byteRange size
  | 0 => Nat.one_pos
  | size + 1 => Nat.mul_pos (byteRange_pos size) (by decide)

/-- The number that the bytes spell, most significant first. -/
def natOfBytes : List UInt8 → Nat
  | [] => 0
  | b :: rest => b.toNat * byteRange rest.length + natOfBytes rest

/-- The last `size` digits of a number in base 256, most significant first. -/
def bytesOfNat : Nat → Nat → List UInt8
  | 0, _ => []
  | size + 1, n => UInt8.ofNat (n / byteRange size) :: bytesOfNat size n

@[simp] theorem length_bytesOfNat : ∀ size n : Nat, (bytesOfNat size n).length = size
  | 0, _ => rfl
  | size + 1, n => by simp [bytesOfNat, length_bytesOfNat size n]

/-- So many bytes spell no number beyond their range. -/
theorem natOfBytes_lt : ∀ bytes : List UInt8, natOfBytes bytes < byteRange bytes.length
  | [] => Nat.one_pos
  | b :: rest => by
    have hb := b.toNat_lt
    have hr := natOfBytes_lt rest
    have hm : b.toNat * byteRange rest.length ≤ 255 * byteRange rest.length :=
      Nat.mul_le_mul_right _ (by omega)
    simp only [natOfBytes, List.length_cons, byteRange]
    omega

/-- Reading back gives the number modulo the range of the bytes. -/
theorem natOfBytes_bytesOfNat : ∀ size n : Nat, natOfBytes (bytesOfNat size n) = n % byteRange size
  | 0, n => by simp [natOfBytes, bytesOfNat, byteRange, Nat.mod_one]
  | size + 1, n => by
    have hsplit : n % byteRange (size + 1)
        = n % byteRange size + byteRange size * (n / byteRange size % 256) := by
      rw [byteRange, Nat.mod_mul]
    have hbyte : (UInt8.ofNat (n / byteRange size)).toNat = n / byteRange size % 256 := rfl
    rw [bytesOfNat, natOfBytes, length_bytesOfNat, natOfBytes_bytesOfNat size n, hbyte, hsplit,
      Nat.mul_comm, Nat.add_comm]

/-- The digits in front of the last `size` ones do not matter. -/
theorem bytesOfNat_mul_add : ∀ size k n : Nat,
    bytesOfNat size (k * byteRange size + n) = bytesOfNat size n
  | 0, _, _ => rfl
  | size + 1, k, n => by
    have hmul : k * byteRange (size + 1) = k * 256 * byteRange size := by
      rw [byteRange, Nat.mul_comm (byteRange size), Nat.mul_assoc]
    have hdiv : (k * 256 * byteRange size + n) / byteRange size = k * 256 + n / byteRange size := by
      rw [Nat.add_comm, Nat.add_mul_div_right _ _ (byteRange_pos _), Nat.add_comm]
    have hbyte : UInt8.ofNat (k * 256 + n / byteRange size) = UInt8.ofNat (n / byteRange size) := by
      apply UInt8.toNat_inj.mp
      show (k * 256 + n / byteRange size) % 256 = n / byteRange size % 256
      rw [Nat.add_comm, Nat.add_mul_mod_self_right]
    rw [bytesOfNat, bytesOfNat, hmul, hdiv, hbyte, bytesOfNat_mul_add size (k * 256) n]

/-- Bytes are the digits of the number that they spell. -/
theorem bytesOfNat_natOfBytes : ∀ bytes : List UInt8,
    bytesOfNat bytes.length (natOfBytes bytes) = bytes
  | [] => rfl
  | b :: rest => by
    have hdiv : (b.toNat * byteRange rest.length + natOfBytes rest) / byteRange rest.length
        = b.toNat := by
      rw [Nat.add_comm, Nat.add_mul_div_right _ _ (byteRange_pos _),
        Nat.div_eq_of_lt (natOfBytes_lt rest), Nat.zero_add]
    rw [natOfBytes, List.length_cons, bytesOfNat, hdiv, UInt8.ofNat_toNat, bytesOfNat_mul_add,
      bytesOfNat_natOfBytes rest]

/-! ## 2. Signed -/

/-- The number that the bytes spell in two's complement. -/
def intOfBytes (bytes : List UInt8) : Int :=
  Int.bmod (natOfBytes bytes) (byteRange bytes.length)

/-- The two's complement bytes of a number, in the given size. -/
def bytesOfInt (size : Nat) (n : Int) : List UInt8 :=
  bytesOfNat size (n % byteRange size).toNat

@[simp] theorem length_bytesOfInt (size : Nat) (n : Int) : (bytesOfInt size n).length = size :=
  length_bytesOfNat size _

/-- A number is read back from its bytes, if they are enough for it. -/
theorem intOfBytes_bytesOfInt {size : Nat} {n : Int} (hlo : -(byteRange size : Int) ≤ 2 * n)
    (hhi : 2 * n < byteRange size) : intOfBytes (bytesOfInt size n) = n := by
  have hpos := byteRange_pos size
  have hmod : (((n % byteRange size).toNat % byteRange size : Nat) : Int)
      = n % byteRange size := by
    have h0 := Int.emod_nonneg n (b := byteRange size) (by omega)
    rw [Int.natCast_emod, Int.toNat_of_nonneg h0, Int.emod_emod]
  rw [intOfBytes, bytesOfInt, length_bytesOfNat, natOfBytes_bytesOfNat, hmod, Int.emod_bmod]
  exact Int.bmod_eq_of_le_mul_two (by omega) (by omega)

/-- A number that is not negative is read back if it is in the lower half of what its bytes can
spell. -/
theorem intOfBytes_bytesOfInt_natCast {size n : Nat} (h : 2 * (n : Int) < byteRange size) :
    intOfBytes (bytesOfInt size n) = n :=
  intOfBytes_bytesOfInt (by omega) h

/-- Bytes are the two's complement of the number that they spell. -/
theorem bytesOfInt_intOfBytes (bytes : List UInt8) :
    bytesOfInt bytes.length (intOfBytes bytes) = bytes := by
  have hlt := natOfBytes_lt bytes
  rw [bytesOfInt, intOfBytes, Int.bmod_emod, Int.emod_eq_of_lt (by omega) (by omega)]
  exact bytesOfNat_natOfBytes bytes

/-- So many bytes spell no number below the range of their width … -/
theorem le_two_mul_intOfBytes (bytes : List UInt8) :
    -(byteRange bytes.length : Int) ≤ 2 * intOfBytes bytes := by
  have hpos := byteRange_pos bytes.length
  have h := Int.le_bmod (x := natOfBytes bytes) hpos
  rw [intOfBytes]
  omega

/-- … and none above it. -/
theorem two_mul_intOfBytes_lt (bytes : List UInt8) :
    2 * intOfBytes bytes < (byteRange bytes.length : Int) := by
  have hpos := byteRange_pos bytes.length
  have h := Int.bmod_lt (x := natOfBytes bytes) hpos
  rw [intOfBytes]
  omega

example : intOfBytes [0x7f, 0xff] = 32767 := by decide
example : intOfBytes [0x80, 0x00] = -32768 := by decide
example : bytesOfInt 4 (-2) = [0xff, 0xff, 0xff, 0xfe] := by decide

end ConsumerOffsets.Binary
