/-
# Which texts are hexadecimal

A text stands for bytes exactly when an even number of digits is left of it, without its blank
characters and the mark in front, and nothing but digits (`Text.Hex.exists_decode_eq_ok_iff`).
-/
import ConsumerOffsets.Text.Hex

namespace ConsumerOffsets.Text.Hex

/-- The characters that have to be digits are, and they go in pairs. -/
def IsHex (text : String) : Prop :=
  (digits text.toList).length % 2 = 0 ∧ ∀ c ∈ digits text.toList, (hexValue? c).isSome

-- By going through the text: there is also an instance that goes through all characters there are.
instance (text : String) : Decidable (IsHex text) :=
  decidable_of_iff
    ((digits text.toList).length % 2 = 0
      ∧ (digits text.toList).all fun c => (hexValue? c).isSome)
    (by rw [IsHex, List.all_eq_true])

/-- By recursion on pairs, as the digits are read. -/
theorem isSome_bytesOfDigits_iff : ∀ s : List Char,
    (bytesOfDigits s).isSome ↔ s.length % 2 = 0 ∧ ∀ c ∈ s, (hexValue? c).isSome
  | [] => by simp [bytesOfDigits]
  | [_] => by simp [bytesOfDigits]
  | high :: low :: rest => by
    have ih := isSome_bytesOfDigits_iff rest
    have hlength : (high :: low :: rest).length % 2 = rest.length % 2 := by
      simp only [List.length_cons]
      omega
    rw [hlength, List.forall_mem_cons, List.forall_mem_cons]
    cases hhigh : hexValue? high with
    | none => simp [bytesOfDigits, hhigh]
    | some h =>
      cases hlow : hexValue? low with
      | none => simp [bytesOfDigits, hhigh, hlow]
      | some l =>
        rw [bytesOfDigits, hhigh, hlow]
        cases hrest : bytesOfDigits rest with
        | none => simpa [hrest] using ih
        | some bytes => simpa [hrest] using ih

/-- A text that is hexadecimal is decoded, and no other is. -/
theorem exists_decode_eq_ok_iff {text : String} :
    (∃ bytes, decode text = .ok bytes) ↔ IsHex text := by
  rw [IsHex, ← isSome_bytesOfDigits_iff, decode]
  cases bytesOfDigits (digits text.toList) with
  | none => simp
  | some bytes => simp

theorem isHex_of_decode_ok {text : String} {bytes : List UInt8} (h : decode text = .ok bytes) :
    IsHex text :=
  exists_decode_eq_ok_iff.mp ⟨bytes, h⟩

theorem not_isHex_of_decode_error {text : String} {e : Error} (h : decode text = .error e) :
    ¬ IsHex text := by
  intro hhex
  obtain ⟨bytes, hbytes⟩ := exists_decode_eq_ok_iff.mpr hhex
  rw [h] at hbytes
  cases hbytes

example : IsHex "0x00 fF" ∧ ¬ IsHex "00f" ∧ ¬ IsHex "0x0x00" := by decide

end ConsumerOffsets.Text.Hex
