/-
# Decoders at a cursor

What a decoder does at a cursor, said with positions.  A decoder that reads a written form back
takes a cursor from the first byte of the form to the one behind it (`Cursor.run_of_reads`).  And a
decoder that accepts nothing but written forms has one between the cursor that it was given and the
cursor that it returns (`Cursor.exists_written_of_run`).
-/
import ConsumerOffsets.Binary.Cursor
import ConsumerOffsets.Proofs.Inversion

namespace ConsumerOffsets.Binary.Cursor

open Decoder

variable {α σ : Type} {decoder : Decoder α}

@[simp] theorem unread_append (front rest : List UInt8) :
    unread ⟨front ++ rest, front.length⟩ = rest := List.drop_left

theorem run_of_reads {w : List UInt8} {a : α} (h : Reads decoder w a) (front back : List UInt8) :
    run decoder ⟨front ++ (w ++ back), front.length⟩
      = .ok (a, ⟨front ++ (w ++ back), front.length + w.length⟩) := by
  rw [run_eq_ok_iff]
  refine ⟨back, ?_, ?_⟩
  · rw [unread_append]
    exact h back
  · simp [advance]

/-- The data of a cursor that is not beyond its end: the bytes in front of the position, then the
unread ones. -/
theorem eq_append_unread {c : Cursor} (h : c.position ≤ c.data.length) :
    c = ⟨c.data.take c.position ++ c.unread, (c.data.take c.position).length⟩ := by
  simp [unread, h]

/-- Beyond the end of the data there are no bytes. -/
theorem position_le_of_unread_ne_nil {c : Cursor} (h : c.unread ≠ []) :
    c.position ≤ c.data.length := by
  rw [unread, ne_eq, List.drop_eq_nil_iff] at h
  omega

theorem exists_written_of_run {fits : σ → Prop} {written : σ → List UInt8} {meaning : σ → α}
    (haccepts : Accepts decoder fits written meaning) (hwritten : ∀ s, written s ≠ [])
    {c after : Cursor} {a : α} (h : c.run decoder = .ok (a, after)) :
    ∃ (s : σ) (front back : List UInt8), fits s
      ∧ c = ⟨front ++ (written s ++ back), front.length⟩
      ∧ after = ⟨front ++ (written s ++ back), front.length + (written s).length⟩
      ∧ a = meaning s := by
  obtain ⟨back, hread, rfl⟩ := run_eq_ok_iff.mp h
  obtain ⟨s, hfits, hunread, rfl⟩ := haccepts hread
  have hne : c.unread ≠ [] := by
    rw [hunread]
    exact List.append_ne_nil_of_left_ne_nil (hwritten s) back
  have hc := eq_append_unread (position_le_of_unread_ne_nil hne)
  rw [hunread] at hc
  refine ⟨s, c.data.take c.position, back, hfits, hc, ?_, rfl⟩
  have htaken : (written s ++ back).length - back.length = (written s).length := by simp
  rw [hunread, htaken]
  exact congrArg (fun cursor => cursor.advance (written s).length) hc

end ConsumerOffsets.Binary.Cursor
