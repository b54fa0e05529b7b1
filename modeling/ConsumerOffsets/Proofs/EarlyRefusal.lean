/-
# Counts are refused early, and never wrongly

The two counts in an assignment are compared with the bytes behind them before any element is read.
`Assignment.decodeUnbounded` leaves the comparison out: there a count is refused for being negative
only.  The two decoders accept the same bytes and read the same out of them
(`Assignment.bounds_only_refuse_early`), so that the comparison saves work and changes no answer.
Where it refuses a count, going on would have failed too, only later and somewhere else.

Two things carry the argument.  What is decoded has a least size, whatever it is
(`Decoder.TakesAtLeast`), so the elements of a count that is refused would have run out of bytes.
And `Decoder.RefusesEarly`, which says how the two decoders compare on any input, goes up from the
fields to the whole body.
-/
import Mathlib.Control.Monad.Basic
import ConsumerOffsets.Binary.Cursor
import ConsumerOffsets.Proofs.Failures

namespace ConsumerOffsets

namespace Binary.Decoder

variable {α β : Type} {decoder checked unchecked : Decoder α}

/-! ## 1. The least that a decoder takes off -/

/-- Whatever the decoder accepts, it takes at least so many bytes off the front. -/
def TakesAtLeast (size : Nat) (decoder : Decoder α) : Prop :=
  ∀ (input rest : List UInt8) (a : α), decoder input = .ok (a, rest) →
    rest.length + size ≤ input.length

theorem takesAtLeast_pure (a : α) : TakesAtLeast 0 (pure a) := by
  intro input rest b h
  cases h
  exact Nat.le_refl _

/-- One after the other, two decoders take off what each does. -/
theorem TakesAtLeast.bind {m n : Nat} {next : α → Decoder β} (h : TakesAtLeast m decoder)
    (h' : ∀ a, TakesAtLeast n (next a)) : TakesAtLeast (m + n) (decoder >>= next) := by
  intro input rest b hb
  obtain ⟨a, middle, ha, hnext⟩ := bind_eq_ok_iff.mp hb
  have hfirst : middle.length + m ≤ input.length := h _ _ _ ha
  have hsecond : rest.length + n ≤ middle.length := h' a _ _ _ hnext
  omega

theorem TakesAtLeast.bind_pure {size : Nat} (h : TakesAtLeast size decoder) (f : α → β) :
    TakesAtLeast size (decoder >>= fun a => pure (f a)) :=
  h.bind fun a => takesAtLeast_pure (f a)

theorem TakesAtLeast.mono {m n : Nat} (h : TakesAtLeast n decoder) (hle : m ≤ n) :
    TakesAtLeast m decoder := by
  intro input rest a ha
  have hn := h _ _ _ ha
  omega

/-- Elements take off their least size as often as there are elements. -/
theorem takesAtLeast_listFrom {size : Nat} {item : Nat → Decoder α}
    (h : ∀ i, TakesAtLeast size (item i)) :
    ∀ index n : Nat, TakesAtLeast (n * size) (listFrom item index n)
  | _, 0 => by
    rw [Nat.zero_mul]
    exact takesAtLeast_pure []
  | index, n + 1 => by
    have hrest := takesAtLeast_listFrom h (index + 1) n
    rw [Nat.succ_mul, Nat.add_comm]
    exact (h index).bind fun a => hrest.bind_pure (a :: ·)

section Fields

variable (field : FieldPath)

theorem takesAtLeast_bytes (size : Nat) : TakesAtLeast size (bytes size field) := by
  intro input rest raw h
  obtain ⟨hlength, rfl⟩ := bytes_eq_ok h
  rw [List.length_append]
  omega

theorem takesAtLeast_int (width : Width) : TakesAtLeast width.size (int width field) :=
  (takesAtLeast_bytes field width.size).bind_pure intOfBytes

theorem takesAtLeast_int32 : TakesAtLeast 4 (int32 field) :=
  (takesAtLeast_int field .four).bind_pure Int32.ofInt

theorem takesAtLeast_counted (length : Int) : TakesAtLeast 0 (counted length field) := by
  intro input rest raw h
  obtain ⟨-, rfl⟩ := counted_eq_ok h
  rw [List.length_append]
  omega

/-- A text takes off its length, if nothing else. -/
theorem takesAtLeast_string : TakesAtLeast 2 (string field) :=
  (takesAtLeast_int field .two).bind fun length =>
    (takesAtLeast_counted field length).bind_pure Text.Utf8.decode

theorem takesAtLeast_count : TakesAtLeast 4 (count field) := by
  intro input rest n h
  obtain ⟨-, rfl⟩ := count_eq_ok h
  rw [List.length_append, Encoder.length_count]
  omega

end Fields

/-! ## 2. Refusing a count early -/

/-- On any input the checked decoder does what the unchecked one does, unless it refuses a count for
the bytes that are there.  Then the unchecked one fails as well. -/
def RefusesEarly (checked unchecked : Decoder α) : Prop :=
  ∀ input : List UInt8, checked input = unchecked input
    ∨ (∃ (field : FieldPath) (count left : Int),
        checked input = .error (.excessiveCount field count left))
      ∧ ∃ e, unchecked input = .error e

theorem refusesEarly_refl (decoder : Decoder α) : RefusesEarly decoder decoder :=
  fun _ => Or.inl rfl

theorem RefusesEarly.bind {next next' : α → Decoder β} (h : RefusesEarly checked unchecked)
    (h' : ∀ a, RefusesEarly (next a) (next' a)) :
    RefusesEarly (checked >>= next) (unchecked >>= next') := by
  intro input
  rcases h input with heq | ⟨⟨field, count, left, hchecked⟩, e, hunchecked⟩
  · cases hrun : unchecked input with
    | error e => exact Or.inl (by rw [bind_of_error (heq.trans hrun), bind_of_error hrun])
    | ok p =>
      obtain ⟨a, middle⟩ := p
      rw [bind_of_ok (heq.trans hrun), bind_of_ok hrun]
      exact h' a middle
  · exact Or.inr ⟨⟨field, count, left, bind_of_error hchecked⟩, e, bind_of_error hunchecked⟩

theorem RefusesEarly.bind_pure (h : RefusesEarly checked unchecked) (f : α → β) :
    RefusesEarly (checked >>= fun a => pure (f a)) (unchecked >>= fun a => pure (f a)) :=
  h.bind fun _ => refusesEarly_refl _

/-- By recursion on the number of elements. -/
theorem refusesEarly_listFrom {item item' : Nat → Decoder α}
    (h : ∀ i, RefusesEarly (item i) (item' i)) :
    ∀ index n : Nat, RefusesEarly (listFrom item index n) (listFrom item' index n)
  | _, 0 => refusesEarly_refl _
  | index, n + 1 =>
    (h index).bind fun a => (refusesEarly_listFrom h (index + 1) n).bind_pure (a :: ·)

/-- A count that was read is compared with the bytes behind it. -/
theorem boundedCount_of_count {field : FieldPath} {input rest : List UInt8} {n : Nat}
    (itemSize : Nat) (h : count field input = .ok (n, rest)) :
    boundedCount itemSize field input
      = if rest.length < n * itemSize then .error (.excessiveCount field n rest.length)
        else .ok (n, rest) := by
  have hleft : remaining rest = .ok (rest.length, rest) := rfl
  rw [boundedCount, bind_of_ok h, bind_of_ok hleft]
  split
  · rfl
  · rfl

/-- The comparison refuses early, if what comes behind the count takes off the least size of the
elements for each of them. -/
theorem RefusesEarly.boundedCount_bind {itemSize : Nat} {next next' : Nat → Decoder β}
    (hnext : ∀ n, RefusesEarly (next n) (next' n))
    (hsize : ∀ n, TakesAtLeast (n * itemSize) (next' n)) (field : FieldPath) :
    RefusesEarly (boundedCount itemSize field >>= next) (count field >>= next') := by
  intro input
  cases hcount : count field input with
  | error e =>
    have hbounded : boundedCount itemSize field input = .error e := bind_of_error hcount
    exact Or.inl (by rw [bind_of_error hbounded, bind_of_error hcount])
  | ok p =>
    obtain ⟨n, rest⟩ := p
    have hbounded := boundedCount_of_count itemSize hcount
    rw [bind_of_ok hcount]
    by_cases hroom : rest.length < n * itemSize
    · rw [if_pos hroom] at hbounded
      refine Or.inr ⟨⟨field, n, rest.length, bind_of_error hbounded⟩, ?_⟩
      -- if the elements were there after all, they would have taken off more than there is
      cases hrun : next' n rest with
      | error e => exact ⟨e, rfl⟩
      | ok q =>
        have htaken : q.2.length + n * itemSize ≤ rest.length := hsize n rest q.2 q.1 hrun
        omega
    · rw [if_neg hroom] at hbounded
      rw [bind_of_ok hbounded]
      exact hnext n rest

end Binary.Decoder

open Binary Binary.Decoder

/-! ## 3. Assignments without the comparison -/

namespace Assignment

/-- One topic with its partitions, their count compared with nothing but zero. -/
def decodeTopicUnbounded (field : FieldPath) : Decoder TopicPartitions := do
  let topic ← Decoder.string (field.child "name")
  let count ← Decoder.count (field.child "partition_count")
  let partitions ← Decoder.list count fun j => Decoder.int32 ((field.child "partitions").item j)
  return { topic, partitions }

/-- The body of an assignment, its counts compared with nothing but zero. -/
def decodeUnbounded (field : FieldPath) : Decoder Assignment := do
  let count ← Decoder.count (field.child "topic_count")
  let entries ← Decoder.list count fun i => decodeTopicUnbounded ((field.child "topics").item i)
  let _userData ← Decoder.region (field.child "user_data")
  return ofList entries

/-- A topic takes up its least size: the length of its name and the count of its partitions. -/
theorem takesAtLeast_decodeTopicUnbounded (field : FieldPath) :
    TakesAtLeast minTopicSize (decodeTopicUnbounded field) :=
  (takesAtLeast_string _).bind fun _ =>
    (takesAtLeast_count _).bind fun count =>
      ((takesAtLeast_listFrom (fun _ => takesAtLeast_int32 _) 0 count).bind_pure _).mono
        (Nat.zero_le _)

theorem refusesEarly_decodeTopic (field : FieldPath) :
    RefusesEarly (decodeTopic field) (decodeTopicUnbounded field) :=
  (refusesEarly_refl _).bind fun _ =>
    RefusesEarly.boundedCount_bind (fun _ => refusesEarly_refl _)
      (fun count => (takesAtLeast_listFrom (fun _ => takesAtLeast_int32 _) 0 count).bind_pure _) _

theorem refusesEarly_decode (field : FieldPath) :
    RefusesEarly (decode field) (decodeUnbounded field) := by
  have hsize : ∀ count, TakesAtLeast (count * minTopicSize)
      (Decoder.list count fun i => decodeTopicUnbounded ((field.child "topics").item i)) :=
    takesAtLeast_listFrom (fun _ => takesAtLeast_decodeTopicUnbounded _) 0
  have hregion : TakesAtLeast 0 (Decoder.region (field.child "user_data")) :=
    ((takesAtLeast_int _ .four).bind (takesAtLeast_counted _)).mono (Nat.zero_le _)
  exact RefusesEarly.boundedCount_bind
    (fun count => (refusesEarly_listFrom (fun _ => refusesEarly_decodeTopic _) 0 count).bind
      fun _ => refusesEarly_refl _)
    (fun count => (hsize count).bind fun _ => hregion.bind_pure _) _

end Assignment

/-! ## 4. The fields of errors -/

/-- A part whose name ends in no bracket is not written like an element of a list. -/
theorem FieldPath.render_child_ne_render_item {name : String} (last : Char)
    (hlast : name.toList.getLast? = some last) (hbracket : last ≠ ']') (parent list : FieldPath)
    (index : Nat) : (parent.child name).render ≠ (list.item index).render := by
  intro heq
  have hends := congrArg (fun text => text.toList.getLast?) heq
  simp [FieldPath.render, List.getLast?_cons, hlast, hbracket] at hends

namespace Assignment

/-- The errors of an assignment are about parts with a name, none about an element of a list. -/
theorem Failure.render_ne_item {field : FieldPath} {e : DecodeError} (h : Failure field e)
    (list : FieldPath) (index : Nat) : e.field.render ≠ (list.item index).render := by
  cases h with
  | topicCount h =>
    rw [h.field_eq]
    exact FieldPath.render_child_ne_render_item 't' (by decide) (by decide) _ _ _
  | topicName i h =>
    rw [h.field_eq]
    exact FieldPath.render_child_ne_render_item 'e' (by decide) (by decide) _ _ _
  | partitionCount i h =>
    rw [h.field_eq]
    exact FieldPath.render_child_ne_render_item 't' (by decide) (by decide) _ _ _
  | userData h =>
    rw [h.field_eq]
    exact FieldPath.render_child_ne_render_item 'a' (by decide) (by decide) _ _ _

/-! ## 5. At a cursor

The place of the cursor changes at most the number of bytes that an error counts, and not for a
count that was refused. -/

theorem run_refusesEarly (c : Cursor) (field : FieldPath) :
    c.run (decode field) = c.run (decodeUnbounded field)
      ∨ (∃ (place : FieldPath) (count left : Int),
          c.run (decode field) = .error (.excessiveCount place count left))
        ∧ ∃ e, c.run (decodeUnbounded field) = .error e := by
  rcases refusesEarly_decode field c.unread with heq | ⟨⟨place, count, left, hrefused⟩, e, hfails⟩
  · left
    unfold Cursor.run
    rw [heq]
  · right
    exact ⟨⟨place, count, left, Cursor.run_of_error hrefused⟩, _, Cursor.run_of_error hfails⟩

/-- The comparison of counts with the bytes behind them does nothing but refuse early.  With it and
without it the same assignments are decoded, and the cursor ends at the same place.  Where the two
differ, a count was refused for the bytes that are there, and without the comparison there is
another error.  Behind a count that was not refused every partition is read, so that no error is
about one: none has a path of that form. -/
theorem bounds_only_refuse_early (c : Cursor) (field : FieldPath) :
    (∀ (assignment : Assignment) (after : Cursor),
      c.run (decode field) = .ok (assignment, after)
        ↔ c.run (decodeUnbounded field) = .ok (assignment, after))
    ∧ (c.run (decode field) = c.run (decodeUnbounded field)
      ∨ (∃ (place : FieldPath) (count left : Int),
          c.run (decode field) = .error (.excessiveCount place count left))
        ∧ ∃ e, c.run (decodeUnbounded field) = .error e)
    ∧ (∀ (countField : FieldPath) (place : Nat → FieldPath) (input rest : List UInt8) (n : Nat),
      Decoder.boundedCount partitionSize countField input = .ok (n, rest) →
        ∃ partitions left,
          Decoder.list n (fun j => Decoder.int32 (place j)) rest = .ok (partitions, left))
    ∧ ∀ e, c.run (decode field) = .error e → ∀ (place : FieldPath) (i j : Nat),
      e.field.render ≠ ((((place.child "topics").item i).child "partitions").item j).render := by
  have hearly := run_refusesEarly c field
  refine ⟨?_, hearly, ?_, ?_⟩
  · intro assignment after
    rcases hearly with heq | ⟨⟨place, count, left, hrefused⟩, e, hfails⟩
    · rw [heq]
    · simp [hrefused, hfails]
  · intro countField place input rest n hcount
    have hroom : n * partitionSize ≤ rest.length := (boundedCount_eq_ok hcount).1.2
    exact exists_listFrom_int32 place 0 hroom
  · intro e he place i j
    cases hrun : decode field c.unread with
    | ok p =>
      obtain ⟨assignment, rest⟩ := p
      have hok := Cursor.run_eq_ok_iff.mpr ⟨rest, hrun, rfl⟩
      rw [he] at hok
      cases hok
    | error cause =>
      have herror := Cursor.run_of_error hrun
      rw [he] at herror
      cases herror
      rw [DecodeError.field_beyondEnd]
      exact (failsWith_decode field _ _ hrun).render_ne_item _ _

/-- Two partitions are announced and one is there: the count is refused, and without the comparison
the second partition is found missing. -/
theorem bounds_only_refuse_early_of_missing_partition :
    let c : Cursor := ⟨[0xaa, 0, 0, 0, 1, 0, 1, 0x74, 0, 0, 0, 2, 0, 0, 0, 5], 1⟩
    let topic := ((FieldPath.root "a").child "topics").item 0
    c.run (decode (.root "a")) = .error (.excessiveCount (topic.child "partition_count") 2 4)
    ∧ c.run (decodeUnbounded (.root "a"))
        = .error (.truncated ((topic.child "partitions").item 1) 4 0)
    ∧ (topic.child "partition_count").render ≠ ((topic.child "partitions").item 1).render := by
  intro c topic
  have hrefused : c.run (decode (.root "a"))
      = .error (.excessiveCount (topic.child "partition_count") 2 4) := by decide +kernel
  have hmissing : c.run (decodeUnbounded (.root "a"))
      = .error (.truncated ((topic.child "partitions").item 1) 4 0) := by decide +kernel
  exact ⟨hrefused, hmissing,
    (bounds_only_refuse_early c (.root "a")).2.2.2 _ hrefused (.root "a") 0 1⟩

end Assignment

end ConsumerOffsets
