/-
# Bodies of assignments and what they denote

`StoredAssignment.Denotes` says which assignment the body of one stands for, without going through
its topics one by one: every name that a topic decodes to is there once, the names stand in the
order of their first occurrences, and each has the partitions of the last topic whose name decodes
to it.  Names are compared as they are decoded, so that different bytes which read alike are one
topic.  A body denotes exactly one assignment (`StoredAssignment.existsUnique_denotes`).

The main statement, `Assignment.decodes_bodies`, is about cursors.  At the first byte of a body the
decoder gives what the body denotes and the cursor behind its user data, whatever stands around the
body.  And where the decoder succeeds, such a body lies between the two cursors.
-/
import Mathlib.Data.List.Induction
import ConsumerOffsets.Proofs.CursorRuns
import ConsumerOffsets.Proofs.LastWins

namespace ConsumerOffsets

open Binary

/-! ## 1. First occurrences -/

/-- Without its repetitions, a list is in the order of first occurrences. -/
theorem pairwise_idxOf_eraseDups {α : Type} [BEq α] [LawfulBEq α] (l : List α) :
    l.eraseDups.Pairwise fun a b => l.idxOf a < l.idxOf b := by
  induction l using List.reverseRecOn with
  | nil => simp
  | append_singleton l x ih =>
    have hkeep : ∀ a ∈ l.eraseDups, (l ++ [x]).idxOf a = l.idxOf a := by
      intro a ha
      rw [List.idxOf_append, if_pos (List.mem_eraseDups.mp ha)]
    have hold : l.eraseDups.Pairwise fun a b => (l ++ [x]).idxOf a < (l ++ [x]).idxOf b := by
      refine ih.imp_of_mem fun {a b} ha hb hab => ?_
      rwa [hkeep a ha, hkeep b hb]
    by_cases hx : x ∈ l
    · simpa [List.eraseDups_append, List.removeAll, hx] using hold
    · have hnew : (l ++ [x]).idxOf x = l.length := by simp [List.idxOf_append, hx]
      have hlast : (l ++ [x]).eraseDups = l.eraseDups ++ [x] := by
        simp [List.eraseDups_append, List.eraseDups_cons, List.removeAll, hx]
      rw [hlast, List.pairwise_append]
      refine ⟨hold, List.pairwise_singleton _ _, ?_⟩
      intro a ha b hb
      rw [List.mem_singleton.mp hb, hnew, hkeep a ha]
      exact List.idxOf_lt_length_of_mem (List.mem_eraseDups.mp ha)

/-! ## 2. What a body denotes -/

namespace StoredAssignment

/-- The names of the topics as they are decoded, in stored order. -/
def names (stored : StoredAssignment) : List String :=
  stored.topics.map fun topic => Text.Utf8.decode topic.name

/-- The assignment has the decoded names of the body, each once and in the order of first
occurrences, and each with the partitions of the last topic whose name decodes to it. -/
structure Denotes (stored : StoredAssignment) (assignment : Assignment) : Prop where
  names : ∀ name : String, name ∈ assignment.topics ↔ name ∈ stored.names
  once : assignment.topics.Nodup
  order : assignment.topics.Pairwise fun a b => stored.names.idxOf a < stored.names.idxOf b
  last : ∀ entry ∈ assignment, ∃ (front : List StoredTopic) (topic : StoredTopic)
    (back : List StoredTopic), stored.topics = front ++ topic :: back
      ∧ Text.Utf8.decode topic.name = entry.topic ∧ topic.partitions = entry.partitions
      ∧ ∀ later ∈ back, Text.Utf8.decode later.name ≠ entry.topic

/-- What is decoded is what the body denotes. -/
theorem denotes_meaning (stored : StoredAssignment) : stored.Denotes stored.meaning := by
  have hwins := Assignment.lastWins_ofList (stored.topics.map StoredTopic.meaning)
  have htopics : stored.meaning.topics = stored.names.eraseDups := by
    rw [meaning, hwins.topics, List.map_map]
    rfl
  refine ⟨?_, hwins.nodup, ?_, ?_⟩
  · intro name
    rw [htopics, List.mem_eraseDups]
  · rw [htopics]
    exact pairwise_idxOf_eraseDups stored.names
  · intro entry hentry
    obtain ⟨front, back, hsplit, hback⟩ := hwins.last entry hentry
    obtain ⟨before, behind, htopics, -, hbehind⟩ := List.map_eq_append_iff.mp hsplit
    obtain ⟨topic, after, rfl, rfl, rfl⟩ := List.map_eq_cons_iff.mp hbehind
    refine ⟨before, topic, after, htopics, rfl, rfl, ?_⟩
    intro later hlater
    exact hback later.meaning (List.mem_map_of_mem hlater)

/-- Of two topics that are the last of the same name there is only one. -/
theorem eq_of_last {front front' : List StoredTopic} {topic topic' : StoredTopic}
    {back back' : List StoredTopic} {name : String}
    (heq : front ++ topic :: back = front' ++ topic' :: back')
    (htopic : Text.Utf8.decode topic.name = name) (htopic' : Text.Utf8.decode topic'.name = name)
    (hback : ∀ later ∈ back, Text.Utf8.decode later.name ≠ name)
    (hback' : ∀ later ∈ back', Text.Utf8.decode later.name ≠ name) : topic = topic' := by
  rcases List.append_eq_append_iff.mp heq with ⟨more, -, hmore⟩ | ⟨more, -, hmore⟩
  · cases more with
    | nil => exact (List.cons.inj hmore).1
    | cons first rest =>
      obtain ⟨-, rfl⟩ := List.cons.inj hmore
      exact absurd htopic' (hback topic' (by simp))
  · cases more with
    | nil => exact (List.cons.inj hmore).1.symm
    | cons first rest =>
      obtain ⟨-, rfl⟩ := List.cons.inj hmore
      exact absurd htopic (hback' topic (by simp))

/-- Assignments with the same topics are the same if they agree on each. -/
theorem eq_of_topics_eq : ∀ {assignment assignment' : Assignment},
    assignment.topics = assignment'.topics →
    (∀ entry ∈ assignment, ∀ entry' ∈ assignment', entry.topic = entry'.topic → entry = entry') →
    assignment = assignment'
  | [], [], _, _ => rfl
  | [], _ :: _, htopics, _ => by simp [Assignment.topics] at htopics
  | _ :: _, [], htopics, _ => by simp [Assignment.topics] at htopics
  | entry :: rest, entry' :: rest', htopics, hagree => by
    obtain ⟨hfirst, hrest⟩ := List.cons.inj htopics
    have htail : rest = rest' := eq_of_topics_eq hrest fun e he e' he' =>
      hagree e (List.mem_cons_of_mem _ he) e' (List.mem_cons_of_mem _ he')
    rw [hagree entry List.mem_cons_self entry' List.mem_cons_self hfirst, htail]

theorem Denotes.unique {stored : StoredAssignment} {assignment assignment' : Assignment}
    (h : stored.Denotes assignment) (h' : stored.Denotes assignment') :
    assignment = assignment' := by
  have hsame : assignment.topics.Perm assignment'.topics :=
    (List.perm_ext_iff_of_nodup h.once h'.once).mpr fun name =>
      (h.names name).trans (h'.names name).symm
  have htopics : assignment.topics = assignment'.topics := by
    refine hsame.eq_of_pairwise ?_ h.order h'.order
    intro a b _ _ hab hba
    omega
  refine eq_of_topics_eq htopics ?_
  intro entry hentry entry' hentry' htopic
  obtain ⟨front, topic, back, hsplit, hname, hpartitions, hback⟩ := h.last entry hentry
  obtain ⟨front', topic', back', hsplit', hname', hpartitions', hback'⟩ := h'.last entry' hentry'
  rw [← htopic] at hname' hback'
  have hlast : topic = topic' :=
    eq_of_last (hsplit.symm.trans hsplit') hname hname' hback hback'
  rw [hlast] at hpartitions
  cases entry
  cases entry'
  simp_all

theorem existsUnique_denotes (stored : StoredAssignment) :
    ∃! assignment, stored.Denotes assignment :=
  ⟨stored.meaning, stored.denotes_meaning, fun _ h => h.unique stored.denotes_meaning⟩

end StoredAssignment

/-! ## 3. Bodies between cursors -/

/-- A body has a count, if nothing else. -/
theorem StoredAssignment.encode_ne_nil (stored : StoredAssignment) : stored.encode ≠ [] := by
  intro h
  have hlength := congrArg List.length h
  simp [encode] at hlength

namespace Assignment

/-- At the first byte of a body, whatever stands in front of it and behind it, the decoder gives
what the body denotes, and the cursor behind its user data.  Conversely, a decoding that succeeds
has read such a body: it lies between the cursor that was given and the one that is returned, and
what was decoded is what it denotes.  A body denotes one assignment and no other. -/
theorem decodes_bodies :
    (∀ (stored : StoredAssignment) (front back : List UInt8) (field : FieldPath),
      (∀ topic ∈ stored.topics, topic.name.length ≤ Encoder.maxStringLength) →
      stored.encode.length ≤ Encoder.maxCount →
      ∃ assignment, stored.Denotes assignment
        ∧ Cursor.run (decode field) ⟨front ++ (stored.encode ++ back), front.length⟩
          = .ok (assignment, ⟨front ++ (stored.encode ++ back),
              front.length + stored.encode.length⟩))
    ∧ (∀ (c after : Cursor) (field : FieldPath) (assignment : Assignment),
      c.run (decode field) = .ok (assignment, after) →
      ∃ (stored : StoredAssignment) (front back : List UInt8), stored.Fits
        ∧ c = ⟨front ++ (stored.encode ++ back), front.length⟩
        ∧ after = ⟨front ++ (stored.encode ++ back), front.length + stored.encode.length⟩
        ∧ stored.Denotes assignment)
    ∧ ∀ stored : StoredAssignment, ∃! assignment, stored.Denotes assignment := by
  refine ⟨?_, ?_, StoredAssignment.existsUnique_denotes⟩
  · intro stored front back field hname hsize
    have hread := (StoredAssignment.fits_of_length_le hname hsize).reads_encode field
    exact ⟨stored.meaning, stored.denotes_meaning, Cursor.run_of_reads hread front back⟩
  · intro c after field assignment h
    obtain ⟨stored, front, back, hfits, hc, hafter, rfl⟩ :=
      Cursor.exists_written_of_run (StoredAssignment.accepts_decode field)
        StoredAssignment.encode_ne_nil h
    exact ⟨stored, front, back, hfits, hc, hafter, stored.denotes_meaning⟩

/-- Three topics with a byte in front of them and one behind.  The names of the first and the last
are different ill-formed bytes that read alike: one topic is left of the two, in the first place
and with the partitions of the last. -/
theorem decodes_bodies_of_names_read_alike :
    ∃ stored : StoredAssignment, stored.topics = [⟨[0xff], [5]⟩, ⟨[0x75], []⟩, ⟨[0xfe], [6, 6]⟩]
      ∧ stored.Denotes [⟨"\uFFFD", [6, 6]⟩, ⟨"u", []⟩]
      ∧ Cursor.run (decode (.root "a")) ⟨[0xaa] ++ (stored.encode ++ [0xcc]), 1⟩
        = .ok ([⟨"\uFFFD", [6, 6]⟩, ⟨"u", []⟩], ⟨[0xaa] ++ (stored.encode ++ [0xcc]), 43⟩) := by
  let stored : StoredAssignment := ⟨[⟨[0xff], [5]⟩, ⟨[0x75], []⟩, ⟨[0xfe], [6, 6]⟩], [0xbb]⟩
  have hname : ∀ topic ∈ stored.topics, topic.name.length ≤ Encoder.maxStringLength := by decide
  have hsize : stored.encode.length ≤ Encoder.maxCount := by decide
  obtain ⟨assignment, hdenotes, hrun⟩ :=
    decodes_bodies.1 stored [0xaa] [0xcc] (.root "a") hname hsize
  have hassignment : assignment = [⟨"\uFFFD", [6, 6]⟩, ⟨"u", []⟩] := by
    have hmeaning : stored.meaning = [⟨"\uFFFD", [6, 6]⟩, ⟨"u", []⟩] := by decide +kernel
    rw [← hmeaning]
    exact hdenotes.unique stored.denotes_meaning
  rw [hassignment] at hdenotes hrun
  exact ⟨stored, rfl, hdenotes, hrun⟩

end Assignment

end ConsumerOffsets
