/-
# The last occurrence of a topic wins

`Assignment.ofList` goes through stored topics from left to right and assigns each.  What comes out
is described here without that walk (`Assignment.LastWins`): every stored topic once, in the order
of first occurrences, with the partitions of its last occurrence.

The invariant is the description itself, for the topics gone through so far.  One topic more keeps
it (`LastWins.assign`), hence it holds at the end (`lastWins_ofList`).
-/
import ConsumerOffsets.Assignment

namespace ConsumerOffsets.Assignment

/-- The assignment has each topic of the list once, where it occurs first, and the partitions from
where it occurs last. -/
structure LastWins (entries : List TopicPartitions) (assignment : Assignment) : Prop where
  topics : assignment.topics = (entries.map TopicPartitions.topic).eraseDups
  nodup : assignment.topics.Nodup
  last : ∀ entry ∈ assignment, ∃ before after, entries = before ++ entry :: after
    ∧ ∀ later ∈ after, later.topic ≠ entry.topic

/-- What is left was in the list. -/
theorem LastWins.mem {entries : List TopicPartitions} {assignment : Assignment}
    (h : LastWins entries assignment) {entry : TopicPartitions} (hmem : entry ∈ assignment) :
    entry ∈ entries := by
  obtain ⟨before, after, rfl, -⟩ := h.last entry hmem
  exact List.mem_append_right _ List.mem_cons_self

/-- What is in an assignment of different topics after one more was assigned: that one, and what
was there for other topics. -/
theorem mem_assign {entry e : TopicPartitions} : ∀ {assignment : Assignment},
    assignment.topics.Nodup → e ∈ assign entry assignment →
      e = entry ∨ e ∈ assignment ∧ e.topic ≠ entry.topic
  | [], _, h => Or.inl (List.mem_singleton.mp h)
  | first :: rest, hnodup, h => by
    obtain ⟨hfirst, hrest⟩ := List.nodup_cons.mp hnodup
    unfold assign at h
    split at h
    · next heq =>
      rcases List.mem_cons.mp h with rfl | hmem
      · exact Or.inl rfl
      · refine Or.inr ⟨List.mem_cons_of_mem _ hmem, ?_⟩
        intro htopic
        rw [heq, ← htopic] at hfirst
        exact hfirst (List.mem_map_of_mem hmem)
    · next hne =>
      rcases List.mem_cons.mp h with rfl | hmem
      · exact Or.inr ⟨List.mem_cons_self, hne⟩
      · rcases mem_assign hrest hmem with rfl | ⟨hmem, htopic⟩
        · exact Or.inl rfl
        · exact Or.inr ⟨List.mem_cons_of_mem _ hmem, htopic⟩

theorem lastWins_nil : LastWins [] [] where
  topics := rfl
  nodup := List.nodup_nil
  last := by simp

/-- One topic more. -/
theorem LastWins.assign {entries : List TopicPartitions} {assignment : Assignment}
    (h : LastWins entries assignment) (entry : TopicPartitions) :
    LastWins (entries ++ [entry]) (Assignment.assign entry assignment) where
  topics := by
    have hmem : entry.topic ∈ assignment.topics
        ↔ entry.topic ∈ entries.map TopicPartitions.topic := by rw [h.topics, List.mem_eraseDups]
    rw [topics_assign, List.map_append, List.eraseDups_append, ← h.topics, List.map_singleton,
      List.cons_removeAll]
    by_cases hin : entry.topic ∈ entries.map TopicPartitions.topic
    · rw [if_pos (hmem.mpr hin), if_neg (by simpa using hin)]
      exact (List.append_nil _).symm
    · rw [if_neg (fun hm => hin (hmem.mp hm)), if_pos (by simpa using hin)]
      rfl
  nodup := nodup_topics_assign entry h.nodup
  last := by
    intro e he
    rcases mem_assign h.nodup he with rfl | ⟨hold, htopic⟩
    · exact ⟨entries, [], rfl, by simp⟩
    · obtain ⟨before, after, rfl, hafter⟩ := h.last e hold
      refine ⟨before, after ++ [entry], by simp, ?_⟩
      intro later hlater
      rcases List.mem_append.mp hlater with hlater | hlater
      · exact hafter later hlater
      · rw [List.mem_singleton.mp hlater]
        exact htopic.symm

/-- All topics of a list, the ones in front of them gone through already. -/
theorem LastWins.foldl_assign : ∀ {front entries : List TopicPartitions} {assignment : Assignment},
    LastWins front assignment → LastWins (front ++ entries)
      (entries.foldl (fun assignment entry => Assignment.assign entry assignment) assignment)
  | front, [], assignment, h => by rwa [List.append_nil]
  | front, entry :: entries, assignment, h => by
    have hrest : LastWins ((front ++ [entry]) ++ entries) _ := (h.assign entry).foldl_assign
    rwa [List.append_assoc] at hrest

theorem lastWins_ofList (entries : List TopicPartitions) : LastWins entries (ofList entries) :=
  lastWins_nil.foldl_assign

end ConsumerOffsets.Assignment
