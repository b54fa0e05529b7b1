/-
# Assignments

Which partitions of which topics a group member owns.  The stored form is a list of topics, each
with its partitions, and a region of user data that is passed over.  A topic may be stored more
than once: the assignment has it once, at the place of its first occurrence and with the
partitions of its last.
-/
import ConsumerOffsets.Binary.Decoder

namespace ConsumerOffsets

open Binary

/-- A topic and partitions of it, in order. -/
structure TopicPartitions where
  topic : String
  partitions : List Int32
deriving DecidableEq, Repr

/-- The partitions that a member owns, topic by topic. -/
abbrev Assignment := List TopicPartitions

namespace Assignment

/-! ## 1. The last occurrence of a topic wins, its first keeps the place -/

/-- Gives a topic its partitions.  A topic that is there already keeps its place. -/
def assign (entry : TopicPartitions) : Assignment → Assignment
  | [] => [entry]
  | first :: rest =>
    if first.topic = entry.topic then entry :: rest else first :: assign entry rest

/-- The assignment that a list of topics, in stored order, stands for. -/
def ofList (entries : List TopicPartitions) : Assignment :=
  entries.foldl (fun assignment entry => assign entry assignment) []

/-- The topics, in order. -/
def topics (assignment : Assignment) : List String := assignment.map TopicPartitions.topic

/-- Assigning adds the topic at the end, unless it is there already. -/
theorem topics_assign (entry : TopicPartitions) : ∀ assignment : Assignment,
    (assign entry assignment).topics
      = if entry.topic ∈ assignment.topics then assignment.topics
        else assignment.topics ++ [entry.topic]
  | [] => by simp [assign, topics]
  | first :: rest => by
    have ih := topics_assign entry rest
    simp only [topics, List.map_cons, List.mem_cons] at ih ⊢
    by_cases h : first.topic = entry.topic
    · simp [assign, h]
    · have h' : entry.topic ≠ first.topic := fun e => h e.symm
      simp only [assign, h, if_false, List.map_cons, ih, h', false_or]
      by_cases hm : entry.topic ∈ rest.map TopicPartitions.topic
      · simp only [hm, if_true]
      · simp only [hm, if_false, List.cons_append]

/-- Assigning to an assignment without repeated topics repeats none. -/
theorem nodup_topics_assign (entry : TopicPartitions) {assignment : Assignment}
    (h : assignment.topics.Nodup) : (assign entry assignment).topics.Nodup := by
  rw [topics_assign]
  split
  · exact h
  · next hm =>
    rw [List.nodup_append]
    refine ⟨h, by simp, ?_⟩
    intro a ha b hb heq
    simp only [List.mem_singleton] at hb
    exact hm (hb ▸ heq ▸ ha)

example : ofList [⟨"a", [1]⟩, ⟨"b", [2]⟩, ⟨"a", [3, 3]⟩] = [⟨"a", [3, 3]⟩, ⟨"b", [2]⟩] := by decide

/-! ## 2. The stored form -/

/-- The fewest bytes that a topic takes up: an empty name and a count of no partitions. -/
def minTopicSize : Nat := 6

/-- The bytes that a partition takes up. -/
def partitionSize : Nat := 4

/-- One topic with its partitions. -/
def decodeTopic (field : FieldPath) : Decoder TopicPartitions := do
  let topic ← Decoder.string (field.child "name")
  let count ← Decoder.boundedCount partitionSize (field.child "partition_count")
  let partitions ← Decoder.list count fun j => Decoder.int32 ((field.child "partitions").item j)
  return { topic, partitions }

/-- The body of an assignment: everything behind its version tag. -/
def decode (field : FieldPath) : Decoder Assignment := do
  let count ← Decoder.boundedCount minTopicSize (field.child "topic_count")
  let entries ← Decoder.list count fun i => decodeTopic ((field.child "topics").item i)
  let _userData ← Decoder.region (field.child "user_data")
  return ofList entries

/-- The assignment in the region that a member has for it.  An empty region is the empty
assignment.  Otherwise a version tag comes first, every version that is not negative has the same
body, and what follows the body is not looked at. -/
def ofRegion (member : FieldPath) (region : List UInt8) : Except DecodeError Assignment :=
  if region.isEmpty then .ok []
  else do
    let versionField := member.child "consumer_protocol_version"
    let (version, body) ← Decoder.int .two versionField region
    if version < 0 then throw (.invalidAssignmentVersion versionField version)
    match decode (member.child "assignment") body with
    | .ok (assignment, _) => return assignment
    | .error e => throw (.assignmentFailed (member.child "assignment") e)

/-- What is done with a region that is not empty: its version is read first, then its body. -/
theorem ofRegion_of_ne_nil {member : FieldPath} {region : List UInt8}
    (h : region ≠ []) :
    ofRegion member region
      = match Decoder.int .two (member.child "consumer_protocol_version") region with
        | .error e => .error e
        | .ok (version, body) =>
          if version < 0 then
            .error (.invalidAssignmentVersion (member.child "consumer_protocol_version") version)
          else
            match decode (member.child "assignment") body with
            | .ok (assignment, _) => .ok assignment
            | .error e => .error (.assignmentFailed (member.child "assignment") e) := by
  rw [ofRegion, if_neg (by simpa using h)]
  dsimp only
  cases Decoder.int .two (member.child "consumer_protocol_version") region with
  | error e => rfl
  | ok p =>
    obtain ⟨version, body⟩ := p
    show (if version < 0 then _ else _) = (if version < 0 then _ else _)
    split
    · rfl
    · cases decode (member.child "assignment") body <;> rfl

end Assignment

end ConsumerOffsets
