/-
# Paths to the fields of a record

A failed decoding names the field at fault by its path from the top of the record:
`members[0].assignment.topics[2].name`.  The path is kept as a tree of steps, so that "the field
ends in `name`" and "the field lies in the third member" are statements about its last and its
first steps; `FieldPath.render` gives the written form.
-/

namespace ConsumerOffsets

/-- Where a field lies: at a named root, as a named part of another field, or as an element of a
list, counted from zero. -/
inductive FieldPath where
  | root (name : String)
  | child (parent : FieldPath) (name : String)
  | item (list : FieldPath) (index : Nat)
deriving DecidableEq, Repr

namespace FieldPath

/-- The written form: a dot stands before the name of a part, square brackets around an index. -/
def render : FieldPath → String
  | root name => name
  | child parent name => parent.render ++ "." ++ name
  | item list index => list.render ++ "[" ++ toString index ++ "]"

/-- A path reaches into another one when it is that path or goes on from it. -/
def Within (outer : FieldPath) : FieldPath → Prop
  | root name => root name = outer
  | child parent name => child parent name = outer ∨ Within outer parent
  | item list index => item list index = outer ∨ Within outer list

/-- A path ends in a name when its last step is to the part of that name. -/
def EndsIn (name : String) : FieldPath → Prop
  | child _ last => last = name
  | root _ | item _ _ => False

theorem not_endsIn_root {name : String} (first : String) : ¬ (root first).EndsIn name := id

theorem not_endsIn_child {name last : String} (h : last ≠ name) (parent : FieldPath) :
    ¬ (parent.child last).EndsIn name := h

example : (((root "members").item 0).child "session_timeout").render
    = "members[0].session_timeout" := by decide

/-! ## The fields that more than one decoder names -/

/-- The version tag at the front of a value. -/
def version : FieldPath := root "version"

/-- The list of members of a group. -/
def members : FieldPath := root "members"

/-- The key of a record. -/
def key : FieldPath := root "key"

/-- The version tag at the front of a key. -/
def keyVersion : FieldPath := key.child "version"

/-- The group that a key names. -/
def keyGroup : FieldPath := key.child "group"

/-- The topic that a key names. -/
def keyTopic : FieldPath := key.child "topic"

/-- The partition that a key names. -/
def keyPartition : FieldPath := key.child "partition"

end FieldPath

end ConsumerOffsets
