/-
# Sets of characters

A set of characters given by ranges of code points, as character properties are tabled.
-/

namespace ConsumerOffsets.Text

/-- Closed ranges of code points, in ascending order. -/
abbrev Ranges := List (Nat × Nat)

/-- Whether a code point lies in one of the ranges. -/
def Ranges.contains (ranges : Ranges) (n : Nat) : Bool :=
  ranges.any fun range => range.1 ≤ n && n ≤ range.2

end ConsumerOffsets.Text
