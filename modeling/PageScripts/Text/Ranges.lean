/-!
# Sets of code points given by ranges

A property of characters that follows no formula is kept as a table of inclusive ranges
of code points, in ascending order.
-/

namespace PageScripts
namespace Text

/-- Inclusive ranges of code points, in ascending order. -/
abbrev Ranges := List (Nat × Nat)

/-- Whether a code point lies in one of the ranges. -/
def Ranges.cover
    (ranges : Ranges)
    (code : Nat) :
    Bool :=
  ranges.any fun range =>
    range.1 ≤ code && code ≤ range.2

end Text
end PageScripts
