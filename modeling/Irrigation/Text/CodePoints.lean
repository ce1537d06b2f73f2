/-!
# Sets of code points

A set of code points is a table of inclusive ranges. `inRanges` is membership; the tables of
`Irrigation.Text.Hidden`, `Irrigation.Text.Alphanumeric` and `Irrigation.Text.Blank` use it.
-/

namespace Irrigation

/-- Whether one of the inclusive ranges holds the code point. -/
def inRanges (ranges : Array (Nat × Nat)) (codePoint : Nat) : Bool :=
  ranges.any fun (first, last) => first ≤ codePoint && codePoint ≤ last

end Irrigation
