/-!
# Ranges of characters

Classes of characters given as tables: the first and the last code point of each run, in ascending
order. A table holds a character if one of its runs does.
-/

namespace Wireframe.Text

/-- Whether one of the ranges holds the character. -/
def inRanges (ranges : List (Nat × Nat)) (c : Char) : Bool :=
  ranges.any fun range => range.1 ≤ c.toNat && c.toNat ≤ range.2

/-- Whether ranges are ascending and apart, so that no run is written in two pieces. -/
def areApart : List (Nat × Nat) → Bool
  | [] => true
  | [range] => range.1 ≤ range.2
  | range :: other :: rest =>
    range.1 ≤ range.2 && range.2 + 1 < other.1 && areApart (other :: rest)

end Wireframe.Text
