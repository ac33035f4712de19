/-!
# Ranges of characters

A Unicode class of characters is held as the ranges of their numbers.
-/
namespace S7Request.Text

/-- Whether a number lies in one of the ranges. -/
def inRanges (ranges : List (Nat × Nat)) (n : Nat) : Bool :=
  ranges.any fun r => r.1 ≤ n && n ≤ r.2

end S7Request.Text
