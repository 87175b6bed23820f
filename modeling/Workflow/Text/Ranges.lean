/-!
# Runs of code points

Character classes are kept as lists of runs, each given by its first and its last code point.
-/

namespace Workflow.Text

/-- Whether a code point lies in one of the runs. -/
def inRanges (ranges : List (Nat × Nat)) (n : Nat) : Bool :=
  ranges.any fun (first, last) => first ≤ n && n ≤ last

end Workflow.Text
