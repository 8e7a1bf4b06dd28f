/-! # Ranges of code points

Membership in a table of closed ranges, the form in which character properties are listed. -/

namespace Allowlist.Text

/-- Whether the code point lies in one of the closed ranges. -/
def inRanges (ranges : List (Nat × Nat)) (n : Nat) : Bool :=
  ranges.any fun r => r.1 ≤ n && n ≤ r.2

end Allowlist.Text
