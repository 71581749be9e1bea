/-!
# Ranges of characters

A property of characters is kept as the closed ranges of code points that have it, ascending and
apart, after version 17 of the Unicode character database where no other is named.
-/

namespace RowFilter.Text

/-- Closed ranges of code points. -/
abbrev Ranges := List (Nat × Nat)

/-- The character lies in one of the ranges. -/
def Ranges.has (ranges : Ranges) (c : Char) : Bool :=
  ranges.any fun r => decide (r.1 ≤ c.toNat) && decide (c.toNat ≤ r.2)

/-- Each range is in order and leaves a gap before the next. -/
def Ranges.isAscending : Ranges → Bool
  | [] => true
  | [r] => decide (r.1 ≤ r.2)
  | r :: s :: rest => decide (r.1 ≤ r.2) && decide (r.2 + 1 < s.1) && Ranges.isAscending (s :: rest)

end RowFilter.Text
