/-!
# Ranges of code points

A character class is a table of closed ranges of code points.
-/
namespace PostfixCalculator.Text

/-- Closed ranges of code points, in increasing order. -/
abbrev RangeTable := List (Nat × Nat)

def RangeTable.has (table : RangeTable) (c : Char) : Bool :=
  table.any fun (low, high) => low ≤ c.toNat && c.toNat ≤ high

end PostfixCalculator.Text
