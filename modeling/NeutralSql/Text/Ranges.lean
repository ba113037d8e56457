/-!
# Sets of characters given by ranges

Character properties are stored as lists of inclusive code-point ranges, in
ascending order. Membership is a search through such a list.
-/

namespace NeutralSql.Text

/-- Inclusive ranges of code points. -/
abbrev Ranges := List (Nat × Nat)

/-- A character belongs to a set of ranges when some range encloses its code point. -/
def Ranges.contains (ranges : Ranges) (c : Char) : Bool :=
  ranges.any fun range => range.1 ≤ c.toNat && c.toNat ≤ range.2

end NeutralSql.Text
