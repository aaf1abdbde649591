/-!
# Ranges of characters

A property of characters is kept as the ascending list of the closed ranges of code points that
have it.
-/

namespace MissionControl
namespace Text

/-- Closed ranges of code points, each given by its first and its last member. -/
abbrev RangeTable := List (Nat × Nat)

namespace RangeTable

def covers (table : RangeTable) (c : Char) : Bool :=
  table.any fun range => range.1 ≤ c.toNat && c.toNat ≤ range.2

end RangeTable

end Text
end MissionControl
