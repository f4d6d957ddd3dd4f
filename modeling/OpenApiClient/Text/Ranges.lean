/-!
# Sets of characters given by ranges

A property of characters is an ascending list of closed ranges of code points.
-/

namespace OpenApiClient.Text

/-- Closed ranges of code points, lowest first. -/
abbrev Ranges := List (Nat × Nat)

def Ranges.contains (ranges : Ranges) (point : Nat) : Bool :=
  ranges.any fun range => range.1 ≤ point && point ≤ range.2

/-- The ranges given by their first code points and the first after them. -/
def Ranges.ofBounds : List Nat → Ranges
  | first :: following :: rest => (first, following - 1) :: ofBounds rest
  | _ => []

end OpenApiClient.Text
