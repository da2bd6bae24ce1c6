/-!
Sets of characters as tables of closed ranges of code points.
-/

set_option autoImplicit false

namespace LinkTidy.Unicode

/-- Bounds `low, high, low, high, …` in ascending order, each pair a closed range. -/
abbrev Ranges := List Nat

/-- Whether a code point lies in one of the ranges. The order lets the search stop at the first range above it. -/
def covers : Ranges → Nat → Bool
  | low :: high :: rest, n => if n < low then false else n ≤ high || covers rest n
  | _, _ => false

end LinkTidy.Unicode
