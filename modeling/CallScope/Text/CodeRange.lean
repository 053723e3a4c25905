/-!
This module contains sets of characters as tables of code point ranges.
-/

namespace CallScope.Text

structure CodeRange where
  first : Nat
  last : Nat
  deriving DecidableEq, Repr

namespace CodeRange

/--
Decide whether a table in ascending order holds `code`. The search ends at the first range above it.
-/
def holds : List CodeRange → Nat → Bool
  | [], _ => false
  | r :: rs, code => if code < r.first then false else code ≤ r.last || holds rs code

end CodeRange

end CallScope.Text
