/-!
# Character Classes by Boundaries

A class of code points is written as the increasing list of the points where membership changes,
the first of them the first member.
-/

namespace BinaryLayout.Text.Boundary

/-- Whether `code` belongs to the class with the given boundaries. -/
def holds : List Nat → Nat → Bool
  | [], _ => false
  | boundary :: rest, code => if code < boundary then false else !holds rest code

end BinaryLayout.Text.Boundary
