/-!
# Lists of names

Names are put in strictly ascending order, so that a set of names has one form.
-/

namespace ShieldPolicy

def dropRepeats : List String → List String
  | [] => []
  | [a] => [a]
  | a :: b :: rest => if a = b then dropRepeats (b :: rest) else a :: dropRepeats (b :: rest)

/-- The names in strictly ascending order of their bytes. Code points and their encoding are ordered
alike. -/
def sortedNames (names : List String) : List String :=
  dropRepeats (names.mergeSort fun a b => decide (a ≤ b))

end ShieldPolicy
