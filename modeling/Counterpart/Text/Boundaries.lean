/-!
# Sets of code points as boundaries

A set is given by the rising list of the codes at which membership changes: the first code
inside, the first code outside again, and so on.
-/

namespace Counterpart.Text

/-- Whether a code lies in the set, when membership before the first boundary is `inside`. -/
def withinFrom (inside : Bool) : List Nat → Nat → Bool
  | [], _ => inside
  | boundary :: rest, code => if code < boundary then inside else withinFrom (!inside) rest code

/-- Whether a code lies in the set with the given boundaries. -/
def within (boundaries : List Nat) (code : Nat) : Bool := withinFrom false boundaries code

end Counterpart.Text
