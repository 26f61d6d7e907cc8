import Counterpart.Text.Quoted

/-!
# The error for a property without a value

Reading or building without a value fails with the name of the property that was never set.
-/

namespace Counterpart

/-- A property was never set. -/
structure MissingProperty where
  name : String
deriving DecidableEq, Repr, Inhabited

namespace MissingProperty

/-- The wording. -/
def message (missing : MissingProperty) : String :=
  "Uninitialized property '" ++ missing.name ++ "'."

/-- The error as it is shown to those who write programs. -/
def shown (missing : MissingProperty) : String :=
  "UninitializedProperty \x7b name: " ++ Text.quoted missing.name ++ " \x7d"

end MissingProperty

end Counterpart
