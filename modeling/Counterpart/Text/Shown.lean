/-!
# Values shown to those who write programs

A value is shown as a plain text or as a name with one value in parentheses. The short form takes
one line; the long form gives every value in parentheses a line of its own, indented once more.
-/

namespace Counterpart.Text

/-- How a value is shown. -/
inductive Shown where
  | plain (text : String)
  /-- A name with a value in parentheses. -/
  | tuple (name : String) (content : Shown)
deriving Repr, DecidableEq

namespace Shown

/-- The form on one line. -/
def short : Shown → String
  | plain text => text
  | tuple name content => name ++ "(" ++ content.short ++ ")"

/-- The white space in front of a line at a depth. -/
def indentation (depth : Nat) : String := String.ofList (List.replicate (4 * depth) ' ')

/-- The form on several lines, beginning at a depth. -/
def longAt (depth : Nat) : Shown → String
  | plain text => text
  | tuple name content =>
    name ++ "(\n" ++ indentation (depth + 1) ++ content.longAt (depth + 1) ++ ",\n"
      ++ indentation depth ++ ")"

/-- The form on several lines. -/
def long (shown : Shown) : String := shown.longAt 0

end Shown

end Counterpart.Text
