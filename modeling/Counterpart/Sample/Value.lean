import Counterpart.Cell.Basic
import Counterpart.Text.Quoted
import Counterpart.Text.Shown

/-!
# Sample values

The sample programs work on numbers, texts and truth values, and on watched numbers, whose
destructor panics for a negative number. Copying a watched number gives a greater one, so that a
copy can be told from what it was made from.
-/

namespace Counterpart.Sample

open Run Text

/-- A value of a sample program. -/
inductive Value where
  | integer (number : Int)
  | text (content : String)
  | optionalText (content : Option String)
  | truth (value : Bool)
  | watched (number : Int)
deriving DecidableEq, Repr, Inhabited

/-- The types of the values. -/
inductive ValueType where
  | integer
  | text
  | optionalText
  | truth
  | watched
deriving DecidableEq, Repr, Inhabited

namespace Value

instance : Destructible Value where
  panics
    | .watched number => number < 0
    | _ => false

/-- What a copy of a value is. -/
def copied : Value → Value
  | watched number => watched (number + 1000)
  | value => value

/-- How a value is shown. -/
def shown : Value → Shown
  | integer number => .plain (toString number)
  | text content => .plain (quoted content)
  | optionalText none => .plain "None"
  | optionalText (some content) => .tuple "Some" (.plain (quoted content))
  | truth value => .plain (if value then "true" else "false")
  | watched number => .tuple "Logged" (.plain (toString number))

/-- How a cell with or without a value is shown. -/
def shownInCell : Option Value → Shown
  | none => .plain "Tracked(<uninitialized>)"
  | some value => .tuple "Tracked" value.shown

end Value

/-- The line that a watched event leaves; other events leave none. -/
def logLine? : Event Value → Option String
  | .dropped (.watched number) => some ("drop " ++ toString number)
  | .cloned (.watched number) => some ("clone " ++ toString number)
  | .evaluated (.integer number) => some ("eval " ++ toString number)
  | _ => none

/-- How a value of a type is changed to another one in place. A watched number takes the other's
number and is not dropped; any other value is dropped. -/
def editing : Value → Edit Value
  | .watched number => .change fun _ => .watched number
  | value => .replace value

end Counterpart.Sample
