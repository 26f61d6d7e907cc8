/-!
# Names captured by a format text

A format text may name a value between braces, with a colon in front of how the value is to be
shown. Two opening braces in a row stand for one and capture nothing.
-/

namespace Counterpart.Text

/-- Whether a character is white space. -/
def isWhite (character : Char) : Bool :=
  let code := character.toNat
  (9 ≤ code && code ≤ 13) || code == 0x20 || code == 0x85 || code == 0xA0 || code == 0x1680
    || (0x2000 ≤ code && code ≤ 0x200A) || code == 0x2028 || code == 0x2029 || code == 0x202F
    || code == 0x205F || code == 0x3000

/-- The characters without white space at either end. -/
def trim (characters : List Char) : List Char :=
  ((characters.dropWhile isWhite).reverse.dropWhile isWhite).reverse

/-- Whether characters spell a name: letters, digits and underscores of the basic alphabet, not
beginning with a digit, and not a lone underscore. -/
def isPlainName : List Char → Bool
  | [] => false
  | first :: rest =>
    (first.isAlpha || first == '_') && !(first == '_' && rest.isEmpty)
      && rest.all fun character => character.isAlphanum || character == '_'

/-- Where in a format text a reader stands. -/
inductive CaptureState where
  /-- Outside of braces. -/
  | outside
  /-- Directly behind an opening brace. -/
  | opened
  /-- In the name between braces, with the characters of the name so far in reverse. -/
  | inside (name : List Char)
deriving Repr

/-- The name that is complete, if it is one. -/
def capturedName (reversed : List Char) : List String :=
  let name := trim reversed.reverse
  if isPlainName name then [String.ofList name] else []

/-- The names captured by the rest of a format text. -/
def capturesFrom : CaptureState → List Char → List String
  | .outside, [] => []
  | .opened, [] => []
  | .inside name, [] => capturedName name
  | .outside, character :: rest =>
    capturesFrom (if character = '\x7b' then .opened else .outside) rest
  | .opened, character :: rest =>
    if character = '\x7b' ∨ character = '\x7d' ∨ character = ':' then capturesFrom .outside rest
    else capturesFrom (.inside [character]) rest
  | .inside name, character :: rest =>
    if character = '\x7d' ∨ character = ':' then capturedName name ++ capturesFrom .outside rest
    else capturesFrom (.inside (character :: name)) rest

/-- The names captured by a format text, in order. -/
def captures (text : String) : List String := capturesFrom .outside text.toList

end Counterpart.Text
