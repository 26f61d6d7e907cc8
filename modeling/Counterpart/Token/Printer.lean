import Counterpart.Token.Basic

/-!
# Writing tokens as text

Tokens stand one space apart, except that nothing follows a joint punctuation character.
Parentheses and brackets hug their content, braces keep a space on either side.
-/

namespace Counterpart

namespace Delimiter

/-- What is written before the content of a group. -/
def opening : Delimiter → String
  | .parenthesis => "("
  | .bracket => "["
  | .brace => "\x7b "

/-- What is written after the content of a group. -/
def closing : Delimiter → String
  | .parenthesis => ")"
  | .bracket => "]"
  | .brace => "\x7d"

end Delimiter

namespace TokenTree

/-- Whether the next token follows without a space. -/
def isJoint : TokenTree → Bool
  | .punct _ joint _ => joint
  | _ => false

mutual

/-- The text of one tree. -/
def render : TokenTree → String
  | .word ident _ => ident.text
  | .punct character _ _ => character.toString
  | .literal text _ => text
  | .group delimiter _ _ content =>
    let gap := if delimiter = .brace ∧ !content.isEmpty then " " else ""
    delimiter.opening ++ renderAll content ++ gap ++ delimiter.closing

/-- The text of several trees in a row. -/
def renderAll : List TokenTree → String
  | [] => ""
  | [tree] => render tree
  | tree :: rest => render tree ++ (if tree.isJoint then "" else " ") ++ renderAll rest

end

end TokenTree

end Counterpart
