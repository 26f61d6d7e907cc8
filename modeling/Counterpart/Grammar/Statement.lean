import Counterpart.Grammar.Expression

/-!
# Reading statements

Attributes in front of an expression statement belong to its leftmost operand.
-/

namespace Counterpart

namespace Tree

/-- Put attributes in front of the leftmost operand of an expression. -/
def prependLeft (parts : List Tree) : Tree → Tree
  | .node (.expression .assign) (left :: rest) =>
    .node (.expression .assign) (prependLeft parts left :: rest)
  | .node (.expression (.binary comparison)) (left :: rest) =>
    .node (.expression (.binary comparison)) (prependLeft parts left :: rest)
  | .node (.expression .cast) (left :: rest) =>
    .node (.expression .cast) (prependLeft parts left :: rest)
  | tree => attributed parts tree

end Tree

namespace Grammar

open Counterpart.Parser

/-- A `let` statement behind its attributes. -/
def binding (grammar : Grammar) (attributes : List Tree) : Parser Tree := do
  let word ← keyword "let"
  let pattern ← grammar.tree .pattern
  let target ←
    if ← looking (Lookahead.operator ":") then
      let colon ← operator ":"
      let type ← grammar.type
      pure (patternNode .typed (pattern :: colon ++ [type]))
    else pure pattern
  let initial ←
    if ← looking (Lookahead.operator "=") then
      let equals ← operator "="
      let value ← grammar.expression
      let tokens ← ahead
      let alternative ←
        if !value.endsInBraces && Lookahead.keyword "else" tokens then
          let word ← keyword "else"
          let branch ← block grammar
          pure (word ++ [expressionNode .block [branch]])
        else pure []
      pure [Tree.node .initializer (equals ++ value :: alternative)]
    else pure []
  let mark ← operator ";"
  pure (.node .binding (attributes ++ word ++ .node .target [target] :: initial ++ mark))

/-- The tokens behind the path of a macro call in front, if there is one. -/
def macroPathAhead? (tokens : List TokenTree) : Option (List TokenTree) :=
  match modulePath (.ofTokens tokens) with
  | .ok (_, after) => if Lookahead.operator "!" after.rest then some after.rest else none
  | .error _ => none

/-- Whether an item stands ahead of a statement, behind its attributes. -/
def itemAhead (tokens : List TokenTree) : Bool :=
  let second := Lookahead.skip tokens
  let third := Lookahead.skip second
  let function := ["unsafe", "extern", "fn"]
  Lookahead.keywords ["pub", "extern", "use", "fn", "mod", "type", "struct", "enum", "trait",
      "impl", "macro"] tokens
    || Lookahead.keyword "crate" tokens && !Lookahead.operator "::" second
    || Lookahead.keyword "static" tokens
      && (Lookahead.keyword "mut" second
        || Lookahead.name second
          && !(Lookahead.keyword "async" second
            && (Lookahead.keyword "move" third || Lookahead.operator "|" third)))
    || Lookahead.keyword "const" tokens
      && !(Lookahead.group .brace second || Lookahead.keyword "static" second
        || Lookahead.keyword "async" second && !Lookahead.keywords function third
        || Lookahead.keyword "move" second || Lookahead.operator "|" second)
    || Lookahead.keyword "unsafe" tokens && !Lookahead.group .brace second
    || Lookahead.keyword "async" tokens && Lookahead.keywords function second
    || Lookahead.keyword "union" tokens && Lookahead.name second
    || Lookahead.keyword "auto" tokens && Lookahead.keyword "trait" second
    || Lookahead.keyword "default" tokens && Lookahead.keywords ["unsafe", "impl"] second

/-- A statement. -/
def statementRule (grammar : Grammar) : Parser Tree := do
  let start ← get
  let attributes ← outerTrees grammar
  let tokens ← ahead
  let call := macroPathAhead? tokens
  let behind := (call.map Lookahead.skip).getD []
  let further := Lookahead.skip behind
  let declares := call.isSome && (Lookahead.name behind || Lookahead.keyword "try" behind)
  let braced := call.isSome && !declares && Lookahead.group .brace behind
    && !(dotAhead further || Lookahead.operator "?" further)
  if braced then
    let path ← modulePath
    let call ← macroRest path.tree
    let mark ← operator? ";"
    pure (.node .statement (expressionNode .macroCall (attributes ++ [call]) :: mark))
  else if Lookahead.keyword "let" tokens then binding grammar attributes
  else if itemAhead tokens || declares then
    set start
    let item ← grammar.item
    pure item.tree
  else
    let value ← grammar.tree .early
    let mark ← operator? ";"
    pure (.node .statement (value.prependLeft attributes :: mark))

end Grammar

end Counterpart
