import Counterpart.Grammar.Type

/-!
# Reading patterns

Paths, literals, ranges, constant blocks and macro calls look the same in a pattern and in an
expression, and are read into the same nodes.
-/

namespace Counterpart.Grammar

open Counterpart.Parser

/-- An expression node. -/
def expressionNode (kind : ExpressionKind) (parts : List Tree) : Tree :=
  .node (.expression kind) parts

/-- A pattern node. -/
def patternNode (kind : PatternKind) (parts : List Tree) : Tree := .node (.pattern kind) parts

/-- A constant block behind its keyword's attributes. -/
def constBlock (grammar : Grammar) : Parser Tree := do
  let word ← keyword "const"
  let body ← attributedBlock grammar
  pure (expressionNode .constBlock (word ++ [body]))

/-- The dots of a range, and whether the range includes its end. -/
def rangeDots : Parser (List Tree × Bool) := do
  let tokens ← ahead
  if Lookahead.operator "..=" tokens then return (← operator "..=", true)
  if Lookahead.operator "..." tokens then wanting ["`..=`"]
  return (← operator "..", false)

/-- An operator spelled with other characters in the same places. -/
def respelled (characters : List Char) (operator : List Tree) : List Tree :=
  (operator.zip characters).map fun
    | (.leaf (.punct _ joint region), character) => .leaf (.punct character joint region)
    | (tree, _) => tree

/-- The dots of a range pattern behind its start. Three dots are an old spelling of an included
end. -/
def innerDots : Parser (List Tree × Bool) := do
  if ← looking (Lookahead.operator "...") then
    let dots ← operator "..."
    pure (respelled ['.', '.', '='] dots, true)
  else rangeDots

/-- A bound of a range pattern, if there is one. -/
def rangeBound (grammar : Grammar) : Parser (List Tree) := do
  let tokens ← ahead
  if tokens.isEmpty || Lookahead.operator "|" tokens || Lookahead.operator "=" tokens
      || Lookahead.operator ":" tokens && !Lookahead.operator "::" tokens
      || Lookahead.operator "," tokens || Lookahead.operator ";" tokens
      || Lookahead.keyword "if" tokens then
    pure []
  else if Lookahead.literal tokens then return [literalExpression (← literal)]
  else if Lookahead.name tokens || Lookahead.operator "::" tokens || Lookahead.operator "<" tokens
      || Lookahead.pathKeyword tokens then
    let path ← qualifiedPath grammar true
    pure [expressionNode .path [path]]
  else if Lookahead.keyword "const" tokens then return [← constBlock grammar]
  else wanting ["literal", "identifier", "`::`", "`<`", "`self`", "`Self`", "`super`", "`crate`",
    "`const`"]

/-- The rest of a range pattern behind its first bound. -/
def rangeRest (grammar : Grammar) (start : List Tree) : Parser Tree := do
  let (dots, closed) ← innerDots
  let stop ← rangeBound grammar
  if closed && stop.isEmpty then failWith (.rule "expected range upper bound")
  pure (expressionNode .range (start ++ dots ++ stop))

/-- What is wrong with a number that should be an index, or else its value. It is written without
sign and suffix. -/
def indexValue (text : String) : Except Complaint Nat :=
  match Literal.index? text with
  | some index =>
    if index < 4294967296 then .ok index
    else .error (.rule "number too large to fit in target type")
  | none => .error (.rule "expected unsuffixed integer")

/-- A field known by its position. -/
def fieldIndex : Parser Tree := do
  if !(← looking (Lookahead.number .integer)) then
    failWith (.rule "expected identifier or integer")
  let written ← literal
  match Tree.tokensAll written with
  | [.literal text region] =>
    match indexValue text with
    | .ok index => pure (.leaf (.literal (toString index) region))
    | .error complaint => failOn written complaint
  | [_, .literal text _] =>
    failOn written (.rule (if (Literal.index? text).isSome then "invalid digit found in string"
      else "expected unsuffixed integer"))
  | _ => failOn written (.wanted ["integer literal"])

/-- The fields of a struct pattern; `fuel` bounds their number. -/
def recordFields (grammar : Grammar) (fuel : Nat) : Parser (List Tree) :=
  match fuel with
  | 0 => pure []
  | fuel + 1 => do
    if ← atEnd then return []
    let attributes ← outerTrees grammar
    if ← looking (Lookahead.operator "..") then
      let dots ← operator ".."
      return [patternNode .other (attributes ++ dots)]
    let start ← ahead
    let boxed ← keyword? "box"
    let byRef ← keyword? "ref"
    let mutability ← keyword? "mut"
    let modifiers := boxed ++ byRef ++ mutability
    let tokens ← ahead
    let field ←
      if modifiers.isEmpty
          && (Lookahead.operator ":" (Lookahead.skip tokens) || !Lookahead.name tokens) then
        let member ← if Lookahead.name tokens then nameLeaf else fieldIndex
        let colon ← operator ":"
        let pattern ← grammar.tree .alternatives
        pure (patternNode .other (attributes ++ member :: colon ++ [pattern]))
      else
        let ident ← nameLeaf
        if boxed.isEmpty then
          pure (patternNode .other (attributes ++ [patternNode .binding (modifiers ++ [ident])]))
        else
          let tokens ← tokensSince start
          pure (patternNode .other (attributes ++ [patternNode .verbatim tokens]))
    if ← atEnd then return [field]
    let comma ← operator ","
    let rest ← recordFields grammar fuel
    pure (field :: comma ++ rest)

/-- A name to be bound, with its modifiers and the pattern behind `@`. -/
def bindingPattern (grammar : Grammar) : Parser Tree := do
  let byRef ← keyword? "ref"
  let mutability ← keyword? "mut"
  let tokens ← ahead
  let ident ← if Lookahead.keyword "self" tokens then anyWord else name
  let subpattern ←
    if ← looking (Lookahead.operator "@") then
      let mark ← operator "@"
      let pattern ← grammar.tree .pattern
      pure (mark ++ [pattern])
    else pure []
  pure (patternNode .binding (byRef ++ mutability ++ Tree.name ident :: subpattern))

/-- A pattern that starts with a path. -/
def pathPattern (grammar : Grammar) : Parser Tree := do
  let path ← qualifiedPath grammar true
  let tokens ← ahead
  if macroFollows path tokens then
    let call ← macroRest path
    pure (expressionNode .macroCall [call])
  else if Lookahead.group .brace tokens then
    let fields ← groupOf .brace do
      let tokens ← ahead
      recordFields grammar (tokens.length + 1)
    pure (patternNode .record [path, fields])
  else if Lookahead.group .parenthesis tokens then
    let elements ← groupOf .parenthesis (commaList do return [← grammar.tree .alternatives])
    pure (patternNode .other [path, elements])
  else if Lookahead.operator ".." tokens then
    rangeRest grammar [expressionNode .path [path]]
  else pure (expressionNode .path [path])

/-- Patterns in parentheses: a single one without a comma is only grouped. -/
def parenthesisedPattern (grammar : Grammar) : Parser Tree := do
  let ((elements, trailing), opening, closing) ←
    inside .parenthesis (listOf (grammar.tree .alternatives))
  let isRest : Bool :=
    match elements with
    | [element] => element.isKind (.pattern .other) && Lookahead.operator ".." element.tokens
    | _ => false
  let content := commaSeparated (trailing && !elements.isEmpty) (elements.map ([·]))
  let group := Tree.group .parenthesis opening closing content
  if elements.length = 1 && !trailing && !isRest then pure (patternNode .other [group])
  else pure (patternNode .tuple [group])

/-- The dots of a range that lacks one of its bounds. -/
def halfRangeDots? (tree : Tree) : Option (List Tree) :=
  match tree with
  | .node (.expression .range) parts =>
    let (bounds, dots) := parts.partition fun part => part.expressionKind?.isSome
    if bounds.length < 2 then some dots else none
  | _ => none

/-- Patterns in brackets. -/
def slicePattern (grammar : Grammar) : Parser Tree := do
  let elements ← groupOf .bracket <| commaList do
    let element ← grammar.tree .alternatives
    match halfRangeDots? element with
    | some dots =>
      failOn dots (.rule "range pattern is not allowed unparenthesized inside slice pattern")
    | none => pure [element]
  pure (patternNode .other [elements])

/-- Whether a pattern ahead starts with a path. -/
def pathPatternAhead (tokens : List TokenTree) : Bool :=
  let second := Lookahead.skip tokens
  Lookahead.name tokens
      && (Lookahead.operator "::" second || Lookahead.operator "!" second
        || Lookahead.group .brace second || Lookahead.group .parenthesis second
        || Lookahead.operator ".." second)
    || Lookahead.keyword "self" tokens && Lookahead.operator "::" second
    || Lookahead.operator "::" tokens || Lookahead.operator "<" tokens
    || Lookahead.keywords ["Self", "super", "crate"] tokens

/-- What may stand where a pattern is wanted. -/
def patternPieces : List String :=
  ["identifier", "`::`", "`<`", "`_`", "literal", "`const`", "`ref`", "`mut`", "`&`", "parentheses",
    "square brackets", "`..`", "`const`"]

/-- A pattern without alternatives. -/
def patternRule (grammar : Grammar) : Parser Tree := do
  let start ← ahead
  if pathPatternAhead start then pathPattern grammar
  else if Lookahead.keyword "_" start then
    let word ← keyword "_"
    pure (patternNode .other word)
  else if Lookahead.keyword "box" start then
    let _ ← keyword "box"
    let _ ← grammar.tree .pattern
    let tokens ← tokensSince start
    pure (patternNode .verbatim tokens)
  else if Lookahead.operator "-" start || Lookahead.literal start
      || Lookahead.keyword "const" start then
    let bound ← rangeBound grammar
    if ← looking (Lookahead.operator "..") then rangeRest grammar bound
    else
      match bound with
      | [tree] => pure tree
      | _ => wantingNothing
  else if Lookahead.keywords ["ref", "mut", "self"] start || Lookahead.name start then
    bindingPattern grammar
  else if Lookahead.operator "&" start then
    let mark ← operator "&"
    let word ← keyword? "mut"
    let pattern ← grammar.tree .pattern
    pure (patternNode .reference (mark ++ word ++ [pattern]))
  else if Lookahead.group .parenthesis start then parenthesisedPattern grammar
  else if Lookahead.group .bracket start then slicePattern grammar
  else if Lookahead.operator ".." start && !Lookahead.operator "..." start then
    let (dots, closed) ← rangeDots
    let stop ← rangeBound grammar
    if !stop.isEmpty then pure (expressionNode .range (dots ++ stop))
    else if closed then failWith (.rule "expected range upper bound")
    else pure (patternNode .other dots)
  else if Lookahead.operator ".." start then wanting (patternPieces.filter (· != "`..`"))
  else wanting patternPieces

/-- Whether a further alternative stands ahead. -/
def furtherAlternative (tokens : List TokenTree) : Bool :=
  Lookahead.operator "|" tokens && !Lookahead.operator "||" tokens
    && !Lookahead.operator "|=" tokens

/-- A pattern with alternatives; a bar may stand in front. -/
def alternativesRule (grammar : Grammar) : Parser Tree := do
  let lead ← operator? "|"
  let first ← grammar.tree .pattern
  if !lead.isEmpty || (← looking furtherAlternative) then
    let rest ← many furtherAlternative do
      let bar ← operator "|"
      let pattern ← grammar.tree .pattern
      pure (bar ++ [pattern])
    pure (patternNode .other (lead ++ first :: rest))
  else pure first

end Counterpart.Grammar
