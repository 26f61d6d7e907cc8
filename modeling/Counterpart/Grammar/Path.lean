import Counterpart.Grammar.Attribute

/-!
# Reading blocks, paths and their arguments

In an expression the arguments of a path stand behind a double colon, in a type the double colon
may be left out. Lifetimes are moved to the front of a list of arguments.
-/

namespace Counterpart

namespace Tree

/-- Whether an expression may be followed by another statement or match arm as it is. -/
def endsStatement (tree : Tree) : Bool :=
  match tree.expressionKind? with
  | some kind =>
    [.ifElse, .matchArms, .block, .unsafeBlock, .whileLoop, .loop, .forLoop, .tryBlock,
      .constBlock].contains kind
  | none => false

/-- Whether the last token is a group in braces. -/
def endsInBraces (tree : Tree) : Bool := tree.tokens.getLast?.any (·.isGroup .brace)

/-- Whether a statement must be followed by a semicolon unless it is the last one. -/
def wantsSemicolon (tree : Tree) : Bool :=
  match tree with
  | .node .statement parts =>
    match parts.getLast? with
    | some last =>
      if last.tokens.any (·.isPunct ';') && last.expressionKind?.isNone then false
      else if last.isKind (.expression .macroCall) then !last.endsInBraces
      else !last.endsStatement
    | none => false
  | _ => false

/-- The segments of a path. -/
def segments : Tree → List Tree
  | .node .path parts => parts.filter (·.isKind .segment)
  | _ => []

/-- Whether no segment of a path has arguments. -/
def isPlainPath (tree : Tree) : Bool :=
  tree.isKind .path && tree.segments.all fun segment =>
    match segment with
    | .node .segment [_] => true
    | _ => false

/-- Give the last segment of a path arguments, unless it has some. -/
def withLastArguments (path arguments : Tree) : Tree :=
  match path with
  | .node kind parts =>
    match parts.getLast? with
    | some (.node .segment [name]) =>
      .node kind (parts.dropLast ++ [.node .segment [name, arguments]])
    | _ => .node kind parts
  | tree => tree

/-- Whether the last segment of a path has no arguments. -/
def lacksLastArguments : Tree → Bool
  | .node _ parts =>
    match parts.getLast? with
    | some (.node .segment [_]) => true
    | _ => false
  | _ => false

end Tree

namespace Grammar

open Counterpart.Parser

/-! ## Blocks -/

/-- The statements of a block; `fuel` bounds their number. -/
def statementLoop (grammar : Grammar) (fuel : Nat) : Parser (List Tree) :=
  match fuel with
  | 0 => pure []
  | fuel + 1 => do
    let tokens ← ahead
    if Lookahead.operator ";" tokens then
      let mark ← operator ";"
      let rest ← statementLoop grammar fuel
      return .node .statement mark :: rest
    if tokens.isEmpty then return []
    let first ← grammar.tree .statement
    if ← atEnd then return [first]
    if first.wantsSemicolon then failWith (.rule "unexpected token, expected `;`")
    let rest ← statementLoop grammar fuel
    pure (first :: rest)

/-- The statements of a block. -/
def statements (grammar : Grammar) : Parser (List Tree) := do
  let tokens ← ahead
  statementLoop grammar (tokens.length + 1)

/-- A block without inner attributes. -/
def block (grammar : Grammar) : Parser Tree := do
  let braces ← groupOf .brace (statements grammar)
  pure (.node .block [braces])

/-- A block that may start with inner attributes. -/
def attributedBlock (grammar : Grammar) : Parser Tree := do
  let braces ← groupOf .brace do
    let attributes ← innerTrees grammar
    let content ← statements grammar
    pure (attributes ++ content)
  pure (.node .block [braces])

/-! ## Arguments -/

/-- A constant as an argument: a literal, a name or a block. -/
def constantArgument (grammar : Grammar) : Parser Tree := do
  let tokens ← ahead
  if Lookahead.literal tokens then literalExpression <$> literal
  else if Lookahead.name tokens then
    let ident ← name
    pure (.node (.expression .path) [Tree.pathOfName ident])
  else if Lookahead.group .brace tokens then
    let body ← attributedBlock grammar
    pure (.node (.expression .block) [body])
  else wantingNothing

/-- The name and the arguments of a type that is a single segment, if they may be followed by an
equals sign or a colon. -/
def plainSegment? : Tree → Option (List Tree)
  | .node .typePath [.node .path [.node .segment [name]]] => some [name]
  | .node .typePath [.node .path [.node .segment [name, .node .phrase arguments]]] =>
    some (name :: arguments)
  | _ => none

/-- The bounds behind a colon in a list of arguments. -/
def constraintBounds (grammar : Grammar) : Parser (List Tree) :=
  sumUntil (fun tokens => Lookahead.operator "," tokens || Lookahead.operator ">" tokens) do
    let bound ← grammar.tree (.bound false true)
    pure [bound]

/-- One argument of a path. -/
def pathArgument (grammar : Grammar) : Parser Tree := do
  let tokens ← ahead
  if Lookahead.lifetime tokens && !Lookahead.operator "+" (Lookahead.skip tokens) then lifetime
  else if Lookahead.literal tokens || Lookahead.group .brace tokens then constantArgument grammar
  else
    let type ← grammar.type
    match plainSegment? type with
    | none => pure type
    | some segment =>
      if ← looking (Lookahead.operator "=") then
        let equals ← operator "="
        let behind ← ahead
        let value ←
          if Lookahead.literal behind || Lookahead.group .brace behind then constantArgument grammar
          else grammar.type
        pure (.node .phrase (segment ++ equals ++ [value]))
      else if ← looking (Lookahead.operator ":") then
        let colon ← operator ":"
        let bounds ← constraintBounds grammar
        pure (.node .phrase (segment ++ colon ++ bounds))
      else pure type

/-- Arguments with the commas behind them; `fuel` bounds their number. -/
def argumentLoop (grammar : Grammar) (fuel : Nat) : Parser (List (Tree × List Tree)) :=
  match fuel with
  | 0 => pure []
  | fuel + 1 => do
    if ← looking (Lookahead.operator ">") then return []
    let first ← pathArgument grammar
    if ← looking (Lookahead.operator ">") then return [(first, [])]
    let comma ← operator ","
    let rest ← argumentLoop grammar fuel
    pure ((first, comma) :: rest)

/-- Pieces with the commas behind them; where the piece before has none, one is added. -/
def joinWithCommas : (open? : Bool) → List (Tree × List Tree) → List Tree
  | _, [] => []
  | open?, (piece, comma) :: rest =>
    (if open? then Tree.operator "," else []) ++ piece :: comma
      ++ joinWithCommas comma.isEmpty rest

/-- Arguments as they are written: lifetimes first. -/
def orderedArguments (arguments : List (Tree × List Tree)) : List Tree :=
  let (lifetimes, others) := arguments.partition fun (piece, _) => piece.isKind .lifetime
  let open? := lifetimes.getLast?.any fun (_, comma) => comma.isEmpty
  lifetimes.flatMap (fun (piece, comma) => piece :: comma) ++ joinWithCommas open? others

/-- Arguments in angle brackets, with the double colon that may stand in front. -/
def angleArguments (grammar : Grammar) : Parser Tree := do
  let colons ← operator? "::"
  let opening ← operator "<"
  let tokens ← ahead
  let arguments ← argumentLoop grammar (tokens.length + 1)
  let closing ← operator ">"
  pure (.node .phrase (colons ++ opening ++ orderedArguments arguments ++ closing))

/-- The result type behind an arrow, if there is one. -/
def returnType (grammar : Grammar) (sums : Bool) : Parser (List Tree) := do
  if ← looking (Lookahead.operator "->") then
    let arrow ← operator "->"
    let type ← grammar.tree (.type sums)
    pure (arrow ++ [type])
  else pure []

/-- Arguments in parentheses with a result type. -/
def callArguments (grammar : Grammar) : Parser Tree := do
  let inputs ← groupOf .parenthesis (commaList do return [← grammar.type])
  let output ← returnType grammar false
  pure (.node .phrase (inputs :: output))

/-! ## Paths -/

/-- One segment of a path. -/
def pathSegment (grammar : Grammar) (inExpression : Bool) : Parser Tree := do
  let tokens ← ahead
  if Lookahead.keywords ["super", "self", "crate", "try"] tokens then
    let ident ← anyWord
    return .node .segment [Tree.name ident]
  let ident ← if Lookahead.keyword "Self" tokens then anyWord else name
  let behind ← ahead
  let bare := !inExpression && Lookahead.operator "<" behind && !Lookahead.operator "<=" behind
    && !Lookahead.operator "<<=" behind
  let marked := Lookahead.operator "::" behind
    && Lookahead.operator "<" (Lookahead.skip (Lookahead.skip behind))
  if bare || marked then
    let arguments ← angleArguments grammar
    pure (.node .segment [Tree.name ident, arguments])
  else pure (.node .segment [Tree.name ident])

/-- Whether a further segment stands ahead, and not arguments in parentheses. -/
def furtherSegment (tokens : List TokenTree) : Bool :=
  Lookahead.operator "::" tokens
    && !Lookahead.group .parenthesis (Lookahead.skip (Lookahead.skip tokens))

/-- A path with the arguments of its segments. -/
def path (grammar : Grammar) (inExpression : Bool) : Parser Tree := do
  let root ← operator? "::"
  let first ← pathSegment grammar inExpression
  let rest ← many furtherSegment do
    let colons ← operator "::"
    let segment ← pathSegment grammar inExpression
    pure (colons ++ [segment])
  pure (.node .path (root ++ first :: rest))

/-- A path, or one that starts at a type in angle brackets. -/
def qualifiedPath (grammar : Grammar) (inExpression : Bool) : Parser Tree := do
  if ← looking (Lookahead.operator "<") then
    let opening ← operator "<"
    let type ← grammar.type
    let trait ←
      if ← looking (Lookahead.keyword "as") then
        let word ← keyword "as"
        let trait ← path grammar false
        pure (word ++ [trait])
      else pure []
    let closing ← operator ">"
    let colons ← operator "::"
    let first ← pathSegment grammar inExpression
    let rest ← many (Lookahead.operator "::") do
      let colons ← operator "::"
      let segment ← pathSegment grammar inExpression
      pure (colons ++ [segment])
    pure (.node .qualifiedPath (opening ++ type :: trait ++ closing ++ colons ++ first :: rest))
  else path grammar inExpression

/-- Give a path the arguments in parentheses that stand behind it, if there are some. A double
colon in front of them is left out. -/
def withCallArguments (grammar : Grammar) (path : Tree) : Parser Tree := do
  let tokens ← ahead
  let marked := Lookahead.operator "::" tokens
    && Lookahead.group .parenthesis (Lookahead.skip (Lookahead.skip tokens))
  if path.lacksLastArguments && (Lookahead.group .parenthesis tokens || marked) then
    let _ ← operator? "::"
    let arguments ← callArguments grammar
    pure (path.withLastArguments arguments)
  else pure path

/-- Whether a use of what is built into the language stands ahead, as in `builtin # name(..)`. -/
def builtinAhead (tokens : List TokenTree) : Bool :=
  Lookahead.keyword "builtin" tokens && Lookahead.operator "#" (Lookahead.skip tokens)

/-- A use of what is built into the language. It is not looked into. -/
def builtinUse : Parser (List Tree) := do
  let start ← ahead
  let _ ← keyword "builtin"
  let _ ← operator "#"
  let _ ← name
  let _ ← inside .parenthesis (many (fun rest => !rest.isEmpty) do return [← anyTree])
  tokensSince start

/-- Whether a macro call goes on behind its path. -/
def macroFollows (path : Tree) (tokens : List TokenTree) : Bool :=
  path.isPlainPath && Lookahead.operator "!" tokens && !Lookahead.operator "!=" tokens

/-- A macro call behind its path. The arguments are not looked into. -/
def macroRest (path : Tree) : Parser Tree := do
  let bang ← operator "!"
  let arguments ← anyGroup
  pure (.node .macroCall (path :: (bang ++ [arguments])))

end Grammar

end Counterpart
