import Counterpart.Grammar.Pattern

/-!
# Reading expressions

Operators are read by precedence climbing: a right operand takes in all operators that bind
tighter than the one before it. Behind the condition of an `if`, `while` or `match` and the
source of a `for` a brace starts a block, so no struct literal may stand there.
-/

namespace Counterpart.Grammar

open Counterpart.Parser

/-! ## Operators -/

/-- The binary operators, the longer ones first. -/
def binaryOperators : List (String × Precedence) :=
  [("+=", .assign), ("-=", .assign), ("*=", .assign), ("/=", .assign), ("%=", .assign),
   ("^=", .assign), ("&=", .assign), ("|=", .assign), ("<<=", .assign), (">>=", .assign),
   ("&&", .and), ("||", .or), ("<<", .shift), (">>", .shift), ("==", .compare), ("<=", .compare),
   ("!=", .compare), (">=", .compare), ("+", .sum), ("-", .sum), ("*", .product),
   ("/", .product), ("%", .product), ("^", .bitXor), ("&", .bitAnd), ("|", .bitOr),
   ("<", .compare), (">", .compare)]

/-- The binary operator ahead. -/
def binaryOperator? (tokens : List TokenTree) : Option (String × Precedence) :=
  binaryOperators.find? fun (text, _) => Lookahead.operator text tokens

/-- Whether an assignment sign stands ahead. -/
def assignAhead (tokens : List TokenTree) : Bool :=
  Lookahead.operator "=" tokens && !Lookahead.operator "=>" tokens

/-- The precedence of the operator ahead; the lowest if there is none. -/
def precedenceAhead (tokens : List TokenTree) : Precedence :=
  match binaryOperator? tokens with
  | some (_, precedence) => precedence
  | none =>
    if assignAhead tokens then .assign
    else if Lookahead.operator ".." tokens then .range
    else if Lookahead.keyword "as" tokens then .cast
    else .jump

/-- Whether a single dot stands ahead. -/
def dotAhead (tokens : List TokenTree) : Bool :=
  Lookahead.operator "." tokens && !Lookahead.operator ".." tokens

/-- Whether a range without an end is over. -/
def openRangeEnd (records : Bool) (tokens : List TokenTree) : Bool :=
  tokens.isEmpty || dotAhead tokens || !records && Lookahead.group .brace tokens
    || Lookahead.keyword "as" tokens
    || [",", ";", "?", "=>", "=", "+", "/", "%", "^", ">", "<=", "!=", "-=", "*=", "&=", "|=",
        "<<="].any (Lookahead.operator · tokens)

/-- The dots of a range and its end. -/
def rangeEnd (grammar : Grammar) (records : Bool) : Parser (List Tree) := do
  let (dots, closed) ← rangeDots
  if !closed && (← looking (openRangeEnd records)) then pure dots
  else
    let stop ← grammar.tree (.operand records .range)
    pure (dots ++ [stop])

/-- Refuse what may not stand behind a cast. -/
def checkCast : Parser Unit := do
  let tokens ← ahead
  let behind := Lookahead.skip tokens
  let further := Lookahead.skip behind
  let refuse (what : String) : Parser Unit :=
    failWith (.rule ("casts cannot be followed by " ++ what))
  if dotAhead tokens then
    if Lookahead.keyword "await" behind then refuse "`.await`"
    else if Lookahead.name behind
        && (Lookahead.group .parenthesis further || Lookahead.operator "::" further) then
      refuse "a method call"
    else refuse "a field access"
  else if Lookahead.operator "?" tokens then refuse "`?`"
  else if Lookahead.group .bracket tokens then refuse "indexing"
  else if Lookahead.group .parenthesis tokens then refuse "a function call"
  else pure ()

/-- Operators and operands behind a first operand, down to a precedence. A range is never the left
operand of another operator, and comparisons do not chain. -/
def operatorsRule (grammar : Grammar) (records : Bool) (floor : Precedence) (left : Tree) :
    Parser Tree := do
  if left.expressionKind? = some .range then return left
  let tokens ← ahead
  match binaryOperator? tokens with
  | some (text, precedence) =>
    if precedence.rank < floor.rank then pure left
    else
      let comparison := precedence == .compare
      if comparison && left.expressionKind? == some (.binary true) then
        failWith (.rule "comparison operators cannot be chained")
      let mark ← operator text
      let right ← grammar.tree (.operand records precedence)
      grammar.tree
        (.operators records floor (expressionNode (.binary comparison) (left :: mark ++ [right])))
  | none =>
    if floor.rank ≤ Precedence.assign.rank && assignAhead tokens then
      let mark ← operator "="
      let right ← grammar.tree (.operand records .assign)
      grammar.tree (.operators records floor (expressionNode .assign (left :: mark ++ [right])))
    else if floor.rank ≤ Precedence.range.rank && Lookahead.operator ".." tokens then
      let rest ← rangeEnd grammar records
      pure (expressionNode .range (left :: rest))
    else if Lookahead.keyword "as" tokens then
      let word ← keyword "as"
      let type ← grammar.tree (.type false)
      checkCast
      grammar.tree (.operators records floor (expressionNode .cast (left :: word ++ [type])))
    else pure left

/-- What binds tighter than a precedence behind the start of a right operand. -/
def widenedRule (grammar : Grammar) (records : Bool) (above : Precedence) (right : Tree) :
    Parser Tree := do
  let tokens ← ahead
  let next := precedenceAhead tokens
  if above.rank < next.rank || next == .assign && above == .assign then
    let wider ← grammar.tree (.operators records next right)
    let behind ← ahead
    if behind.length = tokens.length then pure wider
    else grammar.tree (.widened records above wider)
  else pure right

/-- The right operand of an operator. -/
def operandRule (grammar : Grammar) (records : Bool) (above : Precedence) : Parser Tree := do
  let start ← grammar.tree (.unary records)
  grammar.tree (.widened records above start)

/-- An expression with its operators. -/
def expressionRule (grammar : Grammar) (records : Bool) : Parser Tree := do
  let left ← grammar.tree (.unary records)
  grammar.tree (.operators records .jump left)

/-! ## Behind an expression -/

/-- The places of a fractional literal that stands for two indices, as in `pair.0.1`. -/
def indexParts (text : List Char) (place : Option Region) : List (List Char × Option Region) :=
  let shifted (from_ length : Nat) : Option Region := place.map fun region =>
    ⟨⟨region.start.line, region.start.column + from_⟩,
      ⟨region.start.line, region.start.column + from_ + length⟩⟩
  let first := text.takeWhile (· != '.')
  let second := text.drop (first.length + 1)
  if second.isEmpty then [(first, shifted 0 first.length)]
  else [(first, shifted 0 first.length), (second, shifted (first.length + 1) second.length)]

/-- The index that a part of a fractional literal is; the part may be a number with an exponent, or
have a sign. -/
def partIndex (hasSign : Bool) (text : String) : Except Complaint Nat :=
  if Literal.kind text ≠ .integer then .error (.wanted ["integer literal"])
  else if hasSign then .error (.rule "invalid digit found in string")
  else indexValue text

/-- Read indices from a fractional literal behind a dot. The answer tells whether the literal ends
in a dot, which then belongs to what follows. -/
def fractionIndices (subject : Tree) (dot : List Tree) : Parser (Tree × Bool) := do
  let written ← literal
  let hasSign := written.length > 1
  let rec add (subject : Tree) : List (List Char × Option Region) → Parser Tree
    | [] => pure subject
    | (digits, region) :: rest =>
      match partIndex hasSign (String.ofList digits) with
      | .ok index =>
        let leaf := Tree.leaf (.literal (toString index) region)
        add (expressionNode .field (subject :: dot ++ [leaf])) rest
      | .error complaint => failOn written complaint
  match (Tree.tokensAll written).getLast? with
  | some (.literal text place) =>
    let fields ← add subject (indexParts text.toList place)
    pure (fields, text.toList.getLast? == some '.')
  | _ => pure (subject, false)

/-- A member behind a dot: a field, a method call or `await`. -/
def memberRule (grammar : Grammar) (subject : Tree) (dot : List Tree) : Parser Tree := do
  let tokens ← ahead
  if Lookahead.keyword "await" tokens then
    let word ← keyword "await"
    return expressionNode .await (subject :: dot ++ word)
  if !Lookahead.name tokens then
    let index ← fieldIndex
    return expressionNode .field (subject :: dot ++ [index])
  let ident ← nameLeaf
  let arguments ←
    if ← looking (Lookahead.operator "::") then
      let arguments ← angleArguments grammar
      pure [arguments]
    else pure []
  let behind ← ahead
  if !arguments.isEmpty || Lookahead.group .parenthesis behind then
    let inputs ← groupOf .parenthesis (commaList do return [← grammar.expression])
    pure (expressionNode .methodCall (subject :: dot ++ ident :: arguments ++ [inputs]))
  else pure (expressionNode .field (subject :: dot ++ [ident]))

/-- Calls, fields, indices and question marks behind an expression. -/
def trailersRule (grammar : Grammar) (subject : Tree) : Parser Tree := do
  let tokens ← ahead
  let isRange := subject.expressionKind? == some .range
  if Lookahead.group .parenthesis tokens then
    let inputs ← groupOf .parenthesis (commaList do return [← grammar.expression])
    grammar.tree (.trailers (expressionNode .call [subject, inputs]))
  else if dotAhead tokens && !isRange then
    let dot ← operator "."
    if ← looking (Lookahead.number .float) then
      let (fields, dotted) ← fractionIndices subject dot
      if dotted then
        let next ← memberRule grammar fields (Tree.operator ".")
        grammar.tree (.trailers next)
      else grammar.tree (.trailers fields)
    else
      let next ← memberRule grammar subject dot
      grammar.tree (.trailers next)
  else if Lookahead.group .bracket tokens then
    let index ← groupOf .bracket do return [← grammar.expression]
    grammar.tree (.trailers (expressionNode .index [subject, index]))
  else if Lookahead.operator "?" tokens && !isRange then
    let mark ← operator "?"
    grammar.tree (.trailers (expressionNode .tryOperator (subject :: mark)))
  else pure subject

/-! ## Blocks with keywords -/

/-- A condition in front of a block. -/
def condition (grammar : Grammar) : Parser Tree := grammar.tree (.expression false)

/-- An `if` with its `else` branches; `fuel` bounds their number. -/
def ifChain (grammar : Grammar) (fuel : Nat) : Parser Tree :=
  match fuel with
  | 0 => wantingNothing
  | fuel + 1 => do
    let word ← keyword "if"
    let test ← condition grammar
    let body ← block grammar
    let alternative ←
      if ← looking (Lookahead.keyword "else") then
        let word ← keyword "else"
        let tokens ← ahead
        if Lookahead.keyword "if" tokens then
          let branch ← ifChain grammar fuel
          pure (word ++ [branch])
        else if Lookahead.group .brace tokens then
          let branch ← block grammar
          pure (word ++ [expressionNode .block [branch]])
        else wanting ["`if`", "curly braces"]
      else pure []
    pure (expressionNode .ifElse (word ++ test :: body :: alternative))

/-- An `if` expression. -/
def ifElse (grammar : Grammar) : Parser Tree := do
  let tokens ← ahead
  ifChain grammar (tokens.length + 1)

/-- A `while` loop. -/
def whileLoop (grammar : Grammar) : Parser Tree := do
  let word ← keyword "while"
  let test ← condition grammar
  let body ← attributedBlock grammar
  pure (expressionNode .whileLoop (word ++ [test, body]))

/-- A `for` loop. -/
def forLoop (grammar : Grammar) : Parser Tree := do
  let word ← keyword "for"
  let pattern ← grammar.tree .alternatives
  let within ← keyword "in"
  let source ← condition grammar
  let body ← attributedBlock grammar
  pure (expressionNode .forLoop (word ++ pattern :: within ++ [source, body]))

/-- A `loop`. -/
def plainLoop (grammar : Grammar) : Parser Tree := do
  let word ← keyword "loop"
  let body ← attributedBlock grammar
  pure (expressionNode .loop (word ++ [body]))

/-- One arm of a `match`. Behind a block the comma may be left out. -/
def matchArm (grammar : Grammar) : Parser (List Tree) := do
  let attributes ← outerTrees grammar
  let pattern ← grammar.tree .alternatives
  let guard ←
    if ← looking (Lookahead.keyword "if") then
      let word ← keyword "if"
      let test ← grammar.expression
      pure (word ++ [test])
    else pure []
  let arrow ← operator "=>"
  let body ← grammar.tree .early
  let last ← atEnd
  let comma ← if !body.endsStatement && !last then operator "," else operator? ","
  pure [.node .phrase (attributes ++ pattern :: guard ++ arrow ++ body :: comma)]

/-- A `match`. -/
def matchArms (grammar : Grammar) : Parser Tree := do
  let word ← keyword "match"
  let subject ← condition grammar
  let arms ← groupOf .brace do
    let attributes ← innerTrees grammar
    let arms ← many (fun tokens => !tokens.isEmpty) (matchArm grammar)
    pure (attributes ++ arms)
  pure (expressionNode .matchArms (word ++ [subject, arms]))

/-- An `unsafe` block. -/
def unsafeBlock (grammar : Grammar) : Parser Tree := do
  let word ← keyword "unsafe"
  let body ← attributedBlock grammar
  pure (expressionNode .unsafeBlock (word ++ [body]))

/-- A `try` block. -/
def tryBlock (grammar : Grammar) : Parser Tree := do
  let word ← keyword "try"
  let body ← block grammar
  pure (expressionNode .tryBlock (word ++ [body]))

/-- A plain block. -/
def plainBlock (grammar : Grammar) : Parser Tree := do
  let body ← attributedBlock grammar
  pure (expressionNode .block [body])

/-- A loop or block behind its label. -/
def labelled (grammar : Grammar) : Parser Tree := do
  let name ← lifetime
  let colon ← operator ":"
  let label := Tree.node .phrase (name :: colon)
  let tokens ← ahead
  let body ←
    if Lookahead.keyword "while" tokens then whileLoop grammar
    else if Lookahead.keyword "for" tokens then forLoop grammar
    else if Lookahead.keyword "loop" tokens then plainLoop grammar
    else if Lookahead.group .brace tokens then plainBlock grammar
    else failWith (.rule "expected loop or block expression")
  pure (body.prepend [label])

/-! ## Closures and jumps -/

/-- A pattern without the attributes inside of the constant block that it is. -/
def withoutInnerAttributes : Tree → Tree
  | .node (.expression .constBlock)
      [word, .node .block [.group delimiter opening closing content]] =>
    let kept := content.filter (!·.isInnerAttribute)
    expressionNode .constBlock [word, .node .block [.group delimiter opening closing kept]]
  | tree => tree

/-- An input of a closure. Attributes inside of a constant block are lost, unless the input has a
type. -/
def closureInput (grammar : Grammar) : Parser Tree := do
  let attributes ← outerTrees grammar
  let pattern ← grammar.tree .pattern
  if ← looking (Lookahead.operator ":") then
    let colon ← operator ":"
    let type ← grammar.type
    pure (patternNode .typed (attributes ++ pattern :: colon ++ [type]))
  else pure ((withoutInnerAttributes pattern).attributed attributes)

/-- A closure. -/
def closure (grammar : Grammar) (records : Bool) : Parser Tree := do
  let introduced ← binder? grammar
  let constness ← keyword? "const"
  let movability ← keyword? "static"
  let asyncness ← keyword? "async"
  let capture ← keyword? "move"
  let opening ← operator "|"
  let inputs ← separatedUntil (Lookahead.operator "|") "," do return [← closureInput grammar]
  let closing ← operator "|"
  let head := introduced ++ constness ++ movability ++ asyncness ++ capture ++ opening ++ inputs
    ++ closing
  if ← looking (Lookahead.operator "->") then
    let output ← returnType grammar true
    let body ← block grammar
    pure (expressionNode .closure (head ++ output ++ [expressionNode .block [body]]))
  else
    let body ← grammar.tree (.expression records)
    pure (expressionNode .closure (head ++ [body]))

/-- Whether an expression stands ahead of a jump. -/
def expressionAhead (tokens : List TokenTree) : Bool :=
  let starts (mark : String) (others : List String) : Bool :=
    Lookahead.operator mark tokens && !others.any (Lookahead.operator · tokens)
  Lookahead.word tokens && !Lookahead.keyword "as" tokens
    || Lookahead.group .parenthesis tokens || Lookahead.group .bracket tokens
    || Lookahead.group .brace tokens || Lookahead.literal tokens
    || starts "!" ["!="] || starts "-" ["-=", "->"] || starts "*" ["*="] || starts "|" ["|="]
    || starts "&" ["&="] || starts ".." [] || starts "<" ["<=", "<<="] || starts "::" []
    || Lookahead.lifetime tokens || starts "#" []

/-- The value that a jump carries, if there is one. Where no struct literal may stand a brace does
not start one. -/
def jumpValue (grammar : Grammar) (records : Bool) : Parser (List Tree) := do
  let tokens ← ahead
  if expressionAhead tokens && (records || !Lookahead.group .brace tokens) then
    let value ← grammar.expression
    pure [value]
  else pure []

/-- Whether code starts with a label behind its attributes. -/
def startsWithLabel : List TokenTree → Bool
  | .punct '#' _ _ :: .group .bracket _ _ _ :: rest => startsWithLabel rest
  | tokens => Lookahead.lifetime tokens

/-- A `break`. A label must not be that of a loop, unless the loop is in parentheses. -/
def breakJump (grammar : Grammar) (records : Bool) : Parser Tree := do
  let word ← keyword "break"
  let tokens ← ahead
  if Lookahead.lifetime tokens && Lookahead.operator ":" (Lookahead.skip tokens) then
    let loop ← grammar.expression
    failOn [loop] (.rule "parentheses required")
  let label ← lifetime?
  let value ← jumpValue grammar records
  let isLabelled := label.isEmpty && startsWithLabel (Tree.tokensAll value)
  let carried := if isLabelled then [Tree.generatedGroup .parenthesis value] else value
  pure (expressionNode .breakJump (word ++ label ++ carried))

/-! ## Atoms -/

/-- A field of a struct literal. A name alone stands for the variable of that name. -/
def fieldValue (grammar : Grammar) : Parser Tree := do
  let attributes ← outerTrees grammar
  let tokens ← ahead
  if Lookahead.name tokens && !Lookahead.operator ":" (Lookahead.skip tokens) then
    let ident ← name
    pure (.node .phrase (attributes ++ [expressionNode .path [Tree.pathOfName ident]]))
  else
    let member ← if Lookahead.name tokens then nameLeaf else fieldIndex
    let colon ← operator ":"
    let value ← grammar.expression
    pure (.node .phrase (attributes ++ member :: colon ++ [value]))

/-- The fields of a struct literal and the base behind two dots; `fuel` bounds their number. -/
def structFields (grammar : Grammar) (fuel : Nat) : Parser (List Tree) :=
  match fuel with
  | 0 => pure []
  | fuel + 1 => do
    if ← atEnd then return []
    if ← looking (Lookahead.operator "..") then
      let dots ← operator ".."
      if ← atEnd then return dots
      let base ← grammar.expression
      return dots ++ [base]
    let field ← fieldValue grammar
    if ← atEnd then return [field]
    let comma ← operator ","
    let rest ← structFields grammar fuel
    pure (field :: comma ++ rest)

/-- An expression that starts with a path: a macro call, a struct literal or the path alone. -/
def pathExpression (grammar : Grammar) (records : Bool) : Parser Tree := do
  let path ← qualifiedPath grammar true
  let tokens ← ahead
  if macroFollows path tokens then
    let call ← macroRest path
    pure (expressionNode .macroCall [call])
  else if records && Lookahead.group .brace tokens then
    let fields ← groupOf .brace do
      let tokens ← ahead
      structFields grammar (tokens.length + 1)
    pure (expressionNode .structLiteral [path, fields])
  else pure (expressionNode .path [path])

/-- Expressions in parentheses: a single one without a comma is only grouped. -/
def parenthesised (grammar : Grammar) : Parser Tree := do
  let ((elements, trailing), opening, closing) ← inside .parenthesis (listOf grammar.expression)
  let content := commaSeparated (trailing && !elements.isEmpty) (elements.map ([·]))
  let group := Tree.group .parenthesis opening closing content
  if elements.length = 1 && !trailing then pure (expressionNode .paren [group])
  else pure (expressionNode .tuple [group])

/-- Expressions in brackets: a list, or one with the number of its repetitions. -/
def bracketed (grammar : Grammar) : Parser Tree := do
  let ((content, kind), opening, closing) ← inside .bracket do
    if ← atEnd then return ([], ExpressionKind.array)
    let first ← grammar.expression
    let tokens ← ahead
    if Lookahead.operator ";" tokens then
      let mark ← operator ";"
      let length ← grammar.expression
      return (first :: mark ++ [length], ExpressionKind.repeatArray)
    if tokens.isEmpty then return ([first], ExpressionKind.array)
    if Lookahead.operator "," tokens then
      let comma ← operator ","
      let rest ← commaList do return [← grammar.expression]
      return (first :: comma ++ rest, ExpressionKind.array)
    failWith (.rule "expected `,` or `;`")
  pure (expressionNode kind [.group .bracket opening closing content])

/-- A `let` in a condition. -/
def letCondition (grammar : Grammar) (records : Bool) : Parser Tree := do
  let word ← keyword "let"
  let pattern ← grammar.tree .alternatives
  let equals ← operator "="
  let left ← grammar.tree (.unary records)
  let value ← grammar.tree (.operators records .compare left)
  pure (expressionNode .letCondition (word ++ pattern :: equals ++ [value]))

/-- An `async` block. -/
def asyncBlock (grammar : Grammar) : Parser Tree := do
  let word ← keyword "async"
  let capture ← keyword? "move"
  let body ← block grammar
  pure (expressionNode .asyncBlock (word ++ capture ++ [body]))

/-- Whether a `for` ahead introduces parameters. -/
def binderAhead (tokens : List TokenTree) : Bool :=
  Lookahead.keyword "for" tokens && genericsAhead (Lookahead.skip tokens)

/-- Whether a closure stands ahead. -/
def closureAhead (tokens : List TokenTree) : Bool :=
  let second := Lookahead.skip tokens
  Lookahead.operator "|" tokens || Lookahead.keyword "move" tokens || binderAhead tokens
    || Lookahead.keyword "const" tokens && !Lookahead.group .brace second
    || Lookahead.keyword "static" tokens
    || Lookahead.keyword "async" tokens
      && (Lookahead.operator "|" second || Lookahead.keyword "move" second)

/-- An expression without operators around it. -/
def atom (grammar : Grammar) (records : Bool) : Parser Tree := do
  let tokens ← ahead
  let second := Lookahead.skip tokens
  let third := Lookahead.skip second
  if Lookahead.literal tokens then literalExpression <$> literal
  else if Lookahead.keyword "async" tokens
      && (Lookahead.group .brace second
        || Lookahead.keyword "move" second && Lookahead.group .brace third) then
    asyncBlock grammar
  else if Lookahead.keyword "try" tokens && Lookahead.group .brace second then tryBlock grammar
  else if closureAhead tokens then closure grammar records
  else if builtinAhead tokens then expressionNode .verbatim <$> builtinUse
  else if Lookahead.name tokens || Lookahead.operator "::" tokens || Lookahead.operator "<" tokens
      || Lookahead.pathKeyword tokens
      || Lookahead.keyword "try" tokens
        && (Lookahead.operator "!" second || Lookahead.operator "::" second) then
    pathExpression grammar records
  else if Lookahead.group .parenthesis tokens then parenthesised grammar
  else if Lookahead.keyword "break" tokens then breakJump grammar records
  else if Lookahead.keyword "continue" tokens then
    let word ← keyword "continue"
    let label ← lifetime?
    pure (expressionNode .continueJump (word ++ label))
  else if Lookahead.keyword "return" tokens then
    let word ← keyword "return"
    let value ← jumpValue grammar true
    pure (expressionNode .returnJump (word ++ value))
  else if Lookahead.keyword "become" tokens then
    let _ ← anyTree
    let _ ← grammar.expression
    expressionNode .verbatim <$> tokensSince tokens
  else if Lookahead.group .bracket tokens then bracketed grammar
  else if Lookahead.keyword "let" tokens then letCondition grammar records
  else if Lookahead.keyword "if" tokens then ifElse grammar
  else if Lookahead.keyword "while" tokens then whileLoop grammar
  else if Lookahead.keyword "for" tokens then forLoop grammar
  else if Lookahead.keyword "loop" tokens then plainLoop grammar
  else if Lookahead.keyword "match" tokens then matchArms grammar
  else if Lookahead.keyword "yield" tokens then
    let word ← keyword "yield"
    let value ← jumpValue grammar true
    pure (expressionNode .yieldJump (word ++ value))
  else if Lookahead.keyword "unsafe" tokens then unsafeBlock grammar
  else if Lookahead.keyword "const" tokens then constBlock grammar
  else if Lookahead.group .brace tokens then plainBlock grammar
  else if Lookahead.operator ".." tokens then
    let parts ← rangeEnd grammar records
    pure (expressionNode .range parts)
  else if Lookahead.keyword "_" tokens then
    let word ← keyword "_"
    pure (expressionNode .infer word)
  else if Lookahead.lifetime tokens then labelled grammar
  else wanting ["an expression"]

/-- The dots that a range without a start begins with. -/
def startDots : Tree → List Tree
  | .node _ parts => parts.takeWhile fun part => part.expressionKind?.isNone
  | _ => []

/-- An expression with its prefix operators and trailers. Attributes belong to the whole of it. -/
def unaryRule (grammar : Grammar) (records : Bool) : Parser Tree := do
  let start ← ahead
  let attributes ← outerTrees grammar
  let tokens ← ahead
  if Lookahead.operator "&" tokens then
    let mark ← operator "&"
    let behind ← ahead
    let isRaw := Lookahead.keyword "raw" behind
      && Lookahead.keywords ["mut", "const"] (Lookahead.skip behind)
    let raw ← if isRaw then keyword "raw" else pure []
    let mutability ← keyword? "mut"
    let constness ← if isRaw && mutability.isEmpty then keyword "const" else pure []
    let operand ← grammar.tree (.unary records)
    let kind := if isRaw then ExpressionKind.rawAddress else ExpressionKind.reference
    pure (expressionNode kind (attributes ++ mark ++ raw ++ mutability ++ constness ++ [operand]))
  else if Lookahead.operator "*" tokens || Lookahead.operator "!" tokens
      || Lookahead.operator "-" tokens then
    let mark ←
      if Lookahead.operator "*" tokens then operator "*"
      else if Lookahead.operator "!" tokens then operator "!"
      else operator "-"
    let operand ← grammar.tree (.unary records)
    pure (expressionNode .unary (attributes ++ mark ++ [operand]))
  else
    let inner ← atom grammar records
    let whole ← grammar.tree (.trailers inner)
    match whole.expressionKind? with
    | some .verbatim => expressionNode .verbatim <$> tokensSince start
    | some .range =>
      if attributes.isEmpty then pure whole
      else
        failOn (startDots whole)
          (.rule "attributes are not allowed on range expressions starting with `..`")
    | _ => pure (whole.attributed attributes)

/-- The start of the expression of a match arm or a statement: a construct that ends with its block,
or all up to the first operator. -/
def earlyStart (grammar : Grammar) : Parser Tree := do
  let tokens ← ahead
  let second := Lookahead.skip tokens
  if Lookahead.keyword "if" tokens then ifElse grammar
  else if Lookahead.keyword "while" tokens then whileLoop grammar
  else if Lookahead.keyword "for" tokens && !binderAhead tokens then forLoop grammar
  else if Lookahead.keyword "loop" tokens then plainLoop grammar
  else if Lookahead.keyword "match" tokens then matchArms grammar
  else if Lookahead.keyword "try" tokens && Lookahead.group .brace second then tryBlock grammar
  else if Lookahead.keyword "unsafe" tokens then unsafeBlock grammar
  else if Lookahead.keyword "const" tokens && Lookahead.group .brace second then constBlock grammar
  else if Lookahead.group .brace tokens then plainBlock grammar
  else if Lookahead.lifetime tokens then labelled grammar
  else grammar.tree (.unary true)

/-- The expression of a match arm or a statement. It ends behind a block, unless a dot or a question
mark goes on with it. -/
def earlyRule (grammar : Grammar) : Parser Tree := do
  let attributes ← outerTrees grammar
  let start ← earlyStart grammar
  if !start.endsStatement then grammar.tree (.operators true .jump (start.attributed attributes))
  else
    let behind ← ahead
    if dotAhead behind || Lookahead.operator "?" behind then
      let whole ← grammar.tree (.trailers start)
      grammar.tree (.operators true .jump (whole.attributed attributes))
    else pure (start.attributed attributes)

end Counterpart.Grammar
