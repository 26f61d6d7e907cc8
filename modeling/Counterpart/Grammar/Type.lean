import Counterpart.Grammar.Generics

/-!
# Reading types
-/

namespace Counterpart.Grammar

open Counterpart.Parser

/-- A type of any form but a path. -/
def typeNode (parts : List Tree) : Tree := .node .type parts

/-- Whether some bound is more than a lifetime or a list of captured names. -/
def hasTrait (bounds : List Tree) : Bool :=
  bounds.any fun bound =>
    match bound with
    | .node .phrase (.node .lifetime _ :: _) => false
    | .node .phrase parts => !(Lookahead.keyword "use" (Tree.tokensAll parts))
    | _ => false

/-- The bounds of a trait object or of an opaque type behind its keyword, at least one of them a
trait. -/
def objectBounds (grammar : Grammar) (lead : List Tree) (sums captures constants : Bool)
    (rule : String) : Parser (List Tree) := do
  let bounds ← boundSum grammar sums captures constants
  if hasTrait bounds then pure bounds
  else failOn (lead ++ bounds.filter (·.isKind .phrase)) (.rule rule)

/-- What is said about a trait object without a trait. -/
def objectRule : String := "at least one trait is required for an object type"

/-- Further bounds behind the first one of a trait object, each behind its plus sign. -/
def plusBounds (grammar : Grammar) : Parser (List Tree) :=
  many (Lookahead.operator "+") do
    let plus ← operator "+"
    let bound ← grammar.tree (.bound false false)
    pure (plus ++ [bound])

/-- The bounds behind the path that a trait object starts with; a sign may end them. `fuel` bounds
their number. -/
def objectTail (grammar : Grammar) (fuel : Nat) : Parser (List Tree) :=
  match fuel with
  | 0 => pure []
  | fuel + 1 => do
    if ← looking (Lookahead.operator "+") then
      let plus ← operator "+"
      let tokens ← ahead
      if Lookahead.word tokens || Lookahead.operator "::" tokens || Lookahead.operator "?" tokens
          || Lookahead.lifetime tokens || Lookahead.group .parenthesis tokens then
        let bound ← grammar.tree (.bound false false)
        let rest ← objectTail grammar fuel
        pure (plus ++ bound :: rest)
      else pure plus
    else pure []

/-! ## Function types -/

/-- The name of a calling convention behind `extern`, if it is given. -/
def callingConvention : Parser (List Tree) := do
  let word ← keyword "extern"
  if ← looking Lookahead.string then
    let convention ← anyTree
    pure (word ++ [convention])
  else pure word

/-- A calling convention, if there is one. -/
def callingConvention? : Parser (List Tree) := do
  if ← looking (Lookahead.keyword "extern") then callingConvention else pure []

/-- Whether a `self` that can be changed stands ahead. -/
def changeableSelf (tokens : List TokenTree) : Bool :=
  Lookahead.keyword "mut" tokens && Lookahead.keyword "self" (Lookahead.skip tokens)

/-- An input of a function type behind its attributes. A `self` that can be changed has no meaning
there, and an input with one is kept as it was written. -/
def functionTypeInput (grammar : Grammar) (first : Bool) : Parser (List Tree) := do
  let start ← ahead
  let isMutable := first && changeableSelf start
  if isMutable then let _ ← keyword "mut"
  let tokens ← ahead
  let isSelf := first && Lookahead.keyword "self" tokens
  let behind := Lookahead.skip tokens
  let isNamed := (Lookahead.name tokens || Lookahead.keyword "_" tokens || isSelf)
    && Lookahead.operator ":" behind && !Lookahead.operator "::" behind
  let name ←
    if isNamed then
      let ident ← anyWord
      let colon ← operator ":"
      pure (Tree.name ident :: colon)
    else pure []
  let tokens ← ahead
  if first && !(isNamed && isSelf) && changeableSelf tokens then
    let _ ← keyword "mut"
    let _ ← keyword "self"
    tokensSince start
  else if isMutable && !isNamed then
    let _ ← keyword "self"
    tokensSince start
  else
    let type ← grammar.type
    if isMutable then tokensSince start else pure (name ++ [type])

/-- Whether dots for further inputs stand ahead, with or without a name. -/
def openInputs (tokens : List TokenTree) : Bool :=
  let second := Lookahead.skip tokens
  Lookahead.operator "..." tokens
    || (Lookahead.name tokens || Lookahead.keyword "_" tokens) && Lookahead.operator ":" second
      && Lookahead.operator "..." (Lookahead.skip second)

/-- The dots that end the inputs of a function type. -/
def openFunctionTypeInput : Parser (List Tree) := do
  let name ←
    if ← looking (Lookahead.operator "...") then pure []
    else
      let ident ← anyWord
      let colon ← operator ":"
      pure (Tree.name ident :: colon)
  let dots ← operator "..."
  let comma ← operator? ","
  pure (name ++ dots ++ comma)

/-- The inputs of a function type, up to its dots if it has some; `fuel` bounds their number. -/
def functionTypeInputs (grammar : Grammar) (fuel : Nat) (first : Bool) : Parser (List Tree) :=
  match fuel with
  | 0 => pure []
  | fuel + 1 => do
    if ← atEnd then return []
    let attributes ← outerTrees grammar
    if ← looking openInputs then
      let dots ← openFunctionTypeInput
      return attributes ++ dots
    let input ← functionTypeInput grammar first
    if ← atEnd then return attributes ++ input
    let comma ← operator ","
    let rest ← functionTypeInputs grammar fuel false
    pure (attributes ++ input ++ comma ++ rest)

/-- A function type behind the parameters that it introduces. -/
def functionType (grammar : Grammar) (introduced : List Tree) : Parser Tree := do
  let safety ← keyword? "unsafe"
  let convention ← callingConvention?
  let word ← keyword "fn"
  let inputs ← groupOf .parenthesis do
    let tokens ← ahead
    functionTypeInputs grammar (tokens.length + 1) true
  let output ← returnType grammar false
  pure (typeNode (introduced ++ safety ++ convention ++ word ++ inputs :: output))

/-! ## Types in parentheses -/

/-- The content of a parenthesised type. -/
inductive ParenthesisedType where
  /-- The type is complete. -/
  | complete (tree : Tree)
  /-- A single type, which may turn out to be the first bound of a sum. -/
  | single (inner : Tree) (group : Tree)
  /-- A first bound; a sum may go on behind it. -/
  | bound (tree : Tree)

/-- Read the content of a parenthesised type. -/
def parenthesisedType (grammar : Grammar) : Parser ParenthesisedType := do
  let ((parts, form), opening, closing) ← inside .parenthesis do
    let tokens ← ahead
    if tokens.isEmpty then return ([], 0)
    if Lookahead.lifetime tokens then
      let bounds ← objectBounds grammar [] true false false objectRule
      return ([typeNode bounds], 0)
    if Lookahead.operator "?" tokens then
      let (parts, _) ← traitBound grammar false
      return (parts, 1)
    let first ← grammar.type
    if ← looking (Lookahead.operator ",") then
      let comma ← operator ","
      let rest ← commaList do return [← grammar.type]
      return (first :: comma ++ rest, 0)
    return ([first], 2)
  let group := Tree.group .parenthesis opening closing parts
  match form, parts with
  | 1, _ => pure (.bound (.node .phrase [group]))
  | 2, [inner] => pure (.single inner group)
  | _, _ => pure (.complete (typeNode [group]))

/-- The type in parentheses as the first bound of a sum, if it can be one: a path, or a single bound
without `dyn`. The parentheses of a bound that has some of its own are left out. -/
def firstBound? (inner group : Tree) : Option Tree :=
  match inner with
  | .node .typePath [path] => if path.isKind .path then some (.node .phrase [group]) else none
  | .node .type [.node .phrase [.group delimiter opening closing content]] =>
    some (.node .phrase [.group delimiter opening closing content])
  | .node .type [bound] => if bound.isKind .phrase then some (.node .phrase [group]) else none
  | _ => none

/-! ## All types -/

/-- What may stand where a type is wanted. -/
def typePieces : List String :=
  ["`for`", "parentheses", "`fn`", "`unsafe`", "`extern`", "identifier", "`::`", "`<`", "`dyn`",
    "square brackets", "`*`", "`&`", "`!`", "`impl`", "`_`", "lifetime"]

/-- What may stand behind the parameters that a type introduces. -/
def introducedPieces : List String :=
  ["identifier", "`fn`", "`unsafe`", "`extern`", "`super`", "`self`", "`Self`", "`crate`"]

/-- A type that starts with a path: a macro call, a path, or a sum of bounds. -/
def pathType (grammar : Grammar) (sums : Bool) (introduced : List Tree) : Parser Tree := do
  let path ← qualifiedPath grammar false
  if path.isKind .qualifiedPath then return .node .typePath [path]
  let tokens ← ahead
  if macroFollows path tokens then
    let call ← macroRest path
    return typeNode [call]
  if !introduced.isEmpty || sums && Lookahead.operator "+" tokens then
    let rest ← if sums then objectTail grammar (tokens.length + 1) else pure []
    return typeNode (.node .phrase (introduced ++ [path]) :: rest)
  pure (.node .typePath [path])

/-- A type; `sums` says whether a sum of bounds may end it. -/
def typeRule (grammar : Grammar) (sums : Bool) : Parser Tree := do
  let start ← ahead
  let introduced ← binder? grammar
  let tokens ← ahead
  let isIntroduced := Lookahead.name tokens || Lookahead.pathKeyword tokens
    || Lookahead.keywords ["fn", "unsafe", "extern"] tokens
  if !introduced.isEmpty && !isIntroduced then wanting introducedPieces
  else if builtinAhead tokens then
    let tokens ← builtinUse
    pure (typeNode tokens)
  else if Lookahead.group .parenthesis tokens then
    match ← parenthesisedType grammar with
    | .complete type => pure type
    | .bound first => do
      let rest ← plusBounds grammar
      pure (typeNode (first :: rest))
    | .single inner group =>
      match firstBound? inner group with
      | some first =>
        if sums && (← looking (Lookahead.operator "+")) then
          let rest ← plusBounds grammar
          pure (typeNode (first :: rest))
        else pure (typeNode [group])
      | none => pure (typeNode [group])
  else if Lookahead.keywords ["fn", "unsafe", "extern"] tokens then functionType grammar introduced
  else if Lookahead.name tokens || Lookahead.pathKeyword tokens || Lookahead.operator "::" tokens
      || Lookahead.operator "<" tokens then
    pathType grammar sums introduced
  else if Lookahead.keyword "dyn" tokens then
    let word ← keyword "dyn"
    let star ← operator? "*"
    let bounds ← objectBounds grammar word sums false false objectRule
    if star.isEmpty then pure (typeNode (word ++ bounds))
    else
      let tokens ← tokensSince start
      pure (typeNode tokens)
  else if Lookahead.group .bracket tokens then
    let brackets ← groupOf .bracket do
      let element ← grammar.type
      if ← looking (Lookahead.operator ";") then
        let mark ← operator ";"
        let length ← grammar.expression
        pure (element :: mark ++ [length])
      else pure [element]
    pure (typeNode [brackets])
  else if Lookahead.operator "*" tokens then
    let star ← operator "*"
    let tokens ← ahead
    let word ←
      if Lookahead.keyword "const" tokens then keyword "const"
      else if Lookahead.keyword "mut" tokens then keyword "mut"
      else wanting ["`const`", "`mut`"]
    let target ← grammar.tree (.type false)
    pure (typeNode (star ++ word ++ [target]))
  else if Lookahead.operator "&" tokens then
    let mark ← operator "&"
    let lifetime ← lifetime?
    let word ← keyword? "mut"
    let target ← grammar.tree (.type false)
    pure (typeNode (mark ++ lifetime ++ word ++ [target]))
  else if Lookahead.operator "!" tokens && !Lookahead.operator "=" tokens then
    let mark ← operator "!"
    pure (typeNode mark)
  else if Lookahead.keyword "impl" tokens then
    let word ← keyword "impl"
    let bounds ← objectBounds grammar word sums true true "at least one trait must be specified"
    pure (typeNode (word ++ bounds))
  else if Lookahead.keyword "_" tokens then
    let word ← keyword "_"
    pure (typeNode word)
  else if Lookahead.lifetime tokens then
    let bounds ← objectBounds grammar [] true false false objectRule
    pure (typeNode bounds)
  else wanting typePieces

end Counterpart.Grammar
