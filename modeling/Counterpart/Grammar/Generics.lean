import Counterpart.Grammar.Path

/-!
# Reading generic parameters, bounds and `where` clauses
-/

namespace Counterpart.Grammar

open Counterpart.Parser

/-! ## Parameters -/

/-- Whether the bounds of a parameter are over. -/
def parameterBoundEnd (tokens : List TokenTree) : Bool :=
  Lookahead.operator "," tokens || Lookahead.operator ">" tokens

/-- A lifetime parameter behind its attributes. -/
def lifetimeParameter (attributes : List Attribute) : Parser GenericParameter := do
  let name ← lifetime
  let colon ← operator? ":"
  let bounds ←
    if colon.isEmpty then pure []
    else sumUntil parameterBoundEnd do return [← lifetime]
  pure ⟨.lifetime, attributes, [], name, colon, bounds, []⟩

/-- A type parameter behind its attributes. -/
def typeParameter (grammar : Grammar) (attributes : List Attribute) : Parser GenericParameter := do
  let name ← nameLeaf
  let colon ← operator? ":"
  let bounds ←
    if colon.isEmpty then pure []
    else
      sumUntil (fun tokens => parameterBoundEnd tokens || Lookahead.operator "=" tokens) do
        return [← grammar.tree (.bound false true)]
  let equals ← operator? "="
  let fallback ← if equals.isEmpty then pure [] else pure (equals ++ [← grammar.type])
  pure ⟨.type, attributes, [], name, colon, bounds, fallback⟩

/-- A constant parameter behind its attributes. -/
def constParameter (grammar : Grammar) (attributes : List Attribute) : Parser GenericParameter := do
  let keyword ← keyword "const"
  let name ← nameLeaf
  let colon ← operator ":"
  let type ← grammar.type
  let equals ← operator? "="
  let fallback ← if equals.isEmpty then pure [] else pure (equals ++ [← constantArgument grammar])
  pure ⟨.const, attributes, keyword, name, colon, [type], fallback⟩

/-- A generic parameter of a declaration. A lone underscore is taken as a type without bounds. -/
def genericParameter (grammar : Grammar) : Parser GenericParameter := do
  let attributes ← outerAttributes grammar
  let tokens ← ahead
  if Lookahead.lifetime tokens then lifetimeParameter attributes
  else if Lookahead.name tokens then typeParameter grammar attributes
  else if Lookahead.keyword "const" tokens then constParameter grammar attributes
  else if Lookahead.keyword "_" tokens then
    let ident ← anyWord
    pure ⟨.type, attributes, [], Tree.name ident, [], [], []⟩
  else wanting ["lifetime", "identifier", "`const`"]

/-- A generic parameter that is introduced without a declaration. -/
def introducedParameter (grammar : Grammar) : Parser GenericParameter := do
  let attributes ← outerAttributes grammar
  let tokens ← ahead
  if Lookahead.name tokens then typeParameter grammar attributes
  else if Lookahead.lifetime tokens then lifetimeParameter attributes
  else if Lookahead.keyword "const" tokens then constParameter grammar attributes
  else wanting ["identifier", "lifetime", "`const`"]

/-- A parameter list in angle brackets, which may be absent. -/
def genericParameters (grammar : Grammar) : Parser Generics := do
  if ← looking (Lookahead.operator "<") then
    let _ ← operator "<"
    let tokens ← ahead
    let (parameters, trailing) ←
      separatedValues (tokens.length + 1) (Lookahead.operator ">") "," (genericParameter grammar)
    let _ ← operator ">"
    pure ⟨parameters, trailing, []⟩
  else pure Generics.none

/-- Whether angle brackets ahead are a parameter list and not the start of a path. -/
def genericsAhead (tokens : List TokenTree) : Bool :=
  let second := Lookahead.skip tokens
  let third := Lookahead.skip second
  Lookahead.operator "<" tokens &&
    (Lookahead.operator ">" second || Lookahead.operator "#" second
      || Lookahead.keyword "const" second
      || (Lookahead.lifetime second || Lookahead.name second)
        && (Lookahead.operator ">" third || Lookahead.operator "," third
          || Lookahead.operator ":" third && !Lookahead.operator "::" third
          || Lookahead.operator "=" third))

/-! ## Bounds -/

/-- The parameters that a bound, a function type or a closure introduces. -/
def binder (grammar : Grammar) : Parser (List Tree) := do
  let word ← keyword "for"
  let opening ← operator "<"
  let parameters ← separatedUntil (Lookahead.operator ">") "," do
    let parameter ← introducedParameter grammar
    pure [.node .phrase parameter.trees]
  let closing ← operator ">"
  pure (word ++ opening ++ parameters ++ closing)

/-- The introduced parameters, if there are some. -/
def binder? (grammar : Grammar) : Parser (List Tree) := do
  if ← looking (Lookahead.keyword "for") then binder grammar else pure []

/-- Captured names with the commas behind them; `fuel` bounds their number. -/
def capturedLoop (fuel : Nat) : Parser (List (Tree × List Tree)) :=
  match fuel with
  | 0 => pure []
  | fuel + 1 => do
    let tokens ← ahead
    if Lookahead.operator ">" tokens then return []
    let first ←
      if Lookahead.lifetime tokens then lifetime
      else if Lookahead.name tokens || Lookahead.keyword "Self" tokens then Tree.name <$> anyWord
      else wanting ["lifetime", "identifier", "`>`"]
    let behind ← ahead
    if Lookahead.operator ">" behind then return [(first, [])]
    if !Lookahead.operator "," behind then wanting ["`,`", "`>`"]
    let comma ← operator ","
    let rest ← capturedLoop fuel
    pure ((first, comma) :: rest)

/-- A list of captured names. -/
def capturedNames : Parser (List Tree) := do
  let word ← keyword "use"
  let opening ← operator "<"
  let tokens ← ahead
  let names ← capturedLoop (tokens.length + 1)
  let closing ← operator ">"
  pure (word ++ opening ++ orderedArguments names ++ closing)

/-- The mark of a constant trait, which may stand in brackets and must be admitted. -/
def constantMark (admitted : Bool) : Parser (List Tree) := do
  let tokens ← ahead
  if Lookahead.group .bracket tokens then
    let mark ← groupOf .bracket (keyword "const")
    if admitted then pure [mark] else failOn [mark] (.rule "`[const]` is not allowed here")
  else if Lookahead.keyword "const" tokens then
    let mark ← keyword "const"
    if admitted then pure mark else failOn mark (.rule "`const` is not allowed here")
  else pure []

/-- A trait as a bound, and whether it is marked as a constant one. -/
def traitBound (grammar : Grammar) (constants : Bool) : Parser (List Tree × Bool) := do
  let introduced ← binder? grammar
  let mark ← constantMark constants
  let optional ← operator? "?"
  let later ←
    if introduced.isEmpty && !optional.isEmpty then binder? grammar else pure []
  let path ← path grammar false
  let path ← withCallArguments grammar path
  if !optional.isEmpty && !(introduced.isEmpty && later.isEmpty) then
    failOn optional
      (.rule "`for<...>` binder not allowed with `?` trait polarity modifier")
  pure (introduced ++ mark ++ optional ++ later ++ [path], !mark.isEmpty)

/-- A bound: a lifetime, a list of captured names, or a trait that may be parenthesised. A
constant trait is not looked into. -/
def boundRule (grammar : Grammar) (captures constants : Bool) : Parser Tree := do
  let start ← ahead
  if Lookahead.lifetime start then return .node .phrase [← lifetime]
  if Lookahead.keyword "use" start then
    let names ← capturedNames
    if captures then return .node .phrase names
    else failOn names (.rule "`use<...>` precise capturing syntax is not allowed here")
  let (parts, isConstant) ←
    if Lookahead.group .parenthesis start then do
      let ((parts, isConstant), opening, closing) ←
        inside .parenthesis (traitBound grammar constants)
      pure ([Tree.group .parenthesis opening closing parts], isConstant)
    else traitBound grammar constants
  if isConstant then
    let tokens ← tokensSince start
    pure (.node .phrase tokens)
  else pure (.node .phrase parts)

/-- Whether a further bound stands ahead in a sum of bounds. -/
def furtherBound (constants : Bool) (tokens : List TokenTree) : Bool :=
  Lookahead.word tokens || Lookahead.operator "::" tokens || Lookahead.operator "?" tokens
    || Lookahead.lifetime tokens || Lookahead.group .parenthesis tokens
    || constants && Lookahead.group .bracket tokens

/-- Bounds with plus signs between them; `fuel` bounds their number. -/
def boundLoop (grammar : Grammar) (fuel : Nat) (sums captures constants : Bool) :
    Parser (List Tree) :=
  match fuel with
  | 0 => pure []
  | fuel + 1 => do
    let first ← grammar.tree (.bound captures constants)
    let tokens ← ahead
    if sums && Lookahead.operator "+" tokens then
      let plus ← operator "+"
      if ← looking (furtherBound constants) then
        let rest ← boundLoop grammar fuel sums captures constants
        pure (first :: plus ++ rest)
      else pure (first :: plus)
    else pure [first]

/-- Bounds with plus signs between them, or a single bound. -/
def boundSum (grammar : Grammar) (sums captures constants : Bool) : Parser (List Tree) := do
  let tokens ← ahead
  boundLoop grammar (tokens.length + 1) sums captures constants

/-! ## Clauses -/

/-- Whether a predicate or its bounds are over. -/
def clauseEnd (tokens : List TokenTree) : Bool :=
  tokens.isEmpty || Lookahead.group .brace tokens || Lookahead.operator "," tokens
    || Lookahead.operator ";" tokens
    || Lookahead.operator ":" tokens && !Lookahead.operator "::" tokens
    || Lookahead.operator "=" tokens

/-- One predicate of a `where` clause. -/
def predicate (grammar : Grammar) : Parser Tree := do
  let tokens ← ahead
  if Lookahead.lifetime tokens && Lookahead.operator ":" (Lookahead.skip tokens) then
    let name ← lifetime
    let colon ← operator ":"
    let bounds ← sumUntil (fun rest => clauseEnd rest || Lookahead.operator ":" rest) do
      return [← lifetime]
    pure (.node .phrase (name :: colon ++ bounds))
  else
    let introduced ← binder? grammar
    let type ← grammar.type
    let colon ← operator ":"
    let bounds ← sumUntil clauseEnd do return [← grammar.tree (.bound false true)]
    pure (.node .phrase (introduced ++ type :: colon ++ bounds))

/-- The predicates of a clause with the commas behind them; `fuel` bounds their number. -/
def predicateLoop (grammar : Grammar) (fuel : Nat) : Parser (List Tree) :=
  match fuel with
  | 0 => pure []
  | fuel + 1 => do
    if ← looking clauseEnd then return []
    let first ← predicate grammar
    if ← looking (Lookahead.operator ",") then
      let comma ← operator ","
      let rest ← predicateLoop grammar fuel
      pure (first :: comma ++ rest)
    else pure [first]

/-- A `where` clause; without predicates it is nothing. -/
def whereClause (grammar : Grammar) : Parser (List Tree) := do
  let word ← keyword "where"
  let tokens ← ahead
  if genericsAhead tokens then
    failWith (.rule "generic parameters on `where` clauses are reserved for future use")
  let predicates ← predicateLoop grammar (tokens.length + 1)
  pure (if predicates.isEmpty then [] else [.node .whereClause (word ++ predicates)])

/-- A `where` clause, if there is one. -/
def whereClause? (grammar : Grammar) : Parser (List Tree) := do
  if ← looking (Lookahead.keyword "where") then whereClause grammar else pure []

end Counterpart.Grammar
