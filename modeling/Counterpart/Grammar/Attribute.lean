import Counterpart.Grammar.Nonterminal

/-!
# Reading attributes

An attribute is a number sign and a bracketed path with arguments. The same arguments also
appear alone, as a list in which items and literals alternate with commas.
-/

namespace Counterpart

/-- One entry of an argument list. -/
inductive MetaEntry where
  | literal (tokens : List Tree)
  | item (item : MetaItem)
deriving Repr, Inhabited

namespace Grammar

open Counterpart.Parser

/-- Whether a segment of a module path stands ahead. -/
def moduleSegment (tokens : List TokenTree) : Bool :=
  Lookahead.name tokens || Lookahead.pathKeyword tokens

/-- The segments of a path of plain words, and whether the last double colon has nothing behind it;
`fuel` bounds their number. -/
def plainSegments (fuel : Nat) : Parser (List (Located Ident) × Bool) :=
  match fuel with
  | 0 => pure ([], false)
  | fuel + 1 => do
    if !(← looking moduleSegment) then return ([], true)
    let segment ← anyWord
    if ← looking (Lookahead.operator "::") then
      let _ ← operator "::"
      let (rest, open?) ← plainSegments fuel
      pure (segment :: rest, open?)
    else pure ([segment], false)

/-- A path of words without arguments, as a module or a macro has it. -/
def modulePath : Parser MetaPath := do
  let root ← operator? "::"
  let tokens ← ahead
  let (segments, open?) ← plainSegments (tokens.length + 1)
  if segments.isEmpty then
    let segment ← name
    pure ⟨root, [segment]⟩
  else if open? then failWith (.rule "expected path segment after `::`")
  else pure ⟨root, segments⟩

/-- The expression that a literal is. -/
def literalExpression (tokens : List Tree) : Tree := .node (.expression .literal) tokens

/-- The value of an attribute. A literal that ends the list is taken as it is, with its sign. -/
def metaValue (grammar : Grammar) : Parser Tree := do
  let tokens ← ahead
  let length := if Lookahead.operator "-" tokens then 2 else 1
  if Lookahead.literal tokens && (tokens.drop length).isEmpty then
    literalExpression <$> literal
  else if Lookahead.operator "#" tokens && Lookahead.group .bracket (Lookahead.skip tokens) then
    failWith .nestedAttribute
  else grammar.expression

/-- What stands behind the path of an attribute. -/
def metaArguments (grammar : Grammar) : Parser MetaArguments := do
  let tokens ← ahead
  match tokens with
  | .group delimiter opening closing content :: _ =>
    let _ ← anyGroup
    pure (.list delimiter opening closing content)
  | _ =>
    if Lookahead.operator "=" tokens && !Lookahead.operator "==" tokens
        && !Lookahead.operator "=>" tokens then
      let equals ← operator "="
      let value ← metaValue grammar
      pure (.value equals value)
    else pure .word

/-- The content of an attribute. -/
def metaItem (grammar : Grammar) : Parser MetaItem := do
  let path ←
    if ← looking (Lookahead.keyword "unsafe") then
      let word ← anyWord
      pure (MetaPath.mk [] [word])
    else modulePath
  let arguments ← metaArguments grammar
  pure ⟨path, arguments⟩

/-- One entry of an argument list. A truth value in front of an equals sign is a name. -/
def metaEntry (grammar : Grammar) : Parser MetaEntry := do
  let tokens ← ahead
  let named := Lookahead.keywords ["true", "false"] tokens
    && Lookahead.operator "=" (Lookahead.skip tokens)
  if Lookahead.literal tokens && !named then .literal <$> literal
  else if Lookahead.word tokens
      || Lookahead.operator "::" tokens
        && Lookahead.word (Lookahead.skip (Lookahead.skip tokens)) then
    .item <$> metaItem grammar
  else wanting ["identifier or literal"]

/-- A list of arguments. -/
def metaList (grammar : Grammar) : Parser (List MetaEntry) := do
  let (entries, _) ← listOf (metaEntry grammar)
  pure entries

/-- An attribute in front of what it belongs to. -/
def outerAttribute (grammar : Grammar) : Parser Attribute := do
  let lead ← operator "#"
  let (content, opening, closing) ← inside .bracket (metaItem grammar)
  pure ⟨false, lead, opening, closing, content⟩

/-- An attribute inside of what it belongs to. -/
def innerAttribute (grammar : Grammar) : Parser Attribute := do
  let lead ← operator "#"
  let bang ← operator "!"
  let (content, opening, closing) ← inside .bracket (metaItem grammar)
  pure ⟨true, lead ++ bang, opening, closing, content⟩

/-- Attributes as long as what remains passes a test; `fuel` bounds their number. -/
def attributeLoop (fuel : Nat) (test : List TokenTree → Bool) (parser : Parser Attribute) :
    Parser (List Attribute) :=
  match fuel with
  | 0 => pure []
  | fuel + 1 => do
    if ← looking test then
      let first ← parser
      let rest ← attributeLoop fuel test parser
      pure (first :: rest)
    else pure []

/-- All attributes in front of something. -/
def outerAttributes (grammar : Grammar) : Parser (List Attribute) := do
  let tokens ← ahead
  attributeLoop (tokens.length + 1) (Lookahead.operator "#") (outerAttribute grammar)

/-- All attributes at the start of a body. -/
def innerAttributes (grammar : Grammar) : Parser (List Attribute) := do
  let tokens ← ahead
  let test (tokens : List TokenTree) : Bool :=
    Lookahead.operator "#" tokens && Lookahead.operator "!" (Lookahead.skip tokens)
  attributeLoop (tokens.length + 1) test (innerAttribute grammar)

/-- All attributes in front of something, as trees. -/
def outerTrees (grammar : Grammar) : Parser (List Tree) :=
  Attribute.outer <$> outerAttributes grammar

/-- All attributes at the start of a body, as trees. -/
def innerTrees (grammar : Grammar) : Parser (List Tree) :=
  Attribute.inner <$> innerAttributes grammar

end Grammar

end Counterpart
