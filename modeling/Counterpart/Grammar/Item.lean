import Counterpart.Grammar.Statement

/-!
# Reading items

The forms of items that a reader may write but that the language gives no meaning are kept as
they were written.
-/

namespace Counterpart.Grammar

open Counterpart.Parser

/-! ## Visibility and fields -/

/-- A visibility; nothing in front means that it is inherited. -/
def visibility : Parser Visibility := do
  if !(← looking (Lookahead.keyword "pub")) then return ⟨.inherited, []⟩
  let word ← keyword "pub"
  let open_ : Visibility := ⟨.everywhere, word⟩
  match ← ahead with
  | .group .parenthesis opening closing content :: _ =>
    if Lookahead.keywords ["crate", "self", "super"] content then
      match content with
      | [.word ident region] =>
        let _ ← anyGroup
        let path : MetaPath := ⟨[], [⟨ident, region⟩]⟩
        pure ⟨.within path, word ++ [.group .parenthesis opening closing [path.tree]]⟩
      | _ => pure open_
    else if Lookahead.keyword "in" content then
      let ((keyword, path), opening, closing) ← inside .parenthesis do
        let keyword ← keyword "in"
        let path ← modulePath
        pure (keyword, path)
      pure ⟨.within path, word ++ [.group .parenthesis opening closing (keyword ++ [path.tree])]⟩
    else pure open_
  | _ => pure open_

/-- A field with a name. -/
def namedField (grammar : Grammar) : Parser NamedField := do
  let attributes ← outerAttributes grammar
  let visibility ← visibility
  let unnamed ← looking (Lookahead.keyword "_")
  let ident ← if unnamed then anyWord else name
  let _ ← operator ":"
  let tokens ← ahead
  let nested := Lookahead.keyword "struct" tokens
    || Lookahead.keyword "union" tokens && Lookahead.group .brace (Lookahead.skip tokens)
  let type ←
    if unnamed && nested then
      let _ ← anyWord
      let _ ← grammar.tree .nestedFields
      typeNode <$> tokensSince tokens
    else grammar.type
  pure ⟨attributes, visibility, ident, type⟩

/-- A field known by its position. -/
def positionalField (grammar : Grammar) : Parser PositionalField := do
  let attributes ← outerAttributes grammar
  let visibility ← visibility
  let type ← grammar.type
  pure ⟨attributes, visibility, type⟩

/-- Whether a comma stands behind the last of some values. -/
def trailingComma {α : Type} (values : List α) (trailing : Bool) : Bool :=
  trailing && !values.isEmpty

/-- Fields with names, in braces. -/
def namedFields (grammar : Grammar) : Parser (List NamedField × Bool) := do
  let ((fields, trailing), _, _) ← inside .brace (listOf (namedField grammar))
  pure (fields, trailingComma fields trailing)

/-- The fields of a type without a name. They are not looked into. -/
def nestedFieldsRule (grammar : Grammar) : Parser Tree := do
  let start ← ahead
  let _ ← namedFields grammar
  .node .phrase <$> tokensSince start

/-- Fields without names, in parentheses. -/
def positionalFields (grammar : Grammar) : Parser (List PositionalField × Bool) := do
  let ((fields, trailing), _, _) ← inside .parenthesis (listOf (positionalField grammar))
  pure (fields, trailingComma fields trailing)

/-! ## Structs, enums and unions -/

/-- A struct behind its attributes. -/
def structRule (grammar : Grammar) (attributes : List Attribute) : Parser StructItem := do
  let visibility ← visibility
  let _ ← keyword "struct"
  let ident ← name
  let generics ← genericParameters grammar
  let isWhere ← looking (Lookahead.keyword "where")
  let clause ← whereClause? grammar
  let tokens ← ahead
  if !isWhere && Lookahead.group .parenthesis tokens then
    let (fields, trailing) ← positionalFields grammar
    let isWhere ← looking (Lookahead.keyword "where")
    let clause ← whereClause? grammar
    if !(← looking (Lookahead.operator ";")) then
      wanting (if isWhere then ["`;`"] else ["`where`", "`;`"])
    let _ ← operator ";"
    pure ⟨attributes, visibility, ident, { generics with clause }, .positional fields trailing⟩
  else if Lookahead.group .brace tokens then
    let (fields, trailing) ← namedFields grammar
    pure ⟨attributes, visibility, ident, { generics with clause }, .named fields trailing⟩
  else if Lookahead.operator ";" tokens then
    let _ ← operator ";"
    pure ⟨attributes, visibility, ident, { generics with clause }, .unit⟩
  else if isWhere then wanting ["curly braces", "`;`"]
  else wanting ["`where`", "parentheses", "curly braces", "`;`"]

/-- A variant of an enum. A visibility is read and forgotten. -/
def variant (grammar : Grammar) : Parser Variant := do
  let attributes ← outerAttributes grammar
  let _ ← visibility
  let ident ← name
  let tokens ← ahead
  let fields ←
    if Lookahead.group .brace tokens then
      let (fields, trailing) ← namedFields grammar
      pure (Fields.named fields trailing)
    else if Lookahead.group .parenthesis tokens then
      let (fields, trailing) ← positionalFields grammar
      pure (Fields.positional fields trailing)
    else pure Fields.unit
  let discriminant ←
    if ← looking (Lookahead.operator "=") then
      let equals ← operator "="
      let value ← grammar.expression
      pure (equals ++ [value])
    else pure []
  pure ⟨attributes, ident, fields, discriminant⟩

/-- An enum behind its attributes. -/
def enumRule (grammar : Grammar) (attributes : List Attribute) : Parser EnumItem := do
  let visibility ← visibility
  let _ ← keyword "enum"
  let ident ← name
  let generics ← genericParameters grammar
  let clause ← whereClause? grammar
  let ((variants, trailing), _, _) ← inside .brace (listOf (variant grammar))
  pure ⟨attributes, visibility, ident, { generics with clause }, variants,
    trailingComma variants trailing⟩

/-- A union behind its attributes. -/
def unionRule (grammar : Grammar) (attributes : List Attribute) : Parser UnionItem := do
  let visibility ← visibility
  let _ ← keyword "union"
  let ident ← name
  let generics ← genericParameters grammar
  let clause ← whereClause? grammar
  let (fields, trailing) ← namedFields grammar
  pure ⟨attributes, visibility, ident, { generics with clause }, fields, trailing⟩

/-! ## Functions -/

/-- Whether a function signature stands ahead. -/
def signatureAhead (admitSafe : Bool) (tokens : List TokenTree) : Bool :=
  let tokens := if Lookahead.keyword "const" tokens then tokens.drop 1 else tokens
  let tokens := if Lookahead.keyword "async" tokens then tokens.drop 1 else tokens
  let tokens :=
    if Lookahead.keyword "unsafe" tokens || admitSafe && Lookahead.keyword "safe" tokens then
      tokens.drop 1
    else tokens
  let tokens :=
    if Lookahead.keyword "extern" tokens then
      if Lookahead.string (tokens.drop 1) then tokens.drop 2 else tokens.drop 1
    else tokens
  Lookahead.keyword "fn" tokens

/-- The receiver of a method. -/
def receiver (grammar : Grammar) : Parser (List Tree) := do
  let mark ← operator? "&"
  let lifetime ← if mark.isEmpty then pure [] else lifetime?
  let mutability ← keyword? "mut"
  let word ← keyword "self"
  if ← looking (Lookahead.operator "::") then wantingNothing
  let type ←
    if mark.isEmpty && (← looking (Lookahead.operator ":")) then
      let colon ← operator ":"
      let type ← grammar.type
      pure (colon ++ [type])
    else pure []
  pure (mark ++ lifetime ++ mutability ++ word ++ type)

/-- The inputs that are already read when an input of a function is. -/
inductive EarlierInputs where
  | none
  /-- Some, and the first is a receiver. -/
  | withReceiver
  /-- Some, and none is a receiver. -/
  | withoutReceiver

/-- What is wrong with a receiver behind earlier inputs. -/
def EarlierInputs.refusal? : EarlierInputs → Option String
  | .none => Option.none
  | .withReceiver => some "unexpected second method receiver"
  | .withoutReceiver => some "unexpected method receiver"

/-- Refuse the word of a receiver if earlier inputs do not admit one. -/
def checkReceiver (earlier : EarlierInputs) (receiver : List Tree) : Parser Unit :=
  match earlier.refusal? with
  | some refusal =>
    failOn (receiver.filter fun part => Lookahead.keyword "self" part.tokens) (.rule refusal)
  | none => pure ()

/-- A comma unless the inputs end. -/
def commaOrEnd : Parser (List Tree) := do
  if ← atEnd then pure [] else operator ","

/-- The inputs of a function, up to its dots if it has some; `fuel` bounds their number. -/
def functionInputs (grammar : Grammar) (fuel : Nat) (earlier : EarlierInputs) :
    Parser (List Tree) :=
  match fuel with
  | 0 => pure []
  | fuel + 1 => do
    if ← atEnd then return []
    let attributes ← outerTrees grammar
    let tokens ← ahead
    if Lookahead.operator "..." tokens then
      let dots ← operator "..."
      let comma ← commaOrEnd
      return attributes ++ dots ++ comma
    if ← succeeds (receiver grammar) then
      let input ← receiver grammar
      checkReceiver earlier input
      let comma ← commaOrEnd
      let rest ← functionInputs grammar fuel .withReceiver
      return attributes ++ input ++ comma ++ rest
    let later : EarlierInputs :=
      match earlier with
      | .withReceiver => .withReceiver
      | _ => .withoutReceiver
    if Lookahead.name tokens && Lookahead.operator "<" (Lookahead.skip tokens) then
      let type ← grammar.type
      let comma ← commaOrEnd
      let rest ← functionInputs grammar fuel later
      return attributes ++ Tree.word "_" :: Tree.operator ":" ++ type :: comma ++ rest
    let pattern ← grammar.tree .pattern
    let colon ← operator ":"
    if ← looking (Lookahead.operator "...") then
      let dots ← operator "..."
      let comma ← commaOrEnd
      return attributes ++ pattern :: colon ++ dots ++ comma
    let type ← grammar.type
    let comma ← commaOrEnd
    let rest ← functionInputs grammar fuel later
    pure (attributes ++ pattern :: colon ++ type :: comma ++ rest)

/-- A function signature, and whether it is marked as safe. -/
def signature (grammar : Grammar) (admitSafe : Bool) : Parser (List Tree × Bool) := do
  let constness ← keyword? "const"
  let asyncness ← keyword? "async"
  let isSafe := admitSafe && (← looking (Lookahead.keyword "safe"))
  let safety ← if isSafe then keyword "safe" else keyword? "unsafe"
  let convention ← callingConvention?
  let word ← keyword "fn"
  let ident ← nameLeaf
  let generics ← genericParameters grammar
  let inputs ← groupOf .parenthesis do
    let tokens ← ahead
    functionInputs grammar (tokens.length + 1) .none
  let output ← returnType grammar true
  let clause ← whereClause? grammar
  pure (constness ++ asyncness ++ safety ++ convention ++ word ++ ident :: generics.declared
    ++ inputs :: output ++ clause, isSafe)

/-- The body of a function with its inner attributes. -/
def functionBody (grammar : Grammar) : Parser (List Attribute × ItemBody) := do
  let ((attributes, content), opening, closing) ← inside .brace do
    let attributes ← innerAttributes grammar
    let content ← statements grammar
    pure (attributes, content)
  pure (attributes, ⟨opening, closing, content, true⟩)

/-! ## Members of traits, implementations and foreign blocks -/

/-- A macro call in place of an item or a member, behind its attributes. That of an item may name
what it declares. -/
def macroItem (isItem : Bool) : Parser (List Tree) := do
  let path ← modulePath
  let bang ← operator "!"
  let tokens ← ahead
  let ident ←
    if isItem && (Lookahead.name tokens || Lookahead.keyword "try" tokens) then do
      let ident ← anyWord
      pure [Tree.name ident]
    else pure []
  let arguments ← anyGroup
  let call := Tree.node .macroCall (path.tree :: (bang ++ ident ++ [arguments]))
  if call.endsInBraces then pure [call]
  else
    let mark ← operator ";"
    pure (call :: mark)

/-- Whether a macro call stands ahead as an item. -/
def macroItemAhead (tokens : List TokenTree) : Bool :=
  Lookahead.name tokens || Lookahead.keywords ["self", "super", "crate"] tokens
    || Lookahead.operator "::" tokens

/-- What may stand where an item or a member starts with a name. -/
def namePieces (admitted : Bool) : List String :=
  if admitted then ["identifier", "`self`", "`super`", "`crate`", "`::`"] else []

/-- On which side of the equals sign of a type declaration a `where` clause stands. -/
inductive ClauseSide where
  | before
  | behind
  | either
deriving DecidableEq

/-- A type declaration, whether it has a colon, and whether it says what the type is. -/
def typeDeclaration (grammar : Grammar) (side : ClauseSide) :
    Parser (List Tree × Bool × Bool) := do
  let word ← keyword "type"
  let ident ← nameLeaf
  let generics ← genericParameters grammar
  let colon ← operator? ":"
  let bounds ←
    if colon.isEmpty then pure []
    else
      separatedUntil (fun tokens => Lookahead.keyword "where" tokens
          || Lookahead.operator "=" tokens || Lookahead.operator ";" tokens) "+" do
        return [← grammar.tree (.bound false true)]
  let isEarly ← looking (Lookahead.keyword "where")
  let early ← if side = .behind then pure [] else whereClause? grammar
  let definition ←
    if ← looking (Lookahead.operator "=") then
      let equals ← operator "="
      let type ← grammar.type
      pure (equals ++ [type])
    else pure []
  let isOver := side = .before || isEarly && side = .either
  let late ← if isOver then pure [] else whereClause? grammar
  let mark ← operator ";"
  let bounded := if bounds.isEmpty then [] else colon ++ bounds
  pure (word ++ ident :: generics.declared ++ bounded ++ early ++ definition ++ late ++ mark,
    !colon.isEmpty, !definition.isEmpty)

/-- A constant declaration, whether it is of the form that has a meaning, and whether it has a
value. -/
def constDeclaration (grammar : Grammar) : Parser (List Tree × Bool × Bool) := do
  let word ← keyword "const"
  let tokens ← ahead
  let ident ←
    if Lookahead.name tokens || Lookahead.keyword "_" tokens then anyWord
    else wanting ["identifier", "`_`"]
  let isGeneric ← looking (Lookahead.operator "<")
  let generics ← genericParameters grammar
  let colon ← operator ":"
  let type ← grammar.type
  let value ←
    if ← looking (Lookahead.operator "=") then
      let equals ← operator "="
      let value ← grammar.expression
      pure (equals ++ [value])
    else pure []
  let isWhere ← looking (Lookahead.keyword "where")
  let clause ← whereClause? grammar
  let mark ← operator ";"
  pure (word ++ Tree.name ident :: generics.declared ++ colon ++ type :: value ++ clause ++ mark,
    !isGeneric && !isWhere, !value.isEmpty)

/-- A member function with or without a body. -/
def memberFunction (grammar : Grammar) (attributes : List Attribute) : Parser (List Tree) := do
  let (head, _) ← signature grammar false
  let tokens ← ahead
  if Lookahead.group .brace tokens then
    let (inner, body) ← functionBody grammar
    pure (OtherItem.mk (attributes ++ inner) head (some body)).trees
  else if Lookahead.operator ";" tokens then
    let mark ← operator ";"
    pure (Attribute.outer attributes ++ head ++ mark)
  else wanting ["curly braces", "`;`"]

/-- Keep a member as it was written, unless it has a meaning. -/
def settle (start : List TokenTree) (parts : List Tree) (isMeant : Bool) : Parser (List Tree) := do
  if isMeant then pure [.node .phrase parts]
  else
    let tokens ← tokensSince start
    pure [.node .phrase tokens]

/-- A member of a trait. -/
def traitMember (grammar : Grammar) : Parser (List Tree) := do
  let start ← ahead
  let attributes ← outerAttributes grammar
  let outer := Attribute.outer attributes
  let visibility ← visibility
  let tokens ← ahead
  let isDefault := Lookahead.keyword "default" tokens
  let _ ← keyword? "default"
  let plain := visibility.trees.isEmpty && !isDefault
  let tokens ← ahead
  let second := Lookahead.skip tokens
  if signatureAhead false tokens then
    let parts ← memberFunction grammar attributes
    settle start parts plain
  else if Lookahead.keyword "const" tokens then
    if Lookahead.name second || Lookahead.keyword "_" second then
      let (parts, simple, _) ← constDeclaration grammar
      settle start (outer ++ parts) (plain && simple)
    else if Lookahead.keywords ["async", "unsafe", "extern", "fn"] second then
      memberFunction grammar attributes
    else
      let _ ← keyword "const"
      wanting ["identifier", "`_`", "`async`", "`unsafe`", "`extern`", "`fn`"]
  else if Lookahead.keyword "type" tokens then
    let (parts, _, _) ← typeDeclaration grammar .behind
    settle start (outer ++ parts) plain
  else if plain && macroItemAhead tokens then
    let parts ← macroItem false
    settle start (outer ++ parts) true
  else wantingKeywords ["fn", "const", "type"] (namePieces plain)

/-- A member of an implementation. -/
def implMember (grammar : Grammar) : Parser (List Tree) := do
  let start ← ahead
  let attributes ← outerAttributes grammar
  let visibility ← visibility
  let tokens ← ahead
  let isDefault := Lookahead.keyword "default" tokens
    && !Lookahead.operator "!" (Lookahead.skip tokens)
  let defaultness ← if isDefault then keyword "default" else pure []
  let tokens ← ahead
  let outer := Attribute.outer attributes ++ visibility.trees ++ defaultness
  let isPlain := visibility.trees.isEmpty && !isDefault
  if signatureAhead false tokens then
    let (head, _) ← signature grammar false
    if ← looking (Lookahead.operator ";") then
      let _ ← operator ";"
      settle start [] false
    else
      let (inner, body) ← functionBody grammar
      let item := OtherItem.mk (attributes ++ inner) (visibility.trees ++ defaultness ++ head)
        (some body)
      settle start item.trees true
  else if Lookahead.keyword "const" tokens then
    let (parts, simple, defined) ← constDeclaration grammar
    settle start (outer ++ parts) (simple && defined)
  else if Lookahead.keyword "type" tokens then
    let (parts, bounded, defined) ← typeDeclaration grammar .behind
    settle start (outer ++ parts) (!bounded && defined)
  else if isPlain && macroItemAhead tokens then
    let parts ← macroItem false
    settle start (outer ++ parts) true
  else
    let words := ["fn", "const", "type"]
    wantingKeywords (if isDefault then words else "default" :: words) (namePieces isPlain)

/-- The value of a constant or a static behind its equals sign. -/
def definingValue (grammar : Grammar) : Parser (List Tree) := do
  let equals ← operator "="
  let value ← grammar.expression
  pure (equals ++ [value])

/-- A static declaration behind its visibility, and whether it has a type and a value. -/
def staticItem (grammar : Grammar) : Parser (List Tree × Bool) := do
  let word ← keyword "static"
  let mutability ← keyword? "mut"
  let ident ← nameLeaf
  let head := word ++ mutability ++ [ident]
  if ← looking (Lookahead.operator "=") then
    let value ← definingValue grammar
    let mark ← operator ";"
    pure (head ++ value ++ mark, false)
  else
    let colon ← operator ":"
    let type ← grammar.type
    let isDefined := !(← looking (Lookahead.operator ";"))
    let value ← if isDefined then definingValue grammar else pure []
    let mark ← operator ";"
    pure (head ++ colon ++ type :: value ++ mark, isDefined)

/-- A static declaration of a foreign block, and whether it has a value. -/
def foreignStatic (grammar : Grammar) : Parser (List Tree × Bool) := do
  let word ← keyword "static"
  let mutability ← keyword? "mut"
  let ident ← nameLeaf
  let colon ← operator ":"
  let type ← grammar.type
  let isDefined ← looking (Lookahead.operator "=")
  let value ← if isDefined then definingValue grammar else pure []
  let mark ← operator ";"
  pure (word ++ mutability ++ ident :: colon ++ type :: value ++ mark, isDefined)

/-- A member of a foreign block. -/
def foreignMember (grammar : Grammar) : Parser (List Tree) := do
  let start ← ahead
  let attributes ← outerAttributes grammar
  let visibility ← visibility
  let outer := Attribute.outer attributes ++ visibility.trees
  let tokens ← ahead
  let safety := Lookahead.keywords ["unsafe", "safe"] tokens
    && Lookahead.keyword "static" (Lookahead.skip tokens)
  if signatureAhead true tokens then
    let (head, isSafe) ← signature grammar true
    if ← looking (Lookahead.group .brace) then
      let _ ← functionBody grammar
      settle start [] false
    else
      let mark ← operator ";"
      settle start (outer ++ head ++ mark) (!isSafe)
  else if Lookahead.keyword "static" tokens || safety then
    if safety then let _ ← anyWord
    let (parts, defined) ← foreignStatic grammar
    settle start (outer ++ parts) (!safety && !defined)
  else if Lookahead.keyword "type" tokens then
    let (parts, bounded, defined) ← typeDeclaration grammar .either
    settle start (outer ++ parts) (!bounded && !defined)
  else if visibility.trees.isEmpty && macroItemAhead tokens then
    let parts ← macroItem false
    settle start (outer ++ parts) true
  else wantingKeywords ["fn", "static", "type"] (namePieces visibility.trees.isEmpty)

/-- Braces around members, with their inner attributes. -/
def members (grammar : Grammar) (member : Parser (List Tree)) :
    Parser (List Attribute × ItemBody) := do
  let ((attributes, content), opening, closing) ← inside .brace do
    let attributes ← innerAttributes grammar
    let content ← many (fun tokens => !tokens.isEmpty) member
    pure (attributes, content)
  pure (attributes, ⟨opening, closing, content, false⟩)

/-! ## The remaining items -/

/-- The tree of a `use` declaration. `rooted` admits a double colon in front of the trees of a
group; the form is read and kept as it is. -/
def useTreeRule (grammar : Grammar) (rooted : Bool) : Parser Tree := do
  let tokens ← ahead
  if Lookahead.name tokens || Lookahead.keywords ["self", "super", "crate", "try"] tokens then
    let ident ← anyWord
    let behind ← ahead
    if Lookahead.operator "::" behind then
      let colons ← operator "::"
      let rest ← grammar.tree (.useTree false)
      pure (.node .phrase (Tree.name ident :: colons ++ [rest]))
    else if Lookahead.keyword "as" behind then
      let word ← keyword "as"
      let tokens ← ahead
      let other ←
        if Lookahead.name tokens || Lookahead.keyword "_" tokens then anyWord
        else failWith (.rule "expected identifier or underscore")
      pure (.node .phrase (Tree.name ident :: word ++ [Tree.name other]))
    else pure (.node .phrase [Tree.name ident])
  else if Lookahead.operator "*" tokens then
    let star ← operator "*"
    pure (.node .phrase star)
  else if Lookahead.group .brace tokens then
    let group ← groupOf .brace <| commaList do
      let root ← if rooted then operator? "::" else pure []
      let tree ← grammar.tree (.useTree (rooted && root.isEmpty))
      pure (root ++ [tree])
    pure (.node .phrase [group])
  else
    wanting ["identifier", "`self`", "`super`", "`crate`", "`try`", "`*`", "curly braces"]

mutual

/-- Whether the tree of a `use` declaration is a group with a double colon in front of one of its
parts, or of a part of a group among them. -/
def hasRootedPart : Tree → Bool
  | .node .phrase [.group _ _ _ content] => anyRooted content
  | _ => false

/-- Whether one of the parts of a group has a double colon in front, or is a group of that kind. -/
def anyRooted : List Tree → Bool
  | [] => false
  | .leaf token :: rest => token.isPunct ':' || anyRooted rest
  | tree :: rest => hasRootedPart tree || anyRooted rest

end

/-- An `impl` behind its attributes, and whether it has a meaning. -/
def implRule (grammar : Grammar) (attributes : List Attribute) : Parser (OtherItem × Bool) := do
  let visibility ← visibility
  let defaultness ← keyword? "default"
  let safety ← keyword? "unsafe"
  let word ← keyword "impl"
  let tokens ← ahead
  let generics ← if genericsAhead tokens then genericParameters grammar else pure Generics.none
  let tokens ← ahead
  let isConst := Lookahead.keyword "const" tokens
    || Lookahead.operator "?" tokens && Lookahead.keyword "const" (Lookahead.skip tokens)
  if isConst then
    let _ ← operator? "?"
    let _ ← keyword "const"
  let tokens ← ahead
  let polarity ←
    if Lookahead.operator "!" tokens && !Lookahead.group .brace (Lookahead.skip tokens) then
      operator "!"
    else pure []
  let first ← grammar.type
  if !polarity.isEmpty && !(← looking (Lookahead.keyword "for")) then
    failOn polarity (.rule "inherent impls cannot be negative")
  let (subject, meant) ←
    if ← looking (Lookahead.keyword "for") then do
      let word ← keyword "for"
      let type ← grammar.type
      let isTrait : Bool :=
        match first with
        | .node .typePath [path] => path.isKind .path
        | _ => false
      pure (polarity ++ first :: word ++ [type], isTrait)
    else pure ([first], true)
  let clause ← whereClause? grammar
  let (inner, body) ← members grammar (implMember grammar)
  let head := defaultness ++ safety ++ word ++ generics.declared ++ subject ++ clause
  pure (⟨attributes ++ inner, head, some body⟩, visibility.trees.isEmpty && !isConst && meant)

/-- The supertraits of a trait or the bounds of a trait alias. -/
def supertraits (grammar : Grammar) (constants : Bool) (stop : List TokenTree → Bool) :
    Parser (List Tree) :=
  separatedUntil stop "+" do return [← grammar.tree (.bound false constants)]

/-- A trait or a trait alias behind its attributes. -/
def traitRule (grammar : Grammar) (attributes : List Attribute) : Parser OtherItem := do
  let visibility ← visibility
  let safety ← keyword? "unsafe"
  let autoness ← keyword? "auto"
  let word ← keyword "trait"
  let ident ← nameLeaf
  let generics ← genericParameters grammar
  let head := visibility.trees ++ safety ++ autoness ++ word ++ ident :: generics.declared
  let tokens ← ahead
  let isPlain := safety.isEmpty && autoness.isEmpty
  if isPlain && Lookahead.operator "=" tokens then
    let equals ← operator "="
    let bounds ← supertraits grammar false fun tokens =>
      Lookahead.keyword "where" tokens || Lookahead.operator ";" tokens
    let clause ← whereClause? grammar
    let mark ← operator ";"
    pure ⟨attributes, head ++ equals ++ bounds ++ clause ++ mark, none⟩
  else if isPlain && !(Lookahead.group .brace tokens || Lookahead.operator ":" tokens
      || Lookahead.keyword "where" tokens) then
    wanting ["curly braces", "`:`", "`where`", "`=`"]
  else
    let colon ← operator? ":"
    let bounds ←
      if colon.isEmpty then pure []
      else supertraits grammar true fun tokens =>
        Lookahead.keyword "where" tokens || Lookahead.group .brace tokens
    let clause ← whereClause? grammar
    let (inner, body) ← members grammar (traitMember grammar)
    let bounded := if bounds.isEmpty then [] else colon ++ bounds
    pure ⟨attributes ++ inner, head ++ bounded ++ clause, some body⟩

/-- A module behind its attributes. -/
def moduleRule (grammar : Grammar) (attributes : List Attribute) : Parser Item := do
  let visibility ← visibility
  let safety ← keyword? "unsafe"
  let word ← keyword "mod"
  let tokens ← ahead
  let ident ← if Lookahead.keyword "try" tokens then anyWord else name
  let head := visibility.trees ++ safety ++ word ++ [Tree.name ident]
  if ← looking (Lookahead.operator ";") then
    let mark ← operator ";"
    pure (.outlineModule attributes (head ++ mark))
  else if !(← looking (Lookahead.group .brace)) then wanting ["`;`", "curly braces"]
  else
    let ((inner, items), opening, closing) ← inside .brace do
      let inner ← innerAttributes grammar
      let tokens ← ahead
      let items ← itemLoop grammar (tokens.length + 1)
      pure (inner, items)
    pure (.inlineModule (attributes ++ inner) head opening closing items)
where
  /-- The items of a module; `fuel` bounds their number. -/
  itemLoop (grammar : Grammar) (fuel : Nat) : Parser (List Item) :=
    match fuel with
    | 0 => pure []
    | fuel + 1 => do
      if ← atEnd then return []
      let first ← grammar.item
      let rest ← itemLoop grammar fuel
      pure (first :: rest)

/-- An item that is code up to a semicolon. -/
def simpleItem (attributes : List Attribute) (head : List Tree) : Item :=
  .other ⟨attributes, head, none⟩

/-- A foreign block behind its attributes. -/
def foreignBlock (grammar : Grammar) (attributes : List Attribute) : Parser Item := do
  let safety ← keyword? "unsafe"
  let convention ← callingConvention
  let (inner, body) ← members grammar (foreignMember grammar)
  pure (.other ⟨attributes ++ inner, safety ++ convention, some body⟩)

/-- The tokens since some point as an item. -/
def verbatimItem (start : List TokenTree) : Parser Item := do
  let trees ← tokensSince start
  pure (.verbatim (Tree.tokensAll trees))

/-- An item. -/
def itemRule (grammar : Grammar) : Parser Item := do
  let start ← ahead
  let attributes ← outerAttributes grammar
  let (scope, tokens) ← peeking visibility
  let inherited := scope.trees.isEmpty
  let second := Lookahead.skip tokens
  if Lookahead.keyword "fn" tokens || signatureAhead false tokens then
    let visibility ← visibility
    let (head, _) ← signature grammar false
    if ← looking (Lookahead.operator ";") then
      let _ ← operator ";"
      verbatimItem start
    else
      let (inner, body) ← functionBody grammar
      pure (.other ⟨attributes ++ inner, visibility.trees ++ head, some body⟩)
  else if Lookahead.keyword "extern" tokens then
    if Lookahead.keyword "crate" second then
      let visibility ← visibility
      let word ← keyword "extern"
      let crate ← keyword "crate"
      let behind ← ahead
      let ident ← if Lookahead.keyword "self" behind then anyWord else name
      let other ←
        if ← looking (Lookahead.keyword "as") then
          let word ← keyword "as"
          let behind ← ahead
          let other ← if Lookahead.keyword "_" behind then anyWord else name
          pure (word ++ [Tree.name other])
        else pure []
      let mark ← operator ";"
      pure (simpleItem attributes
        (visibility.trees ++ word ++ crate ++ Tree.name ident :: other ++ mark))
    else if Lookahead.group .brace second
        || Lookahead.string second && Lookahead.group .brace (Lookahead.skip second) then
      foreignBlock grammar attributes
    else
      let _ ← visibility
      let _ ← keyword "extern"
      if Lookahead.string second then
        let _ ← anyTree
        wanting ["curly braces"]
      else wanting ["`crate`", "curly braces", "string literal"]
  else if Lookahead.keyword "use" tokens then
    let visibility ← visibility
    let word ← keyword "use"
    let root ← operator? "::"
    let tree ← grammar.tree (.useTree root.isEmpty)
    let mark ← operator ";"
    if hasRootedPart tree then verbatimItem start
    else pure (simpleItem attributes (visibility.trees ++ word ++ root ++ tree :: mark))
  else if Lookahead.keyword "static" tokens then
    let visibility ← visibility
    let (parts, isMeant) ← staticItem grammar
    if isMeant then pure (simpleItem attributes (visibility.trees ++ parts))
    else verbatimItem start
  else if Lookahead.keyword "const" tokens then
    let visibility ← visibility
    let (parts, simple, defined) ← constDeclaration grammar
    if simple && defined then pure (simpleItem attributes (visibility.trees ++ parts))
    else verbatimItem start
  else if Lookahead.keyword "unsafe" tokens then
    if Lookahead.keyword "trait" second
        || Lookahead.keyword "auto" second && Lookahead.keyword "trait" (Lookahead.skip second) then
      .other <$> traitRule grammar attributes
    else if Lookahead.keyword "impl" second then
      let (item, meant) ← implRule grammar attributes
      if meant then pure (.other item) else verbatimItem start
    else if Lookahead.keyword "extern" second then foreignBlock grammar attributes
    else if Lookahead.keyword "mod" second then moduleRule grammar attributes
    else
      let _ ← visibility
      let _ ← keyword "unsafe"
      wantingKeywords ["trait", "auto", "impl", "extern", "mod"] []
  else if Lookahead.keyword "mod" tokens then moduleRule grammar attributes
  else if Lookahead.keyword "type" tokens then
    let visibility ← visibility
    let (parts, bounded, defined) ← typeDeclaration grammar .before
    if !bounded && defined then pure (simpleItem attributes (visibility.trees ++ parts))
    else verbatimItem start
  else if Lookahead.keyword "struct" tokens then .record <$> structRule grammar attributes
  else if Lookahead.keyword "enum" tokens then .enumeration <$> enumRule grammar attributes
  else if Lookahead.keyword "union" tokens && Lookahead.name second then
    .unionType <$> unionRule grammar attributes
  else if Lookahead.keyword "trait" tokens
      || Lookahead.keyword "auto" tokens && Lookahead.keyword "trait" second then
    .other <$> traitRule grammar attributes
  else if Lookahead.keyword "impl" tokens
      || Lookahead.keyword "default" tokens && !Lookahead.operator "!" second then
    let (item, meant) ← implRule grammar attributes
    if meant then pure (.other item) else verbatimItem start
  else if Lookahead.keyword "macro" tokens then
    let _ ← visibility
    let _ ← keyword "macro"
    let _ ← name
    let hasInputs ← looking (Lookahead.group .parenthesis)
    if hasInputs then
      let _ ← anyGroup
    if ← looking (Lookahead.group .brace) then
      let _ ← anyGroup
      verbatimItem start
    else wanting (if hasInputs then ["curly braces"] else ["parentheses", "curly braces"])
  else if inherited && macroItemAhead tokens then
    let parts ← macroItem true
    pure (simpleItem attributes parts)
  else
    let _ ← visibility
    wantingKeywords ["fn", "extern", "use", "static", "const", "unsafe", "mod", "type", "struct",
      "enum", "union", "trait", "auto", "impl", "default", "macro"] (namePieces inherited)

end Counterpart.Grammar
