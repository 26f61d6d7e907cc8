import Counterpart.Token.Basic

/-!
# Parsed code

A tree keeps every token of the code it was read from, so that writing it down again is reading
off its leaves. Inner nodes name the construct they stand for. Only constructs that some rule
treats in its own way have a kind of their own; all others are phrases. Code that is not
understood any further, such as the arguments of a macro call, stays a list of tokens.
-/

namespace Counterpart

/-- The forms of expressions. -/
inductive ExpressionKind where
  | array
  | assign
  | asyncBlock
  | await
  /-- Two operands around an operator, which may be a comparison. -/
  | binary (comparison : Bool)
  | block
  | breakJump
  | call
  | cast
  | closure
  | constBlock
  | continueJump
  | field
  | forLoop
  | ifElse
  | index
  | infer
  | letCondition
  | literal
  | loop
  | macroCall
  | matchArms
  | methodCall
  | paren
  | path
  | range
  | rawAddress
  | reference
  | repeatArray
  | returnJump
  | structLiteral
  | tryBlock
  | tryOperator
  | tuple
  | unary
  | unsafeBlock
  /-- Tokens that no other form covers. -/
  | verbatim
  | whileLoop
  | yieldJump
deriving DecidableEq, Repr, Inhabited

/-- The forms of patterns. A path, literal, range, constant block or macro call in a pattern has
the expression's form. -/
inductive PatternKind where
  /-- A name to be bound, with or without a pattern behind `@`. -/
  | binding
  | typed
  | reference
  | tuple
  | record
  /-- Tokens that no other form covers. -/
  | verbatim
  | other
deriving DecidableEq, Repr, Inhabited

/-- The constructs of the grammar, as far as they are told apart. -/
inductive Kind where
  | expression (kind : ExpressionKind)
  /-- A path used as a type. -/
  | typePath
  /-- A type of another form. -/
  | type
  | pattern (kind : PatternKind)
  /-- Segments between double colons. -/
  | path
  /-- A path that starts at a type in angle brackets. -/
  | qualifiedPath
  /-- One word of a path with its arguments. -/
  | segment
  | attribute
  | lifetime
  /-- The generic parameters of a declaration, in angle brackets. -/
  | parameters
  /-- A generic parameter and its place in the source, where lifetimes may stand anywhere. -/
  | parameter (place : Nat)
  /-- The conditions on generic parameters. -/
  | whereClause
  /-- A macro's path, its exclamation mark and its arguments. -/
  | macroCall
  /-- Statements between braces. -/
  | block
  /-- A `let` statement. -/
  | binding
  /-- The pattern of a `let` statement. -/
  | target
  /-- What a `let` statement binds, with its `else` branch. -/
  | initializer
  | statement
  | item
  /-- Any other construct. -/
  | phrase
deriving DecidableEq, Repr, Inhabited

/-- Code as the grammar sees it. -/
inductive Tree where
  /-- A single token, or a group that is not looked into. -/
  | leaf (token : TokenTree)
  /-- A group whose content was understood. -/
  | group (delimiter : Delimiter) (opening closing : Option Region) (content : List Tree)
  /-- A construct and its parts in the order in which they are written. -/
  | node (kind : Kind) (parts : List Tree)
deriving Repr, Inhabited

namespace Tree

mutual

/-- The tokens of a tree. -/
def tokens : Tree → List TokenTree
  | .leaf token => [token]
  | .group delimiter opening closing content =>
    [.group delimiter opening closing (tokensAll content)]
  | .node _ parts => tokensAll parts

/-- The tokens of several trees in a row. -/
def tokensAll : List Tree → List TokenTree
  | [] => []
  | tree :: rest => tokens tree ++ tokensAll rest

end

@[simp] theorem tokensAll_nil : tokensAll [] = [] := by simp [tokensAll]

@[simp] theorem tokensAll_cons (tree : Tree) (rest : List Tree) :
    tokensAll (tree :: rest) = tokens tree ++ tokensAll rest := by simp [tokensAll]

@[simp] theorem tokensAll_append (first second : List Tree) :
    tokensAll (first ++ second) = tokensAll first ++ tokensAll second := by
  induction first with
  | nil => simp
  | cons tree rest ih => simp [ih]

/-- The region from the first to the last token. -/
def region (tree : Tree) : Option Region := TokenTree.regionAll tree.tokens

/-- The region from the first to the last token of several trees. -/
def regionAll (trees : List Tree) : Option Region := TokenTree.regionAll (tokensAll trees)

/-- Tokens that are not looked into. -/
def opaqueTokens (tokens : List TokenTree) : List Tree := tokens.map .leaf

/-- Reading off tokens that were not looked into gives them back. -/
@[simp] theorem tokensAll_opaqueTokens (tokens : List TokenTree) :
    tokensAll (opaqueTokens tokens) = tokens := by
  induction tokens with
  | nil => rfl
  | cons token rest ih => simpa [opaqueTokens, Tree.tokens] using ih

/-- Whether the tree is a node of the given kind. -/
def isKind (tree : Tree) (wanted : Kind) : Bool :=
  match tree with
  | .node kind _ => kind == wanted
  | _ => false

/-- The form of an expression. -/
def expressionKind? : Tree → Option ExpressionKind
  | .node (.expression kind) _ => some kind
  | _ => none

/-- Write further parts in front of a construct. -/
def prepend (parts : List Tree) : Tree → Tree
  | .node kind own => .node kind (parts ++ own)
  | tree => tree

/-- Whether the tree is an attribute inside of what it belongs to. -/
def isInnerAttribute : Tree → Bool
  | .node .attribute (_ :: .leaf (.punct '!' _ _) :: _) => true
  | _ => false

/-- A generated word. -/
def word (word : String) : Tree := .leaf (wordToken word)

/-- A name as a leaf. -/
def name (name : Located Ident) : Tree := .leaf (.word name.value name.region)

/-- A generated operator. -/
def operator (characters : String) : List Tree :=
  opaqueTokens (operatorTokens characters.toList)

/-- A generated group. -/
def generatedGroup (delimiter : Delimiter) (content : List Tree) : Tree :=
  .group delimiter none none content

/-- A construct behind further attributes. A range is put in parentheses, since the attributes
would be taken for those of its start, and code that is not understood any further keeps none. -/
def attributed (attributes : List Tree) : Tree → Tree
  | .node (.expression .verbatim) own => .node (.expression .verbatim) own
  | .node (.pattern .verbatim) own => .node (.pattern .verbatim) own
  | .node (.expression .range) own =>
    if attributes.isEmpty then .node (.expression .range) own
    else .node (.expression .range) (attributes ++ [generatedGroup .parenthesis own])
  | .node kind own => .node kind (attributes ++ own)
  | tree => tree

/-- The only word of a path without arguments. -/
def pathIdent? : Tree → Option (Located Ident)
  | .node .path [.node .segment [.leaf (.word ident region)]] => some ⟨ident, region⟩
  | _ => none

/-- The path that consists of one word. -/
def pathOfName (ident : Located Ident) : Tree := .node .path [.node .segment [name ident]]

end Tree

end Counterpart
