import Counterpart.Host.Parameter
import Counterpart.Text.Capture

/-!
# References of defaults to parameters

The default of a parameter sees the values of the parameters before it, and only those. The words
of an expression that may refer to a parameter are listed in order, each with the information
whether a closure or a `let` inside the expression binds it. The arguments of a macro call are not
in the grammar, so the neighbours of a word decide there whether it may be a reference, and format
texts are searched for the names that they capture.
-/

namespace Counterpart

/-- A word that may refer to a parameter. -/
structure Occurrence where
  ident : Ident
  region : Option Region
  /-- Whether the expression itself binds the word. -/
  isBound : Bool
deriving DecidableEq, Repr, Inhabited

namespace Occurrence

/-- A word in the scope of the given local names. -/
def within (bound : List Ident) (ident : Ident) (region : Option Region) : Occurrence :=
  ⟨ident, region, bound.contains ident⟩

/-! ## Bindings -/

/-- The word that a binding pattern binds: the first that is not a keyword of the pattern. -/
def boundName? : List Tree → Option Ident
  | [] => none
  | .leaf (.word ident _) :: rest =>
    if ident.isWord "ref" || ident.isWord "mut" then boundName? rest else some ident
  | _ :: rest => boundName? rest

mutual

/-- The names that a pattern binds, as far as it is a name, or is made from such patterns by a
type, a reference or a tuple. -/
def bindings : Tree → List Ident
  | .node (.pattern .binding) parts => (boundName? parts).toList
  | .node (.pattern .typed) parts => bindingsAll parts
  | .node (.pattern .reference) parts => bindingsAll parts
  | .node (.pattern .tuple) parts => bindingsInGroups parts
  | _ => []

/-- The names that several patterns bind. -/
def bindingsAll : List Tree → List Ident
  | [] => []
  | tree :: rest => bindings tree ++ bindingsAll rest

/-- The names that the patterns in groups bind. -/
def bindingsInGroups : List Tree → List Ident
  | [] => []
  | .group _ _ _ content :: rest => bindingsAll content ++ bindingsInGroups rest
  | _ :: rest => bindingsInGroups rest

end

/-! ## Arguments of macro calls -/

/-- Whether a word in front of these tokens is a label: a lone colon or equals sign follows. -/
def isLabel : List TokenTree → Bool
  | .punct character joint _ :: _ => (character == ':' || character == '=') && !joint
  | _ => false

/-- The labels among the tokens. -/
def labels : List TokenTree → List Ident
  | [] => []
  | .word ident _ :: rest => if isLabel rest then ident :: labels rest else labels rest
  | _ :: rest => labels rest

/-- The names that a literal captures if it is a format text. -/
def captured (text : String) : List Ident :=
  if Literal.kind text = .string then
    (((Literal.stringValue? text).map Text.captures).getD []).map .plain
  else []

/-- Whether a punctuation character makes the next word a field or a segment of a path. `before`
is the character in front of it, if that one is joint. -/
def leadsName (before : Option Char) (character : Char) : Bool :=
  if character = '.' then before ≠ some '.'
  else if character = ':' then before = some ':'
  else false

/-- The words among tokens that may be references. `before` is the punctuation character in front
of the tokens, if it is joint, and `isName` tells whether a first word would be a field or a
segment of a path. -/
def inTokens (bound named : List Ident) (before : Option Char) (isName : Bool) :
    List TokenTree → List Occurrence
  | [] => []
  | .word ident region :: rest =>
    let own := if isName || isLabel rest then [] else [within bound ident region]
    own ++ inTokens bound named none false rest
  | .punct character joint _ :: rest =>
    inTokens bound named (if joint then some character else none) (leadsName before character) rest
  | .literal text region :: rest =>
    let own := (captured text).filter (!named.contains ·)
    own.map (within bound · region) ++ inTokens bound named none false rest
  | .group _ _ _ content :: rest =>
    inTokens bound (labels content) none false content ++ inTokens bound named none false rest

/-- The references in the arguments of a macro call. -/
def inArguments (bound : List Ident) : List Tree → List Occurrence
  | [] => []
  | .leaf (.group _ _ _ content) :: rest =>
    inTokens bound (labels content) none false content ++ inArguments bound rest
  | _ :: rest => inArguments bound rest

/-! ## Expressions -/

/-- The reference that a path is, if it is a single word. -/
def ofPath (bound : List Ident) (parts : List Tree) : List Occurrence :=
  parts.filterMap fun part => part.pathIdent?.map fun ident => within bound ident.value ident.region

/-- When a part of a construct is looked at. Attributes come first, those inside of the body
included, then the generic parameters and the conditions on them, which may be written far
behind. -/
inductive Turn where
  | attributes
  | generics
  | content
deriving DecidableEq

/-- When a tree is looked at as a part of a construct. -/
def turn (part : Tree) : Turn :=
  if part.isKind .attribute then .attributes
  else if part.isKind .parameters || part.isKind .whereClause then .generics
  else .content

/-- The references in generic parameters, in the order of the parameters in the source. -/
def inSourceOrder (parameters : List (Nat × List Occurrence)) : List Occurrence :=
  (parameters.mergeSort fun first second => first.1 ≤ second.1).flatMap (·.2)

mutual

/-- The references in a tree, in the scope of the given local names. The arguments of a closure
are in scope in all of it. -/
def inTree (bound : List Ident) : Tree → List Occurrence
  | .leaf _ => []
  | .group _ _ _ content => inTrees bound content
  | .node (.expression .path) parts => ofPath bound parts ++ inTrees bound parts
  | .node (.expression .closure) parts => inTrees (bindingsAll parts ++ bound) parts
  | .node .block parts => inBlock bound parts
  | .node .macroCall parts => inArguments bound parts
  | .node .parameters parts => inSourceOrder (inParameters bound parts)
  | .node _ parts =>
    inTurn bound .attributes parts ++ inBodyAttributes bound parts
      ++ inTurn bound .generics parts ++ inTurn bound .content parts

/-- The references in several trees that share a scope. The attributes inside of a body are not
among them, since they are those of the construct around it. -/
def inTrees (bound : List Ident) : List Tree → List Occurrence
  | [] => []
  | tree :: rest =>
    (if tree.isInnerAttribute then [] else inTree bound tree) ++ inTrees bound rest

/-- The references in the parts of a construct that are looked at together. -/
def inTurn (bound : List Ident) (wanted : Turn) : List Tree → List Occurrence
  | [] => []
  | tree :: rest =>
    (if turn tree = wanted then inTree bound tree else []) ++ inTurn bound wanted rest

/-- The references in the attributes inside of the body among the parts of a construct. -/
def inBodyAttributes (bound : List Ident) : List Tree → List Occurrence
  | [] => []
  | .group _ _ _ content :: rest => inInner bound content ++ inBodyAttributes bound rest
  | .node .block parts :: rest => inBodyAttributes bound parts ++ inBodyAttributes bound rest
  | _ :: rest => inBodyAttributes bound rest

/-- The references in the inner attributes among several trees. -/
def inInner (bound : List Ident) : List Tree → List Occurrence
  | [] => []
  | tree :: rest =>
    (if tree.isInnerAttribute then inTree bound tree else []) ++ inInner bound rest

/-- The references in generic parameters, each with its place in the source. -/
def inParameters (bound : List Ident) : List Tree → List (Nat × List Occurrence)
  | [] => []
  | .node (.parameter place) parts :: rest =>
    (place, inTurn bound .attributes parts ++ inTurn bound .content parts)
      :: inParameters bound rest
  | _ :: rest => inParameters bound rest

/-- The references in a block. -/
def inBlock (bound : List Ident) : List Tree → List Occurrence
  | [] => []
  | .group _ _ _ content :: rest => inStatements bound content ++ inBlock bound rest
  | _ :: rest => inBlock bound rest

/-- The references in statements. What a `let` binds is in scope behind it, but not in its own
initializer. -/
def inStatements (bound : List Ident) : List Tree → List Occurrence
  | [] => []
  | .node .binding parts :: rest =>
    inInitializer bound parts ++ inStatements (targets parts ++ bound) rest
  | tree :: rest =>
    (if tree.isInnerAttribute then [] else inTree bound tree) ++ inStatements bound rest

/-- The references in what a `let` binds. -/
def inInitializer (bound : List Ident) : List Tree → List Occurrence
  | [] => []
  | .node .initializer parts :: rest => inTrees bound parts ++ inInitializer bound rest
  | _ :: rest => inInitializer bound rest

/-- The names that a `let` binds. -/
def targets : List Tree → List Ident
  | [] => []
  | .node .target parts :: rest => bindingsAll parts ++ targets rest
  | _ :: rest => targets rest

end

/-- The references in an expression. -/
def ofExpression (expression : Tree) : List Occurrence := inTree [] expression

end Occurrence

namespace Parameter

/-- What is wrong with a reference in the default of a parameter: it is to `self`, or the first
parameter of that name is not an earlier one. -/
def judge (parameters : List Parameter) (current : Parameter) (occurrence : Occurrence) :
    Option Diagnostic :=
  if occurrence.ident.isWord "self" then some ⟨.refersToReceiver, occurrence.region⟩
  else if occurrence.isBound then none
  else
    match parameters.find? fun parameter => parameter.name.value = occurrence.ident with
    | none => none
    | some referenced =>
      if referenced.index = current.index then
        some ⟨.refersToItself current.name.value.text, occurrence.region⟩
      else if current.index < referenced.index then
        some ⟨.refersAhead current.name.value.text occurrence.ident.text, occurrence.region⟩
      else none

/-- What is wrong with the references in the default of a parameter. -/
def referenceDiagnosticsOf (parameters : List Parameter) (current : Parameter) :
    List Diagnostic :=
  match current.fallback with
  | none => []
  | some fallback => (Occurrence.ofExpression fallback).filterMap (judge parameters current)

/-- What is wrong with the references in the defaults of parameters. -/
def referenceDiagnostics (parameters : List Parameter) : List Diagnostic :=
  parameters.flatMap (referenceDiagnosticsOf parameters)

end Parameter

end Counterpart
