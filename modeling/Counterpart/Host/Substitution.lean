import Counterpart.Declaration.Item

/-!
# Code that leaves the scope of its host

Inside of a host, `Self` is the host. Code of the host that is moved to its counterpart names the
host in full instead: by its applied type where a type stands, by its bare name where a value or
a constructor stands. Items inside of the code have a `Self` of their own and stay as they are.
-/

namespace Counterpart

/-- The type of a declaration with its own parameters as arguments, lifetimes first. -/
def Generics.appliedType (name : Located Ident) (generics : Generics) : Tree :=
  let (lifetimes, others) :=
    generics.parameters.partition fun parameter => parameter.kind = .lifetime
  let arguments := (lifetimes ++ others).flatMap fun parameter => parameter.name :: Generics.comma
  let list := Tree.node .phrase (Tree.operator "<" ++ arguments ++ Tree.operator ">")
  .node .typePath [.node .path [.node .segment [Tree.name name, list]]]

/-- What stands for `Self` outside of the host. -/
structure Substitution where
  hostName : Located Ident
  hostType : Tree
deriving Repr, Inhabited

namespace Substitution

/-- The substitution for the host that a struct is. -/
def ofHost (item : StructItem) : Substitution :=
  ⟨item.ident, item.generics.appliedType item.ident⟩

/-- The word that is replaced. -/
def selfWord : String := "Self"

/-! ## Arguments of macro calls -/

/-- The host's type in angle brackets. -/
def bracketedTokens (substitution : Substitution) : List TokenTree :=
  operatorTokens ['<'] ++ substitution.hostType.tokens ++ operatorTokens ['>']

/-- Tokens with `Self` replaced: by the type in angle brackets before a colon, else by the name. -/
def inTokens (substitution : Substitution) : List TokenTree → List TokenTree
  | [] => []
  | .word ident region :: rest =>
    let own :=
      if !ident.isWord selfWord then [.word ident region]
      else if rest.head?.any (·.isPunct ':') then substitution.bracketedTokens
      else [.word substitution.hostName.value substitution.hostName.region]
    own ++ inTokens substitution rest
  | .group delimiter opening closing content :: rest =>
    .group delimiter opening closing (inTokens substitution content) :: inTokens substitution rest
  | token :: rest => token :: inTokens substitution rest

/-- The parts of a macro call with `Self` replaced in its arguments. -/
def inCall (substitution : Substitution) (parts : List Tree) : List Tree :=
  parts.map fun
    | .leaf (.group delimiter opening closing content) =>
      .leaf (.group delimiter opening closing (inTokens substitution content))
    | part => part

/-! ## Paths -/

/-- What stands behind `Self` in a path that starts with it: nothing, or segments behind their
double colons. -/
def behindSelf? : Tree → Option (List Tree)
  | .node .path (.node .segment (.leaf (.word ident _) :: _) :: rest) =>
    if ident.isWord selfWord then some rest else none
  | _ => none

/-- The path that goes on from the host's type. -/
def qualified (substitution : Substitution) (rest : List Tree) : Tree :=
  .node .qualifiedPath
    (Tree.operator "<" ++ [substitution.hostType] ++ Tree.operator ">" ++ rest)

/-- The path of a struct expression or pattern with a plain `Self` replaced. -/
def inRecordPath (substitution : Substitution) (part : Tree) : Tree :=
  match part.pathIdent? with
  | some ident =>
    if ident.value.isWord selfWord then Tree.pathOfName substitution.hostName else part
  | none => part

/-- What is left of `Self` in the parts of a path expression. -/
def selfPath? (parts : List Tree) : Option (List Tree) := parts.findSome? behindSelf?

/-! ## Trees -/

mutual

/-- The tree with `Self` replaced. A path expression that goes on behind `Self` loses its
attributes. -/
def inTree (substitution : Substitution) : Tree → Tree
  | .leaf token => .leaf token
  | .group delimiter opening closing content =>
    .group delimiter opening closing (inTrees substitution content)
  | .node .item parts => .node .item parts
  | .node .macroCall parts => .node .macroCall (inCall substitution parts)
  | .node .typePath parts =>
    match selfPath? parts with
    | some [] => substitution.hostType
    | some (_ :: _) => .node .typePath [substitution.qualified (restOfPath substitution parts)]
    | none => .node .typePath (inTrees substitution parts)
  | .node (.expression .path) parts =>
    match selfPath? parts with
    | some [] =>
      .node (.expression .path) (replacePath substitution parts)
    | some (_ :: _) =>
      .node (.expression .path) [substitution.qualified (restOfPath substitution parts)]
    | none => .node (.expression .path) (inTrees substitution parts)
  | .node (.expression .structLiteral) parts =>
    .node (.expression .structLiteral)
      ((inTrees substitution parts).map substitution.inRecordPath)
  | .node (.pattern .record) parts =>
    .node (.pattern .record) ((inTrees substitution parts).map substitution.inRecordPath)
  | .node kind parts => .node kind (inTrees substitution parts)

/-- Several trees with `Self` replaced. -/
def inTrees (substitution : Substitution) : List Tree → List Tree
  | [] => []
  | tree :: rest => inTree substitution tree :: inTrees substitution rest

/-- The parts of a path expression with the path replaced by the host's name. -/
def replacePath (substitution : Substitution) : List Tree → List Tree
  | [] => []
  | .node .path _ :: rest =>
    Tree.pathOfName substitution.hostName :: replacePath substitution rest
  | tree :: rest => inTree substitution tree :: replacePath substitution rest

/-- What goes on behind `Self` in the path among the parts, with `Self` replaced in it. -/
def restOfPath (substitution : Substitution) : List Tree → List Tree
  | [] => []
  | .node .path (_ :: rest) :: _ => inTrees substitution rest
  | _ :: rest => restOfPath substitution rest

end

/-! ## Generic parameters -/

/-- An attribute with `Self` replaced in its value. -/
def inAttribute (substitution : Substitution) (attr : Attribute) : Attribute :=
  match attr.content.arguments with
  | .value equals value =>
    let arguments := MetaArguments.value equals (substitution.inTree value)
    { attr with content := { attr.content with arguments } }
  | _ => attr

/-- A generic parameter with `Self` replaced. -/
def inParameter (substitution : Substitution) (parameter : GenericParameter) : GenericParameter :=
  { parameter with
    attributes := parameter.attributes.map substitution.inAttribute
    bounds := substitution.inTrees parameter.bounds
    fallback := substitution.inTrees parameter.fallback }

/-- Generic parameters and their clause with `Self` replaced. -/
def inGenerics (substitution : Substitution) (generics : Generics) : Generics :=
  { generics with
    parameters := generics.parameters.map substitution.inParameter
    clause := substitution.inTrees generics.clause }

end Substitution

end Counterpart
