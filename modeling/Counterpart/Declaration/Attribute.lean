import Counterpart.Tree.Basic

/-!
# Attributes

An attribute is a path with no arguments, with arguments in brackets that are kept as tokens,
or with a value that is an expression.
-/

namespace Counterpart

/-- The path of an attribute: words between double colons, without arguments of their own. -/
structure MetaPath where
  /-- The double colon in front, if there is one. -/
  root : List Tree
  segments : List (Located Ident)
deriving Repr, Inhabited

namespace MetaPath

/-- Whether the path is the single given word. -/
def isWord (path : MetaPath) (word : String) : Bool :=
  path.root.isEmpty &&
    match path.segments with
    | [segment] => segment.value.isWord word
    | _ => false

/-- The words of the path between double colons; a double colon in front is left out. -/
def text (path : MetaPath) : String :=
  "::".intercalate (path.segments.map (·.value.text))

/-- The segments after the first, each behind its double colon. -/
def laterParts : List (Located Ident) → List Tree
  | [] => []
  | segment :: rest =>
    Tree.operator "::" ++ [.node .segment [Tree.name segment]] ++ laterParts rest

/-- The path as a tree. -/
def tree (path : MetaPath) : Tree :=
  match path.segments with
  | [] => .node .path path.root
  | first :: rest =>
    .node .path (path.root ++ [.node .segment [Tree.name first]] ++ laterParts rest)

end MetaPath

/-- What stands behind the path of an attribute. -/
inductive MetaArguments where
  | word
  | list (delimiter : Delimiter) (opening closing : Option Region) (content : List TokenTree)
  | value (equals : List Tree) (value : Tree)
deriving Repr, Inhabited

/-- The content of an attribute, or one item of a list of such. -/
structure MetaItem where
  path : MetaPath
  arguments : MetaArguments
deriving Repr, Inhabited

namespace MetaItem

/-- The item as trees. -/
def trees (item : MetaItem) : List Tree :=
  match item.arguments with
  | .word => [item.path.tree]
  | .list delimiter opening closing content =>
    [item.path.tree, .leaf (.group delimiter opening closing content)]
  | .value equals value => item.path.tree :: (equals ++ [value])

/-- The region from the first to the last token. -/
def region (item : MetaItem) : Option Region := Tree.regionAll item.trees

end MetaItem

/-- An attribute of an item, a field, an expression and so on. An inner one stands inside of what
it belongs to. -/
structure Attribute where
  isInner : Bool
  /-- The number sign, and the exclamation mark of an inner attribute. -/
  lead : List Tree
  opening : Option Region
  closing : Option Region
  content : MetaItem
deriving Repr, Inhabited

namespace Attribute

/-- The path that names the attribute. -/
def path (attr : Attribute) : MetaPath := attr.content.path

/-- The attribute as a tree. -/
def tree (attr : Attribute) : Tree :=
  .node .attribute
    (attr.lead ++ [.group .bracket attr.opening attr.closing attr.content.trees])

/-- The tokens of the attribute. -/
def tokens (attr : Attribute) : List TokenTree := attr.tree.tokens

/-- A generated attribute around the given content. -/
def generated (content : MetaItem) : Attribute :=
  ⟨false, Tree.operator "#", none, none, content⟩

/-- The generated attribute that is a single word. -/
def ofWord (word : String) : Attribute :=
  generated ⟨⟨[], [.generated (.plain word)]⟩, .word⟩

/-- The generated attribute that gives a word a text. -/
def ofText (word literal : String) : Attribute :=
  generated ⟨⟨[], [.generated (.plain word)]⟩,
    .value (Tree.operator "=") (.node (.expression .literal) [.leaf (.literal literal none)])⟩

/-- The attributes that are written in front of what they belong to. -/
def outer (attributes : List Attribute) : List Tree :=
  (attributes.filter (!·.isInner)).map tree

/-- The attributes that are written inside of what they belong to. -/
def inner (attributes : List Attribute) : List Tree :=
  (attributes.filter (·.isInner)).map tree

end Attribute

end Counterpart
