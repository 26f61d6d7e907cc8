import Counterpart.Declaration.Generics

/-!
# Items

Structs, enums, unions and modules are understood down to their fields, since attributes on
those matter. All other items keep their code as trees; only their attributes are set apart,
because some of them are written inside the braces of the body.
-/

namespace Counterpart

/-- Where something may be used. -/
inductive VisibilityScope where
  | inherited
  | everywhere
  | within (path : MetaPath)
deriving Repr, Inhabited

/-- A visibility as it was written. -/
structure Visibility where
  scope : VisibilityScope
  trees : List Tree
deriving Repr, Inhabited

/-- A field with a name. -/
structure NamedField where
  attributes : List Attribute
  visibility : Visibility
  ident : Located Ident
  type : Tree
deriving Repr, Inhabited

/-- A field that is known by its position. -/
structure PositionalField where
  attributes : List Attribute
  visibility : Visibility
  type : Tree
deriving Repr, Inhabited

/-- The fields of a struct or of a variant. A list of fields tells whether a comma stands behind
the last one. -/
inductive Fields where
  | named (fields : List NamedField) (trailing : Bool)
  | positional (fields : List PositionalField) (trailing : Bool)
  | unit
deriving Repr, Inhabited

/-- A struct declaration. -/
structure StructItem where
  attributes : List Attribute
  visibility : Visibility
  ident : Located Ident
  generics : Generics
  fields : Fields
deriving Repr, Inhabited

/-- A variant of an enum. -/
structure Variant where
  attributes : List Attribute
  ident : Located Ident
  fields : Fields
  /-- The value of the variant with its equals sign, if it is given. -/
  discriminant : List Tree
deriving Repr, Inhabited

/-- An enum declaration. -/
structure EnumItem where
  attributes : List Attribute
  visibility : Visibility
  ident : Located Ident
  generics : Generics
  variants : List Variant
  trailing : Bool
deriving Repr, Inhabited

/-- A union declaration. -/
structure UnionItem where
  attributes : List Attribute
  visibility : Visibility
  ident : Located Ident
  generics : Generics
  fields : List NamedField
  trailing : Bool
deriving Repr, Inhabited

/-- Braces that end an item, with their content. -/
structure ItemBody where
  opening : Option Region
  closing : Option Region
  content : List Tree
  /-- Whether the content consists of statements. -/
  isBlock : Bool
deriving Repr, Inhabited

/-- Any other item that has attributes. -/
structure OtherItem where
  attributes : List Attribute
  /-- All up to the body. -/
  head : List Tree
  body : Option ItemBody
deriving Repr, Inhabited

/-- An item. -/
inductive Item where
  | record (item : StructItem)
  | enumeration (item : EnumItem)
  | unionType (item : UnionItem)
  /-- A module with its content. -/
  | inlineModule (attributes : List Attribute) (head : List Tree)
      (opening closing : Option Region) (content : List Item)
  /-- A module whose content is elsewhere. -/
  | outlineModule (attributes : List Attribute) (head : List Tree)
  | other (item : OtherItem)
  /-- Tokens that no other form covers; their attributes are not set apart. -/
  | verbatim (tokens : List TokenTree)
deriving Repr, Inhabited

/-- Pieces between generated commas. -/
def commaSeparated (trailing : Bool) : List (List Tree) → List Tree
  | [] => []
  | [last] => last ++ (if trailing then Tree.operator "," else [])
  | first :: rest => first ++ Tree.operator "," ++ commaSeparated trailing rest

namespace NamedField

/-- The field as it is declared. -/
def trees (field : NamedField) : List Tree :=
  Attribute.outer field.attributes ++ field.visibility.trees ++ [Tree.name field.ident]
    ++ Tree.operator ":" ++ [field.type]

end NamedField

namespace PositionalField

/-- The field as it is declared. -/
def trees (field : PositionalField) : List Tree :=
  Attribute.outer field.attributes ++ field.visibility.trees ++ [field.type]

end PositionalField

namespace Fields

/-- The group of the fields. -/
def trees : Fields → List Tree
  | .named fields trailing =>
    [Tree.generatedGroup .brace (commaSeparated trailing (fields.map (·.trees)))]
  | .positional fields trailing =>
    [Tree.generatedGroup .parenthesis (commaSeparated trailing (fields.map (·.trees)))]
  | .unit => []

end Fields

namespace StructItem

/-- The declaration; the `where` clause stands before named fields and behind positional ones. -/
def trees (item : StructItem) : List Tree :=
  let head := Attribute.outer item.attributes ++ item.visibility.trees
    ++ [Tree.word "struct", Tree.name item.ident] ++ item.generics.declared
  match item.fields with
  | .named _ _ => head ++ item.generics.clause ++ item.fields.trees
  | _ => head ++ item.fields.trees ++ item.generics.clause ++ Tree.operator ";"

/-- The tokens of the declaration. -/
def tokens (item : StructItem) : List TokenTree := Tree.tokensAll item.trees

end StructItem

namespace Variant

/-- The variant as it is declared. -/
def trees (variant : Variant) : List Tree :=
  Attribute.outer variant.attributes ++ [Tree.name variant.ident] ++ variant.fields.trees
    ++ variant.discriminant

end Variant

namespace EnumItem

/-- The declaration. -/
def trees (item : EnumItem) : List Tree :=
  Attribute.outer item.attributes ++ item.visibility.trees
    ++ [Tree.word "enum", Tree.name item.ident] ++ item.generics.declared ++ item.generics.clause
    ++ [Tree.generatedGroup .brace (commaSeparated item.trailing (item.variants.map (·.trees)))]

end EnumItem

namespace UnionItem

/-- The declaration. -/
def trees (item : UnionItem) : List Tree :=
  Attribute.outer item.attributes ++ item.visibility.trees
    ++ [Tree.word "union", Tree.name item.ident] ++ item.generics.declared ++ item.generics.clause
    ++ (Fields.named item.fields item.trailing).trees

end UnionItem

namespace OtherItem

/-- The item; its inner attributes stand at the start of its body. -/
def trees (item : OtherItem) : List Tree :=
  let body :=
    match item.body with
    | none => []
    | some body =>
      let braces := Tree.group .brace body.opening body.closing
        (Attribute.inner item.attributes ++ body.content)
      if body.isBlock then [.node .block [braces]] else [braces]
  Attribute.outer item.attributes ++ item.head ++ body

end OtherItem

namespace Item

mutual

/-- The item as trees. -/
def trees : Item → List Tree
  | .record item => item.trees
  | .enumeration item => item.trees
  | .unionType item => item.trees
  | .inlineModule attributes head opening closing content =>
    Attribute.outer attributes ++ head
      ++ [.group .brace opening closing (Attribute.inner attributes ++ treesAll content)]
  | .outlineModule attributes head => Attribute.outer attributes ++ head
  | .other item => item.trees
  | .verbatim tokens => Tree.opaqueTokens tokens

/-- Several items in a row. -/
def treesAll : List Item → List Tree
  | [] => []
  | item :: rest => .node .item (trees item) :: treesAll rest

end

/-- The item as one tree. -/
def tree (item : Item) : Tree := .node .item item.trees

/-- The tokens of the item. -/
def tokens (item : Item) : List TokenTree := Tree.tokensAll item.trees

/-- The region from the first to the last token. -/
def region (item : Item) : Option Region := TokenTree.regionAll item.tokens

/-- The attributes that are set apart. -/
def attributes : Item → List Attribute
  | .record item => item.attributes
  | .enumeration item => item.attributes
  | .unionType item => item.attributes
  | .inlineModule attributes _ _ _ _ => attributes
  | .outlineModule attributes _ => attributes
  | .other item => item.attributes
  | .verbatim _ => []

/-- Whether the item is a module. -/
def isModule : Item → Bool
  | .inlineModule _ _ _ _ _ => true
  | .outlineModule _ _ => true
  | _ => false

/-- The item with other attributes; verbatim tokens have none to replace. -/
def withAttributes (attributes : List Attribute) : Item → Item
  | .record item => .record { item with attributes }
  | .enumeration item => .enumeration { item with attributes }
  | .unionType item => .unionType { item with attributes }
  | .inlineModule _ head opening closing content =>
    .inlineModule attributes head opening closing content
  | .outlineModule _ head => .outlineModule attributes head
  | .other item => .other { item with attributes }
  | .verbatim tokens => .verbatim tokens

end Item

end Counterpart
