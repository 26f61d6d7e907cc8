import Counterpart.Declaration.Attribute

/-!
# Generic parameters

A parameter list is kept in the order of its source. Written as a part of a declaration it shows
lifetimes first; as a part of an `impl` header or of an applied type it keeps its order, and a
comma stands behind every parameter.
-/

namespace Counterpart

/-- What a generic parameter ranges over. -/
inductive GenericKind where
  | lifetime
  | type
  | const
deriving DecidableEq, Repr, Inhabited

/-- One generic parameter. -/
structure GenericParameter where
  kind : GenericKind
  attributes : List Attribute
  /-- The keyword in front of a constant parameter. -/
  keyword : List Tree
  /-- The name; a lifetime includes its mark. -/
  name : Tree
  /-- The colon, if there is one. -/
  colon : List Tree
  /-- The bounds of a lifetime or a type, or the type of a constant. -/
  bounds : List Tree
  /-- The default with its equals sign, if there is one. -/
  fallback : List Tree
deriving Repr, Inhabited

namespace GenericParameter

/-- The parameter as it is declared; a colon without bounds is left out. -/
def trees (parameter : GenericParameter) : List Tree :=
  let bounds := if parameter.bounds.isEmpty then [] else parameter.colon ++ parameter.bounds
  Attribute.outer parameter.attributes ++ parameter.keyword ++ [parameter.name] ++ bounds
    ++ parameter.fallback

/-- The parameter in an `impl` header: without a default, and without the attributes of types and
constants. The colon of a type stays. -/
def headerTrees (parameter : GenericParameter) : List Tree :=
  match parameter.kind with
  | .lifetime =>
    let bounds := if parameter.bounds.isEmpty then [] else parameter.colon ++ parameter.bounds
    Attribute.outer parameter.attributes ++ [parameter.name] ++ bounds
  | .type => parameter.name :: (parameter.colon ++ parameter.bounds)
  | .const => parameter.keyword ++ [parameter.name] ++ parameter.colon ++ parameter.bounds

end GenericParameter

/-- Generic parameters with their `where` clause. -/
structure Generics where
  parameters : List GenericParameter
  /-- Whether a comma stands behind the last parameter. -/
  trailing : Bool
  /-- The `where` clause; empty if it is absent or has no predicates. -/
  clause : List Tree
deriving Repr, Inhabited

namespace Generics

/-- No parameters. -/
def none : Generics := ⟨[], false, []⟩

/-- Every parameter with the mark whether a comma stands behind it. -/
def marked (trailing : Bool) : List GenericParameter → List (GenericParameter × Bool)
  | [] => []
  | [last] => [(last, trailing)]
  | first :: rest => (first, true) :: marked trailing rest

/-- A generated comma. -/
def comma : List Tree := Tree.operator ","

/-- Pieces, each followed by a comma if it is marked. -/
def commaMarked (pieces : List (List Tree × Bool)) : List Tree :=
  pieces.flatMap fun (piece, mark) => piece ++ (if mark then comma else [])

/-- The parameters between the angle brackets of a declaration, lifetimes first. A missing comma
between the lifetimes and the rest is added. -/
def declaredList (generics : Generics) : List Tree :=
  let all := (marked generics.trailing generics.parameters).zipIdx
  let (lifetimes, others) := all.partition fun ((parameter, _), _) => parameter.kind = .lifetime
  let write (part : List ((GenericParameter × Bool) × Nat)) : List Tree :=
    commaMarked (part.map fun ((parameter, mark), place) =>
      ([.node (.parameter place) parameter.trees], mark))
  let open? := lifetimes.getLast?.any fun ((_, mark), _) => !mark
  write lifetimes ++ (if open? && !others.isEmpty then comma else []) ++ write others

/-- The parameter list of a declaration; an empty one is not written. -/
def declared (generics : Generics) : List Tree :=
  if generics.parameters.isEmpty then []
  else [.node .parameters (Tree.operator "<" ++ generics.declaredList ++ Tree.operator ">")]

/-- The parameters in the order of their source, as a declaration that is read again has them. -/
def sourceList (generics : Generics) : List Tree :=
  commaMarked ((marked generics.trailing generics.parameters).map fun (parameter, mark) =>
    (parameter.trees, mark))

/-- The parameters of an `impl` header. -/
def headerList (generics : Generics) : List Tree :=
  generics.parameters.flatMap fun parameter => parameter.headerTrees ++ comma

/-- The arguments of an applied type: the names of the parameters. -/
def argumentList (generics : Generics) : List Tree :=
  generics.parameters.flatMap fun parameter => parameter.name :: comma

end Generics

end Counterpart
