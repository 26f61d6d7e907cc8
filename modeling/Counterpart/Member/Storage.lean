import Counterpart.Member.Basic

/-!
# What a counterpart holds

The counterpart of a host has one cell for every parameter. A further field of a type without
values ties it to the generic parameters of the host: it takes and returns every one of them, so
that the counterpart cannot stand in for one with other arguments.
-/

namespace Counterpart

open Template

namespace Generics

/-- A function type that takes and returns what a parameter ranges over; constants have none. -/
def invariantUse (parameter : GenericParameter) : List TokenTree :=
  match parameter.kind with
  | .lifetime =>
    let borrow := mark "&" ++ parameter.name.tokens ++ parentheses []
    word "fn" ++ parentheses borrow ++ mark "->" ++ borrow ++ mark ","
  | .type =>
    word "fn" ++ parentheses parameter.name.tokens ++ mark "->" ++ parameter.name.tokens ++ mark ","
  | .const => []

/-- The type that uses all lifetimes and types among the parameters, and has no content. -/
def varianceType (generics : Generics) : List TokenTree :=
  phantomPath ++ angles (parentheses (generics.parameters.flatMap invariantUse))

/-- The parameters as they are read again from a declaration: a colon without bounds is gone. -/
def settled (generics : Generics) : Generics :=
  { generics with
    parameters := generics.parameters.map fun parameter =>
      if parameter.bounds.isEmpty then { parameter with colon := [] } else parameter }

end Generics

namespace Host

/-- A type of the host outside of its scope. -/
def outerType (host : Host) (parameter : Parameter) : Tree :=
  host.substitution.inTree parameter.type

/-- The type of the cell that holds values of a type. -/
def cellType (type : Tree) : Tree :=
  .node .typePath
    (Tree.opaqueTokens (cellPath ++ mark "<") ++ [type] ++ Tree.opaqueTokens (mark ">"))

/-- The field of the counterpart that holds a property. -/
def cellField (host : Host) (parameter : Parameter) : NamedField :=
  { attributes := parameter.conditions
    visibility := ⟨.inherited, []⟩
    ident := ⟨Naming.backingField parameter.name.value, none⟩
    type := cellType (host.outerType parameter) }

/-- The field of the counterpart that ties it to the generic parameters. -/
def varianceField (host : Host) : NamedField :=
  { attributes := []
    visibility := ⟨.inherited, []⟩
    ident := ⟨Naming.varianceMarker, none⟩
    type := .node .typePath (Tree.opaqueTokens host.item.generics.varianceType) }

/-- The declaration of the counterpart. -/
def counterpart (host : Host) : StructItem :=
  { attributes := []
    visibility := host.item.visibility
    ident := host.naming.counterpart
    generics := (host.substitution.inGenerics host.item.generics).settled
    fields := .named (host.parameters.map host.cellField ++ [host.varianceField]) true }

/-- The type of the counterpart, applied to its parameters. -/
def counterpartType (host : Host) : Tree :=
  host.counterpart.generics.appliedType host.counterpart.ident

end Host

end Counterpart
