import Counterpart.Member.Body
import Counterpart.Member.Table

/-!
# From members to bodies

The body of a member follows from its kind. A body that calls other members looks them up in the
table, by kind, and takes their names from there. A table that lacks what is looked up was not
made for the host.
-/

namespace Counterpart

namespace MemberKind

/-- How a kind is called in messages. -/
def shown : MemberKind → String
  | counterpart => "MutableType"
  | constructor => "MutableConstructor"
  | property index accessor =>
    let accessorName :=
      match accessor with
      | .get => "Get"
      | .getMut => "GetMut"
      | .set => "Set"
    "MutableProperty \x7b index: " ++ toString index ++ ", accessor: " ++ accessorName ++ " \x7d"
  | build => "BuildFunction"
  | intoCounterpart => "ToMutableFunction"
  | copy => "CopyFunction"
  | factory => "DslFactoryFunction"

end MemberKind

namespace Body

/-- The names of the generated bodies. -/
def vocabulary : Vocabulary :=
  ⟨Naming.varianceMarker, Naming.counterpartLocal, Naming.copyArgument, Naming.factoryArgument⟩

end Body

namespace Host

/-- Fail because a table was not made for the host. -/
def inconsistent {α : Type} (host : Host) (detail : String) : Generated α :=
  .error (.rejected [⟨.inconsistent detail, host.naming.host.region⟩])

/-- The member of a kind in a table. -/
def lookup (host : Host) (members : List Member) (kind : MemberKind) : Generated Member :=
  match Member.find? members kind with
  | some member => .ok member
  | none => host.inconsistent ("missing member " ++ kind.shown)

/-- A value under the conditions of a parameter. -/
def gated {α : Type} (parameter : Parameter) (value : α) : Gated α := ⟨parameter.conditions, value⟩

/-- Whether every parameter has a name; a lone underscore is none. -/
def hasNames (host : Host) : Bool := host.parameters.all (·.name.value.isName)

/-- Whether an expression is in the grammar as the arm of a match: there, code that begins with
a block ends behind it. -/
def admitsArm (expression : Tree) : Bool :=
  match Grammar.read (fun grammar => grammar.tree .early) expression.tokens with
  | .ok _ => true
  | .error _ => false

/-- What becomes of a parameter that was never set. -/
def fallbackOf (host : Host) (parameter : Parameter) : Fallback :=
  match parameter.fallback with
  | some expression => .value (host.substitution.inTree expression)
  | none => .missing (Naming.displayName parameter.name.value)

/-- Whether a fallback is in the grammar where it stands. -/
def admitsFallback : Fallback → Bool
  | .value expression => admitsArm expression
  | .missing _ => true

/-- The cells of the counterpart. -/
def cells (host : Host) : List (Gated Ident) :=
  host.parameters.map fun parameter => gated parameter (Naming.backingField parameter.name.value)

/-- The call of the constructor of the counterpart. -/
def constructorCall (host : Host) (members : List Member) : Generated ConstructorCall := do
  let counterpart ← host.lookup members .counterpart
  match counterpart.signature.type? with
  | none => host.inconsistent "the mutable type is not a type"
  | some item =>
    let constructor ← host.lookup members .constructor
    pure ⟨item.generics.appliedType item.ident, constructor.name⟩

/-- The body of an accessor. -/
def accessorBody (parameter : Parameter) (accessor : Accessor) : Body :=
  let cell := Naming.backingField parameter.name.value
  let shown := Naming.displayName parameter.name.value
  match accessor with
  | .get => .read cell shown
  | .getMut => .lend cell shown
  | .set => .write cell

/-- How a parameter is resolved. -/
def resolution (host : Host) (parameter : Parameter) : Gated Resolution :=
  gated parameter
    { binding := parameter.name.value
      type := host.outerType parameter
      cell := Naming.backingField parameter.name.value
      fallback := host.fallbackOf parameter }

/-- The body of the build function. -/
def buildBody (host : Host) : Body :=
  .resolve (host.parameters.map host.resolution) host.naming.host.value
    (host.parameters.map fun parameter => gated parameter parameter.name.value)

/-- The call of the setter of a parameter. -/
def transferOf (host : Host) (members : List Member) (parameter : Parameter) :
    Generated (Gated Transfer) := do
  let setter ← host.lookup members (.property parameter.index .set)
  pure (gated parameter ⟨setter.name, parameter.name.value⟩)

/-- The body of a member. -/
def body (host : Host) (members : List Member) (member : Member) : Generated Body :=
  match member.kind with
  | .counterpart => host.inconsistent "the mutable type has no body"
  | .constructor => do
    provided host.hasNames
    pure (.construct host.cells)
  | .property index accessor =>
    match host.parameters[index]? with
    | none => host.inconsistent "property without a parameter"
    | some parameter => do
      provided parameter.name.value.isName
      pure (accessorBody parameter accessor)
  | .build => do
    provided (host.hasNames
      && host.parameters.all fun parameter => admitsFallback (host.fallbackOf parameter))
    pure host.buildBody
  | .intoCounterpart => do
    let start ← host.constructorCall members
    let steps ← host.parameters.mapM (host.transferOf members)
    provided host.hasNames
    pure (.transfer start steps)
  | .copy => do
    let intoCounterpart ← host.lookup members .intoCounterpart
    let build ← host.lookup members .build
    pure (.copy intoCounterpart.name build.name)
  | .factory => do
    let start ← host.constructorCall members
    let build ← host.lookup members .build
    pure (.create start build.name)

end Host

end Counterpart
