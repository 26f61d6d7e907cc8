import Counterpart.Grammar.Reading
import Counterpart.Member.Storage
import Counterpart.Text.Quoted

/-!
# The table of members

The table begins with the counterpart and its constructor. The accessors of the parameters follow
in the order of declaration, then the functions between the two types.
-/

namespace Counterpart

namespace Attribute

/-- A line of documentation. -/
def documentation (line : String) : Attribute := ofText "doc" (Text.stringLiteral line)

/-- Several lines of documentation. -/
def documentationLines (lines : List String) : List Attribute := lines.map documentation

/-- The attribute of functions that are worth being expanded in place. -/
def inlined : Attribute := ofWord "inline"

end Attribute

namespace Host

open Attribute

/-- The name of the host in documentation. -/
def shownName (host : Host) : String := host.naming.host.value.text

/-- The name of the counterpart in documentation. -/
def shownCounterpart (host : Host) : String := host.naming.counterpart.value.text

/-- Whether a template that borrows a type is in the grammar: a borrowed type must be a single
type, which a sum without parentheses is not. -/
def admitsBorrow (type : Tree) : Bool :=
  match Grammar.read Grammar.type (Template.mark "&" ++ type.tokens) with
  | .ok _ => true
  | .error _ => false

/-- Go on only if a condition on a template holds. -/
def provided (condition : Bool) : Generated Unit :=
  if condition then .ok () else .error .brokenTemplate

/-- The counterpart. -/
def counterpartMember (host : Host) : Member :=
  let name := host.shownName
  let counterpart := host.shownCounterpart
  { kind := .counterpart
    attributes :=
      documentationLines
        ["A mutable counterpart of [`" ++ name ++ "`].", "",
         "Created by [`" ++ counterpart ++ "::new`] or [`" ++ name ++ "::"
           ++ host.naming.intoCounterpart.text ++ "`], and turned back into a [`" ++ name
           ++ "`] by [`" ++ counterpart ++ "::build`]."]
        ++ [ofText "must_use"
          (Text.stringLiteral "a mutable does nothing on its own until it is built")]
    signature := .type host.counterpart }

/-- The constructor of the counterpart. -/
def constructorMember : Member :=
  { kind := .constructor
    attributes := [documentation "Creates a mutable without any property set.", inlined]
    signature := .function ⟨true, Naming.constructor, .none, none, .own⟩ }

/-- The documentation of an accessor. -/
def accessorDocumentation (parameter : Parameter) (accessor : Accessor) : List String :=
  let name := Naming.displayName parameter.name.value
  match accessor with
  | .get =>
    ["Returns the value of `" ++ name ++ "`.", "",
     "Fails if it was never set, even if it has a default value."]
  | .getMut => ["Returns a mutable reference to the value of `" ++ name ++ "`."]
  | .set =>
    match parameter.fallback with
    | none => ["Sets `" ++ name ++ "`."]
    | some _ => ["Sets `" ++ name ++ "`, replacing its default value."]

/-- The head of an accessor. -/
def accessorSignature (host : Host) (parameter : Parameter) (accessor : Accessor) :
    FunctionSignature :=
  let field := parameter.name.value
  let type := host.outerType parameter
  match accessor with
  | .get => ⟨false, Naming.getter field, .shared, none, .fallible (.shared type)⟩
  | .getMut => ⟨false, Naming.mutableGetter field, .exclusive, none, .fallible (.exclusive type)⟩
  | .set =>
    ⟨false, host.naming.setter field, .exclusive, some (.value Naming.setterArgument type),
      .receiver⟩

/-- An accessor of a property. -/
def accessorMember (host : Host) (parameter : Parameter) (accessor : Accessor) : Member :=
  { kind := .property parameter.index accessor
    attributes :=
      parameter.conditions ++ documentationLines (accessorDocumentation parameter accessor)
        ++ [inlined]
    signature := .function (host.accessorSignature parameter accessor) }

/-- The accessors of a property. -/
def accessorMembers (host : Host) (parameter : Parameter) : List Member :=
  Accessor.all.map (host.accessorMember parameter)

/-- The function from the counterpart to the host. It takes values out of the counterpart, unless
there are none. -/
def buildMember (host : Host) : Member :=
  let receiver := if host.parameters.isEmpty then Receiver.owned else Receiver.ownedChanging
  { kind := .build
    attributes := documentationLines
      ["Creates a [`" ++ host.shownName ++ "`] from the properties set so far.", "",
       "Properties are resolved in declaration order. A property that was never set",
       "takes its default value, which may use the properties resolved before it.", "",
       "# Errors", "",
       "Fails with the first property that was neither set nor has a default value."]
    signature := .function
      ⟨false, Naming.build, receiver, none, .fallible (.plain host.substitution.hostType)⟩ }

/-- The function from the host to a counterpart that is declared like this. -/
def intoCounterpartMemberFor (host : Host) (counterpart : StructItem) : Member :=
  { kind := .intoCounterpart
    attributes :=
      [documentation ("Moves every field into a new [`" ++ counterpart.ident.value.text ++ "`]."),
        inlined]
    signature := .function
      ⟨false, host.naming.intoCounterpart, .owned, none,
        .plain (counterpart.generics.appliedType counterpart.ident)⟩ }

/-- The function from the host through a counterpart that is declared like this to another host. -/
def copyMemberFor (counterpart : StructItem) : Member :=
  { kind := .copy
    attributes :=
      documentationLines
        ["Returns this value with the changes made by `transform`.", "",
         "`transform` is called exactly once.", "", "# Errors", "",
         "Fails if `transform` left a property without a default value unset."]
        ++ [inlined]
    signature := .function
      ⟨false, Naming.copy, .owned,
        some (.action Naming.copyArgument (counterpart.generics.appliedType counterpart.ident)),
        .fallible .own⟩ }

/-- The function from nothing through a counterpart that is declared like this to a host. -/
def factoryMemberFor (host : Host) (counterpart : StructItem) : Member :=
  let reach :=
    match host.visibility.unreachableFrom? with
    | none => []
    | some place => ["", "Unlike a struct expression, this also works " ++ place ++ "."]
  { kind := .factory
    attributes :=
      documentationLines
        (["Creates a [`" ++ host.shownName ++ "`] from the properties set by `builder_action`."]
          ++ reach
          ++ ["", "# Errors", "", "Fails if a property without a default value was not set."])
        ++ [inlined]
    signature := .function
      ⟨false, Naming.factory, .none,
        some (.action Naming.factoryArgument (counterpart.generics.appliedType counterpart.ident)),
        .fallible .own⟩ }

/-- The function from the host to the counterpart. -/
def intoCounterpartMember (host : Host) : Member := host.intoCounterpartMemberFor host.counterpart

/-- The function from the host through the counterpart to another host. -/
def copyMember (host : Host) : Member := copyMemberFor host.counterpart

/-- The function from nothing through the counterpart to a host. -/
def factoryMember (host : Host) : Member := host.factoryMemberFor host.counterpart

/-- All members, in order. -/
def table (host : Host) : List Member :=
  [host.counterpartMember, constructorMember]
    ++ host.parameters.flatMap host.accessorMembers
    ++ [host.buildMember, host.intoCounterpartMember, host.copyMember, host.factoryMember]

/-! ## From declaration to declaration -/

/-- A way to declare a member, given the members that are declared so far. A member is left out if
what it depends on is not among them. -/
abbrev Declaration := List Member → Option Member

namespace Declaration

/-- A member that depends on the presence of the counterpart. -/
def beside (member : Member) : Declaration := fun members =>
  (Member.find? members .counterpart).map fun _ => member

/-- A member that is made from the declaration of the counterpart. -/
def around (member : StructItem → Member) : Declaration := fun members =>
  ((Member.find? members .counterpart).bind (·.signature.type?)).map member

/-- The members with one more declaration. -/
def extend (members : List Member) (declaration : Declaration) : List Member :=
  members ++ (declaration members).toList

end Declaration

/-- The declarations behind that of the counterpart. -/
def declarations (host : Host) : List Declaration :=
  [.beside constructorMember]
    ++ host.parameters.flatMap (fun parameter => (host.accessorMembers parameter).map .beside)
    ++ [.beside host.buildMember, .around host.intoCounterpartMemberFor, .around copyMemberFor,
      .around host.factoryMemberFor]

/-- The members that are declared one after the other, each from the table so far. -/
def declared (host : Host) : List Member :=
  host.declarations.foldl Declaration.extend [host.counterpartMember]

/-- Whether the templates of the declarations are in the grammar. -/
def admitsDeclarations (host : Host) : Bool :=
  host.naming.counterpart.value.isName
    && host.parameters.all fun parameter =>
      (host.naming.setter parameter.name.value).isName && admitsBorrow (host.outerType parameter)

/-- All members, in order, if the templates of their declarations are in the grammar. -/
def members (host : Host) : Generated (List Member) := do
  provided host.admitsDeclarations
  pure host.declared

end Host

end Counterpart
