import Counterpart.Arguments.Marker

/-!
# Names of generated declarations

Every name is a function of the host's name, the field's name and the configuration, so that
separately generated pieces of code agree on it.
-/

namespace Counterpart

/-- A name without its raw mark, with a text in front and one behind. -/
def Ident.affixed (before : String) (ident : Ident) (behind : String) : Ident :=
  .plain (before ++ ident.name ++ behind)

/-- What the names of the generated declarations depend on. -/
structure Naming where
  host : Located Ident
  counterpart : Located Ident
  configuration : Configuration
deriving Repr, Inhabited

namespace Naming

/-- What a style adds to the host's name. -/
def suffix : Style → String
  | .mutable => "Mutable"
  | .builder => "Builder"

/-- The naming for a host, whose counterpart may have a name of its own. -/
def ofHost (host : Located Ident) (configuration : Configuration)
    (rename : Option (Located Ident)) : Naming :=
  { host, configuration
    counterpart := rename.getD
      ⟨host.value.affixed "" (suffix configuration.style), host.region⟩ }

/-- The constructor of the counterpart. -/
def constructor : Ident := .plain "new"

/-- The function that turns a host into its counterpart. -/
def intoCounterpart (naming : Naming) : Ident :=
  match naming.configuration.style with
  | .mutable => .plain "into_mutable"
  | .builder => .plain "into_builder"

/-- The function that turns a counterpart into a host. -/
def build : Ident := .plain "build"

/-- The function that changes a host through its counterpart. -/
def copy : Ident := .plain "copy"

/-- The function that makes a host through its counterpart. -/
def factory : Ident := .plain "build"

/-- The function that sets a property: the bare field, or with a verb in front. -/
def setter (naming : Naming) (field : Ident) : Ident :=
  if naming.configuration.javaSetters then field.affixed "set_" "" else field

/-- The function that reads a property. -/
def getter (field : Ident) : Ident := field.affixed "get_" ""

/-- The function that lends a property for changes. -/
def mutableGetter (field : Ident) : Ident := field.affixed "get_" "_mut"

/-- The field of the counterpart that holds a property. -/
def backingField (field : Ident) : Ident := field

/-- The field of the counterpart that ties it to its generic parameters. -/
def varianceMarker : Ident := .plain "__piecemeal_variance"

/-- The argument of the copy function. -/
def copyArgument : Ident := .plain "transform"

/-- The argument of the factory function. -/
def factoryArgument : Ident := .plain "builder_action"

/-- The local that holds a counterpart in generated code. -/
def counterpartLocal : Ident := .plain "mutable"

/-- The argument of a setter. -/
def setterArgument : Ident := .plain "value"

/-- The name of a property as it is shown to users. -/
def displayName (field : Ident) : String := field.name

end Naming

end Counterpart
