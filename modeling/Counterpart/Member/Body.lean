import Counterpart.Token.Template
import Counterpart.Declaration.Attribute
import Counterpart.Text.Quoted

/-!
# Bodies of generated functions

Generated functions do few kinds of things, so a body says which of them it does with which names.
Writing a body as code and running it are two views of the same description.
-/

namespace Counterpart

open Template

/-- A part of generated code that exists only under the conditions of a field. -/
structure Gated (α : Type) where
  conditions : List Attribute
  value : α
deriving Repr, Inhabited

/-- What becomes of a property that was never set. -/
inductive Fallback where
  /-- It takes the value of an expression. -/
  | value (expression : Tree)
  /-- The function leaves with the error for the property of that name. -/
  | missing (shown : String)
deriving Repr, Inhabited

/-- An expression of the function that makes a host. -/
inductive Code where
  /-- The value of a local, which is moved out of it. -/
  | moved (name : Ident)
  /-- An expression of the source. -/
  | user (expression : Tree)
  /-- Leave the function with the error for the property of that name. -/
  | leave (shown : String)
  /-- Take the value out of a cell of the receiver. If there was one, go on with `found`, where the
  value has a name; if there was none, with `absent`. -/
  | takeOr (cell binder : Ident) (found absent : Code)
deriving Repr, Inhabited

/-- A local that is bound to the value taken out of a cell, or to the fallback. -/
structure Resolution where
  binding : Ident
  type : Tree
  cell : Ident
  fallback : Fallback
deriving Repr, Inhabited

/-- A call of a setter with a field of the receiver. -/
structure Transfer where
  setter : Ident
  field : Ident
deriving DecidableEq, Repr, Inhabited

/-- A call of a constructor of a type. -/
structure ConstructorCall where
  type : Tree
  constructor : Ident
deriving Repr, Inhabited

/-- What a generated function does. -/
inductive Body where
  /-- Make a counterpart from empty cells. -/
  | construct (cells : List (Gated Ident))
  /-- Read a cell. -/
  | read (cell : Ident) (shown : String)
  /-- Lend the content of a cell for changes. -/
  | lend (cell : Ident) (shown : String)
  /-- Set a cell to the argument. -/
  | write (cell : Ident)
  /-- Bind every property in turn, then make a host from the locals. -/
  | resolve (steps : List (Gated Resolution)) (host : Ident) (fields : List (Gated Ident))
  /-- Make a counterpart and set its properties to the fields of the receiver. -/
  | transfer (start : ConstructorCall) (steps : List (Gated Transfer))
  /-- Turn the receiver into a counterpart, apply the action to it, and build. -/
  | copy (intoCounterpart build : Ident)
  /-- Make a counterpart, apply the action to it, and build. -/
  | create (start : ConstructorCall) (build : Ident)
deriving Repr, Inhabited

namespace Gated

/-- The part behind its conditions. -/
def tokens {α : Type} (write : α → List TokenTree) (part : Gated α) : List TokenTree :=
  part.conditions.flatMap (·.tokens) ++ write part.value

end Gated

/-- A literal for the name of a property. -/
def shownLiteral (shown : String) : List TokenTree := [.literal (Text.stringLiteral shown) none]

/-- A call of a method of the receiver's field. -/
def cellCall (cell : Ident) (method : String) (arguments : List TokenTree) : List TokenTree :=
  word "self" ++ mark "." ++ name cell ++ mark "." ++ word method ++ parentheses arguments

namespace Code

/-- The code as it is written. -/
def tokens : Code → List TokenTree
  | .moved ident => name ident
  | .user expression => expression.tokens
  | .leave shown =>
    word "return" ++ path ["core", "result", "Result", "Err"]
      ++ parentheses (errorPath ++ mark "::" ++ word "new" ++ parentheses (shownLiteral shown))
  | .takeOr cell binder found absent =>
    word "match" ++ cellCall cell "take" []
      ++ braces (path ["core", "option", "Option", "Some"] ++ parentheses (name binder)
        ++ mark "=>" ++ found.tokens ++ mark ","
        ++ path ["core", "option", "Option", "None"] ++ mark "=>" ++ absent.tokens ++ mark ",")

end Code

namespace Fallback

/-- The code for a property that was never set. -/
def code : Fallback → Code
  | .value expression => .user expression
  | .missing shown => .leave shown

end Fallback

namespace Resolution

/-- The name of the value while it is moved from its cell to its local. -/
def taken : Ident := .plain "value"

/-- The code for the value of the local. -/
def code (step : Resolution) : Code :=
  .takeOr step.cell taken (.moved taken) step.fallback.code

/-- The statement that binds the local. -/
def tokens (step : Resolution) : List TokenTree :=
  word "let" ++ name step.binding ++ mark ":" ++ step.type.tokens ++ mark "=" ++ step.code.tokens
    ++ mark ";"

end Resolution

namespace Transfer

/-- The statement that calls the setter. -/
def tokens (target : Ident) (step : Transfer) : List TokenTree :=
  name target ++ mark "." ++ name step.setter
    ++ parentheses (word "self" ++ mark "." ++ name step.field) ++ mark ";"

end Transfer

namespace ConstructorCall

/-- The call. -/
def tokens (call : ConstructorCall) : List TokenTree :=
  angles call.type.tokens ++ mark "::" ++ name call.constructor ++ parentheses []

end ConstructorCall

namespace Body

/-- The names that every generated body uses alike. -/
structure Vocabulary where
  /-- The field that ties a counterpart to its generic parameters. -/
  varianceMarker : Ident
  /-- The local that holds a counterpart. -/
  counterpartLocal : Ident
  /-- The argument of the copy function. -/
  copyArgument : Ident
  /-- The argument of the factory function. -/
  factoryArgument : Ident

/-- Apply an action to a local counterpart and build from it. -/
def actAndBuild (target action build : Ident) : List TokenTree :=
  name action ++ parentheses (mark "&" ++ word "mut" ++ name target) ++ mark ";"
    ++ name target ++ mark "." ++ name build ++ parentheses []

/-- Bind a new local to an initial value. -/
def bindLocal (changing : Bool) (target : Ident) (initial : List TokenTree) : List TokenTree :=
  word "let" ++ (if changing then word "mut" else []) ++ name target ++ mark "=" ++ initial
    ++ mark ";"

/-- The statements of a body. -/
def statements (vocabulary : Vocabulary) : Body → List TokenTree
  | .construct cells =>
    let empty (cell : Ident) : List TokenTree :=
      name cell ++ mark ":" ++ cellPath ++ mark "::" ++ word "new" ++ parentheses [] ++ mark ","
    word "Self"
      ++ braces (cells.flatMap (Gated.tokens empty) ++ name vocabulary.varianceMarker ++ mark ":"
        ++ phantomPath ++ mark ",")
  | .read cell shown => cellCall cell "get" (shownLiteral shown)
  | .lend cell shown => cellCall cell "get_mut" (shownLiteral shown)
  | .write cell => cellCall cell "set" (word "value") ++ mark ";" ++ word "self"
  | .resolve steps host fields =>
    steps.flatMap (Gated.tokens Resolution.tokens) ++ path ["core", "result", "Result", "Ok"]
      ++ parentheses (name host ++ braces (commas (fields.map (Gated.tokens name))))
  | .transfer start steps =>
    bindLocal (!steps.isEmpty) vocabulary.counterpartLocal start.tokens
      ++ steps.flatMap (Gated.tokens (Transfer.tokens vocabulary.counterpartLocal))
      ++ name vocabulary.counterpartLocal
  | .copy intoCounterpart build =>
    bindLocal true vocabulary.counterpartLocal
        (word "self" ++ mark "." ++ name intoCounterpart ++ parentheses [])
      ++ actAndBuild vocabulary.counterpartLocal vocabulary.copyArgument build
  | .create start build =>
    bindLocal true vocabulary.counterpartLocal start.tokens
      ++ actAndBuild vocabulary.counterpartLocal vocabulary.factoryArgument build

/-- The block that a body is. -/
def tokens (vocabulary : Vocabulary) (body : Body) : List TokenTree :=
  braces (body.statements vocabulary)

end Body

end Counterpart
