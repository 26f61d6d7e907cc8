import Counterpart.Declaration.Item
import Counterpart.Token.Template

/-!
# Signatures of generated functions

A generated function takes at most one argument besides its receiver: a value to be set, or an
action that is applied once to a borrowed counterpart.
-/

namespace Counterpart

open Template

/-- What a function is called on. -/
inductive Receiver where
  | none
  | owned
  /-- The value itself, and the function changes it. -/
  | ownedChanging
  | shared
  | exclusive
deriving DecidableEq, Repr, Inhabited

/-- What a function is given besides its receiver. -/
inductive Argument where
  | value (name : Ident) (type : Tree)
  /-- A function that is called once with a borrowed value of the given type. -/
  | action (name : Ident) (subject : Tree)
deriving Repr, Inhabited

/-- What a function answers. -/
inductive ResultType where
  /-- The type that the function belongs to. -/
  | own
  /-- Its receiver, still borrowed. -/
  | receiver
  | plain (type : Tree)
  | shared (type : Tree)
  | exclusive (type : Tree)
  /-- Another result, or the error for a property without a value. -/
  | fallible (success : ResultType)
deriving Repr, Inhabited

/-- The head of a generated function. -/
structure FunctionSignature where
  isConst : Bool
  name : Ident
  receiver : Receiver
  argument : Option Argument
  result : ResultType
deriving Repr, Inhabited

namespace Receiver

/-- The receiver in a list of arguments. -/
def tokens : Receiver → List TokenTree
  | .none => []
  | .owned => word "self"
  | .ownedChanging => word "mut" ++ word "self"
  | .shared => mark "&" ++ word "self"
  | .exclusive => mark "&" ++ word "mut" ++ word "self"

end Receiver

namespace Argument

/-- The argument in a list of arguments; a comma stands behind an action. -/
def tokens : Argument → List TokenTree
  | .value argument type => name argument ++ mark ":" ++ type.tokens
  | .action argument subject =>
    name argument ++ mark ":" ++ word "impl" ++ callablePath
      ++ parentheses (mark "&" ++ word "mut" ++ subject.tokens) ++ mark ","

end Argument

namespace ResultType

/-- The type of the result. -/
def tokens : ResultType → List TokenTree
  | .own => word "Self"
  | .receiver => mark "&" ++ word "mut" ++ word "Self"
  | .plain type => type.tokens
  | .shared type => mark "&" ++ type.tokens
  | .exclusive type => mark "&" ++ word "mut" ++ type.tokens
  | .fallible success => resultPath ++ angles (success.tokens ++ mark "," ++ errorPath)

end ResultType

namespace FunctionSignature

/-- The arguments in parentheses. -/
def inputs (signature : FunctionSignature) : List TokenTree :=
  let receiver := signature.receiver.tokens
  let argument := (signature.argument.map (·.tokens)).getD []
  let gap := if receiver.isEmpty || argument.isEmpty then [] else mark ","
  parentheses (receiver ++ gap ++ argument)

/-- The head of the function. -/
def tokens (signature : FunctionSignature) : List TokenTree :=
  (if signature.isConst then word "const" else []) ++ word "fn" ++ Template.name signature.name
    ++ signature.inputs ++ mark "->" ++ signature.result.tokens

end FunctionSignature

end Counterpart
