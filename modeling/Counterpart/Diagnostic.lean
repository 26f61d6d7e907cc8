import Counterpart.Grammar.Fault

/-!
# What users are told

A diagnostic is a cause and the region it is about. Every cause has one wording.
-/

namespace Counterpart

/-- What is wrong with annotated code. -/
inductive Cause where
  /-- Attribute arguments are not in the grammar. -/
  | malformed (fault : Fault)
  /-- An argument is written in a form that it does not have. -/
  | unexpectedForm (form : String)
  | repeatedArgument (name : String)
  | unknownArgument (name : String) (meant : Option String)
  /-- The value of an argument is of the wrong kind. -/
  | unexpectedValue (kind : String)
  /-- A string has the right kind and the wrong content. -/
  | unknownValue (content : String)
  | tooFewItems (least : Nat)
  | tooManyItems (most : Nat)
  /-- A field attribute has a value in place of arguments. -/
  | valuedHelper
  | noPrimaryConstructor
  | privateConstructor
  /-- The marker stands on an item of a kind that it does not apply to. -/
  | notApplicable
  | outlineModule
  | renamedModule
  /-- A default refers to `self`. -/
  | refersToReceiver
  /-- A default refers to its own parameter. -/
  | refersToItself (current : String)
  /-- A default refers to a later parameter. -/
  | refersAhead (current referenced : String)
  /-- Two members of the counterpart would have one name. -/
  | collision (name owner : String)
  /-- A table of members is not the one that was made for the host. -/
  | inconsistent (detail : String)
deriving DecidableEq, Repr, Inhabited

namespace Cause

/-- The wording. -/
def message : Cause → String
  | malformed fault => fault.message
  | unexpectedForm form => "Unexpected meta-item format `" ++ form ++ "`"
  | repeatedArgument name => "Duplicate field `" ++ name ++ "`"
  | unknownArgument name none => "Unknown field: `" ++ name ++ "`"
  | unknownArgument name (some meant) =>
    "Unknown field: `" ++ name ++ "`. Did you mean `" ++ meant ++ "`?"
  | unexpectedValue kind => "Unexpected type `" ++ kind ++ "`"
  | unknownValue content => "Unknown literal value `" ++ content ++ "`"
  | tooFewItems least => "Too few items: Expected at least " ++ toString least
  | tooManyItems most => "Too many items: Expected no more than " ++ toString most
  | valuedHelper => "Name-value arguments are not supported. Use #[piecemeal(...)]"
  | noPrimaryConstructor =>
    "`#[piecemeal]` requires a primary constructor: a struct with named fields"
  | privateConstructor => "`#[piecemeal]` cannot be used with an explicitly private constructor"
  | notApplicable => "`#[piecemeal]` can only be applied to structs and inline modules"
  | outlineModule => "`#[piecemeal]` can only be applied to inline modules"
  | renamedModule => "`rename` cannot be used on a module"
  | refersToReceiver => "default values cannot refer to `self`"
  | refersToItself current =>
    "the default value of `" ++ current ++ "` cannot refer to itself"
  | refersAhead current referenced =>
    "the default value of `" ++ current ++ "` cannot refer to `" ++ referenced
      ++ "`, which is declared after it"
  | collision name owner =>
    "`#[piecemeal]` would generate `" ++ name ++ "` twice on `" ++ owner ++ "`"
  | inconsistent detail => "internal error in `#[piecemeal]`: " ++ detail

end Cause

/-- A cause and the region it is about; there is none at the end of a text. -/
structure Diagnostic where
  cause : Cause
  region : Option Region
deriving DecidableEq, Repr, Inhabited

namespace Diagnostic

/-- The wording. -/
def message (diagnostic : Diagnostic) : String := diagnostic.cause.message

/-- The diagnostic for a fault in attribute arguments. -/
def ofFault (fault : Fault) : Diagnostic := ⟨.malformed fault, fault.region⟩

end Diagnostic

/-- Why nothing is generated. -/
inductive Failure where
  /-- The annotated code is at fault. -/
  | rejected (diagnostics : List Diagnostic)
  /-- Code of the user does not fit into the place of a template that is meant for it. -/
  | brokenTemplate
deriving DecidableEq, Repr, Inhabited

/-- Something that is generated, or why it is not. -/
abbrev Generated (α : Type) := Except Failure α

end Counterpart
