import Counterpart.Host.Naming
import Counterpart.Host.Reference
import Counterpart.Host.Substitution
import Counterpart.Host.Visibility

/-!
# Hosts

A host is a marked struct that passed all checks, in the form in which it is emitted, together
with what its counterpart is generated from.
-/

namespace Counterpart

/-- A struct that gets a counterpart. -/
structure Host where
  /-- The struct as it is emitted: without helpers, and constrained. -/
  item : StructItem
  naming : Naming
  parameters : List Parameter
  /-- Where the struct could be written down before it was constrained. -/
  visibility : ConstructorVisibility
deriving Repr, Inhabited

namespace Host

/-- What is wrong with the helpers and the defaults of fields. -/
def fieldDiagnostics (fields : List NamedField) : List Diagnostic :=
  Parameter.helperDiagnostics fields ++ Parameter.referenceDiagnostics (Parameter.ofFields fields)

/-- The host that a struct is, unless something is wrong with it. -/
def ofStruct (item : StructItem) (configuration : Configuration)
    (rename : Option (Located Ident)) : Checked Host := do
  item.checkConstructor
  match item.primaryConstructor? with
  | none => Checked.fail (.inconsistent "checked struct without named fields") item.ident.region
  | some fields =>
    let found := fieldDiagnostics fields
    if found.isEmpty then
      pure
        { item := item.withoutHelpers.constrained
          naming := .ofHost item.ident configuration rename
          parameters := Parameter.ofFields fields
          visibility := .ofFields fields }
    else .error found

/-- A host is made from a struct that has a primary constructor. -/
theorem checkConstructor_of_ofStruct {item : StructItem} {configuration : Configuration}
    {rename : Option (Located Ident)} {host : Host}
    (h : ofStruct item configuration rename = .ok host) : item.checkConstructor = .ok () := by
  cases hcheck : item.checkConstructor with
  | ok passed => rfl
  | error found =>
    rw [ofStruct, hcheck] at h
    cases h

/-- What code of the host becomes outside of its scope. -/
def substitution (host : Host) : Substitution := .ofHost host.item

end Host

end Counterpart
