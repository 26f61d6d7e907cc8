import Counterpart.Member.Bodies

/-!
# What is emitted for a host

A host is followed by its counterpart, the functions of the counterpart, its default, and the
functions of the host. A name that the counterpart would have twice is refused beforehand.
-/

namespace Counterpart

open Template

/-- A generated function. -/
structure Function where
  attributes : List Attribute
  signature : FunctionSignature
  body : Body
deriving Repr, Inhabited

/-- All that is emitted for a host. -/
structure Emission where
  host : StructItem
  counterpartAttributes : List Attribute
  counterpart : StructItem
  counterpartFunctions : List Function
  /-- The constructor that makes the default of the counterpart. -/
  constructor : Ident
  hostFunctions : List Function
deriving Repr, Inhabited

namespace Function

/-- The function as it is declared; it is visible everywhere. -/
def tokens (function : Function) : List TokenTree :=
  function.attributes.flatMap (·.tokens) ++ word "pub" ++ function.signature.tokens
    ++ function.body.tokens Body.vocabulary

end Function

namespace StructItem

/-- The head of an implementation for the struct: of a trait, if one is given. -/
def implHead (item : StructItem) (trait : List TokenTree) : List TokenTree :=
  word "impl" ++ angles (Tree.tokensAll item.generics.headerList) ++ trait ++ name item.ident.value
    ++ angles (Tree.tokensAll item.generics.argumentList) ++ Tree.tokensAll item.generics.clause

end StructItem

namespace Emission

/-- The implementation of the default of the counterpart. -/
def defaultTokens (emission : Emission) : List TokenTree :=
  let body := word "Self" ++ mark "::" ++ name emission.constructor ++ parentheses []
  (Attribute.ofWord "automatically_derived").tokens
    ++ emission.counterpart.implHead (defaultPath ++ word "for")
    ++ braces ((Attribute.ofWord "inline").tokens ++ word "fn" ++ word "default" ++ parentheses []
      ++ mark "->" ++ word "Self" ++ braces body)

/-- The emitted code. -/
def tokens (emission : Emission) : List TokenTree :=
  emission.host.tokens
    ++ emission.counterpartAttributes.flatMap (·.tokens) ++ emission.counterpart.tokens
    ++ emission.counterpart.implHead []
    ++ braces (emission.counterpartFunctions.flatMap (·.tokens))
    ++ emission.defaultTokens
    ++ emission.host.implHead [] ++ braces (emission.hostFunctions.flatMap (·.tokens))

end Emission

namespace Host

/-- The names that stand in a list a second time, as often as they do. `seen` holds the names in
front of the list. -/
def repeated (seen : List Ident) : List Ident → List Ident
  | [] => []
  | name :: rest =>
    (if seen.contains name then [name] else []) ++ repeated (name :: seen) rest

/-- What is wrong with the names of the counterpart's members. -/
def collisions (host : Host) (members : List Member) : List Diagnostic :=
  (repeated [] (Member.namesOf .counterpart members)).map fun name =>
    ⟨.collision name.text host.shownCounterpart, host.naming.host.region⟩

/-- Refuse to go on if something is wrong. -/
def refuse (diagnostics : List Diagnostic) : Generated Unit :=
  if diagnostics.isEmpty then .ok () else .error (.rejected diagnostics)

/-- Refuse to go on if two members of the counterpart would have one name. -/
def checkCollisions (host : Host) (members : List Member) : Generated Unit :=
  refuse (host.collisions members)

/-- Gather values or diagnostics; a broken template ends it at once. -/
def gather {α : Type} : List (Generated α) → Generated (List α)
  | [] => .ok []
  | first :: rest =>
    match first with
    | .error .brokenTemplate => .error .brokenTemplate
    | .error (.rejected found) =>
      match gather rest with
      | .error (.rejected later) => .error (.rejected (found ++ later))
      | .error .brokenTemplate => .error .brokenTemplate
      | .ok _ => .error (.rejected found)
    | .ok value => (value :: ·) <$> gather rest

/-- Things are gathered if each of them is there. -/
theorem gather_cons_eq_ok_iff {α : Type} {first : Generated α} {rest : List (Generated α)}
    {values : List α} :
    gather (first :: rest) = .ok values ↔
      ∃ value others, first = .ok value ∧ gather rest = .ok others ∧ values = value :: others := by
  rcases first with (found | _) | value
  · rw [gather]
    split <;> simp
  · simp [gather]
  · rw [gather]
    cases gather rest <;> simp [Functor.map, Except.map, eq_comm]

/-- A member as a function with its body; the counterpart itself is none. A function always stands
in an implementation. -/
def function? (host : Host) (members : List Member) (member : Member) :
    Generated (Option (Owner × Function)) :=
  match member.signature with
  | .type _ => .ok none
  | .function signature => do
    let body ← host.body members member
    match member.owner with
    | .module => host.inconsistent "function member emitted as an item"
    | owner => pure (some (owner, ⟨member.attributes, signature, body⟩))

/-- The functions for one place, in the order of the table. -/
def functionsOf (owner : Owner) (functions : List (Owner × Function)) : List Function :=
  (functions.filter fun (place, _) => place = owner).map (·.2)

/-- All that is emitted for a host with the given table. -/
def emissionOf (host : Host) (members : List Member) : Generated Emission := do
  host.checkCollisions members
  let functions ← gather (members.map (host.function? members))
  let functions := functions.filterMap id
  let counterpart := members.findSome? fun member =>
    member.signature.type?.map fun item => (member.attributes, item)
  match counterpart with
  | none => host.inconsistent "missing the mutable type"
  | some (attributes, item) =>
    match Member.find? members .constructor with
    | none => host.inconsistent "missing the mutable constructor"
    | some constructor =>
      pure
        { host := host.item
          counterpartAttributes := attributes
          counterpart := item
          counterpartFunctions := functionsOf .counterpart functions
          constructor := constructor.name
          hostFunctions := functionsOf .host functions }

/-- All that is emitted for a host. -/
def emission (host : Host) : Generated Emission := do
  let members ← host.members
  host.emissionOf members

end Host

end Counterpart
