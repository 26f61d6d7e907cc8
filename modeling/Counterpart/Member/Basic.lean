import Counterpart.Host.Basic
import Counterpart.Member.Signature

/-!
# Members

What is generated for a host is a table of members: the counterpart, three accessors for every
parameter, and the functions that lead from one type to the other. A member is known by its
kind, never by its name.
-/

namespace Counterpart

/-- What an accessor of a property does. -/
inductive Accessor where
  /-- Read the property. -/
  | get
  /-- Lend the property for changes. -/
  | getMut
  /-- Set the property. -/
  | set
deriving DecidableEq, Repr, Inhabited

namespace Accessor

/-- All accessors, in the order in which they are generated. -/
def all : List Accessor := [get, getMut, set]

end Accessor

/-- The kinds of members. -/
inductive MemberKind where
  /-- The counterpart itself. -/
  | counterpart
  /-- The constructor of the counterpart. -/
  | constructor
  /-- An accessor of the property at the given place. -/
  | property (index : Nat) (accessor : Accessor)
  /-- From the counterpart to the host. -/
  | build
  /-- From the host to the counterpart. -/
  | intoCounterpart
  /-- From the host through the counterpart to another host. -/
  | copy
  /-- From nothing through the counterpart to a host. -/
  | factory
deriving DecidableEq, Repr, Inhabited

/-- Where a member is emitted. -/
inductive Owner where
  /-- Beside the host. -/
  | module
  /-- In an implementation of the host. -/
  | host
  /-- In an implementation of the counterpart. -/
  | counterpart
deriving DecidableEq, Repr, Inhabited

namespace MemberKind

/-- Where members of a kind are emitted. -/
def owner : MemberKind → Owner
  | counterpart => .module
  | constructor => .counterpart
  | property _ _ => .counterpart
  | build => .counterpart
  | intoCounterpart => .host
  | copy => .host
  | factory => .host

end MemberKind

/-- The declaration of a member. -/
inductive Signature where
  | type (item : StructItem)
  | function (signature : FunctionSignature)
deriving Repr, Inhabited

namespace Signature

/-- The name that is declared. -/
def name : Signature → Ident
  | type item => item.ident.value
  | function signature => signature.name

/-- The declared type. -/
def type? : Signature → Option StructItem
  | type item => some item
  | function _ => none

/-- The tokens of the declaration. -/
def tokens : Signature → List TokenTree
  | type item => item.tokens
  | function signature => signature.tokens

end Signature

/-- A generated member. -/
structure Member where
  kind : MemberKind
  attributes : List Attribute
  signature : Signature
deriving Repr, Inhabited

namespace Member

/-- The name of the member. -/
def name (member : Member) : Ident := member.signature.name

/-- Where the member is emitted. -/
def owner (member : Member) : Owner := member.kind.owner

/-- The first member of a kind. -/
def find? (members : List Member) (kind : MemberKind) : Option Member :=
  members.find? fun member => member.kind = kind

/-- The names of the members that are emitted at the same place, in the order of the table. -/
def namesOf (owner : Owner) (members : List Member) : List Ident :=
  (members.filter fun member => member.owner = owner).map (·.name)

end Member

end Counterpart
