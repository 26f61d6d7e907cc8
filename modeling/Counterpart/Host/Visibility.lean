import Counterpart.Host.Parameter

/-!
# Who may construct a host

Before it is annotated, a struct can be written down where all of its fields are visible. The
annotation restricts that to the crate, so that the generated functions become the way to make
one from outside.
-/

namespace Counterpart

/-- Where a struct could be written down before it was annotated. -/
inductive ConstructorVisibility where
  | everywhere
  /-- Some field is restricted to a part of the crate. -/
  | restricted
  /-- Some field is visible only in its module, without being said to be. -/
  | inherited
  /-- Some field is said to be visible only in its module. -/
  | explicitlyPrivate (region : Option Region)
deriving DecidableEq, Repr, Inhabited

namespace ConstructorVisibility

/-- The place in the order from wide to narrow. -/
def rank : ConstructorVisibility → Nat
  | everywhere => 0
  | restricted => 1
  | inherited => 2
  | explicitlyPrivate _ => 3

/-- From where the struct could not be written down even before it was annotated. -/
def unreachableFrom? : ConstructorVisibility → Option String
  | everywhere => none
  | restricted => some "outside the visibility of its restricted fields"
  | inherited => some "outside of its module"
  | explicitlyPrivate _ => some "outside of its module"

/-- What the visibility of a single field allows. -/
def ofVisibility (visibility : Visibility) : ConstructorVisibility :=
  match visibility.scope with
  | .inherited => inherited
  | .everywhere => everywhere
  | .within path =>
    if path.isWord "self" then explicitlyPrivate (Tree.regionAll visibility.trees) else restricted

/-- The narrower of two; the first if they are of the same kind. -/
def narrower (first second : ConstructorVisibility) : ConstructorVisibility :=
  if first.rank < second.rank then second else first

/-- What the fields together allow. -/
def ofFields (fields : List NamedField) : ConstructorVisibility :=
  (fields.map fun field => ofVisibility field.visibility).foldl narrower everywhere

/-- The narrower of two is at least as narrow as either. -/
theorem rank_narrower (first second : ConstructorVisibility) :
    (narrower first second).rank = max first.rank second.rank := by
  unfold narrower
  split <;> omega

end ConstructorVisibility

namespace StructItem

/-- Check that the struct has a primary constructor that is not explicitly private. -/
def checkConstructor (item : StructItem) : Checked Unit :=
  match item.primaryConstructor? with
  | none => Checked.fail .noPrimaryConstructor item.ident.region
  | some fields =>
    match ConstructorVisibility.ofFields fields with
    | .explicitlyPrivate region => Checked.fail .privateConstructor region
    | _ => .ok ()

/-- The attribute that restricts construction to the crate. -/
def constraint : Attribute := .ofWord "non_exhaustive"

/-- Whether construction is restricted to the crate. -/
def isConstrained (item : StructItem) : Bool :=
  item.attributes.any fun attr => attr.path.isWord "non_exhaustive"

/-- The struct with construction restricted to the crate. -/
def constrained (item : StructItem) : StructItem :=
  if item.isConstrained then item else { item with attributes := item.attributes ++ [constraint] }

/-- The attribute that restricts construction is recognised as such. -/
theorem constraint_isWord : constraint.path.isWord "non_exhaustive" = true := by
  simp [constraint, Attribute.ofWord, Attribute.generated, Attribute.path, MetaPath.isWord,
    Located.generated, Ident.isWord_iff]

/-- A constrained struct is constrained. -/
theorem isConstrained_constrained (item : StructItem) : item.constrained.isConstrained = true := by
  unfold constrained
  split
  · assumption
  · simp [isConstrained, constraint_isWord]

/-- Constraining a struct does not touch its fields. -/
@[simp] theorem fields_constrained (item : StructItem) : item.constrained.fields = item.fields := by
  unfold constrained
  split <;> rfl

/-- Constraining twice constrains no further. -/
@[simp] theorem constrained_idem (item : StructItem) :
    item.constrained.constrained = item.constrained := by
  rw [constrained, if_pos (isConstrained_constrained item)]

end StructItem

namespace Item

/-- The struct that a marked item is, if it can be a host. -/
def asHost (item : Item) : Checked StructItem :=
  match item with
  | .record struct => do
    struct.checkConstructor
    pure struct
  | .enumeration choice => Checked.fail .noPrimaryConstructor choice.ident.region
  | .unionType overlay => Checked.fail .noPrimaryConstructor overlay.ident.region
  | _ => Checked.fail .notApplicable item.region

end Item

end Counterpart
