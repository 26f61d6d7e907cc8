import Counterpart.Declaration.Attribute

/-!
# Markers, helpers and conditions

One word serves twice: as a marker it asks for the counterpart of an item, as a helper on a field
it sets that field's options. A condition says in which configurations of a build something
exists at all.
-/

namespace Counterpart

namespace Attribute

/-- The word of markers and helpers. -/
def markWord : String := "piecemeal"

/-- Whether the attribute marks an item. The word may be qualified by itself, and a double colon
in front does not matter. -/
def isMarker (attr : Attribute) : Bool :=
  match attr.path.segments with
  | [segment] => segment.value.isWord markWord
  | [first, second] => first.value.isWord markWord && second.value.isWord markWord
  | _ => false

/-- Whether the attribute sets options of a field. -/
def isHelper (attr : Attribute) : Bool := attr.path.isWord markWord

/-- Whether the attribute is a condition. -/
def isCondition (attr : Attribute) : Bool := attr.path.isWord "cfg"

/-- The first marker and the attributes without it. -/
def takeMarker? : List Attribute → Option (Attribute × List Attribute)
  | [] => none
  | attr :: rest =>
    if attr.isMarker then some (attr, rest)
    else (takeMarker? rest).map fun (marker, others) => (marker, attr :: others)

/-- The attributes without their first marker. -/
def withoutMarker (attributes : List Attribute) : List Attribute :=
  match takeMarker? attributes with
  | some (_, rest) => rest
  | none => attributes

/-- The attributes without any marker. -/
def withoutMarkers (attributes : List Attribute) : List Attribute :=
  attributes.filter (!·.isMarker)

/-- The attributes without helpers. -/
def withoutHelpers (attributes : List Attribute) : List Attribute :=
  attributes.filter (!·.isHelper)

/-- The conditions among the attributes. -/
def conditions (attributes : List Attribute) : List Attribute :=
  attributes.filter isCondition

/-- A marker is found exactly if there is one. -/
theorem takeMarker?_eq_none_iff (attributes : List Attribute) :
    takeMarker? attributes = none ↔ ∀ attr ∈ attributes, attr.isMarker = false := by
  induction attributes with
  | nil => simp [takeMarker?]
  | cons attr rest ih => by_cases h : attr.isMarker <;> simp [takeMarker?, h, ih]

/-- Taking helpers away twice takes away no more. -/
@[simp] theorem withoutHelpers_idem (attributes : List Attribute) :
    withoutHelpers (withoutHelpers attributes) = withoutHelpers attributes := by
  simp [withoutHelpers]

/-- Taking markers away twice takes away no more. -/
@[simp] theorem withoutMarkers_idem (attributes : List Attribute) :
    withoutMarkers (withoutMarkers attributes) = withoutMarkers attributes := by
  simp [withoutMarkers]

end Attribute

end Counterpart
