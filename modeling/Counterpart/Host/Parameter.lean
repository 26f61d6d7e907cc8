import Counterpart.Arguments.Helper
import Counterpart.Declaration.Item

/-!
# Parameters of the primary constructor

The primary constructor of a struct with named fields takes one parameter per field. A helper on
the field may give the parameter a default.
-/

namespace Counterpart

/-- One parameter of the primary constructor. -/
structure Parameter where
  /-- The place among the parameters, counted from zero. -/
  index : Nat
  name : Located Ident
  type : Tree
  /-- The expression that is used where no value was set. -/
  fallback : Option Tree
  /-- The conditions of the field, which everything generated for it repeats. -/
  conditions : List Attribute
deriving Repr, Inhabited

namespace StructItem

/-- The fields that the primary constructor takes; only named fields make one. -/
def primaryConstructor? (item : StructItem) : Option (List NamedField) :=
  match item.fields with
  | .named fields _ => some fields
  | _ => none

/-- A struct with a primary constructor has named fields. -/
theorem named_of_primaryConstructor? {item : StructItem} {fields : List NamedField}
    (h : item.primaryConstructor? = some fields) :
    ∃ trailing, item.fields = .named fields trailing := by
  unfold primaryConstructor? at h
  split at h
  · next own trailing hown =>
    cases h
    exact ⟨trailing, hown⟩
  · cases h

end StructItem

namespace Parameter

/-- The parameter of the field at the given place. A default that is in error counts as none. -/
def ofField (index : Nat) (field : NamedField) : Parameter :=
  { index
    name := field.ident
    type := field.type
    fallback := (Helper.default? field.attributes).toOption.join
    conditions := Attribute.conditions field.attributes }

/-- The parameters of fields, counted from the given place. -/
def ofFieldsFrom : (start : Nat) → List NamedField → List Parameter
  | _, [] => []
  | start, field :: rest => ofField start field :: ofFieldsFrom (start + 1) rest

/-- The parameters of the given fields, in their order. -/
def ofFields (fields : List NamedField) : List Parameter := ofFieldsFrom 0 fields

/-- What is wrong with the helpers of the given fields. -/
def helperDiagnostics (fields : List NamedField) : List Diagnostic :=
  fields.flatMap fun field => (Helper.default? field.attributes).diagnostics

@[simp] theorem length_ofFieldsFrom (start : Nat) (fields : List NamedField) :
    (ofFieldsFrom start fields).length = fields.length := by
  induction fields generalizing start with
  | nil => rfl
  | cons field rest ih => simp [ofFieldsFrom, ih]

/-- The parameter at a place has that place as its index. -/
theorem getElem?_ofFieldsFrom (start place : Nat) (fields : List NamedField) :
    (ofFieldsFrom start fields)[place]? = fields[place]?.map (ofField (start + place)) := by
  induction fields generalizing start place with
  | nil => simp [ofFieldsFrom]
  | cons field rest ih =>
    cases place with
    | zero => simp [ofFieldsFrom]
    | succ place =>
      simp only [ofFieldsFrom, List.getElem?_cons_succ, ih]
      congr 2
      omega

end Parameter

/-! ## Fields without their helpers -/

namespace NamedField

/-- The field without its helpers. -/
def withoutHelpers (field : NamedField) : NamedField :=
  { field with attributes := Attribute.withoutHelpers field.attributes }

end NamedField

namespace PositionalField

/-- The field without its helpers. -/
def withoutHelpers (field : PositionalField) : PositionalField :=
  { field with attributes := Attribute.withoutHelpers field.attributes }

end PositionalField

namespace Fields

/-- The fields without their helpers. -/
def withoutHelpers : Fields → Fields
  | .named fields trailing => .named (fields.map (·.withoutHelpers)) trailing
  | .positional fields trailing => .positional (fields.map (·.withoutHelpers)) trailing
  | .unit => .unit

/-- Taking helpers away twice takes away no more. -/
@[simp] theorem withoutHelpers_idem (fields : Fields) :
    fields.withoutHelpers.withoutHelpers = fields.withoutHelpers := by
  cases fields <;>
    simp [withoutHelpers, NamedField.withoutHelpers, PositionalField.withoutHelpers,
      Function.comp_def]

end Fields

namespace StructItem

/-- The struct without helpers on its fields. -/
def withoutHelpers (item : StructItem) : StructItem :=
  { item with fields := item.fields.withoutHelpers }

/-- Taking helpers away twice takes away no more. -/
@[simp] theorem withoutHelpers_idem (item : StructItem) :
    item.withoutHelpers.withoutHelpers = item.withoutHelpers := by
  simp [withoutHelpers]

end StructItem

end Counterpart
