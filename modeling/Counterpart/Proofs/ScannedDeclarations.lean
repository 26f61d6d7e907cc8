import Counterpart.Proofs.ScannedStatements

/-!
# Declarations that a scan covers

Readers of fields, of structs, enums and unions, and of functions. In the inputs of a function a
pattern stands in front of a colon, so the group of the inputs is covered as a row.
-/

set_option mvcgen.warning false

open Std.Do Counterpart.Occurrence Counterpart.Scan Counterpart.Parser

namespace Counterpart

variable [Scan]

/-! ## Declarations -/

theorem coversAll_commaSeparated_map {α : Type} {trailing : Bool} {values : List α}
    {trees : α → List Tree} (h : ∀ value ∈ values, CoversAll (trees value)) :
    CoversAll (commaSeparated trailing (values.map trees)) := by
  refine coversAll_commaSeparated fun piece hpiece => ?_
  obtain ⟨value, hvalue, rfl⟩ := List.mem_map.mp hpiece
  exact h value hvalue

@[simp, grind norm] theorem covers_word {text : String} : Covers (Tree.word text) ↔ True :=
  covers_leaf

/-- A scan covers the fields of a declaration. -/
@[grind] def Fields.Covered : Fields → Prop
  | .named fields _ => ∀ field ∈ fields, CoversAll field.trees
  | .positional fields _ => ∀ field ∈ fields, CoversAll field.trees
  | .unit => True

@[grind ←] theorem Fields.coversAll_trees {fields : Fields} (h : fields.Covered) :
    CoversAll fields.trees := by
  cases fields with
  | named fields trailing =>
    simpa [Fields.trees, covers_generatedGroup]
      using coversRow_of_all (coversAll_commaSeparated_map h)
  | positional fields trailing =>
    simpa [Fields.trees, covers_generatedGroup]
      using coversRow_of_all (coversAll_commaSeparated_map h)
  | unit => simp [Fields.trees]

@[grind norm] theorem NamedField.coversAll_mk {attributes : List Attribute}
    {visibility : Visibility} {ident : Located Ident} {type : Tree} :
    CoversAll (NamedField.trees ⟨attributes, visibility, ident, type⟩) ↔
      CoversAll (Attribute.outer attributes) ∧ CoversAll visibility.trees ∧ Covers type := by
  simp [NamedField.trees]

@[grind norm] theorem PositionalField.coversAll_mk {attributes : List Attribute}
    {visibility : Visibility} {type : Tree} :
    CoversAll (PositionalField.trees ⟨attributes, visibility, type⟩) ↔
      CoversAll (Attribute.outer attributes) ∧ CoversAll visibility.trees ∧ Covers type := by
  simp [PositionalField.trees]

@[grind norm] theorem Variant.coversAll_mk {attributes : List Attribute} {ident : Located Ident}
    {fields : Fields} {discriminant : List Tree} :
    CoversAll (Variant.trees ⟨attributes, ident, fields, discriminant⟩) ↔
      CoversAll (Attribute.outer attributes) ∧ CoversAll fields.trees ∧ CoversAll discriminant := by
  simp [Variant.trees]

@[grind →] theorem Generics.covers_of_covered {generics : Generics} (h : generics.Covered) :
    ∀ parameter ∈ generics.parameters, CoversAll parameter.trees := h

@[grind ←] theorem StructItem.coversAll_trees {item : StructItem}
    (hattributes : ∀ attr ∈ item.attributes, Covers attr.tree)
    (hvisibility : CoversAll item.visibility.trees) (hgenerics : item.generics.Covered)
    (hclause : CoversAll item.generics.clause) (hfields : item.fields.Covered) :
    CoversAll item.trees := by
  have houter := coversAll_outer hattributes
  rw [StructItem.trees]
  split <;> grind -ring -linarith

@[grind ←] theorem EnumItem.coversAll_trees {item : EnumItem}
    (hattributes : ∀ attr ∈ item.attributes, Covers attr.tree)
    (hvisibility : CoversAll item.visibility.trees) (hgenerics : item.generics.Covered)
    (hclause : CoversAll item.generics.clause)
    (hvariants : ∀ variant ∈ item.variants, CoversAll variant.trees) : CoversAll item.trees := by
  have houter := coversAll_outer hattributes
  have hcontent : CoversAll (commaSeparated item.trailing (item.variants.map (·.trees))) :=
    coversAll_commaSeparated_map hvariants
  rw [EnumItem.trees]
  grind -ring -linarith

@[grind ←] theorem UnionItem.coversAll_trees {item : UnionItem}
    (hattributes : ∀ attr ∈ item.attributes, Covers attr.tree)
    (hvisibility : CoversAll item.visibility.trees) (hgenerics : item.generics.Covered)
    (hclause : CoversAll item.generics.clause)
    (hfields : ∀ field ∈ item.fields, CoversAll field.trees) : CoversAll item.trees := by
  have houter := coversAll_outer hattributes
  rw [UnionItem.trees]
  grind -ring -linarith

/-- A scan covers the braces of an item. -/
@[grind] def ItemBody.Covered (body : ItemBody) : Prop :=
  if body.isBlock then CoversStatements body.content else CoversAll body.content

namespace Grammar

variable (grammar : Grammar) [Sound grammar]

/-! ## Visibility and fields -/

@[spec] theorem visibility_spec (c₀ : Cursor) :
    ⦃fun c => ⌜c = c₀⌝⦄ visibility ⦃⇓? v c => ⌜Passes c₀ (CoversAll v.trees) c⌝⦄ := by
  have hinside := inside_spec .parenthesis fun v : List Tree × MetaPath =>
    CoversAll v.1 ∧ Covers v.2.tree
  mvcgen [visibility, hinside]
  all_goals grind -ring -linarith [MetaPath.covers_tree]

@[spec] theorem namedField_spec (c₀ : Cursor) :
    ⦃fun c => ⌜c = c₀⌝⦄ namedField grammar ⦃⇓? v c => ⌜Lists c₀ (CoversAll v.trees) c⌝⦄ := by
  mvcgen [namedField]
  all_goals grind -ring -linarith

@[spec] theorem positionalField_spec (c₀ : Cursor) :
    ⦃fun c => ⌜c = c₀⌝⦄ positionalField grammar
      ⦃⇓? v c => ⌜Lists c₀ (CoversAll v.trees) c⌝⦄ := by
  mvcgen [positionalField]
  all_goals grind -ring -linarith

@[spec] theorem namedFields_spec (c₀ : Cursor) :
    ⦃fun c => ⌜c = c₀⌝⦄ namedFields grammar
      ⦃⇓? v c => ⌜Closes c₀ (∀ field ∈ v.1, CoversAll field.trees) c⌝⦄ := by
  have hlist := listOf_spec (fun field => CoversAll (NamedField.trees field)) (namedField_spec grammar)
  have hinside := inside_spec .brace fun v : List NamedField × Bool =>
    ∀ field ∈ v.1, CoversAll field.trees
  mvcgen [namedFields, hinside, hlist]
  all_goals grind -ring -linarith

theorem nestedFieldsRule_spec (c₀ : Cursor) :
    ⦃fun c => ⌜c = c₀⌝⦄ nestedFieldsRule grammar ⦃⇓? _ c => ⌜Reads c₀ True c⌝⦄ := by
  mvcgen [nestedFieldsRule]
  all_goals grind -ring -linarith

@[spec] theorem positionalFields_spec (c₀ : Cursor) :
    ⦃fun c => ⌜c = c₀⌝⦄ positionalFields grammar
      ⦃⇓? v c => ⌜Closes c₀ (∀ field ∈ v.1, CoversAll field.trees) c⌝⦄ := by
  have hlist := listOf_spec (fun field => CoversAll (PositionalField.trees field))
    (positionalField_spec grammar)
  have hinside := inside_spec .parenthesis fun v : List PositionalField × Bool =>
    ∀ field ∈ v.1, CoversAll field.trees
  mvcgen [positionalFields, hinside, hlist]
  all_goals grind -ring -linarith

/-! ## Structs, enums and unions -/

@[spec] theorem structRule_spec (attributes : List Attribute) (c₀ : Cursor) :
    ⦃fun c => ⌜c = c₀⌝⦄ structRule grammar attributes
      ⦃⇓? v c => ⌜Reads c₀ ((∀ attr ∈ attributes, Covers attr.tree) → CoversAll v.trees) c⌝⦄ := by
  mvcgen [structRule]
  all_goals grind -ring -linarith

@[spec] theorem variant_spec (c₀ : Cursor) :
    ⦃fun c => ⌜c = c₀⌝⦄ variant grammar ⦃⇓? v c => ⌜Lists c₀ (CoversAll v.trees) c⌝⦄ := by
  mvcgen [variant]
  all_goals grind -ring -linarith

@[spec] theorem enumRule_spec (attributes : List Attribute) (c₀ : Cursor) :
    ⦃fun c => ⌜c = c₀⌝⦄ enumRule grammar attributes
      ⦃⇓? v c => ⌜Reads c₀ ((∀ attr ∈ attributes, Covers attr.tree) → CoversAll v.trees) c⌝⦄ := by
  have hlist := listOf_spec (fun variant => CoversAll (Variant.trees variant)) (variant_spec grammar)
  have hinside := inside_spec .brace fun v : List Variant × Bool =>
    ∀ variant ∈ v.1, CoversAll variant.trees
  mvcgen [enumRule, hinside, hlist]
  all_goals grind -ring -linarith

@[spec] theorem unionRule_spec (attributes : List Attribute) (c₀ : Cursor) :
    ⦃fun c => ⌜c = c₀⌝⦄ unionRule grammar attributes
      ⦃⇓? v c => ⌜Reads c₀ ((∀ attr ∈ attributes, Covers attr.tree) → CoversAll v.trees) c⌝⦄ := by
  mvcgen [unionRule]
  all_goals grind -ring -linarith

/-! ## Functions -/

@[spec] theorem receiver_spec (c₀ : Cursor) :
    ⦃fun c => ⌜c = c₀⌝⦄ receiver grammar ⦃⇓? v c => ⌜Reads c₀ (CoversAll v) c⌝⦄ := by
  mvcgen [receiver]
  all_goals grind -ring -linarith

omit [Scan] in
@[spec] theorem checkReceiver_spec (earlier : EarlierInputs) (receiver : List Tree) (c₀ : Cursor) :
    ⦃fun c => ⌜c = c₀⌝⦄ checkReceiver earlier receiver ⦃⇓? _ c => ⌜c = c₀⌝⦄ := by
  mvcgen [checkReceiver]
  all_goals grind -ring -linarith

@[spec] theorem commaOrEnd_spec (c₀ : Cursor) :
    ⦃fun c => ⌜c = c₀⌝⦄ commaOrEnd
      ⦃⇓? v c => ⌜CoversAll v ∧ (c = c₀ ∧ c₀.rest = [] ∨ ReadsOperator "," c₀ v c)⌝⦄ := by
  mvcgen [commaOrEnd]
  all_goals grind -ring -linarith

@[spec] theorem functionInputs_spec (fuel : Nat) (earlier : EarlierInputs) (c₀ : Cursor) :
    ⦃fun c => ⌜c = c₀⌝⦄ functionInputs grammar fuel earlier
      ⦃⇓? v c => ⌜Fills c₀ (CoversRow v) c⌝⦄ := by
  induction fuel generalizing c₀ earlier with
  | zero =>
    mvcgen [functionInputs]
    all_goals grind -ring -linarith
  | succ fuel ih =>
    mvcgen [functionInputs, ih]
    all_goals grind -ring -linarith [coversRow_append, coversRow_beforeColon]

@[spec] theorem signature_spec (admitSafe : Bool) (c₀ : Cursor) :
    ⦃fun c => ⌜c = c₀⌝⦄ signature grammar admitSafe
      ⦃⇓? v c => ⌜Goes c₀ (CoversAll v.1) c⌝⦄ := by
  mvcgen [signature]
  case vc2 | vc4 =>
    intro hread
    refine ⟨?_, fun hseen => ⟨?_, ?_⟩⟩
    all_goals grind -ring -linarith
  all_goals grind -ring -linarith

@[spec] theorem functionBody_spec (c₀ : Cursor) :
    ⦃fun c => ⌜c = c₀⌝⦄ functionBody grammar
      ⦃⇓? v c => ⌜Closes c₀ ((∀ attr ∈ v.1, Covers attr.tree) ∧ ItemBody.Covered v.2) c⌝⦄ := by
  have hinside := inside_spec .brace fun v : List Attribute × List Tree =>
    (∀ attr ∈ v.1, Covers attr.tree) ∧ CoversStatements v.2
  mvcgen [functionBody, hinside]
  all_goals grind -ring -linarith

end Grammar

end Counterpart
