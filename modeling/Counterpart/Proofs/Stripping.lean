import Counterpart.Expansion

/-!
# What stripping changes

Stripping an item is a change of attribute lists: of those of its fields and, inside of a module, of
those of the items. Such changes follow each other like the changes of the lists. So what is left
when all these lists are emptied is the same before and after stripping, and stripping twice is
stripping once.
-/

namespace Counterpart

/-! ## Changes of attribute lists -/

namespace NamedField

/-- The field with changed attributes. -/
def mapAttributes (change : List Attribute → List Attribute) (field : NamedField) : NamedField :=
  { field with attributes := change field.attributes }

end NamedField

namespace Fields

/-- The fields with changed attributes. -/
def mapAttributes (change : List Attribute → List Attribute) : Fields → Fields
  | .named fields trailing => .named (fields.map (·.mapAttributes change)) trailing
  | .positional fields trailing =>
    .positional (fields.map fun field => { field with attributes := change field.attributes })
      trailing
  | .unit => .unit

/-- The attributes of every field. -/
def sites : Fields → List (List Attribute)
  | .named fields _ => fields.map (·.attributes)
  | .positional fields _ => fields.map (·.attributes)
  | .unit => []

/-- Changes follow each other field by field. -/
theorem mapAttributes_mapAttributes (first second : List Attribute → List Attribute)
    (fields : Fields) :
    (fields.mapAttributes first).mapAttributes second = fields.mapAttributes (second ∘ first) := by
  cases fields <;> simp [mapAttributes, NamedField.mapAttributes]

/-- The attributes of every field are changed. -/
theorem sites_mapAttributes (change : List Attribute → List Attribute) (fields : Fields) :
    (fields.mapAttributes change).sites = fields.sites.map change := by
  cases fields <;> simp [mapAttributes, NamedField.mapAttributes, sites]

/-- Helpers are taken off attribute list by attribute list. -/
theorem withoutHelpers_eq_mapAttributes (fields : Fields) :
    fields.withoutHelpers = fields.mapAttributes Attribute.withoutHelpers := by
  cases fields <;> rfl

end Fields

namespace Item

section Definitions

variable (onField onItem : List Attribute → List Attribute)

mutual

/-- The item with changed attributes of its fields and, inside of a module, of the items. -/
def mapAttributes : Item → Item
  | .record item => .record { item with fields := item.fields.mapAttributes onField }
  | .enumeration item =>
    .enumeration
      { item with
        variants := item.variants.map fun variant =>
          { variant with fields := variant.fields.mapAttributes onField } }
  | .unionType item =>
    .unionType { item with fields := item.fields.map (·.mapAttributes onField) }
  | .inlineModule attributes head opening closing content =>
    .inlineModule attributes head opening closing (mapAttributesAll content)
  | item => item

/-- The items of a module with changed attributes, theirs and those inside of them. -/
def mapAttributesAll : List Item → List Item
  | [] => []
  | item :: rest =>
    (mapAttributes item).withAttributes (onItem item.attributes) :: mapAttributesAll rest

end

end Definitions

/-- The item apart from the attributes of its fields and of the items inside of it. -/
def bare : Item → Item := mapAttributes (fun _ => []) (fun _ => [])

mutual

/-- The attributes of every field, in the order of the source. -/
def fieldSites : Item → List (List Attribute)
  | .record item => item.fields.sites
  | .enumeration item => item.variants.flatMap (·.fields.sites)
  | .unionType item => item.fields.map (·.attributes)
  | .inlineModule _ _ _ _ content => fieldSitesAll content
  | _ => []

/-- The attributes of every field of several items. -/
def fieldSitesAll : List Item → List (List Attribute)
  | [] => []
  | item :: rest => fieldSites item ++ fieldSitesAll rest

end

mutual

/-- The attributes of every item inside of the item, in the order of the source. -/
def innerSites : Item → List (List Attribute)
  | .inlineModule _ _ _ _ content => innerSitesAll content
  | _ => []

/-- The attributes of several items and of every item inside of them. -/
def innerSitesAll : List Item → List (List Attribute)
  | [] => []
  | item :: rest => item.attributes :: (innerSites item ++ innerSitesAll rest)

end

/-! ## Laws of changes -/

/-- What is inside of an item does not depend on its own attributes. -/
theorem mapAttributes_withAttributes (onField onItem : List Attribute → List Attribute)
    (attributes : List Attribute) (item : Item) :
    mapAttributes onField onItem (item.withAttributes attributes) =
      (mapAttributes onField onItem item).withAttributes attributes := by
  cases item <;> rfl

mutual

/-- Changes follow each other place by place. -/
theorem mapAttributes_mapAttributes
    (onField onItem nextOnField nextOnItem : List Attribute → List Attribute) :
    ∀ item, mapAttributes nextOnField nextOnItem (mapAttributes onField onItem item) =
      mapAttributes (nextOnField ∘ onField) (nextOnItem ∘ onItem) item
  | .record item => by simp [mapAttributes, Fields.mapAttributes_mapAttributes]
  | .enumeration item => by simp [mapAttributes, Fields.mapAttributes_mapAttributes]
  | .unionType item => by simp [mapAttributes, NamedField.mapAttributes]
  | .inlineModule attributes head opening closing content => by
    rw [mapAttributes, mapAttributes, mapAttributes, mapAttributesAll_mapAttributesAll _ _ _ _ content]
  | .outlineModule _ _ => rfl
  | .other _ => rfl
  | .verbatim _ => rfl

/-- So do changes of the items of a module. -/
theorem mapAttributesAll_mapAttributesAll
    (onField onItem nextOnField nextOnItem : List Attribute → List Attribute) :
    ∀ items, mapAttributesAll nextOnField nextOnItem (mapAttributesAll onField onItem items) =
      mapAttributesAll (nextOnField ∘ onField) (nextOnItem ∘ onItem) items
  | [] => rfl
  | item :: rest => by
    rw [mapAttributesAll, mapAttributesAll, mapAttributesAll, mapAttributes_withAttributes,
      mapAttributes_mapAttributes _ _ _ _ item, mapAttributesAll_mapAttributesAll _ _ _ _ rest]
    cases item <;> rfl

end

mutual

/-- The attributes of every field are changed. -/
theorem fieldSites_mapAttributes (onField onItem : List Attribute → List Attribute) :
    ∀ item, (mapAttributes onField onItem item).fieldSites = item.fieldSites.map onField
  | .record item => item.fields.sites_mapAttributes onField
  | .enumeration item => by
    simp only [mapAttributes, fieldSites, List.flatMap_map, List.map_flatMap,
      Fields.sites_mapAttributes]
  | .unionType item => by simp [mapAttributes, fieldSites, NamedField.mapAttributes]
  | .inlineModule attributes head opening closing content =>
    fieldSitesAll_mapAttributesAll onField onItem content
  | .outlineModule _ _ => rfl
  | .other _ => rfl
  | .verbatim _ => rfl

theorem fieldSitesAll_mapAttributesAll (onField onItem : List Attribute → List Attribute) :
    ∀ items, fieldSitesAll (mapAttributesAll onField onItem items) =
      (fieldSitesAll items).map onField
  | [] => rfl
  | item :: rest => by
    have hown (attributes : List Attribute) (item : Item) :
        (item.withAttributes attributes).fieldSites = item.fieldSites := by cases item <;> rfl
    rw [mapAttributesAll, fieldSitesAll, fieldSitesAll, hown, List.map_append,
      fieldSites_mapAttributes onField onItem item, fieldSitesAll_mapAttributesAll _ _ rest]

end

mutual

/-- The attributes of every item inside of an item are changed, if no attributes stay none. -/
theorem innerSites_mapAttributes (onField : List Attribute → List Attribute)
    {onItem : List Attribute → List Attribute} (h : onItem [] = []) :
    ∀ item, (mapAttributes onField onItem item).innerSites = item.innerSites.map onItem
  | .inlineModule _ _ _ _ content => innerSitesAll_mapAttributesAll onField h content
  | .record _ => rfl
  | .enumeration _ => rfl
  | .unionType _ => rfl
  | .outlineModule _ _ => rfl
  | .other _ => rfl
  | .verbatim _ => rfl

theorem innerSitesAll_mapAttributesAll (onField : List Attribute → List Attribute)
    {onItem : List Attribute → List Attribute} (h : onItem [] = []) :
    ∀ items, innerSitesAll (mapAttributesAll onField onItem items) =
      (innerSitesAll items).map onItem
  | [] => rfl
  | item :: rest => by
    have hown (attributes : List Attribute) (item : Item) :
        (item.withAttributes attributes).innerSites = item.innerSites := by cases item <;> rfl
    have hattributes : ((mapAttributes onField onItem item).withAttributes
        (onItem item.attributes)).attributes = onItem item.attributes := by
      cases item <;> first | rfl | exact h.symm
    rw [mapAttributesAll, innerSitesAll, innerSitesAll, hown, hattributes, List.map_cons,
      List.map_append, innerSites_mapAttributes onField h item,
      innerSitesAll_mapAttributesAll onField h rest]

end

/-! ## Stripping -/

mutual

/-- Stripping changes attribute lists. -/
theorem stripped_eq_mapAttributes :
    ∀ item : Item, item.stripped =
      item.mapAttributes Attribute.withoutHelpers Attribute.withoutMarkers
  | .record item => by
    rw [stripped, StructItem.withoutHelpers, Fields.withoutHelpers_eq_mapAttributes]
    rfl
  | .enumeration item => by
    simp only [stripped, mapAttributes, Variant.withoutHelpers,
      Fields.withoutHelpers_eq_mapAttributes]
  | .unionType _ => rfl
  | .inlineModule attributes head opening closing content => by
    rw [stripped, mapAttributes, strippedAll_eq_mapAttributesAll content]
  | .outlineModule _ _ => rfl
  | .other _ => rfl
  | .verbatim _ => rfl

theorem strippedAll_eq_mapAttributesAll :
    ∀ items, strippedAll items =
      mapAttributesAll Attribute.withoutHelpers Attribute.withoutMarkers items
  | [] => rfl
  | item :: rest => by
    rw [strippedAll, mapAttributesAll, stripped_eq_mapAttributes item,
      strippedAll_eq_mapAttributesAll rest]

end

/-- Stripping takes helpers off fields and markers off inner items, and changes nothing else. -/
theorem stripped_sites (item : Item) :
    item.stripped.bare = item.bare ∧
    item.stripped.attributes = item.attributes ∧
    item.stripped.fieldSites = item.fieldSites.map Attribute.withoutHelpers ∧
    item.stripped.innerSites = item.innerSites.map Attribute.withoutMarkers := by
  rw [stripped_eq_mapAttributes]
  refine ⟨mapAttributes_mapAttributes _ _ _ _ item, ?_, fieldSites_mapAttributes _ _ item,
    innerSites_mapAttributes _ rfl item⟩
  cases item <;> rfl

/-- Stripping twice is stripping once. -/
theorem stripped_stripped (item : Item) : item.stripped.stripped = item.stripped := by
  have hhelpers : Attribute.withoutHelpers ∘ Attribute.withoutHelpers =
      Attribute.withoutHelpers := funext Attribute.withoutHelpers_idem
  have hmarkers : Attribute.withoutMarkers ∘ Attribute.withoutMarkers =
      Attribute.withoutMarkers := funext Attribute.withoutMarkers_idem
  rw [stripped_eq_mapAttributes, stripped_eq_mapAttributes, mapAttributes_mapAttributes, hhelpers,
    hmarkers]

end Item

end Counterpart
