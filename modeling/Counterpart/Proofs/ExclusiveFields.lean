import Counterpart.Proofs.Collisions
import Counterpart.Proofs.FieldConditions

/-!
# Fields that exclude each other

Fields with conditions that are never met together may share a name, since no build has both. The
check for collisions does not know that: it reads names and no conditions. What it says about a struct
is what it says about any two fields of it, as if there were a build with both. So it accepts no struct
that fails in some build, but it rejects structs that pass in every build, for two fields that no
build has together.
-/

namespace Counterpart

/-! ## Builds -/

/-- An option of a build: a name that is set, with or without a value. -/
structure BuildOption where
  name : String
  value : Option String
deriving DecidableEq, Repr, Inhabited

/-- The options that are enabled in a build. -/
abbrev Environment := BuildOption → Bool

namespace Environment

/-- What a predicate with others inside of it says, known by its name. -/
def combine (name : String) (values : List Bool) : Bool :=
  if name = "all" then values.all id
  else if name = "any" then values.any id
  else name = "not" && !values.any id

/-- What the predicates between commas say. -/
def values (environment : Environment) : List TokenTree → List Bool
  | [] => []
  | .word ident _ :: .group _ _ _ content :: rest =>
    combine ident.name (values environment content) :: values environment rest
  | .word ident _ :: .punct '=' _ _ :: .literal text _ :: rest =>
    environment ⟨ident.name, Literal.stringValue? text⟩ :: values environment rest
  | .word ident _ :: rest => environment ⟨ident.name, none⟩ :: values environment rest
  | _ :: rest => values environment rest

/-- The decision about conditions in a build: a condition holds if its predicate does. -/
def decision (environment : Environment) : Decision := fun attr =>
  match attr.content.arguments with
  | .list _ _ _ content => (environment.values content).all id
  | _ => false

end Environment

namespace Host

/-! ## Every two fields -/

/-- The check for collisions accepts a host. -/
def Passes (host : Host) : Prop := host.checkCollisions host.declared = .ok ()

variable {naming : Naming} {fields : List NamedField}

/-- Names of accessors are distinct if they were with more fields. -/
theorem nodup_functionNames_sublist {few : List NamedField} (hfew : few.Sublist fields)
    (h : (functionNames naming fields).Nodup) : (functionNames naming few).Nodup := by
  obtain ⟨hown, hfree, hpairs⟩ := nodup_functionNames_iff.mp h
  exact nodup_functionNames_iff.mpr ⟨fun field hfield => hown field (hfew.subset hfield),
    fun field hfield => hfree field (hfew.subset hfield), hpairs.sublist hfew⟩

/-- Names of accessors are distinct if they are for any one and any two of the fields. -/
theorem nodup_functionNames_iff_few : (functionNames naming fields).Nodup ↔
    ∀ few : List NamedField, few.Sublist fields → few.length ≤ 2 →
      (functionNames naming few).Nodup := by
  constructor
  · exact fun h few hfew _ => nodup_functionNames_sublist hfew h
  · intro h
    rw [nodup_functionNames_iff]
    refine ⟨fun field hfield => ?_, fun field hfield => ?_, ?_⟩
    · have hone := h [field] (List.singleton_sublist.mpr hfield) (by simp)
      exact (nodup_functionNames_iff.mp hone).1 field (List.mem_singleton_self field)
    · have hone := h [field] (List.singleton_sublist.mpr hfield) (by simp)
      exact (nodup_functionNames_iff.mp hone).2.1 field (List.mem_singleton_self field)
    · refine List.pairwise_iff_forall_sublist.mpr fun {first second} hpair => ?_
      have htwo := h [first, second] hpair (by simp)
      exact List.rel_of_pairwise_cons (nodup_functionNames_iff.mp htwo).2.2
        (List.mem_singleton_self second)

/-- A host without its disabled fields passes if the names that the other fields give are
distinct. -/
theorem passes_under_iff {host : Host} (decision : Decision) :
    (host.under decision fields).Passes ↔ (functionNames host.naming
      (fields.filter fun field => decision.admits field.attributes)).Nodup := by
  rw [Passes, checkCollisions_eq_ok_iff, declared_eq_table, namesOf_counterpart_eq rfl]
  rfl

end Host

/-- What the check for collisions makes of fields with conditions. It accepts a host exactly if any
one and any two of its fields give distinct names, whatever their conditions are. So a host that it
accepts is accepted in every build. A host that is accepted in every build is accepted if any one and
any two of its fields are in some build together. -/
theorem collisions_of_coexisting {item : StructItem} {configuration : Configuration}
    {rename : Option (Located Ident)} {host : Host} {fields : List NamedField}
    (hhost : Host.ofStruct item configuration rename = .ok host)
    (hfields : item.primaryConstructor? = some fields) :
    (host.Passes ↔ ∀ few : List NamedField, few.Sublist fields → few.length ≤ 2 →
      (Host.functionNames host.naming few).Nodup) ∧
    (host.Passes → ∀ environment : Environment, (host.under environment.decision fields).Passes) ∧
    ((∀ few : List NamedField, few.Sublist fields → few.length ≤ 2 →
        ∃ environment : Environment, ∀ field ∈ few,
          environment.decision.admits field.attributes = true) →
      (∀ environment : Environment, (host.under environment.decision fields).Passes) →
        host.Passes) := by
  obtain ⟨hnames, -⟩ := Host.namesOf_of_ofStruct hhost hfields
  have hpasses : host.Passes ↔ (Host.functionNames host.naming fields).Nodup := by
    rw [Host.Passes, Host.checkCollisions_eq_ok_iff, hnames]
  refine ⟨hpasses.trans Host.nodup_functionNames_iff_few, fun hgated environment => ?_,
    fun hcoexist hreduced => ?_⟩
  · rw [Host.passes_under_iff]
    exact Host.nodup_functionNames_sublist List.filter_sublist (hpasses.mp hgated)
  · refine hpasses.mpr (Host.nodup_functionNames_iff_few.mpr fun few hfew hlength => ?_)
    obtain ⟨environment, hadmits⟩ := hcoexist few hfew hlength
    -- The few fields are all left in that build, so they give names that are distinct there.
    have hleft : few.Sublist (fields.filter fun field =>
        environment.decision.admits field.attributes) := by
      rw [← List.filter_eq_self.mpr hadmits]
      exact hfew.filter _
    exact Host.nodup_functionNames_sublist hleft
      ((Host.passes_under_iff environment.decision).mp (hreduced environment))

/-- The sample struct with a condition on a field is accepted in every build. -/
theorem coexisting_gated : ∃ fields, Sample.gated.primaryConstructor? = some fields ∧
    ∀ environment : Environment,
      (Sample.gatedHost.under environment.decision fields).Passes := by
  have hhost : Host.ofStruct Sample.gated .standard none = .ok Sample.gatedHost := rfl
  have hpasses : Sample.gatedHost.Passes := by
    rw [Host.Passes, Host.checkCollisions_eq_ok_iff]
    decide
  exact ⟨_, rfl, (collisions_of_coexisting hhost rfl).2.1 hpasses⟩

namespace Sample

/-- A condition with the given predicate. -/
def conditionOn (predicate : List TokenTree) : Attribute :=
  .generated ⟨⟨[], [.generated (.plain "cfg")]⟩, .list .parenthesis none none predicate⟩

/-- A field for builds with the option `unix`, and one of the same name for all others. -/
def exclusiveFields : List NamedField :=
  [chainField "h" [conditionOn (Template.word "unix")],
    chainField "h" [conditionOn (Template.word "not" ++ Template.parentheses (Template.word "unix"))]]

/-- A struct with two fields of which every build has one. -/
def exclusive : StructItem := { chain with fields := .named exclusiveFields false }

/-- The host that this struct is. -/
def exclusiveHost : Host where
  item := exclusive.constrained
  naming := .ofHost exclusive.ident .standard none
  parameters := Parameter.ofFields exclusiveFields
  visibility := .everywhere

/-- A build has the field whose condition it meets. -/
theorem filter_exclusiveFields (environment : Environment) :
    (exclusiveFields.filter fun field => environment.decision.admits field.attributes) =
      if environment ⟨"unix", none⟩ then exclusiveFields.take 1 else exclusiveFields.drop 1 := by
  cases hunix : environment ⟨"unix", none⟩ <;>
    simp [exclusiveFields, chainField, Decision.admits, Attribute.conditions, conditionOn,
      Attribute.isCondition, Attribute.path, Attribute.generated, MetaPath.isWord, Environment.decision,
      Environment.values, Environment.combine, Template.word, Template.parentheses, wordToken,
      groupToken, Ident.plain, Ident.isWord, Located.generated, hunix]

theorem ofStruct_exclusive : Host.ofStruct exclusive .standard none = .ok exclusiveHost := rfl

end Sample

/-- Every build has one of two fields of one name and accepts it, but the check rejects the two. -/
theorem exclusive_fields_collide :
    Host.ofStruct Sample.exclusive .standard none = .ok Sample.exclusiveHost ∧
    (∀ environment : Environment,
      (Sample.exclusiveHost.under environment.decision Sample.exclusiveFields).Passes) ∧
    ¬ Sample.exclusiveHost.Passes := by
  refine ⟨Sample.ofStruct_exclusive, fun environment => ?_, ?_⟩
  · rw [Host.passes_under_iff, Sample.filter_exclusiveFields]
    cases environment ⟨"unix", none⟩ <;> decide
  · rw [Host.Passes, Host.checkCollisions_eq_ok_iff]
    decide

end Counterpart
