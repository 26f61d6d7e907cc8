import Counterpart.Proofs.Assembly
import Counterpart.Sample.Chain

/-!
# Fields that do not exist

A condition on a field is repeated on everything that is generated for it. So it does not matter when
the conditions are decided: removing the disabled fields of a struct before it is expanded and
removing everything disabled from the emitted code lead to the same code. Documentation may differ,
and whether a function changes its receiver or its local.
-/

namespace Counterpart

/-- A decision about conditions: which of them hold. -/
abbrev Decision := Attribute → Bool

namespace Decision

variable (decision : Decision)

/-- Whether something with the given attributes exists: all conditions among them hold. -/
def admits (attributes : List Attribute) : Bool := (Attribute.conditions attributes).all decision

@[simp] theorem admits_nil : decision.admits [] = true := rfl

@[simp] theorem admits_append (first second : List Attribute) :
    decision.admits (first ++ second) = (decision.admits first && decision.admits second) := by
  simp [admits, Attribute.conditions]

/-- Other attributes than conditions decide nothing. -/
theorem admits_cons_of_not_isCondition {attr : Attribute} (h : attr.isCondition = false)
    (rest : List Attribute) : decision.admits (attr :: rest) = decision.admits rest := by
  simp [admits, Attribute.conditions, h]

/-- All conditions among attributes decide as the attributes do. -/
@[simp] theorem admits_conditions (attributes : List Attribute) :
    decision.admits (Attribute.conditions attributes) = decision.admits attributes := by
  simp [admits, Attribute.conditions]

/-- Documentation decides nothing. -/
theorem admits_documentationLines (lines : List String) :
    decision.admits (Attribute.documentationLines lines) = true := by
  induction lines with
  | nil => rfl
  | cons line rest ih =>
    rw [Attribute.documentationLines, List.map_cons, decision.admits_cons_of_not_isCondition rfl]
    exact ih

/-- The parts that exist. -/
def remaining {α : Type} (parts : List (Gated α)) : List (Gated α) :=
  parts.filter fun part => decision.admits part.conditions

end Decision

/-! ## Code without its disabled parts -/

namespace Fields

/-- The fields that exist. -/
def under (decision : Decision) : Fields → Fields
  | .named fields trailing =>
    .named (fields.filter fun field => decision.admits field.attributes) trailing
  | .positional fields trailing =>
    .positional (fields.filter fun field => decision.admits field.attributes) trailing
  | .unit => .unit

end Fields

namespace StructItem

/-- The struct without its disabled fields. -/
def under (decision : Decision) (item : StructItem) : StructItem :=
  { item with fields := item.fields.under decision }

end StructItem

namespace Body

/-- The body without its disabled entries and statements. -/
def under (decision : Decision) : Body → Body
  | .construct cells => .construct (decision.remaining cells)
  | .resolve steps host fields =>
    .resolve (decision.remaining steps) host (decision.remaining fields)
  | .transfer start steps => .transfer start (decision.remaining steps)
  | body => body

end Body

namespace Function

/-- The function without the disabled parts of its body. -/
def under (decision : Decision) (function : Function) : Function :=
  { function with body := function.body.under decision }

/-- The functions that exist, without the disabled parts of their bodies. -/
def allUnder (decision : Decision) (functions : List Function) : List Function :=
  (functions.filter fun function => decision.admits function.attributes).map (·.under decision)

/-- Functions exist one by one. -/
theorem allUnder_append (decision : Decision) (first second : List Function) :
    allUnder decision (first ++ second) = allUnder decision first ++ allUnder decision second := by
  simp [allUnder]

end Function

namespace Emission

/-- The emitted code without its disabled fields, entries, statements and functions. -/
def under (decision : Decision) (emission : Emission) : Emission :=
  { emission with
    host := emission.host.under decision
    counterpart := emission.counterpart.under decision
    counterpartFunctions := Function.allUnder decision emission.counterpartFunctions
    hostFunctions := Function.allUnder decision emission.hostFunctions }

end Emission

/-! ## Code without documentation -/

namespace Receiver

/-- The receiver, without telling whether the function changes its own value. -/
def unmarked : Receiver → Receiver
  | .ownedChanging => .owned
  | receiver => receiver

end Receiver

/-- Nothing of documentation is left. -/
theorem Attribute.filter_documentationLines (lines : List String) :
    (documentationLines lines).filter (fun attr => !attr.path.isWord "doc") = [] := by
  refine List.filter_eq_nil_iff.mpr fun attr hattr => ?_
  obtain ⟨line, -, rfl⟩ := List.mem_map.mp hattr
  exact Bool.false_ne_true

namespace Function

/-- The function without documentation, and without telling whether it changes its own value. -/
def plain (function : Function) : Function :=
  { function with
    attributes := function.attributes.filter fun attr => !attr.path.isWord "doc"
    signature := { function.signature with receiver := function.signature.receiver.unmarked } }

end Function

namespace Emission

/-- The emitted code with plain functions. -/
def plain (emission : Emission) : Emission :=
  { emission with
    counterpartFunctions := emission.counterpartFunctions.map (·.plain)
    hostFunctions := emission.hostFunctions.map (·.plain) }

end Emission

/-! ## The struct that is emitted -/

section Emitted

variable (decision : Decision)

/-- A condition is no marker. -/
theorem Attribute.not_isMarker_of_isCondition {attr : Attribute} (h : attr.isCondition = true) :
    attr.isMarker = false := by
  unfold isCondition MetaPath.isWord at h
  unfold isMarker
  split at h
  · next segment hsegments =>
    simp only [Bool.and_eq_true, Ident.isWord_iff] at h
    simp [hsegments, h.2, Ident.isWord, Ident.plain, markWord]
  · simp at h

/-- What is generated for the parameters of fields, without its disabled parts, is generated for the
parameters of the fields that exist. Nothing of it may depend on the places of the parameters. -/
theorem Parameter.filter_flatMap_ofFields {β : Type} (make : Parameter → List β)
    (hplace : ∀ index field, make (ofField index field) = make (ofField 0 field))
    {exists? : β → Bool}
    (hexists : ∀ parameter, ∀ part ∈ make parameter,
      exists? part = decision.admits parameter.conditions) (fields : List NamedField) :
    ((ofFields fields).flatMap make).filter exists? =
      (ofFields (fields.filter fun field => decision.admits field.attributes)).flatMap make := by
  have hmade (fields : List NamedField) :
      (ofFields fields).flatMap make = fields.flatMap fun field => make (ofField 0 field) := by
    rw [List.flatMap_def, ofFields, map_ofFieldsFrom make hplace, ← List.flatMap_def]
  rw [hmade, hmade]
  induction fields with
  | nil => rfl
  | cons field rest ih =>
    have hconditions : decision.admits (ofField 0 field).conditions =
        decision.admits field.attributes := decision.admits_conditions field.attributes
    rw [List.flatMap_cons, List.filter_append, ih, List.filter_cons]
    by_cases hadmits : decision.admits field.attributes = true
    · rw [if_pos hadmits, List.flatMap_cons]
      congr 1
      refine List.filter_eq_self.mpr fun part hpart => ?_
      rw [hexists _ part hpart, hconditions, hadmits]
    · rw [if_neg hadmits]
      have hnone : (make (ofField 0 field)).filter exists? = [] := by
        refine List.filter_eq_nil_iff.mpr fun part hpart => ?_
        rwa [hexists _ part hpart, hconditions]
      rw [hnone, List.nil_append]

/-- The same for what is generated one by one. -/
theorem Parameter.filter_map_ofFields {β : Type} (make : Parameter → β)
    (hplace : ∀ index field, make (ofField index field) = make (ofField 0 field))
    {exists? : β → Bool}
    (hexists : ∀ parameter, exists? (make parameter) = decision.admits parameter.conditions)
    (fields : List NamedField) :
    ((ofFields fields).map make).filter exists? =
      (ofFields (fields.filter fun field => decision.admits field.attributes)).map make := by
  have hsingle (parameters : List Parameter) :
      parameters.map make = parameters.flatMap fun parameter => [make parameter] :=
    List.map_eq_flatMap
  rw [hsingle, hsingle]
  refine filter_flatMap_ofFields decision _ (fun index field => by rw [hplace]) ?_ fields
  intro parameter part hpart
  rw [List.mem_singleton.mp hpart]
  exact hexists parameter

/-! ## Hosts -/

namespace Host

/-- The host that a struct is without its disabled fields. -/
def under (host : Host) (fields : List NamedField) : Host :=
  let remaining := fields.filter fun field => decision.admits field.attributes
  { host with
    item := host.item.under decision
    parameters := Parameter.ofFields remaining
    visibility := .ofFields remaining }

variable {host : Host} {fields : List NamedField}

/-- What is gated alike by its parameter is removed with its field. -/
theorem remaining_gated {α : Type} (hparameters : host.parameters = Parameter.ofFields fields)
    (value : Parameter → α)
    (hplace : ∀ index field, value (Parameter.ofField index field) = value (Parameter.ofField 0 field)) :
    decision.remaining (host.parameters.map fun parameter => gated parameter (value parameter)) =
      (host.under decision fields).parameters.map fun parameter =>
        gated parameter (value parameter) := by
  rw [hparameters]
  refine Parameter.filter_map_ofFields decision (fun parameter => gated parameter (value parameter))
    (fun index field => ?_) (fun _ => rfl) fields
  rw [hplace]
  rfl

/-- The counterpart has a cell for every field that exists. -/
theorem counterpart_under (hparameters : host.parameters = Parameter.ofFields fields) :
    host.counterpart.under decision = (host.under decision fields).counterpart := by
  have hcells : (host.parameters.map host.cellField).filter
      (fun field => decision.admits field.attributes) =
        (host.under decision fields).parameters.map host.cellField := by
    rw [hparameters]
    exact Parameter.filter_map_ofFields decision host.cellField (fun _ _ => rfl) (fun _ => rfl) fields
  rw [StructItem.under, counterpart, Fields.under, List.filter_append, hcells]
  rfl

/-- The accessors of a property exist if its field does. -/
theorem admits_accessorFunction (parameter : Parameter) (accessor : Accessor) :
    decision.admits (host.accessorFunction parameter accessor).attributes =
      decision.admits parameter.conditions := by
  change decision.admits (parameter.conditions ++ _ ++ [Attribute.inlined]) = _
  rw [decision.admits_append, decision.admits_append, decision.admits_documentationLines,
    Bool.and_true]
  exact Bool.and_true _

/-- There are accessors for every field that exists. -/
theorem allUnder_accessors (hparameters : host.parameters = Parameter.ofFields fields) :
    Function.allUnder decision
        (host.parameters.flatMap fun parameter => Accessor.all.map (host.accessorFunction parameter)) =
      (host.under decision fields).parameters.flatMap fun parameter =>
        Accessor.all.map (host.accessorFunction parameter) := by
  have hexists : ∀ parameter, ∀ function ∈ Accessor.all.map (host.accessorFunction parameter),
      decision.admits function.attributes = decision.admits parameter.conditions := by
    intro parameter function hfunction
    obtain ⟨accessor, -, rfl⟩ := List.mem_map.mp hfunction
    exact admits_accessorFunction decision parameter accessor
  have hremaining := Parameter.filter_flatMap_ofFields decision
    (fun parameter => Accessor.all.map (host.accessorFunction parameter)) (fun _ _ => rfl)
    hexists fields
  rw [Function.allUnder, hparameters, hremaining, List.map_flatMap]
  rfl

/-- The head of the function that makes a host depends on the host's type alone. -/
theorem plain_buildMember (host : Host) (body : Body) :
    (host.buildMember.functionWith body).plain =
      ⟨[], ⟨false, Naming.build, .owned, none, .fallible (.plain host.substitution.hostType)⟩,
        body⟩ := by
  have hreceiver : (if host.parameters.isEmpty then Receiver.owned else .ownedChanging).unmarked =
      .owned := by split <;> rfl
  exact congrArg (fun receiver => Function.mk []
    ⟨false, Naming.build, receiver, none, .fallible (.plain host.substitution.hostType)⟩ body) hreceiver

/-- Every field that exists is resolved and handed to the host. -/
theorem buildBody_under (hparameters : host.parameters = Parameter.ofFields fields) :
    host.buildBody.under decision = (host.under decision fields).buildBody := by
  have hsteps := remaining_gated decision hparameters
    (fun parameter => (host.resolution parameter).value) fun _ _ => rfl
  have hfields := remaining_gated decision hparameters
    (fun parameter => parameter.name.value) fun _ _ => rfl
  exact congrArg₂ (Body.resolve · host.naming.host.value ·) hsteps hfields

/-- The functions of the counterpart are those for the fields that exist. -/
theorem counterpartFunctions_under (hparameters : host.parameters = Parameter.ofFields fields) :
    (Function.allUnder decision host.counterpartFunctions).map (·.plain) =
      (host.under decision fields).counterpartFunctions.map (·.plain) := by
  have hcells := remaining_gated decision hparameters
    (fun parameter => Naming.backingField parameter.name.value) fun _ _ => rfl
  have hconstructor :
      Function.allUnder decision [constructorMember.functionWith (.construct host.cells)] =
        [constructorMember.functionWith (.construct (host.under decision fields).cells)] :=
    congrArg (fun cells => [constructorMember.functionWith (.construct cells)]) hcells
  have hbuild : (Function.allUnder decision [host.buildMember.functionWith host.buildBody]).map
      (·.plain) = [((host.under decision fields).buildMember.functionWith
        (host.under decision fields).buildBody).plain] := by
    rw [plain_buildMember, ← buildBody_under decision hparameters]
    exact congrArg ([·]) (plain_buildMember host (host.buildBody.under decision))
  rw [counterpartFunctions, counterpartFunctions, List.map_append, ← List.singleton_append,
    Function.allUnder_append, Function.allUnder_append, hconstructor,
    allUnder_accessors decision hparameters, List.map_append, hbuild]
  rfl

/-- What is said about where a host can be written down is documentation. -/
theorem plain_factoryMember (host : Host) (body : Body) :
    (host.factoryMember.functionWith body).plain =
      ⟨[Attribute.inlined], ⟨false, Naming.factory, .none,
        some (.action Naming.factoryArgument host.counterpartType), .fallible .own⟩, body⟩ := by
  obtain ⟨lines, hlines⟩ : ∃ lines, (host.factoryMember.functionWith body).attributes =
      Attribute.documentationLines lines ++ [Attribute.inlined] := ⟨_, rfl⟩
  rw [Function.plain, hlines, List.filter_append, Attribute.filter_documentationLines]
  rfl

/-- The functions of the host exist in any case. -/
theorem admits_hostFunctions :
    ∀ function ∈ host.hostFunctions, decision.admits function.attributes = true := by
  have hfactory (lines : List String) :
      decision.admits (Attribute.documentationLines lines ++ [Attribute.inlined]) = true := by
    rw [decision.admits_append, decision.admits_documentationLines]
    rfl
  simp only [hostFunctions, List.forall_mem_cons, List.not_mem_nil, false_imp_iff, implies_true,
    and_true]
  exact ⟨rfl, rfl, hfactory _⟩

/-- The functions of the host use the fields that exist. -/
theorem hostFunctions_under (hparameters : host.parameters = Parameter.ofFields fields) :
    (Function.allUnder decision host.hostFunctions).map (·.plain) =
      (host.under decision fields).hostFunctions.map (·.plain) := by
  have htransfers : decision.remaining host.transfers = (host.under decision fields).transfers :=
    remaining_gated decision hparameters (fun parameter => Transfer.mk
      (host.naming.setter parameter.name.value) parameter.name.value) fun _ _ => rfl
  let start : ConstructorCall := ⟨host.counterpartType, Naming.constructor⟩
  have hfactory : (host.factoryMember.functionWith (.create start Naming.build)).plain =
      ((host.under decision fields).factoryMember.functionWith (.create start Naming.build)).plain :=
    (plain_factoryMember host _).trans (plain_factoryMember (host.under decision fields) _).symm
  have hall : host.hostFunctions.filter (fun function => decision.admits function.attributes) =
      host.hostFunctions := List.filter_eq_self.mpr (admits_hostFunctions decision)
  rw [Function.allUnder, hall]
  exact congrArg₂ (fun steps factory =>
    [(host.intoCounterpartMember.functionWith (.transfer start steps)).plain,
      (host.copyMember.functionWith (.copy host.naming.intoCounterpart Naming.build)).plain,
      factory]) htransfers hfactory

/-- What is assembled for a host, without its disabled parts, is assembled for the host without its
disabled fields. -/
theorem assembled_under (hparameters : host.parameters = Parameter.ofFields fields) :
    (host.assembled.under decision).plain = (host.under decision fields).assembled.plain := by
  have hcounterpart := counterpart_under decision hparameters
  have hcounterpartFunctions := counterpartFunctions_under decision hparameters
  have hhostFunctions := hostFunctions_under decision hparameters
  simp only [Emission.plain, Emission.under, assembled, hcounterpart, hcounterpartFunctions,
    hhostFunctions]
  rfl

end Host

end Emitted

namespace Sample

/-- A condition that no build meets. -/
def never : Attribute :=
  .generated ⟨⟨[], [.generated (.plain "cfg")]⟩,
    .list .parenthesis none none (Template.word "any" ++ Template.parentheses [])⟩

/-- The sample struct with the condition on the field that has a default. -/
def gated : StructItem :=
  { chain with
    fields := .named [chainField "first" [], chainField "value" [chainDefault "first", never],
      chainField "last" []] false }

/-- The host that this struct is. -/
def gatedHost : Host :=
  { chainHost with
    item := gated.withoutHelpers.constrained
    parameters := [chainParameter 0 "first" none,
      { chainParameter 1 "value" (some (chainReference "first")) with conditions := [never] },
      chainParameter 2 "last" none] }

end Sample

end Counterpart
