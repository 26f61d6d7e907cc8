import Counterpart.Proofs.CallLookup
import Counterpart.Proofs.DistinctNames
import Counterpart.Proofs.FieldConditions

/-!
# Emitted code fits together

Declarations, struct expressions, accessors and statements are generated one by one from the same
parameters. They fit together whatever the configuration and the name of the counterpart are, and
also when the parts of disabled fields are gone: a struct expression lists the fields of its struct,
a conversion names the setter of every field, and every member stands in the implementation for its
owner. Here a function is known by its implementation and its name; what the language makes of a
call is another matter.
-/

namespace Counterpart

open Template

namespace Function

/-- What a function is declared as. -/
def declared (function : Function) : List Attribute × Signature :=
  (function.attributes, .function function.signature)

/-- The function is declared as the member of a kind. -/
def IsMember (members : List Member) (kind : MemberKind) (function : Function) : Prop :=
  ∃ member, Member.find? members kind = some member ∧ function.attributes = member.attributes ∧
    member.signature = .function function.signature

end Function

namespace Emission

/-- The functions of a name in the implementation for a place. A raw mark does not make another
name. -/
def named (code : Emission) (owner : Owner) (name : Ident) : List Function :=
  (code.functionsAt owner).filter fun function => function.signature.name.name = name.name

/-- A name is that of one function in its implementation, which is the member of the given kind. -/
def Declares (code : Emission) (members : List Member) (kind : MemberKind) (name : Ident)
    (function : Function) : Prop :=
  code.named kind.owner name = [function] ∧ function.IsMember members kind

end Emission

/-! ## What remains of a host -/

/-- Functions are removed place by place. -/
theorem Emission.functionsAt_under (decision : Decision) (code : Emission) (owner : Owner) :
    (code.under decision).functionsAt owner =
      Function.allUnder decision (code.functionsAt owner) := by
  cases owner <;> rfl

namespace Host

variable {host : Host} {fields : List NamedField} (decision : Decision)

/-- The members that exist. -/
def present (host : Host) : List Member :=
  host.table.filter fun member => decision.admits member.attributes

/-- A function of the emitted code is the member of a kind. -/
def Emits (host : Host) (kind : MemberKind) (function : Function) : Prop :=
  function ∈ (host.assembled.under decision).functionsAt kind.owner ∧
    function.IsMember (host.present decision) kind

variable {decision}

/-- In an implementation without repetitions, such a function is known by its name. -/
theorem Emits.declares {kind : MemberKind} {function : Function}
    (h : host.Emits decision kind function)
    (hwords : (((host.assembled.under decision).functionsAt kind.owner).map
      (·.signature.name.name)).Nodup) :
    (host.assembled.under decision).Declares (host.present decision) kind function.signature.name
      function :=
  ⟨filter_of_unique_key hwords h.1, h.2⟩

variable (decision)

/-- The function of a member that exists is the member of its kind. -/
theorem Numbered.emits (hnumbered : host.Numbered) {member : Member}
    (hmember : member ∈ host.table) (hexists : decision.admits member.attributes = true)
    {signature : FunctionSignature} (hsignature : member.signature = .function signature)
    {body : Body}
    (hfunction : ⟨member.attributes, signature, body⟩ ∈ host.assembled.functionsAt member.owner) :
    host.Emits decision member.kind ⟨member.attributes, signature, body.under decision⟩ := by
  refine ⟨?_, member, ?_, rfl, hsignature⟩
  · rw [Emission.functionsAt_under]
    exact List.mem_map.mpr ⟨_, List.mem_filter.mpr ⟨hfunction, hexists⟩, rfl⟩
  · have hkinds : ((host.present decision).map (·.kind)).Nodup :=
      hnumbered.kinds_nodup.sublist (List.filter_sublist.map _)
    exact find?_of_unique_key hkinds (List.mem_filter.mpr ⟨hmember, hexists⟩)

/-- What is removed repeats no name. -/
theorem words_under_nodup {owner : Owner}
    (hwords : ((host.assembled.functionsAt owner).map (·.signature.name.name)).Nodup) :
    (((host.assembled.under decision).functionsAt owner).map (·.signature.name.name)).Nodup := by
  rw [Emission.functionsAt_under, Function.allUnder, List.map_map]
  exact hwords.sublist (List.filter_sublist.map _)

/-- Members that are no accessors exist in any case. -/
theorem admits_buildMember (host : Host) : decision.admits host.buildMember.attributes = true :=
  decision.admits_documentationLines _

/-- The names of the functions of the host are different identifiers. -/
theorem words_hostFunctions_nodup (host : Host) :
    ((host.assembled.functionsAt .host).map (·.signature.name.name)).Nodup := by
  change [host.naming.intoCounterpart.name, "copy", "build"].Nodup
  unfold Naming.intoCounterpart
  cases host.naming.configuration.style <;> decide

/-- So are those of the functions of the counterpart, if no field is raw. -/
theorem words_counterpartFunctions_nodup (hparameters : host.parameters = Parameter.ofFields fields)
    (hwritten : (Member.namesOf .counterpart host.table).Nodup)
    (hdistinct : (fields.map (·.ident.value.name)).Nodup)
    (hplain : ∀ field ∈ fields, field.ident.value.isRaw = false) :
    ((host.assembled.functionsAt .counterpart).map (·.signature.name.name)).Nodup := by
  have hnames : host.counterpartFunctions.map (·.signature.name) =
      functionNames host.naming fields := by
    rw [names_counterpartFunctions, namesOf_counterpart_eq hparameters]
  have hwords : (host.assembled.functionsAt .counterpart).map (·.signature.name.name) =
      (functionNames host.naming fields).map (·.name) := by
    rw [← hnames, List.map_map]
    rfl
  rw [namesOf_counterpart_eq hparameters] at hwritten
  rw [hwords, nodup_words_iff hwritten hdistinct]
  refine .inr fun field hfield hraw => ?_
  rw [hplain field hfield] at hraw
  cases hraw

/-- The constructor of the counterpart with what it makes. -/
def constructorUnder (host : Host) : Function :=
  constructorMember.functionWith (.construct (decision.remaining host.cells))

/-- The function that makes a host with what it does. -/
def buildUnder (host : Host) : Function :=
  host.buildMember.functionWith (host.buildBody.under decision)

/-- The function from the host to its counterpart with what it does. -/
def intoCounterpartUnder (host : Host) : Function :=
  host.intoCounterpartMember.functionWith
    (.transfer ⟨host.counterpartType, Naming.constructor⟩ (decision.remaining host.transfers))

section Functions

variable (hnumbered : host.Numbered)

include hnumbered

/-- The constructor is emitted. -/
theorem Numbered.emits_constructor :
    host.Emits decision .constructor (host.constructorUnder decision) :=
  have hmember : constructorMember ∈ host.table := by simp [table]
  hnumbered.emits decision hmember rfl rfl List.mem_cons_self

/-- The function that makes a host is emitted. -/
theorem Numbered.emits_build : host.Emits decision .build (host.buildUnder decision) :=
  hnumbered.emits decision host.buildMember_mem_table (host.admits_buildMember decision) rfl
    (List.mem_append_right _ (List.mem_singleton_self _))

/-- The setter of a field that exists is emitted. -/
theorem Numbered.emits_setter {parameter : Parameter} (hparameter : parameter ∈ host.parameters)
    (hexists : decision.admits parameter.conditions = true) :
    host.Emits decision (.property parameter.index .set) (host.accessorFunction parameter .set) := by
  have hadmits : decision.admits (host.accessorFunction parameter .set).attributes = true := by
    rw [admits_accessorFunction, hexists]
  have hfunction : host.accessorFunction parameter .set ∈ host.counterpartFunctions :=
    List.mem_append_left _ (List.mem_cons_of_mem _ (List.mem_flatMap.mpr
      ⟨parameter, hparameter, List.mem_map.mpr ⟨.set, by decide, rfl⟩⟩))
  exact hnumbered.emits decision (accessorMember_mem_table hparameter .set) hadmits rfl hfunction

/-- The function from the host to its counterpart is emitted. -/
theorem Numbered.emits_intoCounterpart :
    host.Emits decision .intoCounterpart (host.intoCounterpartUnder decision) :=
  hnumbered.emits decision host.intoCounterpartMember_mem_table rfl rfl List.mem_cons_self

end Functions

end Host

end Counterpart
