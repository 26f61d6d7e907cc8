import Counterpart.Proofs.LinkedCode

/-!
# Where the calls of emitted code lead

Emitted code fits together by its names, and every name is looked up by the rules of the language.
In most cases it leads to what is meant. The exceptions are names that something else hides: the two
types are told apart by their names only, generic parameters are in scope in all functions, and a
setter borrows the counterpart for changes, so that a method that every value has by value is found
before it. The main statement says that there are no other exceptions.
-/

namespace Counterpart

/-! ## Calls and locals -/

/-- A call of a generated function. -/
inductive Call where
  /-- A constructor in the path of a type. -/
  | constructor (type : Tree) (name : Ident)
  /-- A method of a counterpart that sets a field of the host. -/
  | setter (name field : Ident)
  /-- A method from a host to a counterpart. -/
  | intoCounterpart (name : Ident)
  /-- A method from a counterpart to a host. -/
  | build (name : Ident)

namespace ConstructorCall

/-- The call. -/
def call (start : ConstructorCall) : Call := .constructor start.type start.constructor

end ConstructorCall

namespace Body

/-- The calls of generated functions, in order. -/
def calls : Body → List Call
  | .construct _ | .read _ _ | .lend _ _ | .write _ | .resolve _ _ _ => []
  | .transfer start steps =>
    start.call :: steps.map fun step => .setter step.value.setter step.value.field
  | .copy intoCounterpart build => [.intoCounterpart intoCounterpart, .build build]
  | .create start build => [start.call, .build build]

/-- The words that are bound to values. -/
def localWords : Body → List String
  | .construct _ | .read _ _ | .lend _ _ | .write _ => []
  | .resolve steps _ _ =>
    steps.flatMap fun step => [Resolution.taken.name, step.value.binding.name]
  | .transfer _ _ | .copy _ _ | .create _ _ => [vocabulary.counterpartLocal.name]

end Body

namespace Argument

/-- The name of the argument. -/
def name : Argument → Ident
  | .value name _ => name
  | .action name _ => name

end Argument

namespace Function

/-- The words that are bound to values in the function. -/
def localWords (function : Function) : List String :=
  (function.signature.argument.map (·.name.name)).toList ++ function.body.localWords

/-- Documentation binds nothing. -/
@[simp] theorem localWords_plain (function : Function) :
    function.plain.localWords = function.localWords := rfl

end Function

namespace Emission

/-- The type of the counterpart, applied to its parameters. -/
def counterpartType (code : Emission) : Tree :=
  code.counterpart.generics.appliedType code.counterpart.ident

end Emission

namespace Call

/-- A call leads to one function, which is the one that is meant. Where the result of a call is the
receiver of another one, it is a counterpart. -/
def Finds (code : Emission) (members : List Member) : Call → Prop
  | .constructor type name => type = code.counterpartType ∧
    ∃ function, code.associated .counterpart name = [function] ∧
      function.IsMember members .constructor ∧ function.signature.result = .own
  | .setter name field => ∃ index function, code.method .counterpart name = [function] ∧
    function.IsMember members (.property index .set) ∧
      function.body = .write (Naming.backingField field)
  | .intoCounterpart name => ∃ function, code.method .host name = [function] ∧
    function.IsMember members .intoCounterpart ∧
      function.signature.result = .plain code.counterpartType
  | .build name => ∃ function, code.method .counterpart name = [function] ∧
    function.IsMember members .build

end Call

namespace Emission

/-- The name of either type stands for this type in both implementations. -/
def NamesTypes (code : Emission) : Prop :=
  ∀ place ∈ code.types, ∀ type ∈ code.types,
    code.meanings place.2.generics type.2.ident.value = [type.1]

/-- Emitted code in which every name leads to what is meant. -/
structure Closed (code : Emission) (members : List Member) : Prop where
  types : code.NamesTypes
  /-- Neither type has two functions of one name. -/
  functions : ∀ type ∈ code.types,
    ((code.functionsFor type.1).map (·.signature.name.name)).Nodup
  /-- No generic constant has the name of a local, which would not be bound then. -/
  locals : ∀ place ∈ code.types, ∀ function ∈ code.functionsAt place.1,
    ∀ word ∈ function.localWords, word ∉ place.2.generics.wordsOf .const
  /-- Every call leads to the function that is meant. -/
  calls : ∀ place ∈ code.types, ∀ function ∈ code.functionsAt place.1,
    ∀ call ∈ function.body.calls, call.Finds code members
  /-- So does the call of the constructor that makes the default of the counterpart. -/
  default_call : (Call.constructor code.counterpartType code.constructor).Finds code members

end Emission

/-- The words of the locals in the code for a host with the given fields. -/
def localWords (fields : List NamedField) : List String :=
  [Naming.counterpartLocal.name, Naming.copyArgument.name, Naming.factoryArgument.name]
    ++ fields.flatMap fun field => [Naming.setterArgument.name, field.ident.value.name]

/-- No name in the code for a host with these generic parameters and fields is hidden by another
one. -/
structure Unhidden (naming : Naming) (generics : Generics) (fields : List NamedField) : Prop where
  /-- The counterpart has a name of its own. -/
  distinct : naming.counterpart.value.name ≠ naming.host.value.name
  /-- No generic type has the name of the host or of the counterpart. -/
  types : ∀ word ∈ generics.wordsOf .type,
    word ≠ naming.host.value.name ∧ word ≠ naming.counterpart.value.name
  /-- No generic constant has the name of a local. -/
  locals : ∀ word ∈ generics.wordsOf .const, word ∉ localWords fields
  /-- No setter has the name of a method that every value has by value. -/
  setters : naming.configuration.javaSetters = true ∨
    ∀ field ∈ fields, field.ident.value.name ∉ ["into", "try_into"]

/-! ## Types by their names -/

namespace Emission

variable {code : Emission}

/-- Names stand for the types if they are different and no generic type has one of them. -/
theorem namesTypes_iff :
    code.NamesTypes ↔
      code.counterpart.ident.value.name ≠ code.host.ident.value.name ∧
        ∀ place ∈ code.types, ∀ word ∈ place.2.generics.wordsOf .type,
          word ≠ code.host.ident.value.name ∧ word ≠ code.counterpart.ident.value.name := by
  have hmeaning (generics : Generics) (name : Ident) (owner : Owner) :
      code.meanings generics name = [owner] ↔ name.name ∉ generics.wordsOf .type ∧
        (code.types.filter fun type => type.2.ident.value.name = name.name).map (·.1) =
          [owner] := by
    unfold meanings
    split <;> simp_all
  simp only [NamesTypes, hmeaning, types, List.forall_mem_cons, List.not_mem_nil, false_imp_iff,
    implies_true, and_true, List.filter_cons, List.filter_nil, decide_true, if_true]
  by_cases hsame : code.counterpart.ident.value.name = code.host.ident.value.name
  · simp [hsame]
  · simp only [decide_eq_true_eq, hsame, Ne.symm hsame, if_false, List.map_cons, List.map_nil,
      and_true, ne_eq, not_false_eq_true, true_and]
    constructor
    · rintro ⟨⟨hhost, hcounterpart⟩, hother, hown⟩
      exact ⟨fun word hword => ⟨fun h => hhost (h ▸ hword), fun h => hcounterpart (h ▸ hword)⟩,
        fun word hword => ⟨fun h => hother (h ▸ hword), fun h => hown (h ▸ hword)⟩⟩
    · rintro ⟨hhost, hcounterpart⟩
      exact ⟨⟨fun h => (hhost _ h).1 rfl, fun h => (hhost _ h).2 rfl⟩,
        fun h => (hcounterpart _ h).1 rfl, fun h => (hcounterpart _ h).2 rfl⟩

/-- If names stand for the types, each type has the functions of its own implementation. -/
theorem NamesTypes.functionsFor (h : code.NamesTypes) {type : Owner × StructItem}
    (htype : type ∈ code.types) : code.functionsFor type.1 = code.functionsAt type.1 := by
  have hhost : (Owner.host, code.host) ∈ code.types := List.mem_cons_self
  have hcounterpart : (Owner.counterpart, code.counterpart) ∈ code.types :=
    List.mem_cons_of_mem _ List.mem_cons_self
  have hhead := h _ hhost _ hhost
  have hother := h _ hcounterpart _ hcounterpart
  simp only [types, List.mem_cons, List.not_mem_nil, or_false] at htype
  rcases htype with rfl | rfl
  · simp [Emission.functionsFor, types, hhead, hother]
  · simp [Emission.functionsFor, types, hhead, hother]

section Unique

variable (h : code.NamesTypes) {type : Owner × StructItem} (htype : type ∈ code.types)
  (hwords : ((code.functionsAt type.1).map (·.signature.name.name)).Nodup)
  {function : Function} (hfunction : function ∈ code.functionsAt type.1)

include h htype hwords hfunction

/-- A function is found in the path of its type. -/
theorem NamesTypes.associated_eq : code.associated type.1 function.signature.name = [function] := by
  rw [associated, h.functionsFor htype]
  exact filter_of_unique_key hwords hfunction

/-- A method that is passed its receiver by value is found. -/
theorem NamesTypes.method_of_owned (hpassing : function.signature.receiver.passing? = some .owned) :
    code.method type.1 function.signature.name = [function] := by
  have hsearch := Function.searched_of_unique hwords hfunction hpassing [] [.shared, .exclusive]
    List.not_mem_nil
  rw [method, h.functionsFor htype]
  exact hsearch.trans (by simp)

/-- A method that borrows its receiver for changes is found, unless every value has a method of its
name by value. -/
theorem NamesTypes.method_of_exclusive
    (hpassing : function.signature.receiver.passing? = some .exclusive) :
    code.method type.1 function.signature.name =
      if function.signature.name.name ∈ ["into", "try_into"] then [] else [function] := by
  have hsearch := Function.searched_of_unique hwords hfunction hpassing [.owned, .shared] []
    (by decide)
  rw [method, h.functionsFor htype]
  exact hsearch.trans (by simp [preludeMethods])

end Unique

end Emission

/-! ## What the names of a host hide -/

namespace Parameter

/-- What does not depend on the place of a parameter holds of the parameters of fields if it holds
of every field. -/
theorem forall_mem_ofFieldsFrom (holds : Parameter → Prop)
    (h : ∀ index field, holds (ofField index field) ↔ holds (ofField 0 field))
    (fields : List NamedField) (start : Nat) :
    (∀ parameter ∈ ofFieldsFrom start fields, holds parameter) ↔
      ∀ field ∈ fields, holds (ofField 0 field) := by
  induction fields generalizing start with
  | nil => simp [ofFieldsFrom]
  | cons field rest ih => rw [ofFieldsFrom, List.forall_mem_cons, List.forall_mem_cons, h, ih]

end Parameter

namespace Generics

/-- What `Self` is replaced by names no parameter, and neither does a colon. -/
theorem wordsOf_settled (substitution : Substitution) (generics : Generics) (kind : GenericKind) :
    (substitution.inGenerics generics).settled.wordsOf kind = generics.wordsOf kind := by
  have hparameter (parameter : GenericParameter) :
      ∀ read, read = (if (substitution.inParameter parameter).bounds.isEmpty then
          { substitution.inParameter parameter with colon := [] }
        else substitution.inParameter parameter) →
      read.kind = parameter.kind ∧ read.name = parameter.name := by
    rintro read rfl
    split <;> exact ⟨rfl, rfl⟩
  obtain ⟨parameters, trailing, clause⟩ := generics
  simp only [wordsOf, settled, Substitution.inGenerics, List.map_map]
  induction parameters with
  | nil => rfl
  | cons parameter rest ih =>
    obtain ⟨hkind, hname⟩ := hparameter parameter _ rfl
    simp only [List.map_cons, List.filter_cons, Function.comp_apply, hkind]
    split
    · rw [List.flatMap_cons, List.flatMap_cons, ih, hname]
    · exact ih

end Generics

namespace Host

variable {host : Host} {fields : List NamedField} (decision : Decision)

/-- The counterpart has the generic parameters of the host. -/
theorem wordsOf_under (host : Host) (kind : GenericKind) :
    ∀ place ∈ (host.assembled.under decision).types,
      place.2.generics.wordsOf kind = host.item.generics.wordsOf kind := by
  simp only [Emission.types, List.forall_mem_cons, List.not_mem_nil, false_imp_iff, implies_true,
    and_true]
  exact ⟨rfl, Generics.wordsOf_settled _ _ kind⟩

/-- The locals of the functions of a host. -/
theorem localWords_hostFunctions (host : Host) :
    host.hostFunctions.flatMap (·.localWords) =
      [Naming.counterpartLocal.name, Naming.copyArgument.name, Naming.counterpartLocal.name,
        Naming.factoryArgument.name, Naming.counterpartLocal.name] := rfl

/-- The locals of the functions of a counterpart. -/
theorem localWords_counterpartFunctions (hparameters : host.parameters = Parameter.ofFields fields) :
    host.counterpartFunctions.flatMap (·.localWords) =
      (fields.flatMap fun _ => [Naming.setterArgument.name]) ++
        fields.flatMap fun field => [Naming.setterArgument.name, field.ident.value.name] := by
  have haccessors : (host.parameters.flatMap fun parameter =>
      Accessor.all.map (host.accessorFunction parameter)).flatMap (·.localWords) =
        fields.flatMap fun _ => [Naming.setterArgument.name] := by
    have hfields := Parameter.map_ofFieldsFrom (fun _ => [Naming.setterArgument.name])
      (fun _ _ => rfl) 0 fields
    rw [List.flatMap_assoc, hparameters, List.flatMap_def, List.flatMap_def]
    exact congrArg List.flatten hfields
  have hbuild : (host.buildMember.functionWith host.buildBody).localWords =
      fields.flatMap fun field => [Naming.setterArgument.name, field.ident.value.name] := by
    have hfields := Parameter.map_ofFieldsFrom
      (fun parameter => [Naming.setterArgument.name, parameter.name.value.name])
      (fun _ _ => rfl) 0 fields
    refine Eq.trans ?_ (congrArg List.flatten hfields)
    change (host.parameters.map host.resolution).flatMap _ = _
    rw [List.flatMap_map, hparameters]
    rfl
  rw [counterpartFunctions, List.flatMap_append, List.flatMap_cons, haccessors,
    List.flatMap_singleton, hbuild]
  rfl

/-- The locals in the code for a host are those for the fields that exist. -/
theorem mem_localWords_under (hparameters : host.parameters = Parameter.ofFields fields)
    (word : String) :
    (∃ place ∈ (host.assembled.under decision).types,
        ∃ function ∈ (host.assembled.under decision).functionsAt place.1,
          word ∈ function.localWords) ↔
      word ∈ localWords (fields.filter fun field => decision.admits field.attributes) := by
  have hplain (functions : List Function) :
      (functions.map (·.plain)).flatMap (·.localWords) = functions.flatMap (·.localWords) := by
    simp [List.flatMap_map]
  have hunder := assembled_under decision hparameters
  have hhost : (host.assembled.under decision).hostFunctions.flatMap (·.localWords) =
      (host.under decision fields).hostFunctions.flatMap (·.localWords) := by
    rw [← hplain, ← hplain (host.under decision fields).hostFunctions]
    exact congrArg (fun code => code.hostFunctions.flatMap (·.localWords)) hunder
  have hcounterpart : (host.assembled.under decision).counterpartFunctions.flatMap (·.localWords) =
      (host.under decision fields).counterpartFunctions.flatMap (·.localWords) := by
    rw [← hplain, ← hplain (host.under decision fields).counterpartFunctions]
    exact congrArg (fun code => code.counterpartFunctions.flatMap (·.localWords)) hunder
  rw [localWords_hostFunctions] at hhost
  rw [localWords_counterpartFunctions rfl] at hcounterpart
  simp only [Emission.types, List.mem_cons, List.not_mem_nil, or_false, exists_eq_or_imp,
    exists_eq_left, Emission.functionsAt, ← List.mem_flatMap, hhost, hcounterpart, localWords,
    List.mem_append]
  simp only [List.mem_flatMap, List.mem_cons, List.not_mem_nil, or_false]
  aesop

/-- The names of a host and of its counterpart stand for them under these conditions. -/
theorem namesTypes_under (hname : host.naming.host.value = host.item.ident.value) :
    (host.assembled.under decision).NamesTypes ↔
      host.naming.counterpart.value.name ≠ host.naming.host.value.name ∧
        ∀ word ∈ host.item.generics.wordsOf .type,
          word ≠ host.naming.host.value.name ∧ word ≠ host.naming.counterpart.value.name := by
  have hwords := host.wordsOf_under decision .type
  rw [Emission.namesTypes_iff, hname]
  refine and_congr Iff.rfl ⟨fun h word hword => ?_, fun h place hplace word hword => ?_⟩
  · refine h (.host, (host.assembled.under decision).host) List.mem_cons_self word ?_
    rwa [hwords _ List.mem_cons_self]
  · rw [hwords place hplace] at hword
    exact h word hword

/-- Locals are bound under this condition. -/
theorem locals_under (hparameters : host.parameters = Parameter.ofFields fields) :
    (∀ place ∈ (host.assembled.under decision).types,
        ∀ function ∈ (host.assembled.under decision).functionsAt place.1,
          ∀ word ∈ function.localWords, word ∉ place.2.generics.wordsOf .const) ↔
      ∀ word ∈ host.item.generics.wordsOf .const,
        word ∉ localWords (fields.filter fun field => decision.admits field.attributes) := by
  have hwords := host.wordsOf_under decision .const
  constructor
  · intro h word hword hlocal
    obtain ⟨place, hplace, function, hfunction, hbound⟩ :=
      (mem_localWords_under decision hparameters word).mpr hlocal
    refine h place hplace function hfunction word hbound ?_
    rwa [hwords place hplace]
  · intro h place hplace function hfunction word hbound hword
    rw [hwords place hplace] at hword
    exact h word hword ((mem_localWords_under decision hparameters word).mp
      ⟨place, hplace, function, hfunction, hbound⟩)

/-- With a verb in front, no setter is named like a method of every value. -/
theorem setter_visible {naming : Naming} (h : naming.configuration.javaSetters = true)
    (field : Ident) : (naming.setter field).name ∉ ["into", "try_into"] := by
  have hfirst : (naming.setter field).name.toList.head? = some 's' := by
    rw [setter_of_javaSetters h]
    simp [Ident.plain, String.toList_append]
  intro hmem
  simp only [List.mem_cons, List.not_mem_nil, or_false] at hmem
  rcases hmem with hsame | hsame <;> simp [hsame] at hfirst

/-- Only a setter with a bare name can be named like a method of every value. -/
theorem setters_under (hparameters : host.parameters = Parameter.ofFields fields) :
    (∀ parameter ∈ host.parameters, decision.admits parameter.conditions = true →
        (host.naming.setter parameter.name.value).name ∉ ["into", "try_into"]) ↔
      host.naming.configuration.javaSetters = true ∨
        ∀ field ∈ fields.filter fun field => decision.admits field.attributes,
          field.ident.value.name ∉ ["into", "try_into"] := by
  by_cases hjava : host.naming.configuration.javaSetters = true
  · exact ⟨fun _ => .inl hjava, fun _ _ _ _ => setter_visible hjava _⟩
  · have hfields := Parameter.forall_mem_ofFieldsFrom
      (fun parameter => decision.admits parameter.conditions = true →
        parameter.name.value.name ∉ ["into", "try_into"]) (fun _ _ => Iff.rfl) fields 0
    simp only [setter_of_not_javaSetters hjava, hjava, false_or, hparameters, Parameter.ofFields,
      hfields, List.mem_filter, and_imp, Bool.false_eq_true]
    simp only [Parameter.ofField, decision.admits_conditions]

section Calls

variable {decision}
variable (hnumbered : host.Numbered)
  (hwords : ((host.assembled.functionsAt .counterpart).map (·.signature.name.name)).Nodup)
  (hnames : (host.assembled.under decision).NamesTypes)

include hnumbered hwords hnames

/-- The setter of a field that exists is found, unless it is named like a method of every value. -/
theorem Numbered.finds_setter {parameter : Parameter} (hparameter : parameter ∈ host.parameters)
    (hexists : decision.admits parameter.conditions = true) :
    (Call.setter (host.naming.setter parameter.name.value) parameter.name.value).Finds
        (host.assembled.under decision) (host.present decision) ↔
      (host.naming.setter parameter.name.value).name ∉ ["into", "try_into"] := by
  obtain ⟨hfunction, hmember⟩ := hnumbered.emits_setter decision hparameter hexists
  have hmethod := hnames.method_of_exclusive (List.mem_cons_of_mem _ List.mem_cons_self)
    (words_under_nodup decision hwords) hfunction rfl
  change (host.assembled.under decision).method .counterpart
    (host.naming.setter parameter.name.value) =
      if (host.naming.setter parameter.name.value).name ∈ ["into", "try_into"] then [] else _
    at hmethod
  rw [Call.Finds, hmethod]
  constructor
  · rintro ⟨index, function, hfound, -⟩ hhidden
    rw [if_pos hhidden] at hfound
    cases hfound
  · intro hvisible
    exact ⟨parameter.index, _, if_neg hvisible, hmember, rfl⟩

/-- The constructor is found in the path of the counterpart. -/
theorem Numbered.finds_constructor :
    (Call.constructor host.counterpartType Naming.constructor).Finds
      (host.assembled.under decision) (host.present decision) := by
  obtain ⟨hfunction, hmember⟩ := hnumbered.emits_constructor decision
  exact ⟨rfl, _, hnames.associated_eq (List.mem_cons_of_mem _ List.mem_cons_self)
    (words_under_nodup decision hwords) hfunction, hmember, rfl⟩

/-- The function that makes a host is found. -/
theorem Numbered.finds_build :
    (Call.build Naming.build).Finds (host.assembled.under decision) (host.present decision) := by
  obtain ⟨hfunction, hmember⟩ := hnumbered.emits_build decision
  refine ⟨_, hnames.method_of_owned (List.mem_cons_of_mem _ List.mem_cons_self)
    (words_under_nodup decision hwords) hfunction ?_, hmember⟩
  change (if host.parameters.isEmpty then Receiver.owned else .ownedChanging).passing? = _
  split <;> rfl

omit hwords in
/-- The function from the host to its counterpart is found. -/
theorem Numbered.finds_intoCounterpart :
    (Call.intoCounterpart host.naming.intoCounterpart).Finds (host.assembled.under decision)
      (host.present decision) := by
  obtain ⟨hfunction, hmember⟩ := hnumbered.emits_intoCounterpart decision
  exact ⟨_, hnames.method_of_owned List.mem_cons_self
    (words_under_nodup decision host.words_hostFunctions_nodup) hfunction rfl, hmember, rfl⟩

end Calls

/-- Functions of the counterpart call no generated functions. -/
theorem calls_of_mem_counterpartFunctions {function : Function}
    (hfunction : function ∈ host.counterpartFunctions) :
    (function.body.under decision).calls = [] := by
  simp only [counterpartFunctions, List.cons_append, List.mem_cons, List.mem_append,
    List.mem_flatMap, List.not_mem_nil, or_false] at hfunction
  rcases hfunction with rfl | ⟨parameter, -, hfunction⟩ | rfl
  · rfl
  · obtain ⟨accessor, -, rfl⟩ := List.mem_map.mp hfunction
    cases accessor <;> rfl
  · rfl

/-- The calls in the code for a host: those of setters, and others. -/
theorem calls_under (host : Host) {leads : Call → Prop} :
    (∀ place ∈ (host.assembled.under decision).types,
        ∀ function ∈ (host.assembled.under decision).functionsAt place.1,
          ∀ call ∈ function.body.calls, leads call) ↔
      (leads (.constructor host.counterpartType Naming.constructor) ∧ leads (.build Naming.build) ∧
        leads (.intoCounterpart host.naming.intoCounterpart)) ∧
      ∀ parameter ∈ host.parameters, decision.admits parameter.conditions = true →
        leads (.setter (host.naming.setter parameter.name.value) parameter.name.value) := by
  have hcounterpart : ∀ function ∈ (host.assembled.under decision).counterpartFunctions,
      ∀ call ∈ function.body.calls, leads call := by
    intro function hfunction call hcall
    obtain ⟨whole, hwhole, rfl⟩ := List.mem_map.mp hfunction
    rw [Function.under, calls_of_mem_counterpartFunctions decision (List.mem_filter.mp hwhole).1]
      at hcall
    cases hcall
  have hhost : (host.assembled.under decision).hostFunctions.map (·.body) =
      [.transfer ⟨host.counterpartType, Naming.constructor⟩ (decision.remaining host.transfers),
        .copy host.naming.intoCounterpart Naming.build,
        .create ⟨host.counterpartType, Naming.constructor⟩ Naming.build] := by
    change ((host.hostFunctions.filter fun function => decision.admits function.attributes).map
      (·.under decision)).map (·.body) = _
    rw [List.filter_eq_self.mpr (admits_hostFunctions decision)]
    rfl
  have hbodies : (∀ function ∈ (host.assembled.under decision).hostFunctions,
      ∀ call ∈ function.body.calls, leads call) ↔
        ∀ body ∈ (host.assembled.under decision).hostFunctions.map (·.body),
          ∀ call ∈ body.calls, leads call := by
    rw [List.forall_mem_map]
  have hsetters : (∀ call ∈ (decision.remaining host.transfers).map (fun step =>
        Call.setter step.value.setter step.value.field), leads call) ↔
      ∀ parameter ∈ host.parameters, decision.admits parameter.conditions = true →
        leads (.setter (host.naming.setter parameter.name.value) parameter.name.value) := by
    simp only [Decision.remaining, transfers, List.forall_mem_map, List.mem_filter, and_imp,
      gated]
  have hplaces : (∀ place ∈ (host.assembled.under decision).types,
      ∀ function ∈ (host.assembled.under decision).functionsAt place.1,
        ∀ call ∈ function.body.calls, leads call) ↔
      ∀ function ∈ (host.assembled.under decision).hostFunctions,
        ∀ call ∈ function.body.calls, leads call := by
    rw [Emission.types, List.forall_mem_cons, List.forall_mem_singleton]
    exact and_iff_left hcounterpart
  rw [hplaces, hbodies, hhost]
  simp only [List.forall_mem_cons, List.not_mem_nil, false_imp_iff, implies_true, and_true,
    Body.calls, hsetters, ConstructorCall.call]
  exact ⟨fun h => ⟨⟨h.1.1, h.2.1.2, h.2.1.1⟩, h.1.2⟩,
    fun h => ⟨⟨h.1.1, h.2⟩, ⟨h.1.2.2, h.1.2.1⟩, h.1.1, h.1.2.1⟩⟩

/-- Every name in the code for a host leads to what is meant exactly if none is hidden. -/
theorem Numbered.closed_iff (hnumbered : host.Numbered)
    (hparameters : host.parameters = Parameter.ofFields fields)
    (hname : host.naming.host.value = host.item.ident.value)
    (hwords : ((host.assembled.functionsAt .counterpart).map (·.signature.name.name)).Nodup) :
    (host.assembled.under decision).Closed (host.present decision) ↔
      Unhidden host.naming host.item.generics (fields.filter fun field =>
        decision.admits field.attributes) := by
  have hsetter (hnames : (host.assembled.under decision).NamesTypes) :
      (∀ parameter ∈ host.parameters, decision.admits parameter.conditions = true →
        (Call.setter (host.naming.setter parameter.name.value) parameter.name.value).Finds
          (host.assembled.under decision) (host.present decision)) ↔
        ∀ parameter ∈ host.parameters, decision.admits parameter.conditions = true →
          (host.naming.setter parameter.name.value).name ∉ ["into", "try_into"] :=
    forall₃_congr fun parameter hparameter hexists =>
      hnumbered.finds_setter hwords hnames hparameter hexists
  constructor
  · intro h
    obtain ⟨hdistinct, htypes⟩ := (namesTypes_under decision hname).mp h.types
    exact
      { distinct := hdistinct
        types := htypes
        locals := (locals_under decision hparameters).mp h.locals
        setters := (setters_under decision hparameters).mp
          ((hsetter h.types).mp ((host.calls_under decision).mp h.calls).2) }
  · intro h
    have hnames := (namesTypes_under decision hname).mpr ⟨h.distinct, h.types⟩
    have hconstructor := hnumbered.finds_constructor hwords hnames
    exact
      { types := hnames
        functions := fun type htype => by
          rw [hnames.functionsFor htype]
          simp only [Emission.types, List.mem_cons, List.not_mem_nil, or_false] at htype
          rcases htype with rfl | rfl
          · exact words_under_nodup decision host.words_hostFunctions_nodup
          · exact words_under_nodup decision hwords
        locals := (locals_under decision hparameters).mpr h.locals
        calls := (host.calls_under decision).mpr
          ⟨⟨hconstructor, hnumbered.finds_build hwords hnames,
            hnumbered.finds_intoCounterpart hnames⟩,
            (hsetter hnames).mpr ((setters_under decision hparameters).mpr h.setters)⟩
        default_call := hconstructor }

end Host

namespace Sample

/-- A struct whose only field is named like a method that every value has by value. -/
def converted : StructItem := { chain with fields := .named [chainField "into" []] false }

/-- The host that this struct is with its own name or another one for the counterpart. -/
def convertedHost (rename : Option (Located Ident)) : Host where
  item := converted.constrained
  naming := .ofHost converted.ident .standard rename
  parameters := [chainParameter 0 "into" none]
  visibility := .everywhere

/-- The struct passes all checks. -/
theorem ofStruct_converted (rename : Option (Located Ident)) :
    Host.ofStruct converted .standard rename = .ok (convertedHost rename) := rfl

/-- In its code a name leads astray, if one is hidden. -/
theorem not_closed_converted {rename : Option (Located Ident)} {emission : Emission}
    (hemission : (convertedHost rename).emission = .ok emission)
    (hhidden : ¬ Unhidden (convertedHost rename).naming .none [chainField "into" []])
    (decision : Decision) :
    ¬ (emission.under decision).Closed ((convertedHost rename).table.filter fun member =>
      decision.admits member.attributes) := by
  have hnumbered := Host.numbered_of_ofStruct (ofStruct_converted rename)
  have hparameters : (convertedHost rename).parameters =
      Parameter.ofFields [chainField "into" []] := rfl
  have hwords := Host.words_counterpartFunctions_nodup hparameters
    (Host.emission_eq_of_ok hemission).1 (List.nodup_singleton _) (by decide)
  rw [hnumbered.emission_eq_assembled hemission]
  exact mt (hnumbered.closed_iff decision hparameters rfl hwords).mp hhidden

end Sample

/-- For a struct whose counterpart is given the name of the struct, a session emits two functions
`build` for one type. -/
theorem code_not_closed_renamed :
    Session.empty.register Sample.converted .standard (some Sample.converted.ident) =
      .ok (0, ⟨[Sample.convertedHost (some Sample.converted.ident)]⟩) ∧
    ∃ emission,
      Session.emit ⟨[Sample.convertedHost (some Sample.converted.ident)]⟩ 0 = .ok emission ∧
      (emission.associated .counterpart Naming.build).length = 2 ∧
      ∀ decision, ¬ (emission.under decision).Closed
        ((Sample.convertedHost (some Sample.converted.ident)).table.filter fun member =>
          decision.admits member.attributes) := by
  have htwice : (Session.emit ⟨[Sample.convertedHost (some Sample.converted.ident)]⟩ 0).toOption.map
      (fun emission => (emission.associated .counterpart Naming.build).length) = some 2 := by
    decide +kernel
  cases hemit : Session.emit ⟨[Sample.convertedHost (some Sample.converted.ident)]⟩ 0 with
  | error reason =>
    rw [hemit] at htwice
    cases htwice
  | ok emission =>
    rw [hemit] at htwice
    refine ⟨rfl, emission, rfl, Option.some.inj htwice, ?_⟩
    exact Sample.not_closed_converted hemit fun hunhidden => hunhidden.distinct rfl

end Counterpart
