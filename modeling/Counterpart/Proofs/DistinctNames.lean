import Counterpart.Proofs.Assembly
import Counterpart.Sample.Chain

/-!
# Names of the counterpart's functions

A word and its raw spelling are one and the same identifier. The check for collisions compares names
as they are written, so all functions of a counterpart are written differently. They are different
identifiers as well, with one exception: a setter that is named by its bare field keeps the raw mark
of the field, and the mark hides that the word is taken by another member. The main statement says
exactly when that happens.
-/

namespace Counterpart

namespace Host

/-- The words that name members of the counterpart other than setters. -/
def takenWords (fields : List NamedField) : List String :=
  Naming.constructor.name :: Naming.build.name :: fields.flatMap fun field =>
    [(Naming.getter field.ident.value).name, (Naming.mutableGetter field.ident.value).name]

/-- The names of the counterpart's functions, in order. -/
def functionNames (naming : Naming) (fields : List NamedField) : List Ident :=
  Naming.constructor :: fields.flatMap (fun field =>
      [Naming.getter field.ident.value, Naming.mutableGetter field.ident.value,
        naming.setter field.ident.value])
    ++ [Naming.build]

/-- The members of the counterpart have these names. -/
theorem namesOf_counterpart_eq {host : Host} {fields : List NamedField}
    (h : host.parameters = Parameter.ofFields fields) :
    Member.namesOf .counterpart host.table = functionNames host.naming fields := by
  have hnames := Parameter.map_ofFieldsFrom (fun parameter =>
    Accessor.all.map fun accessor => (host.accessorSignature parameter accessor).name)
    (fun _ _ => rfl) 0 fields
  rw [namesOf_counterpart_table, functionNames, h, List.flatMap_def, List.flatMap_def,
    Parameter.ofFields, hnames]
  rfl

variable {naming : Naming} {fields : List NamedField}

/-- The names that are no setters are the taken words, without a raw mark. -/
theorem mem_functionNames {ident : Ident} :
    ident ∈ functionNames naming fields ↔
      (∃ word ∈ takenWords fields, ident = .plain word) ∨
        ∃ field ∈ fields, ident = naming.setter field.ident.value := by
  simp only [functionNames, takenWords, List.cons_append, List.mem_cons, List.mem_append,
    List.mem_flatMap, List.not_mem_nil, or_false]
  constructor
  · rintro (rfl | ⟨field, hfield, rfl | rfl | rfl⟩ | rfl)
    · exact .inl ⟨_, .inl rfl, rfl⟩
    · exact .inl ⟨_, .inr (.inr ⟨field, hfield, .inl rfl⟩), rfl⟩
    · exact .inl ⟨_, .inr (.inr ⟨field, hfield, .inr rfl⟩), rfl⟩
    · exact .inr ⟨field, hfield, rfl⟩
    · exact .inl ⟨_, .inr (.inl rfl), rfl⟩
  · rintro (⟨word, rfl | rfl | ⟨field, hfield, rfl | rfl⟩, rfl⟩ | ⟨field, hfield, rfl⟩)
    · exact .inl rfl
    · exact .inr (.inr rfl)
    · exact .inr (.inl ⟨field, hfield, .inl rfl⟩)
    · exact .inr (.inl ⟨field, hfield, .inr (.inl rfl)⟩)
    · exact .inr (.inl ⟨field, hfield, .inr (.inr rfl)⟩)

/-- A setter with a verb in front has no raw mark. -/
theorem setter_of_javaSetters (h : naming.configuration.javaSetters = true) (field : Ident) :
    naming.setter field = .plain ("set_" ++ field.name ++ "") := by
  rw [Naming.setter, if_pos h]
  rfl

/-- A setter without a verb in front is written like its field. -/
theorem setter_of_not_javaSetters (h : ¬ naming.configuration.javaSetters = true) (field : Ident) :
    naming.setter field = field := by
  rw [Naming.setter, if_neg h]

/-- Two names of the same word that are both written without a raw mark are one name. -/
theorem eq_of_name_eq {first second : Ident} (hfirst : first.isRaw = false)
    (hsecond : second.isRaw = false) (h : first.name = second.name) : first = second := by
  cases first
  cases second
  simp_all

/-- Fields that are different identifiers have different setters. -/
theorem setter_eq_of_name_eq (hfields : (fields.map (·.ident.value.name)).Nodup)
    (hjava : ¬ naming.configuration.javaSetters = true) {first second : NamedField}
    (hfirst : first ∈ fields) (hsecond : second ∈ fields)
    (h : (naming.setter first.ident.value).name = (naming.setter second.ident.value).name) :
    first = second := by
  rw [setter_of_not_javaSetters hjava, setter_of_not_javaSetters hjava] at h
  exact List.inj_on_of_nodup_map hfields hfirst hsecond h

/-- Names that are written differently are different identifiers, unless a bare setter of a raw field
repeats a word that is taken. -/
theorem nodup_words_iff (hnames : (functionNames naming fields).Nodup)
    (hfields : (fields.map (·.ident.value.name)).Nodup) :
    ((functionNames naming fields).map (·.name)).Nodup ↔
      naming.configuration.javaSetters = true ∨
        ∀ field ∈ fields, field.ident.value.isRaw = true →
          field.ident.value.name ∉ takenWords fields := by
  rw [List.nodup_map_iff_inj_on hnames]
  constructor
  · intro hinjective
    by_cases hjava : naming.configuration.javaSetters = true
    · exact .inl hjava
    · refine .inr fun field hfield hraw htaken => ?_
      have hplain : Ident.plain field.ident.value.name ∈ functionNames naming fields :=
        mem_functionNames.mpr (.inl ⟨_, htaken, rfl⟩)
      have hsetter : field.ident.value ∈ functionNames naming fields :=
        mem_functionNames.mpr (.inr ⟨field, hfield, (setter_of_not_javaSetters hjava _).symm⟩)
      have hsame := hinjective _ hplain _ hsetter rfl
      have hmark : false = field.ident.value.isRaw := congrArg Ident.isRaw hsame
      rw [hraw] at hmark
      cases hmark
  · intro hcondition first hfirst second hsecond hsame
    by_cases hjava : naming.configuration.javaSetters = true
    -- With a verb in front of every setter, no name has a raw mark.
    · have hmark (ident : Ident) (h : ident ∈ functionNames naming fields) :
          ident.isRaw = false := by
        rcases mem_functionNames.mp h with ⟨word, -, rfl⟩ | ⟨field, -, rfl⟩
        · rfl
        · rw [setter_of_javaSetters hjava]
          rfl
      exact eq_of_name_eq (hmark first hfirst) (hmark second hsecond) hsame
    · have hfree := hcondition.resolve_left hjava
      -- A bare setter of the same word as another member has no raw mark either.
      have hmixed (word : String) (hword : word ∈ takenWords fields) (field : NamedField)
          (hfield : field ∈ fields) (h : word = (naming.setter field.ident.value).name) :
          Ident.plain word = naming.setter field.ident.value := by
        rw [setter_of_not_javaSetters hjava] at h ⊢
        refine eq_of_name_eq rfl ?_ h
        by_contra hraw
        exact hfree field hfield (by simpa using hraw) (h ▸ hword)
      rcases mem_functionNames.mp hfirst with ⟨word, hword, rfl⟩ | ⟨field, hfield, rfl⟩ <;>
        rcases mem_functionNames.mp hsecond with ⟨other, hother, rfl⟩ | ⟨next, hnext, rfl⟩
      · exact eq_of_name_eq rfl rfl hsame
      · exact hmixed word hword next hnext hsame
      · exact (hmixed other hother field hfield hsame.symm).symm
      · rw [setter_eq_of_name_eq hfields hjava hfield hnext hsame]

end Host

/-- The functions that a session emits for a counterpart are written differently. They are different
identifiers exactly if setters have a verb in front, or no raw field is the word of a getter, of the
constructor or of the function that makes a host. -/
theorem names_distinct_iff {session later : Session} {item : StructItem}
    {configuration : Configuration} {rename : Option (Located Ident)} {id : Nat}
    {fields : List NamedField} {emission : Emission}
    (hregister : session.register item configuration rename = .ok (id, later))
    (hemit : later.emit id = .ok emission) (hfields : item.primaryConstructor? = some fields) :
    (emission.counterpartFunctions.map (·.signature.name)).Nodup ∧
    ((emission.counterpartFunctions.map (·.signature.name.name)).Nodup ↔
      configuration.javaSetters = true ∨
        ∀ field ∈ fields, field.ident.value.isRaw = true →
          field.ident.value.name ∉ Host.takenWords fields) := by
  obtain ⟨host, hhost, hsame⟩ := Session.exists_host_of_register hregister
  rw [hsame] at hemit
  have hnumbered := Host.numbered_of_ofStruct hhost
  have hassembled := hnumbered.emission_eq_assembled hemit
  obtain ⟨own, hown, hparts⟩ := Host.eq_of_ofStruct hhost
  obtain rfl : own = fields := Option.some.inj (hown.symm.trans hfields)
  have hparameters : host.parameters = Parameter.ofFields own := by rw [hparts]
  have hconfiguration : host.naming.configuration = configuration := by
    rw [hparts]
    rfl
  have hnames : emission.counterpartFunctions.map (·.signature.name) =
      Host.functionNames host.naming own := by
    rw [hassembled, ← Host.namesOf_counterpart_eq hparameters]
    exact host.names_counterpartFunctions
  have hwritten : (Host.functionNames host.naming own).Nodup := by
    rw [← Host.namesOf_counterpart_eq hparameters]
    exact (Host.emission_eq_of_ok hemit).1
  have hdistinct : (own.map (·.ident.value.name)).Nodup := by
    have hnodup := Host.names_nodup_of_emission hemit
    rw [hparameters, Parameter.ofFields, Parameter.map_ofFieldsFrom _ fun _ _ => rfl] at hnodup
    exact hnodup
  have hwords : emission.counterpartFunctions.map (·.signature.name.name) =
      (Host.functionNames host.naming own).map (·.name) := by
    rw [← hnames, List.map_map]
    rfl
  rw [hwords, hnames, ← hconfiguration]
  exact ⟨hwritten, Host.nodup_words_iff hwritten hdistinct⟩

namespace Sample

/-- The sample struct is registered by an empty session. -/
theorem register_chain :
    Session.empty.register chain .standard none = .ok (0, ⟨[chainHost]⟩) := by
  rw [Session.register, ofStruct_chain]
  rfl

/-- A struct whose only field is a raw word that is taken. -/
def rawNew : StructItem :=
  let field := chainField "new" []
  { chain with fields := .named [{ field with ident := .generated ⟨"new", true⟩ }] false }

/-- The host that this struct is. -/
def rawNewHost : Host where
  item := rawNew.constrained
  naming := .ofHost rawNew.ident .standard none
  parameters := [{ chainParameter 0 "new" none with name := .generated ⟨"new", true⟩ }]
  visibility := .everywhere

/-- The struct is registered by an empty session. -/
theorem register_rawNew :
    Session.empty.register rawNew .standard none = .ok (0, ⟨[rawNewHost]⟩) := rfl

end Sample

/-- No field of the sample struct is raw, so its functions are different identifiers. -/
theorem names_distinct_chain : ∃ emission, Session.emit ⟨[Sample.chainHost]⟩ 0 = .ok emission ∧
    (emission.counterpartFunctions.map (·.signature.name.name)).Nodup := by
  obtain ⟨emission, hemission⟩ := Sample.exists_emission_chain
  have hemit : Session.emit ⟨[Sample.chainHost]⟩ 0 = .ok emission := hemission
  have hnames := (names_distinct_iff Sample.register_chain hemit rfl).2
  refine ⟨emission, hemit, hnames.mpr (.inr fun field hfield hraw => ?_)⟩
  have hplain : ∀ field ∈ [Sample.chainField "first" [],
      Sample.chainField "value" [Sample.chainDefault "first"], Sample.chainField "last" []],
      field.ident.value.isRaw = false := by simp [Sample.chainField, Located.generated, Ident.plain]
  rw [hplain field hfield] at hraw
  cases hraw

/-- A session emits two functions `new` for a struct with the field `r#new`. -/
theorem names_rawNew :
    Session.empty.register Sample.rawNew .standard none = .ok (0, ⟨[Sample.rawNewHost]⟩) ∧
    ∃ emission, Session.emit ⟨[Sample.rawNewHost]⟩ 0 = .ok emission ∧
      ¬ (emission.counterpartFunctions.map (·.signature.name.name)).Nodup := by
  refine ⟨Sample.register_rawNew, ?_⟩
  have hrepeats : (Session.emit ⟨[Sample.rawNewHost]⟩ 0).toOption.map (fun emission =>
      decide (emission.counterpartFunctions.map (·.signature.name.name)).Nodup) = some false := by
    decide +kernel
  cases hemit : Session.emit ⟨[Sample.rawNewHost]⟩ 0 with
  | error reason =>
    rw [hemit] at hrepeats
    cases hrepeats
  | ok emission =>
    rw [hemit] at hrepeats
    exact ⟨emission, rfl, of_decide_eq_false (Option.some.inj hrepeats)⟩

end Counterpart
