import Counterpart.Proofs.Linking
import Counterpart.Proofs.PlainGenerics

/-!
# Generic parameters in all that is emitted

The generic parameters of a host are written in its declaration, in the declaration of its
counterpart, in the headers of three implementations, in applied types, and in the type of the field
that ties the counterpart to them. All of these stay in step: they are read as the same parameters,
of the same kinds, in the same order.

What a bound, a type or an attribute is read as from its own tokens is for the grammar to say, where
they stand in the code (`ParametersReadBack`). Plain parts come back as they are. A part may come
back as another one: a range with an attribute in front comes back in parentheses. So a header gives
back the parameters with these parts as they are read, and nothing else is removed but defaults,
attributes of types and constants, and the colon of a lifetime without bounds.
-/

namespace Counterpart

open Counterpart.Parser

/-! ## Parameters that left their host -/

namespace Substitution

variable (substitution : Substitution)

theorem isRead_inAttribute {attr : Attribute} (h : attr.IsRead) :
    (substitution.inAttribute attr).IsRead := by
  unfold inAttribute
  split
  · next equals value harguments =>
    refine ⟨h.outer, h.lead, h.content.path, ?_⟩
    rintro equals' value' ⟨⟩
    exact h.content.equals equals value harguments
  · exact h

theorem isRead_inAttributes {attributes : List Attribute} (h : ∀ attr ∈ attributes, attr.IsRead) :
    ∀ attr ∈ attributes.map substitution.inAttribute, attr.IsRead :=
  List.forall_mem_map.mpr fun attr hattr => isRead_inAttribute substitution (h attr hattr)

/-- A lifetime does not mention the host. -/
theorem inTree_lifetime {tree : Tree} (h : IsLifetime tree) : substitution.inTree tree = tree := by
  obtain ⟨joint, region, ident, place, rfl⟩ := h
  rfl

theorem inTrees_isSum {bounds : List Tree} (h : IsSum IsLifetime bounds) :
    substitution.inTrees bounds = bounds := by
  induction h with
  | nil => rfl
  | last hfirst => rw [inTrees, inTree_lifetime substitution hfirst, inTrees]
  | more hfirst hpieces ih =>
    rw [inTrees, inTree_lifetime substitution hfirst, inTrees, ih, single, inTree]

/-- A parameter that left its host is as it is read. -/
theorem isRead_inParameter {parameter : GenericParameter} (h : parameter.IsRead) :
    (substitution.inParameter parameter).IsRead := by
  cases h with
  | @lifetime attributes name colon bounds hattributes hname hcolon hsum hnone =>
    rw [inParameter, inTrees_isSum substitution hsum, inTrees]
    exact .lifetime (isRead_inAttributes substitution hattributes) hname hcolon hsum hnone
  | type hattributes hname hcolon hnone =>
    refine .type (isRead_inAttributes substitution hattributes) hname hcolon fun hempty => ?_
    rw [hnone hempty, inTrees]
  | placeholder hattributes =>
    rw [inParameter, inTrees]
    exact .placeholder (isRead_inAttributes substitution hattributes)
  | const hattributes hname =>
    exact .const (isRead_inAttributes substitution hattributes) hname

/-- How a parameter is carried over to a place outside of the host: it keeps its kind and its name,
and its attributes, its bounds and its default do not mention the host any more. A colon goes only
if nothing stands behind it. -/
structure CarriesOver (before after : GenericParameter) : Prop where
  kind : after.kind = before.kind
  keyword : after.keyword = before.keyword
  name : after.name = before.name
  attributes : after.attributes = before.attributes.map substitution.inAttribute
  colon : before.bounds ≠ [] → after.colon = before.colon
  bounds : after.bounds = substitution.inTrees before.bounds
  fallback : after.fallback = substitution.inTrees before.fallback

theorem carriesOver_settled (parameter : GenericParameter) :
    substitution.CarriesOver parameter (substitution.inParameter parameter).settled := by
  obtain ⟨kind, attributes, keyword, name, colon, bounds, fallback⟩ := parameter
  cases bounds with
  | nil => exact ⟨rfl, rfl, rfl, rfl, fun h => absurd rfl h, rfl, rfl⟩
  | cons first others => exact ⟨rfl, rfl, rfl, rfl, fun _ => rfl, rfl, rfl⟩

end Substitution

/-! ## Parameters that came back from a header -/

open Grammar

namespace GenericParameter

/-- What comes back keeps the tokens of its attributes and of its bounds or its type. -/
structure KeepsTokens (before after : GenericParameter) : Prop where
  attributes : Tree.tokensAll (Attribute.outer after.attributes) =
    Tree.tokensAll (Attribute.outer before.attributes)
  bounds : Tree.tokensAll after.bounds = Tree.tokensAll before.bounds

theorem tokensAll_headerTrees_header (parameter : GenericParameter) :
    Tree.tokensAll parameter.header.headerTrees = Tree.tokensAll parameter.headerTrees := by
  obtain ⟨kind, attributes, keyword, name, colon, bounds, fallback⟩ := parameter
  cases kind with
  | lifetime => cases bounds <;> simp [header, settled, headerTrees]
  | type | const => rfl

/-- The header of what was read back has the same tokens if its parts have. -/
theorem tokensAll_headerTrees_of_readsBack {grammar : Grammar} {rest : List TokenTree}
    {before after : GenericParameter} (h : ParameterReadsBack grammar rest before after)
    (hkeeps : KeepsTokens before after) :
    Tree.tokensAll after.headerTrees = Tree.tokensAll before.headerTrees := by
  obtain ⟨kind, attributes, keyword, name, colon, bounds, fallback⟩ := before
  obtain ⟨kind', attributes', keyword', name', colon', bounds', fallback'⟩ := after
  obtain ⟨rfl, rfl, rfl, rfl, -, hbounds, -⟩ := h
  obtain ⟨hattributes, htokens⟩ := hkeeps
  dsimp only at hattributes htokens hbounds
  cases hbounds with
  | lifetime => simp only [headerTrees, Tree.tokensAll_append, hattributes]
  | type | const => simp [headerTrees, htokens]

/-- A parameter that came back from a header: of the same kind and name and with the same bounds of
a lifetime, but without a default, without the attributes of a type or a constant, and without the
colon of a lifetime that has no bounds. -/
structure IsHeaderOf (before after : GenericParameter) : Prop where
  kind : after.kind = before.kind
  keyword : after.keyword = before.keyword
  name : after.name = before.name
  colon : before.kind ≠ .lifetime ∨ before.bounds ≠ [] → after.colon = before.colon
  lifetimes : before.kind = .lifetime → after.bounds = before.bounds
  fallback : after.fallback = []
  attributes : before.kind ≠ .lifetime → after.attributes = []

theorem isHeaderOf_of_readsBack {grammar : Grammar} {rest : List TokenTree}
    {before after : GenericParameter} (h : ParameterReadsBack grammar rest before.header after) :
    IsHeaderOf before after := by
  have hnone {value : Parser Tree} {answer : List Tree}
      (h : FallbackReadsBack value rest [] answer) : answer = [] := by
    cases h
    rfl
  obtain ⟨kind, attributes, keyword, name, colon, bounds, fallback⟩ := before
  obtain ⟨kind', attributes', keyword', name', colon', bounds', fallback'⟩ := after
  obtain ⟨hkind, hkeyword, hname, hcolon, hattributes, hbounds, hfallback⟩ := h
  cases kind with
  | lifetime =>
    cases bounds with
    | nil =>
      cases hbounds
      exact ⟨hkind, hkeyword, hname, by simp, fun _ => rfl, hnone hfallback, absurd rfl⟩
    | cons first others =>
      cases hbounds
      exact ⟨hkind, hkeyword, hname, fun _ => hcolon, fun _ => rfl, hnone hfallback, absurd rfl⟩
  | type | const =>
    exact ⟨hkind, hkeyword, hname, fun _ => hcolon, nofun, hnone hfallback,
      fun _ => List.forall₂_nil_left_iff.mp hattributes⟩

end GenericParameter

/-! ## Everything that is emitted -/

namespace Generics

theorem headerCode_header (generics : Generics) :
    generics.header.headerCode = generics.headerCode := by
  simp [headerCode, headerList, header, tokensAll_flatMap, List.flatMap_map,
    GenericParameter.tokensAll_headerTrees_header]

theorem headerCode_of_readBack {grammar : Grammar} {trailing : Bool} {rest : List TokenTree}
    {before answers : List GenericParameter}
    (h : ParametersReadBack grammar trailing rest before answers)
    (hkeeps : List.Forall₂ GenericParameter.KeepsTokens before answers) :
    (Generics.mk answers true []).headerCode = (Generics.mk before true []).headerCode := by
  have hlist : Tree.tokensAll (Generics.mk answers true []).headerList =
      Tree.tokensAll (Generics.mk before true []).headerList := by
    rw [headerList, headerList, tokensAll_flatMap, tokensAll_flatMap]
    induction h with
    | nil => rfl
    | cons hfirst hothers ih =>
      cases hkeeps with
      | cons hhead htail =>
        rw [List.flatMap_cons, List.flatMap_cons, ih htail, Tree.tokensAll_append,
          Tree.tokensAll_append, GenericParameter.tokensAll_headerTrees_of_readsBack hfirst hhead]
  rw [headerCode, hlist, headerCode]

/-- Generic parameters are in step with what is emitted for them. -/
structure InStep (generics : Generics) : Prop where
  /-- A declaration is read as the parameters, lifetimes first, if their parts are read back. -/
  declaration : ∀ answers, ParametersReadBack (forTokens generics.declaredCode)
      generics.declaredTrailing [] (generics.declaredOrder.map GenericParameter.settled) answers →
    Grammar.read genericParameters generics.declaredCode =
      .ok ⟨answers, generics.declaredTrailing && !generics.parameters.isEmpty, []⟩
  /-- A header is read as what is left of the parameters, in their order, if their parts are read
  back. It is the header of what was read, if the parts kept their tokens. -/
  header : ∀ answers, ParametersReadBack (forTokens generics.headerCode) true []
      generics.header.parameters answers →
    Grammar.read genericParameters generics.headerCode = .ok ⟨answers, true, []⟩ ∧
      List.Forall₂ GenericParameter.IsHeaderOf generics.parameters answers ∧
      (List.Forall₂ GenericParameter.KeepsTokens generics.header.parameters answers →
        (Generics.mk answers true []).headerCode = generics.headerCode)
  /-- What is left of the parameters has the same header. -/
  idempotent : generics.header.headerCode = generics.headerCode
  /-- The names behind a header are read as the parameters of the header, in their order: each as an
  argument of the kind of its parameter. -/
  arguments : Takes
    (argumentLoop (forTokens generics.argumentCode) (generics.parameters.length + 1))
    Option.none (Tree.tokensAll generics.argumentList) (argumentsOf generics.parameters)
    (Template.mark ">")
  /-- The type behind a header and an applied type are read as the same type. -/
  applied : ∀ name : Located Ident, name.value.isName = true →
    Grammar.read Grammar.type ([.word name.value name.region] ++ generics.argumentCode) =
        .ok (typeOf name generics.parameters) ∧
      Grammar.read Grammar.type (generics.appliedType name).tokens =
        .ok (typeOf name generics.parameters)
  /-- The type of the field that ties is read as one function type for every lifetime and every
  type, in their order, which takes and returns what it stands for. -/
  variance : Grammar.read Grammar.type generics.varianceType =
    .ok (phantomOf ((generics.parameters.filter (·.kind ≠ .const)).map fun parameter =>
      functionOf parameter.subject))

/-- Parameters that were read are in step with what is emitted for them. -/
theorem inStep {generics : Generics} (h : ∀ parameter ∈ generics.parameters, parameter.IsRead) :
    generics.InStep where
  declaration := fun answers hanswers => read_declaredCode h hanswers
  header := by
    intro answers hanswers
    refine ⟨read_headerCode h hanswers, ?_, fun hkeeps => ?_⟩
    · exact (List.forall₂_map_left_iff.mp hanswers.forall₂).imp fun parameter answer ⟨_, hread⟩ =>
        GenericParameter.isHeaderOf_of_readsBack hread
    · rw [headerCode_of_readBack hanswers hkeeps]
      exact headerCode_header generics
  idempotent := headerCode_header generics
  arguments := by
    obtain ⟨fuel, hfuel⟩ := exists_forTokens generics.argumentCode (show 1 ≤ 128 by decide)
    rw [hfuel, argumentList, tokensAll_names]
    exact takes_argumentLoop h (Nat.lt_succ_self _)
  applied := by
    intro name hname
    constructor
    · rw [argumentCode, argumentList, tokensAll_names]
      exact read_typeOf hname h
    · rw [tokens_appliedType, typeOf, ← lifetimesFirst_lifetimesFirst]
      exact read_typeOf hname fun parameter hparameter =>
        h parameter ((lifetimesFirst_perm _).mem_iff.mp hparameter)
  variance := read_varianceType h

end Generics

namespace Host

open Generics

/-- A parameter of the host as the counterpart has it. -/
def carried (host : Host) (parameter : GenericParameter) : GenericParameter :=
  (host.substitution.inParameter parameter).settled

/-- The counterpart of a host has its generic parameters. -/
structure CarriesGenerics (host : Host) : Prop where
  /-- The same parameters in the order of the source, with `Self` replaced in them. -/
  parameters : List.Forall₂ host.substitution.CarriesOver host.item.generics.parameters
    host.counterpart.generics.parameters
  /-- The same parameters in the order of the two declarations. -/
  declaration : List.Forall₂ host.substitution.CarriesOver host.item.generics.declaredOrder
    host.counterpart.generics.declaredOrder
  /-- The same commas in the two declarations. -/
  trailing : host.counterpart.generics.declaredTrailing = host.item.generics.declaredTrailing
  clause : host.counterpart.generics.clause =
    host.substitution.inTrees host.item.generics.clause
  /-- The parameters of the counterpart are what is read from the template of its declaration, if
  their parts are read back. -/
  template : ∀ answers,
    ParametersReadBack (forTokens (host.substitution.inGenerics host.item.generics).sourceCode)
      host.item.generics.trailing [] host.counterpart.generics.parameters answers →
    Grammar.read genericParameters (host.substitution.inGenerics host.item.generics).sourceCode =
      .ok ⟨answers, host.item.generics.trailing || host.item.generics.parameters.isEmpty, []⟩
  /-- The same arguments behind the two headers. -/
  arguments : host.counterpart.generics.argumentList = host.item.generics.argumentList
  /-- The field of the counterpart mentions the parameters of the counterpart. -/
  variance : host.counterpart.generics.varianceType = host.item.generics.varianceType
  /-- The host and its counterpart are declared with these parameters. -/
  emission : ∀ emission, host.emission = .ok emission →
    emission.host = host.item ∧ emission.counterpart = host.counterpart

theorem parameters_counterpart (host : Host) : host.counterpart.generics.parameters =
    host.item.generics.parameters.map host.carried := by
  simp only [counterpart, Generics.settled, Substitution.inGenerics, List.map_map]
  rfl

theorem carriesOver_carried (host : Host) (parameter : GenericParameter) :
    host.substitution.CarriesOver parameter (host.carried parameter) :=
  Substitution.carriesOver_settled host.substitution parameter

theorem isLifetime_carried (host : Host) (parameter : GenericParameter) :
    isLifetime (host.carried parameter) = isLifetime parameter := by
  rw [isLifetime, isLifetime, (host.carriesOver_carried parameter).kind]

theorem declaredOrder_counterpart (host : Host) : host.counterpart.generics.declaredOrder =
    host.item.generics.declaredOrder.map host.carried := by
  rw [declaredOrder, parameters_counterpart, lifetimesFirst, List.filter_map, List.filter_map,
    declaredOrder, lifetimesFirst, List.map_append]
  simp only [Function.comp_def, isLifetime_carried]

theorem declaredTrailing_counterpart (host : Host) :
    host.counterpart.generics.declaredTrailing = host.item.generics.declaredTrailing := by
  rw [declaredTrailing, parameters_counterpart, List.getLast?_map, Option.any_map, List.any_map]
  simp only [Function.comp_def, isLifetime_carried]
  rfl

theorem isRead_counterpart {host : Host}
    (h : ∀ parameter ∈ host.item.generics.parameters, parameter.IsRead) :
    ∀ parameter ∈ host.counterpart.generics.parameters, parameter.IsRead := by
  rw [parameters_counterpart]
  exact List.forall_mem_map.mpr fun parameter hparameter =>
    (Substitution.isRead_inParameter _ (h parameter hparameter)).settled

theorem carriesGenerics (host : Host)
    (h : ∀ parameter ∈ host.item.generics.parameters, parameter.IsRead) :
    host.CarriesGenerics where
  parameters := by
    rw [parameters_counterpart, List.forall₂_map_right_iff, List.forall₂_same]
    exact fun parameter _ => host.carriesOver_carried parameter
  declaration := by
    rw [declaredOrder_counterpart, List.forall₂_map_right_iff, List.forall₂_same]
    exact fun parameter _ => host.carriesOver_carried parameter
  trailing := host.declaredTrailing_counterpart
  clause := rfl
  template := by
    intro answers hanswers
    have hread := read_sourceCode (List.forall_mem_map.mpr fun parameter hparameter =>
      Substitution.isRead_inParameter host.substitution (h parameter hparameter)) hanswers
    rwa [Substitution.inGenerics, List.isEmpty_map] at hread
  arguments := by
    rw [argumentList, parameters_counterpart, List.flatMap_map]
    exact List.flatMap_congr fun parameter _ => by rw [(host.carriesOver_carried parameter).name]
  variance := by
    have huse (parameter : GenericParameter) :
        invariantUse (host.carried parameter) = invariantUse parameter := by
      have hcarried := host.carriesOver_carried parameter
      rw [invariantUse, hcarried.kind, hcarried.name, invariantUse]
    rw [varianceType, parameters_counterpart, List.flatMap_map, varianceType]
    simp only [huse]
  emission := by
    intro emission hemission
    obtain ⟨-, found, -, rfl⟩ := emission_eq_of_ok hemission
    exact ⟨rfl, rfl⟩

/-- Generic parameters stay in step in all that is emitted for a host with a list of parameters that
was read. -/
theorem generics_in_step {grammar : Grammar} {cursor after : Cursor} {generics : Generics}
    (hread : genericParameters grammar cursor = .ok (generics, after)) (host : Host)
    (hhost : host.item.generics.parameters = generics.parameters) :
    host.item.generics.InStep ∧ host.counterpart.generics.InStep ∧ host.CarriesGenerics := by
  have hitem : ∀ parameter ∈ host.item.generics.parameters, parameter.IsRead := by
    rw [hhost]
    exact isRead_of_genericParameters hread
  exact ⟨inStep hitem, inStep (isRead_counterpart hitem), host.carriesGenerics hitem⟩

end Host

namespace Sample

open Generics

/-- A lifetime with the given name. -/
def lifetimeNamed (text : String) : Tree :=
  .node .lifetime [.leaf (.punct '\'' true none), Tree.word text]

/-- The type with the given name. -/
def typeNamed (text : String) : Tree := .node .typePath [Tree.pathOfName ⟨.plain text, none⟩]

/-- The bounds `Clone + Into<Self>`. -/
def intoSelf : List Tree :=
  let into := Tree.node .path [segmentWith (Tree.word "Into") [typeNamed "Self"]]
  [.node .phrase [Tree.pathOfName ⟨.plain "Clone", none⟩], single '+' none, .node .phrase [into]]

/-- The parameters `T: Clone + Into<Self> = u8, 'a, 'b: 'a, const N: usize = 3`. -/
def mixed : Generics where
  parameters :=
    [⟨.type, [], [], Tree.word "T", Tree.operator ":", intoSelf,
        Tree.operator "=" ++ [typeNamed "u8"]⟩,
      ⟨.lifetime, [], [], lifetimeNamed "a", [], [], []⟩,
      ⟨.lifetime, [], [], lifetimeNamed "b", Tree.operator ":", [lifetimeNamed "a"], []⟩,
      ⟨.const, [], [Tree.word "const"], Tree.word "N", Tree.operator ":", [typeNamed "usize"],
        Tree.operator "=" ++ [literalExpression [.leaf (.literal "3" none)]]⟩]
  trailing := false
  clause := []

/-- A struct with these parameters and without fields. -/
def mixedHost : Host where
  item :=
    { attributes := []
      visibility := ⟨.everywhere, [Tree.word "pub"]⟩
      ident := ⟨.plain "Mixed", none⟩
      generics := mixed
      fields := .named [] false }
  naming := .ofHost ⟨.plain "Mixed", none⟩ .standard none
  parameters := []
  visibility := .everywhere

/-- Code is emitted for the struct. -/
theorem exists_emission_mixed : ∃ emission, mixedHost.emission = .ok emission := by
  have hsome : mixedHost.emission.toOption.isSome = true := by decide +kernel
  cases hemission : mixedHost.emission with
  | error reason =>
    rw [hemission] at hsome
    cases hsome
  | ok emission => exact ⟨emission, rfl⟩

theorem isRead_mixed : ∀ parameter ∈ mixed.parameters, parameter.IsRead := by
  have hlifetime (text : String) : IsLifetime (lifetimeNamed text) :=
    ⟨true, none, .plain text, none, rfl⟩
  have hplain : ∀ attr ∈ ([] : List Attribute), attr.IsRead := nofun
  simp only [mixed, List.forall_mem_cons, List.not_mem_nil, false_imp_iff, implies_true, and_true]
  refine ⟨?_, ?_, ?_, ?_⟩
  · exact @GenericParameter.IsRead.type [] ⟨.plain "T", Option.none⟩ _ _ _ hplain rfl
      (.inr ⟨Option.none, rfl⟩) nofun
  · exact .lifetime hplain (hlifetime "a") (.inl rfl) .nil fun _ => rfl
  · exact .lifetime hplain (hlifetime "b") (.inr ⟨Option.none, rfl⟩) (.last (hlifetime "a")) nofun
  · exact @GenericParameter.IsRead.const [] ⟨.plain "N", Option.none⟩ Option.none Option.none
      (typeNamed "usize") _ hplain rfl

theorem isPlain_pathNamed {text : String} (h : (Ident.plain text).IsSegment) :
    Grammar.IsPlain .path (Tree.pathOfName ⟨.plain text, Option.none⟩) :=
  .ofSegment (@IsPlain.word ⟨.plain text, Option.none⟩ h)

theorem isPlain_typeNamed {text : String} (h : (Ident.plain text).IsSegment) :
    Grammar.IsPlain .type (typeNamed text) :=
  .named (isPlain_pathNamed h)

theorem isPlain_mixed : ∀ parameter ∈ mixed.parameters, parameter.IsPlain := by
  have hclone : Grammar.IsPlain .bound
      (.node .phrase [Tree.pathOfName ⟨.plain "Clone", Option.none⟩]) :=
    .trait .none (isPlain_pathNamed rfl)
  have harguments : ∀ entry ∈ [(typeNamed "Self", ([] : List Tree))],
      Grammar.IsPlain .argument entry.1 :=
    List.forall_mem_singleton.mpr (.type (isPlain_typeNamed rfl))
  have hinto : Grammar.IsPlain .bound (.node .phrase
      [.node .path [segmentWith (Tree.word "Into") [typeNamed "Self"]]]) :=
    .trait .none (.ofSegment (@IsPlain.applied ⟨.plain "Into", Option.none⟩ [] [] _
      Option.none Option.none (.inl rfl) (.inl rfl) nofun harguments .last))
  simp only [mixed, List.forall_mem_cons, List.not_mem_nil, false_imp_iff, implies_true, and_true]
  refine ⟨⟨rfl, fun _ => .more hclone (.last hinto), nofun, .inr ⟨Option.none, _, rfl, ?_⟩⟩,
    ⟨rfl, nofun, nofun, .inl rfl⟩, ⟨rfl, nofun, nofun, .inl rfl⟩,
    ⟨rfl, nofun, fun _ => List.forall_mem_singleton.mpr (isPlain_typeNamed rfl),
      .inr ⟨Option.none, _, rfl, .literal .token⟩⟩⟩
  exact isPlain_typeNamed rfl

theorem writtenLike_mixed : mixed.WrittenLike mixed :=
  writtenLike_of_isPlain isRead_mixed isPlain_mixed

end Sample

namespace Host

/-- The mixed parameters are read from their code, and read back from the header and from the
declaration that are written for them: as what is left of them, and with the lifetimes first. -/
theorem generics_in_step_mixed :
    genericParameters (forTokens Sample.mixed.sourceCode) ⟨Sample.mixed.sourceCode, none, none⟩ =
        .ok (Sample.mixed, ⟨[], none, none⟩) ∧
      (Sample.mixedHost.item.generics.InStep ∧ Sample.mixedHost.counterpart.generics.InStep ∧
        Sample.mixedHost.CarriesGenerics) ∧
      Grammar.read genericParameters Sample.mixed.headerCode = .ok Sample.mixed.header ∧
      Grammar.read genericParameters Sample.mixed.declaredCode =
        .ok ⟨Sample.mixed.declaredOrder, false, []⟩ ∧
      ∃ emission, Sample.mixedHost.emission = .ok emission := by
  have hread : genericParameters (forTokens Sample.mixed.sourceCode)
      ⟨Sample.mixed.sourceCode, none, none⟩ = .ok (Sample.mixed, ⟨[], none, none⟩) := by
    have hcode : Template.angles
        (Generics.listTokens Sample.mixed.trailing Sample.mixed.parameters) =
        Sample.mixed.sourceCode := rfl
    have htakes := takes_genericParameters Sample.isRead_mixed Sample.writtenLike_mixed.source
    rw [hcode, Takes, List.append_nil] at htakes
    exact htakes
  have hsteps := generics_in_step hread Sample.mixedHost rfl
  exact ⟨hread, hsteps, (hsteps.1.header _ Sample.writtenLike_mixed.header).1,
    hsteps.1.declaration _ Sample.writtenLike_mixed.declaration, Sample.exists_emission_mixed⟩

end Host

namespace Sample

/-- The lifetime `'a` with or without a colon. -/
def unbound (colon : List Tree) : GenericParameter :=
  ⟨.lifetime, [], [], lifetimeNamed "a", colon, [], []⟩

/-- The parameter `const N: [u8; { .. }]` with a length in the block. -/
def measured (length : Tree) : GenericParameter :=
  let block := Tree.node (.expression .block)
    [.node .block [Tree.generatedGroup .brace [.node .statement [length]]]]
  ⟨.const, [], [Tree.word "const"], Tree.word "N", Tree.operator ":",
    [typeNode [Tree.generatedGroup .bracket (typeNamed "u8" :: (Tree.operator ";" ++ [block]))]],
    []⟩

/-- The parts of the range `1..2`. -/
def rangeParts : List Tree :=
  literalExpression [.leaf (.literal "1" none)]
    :: (Tree.operator ".." ++ [literalExpression [.leaf (.literal "2" none)]])

/-- The attribute `#[a]`. -/
def plainAttribute : Tree := (Attribute.ofWord "a").tree

/-- The code `#[a] 1..2`. -/
def writtenLength : Tree := .node .phrase (plainAttribute :: rangeParts)

/-- The range that the code is read as. -/
def readLength : Tree := Tree.attributed [plainAttribute] (.node (.expression .range) rangeParts)

/-- The range in parentheses that is read from the tokens of the range. -/
def againLength : Tree :=
  Tree.attributed [plainAttribute] (.node (.expression .paren)
    [Tree.generatedGroup .parenthesis [.node (.expression .range) rangeParts]])

theorem isRead_unbound {colon : List Tree} (h : GenericParameter.IsColon colon) :
    (unbound colon).IsRead :=
  .lifetime nofun ⟨true, none, .plain "a", none, rfl⟩ h .nil fun _ => rfl

theorem isRead_measured (length : Tree) : (measured length).IsRead :=
  @GenericParameter.IsRead.const [] ⟨.plain "N", none⟩ none none _ _ nofun rfl

theorem parametersReadBack_written (fuel : Nat) :
    ParametersReadBack (within (fuel + 24)) false []
      [unbound (Tree.operator ":"), measured writtenLength]
      [unbound (Tree.operator ":"), measured readLength] :=
  .cons ⟨rfl, rfl, rfl, rfl, .nil, .lifetime, .none⟩
    (.cons ⟨rfl, rfl, rfl, rfl, .nil, .const rfl, .none⟩ .nil)

theorem parametersReadBack_again (fuel : Nat) :
    ParametersReadBack (within (fuel + 24)) true []
      [unbound [], measured readLength] [unbound [], measured againLength] :=
  .cons ⟨rfl, rfl, rfl, rfl, .nil, .lifetime, .none⟩
    (.cons ⟨rfl, rfl, rfl, rfl, .nil, .const rfl, .none⟩ .nil)

/-- The code `<'a:, const N: [u8; { #[a] 1..2 }]>`. -/
def measuredCode : List TokenTree :=
  Template.angles (Generics.listTokens false [unbound (Tree.operator ":"), measured writtenLength])

/-- The parameters that the code is read as. -/
def measuredGenerics : Generics :=
  ⟨[unbound (Tree.operator ":"), measured readLength], false, []⟩

/-- A parameter without its default and without the attributes of a type or a constant. -/
def withoutDefault (parameter : GenericParameter) : GenericParameter :=
  { parameter with
    attributes := if parameter.kind = .lifetime then parameter.attributes else []
    fallback := [] }

/-- Neither a colon without bounds nor a range behind an attribute comes back from a header, though
the one is not a default and the other is not an attribute of its parameter. -/
theorem header_not_read_back :
    Grammar.read genericParameters measuredCode = .ok measuredGenerics ∧
      ∃ answers, Grammar.read genericParameters measuredGenerics.headerCode =
          .ok ⟨answers, true, []⟩ ∧
        List.Forall₂ (· ≠ ·) answers (measuredGenerics.parameters.map withoutDefault) := by
  obtain ⟨fuel, hfuel⟩ := exists_forTokens measuredCode (show 24 ≤ 128 by decide)
  obtain ⟨more, hmore⟩ := exists_forTokens measuredGenerics.headerCode (show 24 ≤ 128 by decide)
  have hcolon : GenericParameter.IsColon (Tree.operator ":") := .inr ⟨none, rfl⟩
  have hparameters {length : Tree} :
      ∀ parameter ∈ [unbound (Tree.operator ":"), measured length], parameter.IsRead :=
    List.forall_mem_cons.mpr
      ⟨isRead_unbound hcolon, List.forall_mem_singleton.mpr (isRead_measured _)⟩
  have hwritten := parametersReadBack_written fuel
  rw [← hfuel] at hwritten
  have hheader := parametersReadBack_again more
  rw [← hmore] at hheader
  refine ⟨Generics.read_of_readBack rfl hparameters hwritten, _,
    Generics.read_headerCode hparameters hheader, ?_⟩
  have hlifetime : unbound [] ≠ withoutDefault (unbound (Tree.operator ":")) := nofun
  have hlength : measured againLength ≠ withoutDefault (measured readLength) := by
    intro h
    cases h
  exact .cons hlifetime (.cons hlength .nil)

end Sample

end Counterpart
