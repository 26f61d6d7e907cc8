import Counterpart.Proofs.ReadBackTypes
import Counterpart.Proofs.WrittenGenerics

/-!
# Generic parameters as arguments

The names of generic parameters stand where their type is used: in the header of an implementation,
in an applied type, and in the type of the field that ties a counterpart to its parameters. They are
read as arguments of the kinds of the parameters. The type of the field takes and returns every
lifetime and every type once, and does not mention the constants.
-/

namespace Counterpart

open Counterpart.Parser

/-! ## Names of parameters -/

/-- A word that names something is read as an argument: as the type that it is. -/
theorem Grammar.takes_nameArgument {fuel : Nat} {ident : Located Ident}
    (hname : ident.value.isName = true) (others : List TokenTree) :
    Takes (pathArgument (within (fuel + 1))) none [.word ident.value ident.region]
      (nameType (Tree.name ident)) (Template.mark "," ++ others) := by
  have htype : Takes (within (fuel + 1)).type none [.word ident.value ident.region]
      (nameType (Tree.name ident)) (Template.mark "," ++ others) :=
    takes_nameType (.inl hname) endsType_comma
  have hliteral :
      (Lookahead.literal ([.word ident.value ident.region] ++ (Template.mark "," ++ others))
        || Lookahead.group .brace
          ([.word ident.value ident.region] ++ (Template.mark "," ++ others))) = false := by
    have htrue : ident.value.isWord "true" = false := Ident.isWord_of_isName hname (by decide)
    have hfalse : ident.value.isWord "false" = false := Ident.isWord_of_isName hname (by decide)
    simp [Lookahead.literal, Lookahead.group, TokenTree.isGroup, htrue, hfalse]
  rw [nameType_of_isName hname] at htype ⊢
  exact takes_ahead.look (.ifFalse rfl (.ifFalse hliteral (htype.finish
    (Takes.whether false rfl (Takes.whether false rfl (takes_pure _))))))

namespace GenericParameter

open Grammar

/-- The argument that a parameter is for a type: a lifetime as such, or the type that a name is. -/
def argument (parameter : GenericParameter) : Tree :=
  if parameter.kind = .lifetime then parameter.name else nameType parameter.name

/-- A type that mentions a parameter: the parameter, or what is borrowed for a lifetime. -/
def subject (parameter : GenericParameter) : Tree :=
  if parameter.kind = .lifetime then borrowedType parameter.name else nameType parameter.name

/-- The tokens of that type. -/
def subjectTokens (parameter : GenericParameter) : List TokenTree :=
  if parameter.kind = .lifetime then
    Template.mark "&" ++ (parameter.name.tokens ++ Template.parentheses [])
  else parameter.name.tokens

theorem IsRead.isInput {parameter : GenericParameter} (h : parameter.IsRead) :
    IsInput parameter.subjectTokens := by
  cases h with
  | lifetime hattributes hname =>
    obtain ⟨joint, region, ident, place, rfl⟩ := hname
    exact ⟨rfl, rfl, rfl, rfl, rfl⟩
  | type hattributes hname => exact ⟨rfl, rfl, rfl, rfl, Bool.and_false _⟩
  | placeholder => exact ⟨rfl, rfl, rfl, rfl, rfl⟩
  | const hattributes hname => exact ⟨rfl, rfl, rfl, rfl, Bool.and_false _⟩

theorem IsRead.readsType {parameter : GenericParameter} (h : parameter.IsRead) {fuel : Nat} :
    ReadsType (fuel + 2) parameter.subjectTokens parameter.subject := by
  intro sums closing rest hrest
  cases h with
  | lifetime hattributes hname => exact takes_borrowedType hname
  | type hattributes hname => exact takes_nameType (.inl hname) hrest
  | placeholder => exact takes_nameType (.inr rfl) hrest
  | const hattributes hname => exact takes_nameType (.inl hname) hrest

/-- The tokens of the type of functions that take and return it. -/
def useTokens (parameter : GenericParameter) : List TokenTree :=
  Template.word "fn" ++ (Template.parentheses parameter.subjectTokens
    ++ (Template.mark "->" ++ parameter.subjectTokens))

theorem invariantUse_eq (parameter : GenericParameter) :
    Generics.invariantUse parameter =
      if parameter.kind = .const then [] else parameter.useTokens ++ Template.mark "," := by
  unfold Generics.invariantUse
  split <;> simp_all [useTokens, subjectTokens]

/-- No name of a parameter ends a list of arguments. -/
theorem IsRead.name_not_end {parameter : GenericParameter} (h : parameter.IsRead)
    {others : List TokenTree} :
    Lookahead.operator ">" (parameter.name.tokens ++ others) = false := by
  cases h with
  | lifetime hattributes hname =>
    obtain ⟨joint, region, ident, place, rfl⟩ := hname
    rfl
  | type | placeholder | const => rfl

/-- A parameter is read as an argument. -/
theorem IsRead.takes_argument {parameter : GenericParameter} (h : parameter.IsRead) {fuel : Nat}
    (others : List TokenTree) :
    Takes (pathArgument (within (fuel + 1))) none parameter.name.tokens parameter.argument
      (Template.mark "," ++ others) := by
  cases h with
  | lifetime hattributes hname =>
    obtain ⟨joint, region, ident, place, rfl⟩ := hname
    rfl
  | type hattributes hname => exact takes_nameArgument hname others
  | placeholder => rfl
  | const hattributes hname => exact takes_nameArgument hname others

/-- The argument that a lifetime is can be told from the others. -/
theorem IsRead.isKind_argument {parameter : GenericParameter} (h : parameter.IsRead) :
    parameter.argument.isKind .lifetime = Generics.isLifetime parameter := by
  have htype (name : Tree) : (nameType name).isKind .lifetime = false := by
    rw [nameType]
    split <;> rfl
  cases h with
  | lifetime hattributes hname =>
    obtain ⟨joint, region, ident, place, rfl⟩ := hname
    rfl
  | placeholder => rfl
  | type | const => exact htype _

end GenericParameter

/-! ## Arguments -/

namespace Generics

/-- The names of parameters with a comma behind each. -/
def nameTokens (parameters : List GenericParameter) : List TokenTree :=
  Grammar.commaTokens (parameters.map (·.name.tokens))

theorem tokensAll_names (parameters : List GenericParameter) :
    Tree.tokensAll (parameters.flatMap fun parameter => parameter.name :: comma) =
      nameTokens parameters := by
  simp [tokensAll_flatMap, tokensAll_comma, nameTokens, Grammar.commaTokens, List.flatMap_map]

/-- The arguments that parameters are, as they are read: with a comma behind each. -/
def argumentsOf (parameters : List GenericParameter) : List (Tree × List Tree) :=
  parameters.map fun parameter => (parameter.argument, comma)

/-- A type with parameters as arguments, lifetimes first. -/
def typeOf (name : Located Ident) (parameters : List GenericParameter) : Tree :=
  .node .typePath [.node .path [Grammar.segmentWith (Tree.name name)
    ((lifetimesFirst parameters).flatMap fun parameter => parameter.argument :: comma)]]

theorem tokens_appliedType (generics : Generics) (name : Located Ident) :
    (generics.appliedType name).tokens =
      [.word name.value name.region] ++ Template.angles (nameTokens generics.declaredOrder) := by
  have htype : generics.appliedType name = .node .typePath [.node .path
      [Grammar.segmentWith (Tree.name name)
        (generics.declaredOrder.flatMap fun parameter => parameter.name :: comma)]] := by
    rw [appliedType, List.partition_eq_filter_filter]
    rfl
  rw [htype, ← tokensAll_names]
  simp [Grammar.segmentWith, Tree.tokens, Tree.name, Template.angles, Template.mark, Tree.operator]

end Generics

namespace Grammar

open Generics

variable {parameters : List GenericParameter}

/-- The names of parameters are read as the arguments that they are, one by one. -/
theorem takes_argumentLoop {more fuel : Nat} {rest : List TokenTree}
    (h : ∀ parameter ∈ parameters, parameter.IsRead) (hmore : parameters.length < more) :
    Takes (argumentLoop (within (fuel + 1)) more) none (nameTokens parameters)
      (argumentsOf parameters) (Template.mark ">" ++ rest) := by
  induction parameters generalizing more with
  | nil =>
    obtain ⟨more, rfl⟩ : ∃ smaller, more = smaller + 1 := Nat.exists_eq_add_one.mpr (by omega)
    exact Takes.whether true rfl (takes_pure [])
  | cons first others ih =>
    obtain ⟨more, rfl⟩ : ∃ smaller, more = smaller + 1 := Nat.exists_eq_add_one.mpr (by omega)
    obtain ⟨hfirst, hothers⟩ := List.forall_mem_cons.mp h
    have hlater := ih hothers (by simpa using hmore)
    have hcomma {behind : List TokenTree} :
        Takes (operator ",") none (Template.mark ",") comma behind := rfl
    have hargument : Takes (pathArgument (within (fuel + 1))) none first.name.tokens first.argument
        (Template.mark "," ++ nameTokens others ++ (Template.mark ">" ++ rest)) :=
      hfirst.takes_argument _
    have hstarts : Lookahead.operator ">" (first.name.tokens
        ++ (Template.mark "," ++ nameTokens others) ++ (Template.mark ">" ++ rest)) = false := by
      rw [List.append_assoc]
      exact hfirst.name_not_end
    rw [nameTokens, List.map_cons, commaTokens_cons]
    exact Takes.whether false hstarts (hargument.bind (Takes.whether false rfl
      (hcomma.bind (hlater.finish (takes_pure _)))))

/-- Arguments are written like the parameters of a declaration: lifetimes first. -/
theorem orderedArguments_argumentsOf (h : ∀ parameter ∈ parameters, parameter.IsRead) :
    orderedArguments (argumentsOf parameters) =
      (lifetimesFirst parameters).flatMap fun parameter => parameter.argument :: comma := by
  have hopen (part : List GenericParameter) :
      ((argumentsOf part).getLast?.any fun argument => argument.2.isEmpty) = false := by
    rw [argumentsOf, List.getLast?_map, Option.any_map]
    cases part.getLast? <;> rfl
  have hjoin (part : List GenericParameter) : joinWithCommas false (argumentsOf part) =
      part.flatMap fun parameter => parameter.argument :: comma := by
    induction part with
    | nil => rfl
    | cons first others ih =>
      rw [List.flatMap_cons, ← ih]
      rfl
  have hlifetimes : (argumentsOf parameters).filter (fun argument => argument.1.isKind .lifetime) =
      argumentsOf (parameters.filter isLifetime) := by
    rw [argumentsOf, List.filter_map, argumentsOf]
    congr 1
    exact List.filter_congr fun parameter hparameter => (h parameter hparameter).isKind_argument
  have hothers :
      (argumentsOf parameters).filter (not ∘ fun argument => argument.1.isKind .lifetime) =
      argumentsOf (parameters.filter (!isLifetime ·)) := by
    rw [argumentsOf, List.filter_map, argumentsOf]
    congr 1
    exact List.filter_congr fun parameter hparameter =>
      congrArg not (h parameter hparameter).isKind_argument
  rw [orderedArguments, List.partition_eq_filter_filter]
  dsimp only
  rw [hlifetimes, hothers, hopen, hjoin, lifetimesFirst, List.flatMap_append, argumentsOf,
    List.flatMap_map]

/-- A type with the names of parameters that were read is read as a type with them as arguments. -/
theorem read_typeOf {name : Located Ident} (hname : name.value.isName = true)
    (h : ∀ parameter ∈ parameters, parameter.IsRead) :
    Grammar.read Grammar.type ([.word name.value name.region]
      ++ Template.angles (nameTokens parameters)) = .ok (typeOf name parameters) := by
  obtain ⟨fuel, hfuel⟩ := exists_forTokens ([.word name.value name.region]
    ++ Template.angles (nameTokens parameters)) (show 3 ≤ 128 by decide)
  refine Takes.runAll ?_
  rw [hfuel, typeOf, ← orderedArguments_argumentsOf h]
  refine takes_angleType hname endsType_nil fun more hmore => takes_argumentLoop h ?_
  have hlength := length_le_commaTokens (parameters.map (·.name.tokens))
  rw [List.length_map] at hlength
  exact Nat.lt_of_le_of_lt hlength hmore

/-! ## The type of the field that ties -/

theorem varianceType_eq (generics : Generics) :
    generics.varianceType = Template.phantomPath
      ++ tupleArgument ((generics.parameters.filter (·.kind ≠ .const)).map
        GenericParameter.useTokens) := by
  have huses : generics.parameters.flatMap invariantUse = commaTokens
      ((generics.parameters.filter (·.kind ≠ .const)).map GenericParameter.useTokens) := by
    rw [commaTokens, List.flatMap_map]
    induction generics.parameters with
    | nil => rfl
    | cons first others ih =>
      rw [List.flatMap_cons, ih, GenericParameter.invariantUse_eq]
      cases hkind : first.kind <;> simp [hkind]
  rw [varianceType, huses, tupleArgument]

/-- The type of the field that ties a counterpart to the parameters mentions every lifetime and
every type in one function type, and no constant. -/
theorem read_varianceType {generics : Generics}
    (h : ∀ parameter ∈ generics.parameters, parameter.IsRead) :
    Grammar.read Grammar.type generics.varianceType =
      .ok (phantomOf ((generics.parameters.filter (·.kind ≠ .const)).map fun parameter =>
        functionOf parameter.subject)) := by
  obtain ⟨fuel, hfuel⟩ := exists_forTokens generics.varianceType (show 5 ≤ 128 by decide)
  have hreads : List.Forall₂ (ReadsType (fuel + 3))
      ((generics.parameters.filter (·.kind ≠ .const)).map GenericParameter.useTokens)
      ((generics.parameters.filter (·.kind ≠ .const)).map fun parameter =>
        functionOf parameter.subject) := by
    rw [List.forall₂_map_left_iff, List.forall₂_map_right_iff, List.forall₂_same]
    intro parameter hparameter
    have hread := h parameter (List.mem_of_mem_filter hparameter)
    exact takes_functionType hread.isInput hread.readsType
  have hstart : ∀ type ∈ (generics.parameters.filter (·.kind ≠ .const)).map
      GenericParameter.useTokens, ∃ more, type = Template.word "fn" ++ more :=
    List.forall_mem_map.mpr fun parameter _ => ⟨_, rfl⟩
  have hphantom := takes_phantomOf hstart hreads
  rw [← varianceType_eq] at hphantom
  refine Takes.runAll ?_
  rw [hfuel]
  exact hphantom

end Grammar

end Counterpart
