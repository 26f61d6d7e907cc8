import Counterpart.Proofs.ReadBackParameters

/-!
# Generic parameters as they are written

A list of generic parameters is written in three ways. The header of an implementation has all
parameters in their order, each with a comma behind it, and leaves out their defaults and most of
their attributes. A declaration has the lifetimes first, and a comma where the change of order would
leave one out. The code of a declaration has the order and the commas of its source. Each of them is
the list of the tokens of some parameters in some order (`listTokens`), which is the form in which
lists of parameters are read back.
-/

namespace Counterpart

open Counterpart.Parser

/-! ## Headers -/

namespace GenericParameter

/-- The parameter as it is declared: a colon without bounds is left out. -/
def settled (parameter : GenericParameter) : GenericParameter :=
  if parameter.bounds.isEmpty then { parameter with colon := [] } else parameter

/-- What is left of a parameter in the header of an implementation: no default, and only a lifetime
keeps its attributes and loses a colon without bounds. -/
def header (parameter : GenericParameter) : GenericParameter :=
  match parameter.kind with
  | .lifetime => { parameter.settled with fallback := [] }
  | .type | .const => { parameter with attributes := [], fallback := [] }

theorem tokensAll_trees (parameter : GenericParameter) :
    Tree.tokensAll parameter.trees = Tree.tokensAll parameter.settled.spelled := by
  obtain ⟨kind, attributes, keyword, name, colon, bounds, fallback⟩ := parameter
  cases bounds <;> simp [trees, settled, spelled]

theorem IsRead.tokensAll_headerTrees {parameter : GenericParameter} (h : parameter.IsRead) :
    Tree.tokensAll parameter.headerTrees = Tree.tokensAll parameter.header.spelled := by
  cases h with
  | lifetime =>
    simp only [headerTrees, header, settled, spelled]
    split <;> simp_all
  | type | placeholder | const => simp [headerTrees, header, spelled, Attribute.outer]

theorem IsRead.settled {parameter : GenericParameter} (h : parameter.IsRead) :
    parameter.settled.IsRead := by
  cases h with
  | @lifetime attributes name colon bounds hattributes hname hcolon hsum hnone =>
    cases bounds with
    | nil => exact .lifetime hattributes hname (.inl rfl) hsum fun _ => rfl
    | cons => exact .lifetime hattributes hname hcolon hsum hnone
  | @type attributes ident colon bounds fallback hattributes hname hcolon hnone =>
    cases bounds with
    | nil => exact .type hattributes hname (.inl rfl) fun _ => rfl
    | cons => exact .type hattributes hname hcolon hnone
  | placeholder hattributes => exact .placeholder hattributes
  | const hattributes hname => exact .const hattributes hname

theorem IsRead.header {parameter : GenericParameter} (h : parameter.IsRead) :
    parameter.header.IsRead := by
  cases h with
  | @lifetime attributes name colon bounds hattributes hname hcolon hsum hnone =>
    cases bounds with
    | nil => exact .lifetime hattributes hname (.inl rfl) hsum fun _ => rfl
    | cons => exact .lifetime hattributes hname hcolon hsum hnone
  | type hattributes hname hcolon hnone => exact .type nofun hname hcolon hnone
  | placeholder hattributes => exact .placeholder nofun
  | const hattributes hname => exact .const nofun hname

end GenericParameter

/-! ## Lists -/

namespace Generics

theorem listTokens_true (parameters : List GenericParameter) :
    listTokens true parameters =
      parameters.flatMap fun parameter =>
        Tree.tokensAll parameter.spelled ++ Template.mark "," := by
  induction parameters with
  | nil => rfl
  | cons first others ih => simp [listTokens, commaBehind, ih]

theorem listTokens_concat (trailing : Bool) (parameters : List GenericParameter)
    (last : GenericParameter) :
    listTokens trailing (parameters ++ [last]) = listTokens true parameters
      ++ (Tree.tokensAll last.spelled ++ if trailing then Template.mark "," else []) := by
  induction parameters with
  | nil => simp [listTokens, commaBehind]
  | cons first others ih => simp [listTokens, commaBehind, ih]

theorem tokensAll_flatMap {α : Type} (trees : α → List Tree) (values : List α) :
    Tree.tokensAll (values.flatMap trees) =
      values.flatMap fun value => Tree.tokensAll (trees value) := by
  induction values with
  | nil => rfl
  | cons value values ih => simp [ih]

theorem tokensAll_comma : Tree.tokensAll comma = Template.mark "," :=
  Tree.tokensAll_opaqueTokens _

/-- What is left of the parameters in the header of an implementation. -/
def header (generics : Generics) : Generics :=
  { generics with parameters := generics.parameters.map GenericParameter.header, trailing := true }

/-- A header has a comma behind every parameter. -/
theorem tokensAll_headerList {generics : Generics}
    (h : ∀ parameter ∈ generics.parameters, parameter.IsRead) :
    Tree.tokensAll generics.headerList = listTokens true generics.header.parameters := by
  rw [headerList, header, listTokens_true, tokensAll_flatMap, List.flatMap_map]
  refine List.flatMap_congr fun parameter hparameter => ?_
  rw [Tree.tokensAll_append, tokensAll_comma, (h parameter hparameter).tokensAll_headerTrees]

/-- Whether a parameter is a lifetime. -/
def isLifetime (parameter : GenericParameter) : Bool := decide (parameter.kind = .lifetime)

/-- Parameters with the lifetimes in front of the others. -/
def lifetimesFirst (parameters : List GenericParameter) : List GenericParameter :=
  parameters.filter isLifetime ++ parameters.filter (!isLifetime ·)

theorem lifetimesFirst_perm (parameters : List GenericParameter) :
    (lifetimesFirst parameters).Perm parameters :=
  List.filter_append_perm _ _

theorem lifetimesFirst_lifetimesFirst (parameters : List GenericParameter) :
    lifetimesFirst (lifetimesFirst parameters) = lifetimesFirst parameters := by
  simp [lifetimesFirst, List.filter_append, Bool.and_comm]

/-- The parameters in the order of a declaration. -/
def declaredOrder (generics : Generics) : List GenericParameter :=
  lifetimesFirst generics.parameters

/-- Whether a comma stands behind the last parameter of a declaration. The last one of the source
may be a lifetime, which is moved in front of the others with a comma behind it. -/
def declaredTrailing (generics : Generics) : Bool :=
  generics.trailing
    || generics.parameters.getLast?.any isLifetime && generics.parameters.any (!isLifetime ·)

theorem isEmpty_declaredOrder (generics : Generics) :
    generics.declaredOrder.isEmpty = generics.parameters.isEmpty := by
  have hperm : generics.declaredOrder.Perm generics.parameters := lifetimesFirst_perm _
  rw [Bool.eq_iff_iff, List.isEmpty_iff, List.isEmpty_iff]
  exact ⟨fun h => (h ▸ hperm).nil_eq.symm, fun h => (h ▸ hperm).eq_nil⟩

theorem marked_concat (trailing : Bool) (parameters : List GenericParameter)
    (last : GenericParameter) :
    marked trailing (parameters ++ [last]) =
      parameters.map (fun parameter => (parameter, true)) ++ [(last, trailing)] := by
  induction parameters with
  | nil => rfl
  | cons first others ih =>
    cases others with
    | nil => rfl
    | cons second others => simpa [marked] using ih

/-- The tokens of a parameter in a declaration with the comma behind it, if it is marked. -/
def markedTokens (entry : GenericParameter × Bool) : List TokenTree :=
  Tree.tokensAll entry.1.trees ++ if entry.2 then Template.mark "," else []

/-- Parameters are written with the commas that they are marked with, whatever their trees are. -/
theorem tokensAll_commaMarked {α : Type} (part : List α) (entry : α → GenericParameter × Bool)
    (trees : α → List Tree)
    (htrees : ∀ value, Tree.tokensAll (trees value) = Tree.tokensAll (entry value).1.trees) :
    Tree.tokensAll (commaMarked (part.map fun value => (trees value, (entry value).2))) =
      (part.map entry).flatMap markedTokens := by
  rw [commaMarked, tokensAll_flatMap, List.flatMap_map, List.flatMap_map]
  refine List.flatMap_congr fun value _ => ?_
  rw [markedTokens, Tree.tokensAll_append, htrees, apply_ite Tree.tokensAll, tokensAll_comma,
    Tree.tokensAll_nil]

/-- The places that a declaration notes down for its parameters are not written. -/
theorem tokensAll_write (part : List ((GenericParameter × Bool) × Nat)) :
    Tree.tokensAll (commaMarked (part.map fun ((parameter, mark), place) =>
      ([.node (.parameter place) parameter.trees], mark))) =
      (part.map Prod.fst).flatMap markedTokens :=
  tokensAll_commaMarked part Prod.fst (fun entry => [.node (.parameter entry.2) entry.1.1.trees])
    fun entry => by simp [Tree.tokens]

/-- The parameters that pass a test, with their marks. -/
def markedWith (test : GenericParameter → Bool) (generics : Generics) :
    List (GenericParameter × Bool) :=
  (marked generics.trailing generics.parameters).filter fun entry => test entry.1

/-- A declaration shows the lifetimes with their commas, a comma where one is missing behind them,
and the other parameters with their commas. -/
theorem tokensAll_declaredList_marked (generics : Generics) :
    Tree.tokensAll generics.declaredList = (generics.markedWith isLifetime).flatMap markedTokens
      ++ (if (generics.markedWith isLifetime).getLast?.any (!·.2)
          && !(generics.markedWith (!isLifetime ·)).isEmpty then Template.mark "," else [])
      ++ (generics.markedWith (!isLifetime ·)).flatMap markedTokens := by
  have hfst (test : GenericParameter → Bool) :
      ((marked generics.trailing generics.parameters).zipIdx.filter
        fun entry => test entry.1.1).map Prod.fst = generics.markedWith test := by
    have hfilter := List.filter_map (f := Prod.fst) (p := fun entry => test entry.1)
      (l := (marked generics.trailing generics.parameters).zipIdx)
    rw [List.zipIdx_map_fst] at hfilter
    exact hfilter.symm
  rw [← hfst, ← hfst, declaredList, List.partition_eq_filter_filter]
  rw [Tree.tokensAll_append, Tree.tokensAll_append, tokensAll_write, tokensAll_write]
  congr 2
  rw [List.getLast?_map, Option.any_map, List.isEmpty_map, apply_ite Tree.tokensAll,
    tokensAll_comma, Tree.tokensAll_nil]
  rfl

/-- The parameters without the last one have commas behind them. -/
theorem flatMap_markedTokens (parameters : List GenericParameter) :
    (parameters.map fun parameter => (parameter, true)).flatMap markedTokens =
      listTokens true (parameters.map GenericParameter.settled) := by
  rw [listTokens_true, List.flatMap_map, List.flatMap_map]
  exact List.flatMap_congr fun parameter _ => by
    rw [markedTokens, GenericParameter.tokensAll_trees, if_pos rfl]

theorem tokensAll_sourceList (generics : Generics) :
    Tree.tokensAll generics.sourceList =
      listTokens generics.trailing (generics.parameters.map GenericParameter.settled) := by
  have hmarked := tokensAll_commaMarked (marked generics.trailing generics.parameters) id
    (fun entry => entry.1.trees) fun entry => rfl
  rw [List.map_id] at hmarked
  refine Eq.trans hmarked ?_
  rcases List.eq_nil_or_concat generics.parameters with hnil | ⟨init, last, hlast⟩
  · rw [hnil]
    rfl
  · rw [hlast, List.concat_eq_append, marked_concat, List.flatMap_append, flatMap_markedTokens,
      List.map_append, List.map_singleton, listTokens_concat, List.flatMap_singleton, markedTokens,
      GenericParameter.tokensAll_trees]

theorem markedWith_concat (test : GenericParameter → Bool) (parameters : List GenericParameter)
    (last : GenericParameter) (trailing : Bool) (clause : List Tree) :
    markedWith test ⟨parameters ++ [last], trailing, clause⟩ =
      (parameters.filter test).map (fun parameter => (parameter, true))
        ++ if test last then [(last, trailing)] else [] := by
  rw [markedWith, marked_concat, List.filter_append, List.filter_map]
  cases hlast : test last <;> simp [hlast, Function.comp_def]

theorem listTokens_true_append (first second : List GenericParameter) :
    listTokens true (first ++ second) = listTokens true first ++ listTokens true second := by
  simp [listTokens_true]

/-- A declaration has the commas that a list in its order has. -/
theorem tokensAll_declaredList (generics : Generics) :
    Tree.tokensAll generics.declaredList = listTokens generics.declaredTrailing
      (generics.declaredOrder.map GenericParameter.settled) := by
  rw [tokensAll_declaredList_marked]
  obtain ⟨parameters, trailing, clause⟩ := generics
  rcases List.eq_nil_or_concat parameters with rfl | ⟨init, last, rfl⟩
  · rfl
  have hmark : markedTokens (last, trailing) =
      Tree.tokensAll last.settled.spelled ++ if trailing then Template.mark "," else [] := by
    rw [markedTokens, GenericParameter.tokensAll_trees]
  have hmarks (part : List GenericParameter) :
      ((part.map fun parameter => (parameter, true)).getLast?.any fun entry => !entry.2) =
        false := by
    rw [List.getLast?_map, Option.any_map]
    cases part.getLast? <;> rfl
  have hany : init.any (!isLifetime ·) = !(init.filter (!isLifetime ·)).isEmpty := by
    induction init with
    | nil => rfl
    | cons first others ih => cases hfirst : isLifetime first <;> simp_all
  rw [List.concat_eq_append, markedWith_concat, markedWith_concat, declaredOrder, lifetimesFirst,
    declaredTrailing]
  simp only [List.filter_append, List.filter_singleton, List.getLast?_concat, Option.any_some,
    List.any_append, hany]
  generalize init.filter isLifetime = lifetimes
  generalize init.filter (!isLifetime ·) = others
  cases hlast : isLifetime last with
  | true =>
    -- The last lifetime stands in front of the others, which all have commas behind them.
    simp only [if_true, Bool.not_true, Bool.false_eq_true, if_false, cond_true, cond_false,
      List.append_nil, List.flatMap_append, flatMap_markedTokens, List.flatMap_singleton, hmark,
      List.getLast?_concat, Option.any_some, List.isEmpty_map, List.map_append, List.map_singleton,
      List.any_cons, List.any_nil, hlast, Bool.or_false, Bool.true_and]
    cases others with
    | nil => simp [listTokens_concat, listTokens]
    | cons first others =>
      rw [List.isEmpty_cons, Bool.not_false, Bool.or_true, listTokens_true_append,
        listTokens_true_append]
      cases trailing <;> simp [listTokens, commaBehind]
  | false =>
    simp only [if_true, Bool.not_false, Bool.false_eq_true, if_false, cond_true, cond_false,
      List.append_nil, List.flatMap_append, flatMap_markedTokens, List.flatMap_singleton, hmark,
      hmarks, Bool.false_and, List.map_append, List.map_singleton, Bool.or_false]
    rw [← List.append_assoc (lifetimes.map _), listTokens_concat, listTokens_true_append]
    simp

/-! ## Code -/

open Grammar

/-- The parameters in the header of an implementation. -/
def headerCode (generics : Generics) : List TokenTree :=
  Template.angles (Tree.tokensAll generics.headerList)

/-- The arguments in the header of an implementation. -/
def argumentCode (generics : Generics) : List TokenTree :=
  Template.angles (Tree.tokensAll generics.argumentList)

/-- The parameters in a declaration. -/
def declaredCode (generics : Generics) : List TokenTree := Tree.tokensAll generics.declared

/-- The parameters in the code that a declaration is read from. -/
def sourceCode (generics : Generics) : List TokenTree :=
  Template.angles (Tree.tokensAll generics.sourceList)

theorem headerCode_eq {generics : Generics}
    (h : ∀ parameter ∈ generics.parameters, parameter.IsRead) :
    generics.headerCode = Template.angles (listTokens true generics.header.parameters) := by
  rw [headerCode, tokensAll_headerList h]

theorem sourceCode_eq (generics : Generics) :
    generics.sourceCode = Template.angles
      (listTokens generics.trailing (generics.parameters.map GenericParameter.settled)) := by
  rw [sourceCode, tokensAll_sourceList]

theorem declaredCode_eq {generics : Generics} (h : generics.parameters.isEmpty = false) :
    generics.declaredCode = Template.angles (listTokens generics.declaredTrailing
      (generics.declaredOrder.map GenericParameter.settled)) := by
  rw [declaredCode, declared, if_neg (Bool.eq_false_iff.mp h), ← tokensAll_declaredList]
  simp [Tree.tokens, Tree.operator, Template.angles, Template.mark]

/-- Code that lists parameters that were read is read as what their parts are read back as. -/
theorem read_of_readBack {code : List TokenTree} {trailing : Bool}
    {before answers : List GenericParameter}
    (hcode : code = Template.angles (listTokens trailing before))
    (hread : ∀ parameter ∈ before, parameter.IsRead)
    (h : ParametersReadBack (forTokens code) trailing [] before answers) :
    Grammar.read genericParameters code = .ok ⟨answers, trailing || before.isEmpty, []⟩ := by
  have htakes := takes_genericParameters hread h
  rw [← hcode] at htakes
  exact htakes.runAll

section Code

variable {generics : Generics} (hread : ∀ parameter ∈ generics.parameters, parameter.IsRead)
  {answers : List GenericParameter}

include hread

theorem isRead_header : ∀ parameter ∈ generics.header.parameters, parameter.IsRead :=
  List.forall_mem_map.mpr fun parameter hparameter => (hread parameter hparameter).header

theorem isRead_settled :
    ∀ parameter ∈ generics.parameters.map GenericParameter.settled, parameter.IsRead :=
  List.forall_mem_map.mpr fun parameter hparameter => (hread parameter hparameter).settled

theorem isRead_declaredOrder :
    ∀ parameter ∈ generics.declaredOrder.map GenericParameter.settled, parameter.IsRead := by
  refine List.forall_mem_map.mpr fun parameter hparameter => (hread parameter ?_).settled
  exact (lifetimesFirst_perm generics.parameters).mem_iff.mp hparameter

theorem read_headerCode (h : ParametersReadBack (forTokens generics.headerCode) true []
      generics.header.parameters answers) :
    Grammar.read genericParameters generics.headerCode = .ok ⟨answers, true, []⟩ :=
  read_of_readBack (headerCode_eq hread) (isRead_header hread) h

theorem read_sourceCode (h : ParametersReadBack (forTokens generics.sourceCode)
      generics.trailing [] (generics.parameters.map GenericParameter.settled) answers) :
    Grammar.read genericParameters generics.sourceCode =
      .ok ⟨answers, generics.trailing || generics.parameters.isEmpty, []⟩ := by
  have hanswer := read_of_readBack generics.sourceCode_eq (isRead_settled hread) h
  rwa [List.isEmpty_map] at hanswer

/-- Without parameters nothing is declared, and nothing is read. -/
theorem read_declaredCode (h : ParametersReadBack (forTokens generics.declaredCode)
      generics.declaredTrailing [] (generics.declaredOrder.map GenericParameter.settled) answers) :
    Grammar.read genericParameters generics.declaredCode =
      .ok ⟨answers, generics.declaredTrailing && !generics.parameters.isEmpty, []⟩ := by
  cases hempty : generics.parameters.isEmpty with
  | true =>
    have hnone : generics.declaredCode = [] := by
      rw [declaredCode, declared, if_pos hempty, Tree.tokensAll_nil]
    have horder : generics.declaredOrder = [] := by
      rw [declaredOrder, List.isEmpty_iff.mp hempty]
      rfl
    rw [horder] at h
    cases h
    rw [hnone, Bool.not_true, Bool.and_false]
    rfl
  | false =>
    have hsome : (generics.declaredOrder.map GenericParameter.settled).isEmpty = false := by
      rw [List.isEmpty_map, isEmpty_declaredOrder, hempty]
    have hanswer := read_of_readBack (declaredCode_eq hempty) (isRead_declaredOrder hread) h
    rw [hsome, Bool.or_false] at hanswer
    rw [hanswer, Bool.not_false, Bool.and_true]

end Code

end Generics

end Counterpart
