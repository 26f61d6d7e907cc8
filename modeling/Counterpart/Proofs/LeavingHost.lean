import Counterpart.Grammar.Reading
import Counterpart.Proofs.BrokenTemplate
import Counterpart.Proofs.HostScope
import Counterpart.Token.Printer

/-!
# Hosts that code leaves

The grammar reads no host whose name, or the name of one of whose parameters, is `Self`, except for
a lifetime. So the type of a host does not mention `Self`, and code that left the host stays as it
is when it leaves once more.
-/

namespace Counterpart

/-! ## Hosts that were read -/

namespace Parser

variable {cursor after : Cursor}

theorem isName_of_name {ident : Located Ident} (h : name cursor = .ok (ident, after)) :
    ident.value.isName = true := by
  unfold name at h
  split at h
  · split at h
    · next hname =>
      cases h
      exact hname
    · cases h
  · cases h

theorem exists_of_nameLeaf {tree : Tree} (h : nameLeaf cursor = .ok (tree, after)) :
    ∃ ident : Located Ident, tree = Tree.name ident ∧ ident.value.isName = true := by
  rw [nameLeaf, map_eq_pure_bind] at h
  obtain ⟨ident, behind, hname, hpure⟩ := exists_of_bind h
  cases hpure
  exact ⟨ident, rfl, isName_of_name hname⟩

theorem exists_of_lifetime {tree : Tree} (h : lifetime cursor = .ok (tree, after)) :
    ∃ joint region ident place, tree =
      .node .lifetime [.leaf (.punct '\'' joint region), .leaf (.word ident place)] := by
  unfold lifetime at h
  split at h
  · next joint region ident place rest hrest =>
    cases h
    exact ⟨joint, region, ident, place, rfl⟩
  · cases h

/-- Each of several values between separators was read by the parser for one. -/
theorem exists_of_mem_separatedValues {α : Type} {fuel : Nat} {stop : List TokenTree → Bool}
    {separator : String} {parser : Parser α} {values : List α} {trailing : Bool}
    (h : separatedValues fuel stop separator parser cursor = .ok ((values, trailing), after)) :
    ∀ value ∈ values, ∃ before behind, parser before = .ok (value, behind) := by
  induction fuel generalizing cursor values trailing with
  | zero =>
    cases h
    nofun
  | succ fuel ih =>
    obtain ⟨atStop, same, -, h⟩ := exists_of_bind h
    cases atStop with
    | true =>
      cases h
      nofun
    | false =>
      obtain ⟨first, behind, hfirst, h⟩ := exists_of_bind h
      obtain ⟨isLast, same, -, h⟩ := exists_of_bind h
      cases isLast with
      | true =>
        cases h
        intro value hvalue
        rw [List.mem_singleton.mp hvalue]
        exact ⟨_, _, hfirst⟩
      | false =>
        obtain ⟨mark, behind, -, h⟩ := exists_of_bind h
        obtain ⟨⟨rest, open?⟩, last, hrest, h⟩ := exists_of_bind h
        cases h
        intro value hvalue
        rcases List.mem_cons.mp hvalue with rfl | hvalue
        · exact ⟨_, _, hfirst⟩
        · exact ih hrest value hvalue

end Parser

open Substitution TokenTree

/-- A generic parameter is named by a word that is not `Self`, or by a lifetime. -/
def GenericParameter.IsNamed (parameter : GenericParameter) : Prop :=
  (∃ ident : Located Ident, parameter.name = Tree.name ident ∧
    ident.value.isWord selfWord = false) ∨
  parameter.kind = .lifetime ∧ ∃ joint region ident place, parameter.name =
    .node .lifetime [.leaf (.punct '\'' joint region), .leaf (.word ident place)]

theorem Ident.not_self_of_isName {ident : Ident} (h : ident.isName = true) :
    ident.isWord selfWord = false := by
  rw [Bool.eq_false_iff]
  intro hword
  rw [isWord_iff] at hword
  subst hword
  cases h

namespace Grammar

open Counterpart.Parser

variable {grammar : Grammar} {attributes : List Attribute} {cursor after : Cursor}

theorem isNamed_of_lifetimeParameter {parameter : GenericParameter}
    (h : lifetimeParameter attributes cursor = .ok (parameter, after)) : parameter.IsNamed := by
  obtain ⟨name, behind, hname, h⟩ := exists_of_bind h
  obtain ⟨colon, behind, -, h⟩ := exists_of_bind h
  have hparameter : ∃ bounds, parameter = ⟨.lifetime, attributes, [], name, colon, bounds, []⟩ := by
    dsimp only at h
    split at h
    all_goals
      obtain ⟨bounds, behind, -, h⟩ := exists_of_bind h
      cases h
      exact ⟨bounds, rfl⟩
  obtain ⟨bounds, rfl⟩ := hparameter
  exact .inr ⟨rfl, exists_of_lifetime hname⟩

theorem isNamed_of_typeParameter {parameter : GenericParameter}
    (h : typeParameter grammar attributes cursor = .ok (parameter, after)) : parameter.IsNamed := by
  obtain ⟨name, behind, hname, h⟩ := exists_of_bind h
  obtain ⟨ident, rfl, hident⟩ := exists_of_nameLeaf hname
  obtain ⟨colon, behind, -, h⟩ := exists_of_bind h
  have hparameter : parameter.name = Tree.name ident := by
    dsimp only at h
    split at h
    all_goals
      obtain ⟨bounds, behind, -, h⟩ := exists_of_bind h
      obtain ⟨equals, behind, -, h⟩ := exists_of_bind h
      split at h
      · cases h
        rfl
      · obtain ⟨fallback, behind, -, h⟩ := exists_of_bind h
        cases h
        rfl
  exact .inl ⟨ident, hparameter, Ident.not_self_of_isName hident⟩

theorem isNamed_of_constParameter {parameter : GenericParameter}
    (h : constParameter grammar attributes cursor = .ok (parameter, after)) :
    parameter.IsNamed := by
  obtain ⟨keyword, behind, -, h⟩ := exists_of_bind h
  obtain ⟨name, behind, hname, h⟩ := exists_of_bind h
  obtain ⟨ident, rfl, hident⟩ := exists_of_nameLeaf hname
  obtain ⟨colon, behind, -, h⟩ := exists_of_bind h
  obtain ⟨type, behind, -, h⟩ := exists_of_bind h
  obtain ⟨equals, behind, -, h⟩ := exists_of_bind h
  have hparameter : parameter.name = Tree.name ident := by
    dsimp only at h
    split at h
    · cases h
      rfl
    · obtain ⟨fallback, behind, -, h⟩ := exists_of_bind h
      cases h
      rfl
  exact .inl ⟨ident, hparameter, Ident.not_self_of_isName hident⟩

/-- The word that stands ahead is the one that is read. -/
theorem eq_of_anyWord {ident : Located Ident} {word : String}
    (hahead : Lookahead.keyword word cursor.rest = true)
    (h : anyWord cursor = .ok (ident, after)) : ident.value = .plain word := by
  unfold anyWord at h
  split at h
  · next read region rest hrest =>
    cases h
    rw [hrest] at hahead
    simpa [Lookahead.keyword, TokenTree.isWord, Ident.isWord_iff] using hahead
  · cases h

theorem isNamed_of_genericParameter {parameter : GenericParameter}
    (h : genericParameter grammar cursor = .ok (parameter, after)) : parameter.IsNamed := by
  obtain ⟨attributes, behind, -, h⟩ := exists_of_bind h
  obtain ⟨tokens, same, hahead, h⟩ := exists_of_bind h
  cases hahead
  split at h
  · exact isNamed_of_lifetimeParameter h
  split at h
  · exact isNamed_of_typeParameter h
  split at h
  · exact isNamed_of_constParameter h
  split at h
  · next hunderscore =>
    obtain ⟨ident, next, hword, h⟩ := exists_of_bind h
    cases h
    refine .inl ⟨ident, rfl, ?_⟩
    rw [eq_of_anyWord hunderscore hword]
    rfl
  · cases h

theorem isNamed_of_genericParameters {generics : Generics}
    (h : genericParameters grammar cursor = .ok (generics, after)) :
    ∀ parameter ∈ generics.parameters, parameter.IsNamed := by
  obtain ⟨isList, same, -, h⟩ := exists_of_bind h
  cases isList with
  | false =>
    cases h
    nofun
  | true =>
    obtain ⟨opening, behind, -, h⟩ := exists_of_bind h
    obtain ⟨tokens, same, -, h⟩ := exists_of_bind h
    obtain ⟨⟨parameters, trailing⟩, behind, hparameters, h⟩ := exists_of_bind h
    obtain ⟨closing, behind, -, h⟩ := exists_of_bind h
    cases h
    intro parameter hparameter
    obtain ⟨before, behind, hread⟩ := exists_of_mem_separatedValues hparameters parameter hparameter
    exact isNamed_of_genericParameter hread

/-- The name of a struct and the names of its parameters are not `Self`. -/
theorem isNamed_of_structRule {host : StructItem}
    (h : structRule grammar attributes cursor = .ok (host, after)) :
    host.ident.value.isWord selfWord = false ∧
      ∀ parameter ∈ host.generics.parameters, parameter.IsNamed := by
  obtain ⟨visibility, behind, -, h⟩ := exists_of_bind h
  obtain ⟨keyword, behind, -, h⟩ := exists_of_bind h
  obtain ⟨ident, behind, hident, h⟩ := exists_of_bind h
  obtain ⟨generics, behind, hgenerics, h⟩ := exists_of_bind h
  have hhost : host.ident = ident ∧ host.generics.parameters = generics.parameters := by
    obtain ⟨isWhere, behind, -, h⟩ := exists_of_bind h
    obtain ⟨clause, behind, -, h⟩ := exists_of_bind h
    obtain ⟨tokens, behind, -, h⟩ := exists_of_bind h
    split at h
    · obtain ⟨⟨fields, trailing⟩, behind, -, h⟩ := exists_of_bind h
      obtain ⟨isWhere, behind, -, h⟩ := exists_of_bind h
      obtain ⟨clause, behind, -, h⟩ := exists_of_bind h
      obtain ⟨isOver, behind, -, h⟩ := exists_of_bind h
      cases isOver with
      | false => cases h
      | true =>
        obtain ⟨mark, behind, -, h⟩ := exists_of_bind h
        cases h
        exact ⟨rfl, rfl⟩
    split at h
    · obtain ⟨⟨fields, trailing⟩, behind, -, h⟩ := exists_of_bind h
      cases h
      exact ⟨rfl, rfl⟩
    split at h
    · obtain ⟨mark, behind, -, h⟩ := exists_of_bind h
      cases h
      exact ⟨rfl, rfl⟩
    split at h <;> cases h
  rw [hhost.1, hhost.2]
  exact ⟨Ident.not_self_of_isName (isName_of_name hident), isNamed_of_genericParameters hgenerics⟩

end Grammar

/-! ## The type of a host -/

/-- The arguments of the type of a host are the names of its parameters, in some order. -/
theorem Generics.exists_appliedType (name : Located Ident) (generics : Generics) :
    ∃ arguments : List GenericParameter, (∀ argument ∈ arguments, argument ∈ generics.parameters) ∧
      generics.appliedType name = .node .typePath [.node .path [.node .segment [Tree.name name,
        .node .phrase (Tree.operator "<"
          ++ arguments.flatMap (fun argument => argument.name :: comma) ++ Tree.operator ">")]]] := by
  refine ⟨_, fun argument hargument => ?_, rfl⟩
  exact List.mem_partition.mpr (List.mem_append.mp hargument)

namespace Substitution

theorem selfFree_phrase {parts : List Tree} (hparts : ∀ part ∈ parts, SelfFree part) :
    SelfFree (.node .phrase parts) :=
  .node nofun nofun nofun nofun hparts

theorem selfFree_parameterName {parameter : GenericParameter} (h : parameter.IsNamed) :
    SelfFree parameter.name := by
  obtain ⟨ident, hname, -⟩ | ⟨-, joint, region, ident, place, hname⟩ := h
  · rw [hname]
    exact .leaf _
  · rw [hname]
    exact .node nofun nofun nofun nofun (selfFree_leaves [.punct '\'' joint region, .word ident place])

theorem lacksAll_parameterName {parameter : GenericParameter} (h : parameter.IsNamed)
    (hlifetime : parameter.kind = .lifetime → lacksAll selfWord parameter.name.tokens = true) :
    lacksAll selfWord parameter.name.tokens = true := by
  obtain ⟨ident, hname, hident⟩ | ⟨hkind, -⟩ := h
  · rw [hname]
    simp [Tree.name, Tree.tokens, lacksAll, lacks, hident]
  · exact hlifetime hkind

variable {host : StructItem}

theorem selfFree_appliedType (hname : host.ident.value.isWord selfWord = false)
    (hnamed : ∀ parameter ∈ host.generics.parameters, parameter.IsNamed) :
    SelfFree (host.generics.appliedType host.ident) := by
  obtain ⟨arguments, harguments, htype⟩ := host.generics.exists_appliedType host.ident
  have hlist : ∀ tree ∈ Tree.operator "<"
      ++ arguments.flatMap (fun argument => argument.name :: Generics.comma)
      ++ Tree.operator ">", SelfFree tree := by
    simp only [List.mem_append, List.mem_flatMap, List.mem_cons]
    rintro tree ((hopening | ⟨argument, hargument, rfl | hcomma⟩) | hclosing)
    · exact selfFree_leaves _ tree hopening
    · exact selfFree_parameterName (hnamed argument (harguments argument hargument))
    · exact selfFree_leaves _ tree hcomma
    · exact selfFree_leaves _ tree hclosing
  have hpath : ∀ parts, ¬ StartsWithSelf (.node .path [.node .segment (Tree.name host.ident :: parts)]) := by
    rintro parts ⟨region, own, rest, hsame⟩
    simp only [Tree.name, selfPath, Tree.node.injEq, List.cons.injEq, Tree.leaf.injEq,
      TokenTree.word.injEq] at hsame
    rw [hsame.2.1.2.1.1] at hname
    cases hname
  rw [htype]
  refine .node (by decide) (by decide) (fun _ part hpart => ?_) (by simp) fun part hpart => ?_
  · rw [List.mem_singleton.mp hpart]
    exact hpath _
  rw [List.mem_singleton.mp hpart]
  refine .node (by decide) (by decide) (by simp) (by simp) fun part hpart => ?_
  rw [List.mem_singleton.mp hpart]
  refine selfFree_segment fun part hpart => ?_
  rcases List.mem_cons.mp hpart with rfl | hpart
  · exact .leaf _
  · rw [List.mem_singleton.mp hpart]
    exact selfFree_phrase hlist

theorem lacksAll_appliedType (hname : host.ident.value.isWord selfWord = false)
    (hparameters : ∀ parameter ∈ host.generics.parameters,
      lacksAll selfWord parameter.name.tokens = true) :
    lacksAll selfWord (host.generics.appliedType host.ident).tokens = true := by
  obtain ⟨arguments, harguments, htype⟩ := host.generics.exists_appliedType host.ident
  have hlist : ∀ argument ∈ arguments, lacksAll selfWord argument.name.tokens = true :=
    fun argument hargument => hparameters argument (harguments argument hargument)
  rw [htype]
  simpa [Tree.tokens, Tree.name, Tree.operator, Tree.opaqueTokens, operatorTokens, Generics.comma,
    lacksAll, lacks, hname] using hlist

/-- Nothing that stands for the `Self` of a host mentions it, unless a lifetime parameter of the
host does. -/
theorem isOutside_ofHost (hname : host.ident.value.isWord selfWord = false)
    (hnamed : ∀ parameter ∈ host.generics.parameters, parameter.IsNamed)
    (hlifetimes : ∀ parameter ∈ host.generics.parameters, parameter.kind = .lifetime →
      lacksAll selfWord parameter.name.tokens = true) : IsOutside (ofHost host) where
  name := hname
  isType := rfl
  type := selfFree_appliedType hname hnamed
  tokens := lacksAll_appliedType hname fun parameter hparameter =>
    lacksAll_parameterName (hnamed parameter hparameter) (hlifetimes parameter hparameter)

/-! ## What stands in the place of `Self` -/

/-- None of several parts is a path. -/
def NoPath (parts : List Tree) : Prop := ∀ part ∈ parts, ∀ inner, part ≠ .node .path inner

section

variable {parts : List Tree} (hparts : NoPath parts) (region : Option Region)
  (arguments rest : List Tree)

include hparts

theorem selfPath?_append : selfPath? (parts ++ [selfPath region arguments rest]) = some rest := by
  have hnone : selfPath? parts = none := by
    rw [selfPath?_eq_none_iff]
    rintro part hpart ⟨own, inner, others, rfl⟩
    exact hparts _ hpart _ rfl
  rw [selfPath?] at hnone ⊢
  rw [List.findSome?_append, hnone, Option.none_or, List.findSome?_singleton, behindSelf?_selfPath]

theorem replacePath_append (substitution : Substitution) :
    substitution.replacePath (parts ++ [selfPath region arguments rest]) =
      substitution.inTrees parts ++ [Tree.pathOfName substitution.hostName] := by
  induction parts with
  | nil => simp [selfPath, replacePath, inTrees]
  | cons part others ih =>
    have hfirst : ∀ inner, part ≠ .node .path inner := hparts part List.mem_cons_self
    rw [List.cons_append, replacePath, ih fun other hother => hparts other (.tail _ hother),
      inTrees, List.cons_append]
    exact hfirst

theorem restOfPath_append (substitution : Substitution) :
    substitution.restOfPath (parts ++ [selfPath region arguments rest]) =
      substitution.inTrees rest := by
  induction parts with
  | nil => simp [selfPath, restOfPath]
  | cons part others ih =>
    have hfirst : ∀ inner, part ≠ .node .path inner := hparts part List.mem_cons_self
    rw [List.cons_append, restOfPath, ih fun other hother => hparts other (.tail _ hother)]
    exact fun inner others => hfirst _

end

/-- What stands in the place of `Self` is the host's type where a type stands and the host's name
where a value or a record stands, and a longer path goes on from the host's type. Attributes may
stand in front of a path. Nothing is replaced in items. -/
structure NamesHost (name : Located Ident) (type : Tree) (substitution : Substitution) : Prop where
  typeAlone : ∀ attributes, NoPath attributes → ∀ region arguments,
    substitution.inTree (.node .typePath (attributes ++ [selfPath region arguments []])) = type
  typeRest : ∀ attributes, NoPath attributes → ∀ region arguments head rest,
    substitution.inTree
        (.node .typePath (attributes ++ [selfPath region arguments (head :: rest)])) =
      .node .typePath [.node .qualifiedPath (Tree.operator "<" ++ [type] ++ Tree.operator ">"
        ++ substitution.inTrees (head :: rest))]
  valueAlone : ∀ attributes, NoPath attributes → ∀ region arguments,
    substitution.inTree
        (.node (.expression .path) (attributes ++ [selfPath region arguments []])) =
      .node (.expression .path) (substitution.inTrees attributes ++ [Tree.pathOfName name])
  valueRest : ∀ attributes, NoPath attributes → ∀ region arguments head rest,
    substitution.inTree
        (.node (.expression .path) (attributes ++ [selfPath region arguments (head :: rest)])) =
      .node (.expression .path) [.node .qualifiedPath (Tree.operator "<" ++ [type]
        ++ Tree.operator ">" ++ substitution.inTrees (head :: rest))]
  record : ∀ kind, kind = .expression .structLiteral ∨ kind = .pattern .record →
    ∀ before region after,
      substitution.inTree (.node kind (before ++ selfPath region [] [] :: after)) =
        .node kind ((substitution.inTrees before).map substitution.inRecordPath
          ++ Tree.pathOfName name :: (substitution.inTrees after).map substitution.inRecordPath)
  items : ∀ parts, substitution.inTree (.node .item parts) = .node .item parts

theorem namesHost (substitution : Substitution) :
    NamesHost substitution.hostName substitution.hostType substitution where
  typeAlone attributes hattributes region arguments := by
    simp only [inTree, selfPath?_append hattributes region arguments []]
  typeRest attributes hattributes region arguments head rest := by
    simp only [inTree, selfPath?_append hattributes region arguments (head :: rest),
      restOfPath_append hattributes region arguments (head :: rest), qualified]
  valueAlone attributes hattributes region arguments := by
    simp only [inTree, selfPath?_append hattributes region arguments [],
      replacePath_append hattributes region arguments []]
  valueRest attributes hattributes region arguments head rest := by
    simp only [inTree, selfPath?_append hattributes region arguments (head :: rest),
      restOfPath_append hattributes region arguments (head :: rest), qualified]
  record kind hkind before region after := by
    have hpath : substitution.inRecordPath (substitution.inTree (selfPath region [] [])) =
        Tree.pathOfName substitution.hostName := by
      rw [selfPath, inTree_path, inTrees, inTrees, inTree_segment, inTrees, inTrees, inTree]
      rfl
    rcases hkind with rfl | rfl
    all_goals
      rw [inTree, inTrees_eq_map, List.map_append, List.map_cons, List.map_append, List.map_cons,
        hpath, ← inTrees_eq_map, ← inTrees_eq_map]
  items parts := by rw [inTree]

/-! ## Code of hosts -/

/-- Code that left its host does not mention `Self`, but the host's type or name in its place, and
leaving once more changes nothing. A lifetime of the host must not be called `Self`. -/
theorem code_left_host {grammar : Grammar} {attributes : List Attribute} {cursor after : Cursor}
    (hread : grammar.structRule attributes cursor = .ok (host, after))
    (hlifetimes : ∀ parameter ∈ host.generics.parameters, parameter.kind = .lifetime →
      lacksAll selfWord parameter.name.tokens = true) :
    (∀ tree, SelfFree ((ofHost host).inTree tree) ∧
      (ofHost host).inTree ((ofHost host).inTree tree) = (ofHost host).inTree tree) ∧
    (∀ generics, SelfFreeGenerics ((ofHost host).inGenerics generics) ∧
      (ofHost host).inGenerics ((ofHost host).inGenerics generics) =
        (ofHost host).inGenerics generics) ∧
    NamesHost host.ident (host.generics.appliedType host.ident) (ofHost host) := by
  obtain ⟨hname, hnamed⟩ := Grammar.isNamed_of_structRule hread
  have houtside : IsOutside (ofHost host) := isOutside_ofHost hname hnamed hlifetimes
  refine ⟨fun tree => ?_, fun generics => ?_, namesHost (ofHost host)⟩
  · exact ⟨selfFree_inTree houtside tree, inTree_inTree houtside tree⟩
  · exact ⟨selfFreeGenerics_inGenerics houtside generics, inGenerics_inGenerics houtside generics⟩

/-- The tokens of `struct H<'a>;` with a name for the lifetime. -/
def sampleCode (lifetime : String) : List TokenTree :=
  Template.word "struct" ++ Template.word "H" ++ Template.mark "<"
    ++ .punct '\'' true none :: Template.word lifetime ++ Template.mark ">" ++ Template.mark ";"

/-- The struct that they declare. -/
def sampleHost (lifetime : String) : StructItem :=
  let name := Tree.node .lifetime [.leaf (.punct '\'' true none), .leaf (wordToken lifetime)]
  ⟨[], ⟨.inherited, []⟩, ⟨.plain "H", none⟩, ⟨[⟨.lifetime, [], [], name, [], [], []⟩], false, []⟩,
    .unit⟩

theorem code_left_sampleHost :
    ∃ after, (Grammar.forTokens (sampleCode "a")).structRule [] (.ofTokens (sampleCode "a")) =
        .ok (sampleHost "a", after) ∧
      ∀ tree, SelfFree ((ofHost (sampleHost "a")).inTree tree) := by
  have hread : (Grammar.forTokens (sampleCode "a")).structRule [] (.ofTokens (sampleCode "a")) =
      .ok (sampleHost "a", ⟨[], none, none⟩) := rfl
  exact ⟨_, hread, fun tree => ((code_left_host hread (by decide)).1 tree).1⟩

/-- The tokens of `m!(Self::x)` as a macro call. -/
def sampleCall : Tree :=
  .node .macroCall (Tree.pathOfName ⟨.plain "m", none⟩ :: Tree.operator "!"
    ++ [.leaf (groupToken .parenthesis
      (Template.word "Self" ++ Template.mark "::" ++ Template.word "x"))])

/-- The arguments of a macro call mention `Self` after they left a host with a lifetime `'Self`, and
leaving once more changes them. -/
theorem self_lifetime_not_left :
    (Grammar.forTokens (sampleCode "Self")).structRule [] (.ofTokens (sampleCode "Self")) =
      .ok (sampleHost "Self", ⟨[], none, none⟩) ∧
    TokenTree.renderAll ((ofHost (sampleHost "Self")).inTree sampleCall).tokens =
      "m ! (< H < 'Self , > > :: x)" ∧
    TokenTree.renderAll ((ofHost (sampleHost "Self")).inTree
        ((ofHost (sampleHost "Self")).inTree sampleCall)).tokens =
      "m ! (< H < 'H , > > :: x)" := by
  refine ⟨rfl, ?_, ?_⟩
  · cbv
  · cbv

end Substitution

end Counterpart
