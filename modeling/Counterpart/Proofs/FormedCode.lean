import Mathlib
import Counterpart.Grammar.Reading
import Counterpart.Proofs.ReplacedInPlace

/-!
# Code that was read is formed

Where a path stands for a type or a value, the grammar puts it at the end of its construct.
Attributes are put in front of it later on, and they are no paths, so code that was read is formed.
What is shown is a little stronger: formed code may hold anything as the arguments of `Self`, while a
reader may take these arguments out and put them elsewhere.

There is a lemma for each reader, which says that all it answers with is shaped. What has been read
before, and what is left to be read, does not matter.
-/

set_option mvcgen.warning false

open Std.Do Counterpart.Grammar Counterpart.Parser

namespace Counterpart

namespace Substitution

/-! ## Shaped code -/

mutual

/-- Code in which a path stands for a type or a value at the end of its construct, behind parts that
are no paths, at any depth. -/
def Shaped : Tree → Prop
  | .leaf _ => True
  | .group _ _ _ content => ShapedAll content
  | .node kind parts => kind = .item ∨ kind = .macroCall ∨
      (isPathKind kind = true → NoPath parts.dropLast) ∧ ShapedAll parts

/-- Several trees are shaped. -/
def ShapedAll : List Tree → Prop
  | [] => True
  | tree :: rest => Shaped tree ∧ ShapedAll rest

end

@[grind norm] theorem shapedAll_nil : ShapedAll [] ↔ True := by simp [ShapedAll]

@[grind norm] theorem shapedAll_cons {tree : Tree} {rest : List Tree} :
    ShapedAll (tree :: rest) ↔ Shaped tree ∧ ShapedAll rest := by simp [ShapedAll]

theorem shaped_of_single {tree : Tree} {trees : List Tree} (htrees : trees = [tree])
    (h : ShapedAll trees) : Shaped tree := by
  rw [htrees] at h
  exact (shapedAll_cons.mp h).1

theorem shapedAll_iff {trees : List Tree} : ShapedAll trees ↔ ∀ tree ∈ trees, Shaped tree := by
  induction trees with
  | nil => simp [ShapedAll]
  | cons tree rest ih => rw [shapedAll_cons, ih, List.forall_mem_cons]

@[grind norm] theorem shapedAll_append {first second : List Tree} :
    ShapedAll (first ++ second) ↔ ShapedAll first ∧ ShapedAll second := by
  simp only [shapedAll_iff, List.forall_mem_append]

@[grind norm] theorem shapedAll_ite {test : Prop} [Decidable test] {first second : List Tree} :
    ShapedAll (if test then first else second) ↔
      (test → ShapedAll first) ∧ (¬ test → ShapedAll second) := by
  split <;> simp [*]

@[grind norm] theorem shaped_leaf {token : TokenTree} : Shaped (.leaf token) ↔ True := by
  simp [Shaped]

@[grind norm] theorem shaped_group {delimiter : Delimiter} {opening closing : Option Region}
    {content : List Tree} :
    Shaped (.group delimiter opening closing content) ↔ ShapedAll content := by
  rw [Shaped]

@[grind norm] theorem shaped_node {kind : Kind} {parts : List Tree} :
    Shaped (.node kind parts) ↔ kind = .item ∨ kind = .macroCall ∨
      (isPathKind kind = true → NoPath parts.dropLast) ∧ ShapedAll parts := by
  rw [Shaped]

@[grind norm] theorem isPathKind_iff {kind : Kind} :
    isPathKind kind = true ↔ kind = .typePath ∨ kind = .expression .path := by
  rw [isPathKind, Bool.or_eq_true, beq_iff_eq, beq_iff_eq]

@[simp] theorem noPath_nil : NoPath [] := fun _ htree => absurd htree List.not_mem_nil

/-- In front of the only part of a construct there is no path. -/
@[grind norm] theorem noPath_dropLast_single {tree : Tree} : NoPath [tree].dropLast ↔ True := by
  simp

@[grind norm] theorem shaped_name {ident : Located Ident} : Shaped (Tree.name ident) ↔ True :=
  shaped_leaf

@[grind norm] theorem shaped_pathOfName {ident : Located Ident} :
    Shaped (Tree.pathOfName ident) ↔ True := by
  simp [Tree.pathOfName, Shaped, ShapedAll, isPathKind, Tree.name]

@[grind norm] theorem shaped_itemTree {item : Item} : Shaped item.tree ↔ True := by
  simp [Item.tree, Shaped]

@[grind norm] theorem shaped_generatedGroup {delimiter : Delimiter} {content : List Tree} :
    Shaped (Tree.generatedGroup delimiter content) ↔ ShapedAll content :=
  shaped_group

@[grind norm] theorem shapedAll_opaqueTokens {tokens : List TokenTree} :
    ShapedAll (Tree.opaqueTokens tokens) ↔ True := by
  refine iff_true_intro (shapedAll_iff.mpr fun tree htree => ?_)
  obtain ⟨token, -, rfl⟩ := List.mem_map.mp htree
  exact shaped_leaf.mpr trivial

@[grind norm] theorem shapedAll_operator {characters : String} :
    ShapedAll (Tree.operator characters) ↔ True :=
  shapedAll_opaqueTokens

/-- A formed path has formed code behind its first word. -/
theorem formed_behind_self {region : Option Region} {arguments rest : List Tree}
    (h : Formed (selfPath region arguments rest)) : ∀ part ∈ rest, Formed part := by
  generalize hpath : selfPath region arguments rest = path at h
  cases h with
  | self hkind =>
    injection hpath with hpath
    subst hpath
    cases hkind
  | node hitem hcall hself hparts =>
    cases hpath
    exact fun part hpart => hparts part (List.mem_cons_of_mem _ hpart)
  | _ => cases hpath

mutual

/-- Shaped code is formed. -/
theorem formed_of_shaped : ∀ {tree : Tree}, Shaped tree → Formed tree
  | .leaf token, _ => .leaf token
  | .group _ _ _ content, h => .group (formedAll_of_shapedAll (shaped_group.mp h))
  | .node kind parts, h => by
    by_cases hitem : kind = .item
    · rw [hitem]
      exact .item parts
    by_cases hcall : kind = .macroCall
    · rw [hcall]
      exact .call parts
    obtain ⟨hpaths, hparts⟩ := ((shaped_node.mp h).resolve_left hitem).resolve_left hcall
    have hformed := formedAll_of_shapedAll hparts
    by_cases hself : isPathKind kind = true ∧ ∃ part ∈ parts, StartsWithSelf part
    · obtain ⟨hkind, part, hpart, region, arguments, rest, rfl⟩ := hself
      obtain rfl | ⟨front, last, rfl⟩ := List.eq_nil_or_concat' parts
      · cases hpart
      rw [List.dropLast_concat] at hpaths
      rw [List.forall_mem_append, List.forall_mem_singleton] at hformed
      obtain hlost | hlast := List.mem_append.mp hpart
      · exact absurd rfl (hpaths hkind _ hlost _)
      · obtain rfl := List.mem_singleton.mp hlast
        exact .self hkind (hpaths hkind) hformed.1 region arguments (formed_behind_self hformed.2)
    · refine .node hitem hcall (fun hkind part hpart hstarts => ?_) hformed
      exact hself ⟨hkind, part, hpart, hstarts⟩

/-- Shaped trees are formed. -/
theorem formedAll_of_shapedAll : ∀ {trees : List Tree}, ShapedAll trees →
    ∀ tree ∈ trees, Formed tree
  | [], _ => nofun
  | _ :: _, h => List.forall_mem_cons.mpr
    ⟨formed_of_shaped (shapedAll_cons.mp h).1, formedAll_of_shapedAll (shapedAll_cons.mp h).2⟩

end

/-! ## Attributes in front of a construct -/

theorem noPath_append {first second : List Tree} (hfirst : NoPath first) (hsecond : NoPath second) :
    NoPath (first ++ second) :=
  List.forall_mem_append.mpr ⟨hfirst, hsecond⟩

/-- A shaped construct is shaped behind parts that are no paths. -/
theorem shaped_behind {attributes own : List Tree} {kind : Kind} (hnone : NoPath attributes)
    (hattributes : ShapedAll attributes) (h : Shaped (.node kind own)) :
    Shaped (.node kind (attributes ++ own)) := by
  rw [shaped_node] at h ⊢
  refine h.imp_right (Or.imp_right fun ⟨hpath, hown⟩ => ⟨fun hkind => ?_, ?_⟩)
  · by_cases hempty : own = []
    · rw [hempty, List.append_nil]
      exact fun part hpart => hnone part (List.mem_of_mem_dropLast hpart)
    · rw [List.dropLast_append_of_ne_nil hempty]
      exact noPath_append hnone (hpath hkind)
  · exact shapedAll_append.mpr ⟨hattributes, hown⟩

theorem shaped_attributed {attributes : List Tree} {tree : Tree} (hnone : NoPath attributes)
    (hattributes : ShapedAll attributes) (h : Shaped tree) :
    Shaped (tree.attributed attributes) := by
  rw [Tree.attributed.eq_def]
  split
  case h_1 => exact h
  case h_2 => exact h
  case h_3 own =>
    split
    · exact h
    · have hown : ShapedAll own := by simpa [shaped_node, isPathKind] using h
      simpa [shaped_node, isPathKind, shapedAll_append, shapedAll_cons, shapedAll_nil,
        shaped_generatedGroup] using ⟨hattributes, hown⟩
  case h_4 => exact shaped_behind hnone hattributes h
  case h_5 => exact h

theorem shaped_prependLeft {attributes : List Tree} {tree : Tree} (hnone : NoPath attributes)
    (hattributes : ShapedAll attributes) (h : Shaped tree) :
    Shaped (tree.prependLeft attributes) := by
  fun_induction Tree.prependLeft attributes tree with
  | case4 tree => exact shaped_attributed hnone hattributes h
  | _ => grind -ring -linarith

end Substitution

/-! ## Answers of a reader -/

namespace Parser

/-- A specification of a parser says what holds of a value that it answers with. -/
theorem triple_iff {α : Type} {parser : Parser α} {c₀ : Cursor} {post : α → Cursor → Prop} :
    (⦃fun c => ⌜c = c₀⌝⦄ parser ⦃⇓? v c => ⌜post v c⌝⦄) ↔
      ∀ v c, parser c₀ = .ok (v, c) → post v c := by
  have hrun : (wp⟦parser⟧ (⇓? v c => ⌜post v c⌝) c₀).down ↔
      ∀ v c, parser c₀ = .ok (v, c) → post v c := by
    show (wp⟦parser c₀⟧ (⇓? r => ⌜post r.1 r.2⌝)).down ↔ _
    cases parser c₀ with
    | error fault => exact ⟨nofun, fun _ => trivial⟩
    | ok r =>
      constructor
      · rintro h v c ⟨⟩
        exact h
      · intro h
        exact h _ _ rfl
  constructor
  · intro h
    exact hrun.mp (h c₀ rfl)
  · intro h c hc
    cases hc
    exact hrun.mpr h

/-- What holds of all that a reader answers with. -/
theorem answers_iff {α : Type} {parser : Parser α} {good : α → Prop} :
    (⦃⌜True⌝⦄ parser ⦃⇓? v => ⌜good v⌝⦄) ↔ ∀ c v after, parser c = .ok (v, after) → good v := by
  constructor
  · intro h c
    exact triple_iff.mp fun c' _ => h c' trivial
  · intro h c _
    exact triple_iff.mpr (h c) c rfl

theorem answers_any {α : Type} (parser : Parser α) : ⦃⌜True⌝⦄ parser ⦃⇓? _ => ⌜True⌝⦄ :=
  answers_iff.mpr fun _ _ _ _ => trivial

end Parser

namespace Substitution

/-! ## Basic readers -/

@[scoped spec] theorem looking_any (test : List TokenTree → Bool) :
    ⦃⌜True⌝⦄ looking test ⦃⇓? _ => ⌜True⌝⦄ := answers_any _

@[scoped spec] theorem ahead_any : ⦃⌜True⌝⦄ ahead ⦃⇓? _ => ⌜True⌝⦄ := answers_any _

@[scoped spec] theorem atEnd_any : ⦃⌜True⌝⦄ atEnd ⦃⇓? _ => ⌜True⌝⦄ := answers_any _

@[scoped spec] theorem name_any : ⦃⌜True⌝⦄ name ⦃⇓? _ => ⌜True⌝⦄ := answers_any _

@[scoped spec] theorem anyWord_any : ⦃⌜True⌝⦄ anyWord ⦃⇓? _ => ⌜True⌝⦄ := answers_any _

@[scoped spec] theorem failWith_none {α : Type} (complaint : Complaint) :
    ⦃⌜True⌝⦄ (failWith complaint : Parser α) ⦃⇓? _ => ⌜False⌝⦄ := by
  refine answers_iff.mpr fun c v after h => ?_
  cases h

@[scoped spec] theorem failOn_none {α : Type} (trees : List Tree) (complaint : Complaint) :
    ⦃⌜True⌝⦄ (failOn trees complaint : Parser α) ⦃⇓? _ => ⌜False⌝⦄ := by
  refine answers_iff.mpr fun c v after h => ?_
  cases h

@[scoped spec] theorem wantingNothing_none {α : Type} :
    ⦃⌜True⌝⦄ (wantingNothing : Parser α) ⦃⇓? _ => ⌜False⌝⦄ := by
  refine answers_iff.mpr fun c v after h => ?_
  cases h

@[scoped spec] theorem wanting_none {α : Type} (pieces : List String) :
    ⦃⌜True⌝⦄ (wanting pieces : Parser α) ⦃⇓? _ => ⌜False⌝⦄ := by
  refine answers_iff.mpr fun c v after h => ?_
  cases h

theorem shapedAll_of_operatorLeaves {characters : List Char} {tokens remaining : List TokenTree}
    {leaves : List Tree} (h : operatorLeaves? characters tokens = some (leaves, remaining)) :
    ShapedAll leaves := by
  induction characters generalizing tokens leaves remaining with
  | nil =>
    cases h
    exact shapedAll_nil.mpr trivial
  | cons wanted more ih =>
    rw [operatorLeaves?.eq_def] at h
    split at h
    · cases h
      exact shapedAll_nil.mpr trivial
    · split at h
      · cases h
        exact shapedAll_cons.mpr ⟨shaped_leaf.mpr trivial, shapedAll_nil.mpr trivial⟩
      · cases h
    · next hmore =>
      split at h
      · obtain ⟨⟨inner, after⟩, hinner, heq⟩ := Option.map_eq_some_iff.mp h
        cases heq
        cases hmore
        exact shapedAll_cons.mpr ⟨shaped_leaf.mpr trivial, ih hinner⟩
      · cases h
    · cases h

@[scoped spec] theorem operator_shaped (text : String) :
    ⦃⌜True⌝⦄ operator text ⦃⇓? v => ⌜ShapedAll v⌝⦄ := by
  refine answers_iff.mpr fun c v after h => ?_
  rw [operator] at h
  split at h
  · next hleaves =>
    cases h
    exact shapedAll_of_operatorLeaves hleaves
  · cases h

@[scoped spec] theorem operator?_shaped (text : String) :
    ⦃⌜True⌝⦄ operator? text ⦃⇓? v => ⌜ShapedAll v⌝⦄ := by
  mvcgen [operator?]

@[scoped spec] theorem keyword_shaped (word : String) :
    ⦃⌜True⌝⦄ keyword word ⦃⇓? v => ⌜ShapedAll v⌝⦄ := by
  refine answers_iff.mpr fun c v after h => ?_
  rw [keyword] at h
  split at h
  · split at h
    · cases h
      simp [ShapedAll, Shaped]
    · cases h
  · cases h

@[scoped spec] theorem keyword?_shaped (word : String) :
    ⦃⌜True⌝⦄ keyword? word ⦃⇓? v => ⌜ShapedAll v⌝⦄ := by
  mvcgen [keyword?]

@[scoped spec] theorem nameLeaf_shaped : ⦃⌜True⌝⦄ nameLeaf ⦃⇓? v => ⌜Shaped v⌝⦄ := by
  mvcgen [nameLeaf]

@[scoped spec] theorem lifetime_shaped : ⦃⌜True⌝⦄ lifetime ⦃⇓? v => ⌜Shaped v⌝⦄ := by
  refine answers_iff.mpr fun c v after h => ?_
  rw [lifetime] at h
  split at h
  · cases h
    simp [Shaped, ShapedAll, isPathKind]
  · cases h

@[scoped spec] theorem lifetime?_shaped : ⦃⌜True⌝⦄ lifetime? ⦃⇓? v => ⌜ShapedAll v⌝⦄ := by
  mvcgen [lifetime?]

@[scoped spec] theorem literal_shaped : ⦃⌜True⌝⦄ literal ⦃⇓? v => ⌜ShapedAll v⌝⦄ := by
  refine answers_iff.mpr fun c v after h => ?_
  rw [literal] at h
  split at h
  · split at h
    · cases h
      simp [ShapedAll, Shaped]
    · cases h
      simp [ShapedAll, Shaped]
    · cases h
  · cases h

@[scoped spec] theorem anyTree_shaped : ⦃⌜True⌝⦄ anyTree ⦃⇓? v => ⌜Shaped v⌝⦄ := by
  refine answers_iff.mpr fun c v after h => ?_
  rw [anyTree] at h
  split at h
  · cases h
    exact shaped_leaf.mpr trivial
  · cases h

@[scoped spec] theorem anyGroup_shaped : ⦃⌜True⌝⦄ anyGroup ⦃⇓? v => ⌜Shaped v⌝⦄ := by
  refine answers_iff.mpr fun c v after h => ?_
  rw [anyGroup] at h
  split at h
  · cases h
    exact shaped_leaf.mpr trivial
  · cases h

@[scoped spec] theorem tokensSince_shaped (start : List TokenTree) :
    ⦃⌜True⌝⦄ tokensSince start ⦃⇓? v => ⌜ShapedAll v⌝⦄ := by
  refine answers_iff.mpr fun c v after h => ?_
  cases h
  exact shapedAll_opaqueTokens.mpr trivial

/-! ## Groups and loops -/

/-- What is so of all that a reader answers with is so of what it reads in a group. -/
theorem inside_answers {α : Type} (delimiter : Delimiter) (good : α → Prop) {parser : Parser α}
    (hparser : ⦃⌜True⌝⦄ parser ⦃⇓? v => ⌜good v⌝⦄) :
    ⦃⌜True⌝⦄ inside delimiter parser ⦃⇓? v => ⌜good v.1⌝⦄ := by
  refine answers_iff.mpr fun c v after h => ?_
  rw [inside] at h
  split at h
  · split at h
    · split at h
      · next hinner =>
        cases h
        exact answers_iff.mp hparser _ _ _ hinner
      · cases h
    · cases h
  · cases h

@[scoped spec] theorem groupOf_shaped (delimiter : Delimiter) {parser : Parser (List Tree)}
    (hparser : ⦃⌜True⌝⦄ parser ⦃⇓? v => ⌜ShapedAll v⌝⦄) :
    ⦃⌜True⌝⦄ groupOf delimiter parser ⦃⇓? v => ⌜Shaped v⌝⦄ := by
  have hinside := inside_answers delimiter ShapedAll hparser
  mvcgen [groupOf, hinside]

@[scoped spec] theorem many_shaped {test : List TokenTree → Bool} {parser : Parser (List Tree)}
    (hparser : ⦃⌜True⌝⦄ parser ⦃⇓? v => ⌜ShapedAll v⌝⦄) :
    ⦃⌜True⌝⦄ many test parser ⦃⇓? v => ⌜ShapedAll v⌝⦄ := by
  have hwhilst (fuel : Nat) : ⦃⌜True⌝⦄ whilst fuel test parser ⦃⇓? v => ⌜ShapedAll v⌝⦄ := by
    induction fuel with
    | zero =>
      mvcgen [whilst]
    | succ fuel ih =>
      mvcgen [whilst, hparser, ih]
      all_goals grind -ring -linarith
  mvcgen [many, hwhilst]

@[scoped spec] theorem separatedUntil_shaped {stop : List TokenTree → Bool} {separator : String}
    {parser : Parser (List Tree)} (hparser : ⦃⌜True⌝⦄ parser ⦃⇓? v => ⌜ShapedAll v⌝⦄) :
    ⦃⌜True⌝⦄ separatedUntil stop separator parser ⦃⇓? v => ⌜ShapedAll v⌝⦄ := by
  have hloop (fuel : Nat) : ⦃⌜True⌝⦄ separatedLoop fuel stop separator parser
      ⦃⇓? v => ⌜ShapedAll v⌝⦄ := by
    induction fuel with
    | zero =>
      mvcgen [separatedLoop]
    | succ fuel ih =>
      mvcgen [separatedLoop, hparser, ih]
      all_goals grind -ring -linarith
  mvcgen [separatedUntil, hloop]

@[scoped spec] theorem commaList_shaped {parser : Parser (List Tree)}
    (hparser : ⦃⌜True⌝⦄ parser ⦃⇓? v => ⌜ShapedAll v⌝⦄) :
    ⦃⌜True⌝⦄ commaList parser ⦃⇓? v => ⌜ShapedAll v⌝⦄ :=
  separatedUntil_shaped hparser

@[scoped spec] theorem sumUntil_shaped {stop : List TokenTree → Bool} {parser : Parser (List Tree)}
    (hparser : ⦃⌜True⌝⦄ parser ⦃⇓? v => ⌜ShapedAll v⌝⦄) :
    ⦃⌜True⌝⦄ sumUntil stop parser ⦃⇓? v => ⌜ShapedAll v⌝⦄ := by
  have hloop (fuel : Nat) : ⦃⌜True⌝⦄ sumLoop fuel stop parser ⦃⇓? v => ⌜ShapedAll v⌝⦄ := by
    induction fuel with
    | zero =>
      mvcgen [sumLoop]
    | succ fuel ih =>
      mvcgen [sumLoop, hparser, ih]
      all_goals grind -ring -linarith
  mvcgen [sumUntil, hloop]

/-- What is so of all that a reader answers with is so of all values between separators. -/
theorem separatedValues_answers {α : Type} (good : α → Prop) {parser : Parser α}
    (hparser : ⦃⌜True⌝⦄ parser ⦃⇓? v => ⌜good v⌝⦄) (fuel : Nat) (stop : List TokenTree → Bool)
    (separator : String) :
    ⦃⌜True⌝⦄ separatedValues fuel stop separator parser ⦃⇓? v => ⌜∀ value ∈ v.1, good value⌝⦄ := by
  induction fuel with
  | zero =>
    mvcgen [separatedValues]
    grind -ring -linarith
  | succ fuel ih =>
    mvcgen [separatedValues, hparser, ih]
    all_goals grind -ring -linarith

theorem listOf_answers {α : Type} (good : α → Prop) {parser : Parser α}
    (hparser : ⦃⌜True⌝⦄ parser ⦃⇓? v => ⌜good v⌝⦄) :
    ⦃⌜True⌝⦄ listOf parser ⦃⇓? v => ⌜∀ value ∈ v.1, good value⌝⦄ := by
  have hvalues := separatedValues_answers good hparser
  mvcgen [listOf, hvalues]

/-! ## Constructs -/

@[grind norm] theorem shaped_expression {kind : ExpressionKind} {parts : List Tree} :
    Shaped (expressionNode kind parts) ↔
      (kind = .path → NoPath parts.dropLast) ∧ ShapedAll parts := by
  simp [expressionNode, shaped_node, isPathKind]

@[grind norm] theorem shaped_pattern {kind : PatternKind} {parts : List Tree} :
    Shaped (patternNode kind parts) ↔ ShapedAll parts := by
  simp [patternNode, shaped_node, isPathKind]

@[grind norm] theorem shaped_type {parts : List Tree} :
    Shaped (typeNode parts) ↔ ShapedAll parts := by
  simp [typeNode, shaped_node, isPathKind]

@[grind norm] theorem shaped_literal {parts : List Tree} :
    Shaped (literalExpression parts) ↔ ShapedAll parts := by
  simp [literalExpression, shaped_node, isPathKind]

/-! ## Attributes -/

theorem shaped_metaPath {path : MetaPath} (h : ShapedAll path.root) : Shaped path.tree := by
  have hlater (segments : List (Located Ident)) : ShapedAll (MetaPath.laterParts segments) := by
    induction segments with
    | nil => exact shapedAll_nil.mpr trivial
    | cons segment rest ih =>
      rw [MetaPath.laterParts]
      grind -ring -linarith
  rw [MetaPath.tree]
  split <;> grind -ring -linarith

/-- What stands behind the path of an attribute is shaped. -/
@[grind] def ShapedArguments : MetaArguments → Prop
  | .word => True
  | .list _ _ _ _ => True
  | .value equals tree => ShapedAll equals ∧ Shaped tree

@[grind norm] theorem shapedAll_metaItem {item : MetaItem} :
    ShapedAll item.trees ↔ Shaped item.path.tree ∧ ShapedArguments item.arguments := by
  obtain ⟨path, arguments⟩ := item
  cases arguments <;> simp [MetaItem.trees, ShapedArguments, ShapedAll, shapedAll_append, Shaped]

@[grind norm] theorem shaped_attribute {attr : Attribute} :
    Shaped attr.tree ↔ ShapedAll attr.lead ∧ ShapedAll attr.content.trees := by
  simp [Attribute.tree, shaped_node, isPathKind, shapedAll_append, shapedAll_cons, shapedAll_nil,
    shaped_group]

/-- Trees in front of a construct are shaped, and none of them is a path. -/
@[grind] def AreAttributes (trees : List Tree) : Prop := NoPath trees ∧ ShapedAll trees

theorem areAttributes_filter {attributes : List Attribute}
    (h : ∀ attr ∈ attributes, Shaped attr.tree) (test : Attribute → Bool) :
    AreAttributes ((attributes.filter test).map (·.tree)) := by
  constructor
  · rintro part hpart inner rfl
    obtain ⟨attr, -, hattr⟩ := List.mem_map.mp hpart
    cases hattr
  · refine shapedAll_iff.mpr fun part hpart => ?_
    obtain ⟨attr, hattr, rfl⟩ := List.mem_map.mp hpart
    exact h attr (List.mem_filter.mp hattr).1

@[grind ←] theorem areAttributes_outer {attributes : List Attribute}
    (h : ∀ attr ∈ attributes, Shaped attr.tree) : AreAttributes (Attribute.outer attributes) :=
  areAttributes_filter h _

@[grind ←] theorem areAttributes_inner {attributes : List Attribute}
    (h : ∀ attr ∈ attributes, Shaped attr.tree) : AreAttributes (Attribute.inner attributes) :=
  areAttributes_filter h _

@[scoped spec] theorem plainSegments_any (fuel : Nat) :
    ⦃⌜True⌝⦄ plainSegments fuel ⦃⇓? _ => ⌜True⌝⦄ := answers_any _

@[scoped spec] theorem modulePath_shaped : ⦃⌜True⌝⦄ modulePath ⦃⇓? v => ⌜Shaped v.tree⌝⦄ := by
  mvcgen [modulePath]
  all_goals grind -ring -linarith [shaped_metaPath]

/-- The parsers for the constructs of types, patterns, expressions and statements answer with shaped
code. -/
class Shapes (grammar : Grammar) : Prop where
  type (sums : Bool) : ⦃⌜True⌝⦄ grammar.tree (.type sums) ⦃⇓? v => ⌜Shaped v⌝⦄
  expression (records : Bool) :
    ⦃⌜True⌝⦄ grammar.tree (.expression records) ⦃⇓? v => ⌜Shaped v⌝⦄
  operators (records : Bool) (floor : Precedence) (left : Tree) :
    ⦃⌜True⌝⦄ grammar.tree (.operators records floor left) ⦃⇓? v => ⌜Shaped left → Shaped v⌝⦄
  operand (records : Bool) (above : Precedence) :
    ⦃⌜True⌝⦄ grammar.tree (.operand records above) ⦃⇓? v => ⌜Shaped v⌝⦄
  widened (records : Bool) (above : Precedence) (right : Tree) :
    ⦃⌜True⌝⦄ grammar.tree (.widened records above right) ⦃⇓? v => ⌜Shaped right → Shaped v⌝⦄
  unary (records : Bool) : ⦃⌜True⌝⦄ grammar.tree (.unary records) ⦃⇓? v => ⌜Shaped v⌝⦄
  trailers (subject : Tree) :
    ⦃⌜True⌝⦄ grammar.tree (.trailers subject) ⦃⇓? v => ⌜Shaped subject → Shaped v⌝⦄
  early : ⦃⌜True⌝⦄ grammar.tree .early ⦃⇓? v => ⌜Shaped v⌝⦄
  pattern : ⦃⌜True⌝⦄ grammar.tree .pattern ⦃⇓? v => ⌜Shaped v⌝⦄
  alternatives : ⦃⌜True⌝⦄ grammar.tree .alternatives ⦃⇓? v => ⌜Shaped v⌝⦄
  statement : ⦃⌜True⌝⦄ grammar.tree .statement ⦃⇓? v => ⌜Shaped v⌝⦄
  bound (captures constants : Bool) :
    ⦃⌜True⌝⦄ grammar.tree (.bound captures constants) ⦃⇓? v => ⌜Shaped v⌝⦄

attribute [scoped spec] Shapes.type Shapes.expression Shapes.operators Shapes.operand Shapes.widened
  Shapes.unary Shapes.trailers Shapes.early Shapes.pattern Shapes.alternatives Shapes.statement
  Shapes.bound

section

variable (grammar : Grammar) [Shapes grammar]

@[scoped spec] theorem wholeType_shaped : ⦃⌜True⌝⦄ grammar.type ⦃⇓? v => ⌜Shaped v⌝⦄ :=
  Shapes.type true

@[scoped spec] theorem wholeExpression_shaped :
    ⦃⌜True⌝⦄ grammar.expression ⦃⇓? v => ⌜Shaped v⌝⦄ :=
  Shapes.expression true

@[scoped spec] theorem metaValue_shaped : ⦃⌜True⌝⦄ metaValue grammar ⦃⇓? v => ⌜Shaped v⌝⦄ := by
  mvcgen [metaValue]
  all_goals grind -ring -linarith

@[scoped spec] theorem metaItem_shaped :
    ⦃⌜True⌝⦄ metaItem grammar ⦃⇓? v => ⌜ShapedAll v.trees⌝⦄ := by
  mvcgen [metaItem, metaArguments]
  all_goals grind -ring -linarith [shaped_metaPath]

@[scoped spec] theorem outerAttribute_shaped :
    ⦃⌜True⌝⦄ outerAttribute grammar ⦃⇓? v => ⌜Shaped v.tree⌝⦄ := by
  have hinside := inside_answers .bracket (fun item => ShapedAll (MetaItem.trees item))
    (metaItem_shaped grammar)
  mvcgen [outerAttribute, hinside]
  all_goals grind -ring -linarith

@[scoped spec] theorem innerAttribute_shaped :
    ⦃⌜True⌝⦄ innerAttribute grammar ⦃⇓? v => ⌜Shaped v.tree⌝⦄ := by
  have hinside := inside_answers .bracket (fun item => ShapedAll (MetaItem.trees item))
    (metaItem_shaped grammar)
  mvcgen [innerAttribute, hinside]
  all_goals grind -ring -linarith

@[scoped spec] theorem attributeLoop_shaped (fuel : Nat) {test : List TokenTree → Bool}
    {parser : Parser Attribute} (hparser : ⦃⌜True⌝⦄ parser ⦃⇓? v => ⌜Shaped v.tree⌝⦄) :
    ⦃⌜True⌝⦄ attributeLoop fuel test parser ⦃⇓? v => ⌜∀ attr ∈ v, Shaped attr.tree⌝⦄ := by
  induction fuel with
  | zero =>
    mvcgen [attributeLoop]
    all_goals grind -ring -linarith
  | succ fuel ih =>
    mvcgen [attributeLoop, hparser, ih]
    all_goals grind -ring -linarith

@[scoped spec] theorem outerAttributes_shaped :
    ⦃⌜True⌝⦄ outerAttributes grammar ⦃⇓? v => ⌜∀ attr ∈ v, Shaped attr.tree⌝⦄ := by
  mvcgen [outerAttributes]

@[scoped spec] theorem innerAttributes_shaped :
    ⦃⌜True⌝⦄ innerAttributes grammar ⦃⇓? v => ⌜∀ attr ∈ v, Shaped attr.tree⌝⦄ := by
  mvcgen [innerAttributes]

@[scoped spec] theorem outerTrees_shaped :
    ⦃⌜True⌝⦄ outerTrees grammar ⦃⇓? v => ⌜AreAttributes v⌝⦄ := by
  mvcgen [outerTrees]
  all_goals grind -ring -linarith

@[scoped spec] theorem innerTrees_shaped :
    ⦃⌜True⌝⦄ innerTrees grammar ⦃⇓? v => ⌜AreAttributes v⌝⦄ := by
  mvcgen [innerTrees]
  all_goals grind -ring -linarith

/-! ## Blocks, arguments and paths -/

@[scoped spec] theorem statementLoop_shaped (fuel : Nat) :
    ⦃⌜True⌝⦄ statementLoop grammar fuel ⦃⇓? v => ⌜ShapedAll v⌝⦄ := by
  induction fuel with
  | zero =>
    mvcgen [statementLoop]
  | succ fuel ih =>
    mvcgen [statementLoop, ih]
    all_goals grind -ring -linarith

@[scoped spec] theorem statements_shaped :
    ⦃⌜True⌝⦄ statements grammar ⦃⇓? v => ⌜ShapedAll v⌝⦄ := by
  mvcgen [statements]

@[scoped spec] theorem block_shaped :
    ⦃⌜True⌝⦄ block grammar ⦃⇓? v => ⌜Shaped v⌝⦄ := by
  mvcgen [block]
  all_goals grind -ring -linarith

@[scoped spec] theorem attributedBlock_shaped :
    ⦃⌜True⌝⦄ attributedBlock grammar ⦃⇓? v => ⌜Shaped v⌝⦄ := by
  mvcgen [attributedBlock]
  all_goals grind -ring -linarith

@[scoped spec] theorem constantArgument_shaped :
    ⦃⌜True⌝⦄ constantArgument grammar ⦃⇓? v => ⌜Shaped v⌝⦄ := by
  mvcgen [constantArgument]
  all_goals grind -ring -linarith

theorem shapedAll_plainSegment {tree : Tree} {parts : List Tree}
    (h : plainSegment? tree = some parts) (htree : Shaped tree) : ShapedAll parts := by
  rw [plainSegment?.eq_def] at h
  split at h
  case h_1 name =>
    cases h
    simpa [Shaped, ShapedAll, isPathKind] using htree
  case h_2 name arguments =>
    cases h
    simpa [Shaped, ShapedAll, isPathKind] using htree
  case h_3 => cases h

@[scoped spec] theorem constraintBounds_shaped :
    ⦃⌜True⌝⦄ constraintBounds grammar ⦃⇓? v => ⌜ShapedAll v⌝⦄ := by
  mvcgen [constraintBounds]

@[scoped spec] theorem pathArgument_shaped :
    ⦃⌜True⌝⦄ pathArgument grammar ⦃⇓? v => ⌜Shaped v⌝⦄ := by
  mvcgen [pathArgument]
  all_goals grind -ring -linarith [shapedAll_plainSegment]

/-- Pieces with the commas behind them are shaped. -/
def ShapedPieces (pieces : List (Tree × List Tree)) : Prop :=
  ∀ piece ∈ pieces, Shaped piece.1 ∧ ShapedAll piece.2

@[grind norm] theorem shapedPieces_nil : ShapedPieces [] ↔ True := by simp [ShapedPieces]

@[grind norm] theorem shapedPieces_cons {piece : Tree × List Tree}
    {rest : List (Tree × List Tree)} :
    ShapedPieces (piece :: rest) ↔ (Shaped piece.1 ∧ ShapedAll piece.2) ∧ ShapedPieces rest :=
  List.forall_mem_cons

@[scoped spec] theorem argumentLoop_shaped (fuel : Nat) :
    ⦃⌜True⌝⦄ argumentLoop grammar fuel ⦃⇓? v => ⌜ShapedPieces v⌝⦄ := by
  induction fuel with
  | zero =>
    mvcgen [argumentLoop]
    all_goals grind -ring -linarith
  | succ fuel ih =>
    mvcgen [argumentLoop, ih]
    all_goals grind -ring -linarith

theorem shapedAll_joinWithCommas {open? : Bool} {pieces : List (Tree × List Tree)}
    (h : ShapedPieces pieces) : ShapedAll (joinWithCommas open? pieces) := by
  induction pieces generalizing open? with
  | nil => exact shapedAll_nil.mpr trivial
  | cons piece rest ih =>
    obtain ⟨⟨htree, hcomma⟩, hrest⟩ := shapedPieces_cons.mp h
    rw [joinWithCommas]
    cases open? <;> grind -ring -linarith

@[grind ←] theorem shapedAll_orderedArguments {pieces : List (Tree × List Tree)}
    (h : ShapedPieces pieces) : ShapedAll (orderedArguments pieces) := by
  rw [orderedArguments, List.partition_eq_filter_filter, shapedAll_append]
  constructor
  · refine shapedAll_iff.mpr fun tree htree => ?_
    obtain ⟨piece, hpiece, hmem⟩ := List.mem_flatMap.mp htree
    obtain ⟨hfirst, hcomma⟩ := h piece (List.mem_filter.mp hpiece).1
    exact shapedAll_iff.mp (shapedAll_cons.mpr ⟨hfirst, hcomma⟩) tree hmem
  · exact shapedAll_joinWithCommas fun piece hpiece => h piece (List.mem_filter.mp hpiece).1

@[scoped spec] theorem angleArguments_shaped :
    ⦃⌜True⌝⦄ angleArguments grammar ⦃⇓? v => ⌜Shaped v⌝⦄ := by
  mvcgen [angleArguments]
  all_goals grind -ring -linarith

@[scoped spec] theorem returnType_shaped (sums : Bool) :
    ⦃⌜True⌝⦄ returnType grammar sums ⦃⇓? v => ⌜ShapedAll v⌝⦄ := by
  mvcgen [returnType]
  all_goals grind -ring -linarith

@[scoped spec] theorem callArguments_shaped :
    ⦃⌜True⌝⦄ callArguments grammar ⦃⇓? v => ⌜Shaped v⌝⦄ := by
  mvcgen [callArguments]
  all_goals grind -ring -linarith

@[scoped spec] theorem pathSegment_shaped (inExpression : Bool) :
    ⦃⌜True⌝⦄ pathSegment grammar inExpression ⦃⇓? v => ⌜Shaped v⌝⦄ := by
  mvcgen [pathSegment]
  all_goals grind -ring -linarith

@[scoped spec] theorem path_shaped (inExpression : Bool) :
    ⦃⌜True⌝⦄ path grammar inExpression ⦃⇓? v => ⌜Shaped v⌝⦄ := by
  mvcgen [path]
  all_goals grind -ring -linarith

@[scoped spec] theorem qualifiedPath_shaped (inExpression : Bool) :
    ⦃⌜True⌝⦄ qualifiedPath grammar inExpression ⦃⇓? v => ⌜Shaped v⌝⦄ := by
  mvcgen [qualifiedPath]
  all_goals grind -ring -linarith

theorem shaped_withLastArguments {path arguments : Tree} (hpath : Shaped path)
    (harguments : Shaped arguments) : Shaped (path.withLastArguments arguments) := by
  cases path with
  | node kind parts =>
    rw [Tree.withLastArguments]
    split
    · next name hlast =>
      rw [shaped_node] at hpath ⊢
      refine hpath.imp_right (Or.imp_right fun ⟨hkind, hparts⟩ => ⟨fun h => ?_, ?_⟩)
      · rw [List.dropLast_concat]
        exact hkind h
      have hname := shapedAll_iff.mp hparts _ (List.mem_of_getLast? hlast)
      have hfront : ShapedAll parts.dropLast := shapedAll_iff.mpr fun tree htree =>
        shapedAll_iff.mp hparts tree (List.mem_of_mem_dropLast htree)
      grind -ring -linarith
    · exact hpath
  | _ => exact hpath

@[scoped spec] theorem withCallArguments_shaped (path : Tree) :
    ⦃⌜True⌝⦄ withCallArguments grammar path ⦃⇓? v => ⌜Shaped path → Shaped v⌝⦄ := by
  mvcgen [withCallArguments]
  all_goals grind -ring -linarith [shaped_withLastArguments]

@[scoped spec] theorem builtinUse_shaped : ⦃⌜True⌝⦄ builtinUse ⦃⇓? v => ⌜ShapedAll v⌝⦄ := by
  have hinside := inside_answers .parenthesis (fun _ => True)
    (answers_any (many (fun rest => !rest.isEmpty) do return [← anyTree]))
  mvcgen [builtinUse, hinside]

@[scoped spec] theorem macroRest_shaped (path : Tree) :
    ⦃⌜True⌝⦄ macroRest path ⦃⇓? v => ⌜Shaped v⌝⦄ := by
  mvcgen [macroRest]
  all_goals grind -ring -linarith

/-! ## Generic parameters and bounds -/

@[grind ←] theorem shapedAll_parameter {parameter : GenericParameter}
    (hattributes : ∀ attr ∈ parameter.attributes, Shaped attr.tree)
    (hkeyword : ShapedAll parameter.keyword) (hname : Shaped parameter.name)
    (hcolon : ShapedAll parameter.colon) (hbounds : ShapedAll parameter.bounds)
    (hfallback : ShapedAll parameter.fallback) : ShapedAll parameter.trees := by
  have houter := (areAttributes_outer hattributes).2
  rw [GenericParameter.trees]
  split <;> grind -ring -linarith

@[scoped spec] theorem lifetimeParameter_shaped (attributes : List Attribute) :
    ⦃⌜True⌝⦄ lifetimeParameter attributes
      ⦃⇓? v => ⌜(∀ attr ∈ attributes, Shaped attr.tree) → ShapedAll v.trees⌝⦄ := by
  mvcgen [lifetimeParameter]
  all_goals grind -ring -linarith

@[scoped spec] theorem typeParameter_shaped (attributes : List Attribute) :
    ⦃⌜True⌝⦄ typeParameter grammar attributes
      ⦃⇓? v => ⌜(∀ attr ∈ attributes, Shaped attr.tree) → ShapedAll v.trees⌝⦄ := by
  mvcgen [typeParameter]
  all_goals grind -ring -linarith

@[scoped spec] theorem constParameter_shaped (attributes : List Attribute) :
    ⦃⌜True⌝⦄ constParameter grammar attributes
      ⦃⇓? v => ⌜(∀ attr ∈ attributes, Shaped attr.tree) → ShapedAll v.trees⌝⦄ := by
  mvcgen [constParameter]
  all_goals grind -ring -linarith

@[scoped spec] theorem introducedParameter_shaped :
    ⦃⌜True⌝⦄ introducedParameter grammar ⦃⇓? v => ⌜ShapedAll v.trees⌝⦄ := by
  mvcgen [introducedParameter]
  all_goals grind -ring -linarith

@[scoped spec] theorem binder_shaped :
    ⦃⌜True⌝⦄ binder grammar ⦃⇓? v => ⌜ShapedAll v⌝⦄ := by
  mvcgen [binder]
  all_goals grind -ring -linarith

@[scoped spec] theorem binder?_shaped :
    ⦃⌜True⌝⦄ binder? grammar ⦃⇓? v => ⌜ShapedAll v⌝⦄ := by
  mvcgen [binder?]

@[scoped spec] theorem capturedLoop_shaped (fuel : Nat) :
    ⦃⌜True⌝⦄ capturedLoop fuel ⦃⇓? v => ⌜ShapedPieces v⌝⦄ := by
  induction fuel with
  | zero =>
    mvcgen [capturedLoop]
    all_goals grind -ring -linarith
  | succ fuel ih =>
    mvcgen [capturedLoop, ih]
    all_goals grind -ring -linarith

@[scoped spec] theorem capturedNames_shaped :
    ⦃⌜True⌝⦄ capturedNames ⦃⇓? v => ⌜ShapedAll v⌝⦄ := by
  mvcgen [capturedNames]
  all_goals grind -ring -linarith

@[scoped spec] theorem constantMark_shaped (admitted : Bool) :
    ⦃⌜True⌝⦄ constantMark admitted ⦃⇓? v => ⌜ShapedAll v⌝⦄ := by
  mvcgen [constantMark]
  all_goals grind -ring -linarith

@[scoped spec] theorem traitBound_shaped (constants : Bool) :
    ⦃⌜True⌝⦄ traitBound grammar constants ⦃⇓? v => ⌜ShapedAll v.1⌝⦄ := by
  mvcgen [traitBound]
  all_goals grind -ring -linarith

theorem boundRule_shaped (captures constants : Bool) :
    ⦃⌜True⌝⦄ boundRule grammar captures constants ⦃⇓? v => ⌜Shaped v⌝⦄ := by
  have hinside := inside_answers .parenthesis (fun v : List Tree × Bool => ShapedAll v.1)
    (traitBound_shaped grammar constants)
  mvcgen [boundRule, hinside]
  all_goals grind -ring -linarith

@[scoped spec] theorem boundLoop_shaped (fuel : Nat) (sums captures constants : Bool) :
    ⦃⌜True⌝⦄ boundLoop grammar fuel sums captures constants ⦃⇓? v => ⌜ShapedAll v⌝⦄ := by
  induction fuel with
  | zero =>
    mvcgen [boundLoop]
  | succ fuel ih =>
    mvcgen [boundLoop, ih]
    all_goals grind -ring -linarith

@[scoped spec] theorem boundSum_shaped (sums captures constants : Bool) :
    ⦃⌜True⌝⦄ boundSum grammar sums captures constants ⦃⇓? v => ⌜ShapedAll v⌝⦄ := by
  mvcgen [boundSum]

/-! ## Types -/

@[scoped spec] theorem objectBounds_shaped (lead : List Tree) (sums captures constants : Bool)
    (rule : String) :
    ⦃⌜True⌝⦄ objectBounds grammar lead sums captures constants rule ⦃⇓? v => ⌜ShapedAll v⌝⦄ := by
  mvcgen [objectBounds]
  all_goals grind -ring -linarith

@[scoped spec] theorem plusBounds_shaped :
    ⦃⌜True⌝⦄ plusBounds grammar ⦃⇓? v => ⌜ShapedAll v⌝⦄ := by
  mvcgen [plusBounds]
  all_goals grind -ring -linarith

@[scoped spec] theorem objectTail_shaped (fuel : Nat) :
    ⦃⌜True⌝⦄ objectTail grammar fuel ⦃⇓? v => ⌜ShapedAll v⌝⦄ := by
  induction fuel with
  | zero =>
    mvcgen [objectTail]
  | succ fuel ih =>
    mvcgen [objectTail, ih]
    all_goals grind -ring -linarith

@[scoped spec] theorem callingConvention_shaped :
    ⦃⌜True⌝⦄ callingConvention ⦃⇓? v => ⌜ShapedAll v⌝⦄ := by
  mvcgen [callingConvention]
  all_goals grind -ring -linarith

@[scoped spec] theorem callingConvention?_shaped :
    ⦃⌜True⌝⦄ callingConvention? ⦃⇓? v => ⌜ShapedAll v⌝⦄ := by
  mvcgen [callingConvention?]

@[scoped spec] theorem functionTypeInput_shaped (first : Bool) :
    ⦃⌜True⌝⦄ functionTypeInput grammar first ⦃⇓? v => ⌜ShapedAll v⌝⦄ := by
  mvcgen [functionTypeInput]
  all_goals grind -ring -linarith

@[scoped spec] theorem openFunctionTypeInput_shaped :
    ⦃⌜True⌝⦄ openFunctionTypeInput ⦃⇓? v => ⌜ShapedAll v⌝⦄ := by
  mvcgen [openFunctionTypeInput]
  all_goals grind -ring -linarith

@[scoped spec] theorem functionTypeInputs_shaped (fuel : Nat) (first : Bool) :
    ⦃⌜True⌝⦄ functionTypeInputs grammar fuel first ⦃⇓? v => ⌜ShapedAll v⌝⦄ := by
  induction fuel generalizing first with
  | zero =>
    mvcgen [functionTypeInputs]
  | succ fuel ih =>
    mvcgen [functionTypeInputs, ih]
    all_goals grind -ring -linarith

@[scoped spec] theorem functionType_shaped (introduced : List Tree) :
    ⦃⌜True⌝⦄ functionType grammar introduced ⦃⇓? v => ⌜ShapedAll introduced → Shaped v⌝⦄ := by
  mvcgen [functionType]
  all_goals grind -ring -linarith

/-- What was read in parentheses is shaped. -/
@[grind] def ShapedInParentheses : ParenthesisedType → Prop
  | .complete tree => Shaped tree
  | .single inner group => Shaped inner ∧ Shaped group
  | .bound tree => Shaped tree

theorem shaped_firstBound {inner group first : Tree} (h : firstBound? inner group = some first)
    (hinner : Shaped inner) (hgroup : Shaped group) : Shaped first := by
  rw [firstBound?.eq_def] at h
  split at h
  case h_1 path =>
    split at h
    · cases h
      grind -ring -linarith
    · cases h
  case h_2 delimiter opening closing content =>
    cases h
    grind -ring -linarith
  case h_3 bound hbound =>
    split at h
    · cases h
      grind -ring -linarith
    · cases h
  case h_4 => cases h

@[scoped spec] theorem parenthesisedType_shaped :
    ⦃⌜True⌝⦄ parenthesisedType grammar ⦃⇓? v => ⌜ShapedInParentheses v⌝⦄ := by
  have hinside {parser : Parser (List Tree × Nat)} :=
    @inside_answers _ .parenthesis (fun v : List Tree × Nat => ShapedAll v.1) parser
  mvcgen [parenthesisedType, hinside]
  all_goals grind -ring -linarith [→ shaped_of_single]

@[scoped spec] theorem pathType_shaped (sums : Bool) (introduced : List Tree) :
    ⦃⌜True⌝⦄ pathType grammar sums introduced ⦃⇓? v => ⌜ShapedAll introduced → Shaped v⌝⦄ := by
  mvcgen [pathType]
  all_goals grind -ring -linarith

theorem typeRule_shaped (sums : Bool) :
    ⦃⌜True⌝⦄ typeRule grammar sums ⦃⇓? v => ⌜Shaped v⌝⦄ := by
  mvcgen [typeRule]
  all_goals grind -ring -linarith [shaped_firstBound]

end

end Substitution

end Counterpart
