import Counterpart.Host.Substitution

/-!
# Code outside of its host

Code that is moved out of a host must not mention `Self`, except in nested items, which have a
`Self` of their own. What it means that code does not mention `Self` is said by a predicate on
trees. Substitution leads to such code, whatever the code was before, and leaves such code as it is,
so a second substitution finds nothing to do. Both rest on the host's own type being free of `Self`,
which the grammar takes care of, unless a lifetime of the host is called `'Self`.
-/

namespace Counterpart

namespace TokenTree

mutual

/-- Whether a word is nowhere in a token tree, at any depth of groups. -/
def lacks (word : String) : TokenTree → Bool
  | .word ident _ => !ident.isWord word
  | .group _ _ _ content => lacksAll word content
  | _ => true

/-- Whether a word is nowhere in several token trees. -/
def lacksAll (word : String) : List TokenTree → Bool
  | [] => true
  | token :: rest => lacks word token && lacksAll word rest

end

@[simp] theorem lacksAll_append (word : String) (first second : List TokenTree) :
    lacksAll word (first ++ second) = (lacksAll word first && lacksAll word second) := by
  induction first with
  | nil => simp [lacksAll]
  | cons token rest ih => simp [lacksAll, ih, Bool.and_assoc]

@[simp] theorem lacksAll_flatMap {α : Type} (word : String) (pieces : List α)
    (tokens : α → List TokenTree) :
    lacksAll word (pieces.flatMap tokens) = pieces.all fun piece => lacksAll word (tokens piece) := by
  induction pieces with
  | nil => rfl
  | cons piece rest ih => simp [ih]

@[simp] theorem lacksAll_tokensAll (word : String) (trees : List Tree) :
    lacksAll word (Tree.tokensAll trees) = trees.all fun tree => lacksAll word tree.tokens := by
  induction trees with
  | nil => rfl
  | cons tree rest ih => simp [ih]

end TokenTree

namespace Substitution

open TokenTree

/-! ## Code without `Self` -/

/-- A path whose first word is `Self`, with the arguments of that word and what stands behind it. -/
def selfPath (region : Option Region) (arguments rest : List Tree) : Tree :=
  .node .path (.node .segment (.leaf (.word (.plain selfWord) region) :: arguments) :: rest)

/-- A path begins with `Self`. -/
def StartsWithSelf (tree : Tree) : Prop :=
  ∃ region arguments rest, tree = selfPath region arguments rest

/-- A path is `Self` and nothing else. -/
def IsSelf (tree : Tree) : Prop := ∃ region, tree = selfPath region [] []

/-- Code does not mention the `Self` of the host. No type and no expression is a path that begins
with it, no struct literal and no struct pattern names it, and no word in the arguments of a macro
call is it. -/
inductive SelfFree : Tree → Prop
  | leaf (token : TokenTree) : SelfFree (.leaf token)
  | group {delimiter opening closing content} (hcontent : ∀ tree ∈ content, SelfFree tree) :
      SelfFree (.group delimiter opening closing content)
  /-- An item has a `Self` of its own. -/
  | item (parts : List Tree) : SelfFree (.node .item parts)
  | call {parts} (harguments : ∀ delimiter opening closing content,
      .leaf (.group delimiter opening closing content) ∈ parts →
        lacksAll selfWord content = true) : SelfFree (.node .macroCall parts)
  | node {kind parts} (hitem : kind ≠ .item) (hcall : kind ≠ .macroCall)
      (hpath : kind = .typePath ∨ kind = .expression .path →
        ∀ part ∈ parts, ¬ StartsWithSelf part)
      (hrecord : kind = .expression .structLiteral ∨ kind = .pattern .record →
        ∀ part ∈ parts, ¬ IsSelf part)
      (hparts : ∀ part ∈ parts, SelfFree part) : SelfFree (.node kind parts)

theorem behindSelf?_selfPath (region : Option Region) (arguments rest : List Tree) :
    behindSelf? (selfPath region arguments rest) = some rest := rfl

/-- What stands behind `Self` is found exactly in paths that begin with it. -/
theorem behindSelf?_eq_none_iff {tree : Tree} : behindSelf? tree = none ↔ ¬ StartsWithSelf tree := by
  refine ⟨?_, fun h => ?_⟩
  · rintro h ⟨region, arguments, rest, rfl⟩
    rw [behindSelf?_selfPath] at h
    cases h
  · unfold behindSelf?
    split
    · next ident region arguments rest =>
      split
      · next hword =>
        rw [Ident.isWord_iff] at hword
        subst hword
        exact absurd ⟨region, arguments, rest, rfl⟩ h
      · rfl
    · rfl

theorem selfPath?_eq_none_iff {parts : List Tree} :
    selfPath? parts = none ↔ ∀ part ∈ parts, ¬ StartsWithSelf part := by
  rw [selfPath?, List.findSome?_eq_none_iff]
  exact forall₂_congr fun part _ => behindSelf?_eq_none_iff

/-- A path that is only `Self` is the path of a struct literal that is replaced. -/
theorem pathIdent?_eq_self_iff {tree : Tree} :
    (∃ ident, tree.pathIdent? = some ident ∧ ident.value.isWord selfWord = true) ↔ IsSelf tree := by
  constructor
  · rintro ⟨ident, hident, hword⟩
    unfold Tree.pathIdent? at hident
    split at hident
    · next value region =>
      cases hident
      rw [Ident.isWord_iff] at hword
      cases hword
      exact ⟨region, rfl⟩
    · cases hident
  · rintro ⟨region, rfl⟩
    exact ⟨⟨.plain selfWord, region⟩, rfl, rfl⟩

/-! ## Substitutions that lead outside -/

/-- What stands for `Self` does not mention it. -/
structure IsOutside (substitution : Substitution) : Prop where
  name : substitution.hostName.value.isWord selfWord = false
  isType : substitution.hostType.isKind .typePath = true
  type : SelfFree substitution.hostType
  tokens : lacksAll selfWord substitution.hostType.tokens = true

section

variable {substitution : Substitution}

attribute [local simp] inTree inTrees in
theorem inTrees_eq_map (substitution : Substitution) (trees : List Tree) :
    substitution.inTrees trees = trees.map substitution.inTree := by
  induction trees with
  | nil => simp
  | cons tree rest ih => simp [ih]

theorem inRecordPath_of_not_isSelf {part : Tree} (h : ¬ IsSelf part) :
    substitution.inRecordPath part = part := by
  rw [← pathIdent?_eq_self_iff] at h
  unfold inRecordPath
  split
  · next ident hident => exact if_neg fun hword => h ⟨ident, hident, hword⟩
  · rfl

/-! ### Arguments of macro calls -/

theorem lacksAll_inTokens (h : substitution.IsOutside) (tokens : List TokenTree) :
    lacksAll selfWord (substitution.inTokens tokens) = true := by
  fun_induction inTokens substitution tokens with
  | case1 => rfl
  | case2 ident region rest own ih =>
    have hown : lacksAll selfWord own = true := by
      unfold own
      split
      · next hword => simpa [lacksAll, lacks] using hword
      · split
        · simp [bracketedTokens, operatorTokens, lacksAll, lacks, h.tokens]
        · simpa [lacksAll, lacks] using h.name
    rw [lacksAll_append, hown, ih, Bool.and_self]
  | case3 delimiter opening closing content rest ihcontent ihrest =>
    simp [lacksAll, lacks, ihcontent, ihrest]
  | case4 token rest hword hgroup ih =>
    have htoken : lacks selfWord token = true := by
      cases token with
      | word ident region => exact absurd rfl (hword ident region)
      | group delimiter opening closing content =>
        exact absurd rfl (hgroup delimiter opening closing content)
      | _ => rfl
    simp [lacksAll, htoken, ih]

theorem inTokens_of_lacksAll {tokens : List TokenTree} (h : lacksAll selfWord tokens = true) :
    substitution.inTokens tokens = tokens := by
  fun_induction inTokens substitution tokens with
  | case1 => rfl
  | case2 ident region rest own ih =>
    simp only [lacksAll, lacks, Bool.and_eq_true] at h
    have hown : own = [.word ident region] := if_pos h.1
    rw [hown, ih h.2]
    rfl
  | case3 delimiter opening closing content rest ihcontent ihrest =>
    simp only [lacksAll, lacks, Bool.and_eq_true] at h
    rw [ihcontent h.1, ihrest h.2]
  | case4 token rest hword hgroup ih =>
    simp only [lacksAll, Bool.and_eq_true] at h
    rw [ih h.2]

theorem selfFree_inCall (h : substitution.IsOutside) (parts : List Tree) :
    SelfFree (.node .macroCall (substitution.inCall parts)) := by
  refine .call fun delimiter opening closing content hpart => ?_
  obtain ⟨part, -, hsame⟩ := List.mem_map.mp hpart
  split at hsame
  · next old =>
    cases hsame
    exact lacksAll_inTokens h old
  · next hother =>
    subst hsame
    exact absurd rfl (hother delimiter opening closing content)

/-! ### Trees -/

/-- Substitution keeps the kind of a construct. -/
theorem exists_inTree_node (hkind : substitution.hostType.isKind .typePath = true) (kind : Kind)
    (parts : List Tree) :
    ∃ after, substitution.inTree (.node kind parts) = .node kind after := by
  obtain ⟨own, hown⟩ : ∃ own, substitution.hostType = .node .typePath own := by
    unfold Tree.isKind at hkind
    split at hkind
    · next own hown =>
      rw [beq_iff_eq] at hkind
      exact ⟨own, by rw [hown, hkind]⟩
    · cases hkind
  generalize htree : Tree.node kind parts = tree
  fun_cases inTree substitution tree <;> cases htree
  case case5 hself => exact ⟨own, hown⟩
  all_goals exact ⟨_, rfl⟩

theorem inTree_path (substitution : Substitution) (parts : List Tree) :
    substitution.inTree (.node .path parts) = .node .path (substitution.inTrees parts) := by
  rw [inTree] <;> nofun

theorem inTree_segment (substitution : Substitution) (parts : List Tree) :
    substitution.inTree (.node .segment parts) = .node .segment (substitution.inTrees parts) := by
  rw [inTree] <;> nofun

/-- A construct is only made from one of its kind. -/
theorem exists_of_inTree_eq_node (h : substitution.hostType.isKind .typePath = true) {tree : Tree}
    {kind : Kind} {after : List Tree} (htree : substitution.inTree tree = .node kind after) :
    ∃ parts, tree = .node kind parts := by
  cases tree with
  | leaf token =>
    rw [inTree] at htree
    cases htree
  | group delimiter opening closing content =>
    rw [inTree] at htree
    cases htree
  | node own parts =>
    obtain ⟨found, hfound⟩ := exists_inTree_node h own parts
    rw [hfound] at htree
    cases htree
    exact ⟨parts, rfl⟩

/-- A token is only made from itself. -/
theorem eq_of_inTree_eq_leaf (h : substitution.hostType.isKind .typePath = true) {tree : Tree}
    {token : TokenTree} (htree : substitution.inTree tree = .leaf token) : tree = .leaf token := by
  cases tree with
  | leaf own => rwa [inTree] at htree
  | group delimiter opening closing content =>
    rw [inTree] at htree
    cases htree
  | node kind parts =>
    obtain ⟨found, hfound⟩ := exists_inTree_node h kind parts
    rw [hfound] at htree
    cases htree

/-- Substitution makes no path that begins with `Self` out of another one. -/
theorem startsWithSelf_of_inTree (h : substitution.hostType.isKind .typePath = true) {tree : Tree}
    (hself : StartsWithSelf (substitution.inTree tree)) : StartsWithSelf tree := by
  obtain ⟨region, arguments, rest, htree⟩ := hself
  obtain ⟨parts, rfl⟩ := exists_of_inTree_eq_node h htree
  rw [inTree_path, inTrees_eq_map, selfPath, Tree.node.injEq, List.map_eq_cons_iff] at htree
  obtain ⟨-, first, others, rfl, hfirst, -⟩ := htree
  obtain ⟨inner, rfl⟩ := exists_of_inTree_eq_node h hfirst
  rw [inTree_segment, inTrees_eq_map, Tree.node.injEq, List.map_eq_cons_iff] at hfirst
  obtain ⟨-, word, own, rfl, hword, -⟩ := hfirst
  rw [eq_of_inTree_eq_leaf h hword]
  exact ⟨region, own, others, rfl⟩

theorem inTree_selfPath (substitution : Substitution) (region : Option Region)
    (arguments rest : List Tree) :
    substitution.inTree (selfPath region arguments rest) =
      selfPath region (substitution.inTrees arguments) (substitution.inTrees rest) := by
  rw [selfPath, inTree_path, inTrees, inTree_segment, inTrees, inTree]
  rfl

theorem isSelf_of_inTree (h : substitution.hostType.isKind .typePath = true) {tree : Tree}
    (hself : IsSelf (substitution.inTree tree)) : IsSelf tree := by
  obtain ⟨region, htree⟩ := hself
  obtain ⟨own, arguments, rest, rfl⟩ := startsWithSelf_of_inTree h ⟨region, [], [], htree⟩
  rw [inTree_selfPath, inTrees_eq_map, inTrees_eq_map] at htree
  simp only [selfPath, Tree.node.injEq, List.cons.injEq, List.map_eq_nil_iff, true_and] at htree
  obtain ⟨⟨-, rfl⟩, rfl⟩ := htree
  exact ⟨own, rfl⟩

theorem not_startsWithSelf_inTrees (h : substitution.IsOutside) {parts : List Tree}
    (hparts : selfPath? parts = none) :
    ∀ part ∈ substitution.inTrees parts, ¬ StartsWithSelf part := by
  rw [inTrees_eq_map, List.forall_mem_map]
  exact fun part hpart hself =>
    selfPath?_eq_none_iff.mp hparts part hpart (startsWithSelf_of_inTree h.isType hself)

/-! ### Paths that are replaced -/

theorem selfFree_leaves (tokens : List TokenTree) :
    ∀ tree ∈ Tree.opaqueTokens tokens, SelfFree tree := by
  intro tree htree
  obtain ⟨token, -, rfl⟩ := List.mem_map.mp htree
  exact .leaf token

theorem selfFree_segment {parts : List Tree} (hparts : ∀ part ∈ parts, SelfFree part) :
    SelfFree (.node .segment parts) :=
  .node nofun nofun nofun nofun hparts

theorem selfFree_pathOfName (name : Located Ident) : SelfFree (Tree.pathOfName name) := by
  refine .node nofun nofun nofun nofun fun part hpart => ?_
  rw [List.mem_singleton.mp hpart]
  exact selfFree_segment fun word hword => by
    rw [List.mem_singleton.mp hword]
    exact .leaf _

theorem not_startsWithSelf_pathOfName {name : Located Ident}
    (h : name.value.isWord selfWord = false) : ¬ StartsWithSelf (Tree.pathOfName name) := by
  rintro ⟨region, arguments, rest, hpath⟩
  have hname : name.value = .plain selfWord := by
    simp only [Tree.pathOfName, Tree.name, selfPath, Tree.node.injEq, List.cons.injEq,
      Tree.leaf.injEq, TokenTree.word.injEq] at hpath
    exact hpath.2.1.2.1.1
  rw [hname] at h
  cases h

theorem selfFree_qualified (h : substitution.IsOutside) {rest : List Tree}
    (hrest : ∀ tree ∈ rest, SelfFree tree) : SelfFree (substitution.qualified rest) := by
  refine .node nofun nofun nofun nofun fun part hpart => ?_
  simp only [List.mem_append, List.mem_singleton] at hpart
  rcases hpart with ((hpart | rfl) | hpart) | hpart
  · exact selfFree_leaves _ part hpart
  · exact h.type
  · exact selfFree_leaves _ part hpart
  · exact hrest part hpart

/-- A path that goes on from the host's type is no path that begins with `Self`. -/
theorem selfFree_node_qualified (h : substitution.IsOutside) {kind : Kind}
    (hkind : kind = .typePath ∨ kind = .expression .path) {rest : List Tree}
    (hrest : ∀ tree ∈ rest, SelfFree tree) :
    SelfFree (.node kind [substitution.qualified rest]) := by
  have hpart : ∀ part ∈ [substitution.qualified rest], part = substitution.qualified rest :=
    fun part hpart => List.mem_singleton.mp hpart
  refine .node ?_ ?_ (fun _ part hmem => ?_) ?_ fun part hmem => ?_
  · rcases hkind with rfl | rfl <;> nofun
  · rcases hkind with rfl | rfl <;> nofun
  · rw [hpart part hmem]
    rintro ⟨region, arguments, rest, hpath⟩
    cases hpath
  · rcases hkind with rfl | rfl <;> nofun
  · rw [hpart part hmem]
    exact selfFree_qualified h hrest

theorem isSelf_inRecordPath (h : substitution.IsOutside) (part : Tree) :
    ¬ IsSelf (substitution.inRecordPath part) := by
  rw [← pathIdent?_eq_self_iff]
  rintro ⟨ident, hident, hword⟩
  unfold inRecordPath at hident
  split at hident
  · next own hown =>
    split at hident
    · cases hident
      rw [h.name] at hword
      cases hword
    · next hother =>
      rw [hown] at hident
      cases hident
      exact hother hword
  · next hnone =>
    rw [hnone] at hident
    cases hident

theorem selfFree_inRecordPath {part : Tree} (hpart : SelfFree part) :
    SelfFree (substitution.inRecordPath part) := by
  unfold inRecordPath
  split
  · split
    · exact selfFree_pathOfName _
    · exact hpart
  · exact hpart

theorem selfFree_record (h : substitution.IsOutside) {kind : Kind}
    (hkind : kind = .expression .structLiteral ∨ kind = .pattern .record) {parts : List Tree}
    (hparts : ∀ part ∈ parts, SelfFree part) :
    SelfFree (.node kind (parts.map substitution.inRecordPath)) := by
  refine .node ?_ ?_ ?_ (fun _ => ?_) ?_
  · rcases hkind with rfl | rfl <;> nofun
  · rcases hkind with rfl | rfl <;> nofun
  · rcases hkind with rfl | rfl <;> nofun
  · rw [List.forall_mem_map]
    exact fun part _ => isSelf_inRecordPath h part
  · rw [List.forall_mem_map]
    exact fun part hpart => selfFree_inRecordPath (hparts part hpart)

/-! ### No `Self` is left -/

/-- No code mentions `Self` after a substitution: by induction on the code, a case for each form in
which `Self` may stand and one for all other constructs. -/
theorem selfFree_inTree (h : substitution.IsOutside) (tree : Tree) :
    SelfFree (substitution.inTree tree) := by
  refine (inTree.mutual_induct
    (fun tree => SelfFree (substitution.inTree tree))
    (fun parts => ∀ part ∈ substitution.replacePath parts, ¬ StartsWithSelf part ∧ SelfFree part)
    (fun parts => ∀ part ∈ substitution.restOfPath parts, SelfFree part)
    (fun trees => ∀ tree ∈ substitution.inTrees trees, SelfFree tree)
    ?leaf ?group ?item ?call ?type ?typeRest ?otherType ?value ?valueRest ?otherValue ?literal
    ?pattern ?other ?nothing ?path ?beside ?noRest ?rest ?noPath ?noTrees ?trees).1 tree
  case leaf =>
    intro token
    rw [inTree]
    exact .leaf token
  case group =>
    intro delimiter opening closing content ih
    rw [inTree]
    exact .group ih
  case item =>
    intro parts
    rw [inTree]
    exact .item parts
  case call =>
    intro parts
    rw [inTree]
    exact selfFree_inCall h parts
  case type =>
    intro parts hself
    simp only [inTree, hself]
    exact h.type
  case typeRest =>
    intro parts head tail hself ih
    simp only [inTree, hself]
    exact selfFree_node_qualified h (.inl rfl) ih
  case otherType =>
    intro parts hself ih
    simp only [inTree, hself]
    exact .node nofun nofun (fun _ => not_startsWithSelf_inTrees h hself) nofun ih
  case value =>
    intro parts hself ih
    simp only [inTree, hself]
    exact .node nofun nofun (fun _ part hpart => (ih part hpart).1) nofun
      fun part hpart => (ih part hpart).2
  case valueRest =>
    intro parts head tail hself ih
    simp only [inTree, hself]
    exact selfFree_node_qualified h (.inr rfl) ih
  case otherValue =>
    intro parts hself ih
    simp only [inTree, hself]
    exact .node nofun nofun (fun _ => not_startsWithSelf_inTrees h hself) nofun ih
  case literal =>
    intro parts ih
    rw [inTree]
    exact selfFree_record h (.inl rfl) ih
  case pattern =>
    intro parts ih
    rw [inTree]
    exact selfFree_record h (.inr rfl) ih
  case other =>
    intro kind parts hitem hcall htype hpath hliteral hrecord ih
    rw [inTree] <;> try assumption
    exact .node hitem hcall (fun hkind => (hkind.elim htype hpath).elim)
      (fun hkind => (hkind.elim hliteral hrecord).elim) ih
  case nothing => simp [replacePath]
  case path =>
    intro parts rest ih
    rw [replacePath, List.forall_mem_cons]
    exact ⟨⟨not_startsWithSelf_pathOfName h.name, selfFree_pathOfName _⟩, ih⟩
  case beside =>
    intro tree rest hpath ihtree ihrest
    rw [replacePath, List.forall_mem_cons]
    · refine ⟨⟨fun hself => ?_, ihtree⟩, ihrest⟩
      obtain ⟨region, arguments, others, rfl⟩ := startsWithSelf_of_inTree h.isType hself
      exact hpath _ rfl
    · exact hpath
  case noRest => simp [restOfPath]
  case rest =>
    intro head rest tail ih
    rwa [restOfPath]
  case noPath =>
    intro head rest hpath ih
    rw [restOfPath]
    · exact ih
    · exact hpath
  case noTrees => simp [inTrees]
  case trees =>
    intro tree rest ihtree ihrest
    rw [inTrees, List.forall_mem_cons]
    exact ⟨ihtree, ihrest⟩

/-- Code that does not mention `Self` stays as it is. -/
theorem inTree_of_selfFree {tree : Tree} (h : SelfFree tree) : substitution.inTree tree = tree := by
  induction h with
  | leaf token => rw [inTree]
  | group hcontent ih =>
    rw [inTree, inTrees_eq_map, List.map_congr_left ih, List.map_id']
  | item parts => rw [inTree]
  | @call parts harguments =>
    rw [inTree, inCall, List.map_congr_left (g := id), List.map_id]
    intro part hpart
    split
    · next delimiter opening closing content =>
      rw [inTokens_of_lacksAll (harguments delimiter opening closing content hpart)]
      rfl
    · rfl
  | @node kind parts hitem hcall hpath hrecord hparts ih =>
    have hsame : substitution.inTrees parts = parts := by
      rw [inTrees_eq_map, List.map_congr_left ih, List.map_id']
    by_cases htype : kind = .typePath
    · subst htype
      simp only [inTree, selfPath?_eq_none_iff.mpr (hpath (.inl rfl)), hsame]
    by_cases hvalue : kind = .expression .path
    · subst hvalue
      simp only [inTree, selfPath?_eq_none_iff.mpr (hpath (.inr rfl)), hsame]
    have hplain (hrecorded : kind = .expression .structLiteral ∨ kind = .pattern .record) :
        parts.map substitution.inRecordPath = parts := by
      rw [List.map_congr_left (g := id), List.map_id]
      exact fun part hpart => inRecordPath_of_not_isSelf (hrecord hrecorded part hpart)
    by_cases hliteral : kind = .expression .structLiteral
    · subst hliteral
      rw [inTree, hsame, hplain (.inl rfl)]
    by_cases hpattern : kind = .pattern .record
    · subst hpattern
      rw [inTree, hsame, hplain (.inr rfl)]
    rw [inTree, hsame] <;> assumption

theorem inTree_inTree (h : substitution.IsOutside) (tree : Tree) :
    substitution.inTree (substitution.inTree tree) = substitution.inTree tree :=
  inTree_of_selfFree (selfFree_inTree h tree)

theorem inTrees_inTrees (h : substitution.IsOutside) (trees : List Tree) :
    substitution.inTrees (substitution.inTrees trees) = substitution.inTrees trees := by
  rw [inTrees_eq_map, inTrees_eq_map, List.map_map]
  exact List.map_congr_left fun tree _ => inTree_inTree h tree

theorem selfFree_inTrees (h : substitution.IsOutside) (trees : List Tree) :
    ∀ tree ∈ substitution.inTrees trees, SelfFree tree := by
  rw [inTrees_eq_map, List.forall_mem_map]
  exact fun tree _ => selfFree_inTree h tree

/-! ### Generic parameters -/

/-- Generic parameters do not mention `Self`: not in the values of attributes, nor in bounds,
defaults and conditions. -/
structure SelfFreeGenerics (generics : Generics) : Prop where
  values : ∀ parameter ∈ generics.parameters, ∀ attr ∈ parameter.attributes, ∀ equals value,
    attr.content.arguments = .value equals value → SelfFree value
  bounds : ∀ parameter ∈ generics.parameters, ∀ tree ∈ parameter.bounds, SelfFree tree
  fallback : ∀ parameter ∈ generics.parameters, ∀ tree ∈ parameter.fallback, SelfFree tree
  clause : ∀ tree ∈ generics.clause, SelfFree tree

theorem selfFree_inAttribute (h : substitution.IsOutside) (attr : Attribute) {equals : List Tree}
    {value : Tree}
    (hvalue : (substitution.inAttribute attr).content.arguments = .value equals value) :
    SelfFree value := by
  unfold inAttribute at hvalue
  split at hvalue
  · cases hvalue
    exact selfFree_inTree h _
  · next hother => exact absurd hvalue (hother equals value)

theorem inAttribute_inAttribute (h : substitution.IsOutside) (attr : Attribute) :
    substitution.inAttribute (substitution.inAttribute attr) = substitution.inAttribute attr := by
  obtain ⟨isInner, lead, opening, closing, path, arguments⟩ := attr
  cases arguments with
  | value equals value => simp only [inAttribute, inTree_inTree h]
  | _ => rfl

theorem inParameter_inParameter (h : substitution.IsOutside) (parameter : GenericParameter) :
    substitution.inParameter (substitution.inParameter parameter) =
      substitution.inParameter parameter := by
  simp only [inParameter, List.map_map, inTrees_inTrees h, GenericParameter.mk.injEq, true_and,
    and_true]
  exact List.map_congr_left fun attr _ => inAttribute_inAttribute h attr

theorem selfFreeGenerics_inGenerics (h : substitution.IsOutside) (generics : Generics) :
    SelfFreeGenerics (substitution.inGenerics generics) where
  values := by
    simp only [inGenerics, List.forall_mem_map, inParameter]
    exact fun parameter _ attr _ equals value => selfFree_inAttribute h attr
  bounds := by
    simp only [inGenerics, List.forall_mem_map, inParameter]
    exact fun parameter _ => selfFree_inTrees h parameter.bounds
  fallback := by
    simp only [inGenerics, List.forall_mem_map, inParameter]
    exact fun parameter _ => selfFree_inTrees h parameter.fallback
  clause := selfFree_inTrees h generics.clause

theorem inGenerics_inGenerics (h : substitution.IsOutside) (generics : Generics) :
    substitution.inGenerics (substitution.inGenerics generics) =
      substitution.inGenerics generics := by
  simp only [inGenerics, List.map_map, inTrees_inTrees h, Generics.mk.injEq, and_true]
  exact List.map_congr_left fun parameter _ => inParameter_inParameter h parameter

end

end Substitution

end Counterpart
