import Counterpart.Proofs.LeavingHost

/-!
# What substitution leaves alone

Substitution replaces the word `Self` where it stands and keeps all other tokens in their order. There
are two exceptions, both about a path that begins with `Self`: arguments of that word are lost, and
so is what stands in front of the path, its attributes, if the path is put behind the host's type. Here
code is trimmed of what is lost. What is left after a substitution is the trimmed code, token by
token, but for occurrences of the word.
-/

namespace Counterpart

namespace Substitution

open TokenTree

/-! ## Rows of tokens -/

/-- What may stand in the place of `Self`: the host's name, its type, or the type in angle brackets. -/
def replacements (substitution : Substitution) : List (List TokenTree) :=
  [[.word substitution.hostName.value substitution.hostName.region], substitution.hostType.tokens,
    substitution.bracketedTokens]

/-- Tokens are others with occurrences of the word `Self` replaced where they stand. -/
inductive Replaces (substitution : Substitution) : List TokenTree → List TokenTree → Prop
  | nil : Replaces substitution [] []
  | keep (token : TokenTree) {before after : List TokenTree}
      (hrest : Replaces substitution before after) :
      Replaces substitution (token :: before) (token :: after)
  | group (delimiter : Delimiter) (opening closing : Option Region)
      {content replaced before after : List TokenTree}
      (hcontent : Replaces substitution content replaced)
      (hrest : Replaces substitution before after) :
      Replaces substitution (.group delimiter opening closing content :: before)
        (.group delimiter opening closing replaced :: after)
  | word (region : Option Region) {replacement before after : List TokenTree}
      (hreplacement : replacement ∈ substitution.replacements)
      (hrest : Replaces substitution before after) :
      Replaces substitution (.word (.plain selfWord) region :: before) (replacement ++ after)

namespace Replaces

variable {substitution : Substitution}

theorem refl (tokens : List TokenTree) : Replaces substitution tokens tokens := by
  induction tokens with
  | nil => exact .nil
  | cons token rest ih => exact .keep token ih

theorem append {before after first second : List TokenTree}
    (h : Replaces substitution before first) (hrest : Replaces substitution after second) :
    Replaces substitution (before ++ after) (first ++ second) := by
  induction h with
  | nil => exact hrest
  | keep token _ ih => exact .keep token ih
  | group delimiter opening closing hcontent _ _ ih => exact .group delimiter opening closing hcontent ih
  | word region hreplacement _ ih =>
    rw [List.cons_append, List.append_assoc]
    exact .word region hreplacement ih

/-- The tokens of a macro call's arguments are replaced where they stand. -/
theorem inTokens (substitution : Substitution) (tokens : List TokenTree) :
    Replaces substitution tokens (substitution.inTokens tokens) := by
  fun_induction Substitution.inTokens substitution tokens with
  | case1 => exact .nil
  | case2 ident region rest own ih =>
    unfold own
    split
    · exact .keep _ ih
    · next hword =>
      rw [Bool.not_eq_true, Bool.not_eq_false', Ident.isWord_iff] at hword
      subst hword
      refine .word region ?_ ih
      split <;> simp [replacements]
  | case3 delimiter opening closing content rest ihcontent ihrest =>
    exact .group delimiter opening closing ihcontent ihrest
  | case4 token rest _ _ ih => exact .keep token ih

end Replaces

/-! ## Code without what is lost -/

/-- Whether a construct is a path that stands for a type or a value. -/
def isPathKind (kind : Kind) : Bool := kind == .typePath || kind == .expression .path

/-- A path without the arguments of its first word. -/
def withoutFirstArguments : Tree → Tree
  | .node .path (.node .segment (first :: _) :: rest) => .node .path (.node .segment [first] :: rest)
  | tree => tree

/-- The parts of a construct without what is lost. If the construct is a path that begins with `Self`
then the arguments of that word are, and what stands beside the path unless a name stands in its
place. -/
def trimParts (kind : Kind) (parts trimmed : List Tree) : List Tree :=
  match selfPath? parts with
  | some rest =>
    if isPathKind kind then
      let kept := if kind == .typePath || !rest.isEmpty then trimmed.filter (·.isKind .path) else trimmed
      kept.map withoutFirstArguments
    else trimmed
  | none => trimmed

mutual

/-- Code without what is lost when it leaves its host. -/
def trim : Tree → Tree
  | .leaf token => .leaf token
  | .group delimiter opening closing content => .group delimiter opening closing (trimAll content)
  | .node .item parts => .node .item parts
  | .node .macroCall parts => .node .macroCall parts
  | .node kind parts => .node kind (trimParts kind parts (trimAll parts))

/-- Several trees without what is lost. -/
def trimAll : List Tree → List Tree
  | [] => []
  | tree :: rest => trim tree :: trimAll rest

end

theorem trimAll_eq_map (trees : List Tree) : trimAll trees = trees.map trim := by
  induction trees with
  | nil => rfl
  | cons tree rest ih => rw [trimAll, ih, List.map_cons]

theorem trim_node (kind : Kind) (hitem : kind ≠ .item) (hcall : kind ≠ .macroCall)
    (parts : List Tree) :
    trim (.node kind parts) = .node kind (trimParts kind parts (trimAll parts)) := by
  rw [trim] <;> assumption

theorem trimParts_of_not_isPathKind {kind : Kind} (h : isPathKind kind = false)
    (parts trimmed : List Tree) : trimParts kind parts trimmed = trimmed := by
  rw [trimParts, h]
  split <;> rfl

theorem trimParts_of_not_startsWithSelf {parts : List Tree}
    (h : ∀ part ∈ parts, ¬ StartsWithSelf part) (kind : Kind) (trimmed : List Tree) :
    trimParts kind parts trimmed = trimmed := by
  rw [trimParts, selfPath?_eq_none_iff.mpr h]

theorem trim_selfPath (region : Option Region) (arguments rest : List Tree) :
    trim (selfPath region arguments rest) =
      selfPath region (trimAll arguments) (trimAll rest) := by
  rw [selfPath, trim_node .path (by decide) (by decide), trimParts_of_not_isPathKind rfl, trimAll,
    trim_node .segment (by decide) (by decide), trimParts_of_not_isPathKind rfl, trimAll, trim]
  rfl

/-- Trimming keeps the kind of a construct. -/
theorem isKind_trim (tree : Tree) (kind : Kind) : (trim tree).isKind kind = tree.isKind kind := by
  fun_cases trim tree <;> rfl

/-! ## Code as the grammar has it -/

/-- Code in which a path stands for a type or a value at the end of its construct, behind parts that
are no paths. -/
inductive Formed : Tree → Prop
  | leaf (token : TokenTree) : Formed (.leaf token)
  | group {delimiter opening closing content} (hcontent : ∀ tree ∈ content, Formed tree) :
      Formed (.group delimiter opening closing content)
  | item (parts : List Tree) : Formed (.node .item parts)
  | call (parts : List Tree) : Formed (.node .macroCall parts)
  | self {kind} (hkind : isPathKind kind = true) {attributes} (hattributes : NoPath attributes)
      (hbeside : ∀ part ∈ attributes, Formed part) (region : Option Region) (arguments : List Tree)
      {rest} (hrest : ∀ part ∈ rest, Formed part) :
      Formed (.node kind (attributes ++ [selfPath region arguments rest]))
  | node {kind parts} (hitem : kind ≠ .item) (hcall : kind ≠ .macroCall)
      (hpath : isPathKind kind = true → ∀ part ∈ parts, ¬ StartsWithSelf part)
      (hparts : ∀ part ∈ parts, Formed part) : Formed (.node kind parts)

variable {substitution : Substitution}

theorem tokens_operator (text : String) :
    Tree.tokensAll (Tree.operator text) = operatorTokens text.toList :=
  Tree.tokensAll_opaqueTokens _

/-- A path that goes on behind `Self` is put behind the host's type in angle brackets. -/
theorem tokens_qualified (rest : List Tree) :
    (substitution.qualified rest).tokens = substitution.bracketedTokens ++ Tree.tokensAll rest := by
  simp [qualified, bracketedTokens, Tree.tokens, tokens_operator]

theorem tokens_selfPath (region : Option Region) (rest : List Tree) :
    (selfPath region [] rest).tokens =
      .word (.plain selfWord) region :: Tree.tokensAll rest := by
  simp [selfPath, Tree.tokens]

/-- If each of several trees is replaced in place then all of them are. -/
theorem replaces_all {trees : List Tree}
    (h : ∀ tree ∈ trees, Replaces substitution (trim tree).tokens (substitution.inTree tree).tokens) :
    Replaces substitution (Tree.tokensAll (trimAll trees))
      (Tree.tokensAll (substitution.inTrees trees)) := by
  induction trees with
  | nil => exact .nil
  | cons tree rest ih =>
    obtain ⟨htree, hrest⟩ := List.forall_mem_cons.mp h
    rw [trimAll, inTrees, Tree.tokensAll_cons, Tree.tokensAll_cons]
    exact htree.append (ih hrest)

/-- The parts of a struct literal or a struct pattern: its path is replaced if it is `Self`. -/
theorem replaces_records (htype : substitution.hostType.isKind .typePath = true) {trees : List Tree}
    (h : ∀ tree ∈ trees, Replaces substitution (trim tree).tokens (substitution.inTree tree).tokens) :
    Replaces substitution (Tree.tokensAll (trimAll trees))
      (Tree.tokensAll ((substitution.inTrees trees).map substitution.inRecordPath)) := by
  induction trees with
  | nil => exact .nil
  | cons tree rest ih =>
    obtain ⟨htree, hrest⟩ := List.forall_mem_cons.mp h
    rw [trimAll, inTrees, List.map_cons, Tree.tokensAll_cons, Tree.tokensAll_cons]
    refine .append ?_ (ih hrest)
    by_cases hself : IsSelf tree
    · obtain ⟨region, rfl⟩ := hself
      rw [trim_selfPath, inTree_selfPath, trimAll, inTrees, tokens_selfPath]
      exact .word region (List.mem_cons_self ..) .nil
    · rwa [inRecordPath_of_not_isSelf fun hafter => hself (isSelf_of_inTree htype hafter)]

theorem noPath_trimAll {parts : List Tree} (h : NoPath parts) : NoPath (trimAll parts) := by
  rw [trimAll_eq_map, NoPath, List.forall_mem_map]
  intro part hpart inner hpath
  have hkind : part.isKind .path = true := by
    rw [← isKind_trim, hpath]
    rfl
  cases part with
  | node kind own =>
    rw [Tree.isKind, beq_iff_eq] at hkind
    exact h _ hpart own (by rw [hkind])
  | _ => cases hkind

theorem map_withoutFirstArguments {parts : List Tree} (h : NoPath parts) :
    parts.map withoutFirstArguments = parts := by
  rw [List.map_congr_left (g := id), List.map_id]
  intro part hpart
  rw [withoutFirstArguments.eq_def]
  split
  · exact absurd rfl (h _ hpart _)
  · rfl

theorem filter_isKind_path {parts : List Tree} (h : NoPath parts) :
    parts.filter (·.isKind .path) = [] := by
  refine List.filter_eq_nil_iff.mpr fun part hpart hkind => ?_
  cases part with
  | node kind own =>
    rw [Tree.isKind, beq_iff_eq] at hkind
    exact h _ hpart own (by rw [hkind])
  | _ => cases hkind

section

variable {attributes : List Tree} (hattributes : NoPath attributes) (region : Option Region)
  (arguments rest : List Tree)

include hattributes

omit hattributes in
theorem trimAll_append_selfPath : trimAll (attributes ++ [selfPath region arguments rest]) =
    trimAll attributes ++ [selfPath region (trimAll arguments) (trimAll rest)] := by
  rw [trimAll_eq_map, List.map_append, ← trimAll_eq_map, List.map_singleton, trim_selfPath]

/-- Of a path that is not replaced by a name, only the path is left. -/
theorem trim_path_self {kind : Kind} (hkind : isPathKind kind = true)
    (hlost : (kind == .typePath || !rest.isEmpty) = true) :
    trim (.node kind (attributes ++ [selfPath region arguments rest])) =
      .node kind [selfPath region [] (trimAll rest)] := by
  have hitem : kind ≠ .item := by
    rintro rfl
    cases hkind
  have hcall : kind ≠ .macroCall := by
    rintro rfl
    cases hkind
  rw [trim_node kind hitem hcall, trimParts, selfPath?_append hattributes]
  simp only [if_pos hkind, if_pos hlost]
  rw [trimAll_append_selfPath, List.filter_append,
    filter_isKind_path (noPath_trimAll hattributes)]
  rfl

/-- Beside a value that is replaced by a name, attributes are left. -/
theorem trim_value_self :
    trim (.node (.expression .path) (attributes ++ [selfPath region arguments []])) =
      .node (.expression .path) (trimAll attributes ++ [selfPath region [] []]) := by
  rw [trim_node (.expression .path) nofun nofun, trimParts, selfPath?_append hattributes]
  change Tree.node _ ((trimAll _).map withoutFirstArguments) = _
  rw [trimAll_append_selfPath, List.map_append,
    map_withoutFirstArguments (noPath_trimAll hattributes)]
  rfl

end

/-- A path that begins with `Self` at the end of a construct. -/
theorem replaces_self {kind : Kind} (hkind : isPathKind kind = true) {attributes rest : List Tree}
    (hattributes : NoPath attributes) (region : Option Region) (arguments : List Tree)
    (hbeside : ∀ part ∈ attributes,
      Replaces substitution (trim part).tokens (substitution.inTree part).tokens)
    (hrest : ∀ part ∈ rest,
      Replaces substitution (trim part).tokens (substitution.inTree part).tokens) :
    Replaces substitution (trim (.node kind (attributes ++ [selfPath region arguments rest]))).tokens
      (substitution.inTree (.node kind (attributes ++ [selfPath region arguments rest]))).tokens := by
  have hnames := namesHost substitution
  rw [isPathKind, Bool.or_eq_true, beq_iff_eq, beq_iff_eq] at hkind
  have hqualified : Replaces substitution (selfPath region [] (trimAll rest)).tokens
      (substitution.qualified (substitution.inTrees rest)).tokens := by
    rw [tokens_selfPath, tokens_qualified]
    exact .word region (by simp [replacements]) (replaces_all hrest)
  cases rest with
  | nil =>
    rcases hkind with rfl | rfl
    · rw [trim_path_self hattributes region arguments [] rfl rfl,
        hnames.typeAlone attributes hattributes region arguments, Tree.tokens, Tree.tokensAll_cons,
        trimAll, tokens_selfPath]
      have htype : substitution.hostType.tokens ∈ substitution.replacements := by simp [replacements]
      simpa using Replaces.word region htype .nil
    · rw [trim_value_self hattributes, hnames.valueAlone attributes hattributes region arguments,
        Tree.tokens, Tree.tokens, Tree.tokensAll_append, Tree.tokensAll_append]
      refine (replaces_all hbeside).append ?_
      rw [Tree.tokensAll_cons, tokens_selfPath]
      exact .word region (List.mem_cons_self ..) .nil
  | cons head rest =>
    rcases hkind with rfl | rfl
    · rw [trim_path_self hattributes region arguments (head :: rest) rfl rfl,
        hnames.typeRest attributes hattributes region arguments head rest, Tree.tokens, Tree.tokens,
        Tree.tokensAll_cons, Tree.tokensAll_cons]
      exact hqualified.append .nil
    · rw [trim_path_self hattributes region arguments (head :: rest) rfl rfl,
        hnames.valueRest attributes hattributes region arguments head rest, Tree.tokens, Tree.tokens,
        Tree.tokensAll_cons, Tree.tokensAll_cons]
      exact hqualified.append .nil

/-- The parts of a macro call: what is replaced stands in its arguments. -/
theorem replaces_inCall (parts : List Tree) :
    Replaces substitution (Tree.tokensAll parts) (Tree.tokensAll (substitution.inCall parts)) := by
  induction parts with
  | nil => exact .nil
  | cons part rest ih =>
    rw [inCall, List.map_cons, Tree.tokensAll_cons, Tree.tokensAll_cons]
    refine .append ?_ ih
    split
    · next delimiter opening closing content =>
      rw [Tree.tokens, Tree.tokens]
      exact .group delimiter opening closing (.inTokens substitution content) .nil
    · exact .refl _

/-- Substitution replaces `Self` where it stands and keeps all other tokens of the trimmed code: by
induction on the code, a case for each form in which `Self` may stand and one for all other
constructs. -/
theorem replaces_inTree (htype : substitution.hostType.isKind .typePath = true) {tree : Tree}
    (h : Formed tree) :
    Replaces substitution (trim tree).tokens (substitution.inTree tree).tokens := by
  induction h with
  | leaf token =>
    rw [trim, inTree]
    exact .refl _
  | group hcontent ih =>
    rw [trim, inTree, Tree.tokens, Tree.tokens]
    exact .group _ _ _ (replaces_all ih) .nil
  | item parts =>
    rw [trim, inTree]
    exact .refl _
  | call parts =>
    rw [trim, inTree, Tree.tokens, Tree.tokens]
    exact replaces_inCall parts
  | self hkind hattributes hbeside region arguments hrest ihbeside ihrest =>
    exact replaces_self hkind hattributes region arguments ihbeside ihrest
  | @node kind parts hitem hcall hpath hparts ih =>
    have htrim : trim (.node kind parts) = .node kind (trimAll parts) := by
      rw [trim_node kind hitem hcall]
      by_cases hkind : isPathKind kind = true
      · rw [trimParts_of_not_startsWithSelf (hpath hkind)]
      · rw [trimParts_of_not_isPathKind (by simpa using hkind)]
    have hnone (hkind : isPathKind kind = true) : selfPath? parts = none :=
      selfPath?_eq_none_iff.mpr (hpath hkind)
    rw [htrim, Tree.tokens]
    have hall := replaces_all ih
    by_cases htype : kind = .typePath
    · subst htype
      simp only [inTree, hnone rfl, Tree.tokens]
      exact hall
    by_cases hvalue : kind = .expression .path
    · subst hvalue
      simp only [inTree, hnone rfl, Tree.tokens]
      exact hall
    by_cases hliteral : kind = .expression .structLiteral
    · subst hliteral
      rw [inTree, Tree.tokens]
      exact replaces_records ‹_› ih
    by_cases hpattern : kind = .pattern .record
    · subst hpattern
      rw [inTree, Tree.tokens]
      exact replaces_records ‹_› ih
    rw [inTree, Tree.tokens]
    · exact hall
    all_goals assumption

/-! ## Code that loses nothing -/

/-- Code in which `Self` has no arguments, and in which no attributes stand in front of a path that
begins with it, unless a name stands in its place. -/
inductive Whole : Tree → Prop
  | leaf (token : TokenTree) : Whole (.leaf token)
  | group {delimiter opening closing content} (hcontent : ∀ tree ∈ content, Whole tree) :
      Whole (.group delimiter opening closing content)
  | item (parts : List Tree) : Whole (.node .item parts)
  | call (parts : List Tree) : Whole (.node .macroCall parts)
  | value {attributes} (hattributes : NoPath attributes)
      (hbeside : ∀ part ∈ attributes, Whole part) (region : Option Region) :
      Whole (.node (.expression .path) (attributes ++ [selfPath region [] []]))
  | path {kind} (hkind : isPathKind kind = true) (region : Option Region) {rest}
      (hrest : ∀ part ∈ rest, Whole part) : Whole (.node kind [selfPath region [] rest])
  | node {kind parts} (hitem : kind ≠ .item) (hcall : kind ≠ .macroCall)
      (hpath : isPathKind kind = true → ∀ part ∈ parts, ¬ StartsWithSelf part)
      (hparts : ∀ part ∈ parts, Whole part) : Whole (.node kind parts)

theorem whole_of_selfFree {tree : Tree} (h : SelfFree tree) : Whole tree := by
  induction h with
  | leaf token => exact .leaf token
  | group _ ih => exact .group ih
  | item parts => exact .item parts
  | call _ => exact .call _
  | node hitem hcall hpath _ _ ih =>
    refine .node hitem hcall (fun hkind => hpath ?_) ih
    rwa [isPathKind, Bool.or_eq_true, beq_iff_eq, beq_iff_eq] at hkind

theorem formed_of_whole {tree : Tree} (h : Whole tree) : Formed tree := by
  induction h with
  | leaf token => exact .leaf token
  | group _ ih => exact .group ih
  | item parts => exact .item parts
  | call parts => exact .call parts
  | value hattributes _ region ih => exact .self rfl hattributes ih region [] nofun
  | path hkind region _ ih =>
    have hnone : NoPath [] := nofun
    exact .self hkind hnone nofun region [] ih
  | node hitem hcall hpath _ ih => exact .node hitem hcall hpath ih

theorem trimAll_eq_self {trees : List Tree} (h : ∀ tree ∈ trees, trim tree = tree) :
    trimAll trees = trees := by
  rw [trimAll_eq_map, List.map_congr_left h, List.map_id']

/-- Nothing is trimmed from code that loses nothing. -/
theorem trim_of_whole {tree : Tree} (h : Whole tree) : trim tree = tree := by
  induction h with
  | leaf token => rw [trim]
  | group _ ih => rw [trim, trimAll_eq_self ih]
  | item parts => rw [trim]
  | call parts => rw [trim]
  | value hattributes _ region ih => rw [trim_value_self hattributes, trimAll_eq_self ih]
  | @path kind hkind region rest _ ih =>
    have hnone : NoPath [] := nofun
    have hrest := trimAll_eq_self ih
    by_cases hlost : (kind == .typePath || !rest.isEmpty) = true
    · exact (trim_path_self hnone region [] rest hkind hlost).trans (by rw [hrest])
    · simp only [Bool.or_eq_true, not_or, Bool.not_eq_true, Bool.not_eq_false',
        List.isEmpty_iff] at hlost
      obtain ⟨htype, rfl⟩ := hlost
      rw [isPathKind, htype, Bool.false_or, beq_iff_eq] at hkind
      subst hkind
      exact trim_value_self hnone region []
  | @node kind parts hitem hcall hpath _ ih =>
    rw [trim_node kind hitem hcall, trimAll_eq_self ih]
    by_cases hkind : isPathKind kind = true
    · rw [trimParts_of_not_startsWithSelf (hpath hkind)]
    · rw [trimParts_of_not_isPathKind (by simpa using hkind)]

/-- Substitution touches nothing but `Self`. For every host and all code, the tokens that a
substitution leads to are those of the trimmed code, in their order, with occurrences of `Self`
replaced where they stand. Nothing is trimmed from code in which `Self` has no arguments and no
attributes stand in front of a path that begins with it, unless it is replaced by a name. Code that
does not mention `Self` stays as it is. -/
theorem self_replaced_in_place (host : StructItem) (tree : Tree) :
    (Formed tree →
      Replaces (ofHost host) (trim tree).tokens ((ofHost host).inTree tree).tokens) ∧
    (Whole tree → Formed tree ∧ trim tree = tree) ∧
    (SelfFree tree → (ofHost host).inTree tree = tree) :=
  ⟨replaces_inTree rfl, fun h => ⟨formed_of_whole h, trim_of_whole h⟩, inTree_of_selfFree⟩

/-! ## A path with an attribute -/

/-- The segment `x` behind a double colon. -/
def sampleRest : List Tree := Tree.operator "::" ++ [.node .segment [Tree.word "x"]]

/-- The tokens of `#[a] Self::x`. -/
def markedCode : List TokenTree :=
  Template.mark "#" ++ [groupToken .bracket (Template.word "a")] ++ Template.word "Self"
    ++ Template.mark "::" ++ Template.word "x"

/-- The expression that they are. -/
def markedPath : Tree :=
  .node (.expression .path) [(Attribute.ofWord "a").tree, selfPath none [] sampleRest]

/-- The expression `Self::x`. -/
def plainPath : Tree := .node (.expression .path) [selfPath none [] sampleRest]

theorem whole_sampleRest : ∀ part ∈ sampleRest, Whole part := by
  intro part hpart
  rcases List.mem_append.mp hpart with hpart | hpart
  · exact whole_of_selfFree (selfFree_leaves _ part hpart)
  · rw [List.mem_singleton.mp hpart]
    exact whole_of_selfFree (selfFree_segment fun word hword => by
      rw [List.mem_singleton.mp hword]
      exact .leaf _)

theorem selfFree_mark : SelfFree (Attribute.ofWord "a").tree := by
  refine .node nofun nofun nofun nofun fun part hpart => ?_
  rcases List.mem_append.mp hpart with hpart | hpart
  · exact selfFree_leaves _ part hpart
  · rw [List.mem_singleton.mp hpart]
    exact .group fun tree htree => by
      rw [List.mem_singleton.mp htree]
      exact selfFree_pathOfName ⟨.plain "a", none⟩

theorem formed_markedPath : Formed markedPath := by
  have hnone : NoPath [(Attribute.ofWord "a").tree] := by
    rintro part hpart inner rfl
    cases List.mem_singleton.mp hpart
  refine .self rfl hnone (fun part hpart => ?_) none [] fun part hpart => ?_
  · rw [List.mem_singleton.mp hpart]
    exact formed_of_whole (whole_of_selfFree selfFree_mark)
  · exact formed_of_whole (whole_sampleRest part hpart)

/-- Nothing but `Self` is replaced in `Self::x`, and in what is left of `#[a] Self::x`. -/
theorem paths_replaced_in_place :
    Replaces (ofHost (sampleHost "a")) plainPath.tokens
      ((ofHost (sampleHost "a")).inTree plainPath).tokens ∧
    Replaces (ofHost (sampleHost "a")) plainPath.tokens
      ((ofHost (sampleHost "a")).inTree markedPath).tokens := by
  obtain ⟨hplain, hwhole, -⟩ := self_replaced_in_place (sampleHost "a") plainPath
  obtain ⟨hformed, hsame⟩ := hwhole (.path rfl none whole_sampleRest)
  have hmarked := (self_replaced_in_place (sampleHost "a") markedPath).1 formed_markedPath
  have htrimmed : (trim markedPath).tokens = plainPath.tokens := by cbv
  rw [htrimmed] at hmarked
  exact ⟨by simpa only [hsame] using hplain hformed, hmarked⟩

/-- The attribute in front of `Self::x` is lost, so what is left are not the tokens of the code with
`Self` replaced. -/
theorem attribute_lost :
    Grammar.read Grammar.expression markedCode = .ok markedPath ∧
    TokenTree.renderAll ((ofHost (sampleHost "a")).inTree markedPath).tokens =
      "< H < 'a , > > :: x" ∧
    ¬ Replaces (ofHost (sampleHost "a")) markedCode
      ((ofHost (sampleHost "a")).inTree markedPath).tokens := by
  refine ⟨rfl, ?_, ?_⟩
  · cbv
  · intro h
    cases h

end Substitution

end Counterpart
