import Counterpart.Proofs.Linking
import Counterpart.Sample.Chain

/-!
# No reference is missed

Where a word stands in an expression decides what it refers to: the input patterns of the closures
around it, and the patterns of the `let` statements in front of it in the blocks around it, may bind
it. The relation between a word, its binders and an expression is defined apart from the search for
references, by where the constructs of the grammar have their operands. Every word that stands in an
expression is found by the search, and what the search takes as bound there is bound by a binder.
-/

namespace Counterpart

/-- A pattern binds a name, at any depth. -/
inductive Binds (ident : Ident) : Tree → Prop
  | name {parts} (hname : Occurrence.boundName? parts = some ident) :
      Binds ident (.node (.pattern .binding) parts)
  | part {kind parts part} (hpart : part ∈ parts) (hbinds : Binds ident part) :
      Binds ident (.node (.pattern kind) parts)
  | grouped {delimiter opening closing content tree} (htree : tree ∈ content)
      (hbinds : Binds ident tree) : Binds ident (.group delimiter opening closing content)

/-- A pattern binds a name in a form that the search reads off: it is the name, or a type, a
reference or a tuple is around such a pattern. -/
inductive BindsDirectly (ident : Ident) : Tree → Prop
  | name {parts} (hname : Occurrence.boundName? parts = some ident) :
      BindsDirectly ident (.node (.pattern .binding) parts)
  | typed {parts part} (hpart : part ∈ parts) (hbinds : BindsDirectly ident part) :
      BindsDirectly ident (.node (.pattern .typed) parts)
  | reference {parts part} (hpart : part ∈ parts) (hbinds : BindsDirectly ident part) :
      BindsDirectly ident (.node (.pattern .reference) parts)
  | tuple {parts delimiter opening closing content tree}
      (hgroup : .group delimiter opening closing content ∈ parts) (htree : tree ∈ content)
      (hbinds : BindsDirectly ident tree) : BindsDirectly ident (.node (.pattern .tuple) parts)

theorem BindsDirectly.binds {ident : Ident} {tree : Tree} (h : BindsDirectly ident tree) :
    Binds ident tree := by
  induction h with
  | name hname => exact .name hname
  | typed hpart hbinds ih => exact .part hpart ih
  | reference hpart hbinds ih => exact .part hpart ih
  | tuple hgroup htree hbinds ih => exact .part hgroup (.grouped htree ih)

/-- The patterns that a part of a `let` statement is the target for. -/
def targetPatterns : Tree → List Tree
  | .node .target patterns => patterns
  | _ => []

/-- The patterns of the `let` statements among several statements. -/
def letPatterns (statements : List Tree) : List Tree :=
  statements.flatMap fun
    | .node .binding parts => parts.flatMap targetPatterns
    | _ => []

/-- Whether the parts of a construct have the scope of the construct itself. Patterns, types,
attributes, items, generic parameters and the arguments of macros hold no code of the
expression. -/
def Kind.holdsCode : Kind → Bool
  | .expression .closure => false
  | .expression _ | .path | .qualifiedPath | .segment | .statement | .phrase => true
  | _ => false

/-- A word stands in a tree as an expression of its own, in the scope of binders inside of the
tree. -/
inductive Stands (word : Located Ident) : (binders : List Tree) → Tree → Prop
  | path {parts part} (hpart : part ∈ parts) (hword : part.pathIdent? = some word) :
      Stands word [] (.node (.expression .path) parts)
  | operand {binders kind parts part} (hkind : kind.holdsCode = true) (hpart : part ∈ parts)
      (hstands : Stands word binders part) : Stands word binders (.node kind parts)
  | grouped {binders delimiter opening closing content tree} (htree : tree ∈ content)
      (hstands : Stands word binders tree) :
      Stands word binders (.group delimiter opening closing content)
  /-- The inputs of a closure are in scope in all of it. -/
  | closure {binders parts part} (hpart : part ∈ parts) (hstands : Stands word binders part) :
      Stands word (binders ++ parts) (.node (.expression .closure) parts)
  /-- In a block, the patterns of earlier `let` statements are in scope. -/
  | statement {binders parts delimiter opening closing earlier tree later}
      (hblock : .group delimiter opening closing (earlier ++ tree :: later) ∈ parts)
      (hstands : Stands word binders tree) :
      Stands word (binders ++ letPatterns earlier) (.node .block parts)
  /-- What a `let` statement binds is not in scope in its initializer, nor in its `else` branch. -/
  | initializer {binders parts delimiter opening closing earlier own later initial part}
      (hblock : .group delimiter opening closing (earlier ++ .node .binding own :: later) ∈ parts)
      (hinitial : .node .initializer initial ∈ own) (hpart : part ∈ initial)
      (hstands : Stands word binders part) :
      Stands word (binders ++ letPatterns earlier) (.node .block parts)

namespace Occurrence

/-! ## Names that patterns bind -/

/-- The names that are read off a pattern, off patterns in groups, and off several patterns, are
bound directly by them. -/
theorem bindsDirectly_of_mem (ident : Ident) :
    (∀ tree, ident ∈ bindings tree → BindsDirectly ident tree) ∧
      (∀ trees, ident ∈ bindingsInGroups trees →
        ∃ delimiter opening closing content, .group delimiter opening closing content ∈ trees ∧
          ∃ tree ∈ content, BindsDirectly ident tree) ∧
      ∀ trees, ident ∈ bindingsAll trees → ∃ tree ∈ trees, BindsDirectly ident tree := by
  refine bindings.mutual_induct (fun tree => ident ∈ bindings tree → BindsDirectly ident tree)
    (fun trees => ident ∈ bindingsInGroups trees →
      ∃ delimiter opening closing content, .group delimiter opening closing content ∈ trees ∧
        ∃ tree ∈ content, BindsDirectly ident tree)
    (fun trees => ident ∈ bindingsAll trees → ∃ tree ∈ trees, BindsDirectly ident tree)
    ?binding ?typed ?reference ?tuple ?other ?noGroups ?group ?noGroup ?nothing ?cons
  case binding =>
    intro parts h
    rw [bindings, Option.mem_toList] at h
    exact .name h
  case typed =>
    intro parts ih h
    rw [bindings] at h
    obtain ⟨part, hpart, hbinds⟩ := ih h
    exact .typed hpart hbinds
  case reference =>
    intro parts ih h
    rw [bindings] at h
    obtain ⟨part, hpart, hbinds⟩ := ih h
    exact .reference hpart hbinds
  case tuple =>
    intro parts ih h
    rw [bindings] at h
    obtain ⟨delimiter, opening, closing, content, hgroup, tree, htree, hbinds⟩ := ih h
    exact .tuple hgroup htree hbinds
  case other =>
    intro tree hbinding htyped hreference htuple h
    rw [bindings] at h
    · simp at h
    all_goals assumption
  case noGroups => simp [bindingsInGroups]
  case group =>
    intro delimiter opening closing content rest ihcontent ihrest h
    rw [bindingsInGroups, List.mem_append] at h
    rcases h with h | h
    · exact ⟨delimiter, opening, closing, content, List.mem_cons_self, ihcontent h⟩
    · obtain ⟨_, _, _, other, hother, hbinds⟩ := ihrest h
      exact ⟨_, _, _, other, List.mem_cons_of_mem _ hother, hbinds⟩
  case noGroup =>
    intro tree rest hnogroup ih h
    rw [bindingsInGroups] at h
    · obtain ⟨_, _, _, other, hother, hbinds⟩ := ih h
      exact ⟨_, _, _, other, List.mem_cons_of_mem _ hother, hbinds⟩
    · exact hnogroup
  case nothing => simp [bindingsAll]
  case cons =>
    intro tree rest ihtree ihrest h
    rw [bindingsAll, List.mem_append] at h
    rcases h with h | h
    · exact ⟨tree, List.mem_cons_self, ihtree h⟩
    · obtain ⟨other, hother, hbinds⟩ := ihrest h
      exact ⟨other, List.mem_cons_of_mem _ hother, hbinds⟩

/-- The names that are read off several patterns are bound by them. -/
theorem binds_of_mem_bindingsAll {ident : Ident} {trees : List Tree}
    (h : ident ∈ bindingsAll trees) : ∃ tree ∈ trees, Binds ident tree := by
  obtain ⟨tree, htree, hbinds⟩ := (bindsDirectly_of_mem ident).2.2 trees h
  exact ⟨tree, htree, hbinds.binds⟩

/-- The names that a `let` statement binds are bound by its patterns. -/
theorem binds_of_mem_targets {ident : Ident} {parts : List Tree} (h : ident ∈ targets parts) :
    ∃ pattern ∈ parts.flatMap targetPatterns, Binds ident pattern := by
  induction parts with
  | nil => simp [targets] at h
  | cons part rest ih =>
    have hrest (hmem : ident ∈ targets rest) :
        ∃ pattern ∈ (part :: rest).flatMap targetPatterns, Binds ident pattern := by
      obtain ⟨pattern, hpattern, hbinds⟩ := ih hmem
      exact ⟨pattern, List.mem_append_right _ hpattern, hbinds⟩
    unfold targets at h
    split at h
    · next htarget => cases htarget
    · next patterns others htarget =>
      cases htarget
      rcases List.mem_append.mp h with h | h
      · obtain ⟨pattern, hpattern, hbinds⟩ := binds_of_mem_bindingsAll h
        exact ⟨pattern, List.mem_append_left _ hpattern, hbinds⟩
      · exact hrest h
    · next others hother htarget =>
      cases htarget
      exact hrest h

/-! ## Words that the search comes to -/

/-- What is found in one of several trees is found in all of them together. -/
theorem mem_inTrees {bound : List Ident} {occurrence : Occurrence} {tree : Tree}
    {trees : List Tree} (htree : tree ∈ trees) (hinner : tree.isInnerAttribute = false)
    (h : occurrence ∈ inTree bound tree) : occurrence ∈ inTrees bound trees := by
  induction trees with
  | nil => cases htree
  | cons first rest ih =>
    rw [inTrees, List.mem_append]
    rcases List.mem_cons.mp htree with rfl | hrest
    · left
      rwa [hinner]
    · exact .inr (ih hrest)

/-- What is found in a part is found when it is the part's turn. -/
theorem mem_inTurn {bound : List Ident} {occurrence : Occurrence} {part : Tree}
    {parts : List Tree} (hpart : part ∈ parts) (h : occurrence ∈ inTree bound part) :
    occurrence ∈ inTurn bound (turn part) parts := by
  induction parts with
  | nil => cases hpart
  | cons first rest ih =>
    rw [inTurn, List.mem_append]
    rcases List.mem_cons.mp hpart with rfl | hrest
    · left
      rwa [if_pos rfl]
    · exact .inr (ih hrest)

/-- What is found in the statements of a block is found in the block. -/
theorem mem_inBlock {bound : List Ident} {occurrence : Occurrence} {delimiter : Delimiter}
    {opening closing : Option Region} {content parts : List Tree}
    (hblock : .group delimiter opening closing content ∈ parts)
    (h : occurrence ∈ inStatements bound content) : occurrence ∈ inBlock bound parts := by
  induction parts with
  | nil => cases hblock
  | cons first rest ih =>
    rcases List.mem_cons.mp hblock with rfl | hrest
    · rw [inBlock, List.mem_append]
      exact .inl h
    · unfold inBlock
      split
      · next hnil => cases hnil
      · next hcons =>
        cases hcons
        exact List.mem_append_right _ (ih hrest)
      · next hcons =>
        cases hcons
        exact ih hrest

/-- What is found in an initializer is found in the `let` statement. -/
theorem mem_inInitializer {bound : List Ident} {occurrence : Occurrence}
    {initial parts : List Tree} (hinitial : .node .initializer initial ∈ parts)
    (h : occurrence ∈ inTrees bound initial) : occurrence ∈ inInitializer bound parts := by
  induction parts with
  | nil => cases hinitial
  | cons first rest ih =>
    rcases List.mem_cons.mp hinitial with rfl | hrest
    · rw [inInitializer, List.mem_append]
      exact .inl h
    · unfold inInitializer
      split
      · next hnil => cases hnil
      · next hcons =>
        cases hcons
        exact List.mem_append_right _ (ih hrest)
      · next hcons =>
        cases hcons
        exact ih hrest

/-! ## What is bound where a word stands -/

/-- Inside of a construct, only names from outside and those of the binders are bound. -/
def Scoped (outer : List Ident) (binders : List Tree) (inner : List Ident) : Prop :=
  ∀ ident ∈ inner, ident ∈ outer ∨ ∃ binder ∈ binders, Binds ident binder

/-- The names of binders come before those from outside. -/
theorem Scoped.of_binders {names outer : List Ident} {binders : List Tree}
    (h : ∀ ident ∈ names, ∃ binder ∈ binders, Binds ident binder) :
    Scoped outer binders (names ++ outer) := by
  intro ident hident
  rcases List.mem_append.mp hident with hname | houter
  · exact .inr (h ident hname)
  · exact .inl houter

/-- The binders of nested constructs add up. -/
theorem Scoped.trans {outer middle inner : List Ident} {near far : List Tree}
    (hinner : Scoped middle near inner) (hmiddle : Scoped outer far middle) :
    Scoped outer (near ++ far) inner := by
  intro ident hident
  rcases hinner ident hident with hmem | ⟨binder, hbinder, hbinds⟩
  · rcases hmiddle ident hmem with houter | ⟨binder, hbinder, hbinds⟩
    · exact .inl houter
    · exact .inr ⟨binder, List.mem_append_right _ hbinder, hbinds⟩
  · exact .inr ⟨binder, List.mem_append_left _ hbinder, hbinds⟩

/-- Behind statements, the search goes on with the names that their `let` statements bind, and with
no others. -/
theorem exists_inStatements (bound : List Ident) (earlier : List Tree) :
    ∃ inner, Scoped bound (letPatterns earlier) inner ∧
      ∀ later occurrence, occurrence ∈ inStatements inner later →
        occurrence ∈ inStatements bound (earlier ++ later) := by
  induction earlier generalizing bound with
  | nil => exact ⟨bound, fun ident hident => .inl hident, fun later occurrence h => h⟩
  | cons first rest ih =>
    by_cases hbinding : ∃ parts, first = .node .binding parts
    · obtain ⟨parts, rfl⟩ := hbinding
      obtain ⟨inner, hinner, hfound⟩ := ih (targets parts ++ bound)
      have htargets : Scoped bound (parts.flatMap targetPatterns) (targets parts ++ bound) :=
        .of_binders fun ident => binds_of_mem_targets
      refine ⟨inner, ?_, fun later occurrence h => ?_⟩
      · intro ident hident
        rcases hinner.trans htargets ident hident with houter | ⟨binder, hbinder, hbinds⟩
        · exact .inl houter
        · exact .inr ⟨binder, (List.mem_append.mp hbinder).elim (List.mem_append_right _)
            (List.mem_append_left _), hbinds⟩
      · rw [List.cons_append, inStatements]
        exact List.mem_append_right _ (hfound later occurrence h)
    · obtain ⟨inner, hinner, hfound⟩ := ih bound
      refine ⟨inner, ?_, fun later occurrence h => ?_⟩
      · intro ident hident
        rcases hinner ident hident with houter | ⟨binder, hbinder, hbinds⟩
        · exact .inl houter
        · exact .inr ⟨binder, List.mem_append_right _ hbinder, hbinds⟩
      · rw [List.cons_append, inStatements]
        · exact List.mem_append_right _ (hfound later occurrence h)
        · exact fun parts hparts => hbinding ⟨parts, hparts⟩

/-- A tree that is looked at with the content around it, and is not a `let` statement. -/
structure IsContent (tree : Tree) : Prop where
  turn_eq : turn tree = .content
  not_inner : tree.isInnerAttribute = false
  not_binding : ∀ parts, tree ≠ .node .binding parts

/-- A tree in which a word stands is content. -/
theorem isContent_of_stands {word : Located Ident} {binders : List Tree} {tree : Tree}
    (h : Stands word binders tree) : IsContent tree := by
  cases h with
  | path hpart hword => exact ⟨rfl, rfl, nofun⟩
  | @operand binders kind parts part hkind hpart hstands =>
    cases kind <;> first | (cases hkind; done) | exact ⟨rfl, rfl, nofun⟩
  | grouped htree hstands => exact ⟨rfl, rfl, nofun⟩
  | closure hpart hstands => exact ⟨rfl, rfl, nofun⟩
  | statement hblock hstands => exact ⟨rfl, rfl, nofun⟩
  | initializer hblock hinitial hpart hstands => exact ⟨rfl, rfl, nofun⟩

/-- What is found in a part that holds code is found in a construct that holds code. -/
theorem mem_inTree_of_operand {bound : List Ident} {occurrence : Occurrence} {kind : Kind}
    {part : Tree} {parts : List Tree} (hkind : kind.holdsCode = true) (hpart : part ∈ parts)
    (hcontent : IsContent part)
    (h : occurrence ∈ inTree bound part) : occurrence ∈ inTree bound (.node kind parts) := by
  by_cases hpath : kind = .expression .path
  · subst hpath
    rw [inTree]
    exact List.mem_append_right _ (mem_inTrees hpart hcontent.not_inner h)
  · rw [inTree]
    · have hturn := mem_inTurn hpart h
      rw [hcontent.turn_eq] at hturn
      exact List.mem_append_right _ hturn
    all_goals
      rintro rfl
      first | exact hpath rfl | cases hkind

/-- A word that stands in a tree is found there, and what is taken as bound there is bound outside
or by one of the binders of the word. -/
theorem exists_mem_inTree {word : Located Ident} {binders : List Tree} {tree : Tree}
    (h : Stands word binders tree) (bound : List Ident) :
    ∃ inner, Scoped bound binders inner ∧
      within inner word.value word.region ∈ inTree bound tree := by
  induction h generalizing bound with
  | @path parts part hpart hword =>
    refine ⟨bound, fun ident hident => .inl hident, ?_⟩
    rw [inTree, ofPath]
    refine List.mem_append_left _ (List.mem_filterMap.mpr ⟨part, hpart, ?_⟩)
    rw [hword, Option.map_some]
  | operand hkind hpart hstands ih =>
    obtain ⟨inner, hinner, hfound⟩ := ih bound
    exact ⟨inner, hinner, mem_inTree_of_operand hkind hpart (isContent_of_stands hstands) hfound⟩
  | grouped htree hstands ih =>
    obtain ⟨inner, hinner, hfound⟩ := ih bound
    refine ⟨inner, hinner, ?_⟩
    rw [inTree]
    exact mem_inTrees htree (isContent_of_stands hstands).not_inner hfound
  | @closure binders parts part hpart hstands ih =>
    obtain ⟨inner, hinner, hfound⟩ := ih (bindingsAll parts ++ bound)
    refine ⟨inner, hinner.trans (.of_binders fun ident => binds_of_mem_bindingsAll), ?_⟩
    rw [inTree]
    exact mem_inTrees hpart (isContent_of_stands hstands).not_inner hfound
  | @statement binders parts delimiter opening closing earlier tree later hblock hstands ih =>
    obtain ⟨middle, hmiddle, hlater⟩ := exists_inStatements bound earlier
    obtain ⟨inner, hinner, hfound⟩ := ih middle
    refine ⟨inner, hinner.trans hmiddle, ?_⟩
    rw [inTree]
    refine mem_inBlock hblock (hlater _ _ ?_)
    rw [inStatements]
    · rw [(isContent_of_stands hstands).not_inner]
      exact List.mem_append_left _ hfound
    · exact (isContent_of_stands hstands).not_binding
  | @initializer binders parts delimiter opening closing earlier own later initial part hblock
      hinitial hpart hstands ih =>
    obtain ⟨middle, hmiddle, hlater⟩ := exists_inStatements bound earlier
    obtain ⟨inner, hinner, hfound⟩ := ih middle
    refine ⟨inner, hinner.trans hmiddle, ?_⟩
    rw [inTree]
    refine mem_inBlock hblock (hlater _ _ ?_)
    rw [inStatements]
    exact List.mem_append_left _ (mem_inInitializer hinitial
      (mem_inTrees hpart (isContent_of_stands hstands).not_inner hfound))

/-- A word that stands in an expression is found in it, and is not taken as bound if none of its
binders binds it. -/
theorem exists_mem_ofExpression {word : Located Ident} {binders : List Tree} {expression : Tree}
    (h : Stands word binders expression) :
    ∃ occurrence ∈ ofExpression expression,
      occurrence.ident = word.value ∧ occurrence.region = word.region ∧
        ((∀ binder ∈ binders, ¬ Binds word.value binder) → occurrence.isBound = false) := by
  obtain ⟨inner, hinner, hfound⟩ := exists_mem_inTree h []
  refine ⟨_, hfound, rfl, rfl, fun hunbound => ?_⟩
  have hfree : word.value ∉ inner := by
    intro hmem
    rcases hinner word.value hmem with houter | ⟨binder, hbinder, hbinds⟩
    · exact List.not_mem_nil houter
    · exact hunbound binder hbinder hbinds
  simpa [within] using hfree

end Occurrence

namespace Parameter

variable {parameters : List Parameter} {current : Parameter} {fallback : Tree}
variable {word : Located Ident} {binders : List Tree}

/-- What is wrong with an occurrence in a default is reported. -/
theorem mem_referenceDiagnostics {occurrence : Occurrence} {diagnostic : Diagnostic}
    (hcurrent : current ∈ parameters) (hfallback : current.fallback = some fallback)
    (hoccurrence : occurrence ∈ Occurrence.ofExpression fallback)
    (hjudge : judge parameters current occurrence = some diagnostic) :
    diagnostic ∈ referenceDiagnostics parameters := by
  refine List.mem_flatMap.mpr ⟨current, hcurrent, ?_⟩
  rw [referenceDiagnosticsOf, hfallback]
  exact List.mem_filterMap.mpr ⟨occurrence, hoccurrence, hjudge⟩

/-- Among parameters of distinct names, a word that is not bound is judged by the places of the
parameters. -/
theorem judge_of_unbound (hnames : (parameters.map (·.name.value)).Nodup) (current : Parameter)
    {referenced : Parameter} (hreferenced : referenced ∈ parameters)
    {occurrence : Occurrence} (hname : referenced.name.value = occurrence.ident)
    (hself : occurrence.ident.isWord "self" = false) (hbound : occurrence.isBound = false) :
    judge parameters current occurrence =
      if referenced.index = current.index then
        some ⟨.refersToItself current.name.value.text, occurrence.region⟩
      else if current.index < referenced.index then
        some ⟨.refersAhead current.name.value.text occurrence.ident.text, occurrence.region⟩
      else none := by
  have hfind : (parameters.find? fun parameter => parameter.name.value = occurrence.ident) =
      some referenced := by
    rw [← hname]
    exact find?_of_unique_key hnames hreferenced
  rw [judge, hself, hbound, hfind]
  rfl

/-- No bad reference is missed. A `self` that stands in the default of a parameter is reported
wherever it stands. Any other word that names the parameter itself or a later one is reported unless
a binder in whose scope it stands binds it. A word names a parameter, and a binder binds a word, if
the two are spelled alike, down to the mark of raw words: `r#a` does not name the parameter `a`. -/
theorem referenceDiagnostics_of_stands (hnames : (parameters.map (·.name.value)).Nodup)
    (hcurrent : current ∈ parameters) (hfallback : current.fallback = some fallback)
    (hstands : Stands word binders fallback) :
    (word.value.isWord "self" = true →
      ⟨.refersToReceiver, word.region⟩ ∈ referenceDiagnostics parameters) ∧
    ∀ referenced ∈ parameters, referenced.name.value = word.value →
      word.value.isWord "self" = false → (∀ binder ∈ binders, ¬ Binds word.value binder) →
        (referenced.index = current.index →
          ⟨.refersToItself current.name.value.text, word.region⟩
            ∈ referenceDiagnostics parameters) ∧
        (current.index < referenced.index →
          ⟨.refersAhead current.name.value.text word.value.text, word.region⟩
            ∈ referenceDiagnostics parameters) := by
  obtain ⟨occurrence, hfound, hident, hregion, hfree⟩ :=
    Occurrence.exists_mem_ofExpression hstands
  rw [← hident, ← hregion]
  refine ⟨fun hself => ?_, fun referenced hreferenced hname hself hunbound => ?_⟩
  · refine mem_referenceDiagnostics hcurrent hfallback hfound ?_
    rw [judge]
    exact if_pos hself
  · have hjudge :=
      judge_of_unbound hnames current hreferenced hname hself (hfree (hident ▸ hunbound))
    refine ⟨fun hsame => ?_, fun hahead => ?_⟩
    · rw [if_pos hsame] at hjudge
      exact mem_referenceDiagnostics hcurrent hfallback hfound hjudge
    · rw [if_neg (by omega), if_pos hahead] at hjudge
      exact mem_referenceDiagnostics hcurrent hfallback hfound hjudge

end Parameter

namespace Sample

/-- A word as an expression of its own. -/
def wordExpression (word : Located Ident) : Tree :=
  .node (.expression .path) [Tree.pathOfName word]

/-- A pattern that binds a name. -/
def namePattern (name : String) : Tree := .node (.pattern .binding) [Tree.word name]

/-- A closure that answers its input. -/
def shadowingClosure : Tree :=
  .node (.expression .closure) (Tree.operator "|" ++ namePattern "value" :: Tree.operator "|"
    ++ [wordExpression (.generated (.plain "value"))])

/-- A `let` statement that binds a name to a word. -/
def shadowingBinding (initial : Located Ident) : Tree :=
  .node .binding [Tree.word "let", .node .target [namePattern "value"],
    .node .initializer (Tree.operator "=" ++ [wordExpression initial]),
    .leaf (.punct ';' false none)]

/-- The closure and a block of two statements, a `let` statement and a word. -/
def shadowing (initial last : Located Ident) : Tree :=
  .node (.expression .tuple) [Tree.generatedGroup .parenthesis
    [shadowingClosure, .leaf (.punct ',' false none),
      .node (.expression .block) [.node .block [Tree.generatedGroup .brace
        [shadowingBinding initial, .node .statement [wordExpression last]]]]]]

/-- Two parameters, the first of which has the sample expression as its default. -/
def shadowingParameters (initial last : Located Ident) : List Parameter :=
  [chainParameter 0 "first" (some (shadowing initial last)), chainParameter 1 "value" none]

/-- The word in the `let` statement is not in the scope of any binder. -/
theorem stands_initial (initial last : Located Ident) :
    Stands initial [] (shadowing initial last) := by
  have hword : Stands initial [] (wordExpression initial) := .path List.mem_cons_self rfl
  have hblock : Tree.generatedGroup .brace
      ([] ++ shadowingBinding initial :: [.node .statement [wordExpression last]]) ∈
        [Tree.generatedGroup .brace
          [shadowingBinding initial, .node .statement [wordExpression last]]] := List.mem_cons_self
  have hinitial := Stands.initializer hblock
    (List.mem_cons_of_mem _ (List.mem_cons_of_mem _ List.mem_cons_self))
    (List.mem_append_right _ List.mem_cons_self) hword
  exact .operand rfl List.mem_cons_self (.grouped (List.mem_cons_of_mem _
    (List.mem_cons_of_mem _ List.mem_cons_self)) (.operand rfl List.mem_cons_self hinitial))

/-- The last word stands behind the `let` statement. -/
theorem stands_last (initial last : Located Ident) :
    Stands last [namePattern "value"] (shadowing initial last) := by
  have hword : Stands last [] (.node .statement [wordExpression last]) :=
    .operand rfl List.mem_cons_self (.path List.mem_cons_self rfl)
  have hblock : Tree.generatedGroup .brace
      ([shadowingBinding initial] ++ .node .statement [wordExpression last] :: []) ∈
        [Tree.generatedGroup .brace
          [shadowingBinding initial, .node .statement [wordExpression last]]] := List.mem_cons_self
  have hlast := Stands.statement hblock hword
  exact .operand rfl List.mem_cons_self (.grouped (List.mem_cons_of_mem _
    (List.mem_cons_of_mem _ List.mem_cons_self)) (.operand rfl List.mem_cons_self hlast))

end Sample

/-- A word in an initializer is not bound by its own `let` statement nor by a closure beside it, and
`self` is reported behind the statement. -/
theorem referenceDiagnostics_shadowing :
    let place : Option Region := some ⟨⟨1, 30⟩, ⟨1, 35⟩⟩
    let parameters := Sample.shadowingParameters ⟨.plain "value", place⟩ ⟨.plain "self", none⟩
    ⟨.refersAhead "first" "value", place⟩ ∈ Parameter.referenceDiagnostics parameters ∧
      ⟨.refersToReceiver, none⟩ ∈ Parameter.referenceDiagnostics parameters := by
  intro place parameters
  have hnames : (parameters.map (·.name.value)).Nodup := by decide
  have hinitial := Parameter.referenceDiagnostics_of_stands hnames List.mem_cons_self rfl
    (Sample.stands_initial ⟨.plain "value", place⟩ ⟨.plain "self", none⟩)
  have hlast := Parameter.referenceDiagnostics_of_stands hnames List.mem_cons_self rfl
    (Sample.stands_last ⟨.plain "value", place⟩ ⟨.plain "self", none⟩)
  refine ⟨?_, hlast.1 rfl⟩
  exact (hinitial.2 _ (List.mem_cons_of_mem _ List.mem_cons_self) rfl rfl nofun).2 (by decide)

/-- Behind the `let` statement, the name is bound. -/
example : Parameter.referenceDiagnostics (Sample.shadowingParameters (.generated (.plain "other"))
    (.generated (.plain "value"))) = [] := by decide +kernel

end Counterpart
