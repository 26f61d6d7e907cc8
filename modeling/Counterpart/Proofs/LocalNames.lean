import Counterpart.Proofs.Rejection
import Counterpart.Proofs.Scope

/-!
# Names that a default binds itself

An expression with a gap in it says where a word may stand in a default, and which closures and
`let` statements are around it. However the gap is filled, the errors about the rest of the default
are the same, and those about the filling are the ones that it has as a default of its own, less
those about words that a binder around the gap binds directly. Only closures and `let` statements
are binders, and only names, typed patterns, references and tuples bind directly: a name that is
bound in another way is taken for a parameter.
-/

namespace Counterpart

/-! ## Patterns -/

namespace Occurrence

theorem bindingsAll_eq_flatMap (trees : List Tree) :
    bindingsAll trees = trees.flatMap bindings := by
  induction trees with
  | nil => rfl
  | cons tree rest ih => rw [bindingsAll, ih, List.flatMap_cons]

/-- The names in one of several groups are among those in all of them. -/
theorem mem_bindingsInGroups {ident : Ident} {delimiter : Delimiter}
    {opening closing : Option Region} {content parts : List Tree}
    (hgroup : .group delimiter opening closing content ∈ parts) (h : ident ∈ bindingsAll content) :
    ident ∈ bindingsInGroups parts := by
  induction parts with
  | nil => cases hgroup
  | cons first rest ih =>
    rcases List.mem_cons.mp hgroup with rfl | hrest
    · rw [bindingsInGroups]
      exact List.mem_append_left _ h
    · cases first with
      | group => exact List.mem_append_right _ (ih hrest)
      | leaf => exact ih hrest
      | node => exact ih hrest

/-- The names that are read off a pattern are those that it binds directly. -/
theorem mem_bindings_iff {ident : Ident} {tree : Tree} :
    ident ∈ bindings tree ↔ BindsDirectly ident tree := by
  refine ⟨(bindsDirectly_of_mem ident).1 tree, fun h => ?_⟩
  induction h with
  | name hname =>
    rw [bindings, Option.mem_toList]
    exact hname
  | typed hpart hbinds ih =>
    rw [bindings, bindingsAll_eq_flatMap]
    exact List.mem_flatMap_of_mem hpart ih
  | reference hpart hbinds ih =>
    rw [bindings, bindingsAll_eq_flatMap]
    exact List.mem_flatMap_of_mem hpart ih
  | tuple hgroup htree hbinds ih =>
    rw [bindings]
    refine mem_bindingsInGroups hgroup ?_
    rw [bindingsAll_eq_flatMap]
    exact List.mem_flatMap_of_mem htree ih

theorem mem_bindingsAll_iff {ident : Ident} {trees : List Tree} :
    ident ∈ bindingsAll trees ↔ ∃ tree ∈ trees, BindsDirectly ident tree := by
  simp only [bindingsAll_eq_flatMap, List.mem_flatMap, mem_bindings_iff]

end Occurrence

instance (ident : Ident) (tree : Tree) : Decidable (BindsDirectly ident tree) :=
  decidable_of_iff _ Occurrence.mem_bindings_iff

/-! ## Names from outside -/

namespace Occurrence

/-- An occurrence in the scope of further names. -/
def enclosed (outer : List Ident) (occurrence : Occurrence) : Occurrence :=
  { occurrence with isBound := occurrence.isBound || outer.contains occurrence.ident }

variable {outer : List Ident}

theorem within_append (bound : List Ident) (ident : Ident) (region : Option Region) :
    within (bound ++ outer) ident region = (within bound ident region).enclosed outer := by
  simp [within, enclosed]

theorem inTokens_append (bound : List Ident) :
    ∀ (named : List Ident) (before : Option Char) (isName : Bool) (tokens : List TokenTree),
      inTokens (bound ++ outer) named before isName tokens =
        (inTokens bound named before isName tokens).map (enclosed outer) := by
  refine inTokens.induct bound (fun named before isName tokens =>
    inTokens (bound ++ outer) named before isName tokens =
      (inTokens bound named before isName tokens).map (enclosed outer))
    ?nothing ?word ?punct ?literal ?group
  case nothing =>
    intro named before isName
    rw [inTokens, inTokens, List.map_nil]
  case word =>
    intro named before isName ident region rest ih
    rw [inTokens, inTokens, List.map_append, ih, within_append, apply_ite (List.map _)]
    rfl
  case punct =>
    intro named before isName character joint region rest ih
    rw [inTokens, inTokens]
    exact ih
  case literal =>
    intro named before isName text region rest ih
    rw [inTokens, inTokens, List.map_append, ih, List.map_map]
    congr 1
    exact List.map_congr_left fun ident _ => within_append bound ident region
  case group =>
    intro named before isName delimiter opening closing content rest ihcontent ihrest
    rw [inTokens, inTokens, List.map_append, ihcontent, ihrest]

theorem inArguments_append (bound : List Ident) (parts : List Tree) :
    inArguments (bound ++ outer) parts = (inArguments bound parts).map (enclosed outer) := by
  fun_induction inArguments bound parts with
  | case1 => rfl
  | case2 delimiter opening closing content rest ih =>
    rw [inArguments, List.map_append, ih, inTokens_append]
  | case3 part rest hpart ih =>
    rw [inArguments, ih]
    exact hpart

theorem ofPath_append (bound : List Ident) (parts : List Tree) :
    ofPath (bound ++ outer) parts = (ofPath bound parts).map (enclosed outer) := by
  rw [ofPath, ofPath, List.map_filterMap]
  congr 1
  funext part
  rw [Option.map_map]
  congr 1
  funext ident
  exact within_append bound ident.value ident.region

/-- The order in the source is the same. -/
theorem inSourceOrder_map (change : Occurrence → Occurrence)
    (parameters : List (Nat × List Occurrence)) :
    inSourceOrder (parameters.map (Prod.map id (List.map change))) =
      (inSourceOrder parameters).map change := by
  have hsort : (parameters.map (Prod.map id (List.map change))).mergeSort
        (fun first second => first.1 ≤ second.1) =
      (parameters.mergeSort fun first second => first.1 ≤ second.1).map
        (Prod.map id (List.map change)) :=
    (List.map_mergeSort (f := Prod.map id (List.map change)) fun _ _ _ _ => rfl).symm
  rw [inSourceOrder, hsort, List.flatMap_map, inSourceOrder, List.map_flatMap]
  rfl

/-- Names from outside bind further words of a tree, and do nothing else. Whether a word is bound
inside of the tree is found out before them, by one case for each construct. -/
theorem inTree_append (bound : List Ident) (tree : Tree) :
    inTree (bound ++ outer) tree = (inTree bound tree).map (enclosed outer) := by
  refine (inTree.mutual_induct
    (fun bound tree => inTree (bound ++ outer) tree = (inTree bound tree).map (enclosed outer))
    (fun bound parts =>
      inBodyAttributes (bound ++ outer) parts =
        (inBodyAttributes bound parts).map (enclosed outer))
    (fun bound trees => inInner (bound ++ outer) trees = (inInner bound trees).map (enclosed outer))
    (fun bound wanted parts =>
      inTurn (bound ++ outer) wanted parts = (inTurn bound wanted parts).map (enclosed outer))
    (fun bound parts =>
      inParameters (bound ++ outer) parts =
        (inParameters bound parts).map (Prod.map id (List.map (enclosed outer))))
    (fun bound parts => inBlock (bound ++ outer) parts = (inBlock bound parts).map (enclosed outer))
    (fun bound trees =>
      inStatements (bound ++ outer) trees = (inStatements bound trees).map (enclosed outer))
    (fun bound parts =>
      inInitializer (bound ++ outer) parts = (inInitializer bound parts).map (enclosed outer))
    (fun bound trees => inTrees (bound ++ outer) trees = (inTrees bound trees).map (enclosed outer))
    ?leaf ?group ?path ?closure ?block ?call ?parameters ?other
    ?noBody ?groupBody ?blockBody ?otherBody ?noInner ?inner ?noTurn ?turn
    ?noParameters ?parameter ?otherParameter ?noBlock ?statements ?otherBlock
    ?noStatements ?binding ?statement ?noInitializer ?initializer ?otherInitializer
    ?noTrees ?trees).1 bound tree
  case leaf => intros; rw [inTree, inTree, List.map_nil]
  case group =>
    intro bound delimiter opening closing content ih
    rw [inTree, inTree, ih]
  case path =>
    intro bound parts ih
    rw [inTree, inTree, List.map_append, ofPath_append, ih]
  case closure =>
    intro bound parts ih
    rw [inTree, inTree, ← ih, List.append_assoc]
  case block =>
    intro bound parts ih
    rw [inTree, inTree, ih]
  case call =>
    intro bound parts
    rw [inTree, inTree, inArguments_append]
  case parameters =>
    intro bound parts ih
    rw [inTree, inTree, ih, inSourceOrder_map]
  case other =>
    intro bound kind parts hpath hclosure hblock hcall hparameters hattributes hbody hgenerics
      hcontent
    rw [inTree, inTree, hattributes, hbody, hgenerics, hcontent]
    · simp only [List.map_append]
    all_goals assumption
  case noBody => intros; rw [inBodyAttributes, inBodyAttributes, List.map_nil]
  case groupBody =>
    intro bound delimiter opening closing content rest ihcontent ihrest
    rw [inBodyAttributes, inBodyAttributes, ihcontent, ihrest, List.map_append]
  case blockBody =>
    intro bound parts rest ihparts ihrest
    rw [inBodyAttributes, inBodyAttributes, ihparts, ihrest, List.map_append]
  case otherBody =>
    intro bound tree rest hgroup hblock ih
    rw [inBodyAttributes, inBodyAttributes, ih]
    all_goals assumption
  case noInner => intros; rw [inInner, inInner, List.map_nil]
  case inner =>
    intro bound tree rest ihtree ihrest
    rw [inInner, inInner, ihtree, ihrest, List.map_append, apply_ite (List.map _), List.map_nil]
  case noTurn => intros; rw [inTurn, inTurn, List.map_nil]
  case turn =>
    intro bound wanted tree rest ihtree ihrest
    rw [inTurn, inTurn, ihtree, ihrest, List.map_append, apply_ite (List.map _), List.map_nil]
  case noParameters => intros; rw [inParameters, inParameters, List.map_nil]
  case parameter =>
    intro bound place parts rest hattributes hcontent ih
    rw [inParameters, inParameters, hattributes, hcontent, ih, ← List.map_append]
    rfl
  case otherParameter =>
    intro bound tree rest hparameter ih
    rw [inParameters, inParameters, ih]
    all_goals assumption
  case noBlock => intros; rw [inBlock, inBlock, List.map_nil]
  case statements =>
    intro bound delimiter opening closing content rest ihcontent ihrest
    rw [inBlock, inBlock, ihcontent, ihrest, List.map_append]
  case otherBlock =>
    intro bound tree rest hgroup ih
    rw [inBlock, inBlock, ih]
    all_goals assumption
  case noStatements => intros; rw [inStatements, inStatements, List.map_nil]
  case binding =>
    intro bound parts rest ihparts ihrest
    rw [inStatements, inStatements, ihparts, List.map_append, ← ihrest, List.append_assoc]
  case statement =>
    intro bound tree rest hbinding ihtree ihrest
    rw [inStatements, inStatements, ihtree, ihrest, List.map_append, apply_ite (List.map _),
      List.map_nil]
    all_goals assumption
  case noInitializer => intros; rw [inInitializer, inInitializer, List.map_nil]
  case initializer =>
    intro bound parts rest ihparts ihrest
    rw [inInitializer, inInitializer, ihparts, ihrest, List.map_append]
  case otherInitializer =>
    intro bound tree rest hinitializer ih
    rw [inInitializer, inInitializer, ih]
    all_goals assumption
  case noTrees => intros; rw [inTrees, inTrees, List.map_nil]
  case trees =>
    intro bound tree rest ihtree ihrest
    rw [inTrees, inTrees, ihtree, ihrest, List.map_append, apply_ite (List.map _), List.map_nil]

end Occurrence

/-! ## Gaps -/

/-- The trees on both sides of a place among others. -/
structure Siblings where
  left : List Tree
  right : List Tree

/-- The trees with the place taken. -/
def Siblings.around (siblings : Siblings) (tree : Tree) : List Tree :=
  siblings.left ++ tree :: siblings.right

/-- Whether the parts of a construct have the scope of the construct itself, and are looked at as
its content. An item is among them, with its parameters and its body. -/
def Kind.isPlain : Kind → Bool
  | .expression .closure | .pattern _ | .attribute | .parameters | .whereClause | .macroCall
  | .block | .binding => false
  | _ => true

/-- An expression with a gap in it, which is not in a pattern, an attribute or generic
parameters. -/
inductive Gap where
  | here
  | part (kind : Kind) (hkind : kind.isPlain = true) (siblings : Siblings) (inner : Gap)
  | grouped (delimiter : Delimiter) (opening closing : Option Region) (siblings : Siblings)
      (inner : Gap)
  | closure (siblings : Siblings) (inner : Gap)
  /-- The gap is in a statement of a block. -/
  | statement (beside : Siblings) (delimiter : Delimiter) (opening closing : Option Region)
      (statements : Siblings) (inner : Gap)
  /-- The gap is in what a `let` statement of a block binds, or in its `else` branch. -/
  | initializer (beside : Siblings) (delimiter : Delimiter) (opening closing : Option Region)
      (statements own siblings : Siblings) (inner : Gap)

namespace Gap

/-- Put a tree into the gap. -/
def fill (tree : Tree) : Gap → Tree
  | here => tree
  | part kind _ siblings inner => .node kind (siblings.around (inner.fill tree))
  | grouped delimiter opening closing siblings inner =>
    .group delimiter opening closing (siblings.around (inner.fill tree))
  | closure siblings inner => .node (.expression .closure) (siblings.around (inner.fill tree))
  | statement beside delimiter opening closing statements inner =>
    .node .block (beside.around
      (.group delimiter opening closing (statements.around (inner.fill tree))))
  | initializer beside delimiter opening closing statements own siblings inner =>
    .node .block (beside.around (.group delimiter opening closing
      (statements.around (.node .binding (own.around
        (.node .initializer (siblings.around (inner.fill tree))))))))

/-- The closure inputs and the patterns of `let` statements in whose scope the gap is. -/
def binders : Gap → List Tree
  | here => []
  | part _ _ _ inner | grouped _ _ _ _ inner => inner.binders
  | closure siblings inner => inner.binders ++ (siblings.left ++ siblings.right)
  | statement _ _ _ _ statements inner | initializer _ _ _ _ statements _ _ inner =>
    inner.binders ++ letPatterns statements.left

end Gap

namespace Occurrence

/-- The names that the `let` statements among several statements bind. -/
def letNames : List Tree → List Ident
  | [] => []
  | .node .binding parts :: rest => letNames rest ++ targets parts
  | _ :: rest => letNames rest

theorem targets_eq_bindingsAll (parts : List Tree) :
    targets parts = bindingsAll (parts.flatMap targetPatterns) := by
  induction parts with
  | nil => rfl
  | cons part rest ih =>
    rw [List.flatMap_cons, bindingsAll_eq_flatMap, List.flatMap_append, ← bindingsAll_eq_flatMap,
      ← bindingsAll_eq_flatMap, ← ih]
    fun_cases targetPatterns part with
    | case1 patterns => rw [targets]
    | case2 part hother =>
      rw [targets]
      · rfl
      · exact hother

end Occurrence

/-- The names that are bound directly where the gap is. -/
def Gap.names : Gap → List Ident
  | here => []
  | part _ _ _ inner | grouped _ _ _ _ inner => inner.names
  | closure siblings inner =>
    inner.names ++ Occurrence.bindingsAll (siblings.left ++ siblings.right)
  | statement _ _ _ _ statements inner | initializer _ _ _ _ statements _ _ inner =>
    inner.names ++ Occurrence.letNames statements.left

namespace Occurrence

theorem mem_letNames_iff {ident : Ident} {statements : List Tree} :
    ident ∈ letNames statements ↔
      ∃ pattern ∈ letPatterns statements, BindsDirectly ident pattern := by
  induction statements with
  | nil => simp [letNames, letPatterns]
  | cons first rest ih =>
    simp only [letPatterns, List.flatMap_cons, List.mem_append, or_and_right, exists_or] at ih ⊢
    rw [← ih]
    by_cases hbinding : ∃ parts, first = .node .binding parts
    · obtain ⟨parts, rfl⟩ := hbinding
      rw [letNames, List.mem_append, targets_eq_bindingsAll, mem_bindingsAll_iff]
      exact or_comm
    · rw [letNames]
      · split
        · exact absurd ⟨_, rfl⟩ hbinding
        · simp
      · exact fun parts hparts => hbinding ⟨parts, hparts⟩

end Occurrence

/-- The names that are bound directly in the gap are those that its binders bind directly. -/
theorem Gap.mem_names_iff {ident : Ident} (gap : Gap) :
    ident ∈ gap.names ↔ ∃ binder ∈ gap.binders, BindsDirectly ident binder := by
  induction gap with
  | here => simp [names, binders]
  | part kind hkind siblings inner ih => exact ih
  | grouped delimiter opening closing siblings inner ih => exact ih
  | closure siblings inner ih =>
    rw [names, List.mem_append, ih, Occurrence.mem_bindingsAll_iff]
    simp only [binders, List.mem_append, or_and_right, exists_or]
  | statement beside delimiter opening closing statements inner ih =>
    rw [names, List.mem_append, ih, Occurrence.mem_letNames_iff]
    simp only [binders, List.mem_append, or_and_right, exists_or]
  | initializer beside delimiter opening closing statements own siblings inner ih =>
    rw [names, List.mem_append, ih, Occurrence.mem_letNames_iff]
    simp only [binders, List.mem_append, or_and_right, exists_or]

/-! ## The search through a gap -/

/-- The only tree is the one that takes the place. -/
theorem Siblings.eq_of_around {siblings : Siblings} {tree other : Tree}
    (h : siblings.around tree = [other]) : tree = other := by
  have hmem : tree ∈ siblings.around tree := List.mem_append_right _ List.mem_cons_self
  rw [h] at hmem
  exact List.mem_singleton.mp hmem

namespace Gap

variable (gap : Gap) (kind : ExpressionKind) (parts : List Tree)

/-- An expression with another one in its gap is content of what is around it. -/
theorem isContent_fill : Occurrence.IsContent (gap.fill (.node (.expression kind) parts)) := by
  cases gap with
  | part plain hplain siblings inner =>
    cases plain <;> first | (cases hplain; done) | exact ⟨rfl, rfl, nofun⟩
  | _ => exact ⟨rfl, rfl, nofun⟩

/-- It binds nothing for what is around it. -/
theorem bindings_fill : Occurrence.bindings (gap.fill (.node (.expression kind) parts)) = [] := by
  cases gap with
  | part plain hplain siblings inner => cases plain <;> first | (cases hplain; done) | rfl
  | _ => rfl

theorem fill_ne_leaf (token : TokenTree) :
    gap.fill (.node (.expression kind) parts) ≠ .leaf token := by
  cases gap <;> nofun

/-- It is not a single word for what is around it. -/
theorem pathIdent?_fill : (gap.fill (.node (.expression kind) parts)).pathIdent? = none := by
  unfold Tree.pathIdent?
  split
  · next ident region hpath =>
    exfalso
    cases gap with
    | part plain hplain siblings inner =>
      have hsegment := Siblings.eq_of_around (Tree.node.inj hpath).2
      cases inner with
      | part plain hplain siblings inner =>
        exact inner.fill_ne_leaf kind parts _ (Siblings.eq_of_around (Tree.node.inj hsegment).2)
      | _ => cases hsegment
    | _ => cases hpath
  · rfl

end Gap

namespace Occurrence

/-! ### Walks -/

/-- The trees of a list are looked at one after the other, each by itself. -/
def IsWalk (found : List Tree → List Occurrence) : Prop :=
  ∀ first second, found (first ++ second) = found first ++ found second

theorem IsWalk.of_cons {found : List Tree → List Occurrence} (hnil : found [] = [])
    (hcons : ∀ tree rest, found (tree :: rest) = found [tree] ++ found rest) : IsWalk found := by
  intro first second
  induction first with
  | nil => rw [hnil, List.nil_append, List.nil_append]
  | cons tree rest ih =>
    rw [List.cons_append, hcons, ih, hcons tree rest, List.append_assoc]

theorem IsWalk.around {found : List Tree → List Occurrence} (h : IsWalk found)
    (siblings : Siblings) (tree : Tree) :
    found (siblings.around tree) = found siblings.left ++ found [tree] ++ found siblings.right := by
  rw [Siblings.around, h, ← List.singleton_append, h, List.append_assoc]

variable (bound : List Ident)

theorem isWalk_inTrees : IsWalk (inTrees bound) :=
  .of_cons rfl fun tree rest => by simp [inTrees]

theorem isWalk_inInner : IsWalk (inInner bound) :=
  .of_cons rfl fun tree rest => by simp [inInner]

theorem isWalk_inTurn (wanted : Turn) : IsWalk (inTurn bound wanted) :=
  .of_cons rfl fun tree rest => by simp [inTurn]

theorem isWalk_inBlock : IsWalk (inBlock bound) :=
  .of_cons rfl fun tree rest => by cases tree <;> simp [inBlock]

theorem isWalk_inInitializer : IsWalk (inInitializer bound) :=
  .of_cons rfl fun tree rest => by
    rcases tree with _ | _ | ⟨kind, parts⟩ <;> try simp [inInitializer]
    cases kind <;> simp [inInitializer]

theorem isWalk_inBodyAttributes : IsWalk (inBodyAttributes bound) :=
  .of_cons rfl fun tree rest => by
    rcases tree with _ | _ | ⟨kind, parts⟩ <;> try simp [inBodyAttributes]
    cases kind <;> simp [inBodyAttributes]

/-- Behind statements, the names of their `let` statements are bound. -/
theorem inStatements_append (bound : List Ident) (earlier later : List Tree) :
    inStatements bound (earlier ++ later) =
      inStatements bound earlier ++ inStatements (letNames earlier ++ bound) later := by
  induction earlier generalizing bound with
  | nil => rfl
  | cons first rest ih =>
    rw [List.cons_append]
    by_cases hbinding : ∃ parts, first = .node .binding parts
    · obtain ⟨parts, rfl⟩ := hbinding
      simp only [inStatements, ih, letNames, List.append_assoc]
    · have hnot : ∀ parts, first ≠ .node .binding parts := fun parts h => hbinding ⟨parts, h⟩
      rw [inStatements, ih, inStatements, letNames, List.append_assoc] <;> exact hnot

/-! ### Through one construct -/

/-- What is found is what is found in an expression in the scope of the given names, between what is
found around it. That is the same for all expressions. -/
def Encloses (names : List Ident) (found : Tree → List Occurrence) : Prop :=
  ∃ before after, ∀ kind parts, found (.node (.expression kind) parts) =
    before ++ inTree names (.node (.expression kind) parts) ++ after

variable {bound names : List Ident} {found further : Tree → List Occurrence}
variable {content : Tree → List Tree}

/-- More is found around what was found. -/
theorem Encloses.between (h : Encloses names found) (before after : List Occurrence)
    (hbetween : ∀ kind parts, further (.node (.expression kind) parts) =
      before ++ found (.node (.expression kind) parts) ++ after) : Encloses names further := by
  obtain ⟨left, right, hfound⟩ := h
  refine ⟨before ++ left, right ++ after, fun kind parts => ?_⟩
  rw [hbetween, hfound]
  simp only [List.append_assoc]

theorem Encloses.inTrees {gap : Gap} (siblings : Siblings)
    (h : Encloses names fun tree => inTree bound (gap.fill tree)) :
    Encloses names fun tree => inTrees bound (siblings.around (gap.fill tree)) := by
  refine h.between (Occurrence.inTrees bound siblings.left)
    (Occurrence.inTrees bound siblings.right) fun kind parts => ?_
  have hinner := (gap.isContent_fill kind parts).not_inner
  rw [(isWalk_inTrees bound).around]
  simp [Occurrence.inTrees, hinner]

theorem Encloses.inStatements {gap : Gap} (statements : Siblings)
    (h : Encloses names fun tree => inTree (letNames statements.left ++ bound) (gap.fill tree)) :
    Encloses names fun tree => inStatements bound (statements.around (gap.fill tree)) := by
  refine h.between (Occurrence.inStatements bound statements.left)
    (Occurrence.inStatements (letNames statements.left ++ bound) statements.right)
    fun kind parts => ?_
  have hcontent := gap.isContent_fill kind parts
  rw [Siblings.around, inStatements_append, Occurrence.inStatements, hcontent.not_inner,
    List.append_assoc]
  · rfl
  · exact hcontent.not_binding

/-- What is bound by a `let` statement does not depend on what it is bound to. -/
theorem targets_around_initializer (own : Siblings) (initial : List Tree) :
    targets (own.around (.node .initializer initial)) = targets (own.left ++ own.right) := by
  simp [targets_eq_bindingsAll, Siblings.around, targetPatterns]

theorem Encloses.inBinding (statements own : Siblings)
    (h : Encloses names fun tree =>
      Occurrence.inTrees (letNames statements.left ++ bound) (content tree)) :
    Encloses names fun tree => Occurrence.inStatements bound
      (statements.around (.node .binding (own.around (.node .initializer (content tree))))) := by
  let inside := letNames statements.left ++ bound
  refine h.between (Occurrence.inStatements bound statements.left ++ inInitializer inside own.left)
    (inInitializer inside own.right ++
      Occurrence.inStatements (targets (own.left ++ own.right) ++ inside) statements.right)
    fun kind parts => ?_
  rw [Siblings.around, inStatements_append, Occurrence.inStatements, targets_around_initializer,
    (isWalk_inInitializer _).around]
  simp only [inInitializer, List.append_assoc, List.append_nil, inside]

theorem Encloses.inBlock (beside : Siblings) (delimiter : Delimiter)
    (opening closing : Option Region)
    (h : Encloses names fun tree => Occurrence.inStatements bound (content tree)) :
    Encloses names fun tree =>
      inTree bound (.node .block
        (beside.around (.group delimiter opening closing (content tree)))) := by
  refine h.between (Occurrence.inBlock bound beside.left) (Occurrence.inBlock bound beside.right)
    fun kind parts => ?_
  rw [inTree, (isWalk_inBlock bound).around]
  simp [Occurrence.inBlock]

/-- A tree that is no attribute inside of a body leaves those beside it. -/
theorem inInner_around (bound : List Ident) (siblings : Siblings) {tree : Tree}
    (hinner : tree.isInnerAttribute = false) :
    inInner bound (siblings.around tree) =
      inInner bound siblings.left ++ inInner bound siblings.right := by
  rw [(isWalk_inInner bound).around]
  simp [inInner, hinner]

/-- A tree whose turn is another leaves what is looked at beside it. -/
theorem inTurn_around_of_ne (bound : List Ident) (siblings : Siblings) {wanted : Turn} {tree : Tree}
    (hturn : turn tree ≠ wanted) :
    inTurn bound wanted (siblings.around tree) =
      inTurn bound wanted siblings.left ++ inTurn bound wanted siblings.right := by
  rw [(isWalk_inTurn bound wanted).around]
  simp [inTurn, hturn]

theorem inBodyAttributes_group (bound : List Ident) (delimiter : Delimiter)
    (opening closing : Option Region) (content : List Tree) :
    inBodyAttributes bound [.group delimiter opening closing content] = inInner bound content := by
  rw [inBodyAttributes, inBodyAttributes, List.append_nil]

/-- The attributes inside of a body do not depend on what is in the gap. -/
theorem exists_inBodyAttributes_fill (bound : List Ident) (gap : Gap) :
    ∃ found, ∀ kind parts,
      inBodyAttributes bound [gap.fill (.node (.expression kind) parts)] = found := by
  cases gap with
  | here => exact ⟨[], fun kind parts => rfl⟩
  | part plain hplain siblings inner =>
    refine ⟨[], fun kind parts => ?_⟩
    cases plain <;> first | (cases hplain; done) | rfl
  | grouped delimiter opening closing siblings inner =>
    refine ⟨inInner bound siblings.left ++ inInner bound siblings.right, fun kind parts => ?_⟩
    rw [Gap.fill, inBodyAttributes_group]
    exact inInner_around bound siblings (inner.isContent_fill kind parts).not_inner
  | closure siblings inner => exact ⟨[], fun kind parts => rfl⟩
  | statement beside delimiter opening closing statements inner =>
    refine ⟨inBodyAttributes bound beside.left ++
      (inInner bound statements.left ++ inInner bound statements.right) ++
        inBodyAttributes bound beside.right, fun kind parts => ?_⟩
    have hinner := (inner.isContent_fill kind parts).not_inner
    rw [Gap.fill, inBodyAttributes, (isWalk_inBodyAttributes bound).around, inBodyAttributes_group,
      inInner_around bound statements hinner, inBodyAttributes, List.append_nil]
  | initializer beside delimiter opening closing statements own siblings inner =>
    refine ⟨inBodyAttributes bound beside.left ++
      (inInner bound statements.left ++ inInner bound statements.right) ++
        inBodyAttributes bound beside.right, fun kind parts => ?_⟩
    rw [Gap.fill, inBodyAttributes, (isWalk_inBodyAttributes bound).around, inBodyAttributes_group,
      inInner_around bound statements rfl, inBodyAttributes, List.append_nil]

theorem Encloses.inPlain {gap : Gap} {plain : Kind} (hplain : plain.isPlain = true)
    (siblings : Siblings) (h : Encloses names fun tree => inTree bound (gap.fill tree)) :
    Encloses names fun tree => inTree bound (.node plain (siblings.around (gap.fill tree))) := by
  by_cases hpath : plain = .expression .path
  · subst hpath
    refine (h.inTrees siblings).between (ofPath bound (siblings.left ++ siblings.right)) []
      fun kind parts => ?_
    rw [inTree, List.append_nil]
    congr 1
    simp [ofPath, Siblings.around, gap.pathIdent?_fill]
  · obtain ⟨own, hown⟩ := exists_inBodyAttributes_fill bound gap
    refine h.between
      (inTurn bound .attributes siblings.left ++ inTurn bound .attributes siblings.right ++
        (inBodyAttributes bound siblings.left ++ own ++ inBodyAttributes bound siblings.right) ++
        (inTurn bound .generics siblings.left ++ inTurn bound .generics siblings.right) ++
        inTurn bound .content siblings.left)
      (inTurn bound .content siblings.right) fun kind parts => ?_
    -- The gap is looked at with the content, the last of the turns.
    have hcontent := (gap.isContent_fill kind parts).turn_eq
    have hattributes : turn (gap.fill (.node (.expression kind) parts)) ≠ .attributes := by
      rw [hcontent]
      decide
    have hgenerics : turn (gap.fill (.node (.expression kind) parts)) ≠ .generics := by
      rw [hcontent]
      decide
    rw [inTree, inTurn_around_of_ne bound siblings hattributes,
      inTurn_around_of_ne bound siblings hgenerics, (isWalk_inBodyAttributes bound).around, hown,
      (isWalk_inTurn bound .content).around]
    · simp [inTurn, hcontent, List.append_assoc]
    all_goals
      rintro rfl
      first | exact hpath rfl | cases hplain

/-- What is found in an expression with a gap is what is found in the filling, in the scope of the
names that are bound in the gap, and something around it that does not depend on the filling. -/
theorem encloses_fill (gap : Gap) (bound : List Ident) :
    Encloses (gap.names ++ bound) fun tree => inTree bound (gap.fill tree) := by
  induction gap generalizing bound with
  | here => exact ⟨[], [], fun kind parts => by rw [List.append_nil]; rfl⟩
  | part plain hplain siblings inner ih => exact (ih bound).inPlain hplain siblings
  | grouped delimiter opening closing siblings inner ih =>
    refine ((ih bound).inTrees siblings).between [] [] fun kind parts => ?_
    rw [Gap.fill, inTree, List.nil_append, List.append_nil]
  | closure siblings inner ih =>
    rw [Gap.names, List.append_assoc]
    refine ((ih _).inTrees siblings).between [] [] fun kind parts => ?_
    have hbindings := inner.bindings_fill kind parts
    rw [Gap.fill, inTree, List.nil_append, List.append_nil]
    simp [Siblings.around, bindingsAll_eq_flatMap, hbindings]
  | statement beside delimiter opening closing statements inner ih =>
    rw [Gap.names, List.append_assoc]
    exact ((ih _).inStatements statements).inBlock beside delimiter opening closing
  | initializer beside delimiter opening closing statements own siblings inner ih =>
    rw [Gap.names, List.append_assoc]
    exact (((ih _).inTrees siblings).inBinding statements own).inBlock beside delimiter opening
      closing

end Occurrence

namespace Parameter

open Occurrence

/-- Names from outside keep an occurrence from being an error if it is one of them, and change
nothing otherwise. For a `self` they change nothing at all. -/
theorem judge_enclosed (parameters : List Parameter) (current : Parameter) (names : List Ident)
    (occurrence : Occurrence) :
    judge parameters current (occurrence.enclosed names) =
      if occurrence.ident.isWord "self" ∨ occurrence.ident ∉ names then
        judge parameters current occurrence
      else none := by
  by_cases hself : occurrence.ident.isWord "self" = true
  · rw [if_pos (.inl hself), judge, judge, if_pos hself]
    exact if_pos hself
  by_cases hname : occurrence.ident ∈ names
  · rw [if_neg (by tauto), judge]
    simp [enclosed, hself, hname]
  · have hsame : occurrence.enclosed names = occurrence := by simp [enclosed, hname]
    rw [if_pos (.inr hname), hsame]

/-- However a gap in the default of a parameter is filled, the errors about the rest of the default
are the same. The errors about the filling are those that it has as a default of its own, less those
about words that a closure or a `let` statement around the gap binds directly. A `self` is never
bound. -/
theorem referenceDiagnosticsOf_fill (parameters : List Parameter) (current : Parameter)
    (gap : Gap) :
    ∃ before after, ∀ kind parts,
      referenceDiagnosticsOf parameters
          { current with fallback := some (gap.fill (.node (.expression kind) parts)) } =
        before ++ ((ofExpression (.node (.expression kind) parts)).filter fun occurrence =>
          occurrence.ident.isWord "self" ∨
            ∀ binder ∈ gap.binders, ¬ BindsDirectly occurrence.ident binder).filterMap
              (judge parameters current) ++ after := by
  obtain ⟨before, after, hfound⟩ := encloses_fill gap []
  refine ⟨before.filterMap (judge parameters current), after.filterMap (judge parameters current),
    fun kind parts => ?_⟩
  have hown : (inTree (gap.names ++ []) (.node (.expression kind) parts)).filterMap
        (judge parameters current) =
      ((ofExpression (.node (.expression kind) parts)).filter fun occurrence =>
        occurrence.ident.isWord "self" ∨
          ∀ binder ∈ gap.binders, ¬ BindsDirectly occurrence.ident binder).filterMap
            (judge parameters current) := by
    rw [List.append_nil, ← List.nil_append gap.names, inTree_append, List.filterMap_map,
      List.filterMap_filter]
    congr 1
    funext occurrence
    simp only [Function.comp_apply, judge_enclosed, gap.mem_names_iff, decide_eq_true_eq,
      not_exists, not_and]
  rw [← hown, ← List.filterMap_append, ← List.filterMap_append, ← hfound]
  rfl

end Parameter

namespace Sample

/-- Why a struct of the fields `a` and `b` is rejected, if `a` has the given default. -/
def causesOfDefault (fallback : String) : Option (List Cause) :=
  causes ("struct A \x7b #[piecemeal(default = " ++ fallback ++ ")] a: i32, b: i32 \x7d")

end Sample

/-- A name and a `self` that the default binds itself are reported where the pattern does not bind
directly, or the binder is no closure and no `let` statement. -/
theorem local_names_reported :
    Sample.causesOfDefault "\x7b let [b] = [1]; b \x7d" = some [.refersAhead "a" "b"] ∧
    Sample.causesOfDefault "match 1 \x7b b => b \x7d" = some [.refersAhead "a" "b"] ∧
    Sample.causesOfDefault "\x7b fn f(self) \x7b self \x7d 1 \x7d" = some [.refersToReceiver] := by
  decide +kernel

end Counterpart
