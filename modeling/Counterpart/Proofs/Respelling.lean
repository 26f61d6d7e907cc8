import Counterpart.Proofs.LocalNames
import Counterpart.Proofs.MacroArguments

/-!
# The spelling of references

The check of references knows a word by its spelling and by nothing else. When the words of all
parameters and of a default are respelled, so that words that were one stay one and words that were
two stay two, the same references are rejected. A raw word is another spelling, so a reference is not
found when it is raw and its parameter is not, or the other way round.
-/

namespace Counterpart

namespace TokenTree

mutual

/-- The literals in a token tree as they are written, at any depth of groups. -/
def texts : TokenTree → List String
  | .literal text _ => [text]
  | .group _ _ _ content => textsAll content
  | _ => []

/-- The literals in several token trees as they are written. -/
def textsAll : List TokenTree → List String
  | [] => []
  | token :: rest => texts token ++ textsAll rest

end

@[simp] theorem textsAll_append (first second : List TokenTree) :
    textsAll (first ++ second) = textsAll first ++ textsAll second := by
  induction first with
  | nil => rfl
  | cons token rest ih => simp [textsAll, ih]

end TokenTree

/-- A way to respell the words of a piece of code, and its literals, in which words are captured. No
two words become one, and the words that the check itself knows stay what they are. -/
structure Respelling where
  word : Ident → Ident
  text : String → String
  injective : Function.Injective word
  known : ∀ ident, ∀ keyword ∈ ["self", "ref", "mut"],
    (word ident).isWord keyword = ident.isWord keyword

namespace Respelling

/-! ## Respelled code -/

variable (respelling : Respelling)

mutual

/-- A token tree with its words respelled. -/
def onToken : TokenTree → TokenTree
  | .word ident region => .word (respelling.word ident) region
  | .punct character joint region => .punct character joint region
  | .literal text region => .literal (respelling.text text) region
  | .group delimiter opening closing content => .group delimiter opening closing (onTokens content)

/-- Several token trees with their words respelled. -/
def onTokens : List TokenTree → List TokenTree
  | [] => []
  | token :: rest => onToken token :: onTokens rest

end

mutual

/-- A tree with its words respelled. -/
def onTree : Tree → Tree
  | .leaf token => .leaf (respelling.onToken token)
  | .group delimiter opening closing content => .group delimiter opening closing (onTrees content)
  | .node kind parts => .node kind (onTrees parts)

/-- Several trees with their words respelled. -/
def onTrees : List Tree → List Tree
  | [] => []
  | tree :: rest => onTree tree :: onTrees rest

end

/-- A parameter with its name and the words of its default respelled. -/
def onParameter (parameter : Parameter) : Parameter :=
  { parameter with
    name := { parameter.name with value := respelling.word parameter.name.value }
    fallback := parameter.fallback.map respelling.onTree }

/-- A respelled occurrence. -/
def onOccurrence (occurrence : Occurrence) : Occurrence :=
  { occurrence with ident := respelling.word occurrence.ident }

/-- The literals among the tokens capture the respelled words. -/
def Keeps (tokens : List TokenTree) : Prop :=
  ∀ text ∈ TokenTree.textsAll tokens, Occurrence.captured (respelling.text text) =
    (Occurrence.captured text).map respelling.word

variable {respelling}

@[simp] theorem keeps_append {first second : List TokenTree} :
    respelling.Keeps (first ++ second) ↔ respelling.Keeps first ∧ respelling.Keeps second := by
  simp only [Keeps, TokenTree.textsAll_append, List.forall_mem_append]

theorem keeps_cons {token : TokenTree} {rest : List TokenTree} :
    respelling.Keeps (token :: rest) ↔ respelling.Keeps [token] ∧ respelling.Keeps rest := by
  rw [← keeps_append, List.singleton_append]

@[simp] theorem keeps_group {delimiter : Delimiter} {opening closing : Option Region}
    {content : List TokenTree} :
    respelling.Keeps [.group delimiter opening closing content] ↔ respelling.Keeps content := by
  simp only [Keeps, TokenTree.textsAll, TokenTree.texts, List.append_nil]

/-! ## Words among tokens -/

theorem isLabel_onTokens (tokens : List TokenTree) :
    Occurrence.isLabel (respelling.onTokens tokens) = Occurrence.isLabel tokens := by
  cases tokens with
  | nil => rfl
  | cons token rest => cases token <;> simp [onTokens, onToken, Occurrence.isLabel]

theorem labels_onTokens (tokens : List TokenTree) :
    Occurrence.labels (respelling.onTokens tokens) =
      (Occurrence.labels tokens).map respelling.word := by
  induction tokens with
  | nil => rfl
  | cons token rest ih =>
    cases token with
    | word ident region =>
      simp only [onTokens, onToken, Occurrence.labels, isLabel_onTokens, ih]
      split <;> simp
    | _ => simpa [onTokens, onToken, Occurrence.labels] using ih

theorem within_map (bound : List Ident) (ident : Ident) (region : Option Region) :
    Occurrence.within (bound.map respelling.word) (respelling.word ident) region =
      respelling.onOccurrence (Occurrence.within bound ident region) := by
  simp [Occurrence.within, onOccurrence, respelling.injective.eq_iff]

theorem inTokens_map (bound : List Ident) :
    ∀ (named : List Ident) (before : Option Char) (isName : Bool) (tokens : List TokenTree),
      respelling.Keeps tokens →
        Occurrence.inTokens (bound.map respelling.word) (named.map respelling.word) before isName
            (respelling.onTokens tokens) =
          (Occurrence.inTokens bound named before isName tokens).map respelling.onOccurrence := by
  refine Occurrence.inTokens.induct bound (fun named before isName tokens =>
    respelling.Keeps tokens →
      Occurrence.inTokens (bound.map respelling.word) (named.map respelling.word) before isName
          (respelling.onTokens tokens) =
        (Occurrence.inTokens bound named before isName tokens).map respelling.onOccurrence)
    ?nothing ?word ?punct ?literal ?group
  case nothing =>
    intro named before isName hkeeps
    rw [onTokens, Occurrence.inTokens, Occurrence.inTokens, List.map_nil]
  case word =>
    intro named before isName ident region rest ih hkeeps
    rw [keeps_cons] at hkeeps
    rw [onTokens, onToken, Occurrence.inTokens, Occurrence.inTokens, List.map_append, ih hkeeps.2,
      isLabel_onTokens, within_map, apply_ite (List.map _)]
    rfl
  case punct =>
    intro named before isName character joint region rest ih hkeeps
    rw [keeps_cons] at hkeeps
    rw [onTokens, onToken, Occurrence.inTokens, Occurrence.inTokens]
    exact ih hkeeps.2
  case literal =>
    intro named before isName text region rest ih hkeeps
    rw [keeps_cons] at hkeeps
    have hcaptured := hkeeps.1 text (by simp [TokenTree.textsAll, TokenTree.texts])
    have hnamed : (fun ident => !(named.map respelling.word).contains ident) ∘ respelling.word =
        fun ident => !named.contains ident := by
      funext ident
      simp [respelling.injective.eq_iff]
    rw [onTokens, onToken, Occurrence.inTokens, Occurrence.inTokens, List.map_append, ih hkeeps.2,
      hcaptured, List.filter_map, hnamed, List.map_map, List.map_map]
    congr 1
    exact List.map_congr_left fun ident _ => within_map bound ident region
  case group =>
    intro named before isName delimiter opening closing content rest ihcontent ihrest hkeeps
    rw [keeps_cons, keeps_group] at hkeeps
    rw [onTokens, onToken, Occurrence.inTokens, Occurrence.inTokens, List.map_append,
      labels_onTokens, ihcontent hkeeps.1, ihrest hkeeps.2]

theorem inArguments_map (bound : List Ident) {parts : List Tree}
    (hkeeps : respelling.Keeps (Tree.tokensAll parts)) :
    Occurrence.inArguments (bound.map respelling.word) (respelling.onTrees parts) =
      (Occurrence.inArguments bound parts).map respelling.onOccurrence := by
  fun_induction Occurrence.inArguments bound parts with
  | case1 => rfl
  | case2 delimiter opening closing content rest ih =>
    rw [Tree.tokensAll_cons, Tree.tokens, keeps_append, keeps_group] at hkeeps
    rw [onTrees, onTree, onToken, Occurrence.inArguments, List.map_append, labels_onTokens,
      inTokens_map bound _ _ _ _ hkeeps.1, ih hkeeps.2]
  | case3 part rest hpart ih =>
    rw [Tree.tokensAll_cons, keeps_append] at hkeeps
    rw [onTrees, Occurrence.inArguments, ih hkeeps.2]
    intro delimiter opening closing content hsame
    cases part with
    | leaf token => cases token <;> cases hsame; exact hpart _ _ _ _ rfl
    | _ => cases hsame

/-! ## Patterns -/

theorem boundName?_onTrees (parts : List Tree) :
    Occurrence.boundName? (respelling.onTrees parts) =
      (Occurrence.boundName? parts).map respelling.word := by
  induction parts with
  | nil => rfl
  | cons part rest ih =>
    cases part with
    | leaf token =>
      cases token with
      | word ident region =>
        have href := respelling.known ident "ref" (by simp)
        have hmut := respelling.known ident "mut" (by simp)
        simp only [onTrees, onTree, onToken, Occurrence.boundName?, href, hmut, ih]
        split <;> rfl
      | _ => simpa [onTrees, onTree, onToken, Occurrence.boundName?] using ih
    | _ => simpa [onTrees, onTree, Occurrence.boundName?] using ih

/-- A construct is only respelled from one of its kind. -/
theorem exists_of_onTree_eq_node {tree : Tree} {kind : Kind} {parts : List Tree}
    (h : respelling.onTree tree = .node kind parts) : ∃ own, tree = .node kind own := by
  cases tree with
  | node own inner =>
    rw [onTree, Tree.node.injEq] at h
    exact ⟨inner, by rw [h.1]⟩
  | _ => cases h

/-- A group is only respelled from a group between the same delimiters. -/
theorem exists_of_onTree_eq_group {tree : Tree} {delimiter : Delimiter}
    {opening closing : Option Region} {content : List Tree}
    (h : respelling.onTree tree = .group delimiter opening closing content) :
    ∃ own, tree = .group delimiter opening closing own := by
  cases tree with
  | group own first last inner =>
    rw [onTree, Tree.group.injEq] at h
    exact ⟨inner, by rw [h.1, h.2.1, h.2.2.1]⟩
  | _ => cases h

theorem bindings_onTree (tree : Tree) :
    Occurrence.bindings (respelling.onTree tree) =
      (Occurrence.bindings tree).map respelling.word := by
  refine (Occurrence.bindings.mutual_induct
    (fun tree => Occurrence.bindings (respelling.onTree tree) =
      (Occurrence.bindings tree).map respelling.word)
    (fun parts => Occurrence.bindingsInGroups (respelling.onTrees parts) =
      (Occurrence.bindingsInGroups parts).map respelling.word)
    (fun trees => Occurrence.bindingsAll (respelling.onTrees trees) =
      (Occurrence.bindingsAll trees).map respelling.word)
    ?name ?typed ?reference ?tuple ?other ?noGroups ?groups ?noGroup ?noTrees ?trees).1 tree
  case name =>
    intro parts
    rw [onTree, Occurrence.bindings, Occurrence.bindings, boundName?_onTrees]
    cases Occurrence.boundName? parts <;> rfl
  case typed =>
    intro parts ih
    rw [onTree, Occurrence.bindings, Occurrence.bindings, ih]
  case reference =>
    intro parts ih
    rw [onTree, Occurrence.bindings, Occurrence.bindings, ih]
  case tuple =>
    intro parts ih
    rw [onTree, Occurrence.bindings, Occurrence.bindings, ih]
  case other =>
    intro tree hname htyped hreference htuple
    rw [Occurrence.bindings, Occurrence.bindings, List.map_nil]
    any_goals assumption
    all_goals
      intro parts hparts
      obtain ⟨own, rfl⟩ := exists_of_onTree_eq_node hparts
    · exact hname own rfl
    · exact htyped own rfl
    · exact hreference own rfl
    · exact htuple own rfl
  case noGroups => rfl
  case groups =>
    intro delimiter opening closing content rest ihcontent ihrest
    rw [onTrees, onTree, Occurrence.bindingsInGroups, Occurrence.bindingsInGroups, ihcontent, ihrest,
      List.map_append]
  case noGroup =>
    intro tree rest hgroup ih
    rw [onTrees, Occurrence.bindingsInGroups, Occurrence.bindingsInGroups, ih]
    · exact hgroup
    · intro delimiter opening closing content hsame
      obtain ⟨own, rfl⟩ := exists_of_onTree_eq_group hsame
      exact hgroup _ _ _ _ rfl
  case noTrees => rfl
  case trees =>
    intro tree rest ihtree ihrest
    rw [onTrees, Occurrence.bindingsAll, Occurrence.bindingsAll, ihtree, ihrest, List.map_append]

theorem bindingsAll_onTrees (trees : List Tree) :
    Occurrence.bindingsAll (respelling.onTrees trees) =
      (Occurrence.bindingsAll trees).map respelling.word := by
  induction trees with
  | nil => rfl
  | cons tree rest ih =>
    rw [onTrees, Occurrence.bindingsAll, Occurrence.bindingsAll, bindings_onTree, ih,
      List.map_append]

theorem targets_onTrees (parts : List Tree) :
    Occurrence.targets (respelling.onTrees parts) =
      (Occurrence.targets parts).map respelling.word := by
  fun_induction Occurrence.targets parts with
  | case1 => rfl
  | case2 parts rest ih =>
    rw [onTrees, onTree, Occurrence.targets, bindingsAll_onTrees, ih, List.map_append]
  | case3 part rest htarget ih =>
    rw [onTrees, Occurrence.targets, ih]
    intro parts hsame
    obtain ⟨own, rfl⟩ := exists_of_onTree_eq_node hsame
    exact htarget own rfl

/-! ## Expressions -/

theorem isKind_onTree (tree : Tree) (kind : Kind) :
    (respelling.onTree tree).isKind kind = tree.isKind kind := by
  cases tree <;> rfl

theorem turn_onTree (part : Tree) :
    Occurrence.turn (respelling.onTree part) = Occurrence.turn part := by
  simp only [Occurrence.turn, isKind_onTree]

theorem isInnerAttribute_onTree (tree : Tree) :
    (respelling.onTree tree).isInnerAttribute = tree.isInnerAttribute := by
  cases tree with
  | node kind parts =>
    cases kind <;> try rfl
    -- The mark of an inner attribute is punctuation, which stays as it is.
    rcases parts with _ | ⟨first, _ | ⟨⟨token⟩ | _ | _, rest⟩⟩
    case attribute.cons.cons.leaf =>
      cases token with
      | punct character joint region =>
        by_cases hmark : character = '!'
        · rw [hmark]
          rfl
        · simp [Tree.isInnerAttribute, onTree, onTrees, onToken, hmark]
      | _ => rfl
    all_goals rfl
  | _ => rfl

theorem pathIdent?_onTree (tree : Tree) :
    (respelling.onTree tree).pathIdent? =
      tree.pathIdent?.map fun ident => { ident with value := respelling.word ident.value } := by
  cases tree with
  | node kind parts =>
    cases kind <;> try rfl
    rcases parts with _ | ⟨⟨_⟩ | _ | ⟨own, words⟩, _ | ⟨second, rest⟩⟩
    case path.cons.node.nil =>
      cases own <;> try rfl
      rcases words with _ | ⟨⟨token⟩ | _ | _, _ | ⟨second, rest⟩⟩
      case segment.cons.leaf.nil => cases token <;> rfl
      all_goals simp [Tree.pathIdent?, onTree, onTrees]
    all_goals simp [Tree.pathIdent?, onTree, onTrees]
  | _ => rfl

theorem ofPath_map (bound : List Ident) (parts : List Tree) :
    Occurrence.ofPath (bound.map respelling.word) (respelling.onTrees parts) =
      (Occurrence.ofPath bound parts).map respelling.onOccurrence := by
  induction parts with
  | nil => rfl
  | cons part rest ih =>
    simp only [Occurrence.ofPath] at ih
    simp only [Occurrence.ofPath, onTrees, List.filterMap_cons, pathIdent?_onTree, ih]
    cases part.pathIdent? with
    | none => rfl
    | some ident => simp [within_map]

/-- What is found in respelled code is what is found in the code, respelled. This is by one case for
each construct. -/
theorem inTree_map (bound : List Ident) (tree : Tree) :
    respelling.Keeps tree.tokens →
      Occurrence.inTree (bound.map respelling.word) (respelling.onTree tree) =
        (Occurrence.inTree bound tree).map respelling.onOccurrence := by
  refine (Occurrence.inTree.mutual_induct
    (fun bound tree => respelling.Keeps tree.tokens →
      Occurrence.inTree (bound.map respelling.word) (respelling.onTree tree) =
        (Occurrence.inTree bound tree).map respelling.onOccurrence)
    (fun bound parts => respelling.Keeps (Tree.tokensAll parts) →
      Occurrence.inBodyAttributes (bound.map respelling.word) (respelling.onTrees parts) =
        (Occurrence.inBodyAttributes bound parts).map respelling.onOccurrence)
    (fun bound trees => respelling.Keeps (Tree.tokensAll trees) →
      Occurrence.inInner (bound.map respelling.word) (respelling.onTrees trees) =
        (Occurrence.inInner bound trees).map respelling.onOccurrence)
    (fun bound wanted parts => respelling.Keeps (Tree.tokensAll parts) →
      Occurrence.inTurn (bound.map respelling.word) wanted (respelling.onTrees parts) =
        (Occurrence.inTurn bound wanted parts).map respelling.onOccurrence)
    (fun bound parts => respelling.Keeps (Tree.tokensAll parts) →
      Occurrence.inParameters (bound.map respelling.word) (respelling.onTrees parts) =
        (Occurrence.inParameters bound parts).map
          (Prod.map id (List.map respelling.onOccurrence)))
    (fun bound parts => respelling.Keeps (Tree.tokensAll parts) →
      Occurrence.inBlock (bound.map respelling.word) (respelling.onTrees parts) =
        (Occurrence.inBlock bound parts).map respelling.onOccurrence)
    (fun bound trees => respelling.Keeps (Tree.tokensAll trees) →
      Occurrence.inStatements (bound.map respelling.word) (respelling.onTrees trees) =
        (Occurrence.inStatements bound trees).map respelling.onOccurrence)
    (fun bound parts => respelling.Keeps (Tree.tokensAll parts) →
      Occurrence.inInitializer (bound.map respelling.word) (respelling.onTrees parts) =
        (Occurrence.inInitializer bound parts).map respelling.onOccurrence)
    (fun bound trees => respelling.Keeps (Tree.tokensAll trees) →
      Occurrence.inTrees (bound.map respelling.word) (respelling.onTrees trees) =
        (Occurrence.inTrees bound trees).map respelling.onOccurrence)
    ?leaf ?group ?path ?closure ?block ?call ?parameters ?other
    ?noBody ?groupBody ?blockBody ?otherBody ?noInner ?inner ?noTurn ?turn
    ?noParameters ?parameter ?otherParameter ?noBlock ?statements ?otherBlock
    ?noStatements ?binding ?statement ?noInitializer ?initializer ?otherInitializer
    ?noTrees ?trees).1 bound tree
  case leaf => exact fun bound token _ => rfl
  case group =>
    intro bound delimiter opening closing content ih hkeeps
    rw [Tree.tokens, keeps_group] at hkeeps
    rw [onTree, Occurrence.inTree, Occurrence.inTree, ih hkeeps]
  case path =>
    intro bound parts ih hkeeps
    rw [Tree.tokens] at hkeeps
    rw [onTree, Occurrence.inTree, Occurrence.inTree, List.map_append, ofPath_map, ih hkeeps]
  case closure =>
    intro bound parts ih hkeeps
    rw [Tree.tokens] at hkeeps
    rw [onTree, Occurrence.inTree, Occurrence.inTree, ← ih hkeeps, bindingsAll_onTrees,
      List.map_append]
  case block =>
    intro bound parts ih hkeeps
    rw [Tree.tokens] at hkeeps
    rw [onTree, Occurrence.inTree, Occurrence.inTree, ih hkeeps]
  case call =>
    intro bound parts hkeeps
    rw [Tree.tokens] at hkeeps
    rw [onTree, Occurrence.inTree, Occurrence.inTree, inArguments_map bound hkeeps]
  case parameters =>
    intro bound parts ih hkeeps
    rw [Tree.tokens] at hkeeps
    rw [onTree, Occurrence.inTree, Occurrence.inTree, ih hkeeps, Occurrence.inSourceOrder_map]
  case other =>
    intro bound kind parts hpath hclosure hblock hcall hparameters hattributes hbody hgenerics
      hcontent hkeeps
    rw [Tree.tokens] at hkeeps
    rw [onTree, Occurrence.inTree, Occurrence.inTree, hattributes hkeeps, hbody hkeeps,
      hgenerics hkeeps, hcontent hkeeps]
    · simp only [List.map_append]
    all_goals assumption
  case noBody => exact fun bound _ => rfl
  case groupBody =>
    intro bound delimiter opening closing content rest ihcontent ihrest hkeeps
    rw [Tree.tokensAll_cons, Tree.tokens, keeps_append, keeps_group] at hkeeps
    rw [onTrees, onTree, Occurrence.inBodyAttributes, Occurrence.inBodyAttributes,
      ihcontent hkeeps.1, ihrest hkeeps.2, List.map_append]
  case blockBody =>
    intro bound parts rest ihparts ihrest hkeeps
    rw [Tree.tokensAll_cons, Tree.tokens, keeps_append] at hkeeps
    rw [onTrees, onTree, Occurrence.inBodyAttributes, Occurrence.inBodyAttributes,
      ihparts hkeeps.1, ihrest hkeeps.2, List.map_append]
  case otherBody =>
    intro bound tree rest hgroup hblock ih hkeeps
    rw [Tree.tokensAll_cons, keeps_append] at hkeeps
    rw [onTrees, Occurrence.inBodyAttributes, Occurrence.inBodyAttributes, ih hkeeps.2]
    any_goals assumption
    · intro delimiter opening closing content hsame
      obtain ⟨own, rfl⟩ := exists_of_onTree_eq_group hsame
      exact hgroup _ _ _ _ rfl
    · intro parts hsame
      obtain ⟨own, rfl⟩ := exists_of_onTree_eq_node hsame
      exact hblock _ rfl
  case noInner => exact fun bound _ => rfl
  case inner =>
    intro bound tree rest ihtree ihrest hkeeps
    rw [Tree.tokensAll_cons, keeps_append] at hkeeps
    rw [onTrees, Occurrence.inInner, Occurrence.inInner, isInnerAttribute_onTree, ihtree hkeeps.1,
      ihrest hkeeps.2, List.map_append, apply_ite (List.map _), List.map_nil]
  case noTurn => exact fun bound wanted _ => rfl
  case turn =>
    intro bound wanted tree rest ihtree ihrest hkeeps
    rw [Tree.tokensAll_cons, keeps_append] at hkeeps
    rw [onTrees, Occurrence.inTurn, Occurrence.inTurn, turn_onTree, ihtree hkeeps.1,
      ihrest hkeeps.2, List.map_append, apply_ite (List.map _), List.map_nil]
  case noParameters => exact fun bound _ => rfl
  case parameter =>
    intro bound place parts rest hattributes hcontent ih hkeeps
    rw [Tree.tokensAll_cons, Tree.tokens, keeps_append] at hkeeps
    rw [onTrees, onTree, Occurrence.inParameters, Occurrence.inParameters, hattributes hkeeps.1,
      hcontent hkeeps.1, ih hkeeps.2, ← List.map_append]
    rfl
  case otherParameter =>
    intro bound tree rest hparameter ih hkeeps
    rw [Tree.tokensAll_cons, keeps_append] at hkeeps
    rw [onTrees, Occurrence.inParameters, Occurrence.inParameters, ih hkeeps.2]
    · exact hparameter
    · intro place parts hsame
      obtain ⟨own, rfl⟩ := exists_of_onTree_eq_node hsame
      exact hparameter _ _ rfl
  case noBlock => exact fun bound _ => rfl
  case statements =>
    intro bound delimiter opening closing content rest ihcontent ihrest hkeeps
    rw [Tree.tokensAll_cons, Tree.tokens, keeps_append, keeps_group] at hkeeps
    rw [onTrees, onTree, Occurrence.inBlock, Occurrence.inBlock, ihcontent hkeeps.1,
      ihrest hkeeps.2, List.map_append]
  case otherBlock =>
    intro bound tree rest hgroup ih hkeeps
    rw [Tree.tokensAll_cons, keeps_append] at hkeeps
    rw [onTrees, Occurrence.inBlock, Occurrence.inBlock, ih hkeeps.2]
    · exact hgroup
    · intro delimiter opening closing content hsame
      obtain ⟨own, rfl⟩ := exists_of_onTree_eq_group hsame
      exact hgroup _ _ _ _ rfl
  case noStatements => exact fun bound _ => rfl
  case binding =>
    intro bound parts rest ihparts ihrest hkeeps
    rw [Tree.tokensAll_cons, Tree.tokens, keeps_append] at hkeeps
    rw [onTrees, onTree, Occurrence.inStatements, Occurrence.inStatements, ihparts hkeeps.1,
      targets_onTrees, List.map_append, ← ihrest hkeeps.2, List.map_append]
  case statement =>
    intro bound tree rest hbinding ihtree ihrest hkeeps
    rw [Tree.tokensAll_cons, keeps_append] at hkeeps
    rw [onTrees, Occurrence.inStatements, Occurrence.inStatements, isInnerAttribute_onTree,
      ihtree hkeeps.1, ihrest hkeeps.2, List.map_append, apply_ite (List.map _), List.map_nil]
    · exact hbinding
    · intro parts hsame
      obtain ⟨own, rfl⟩ := exists_of_onTree_eq_node hsame
      exact hbinding _ rfl
  case noInitializer => exact fun bound _ => rfl
  case initializer =>
    intro bound parts rest ihparts ihrest hkeeps
    rw [Tree.tokensAll_cons, Tree.tokens, keeps_append] at hkeeps
    rw [onTrees, onTree, Occurrence.inInitializer, Occurrence.inInitializer, ihparts hkeeps.1,
      ihrest hkeeps.2, List.map_append]
  case otherInitializer =>
    intro bound tree rest hinitializer ih hkeeps
    rw [Tree.tokensAll_cons, keeps_append] at hkeeps
    rw [onTrees, Occurrence.inInitializer, Occurrence.inInitializer, ih hkeeps.2]
    · exact hinitializer
    · intro parts hsame
      obtain ⟨own, rfl⟩ := exists_of_onTree_eq_node hsame
      exact hinitializer _ rfl
  case noTrees => exact fun bound _ => rfl
  case trees =>
    intro bound tree rest ihtree ihrest hkeeps
    rw [Tree.tokensAll_cons, keeps_append] at hkeeps
    rw [onTrees, Occurrence.inTrees, Occurrence.inTrees, isInnerAttribute_onTree, ihtree hkeeps.1,
      ihrest hkeeps.2, List.map_append, apply_ite (List.map _), List.map_nil]

end Respelling

/-! ## Rejected references -/

namespace Parameter

/-- The references in the default of a parameter that are rejected. -/
def rejected (parameters : List Parameter) (current : Parameter) : List Occurrence :=
  (current.fallback.elim [] Occurrence.ofExpression).filter fun occurrence =>
    (judge parameters current occurrence).isSome

/-- Every rejected reference is reported where it stands. -/
theorem region_of_judge {parameters : List Parameter} {current : Parameter}
    {occurrence : Occurrence} {found : Diagnostic}
    (h : judge parameters current occurrence = some found) : found.region = occurrence.region := by
  unfold judge at h
  split_ifs at h
  · cases h
    rfl
  · split at h
    · cases h
    · split_ifs at h
      · cases h
        rfl
      · cases h
        rfl

theorem regions_referenceDiagnosticsOf (parameters : List Parameter) (current : Parameter) :
    (referenceDiagnosticsOf parameters current).map (·.region) =
      (rejected parameters current).map (·.region) := by
  have hregions (occurrences : List Occurrence) :
      (occurrences.filterMap (judge parameters current)).map (·.region) =
        (occurrences.filter fun occurrence =>
          (judge parameters current occurrence).isSome).map (·.region) := by
    induction occurrences with
    | nil => rfl
    | cons occurrence rest ih =>
      cases hjudge : judge parameters current occurrence with
      | none => simpa [hjudge] using ih
      | some found => simpa [hjudge, region_of_judge hjudge] using ih
  unfold referenceDiagnosticsOf rejected
  cases current.fallback with
  | none => rfl
  | some fallback => exact hregions _

/-- A reference is rejected if it is to `self`, or is not bound by the default and the first
parameter of its name is not an earlier one. -/
theorem isSome_judge (parameters : List Parameter) (current : Parameter)
    (occurrence : Occurrence) :
    (judge parameters current occurrence).isSome =
      (occurrence.ident.isWord "self" || !occurrence.isBound &&
        (parameters.find? fun parameter => parameter.name.value = occurrence.ident).any
          fun referenced => current.index ≤ referenced.index) := by
  unfold judge
  split_ifs with hself hbound
  · simp [hself]
  · simp [hself, hbound]
  · rw [Bool.not_eq_true] at hself hbound
    rw [hself, hbound, Bool.false_or, Bool.not_false, Bool.true_and]
    split
    · next hnone =>
      rw [hnone]
      rfl
    · next referenced hfound =>
      rw [hfound]
      split_ifs with hsame hahead
      · simp [hsame]
      · simp [Nat.le_of_lt hahead]
      · have hbefore : ¬ current.index ≤ referenced.index := by omega
        simp [hbefore]

variable {respelling : Respelling}

theorem isSome_judge_respelled (parameters : List Parameter) (current : Parameter)
    (occurrence : Occurrence) :
    (judge (parameters.map respelling.onParameter) (respelling.onParameter current)
        (respelling.onOccurrence occurrence)).isSome =
      (judge parameters current occurrence).isSome := by
  have hself : (respelling.onOccurrence occurrence).ident.isWord "self" =
      occurrence.ident.isWord "self" := respelling.known occurrence.ident "self" (by simp)
  have hfind : (parameters.map respelling.onParameter).find? (fun parameter =>
        parameter.name.value = (respelling.onOccurrence occurrence).ident) =
      (parameters.find? fun parameter => parameter.name.value = occurrence.ident).map
        respelling.onParameter := by
    rw [List.find?_map]
    congr 2
    funext parameter
    simp [Respelling.onParameter, Respelling.onOccurrence, respelling.injective.eq_iff]
  rw [isSome_judge, isSome_judge, hself, hfind, Option.any_map]
  rfl

/-- When the names of all parameters and the words of a default are respelled in one way, the same
references of the default are rejected, at the same places. -/
theorem rejected_respelled (respelling : Respelling) (parameters : List Parameter)
    (current : Parameter)
    (hkeeps : ∀ fallback, current.fallback = some fallback → respelling.Keeps fallback.tokens) :
    rejected (parameters.map respelling.onParameter) (respelling.onParameter current) =
        (rejected parameters current).map respelling.onOccurrence ∧
      (referenceDiagnosticsOf (parameters.map respelling.onParameter)
          (respelling.onParameter current)).map (·.region) =
        (referenceDiagnosticsOf parameters current).map (·.region) := by
  have hrejected : rejected (parameters.map respelling.onParameter)
        (respelling.onParameter current) =
      (rejected parameters current).map respelling.onOccurrence := by
    have hjudge : (fun occurrence => (judge (parameters.map respelling.onParameter)
          (respelling.onParameter current) occurrence).isSome) ∘ respelling.onOccurrence =
        fun occurrence => (judge parameters current occurrence).isSome :=
      funext fun occurrence => isSome_judge_respelled parameters current occurrence
    have hfound : (respelling.onParameter current).fallback.elim [] Occurrence.ofExpression =
        (current.fallback.elim [] Occurrence.ofExpression).map respelling.onOccurrence := by
      simp only [Respelling.onParameter]
      cases hfallback : current.fallback with
      | none => rfl
      | some fallback => exact Respelling.inTree_map [] fallback (hkeeps fallback hfallback)
    rw [rejected, hfound, List.filter_map, hjudge, rejected]
  refine ⟨hrejected, ?_⟩
  rw [regions_referenceDiagnosticsOf, regions_referenceDiagnosticsOf, hrejected, List.map_map]
  rfl

end Parameter

namespace Respelling

/-- Write one word as a raw one wherever it is not, and the other way round. -/
def swapRaw (name : String) (hknown : name ∉ ["self", "ref", "mut"]) : Respelling where
  word ident := if ident.name = name then ⟨name, !ident.isRaw⟩ else ident
  text := id
  injective first second hsame := by
    obtain ⟨firstName, firstRaw⟩ := first
    obtain ⟨secondName, secondRaw⟩ := second
    dsimp only at hsame
    split_ifs at hsame <;> simp_all
  known ident keyword hkeyword := by
    split_ifs with hname
    · have hother : (name == keyword) = false :=
        beq_false_of_ne fun hsame => hknown (hsame ▸ hkeyword)
      simp only [Ident.isWord, hname, hother, Bool.and_false]
    · rfl

end Respelling

namespace Sample

/-- The arguments `"\x7bc\x7d", b` of a macro. -/
def formatArguments : List TokenTree :=
  [.literal "\"\x7bc\x7d\"" none, .punct ',' false none, .word (.plain "b") none]

/-- A macro call with these arguments. -/
def formatCall : Tree :=
  .node (.expression .macroCall) [.node .macroCall [Tree.pathOfName (.generated (.plain "m")),
    .leaf (.punct '!' false none), .leaf (.group .parenthesis none none formatArguments)]]

/-- A parameter whose default is the call. -/
def referrer : Parameter := ⟨0, .generated (.plain "a"), default, some formatCall, []⟩

/-- The parameters that it refers to: one by a word, the other in a format text. -/
def referents : List Parameter :=
  [⟨1, .generated (.plain "b"), default, none, []⟩, ⟨2, .generated (.plain "c"), default, none, []⟩]

/-- All words `b` as raw words. -/
def rawB : Respelling := Respelling.swapRaw "b" (by decide)

/-- The format text captures a name. -/
theorem captured_formatArguments :
    Occurrence.captured "\"\x7bc\x7d\"" = [.plain "c"] := by decide +kernel

/-- Two references are found in the call. -/
theorem ofExpression_formatCall : Occurrence.ofExpression formatCall =
    [⟨.plain "c", none, false⟩, ⟨.plain "b", none, false⟩] := by
  rw [formatCall, Occurrence.ofExpression_macroCall]
  simp [Tree.pathOfName, Occurrence.inArguments, formatArguments, Occurrence.inTokens,
    Occurrence.labels, Occurrence.isLabel, Occurrence.within, Occurrence.leadsName,
    captured_formatArguments]

end Sample

/-- When all words `b` are respelled, the same two references are rejected: the captured name stays
as it is, and the other is raw. -/
theorem rejected_swapRaw :
    Parameter.rejected ((Sample.referrer :: Sample.referents).map Sample.rawB.onParameter)
        (Sample.rawB.onParameter Sample.referrer) =
      [⟨⟨"c", false⟩, none, false⟩, ⟨⟨"b", true⟩, none, false⟩] := by
  rw [(Parameter.rejected_respelled Sample.rawB (Sample.referrer :: Sample.referents)
    Sample.referrer ?_).1]
  · rw [Parameter.rejected, Sample.referrer, Option.elim, Sample.ofExpression_formatCall]
    decide
  · rintro fallback hfallback text htext
    cases hfallback
    obtain rfl : text = "\"\x7bc\x7d\"" := List.mem_singleton.mp htext
    change Occurrence.captured "\"\x7bc\x7d\"" = _
    rw [Sample.captured_formatArguments]
    decide

/-- A reference to the own parameter is not rejected when it is a raw word and the parameter is
not, or the other way round. -/
theorem respelled_reference_missed :
    Sample.causesOfDefault "a" = some [.refersToItself "a"] ∧
    Sample.causesOfDefault "r#a" = some [] ∧
    Sample.causes "struct A \x7b #[piecemeal(default = a)] r#a: i32 \x7d" = some [] := by
  decide +kernel

end Counterpart
