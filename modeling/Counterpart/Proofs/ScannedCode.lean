import Mathlib
import Counterpart.Proofs.LocalNames

/-!
# Code that a scan covers

A scan of the tokens of an expression, as the arguments of a macro call are scanned, finds words. A
tree is covered by the scan if it finds all words in it that the check of an expression looks at.
Said here is what a scan knows in front of tokens, and what it is for a tree to be covered. Which
words the scan finds is left open, so that all parts of an expression are covered by one scan.
-/

namespace Counterpart

open Occurrence

/-- The words that a scan finds. -/
class Scan where
  finds : Located Ident → Prop

namespace Scan

variable [Scan]

/-- A scan finds all of several occurrences. -/
def Finds (occurrences : List Occurrence) : Prop :=
  ∀ occurrence ∈ occurrences, finds ⟨occurrence.ident, occurrence.region⟩

@[simp] theorem finds_nil : Finds [] := nofun

@[simp] theorem finds_append {first second : List Occurrence} :
    Finds (first ++ second) ↔ Finds first ∧ Finds second :=
  List.forall_mem_append

omit [Scan] in
@[grind =] theorem isLabel_nil : isLabel [] = false := rfl

/-- A scan finds the words of the arguments of a macro call among its parts. -/
def FindsCalls (parts : List Tree) : Prop := Finds (inArguments [] parts)

/-- A scan finds the words of the arguments of a macro call, if a part of the call is those. -/
def FindsCall (part : Tree) : Prop := FindsCalls [part]

@[simp, grind norm] theorem findsCalls_nil : FindsCalls [] ↔ True := by
  simp [FindsCalls, inArguments]

@[simp, grind norm] theorem findsCalls_cons {part : Tree} {rest : List Tree} :
    FindsCalls (part :: rest) ↔ FindsCall part ∧ FindsCalls rest := by
  simp only [FindsCall, FindsCalls]
  by_cases hgroup : ∃ delimiter opening closing content,
      part = .leaf (.group delimiter opening closing content)
  · obtain ⟨delimiter, opening, closing, content, rfl⟩ := hgroup
    simp [inArguments]
  · rw [inArguments, inArguments]
    · simp [inArguments]
    all_goals
      exact fun delimiter opening closing content hpart =>
        hgroup ⟨delimiter, opening, closing, content, hpart⟩

@[simp, grind norm] theorem findsCalls_append {first second : List Tree} :
    FindsCalls (first ++ second) ↔ FindsCalls first ∧ FindsCalls second := by
  induction first with
  | nil => simp
  | cons part rest ih => rw [List.cons_append, findsCalls_cons, findsCalls_cons, ih, and_assoc]

@[simp, grind norm] theorem findsCall_node {kind : Kind} {parts : List Tree} :
    FindsCall (.node kind parts) ↔ True := by
  simp [FindsCall, FindsCalls, inArguments]

@[simp, grind norm] theorem findsCall_name {ident : Located Ident} :
    FindsCall (Tree.name ident) ↔ True := by
  simp [FindsCall, FindsCalls, inArguments, Tree.name]

@[simp] theorem findsCall_punct {character : Char} {joint : Bool} {region : Option Region} :
    FindsCall (.leaf (.punct character joint region)) ↔ True := by
  simp [FindsCall, FindsCalls, inArguments]

@[grind →] theorem findsCall_of_kind {part : Tree} {kind : Kind} (h : part.isKind kind = true) :
    FindsCall part := by
  cases part with
  | node => simp
  | _ => cases h

/-! ## In front of tokens -/

/-- A scan goes on with the tokens. -/
def Seen (tokens : List TokenTree) : Prop :=
  ∃ named before isName, Finds (inTokens [] named before isName tokens)

/-- A scan goes on with the tokens, of which a first word is no field and no segment of a path. -/
def Ready (tokens : List TokenTree) : Prop :=
  ∃ named before, Finds (inTokens [] named before false tokens)

/-- A scan is ready for the tokens, and not behind the colon of a label. -/
def Fresh (tokens : List TokenTree) : Prop :=
  ∃ named before, before ≠ some ':' ∧ Finds (inTokens [] named before false tokens)

variable {ident : Ident} {region : Option Region} {character : Char} {joint : Bool}
  {rest : List TokenTree}

@[grind →] theorem ready_of_fresh {tokens : List TokenTree} (h : Fresh tokens) : Ready tokens := by
  obtain ⟨named, before, -, hfinds⟩ := h
  exact ⟨named, before, hfinds⟩

@[grind →] theorem seen_of_ready {tokens : List TokenTree} (h : Ready tokens) : Seen tokens := by
  obtain ⟨named, before, hfinds⟩ := h
  exact ⟨named, before, false, hfinds⟩

theorem fresh_of_word (h : Seen (.word ident region :: rest)) : Fresh rest := by
  obtain ⟨named, before, isName, hfinds⟩ := h
  rw [inTokens, finds_append] at hfinds
  exact ⟨named, none, by simp, hfinds.2⟩

theorem finds_of_word (h : Ready (.word ident region :: rest)) (hlabel : isLabel rest = false) :
    finds ⟨ident, region⟩ := by
  obtain ⟨named, before, hfinds⟩ := h
  rw [inTokens, finds_append, hlabel] at hfinds
  exact hfinds.1 (within [] ident region) (List.mem_singleton_self _)

theorem fresh_of_literal {text : String} (h : Seen (.literal text region :: rest)) :
    Fresh rest := by
  obtain ⟨named, before, isName, hfinds⟩ := h
  rw [inTokens, finds_append] at hfinds
  exact ⟨named, none, by simp, hfinds.2⟩

theorem fresh_of_group {delimiter : Delimiter} {opening closing : Option Region}
    {content : List TokenTree} (h : Seen (.group delimiter opening closing content :: rest)) :
    Fresh content ∧ Fresh rest ∧ Finds (inTokens [] (labels content) none false content) := by
  obtain ⟨named, before, isName, hfinds⟩ := h
  rw [inTokens, finds_append] at hfinds
  exact ⟨⟨labels content, none, by simp, hfinds.1⟩, ⟨named, none, by simp, hfinds.2⟩, hfinds.1⟩

theorem seen_of_punct (h : Seen (.punct character joint region :: rest)) : Seen rest := by
  obtain ⟨named, before, isName, hfinds⟩ := h
  rw [inTokens] at hfinds
  exact ⟨named, _, _, hfinds⟩

theorem fresh_of_punct (h : Seen (.punct character joint region :: rest))
    (hdot : character ≠ '.') (hcolon : character ≠ ':') : Fresh rest := by
  obtain ⟨named, before, isName, hfinds⟩ := h
  rw [inTokens, leadsName, if_neg hdot, if_neg hcolon] at hfinds
  refine ⟨named, _, ?_, hfinds⟩
  split
  · exact fun h => hcolon (Option.some.inj h)
  · simp

theorem ready_of_punct (h : Fresh (.punct character joint region :: rest))
    (hdot : character ≠ '.') : Ready rest := by
  obtain ⟨named, before, hbefore, hfinds⟩ := h
  have hleads : leadsName before character = false := by simp [leadsName, hdot, hbefore]
  rw [inTokens, hleads] at hfinds
  exact ⟨named, _, hfinds⟩

theorem fresh_of_dots {place : Option Region}
    (h : Seen (.punct '.' true place :: .punct '.' joint region :: rest)) : Fresh rest := by
  obtain ⟨named, before, isName, hfinds⟩ := h
  rw [inTokens, inTokens] at hfinds
  refine ⟨named, _, ?_, hfinds⟩
  split
  · simp
  · simp

theorem seen_of_cons {token : TokenTree} (h : Seen (token :: rest)) : Seen rest := by
  cases token with
  | word ident region => exact seen_of_ready (ready_of_fresh (fresh_of_word h))
  | punct character joint region => exact seen_of_punct h
  | literal text region => exact seen_of_ready (ready_of_fresh (fresh_of_literal h))
  | group delimiter opening closing content =>
    exact seen_of_ready (ready_of_fresh (fresh_of_group h).2.1)

end Scan

/-! ## Trees -/

namespace Tree

@[grind norm] theorem isKind_node {kind wanted : Kind} {parts : List Tree} :
    (Tree.node kind parts).isKind wanted = (kind == wanted) := rfl

@[grind norm] theorem expressionKind?_expression {kind : ExpressionKind} {parts : List Tree} :
    (Tree.node (.expression kind) parts).expressionKind? = some kind := rfl

mutual

/-- Whether the code ends in a word that is a path of its own. -/
def endsInWord : Tree → Bool
  | .node (.expression .path) parts => parts.getLast?.any (·.pathIdent?.isSome)
  | .node _ parts => endsInWordLast parts
  | _ => false

/-- Whether the last part of some code ends in a word that is a path of its own. -/
def endsInWordLast : List Tree → Bool
  | [] => false
  | [last] => endsInWord last
  | _ :: rest => endsInWordLast rest

end

attribute [local simp] endsInWord endsInWordLast in
@[grind norm] theorem endsInWordLast_single {tree : Tree} :
    endsInWordLast [tree] = tree.endsInWord := by
  simp

@[grind norm] theorem endsInWordLast_nil : endsInWordLast [] = false := by rw [endsInWordLast]

@[grind →] theorem endsInWordLast_of_append {first second : List Tree}
    (h : endsInWordLast (first ++ second) = false) : endsInWordLast second = false := by
  induction first with
  | nil => exact h
  | cons tree rest ih =>
    refine ih ?_
    cases hrest : rest ++ second with
    | nil => rw [endsInWordLast]
    | cons next more =>
      rw [List.cons_append, hrest, endsInWordLast] at h
      · exact h
      · nofun

@[grind norm] theorem endsInWord_pattern {kind : PatternKind} {parts : List Tree} :
    endsInWord (.node (.pattern kind) parts) = endsInWordLast parts := by
  rw [endsInWord]
  nofun

@[grind norm] theorem endsInWord_range {parts : List Tree} :
    endsInWord (.node (.expression .range) parts) = endsInWordLast parts := by
  rw [endsInWord]
  nofun

@[grind norm] theorem endsInWord_path {path : Tree} :
    endsInWord (.node (.expression .path) [path]) = path.pathIdent?.isSome := by
  simp [endsInWord]

/-- Whether the code begins with a colon. -/
def startsWithColon : List Tree → Bool
  | .leaf (.punct ':' _ _) :: _ => true
  | _ => false

mutual

/-- Whether the code or a part of it passes a test. The pattern of a `let` statement is no part. -/
def has (test : Tree → Bool) : Tree → Bool
  | .leaf token => test (.leaf token)
  | .group delimiter opening closing content =>
    test (.group delimiter opening closing content) || hasAmong test content
  | .node .target parts => test (.node .target parts)
  | .node kind parts => test (.node kind parts) || hasAmong test parts

/-- Whether one of several trees or a part of one passes a test. -/
def hasAmong (test : Tree → Bool) : List Tree → Bool
  | [] => false
  | tree :: rest => has test tree || hasAmong test rest

end

/-- Whether the code is an assignment or a condition with `let`. -/
def isAssigning : Tree → Bool
  | .node (.expression .assign) _ => true
  | .node (.expression .letCondition) _ => true
  | _ => false

/-- Whether one of several trees in a row ends in a word that is a path of its own, right in front
of a colon. -/
def labelsAmong : List Tree → Bool
  | [] => false
  | tree :: rest => tree.endsInWord && startsWithColon rest || labelsAmong rest

/-- Whether the code is an input of a closure or has the inputs of a function, and the pattern of one
ends in a word that is a path of its own, right in front of the colon of its type. -/
def labelsInput : Tree → Bool
  | .group _ _ _ content => labelsAmong content
  | .node (.pattern .typed) parts => labelsAmong parts
  | _ => false

/-- Code without assignments and conditions with `let`, in which no input looks like a label. -/
def IsPlain (tree : Tree) : Prop := tree.has isAssigning = false ∧ tree.has labelsInput = false

/-- Several trees are plain. -/
def ArePlain (trees : List Tree) : Prop := ∀ tree ∈ trees, tree.IsPlain

theorem arePlain_cons {tree : Tree} {rest : List Tree} :
    ArePlain (tree :: rest) ↔ tree.IsPlain ∧ ArePlain rest :=
  List.forall_mem_cons

theorem arePlain_iff {trees : List Tree} :
    ArePlain trees ↔ hasAmong isAssigning trees = false ∧ hasAmong labelsInput trees = false := by
  induction trees with
  | nil => simp [ArePlain, hasAmong]
  | cons tree rest ih =>
    rw [arePlain_cons, ih, IsPlain, hasAmong, hasAmong, Bool.or_eq_false_iff, Bool.or_eq_false_iff]
    exact and_and_and_comm

theorem isPlain_group {delimiter : Delimiter} {opening closing : Option Region}
    {content : List Tree} :
    IsPlain (.group delimiter opening closing content) ↔
      labelsAmong content = false ∧ ArePlain content := by
  rw [arePlain_iff, IsPlain, has, has, isAssigning, labelsInput, Bool.false_or,
    Bool.or_eq_false_iff]
  · exact and_left_comm
  all_goals nofun

theorem isPlain_node {kind : Kind} {parts : List Tree} (htarget : kind ≠ .target) :
    IsPlain (.node kind parts) ↔
      (isAssigning (.node kind parts) = false ∧ labelsInput (.node kind parts) = false) ∧
        ArePlain parts := by
  rw [arePlain_iff, IsPlain, has, has, Bool.or_eq_false_iff, Bool.or_eq_false_iff]
  · exact and_and_and_comm
  all_goals exact htarget

theorem arePlain_parts {kind : Kind} {parts : List Tree} (h : IsPlain (.node kind parts))
    (htarget : kind ≠ .target) : ArePlain parts :=
  ((isPlain_node htarget).mp h).2

theorem arePlain_content {delimiter : Delimiter} {opening closing : Option Region}
    {content : List Tree} (h : IsPlain (.group delimiter opening closing content)) :
    ArePlain content :=
  (isPlain_group.mp h).2

end Tree

/-- Whether a scan that finds the words in the parts of a construct finds those of the construct. -/
def Kind.isOrdinary : Kind → Bool
  | .binding => false
  | .target => false
  | .block => false
  | .macroCall => false
  | .pattern .typed => false
  | .expression .assign => false
  | .expression .letCondition => false
  | .expression .path => false
  | _ => true

namespace Scan

variable [Scan]

/-- A scan finds a path if it is a single word. -/
def FindsPath (path : Tree) : Prop := ∀ ident ∈ path.pathIdent?, finds ident

/-- A scan finds those of several trees that are paths of a single word. -/
def FindsPaths (parts : List Tree) : Prop := ∀ part ∈ parts, FindsPath part

@[simp, grind norm] theorem findsPaths_nil : FindsPaths [] ↔ True := by simp [FindsPaths]

@[simp, grind norm] theorem findsPaths_cons {part : Tree} {rest : List Tree} :
    FindsPaths (part :: rest) ↔ FindsPath part ∧ FindsPaths rest :=
  List.forall_mem_cons

@[grind →] theorem findsPath_of_none {path : Tree} (h : path.pathIdent?.isSome = false) :
    FindsPath path := by
  intro ident hident
  rw [Option.mem_def] at hident
  rw [hident] at h
  cases h

@[simp, grind norm] theorem findsPath_pathOfName {ident : Located Ident} :
    FindsPath (Tree.pathOfName ident) ↔ finds ident := by
  simp [FindsPath, Tree.pathOfName, Tree.pathIdent?, Tree.name]

mutual

/-- A scan finds the words of an expression that the check of expressions looks at. Nothing is said
about assignments and about conditions with `let`. A `let` statement is only covered among other
statements. -/
def Covers : Tree → Prop
  | .leaf _ => True
  | .group _ _ _ content => CoversRow content
  | .node .binding _ => False
  | .node .target _ => False
  | .node (.expression .assign) _ => True
  | .node (.expression .letCondition) _ => True
  | .node (.expression .path) parts => FindsPaths parts ∧ CoversEach parts
  | .node (.pattern .typed) parts => CoversRow parts
  | .node .block parts => CoversBlock parts
  | .node .macroCall parts => FindsCalls parts
  | .node _ parts => CoversEach parts

/-- A scan finds the words of several trees. -/
def CoversEach : List Tree → Prop
  | [] => True
  | tree :: rest => Covers tree ∧ CoversEach rest

/-- A scan finds the words of several trees in a row. Nothing is said about a tree that ends in a
word in front of a colon. -/
def CoversRow : List Tree → Prop
  | [] => True
  | tree :: rest =>
    ((tree.endsInWord && Tree.startsWithColon rest) = false → Covers tree) ∧ CoversRow rest

/-- A scan finds the words of a block. -/
def CoversBlock : List Tree → Prop
  | [] => True
  | .group _ _ _ content :: rest => CoversStatements content ∧ CoversBlock rest
  | .node .block parts :: rest => CoversBlock parts ∧ CoversBlock rest
  | _ :: rest => CoversBlock rest

/-- A scan finds the words of statements. Of a `let` statement only the initializer is looked at. -/
def CoversStatements : List Tree → Prop
  | [] => True
  | .node .binding parts :: rest => CoversInitializer parts ∧ CoversStatements rest
  | tree :: rest => Covers tree ∧ CoversStatements rest

/-- A scan finds the words of what a `let` statement binds. -/
def CoversInitializer : List Tree → Prop
  | [] => True
  | .node .initializer parts :: rest => CoversEach parts ∧ CoversInitializer rest
  | _ :: rest => CoversInitializer rest

end

/-- A scan finds the words of each of several trees. -/
def CoversAll (trees : List Tree) : Prop := ∀ tree ∈ trees, Covers tree

attribute [local simp] Covers CoversEach CoversRow CoversBlock CoversStatements CoversInitializer in
theorem coversEach_iff {trees : List Tree} : CoversEach trees ↔ CoversAll trees := by
  induction trees with
  | nil => simp [CoversAll]
  | cons tree rest ih => simp [CoversAll, ih]

@[simp, grind norm, grind =] theorem coversAll_nil : CoversAll [] ↔ True := by simp [CoversAll]

@[simp, grind norm] theorem coversAll_cons {tree : Tree} {rest : List Tree} :
    CoversAll (tree :: rest) ↔ Covers tree ∧ CoversAll rest :=
  List.forall_mem_cons

@[simp, grind norm] theorem coversAll_append {first second : List Tree} :
    CoversAll (first ++ second) ↔ CoversAll first ∧ CoversAll second :=
  List.forall_mem_append

theorem covers_of_single {tree : Tree} {trees : List Tree} (hsingle : trees = [tree])
    (h : CoversAll trees) : Covers tree := by
  subst hsingle
  exact (coversAll_cons.mp h).1

@[grind norm] theorem coversAll_ite {test : Prop} [Decidable test] {first second : List Tree} :
    CoversAll (if test then first else second) ↔
      (test → CoversAll first) ∧ (¬test → CoversAll second) := by
  split <;> simp [*]

@[grind ←] theorem coversRow_of_all {trees : List Tree} (h : CoversAll trees) : CoversRow trees := by
  induction trees with
  | nil => trivial
  | cons tree rest ih =>
    rw [coversAll_cons] at h
    exact ⟨fun _ => h.1, ih h.2⟩

theorem coversRow_append {first second : List Tree} (hfirst : CoversAll first)
    (hsecond : CoversRow second) : CoversRow (first ++ second) := by
  induction first with
  | nil => exact hsecond
  | cons tree rest ih =>
    rw [coversAll_cons] at hfirst
    exact ⟨fun _ => hfirst.1, ih hfirst.2⟩

/-! ## Covered constructs -/

@[simp, grind norm] theorem covers_leaf {token : TokenTree} : Covers (.leaf token) ↔ True := by
  rw [Covers]

@[simp, grind norm] theorem covers_group {delimiter : Delimiter} {opening closing : Option Region}
    {content : List Tree} :
    Covers (.group delimiter opening closing content) ↔ CoversRow content := by
  rw [Covers]

theorem covers_node {kind : Kind} {parts : List Tree} (h : kind.isOrdinary = true) :
    Covers (.node kind parts) ↔ CoversAll parts := by
  rw [← coversEach_iff]
  rw [Covers]
  all_goals
    rintro rfl
    cases h

section Kinds

variable {parts : List Tree}

@[grind norm] theorem covers_phrase : Covers (.node .phrase parts) ↔ CoversAll parts :=
  covers_node rfl

@[grind norm] theorem covers_path : Covers (.node .path parts) ↔ CoversAll parts :=
  covers_node rfl

@[grind norm] theorem covers_qualifiedPath : Covers (.node .qualifiedPath parts) ↔ CoversAll parts :=
  covers_node rfl

@[grind norm] theorem covers_segment : Covers (.node .segment parts) ↔ CoversAll parts :=
  covers_node rfl

@[grind norm] theorem covers_type : Covers (.node .type parts) ↔ CoversAll parts :=
  covers_node rfl

@[grind norm] theorem covers_typePath : Covers (.node .typePath parts) ↔ CoversAll parts :=
  covers_node rfl

@[grind norm] theorem covers_attribute : Covers (.node .attribute parts) ↔ CoversAll parts :=
  covers_node rfl

@[grind norm] theorem covers_parameters : Covers (.node .parameters parts) ↔ CoversAll parts :=
  covers_node rfl

@[grind norm] theorem covers_parameter {place : Nat} :
    Covers (.node (.parameter place) parts) ↔ CoversAll parts :=
  covers_node rfl

@[grind norm] theorem covers_whereClause : Covers (.node .whereClause parts) ↔ CoversAll parts :=
  covers_node rfl

@[grind norm] theorem covers_statement : Covers (.node .statement parts) ↔ CoversAll parts :=
  covers_node rfl

@[grind norm] theorem covers_item : Covers (.node .item parts) ↔ CoversAll parts :=
  covers_node rfl

@[grind norm] theorem covers_expression {kind : ExpressionKind} :
    Covers (.node (.expression kind) parts) ↔ kind = .assign ∨ kind = .letCondition ∨
      CoversAll parts ∧ (kind = .path → FindsPaths parts) := by
  by_cases hassign : kind = .assign
  · subst hassign
    simp [Covers]
  by_cases hcondition : kind = .letCondition
  · subst hcondition
    simp [Covers]
  by_cases hpath : kind = .path
  · subst hpath
    rw [Covers, coversEach_iff]
    simp [and_comm]
  have hordinary : Kind.isOrdinary (.expression kind) = true := by
    rw [Kind.isOrdinary] <;> simp [hassign, hcondition, hpath]
  simp [covers_node hordinary, hassign, hcondition, hpath]

@[grind norm] theorem covers_pattern {kind : PatternKind} :
    Covers (.node (.pattern kind) parts) ↔
      if kind = .typed then CoversRow parts else CoversAll parts := by
  split
  · rename_i htyped
    subst htyped
    rw [Covers]
  · rename_i htyped
    refine covers_node ?_
    rw [Kind.isOrdinary] <;> simp [htyped]

@[grind norm] theorem covers_macroCall :
    Covers (.node .macroCall parts) ↔ FindsCalls parts := by
  rw [Covers]

@[grind norm] theorem covers_block {delimiter : Delimiter} {opening closing : Option Region} :
    Covers (.node .block [.group delimiter opening closing parts]) ↔ CoversStatements parts := by
  simp [Covers, CoversBlock]

end Kinds

@[simp, grind norm] theorem coversStatements_nil : CoversStatements [] ↔ True := by
  simp [CoversStatements]

/-- A scan finds the words of a statement. -/
def CoversStatement (tree : Tree) : Prop := CoversStatements [tree]

@[grind norm] theorem coversStatements_cons {tree : Tree} {rest : List Tree} :
    CoversStatements (tree :: rest) ↔ CoversStatement tree ∧ CoversStatements rest := by
  rw [CoversStatement]
  by_cases hbinding : ∃ parts, tree = .node .binding parts
  · obtain ⟨parts, rfl⟩ := hbinding
    simp [CoversStatements]
  · rw [CoversStatements, CoversStatements]
    · simp [CoversStatements]
    all_goals exact fun parts hparts => hbinding ⟨parts, hparts⟩

@[grind norm] theorem coversStatements_append {first second : List Tree} :
    CoversStatements (first ++ second) ↔ CoversStatements first ∧ CoversStatements second := by
  induction first with
  | nil => simp
  | cons tree rest ih =>
    rw [List.cons_append, coversStatements_cons, ih, coversStatements_cons, and_assoc]

section Statements

variable {parts : List Tree}

@[grind norm] theorem coversStatement_binding :
    CoversStatement (.node .binding parts) ↔ CoversInitializer parts := by
  simp [CoversStatement, CoversStatements]

@[grind norm] theorem coversStatement_statement :
    CoversStatement (.node .statement parts) ↔ CoversAll parts := by
  simp [CoversStatement, CoversStatements, covers_statement]

@[grind norm] theorem coversStatement_item :
    CoversStatement (.node .item parts) ↔ CoversAll parts := by
  simp [CoversStatement, CoversStatements, covers_item]

end Statements

/-- A scan covers attributes that are written in front of something. -/
@[grind] def CoversAttributes (trees : List Tree) : Prop :=
  CoversAll trees ∧ ∀ tree ∈ trees, tree.isKind .attribute = true

theorem coversAttributes_cons {tree : Tree} {rest : List Tree} :
    CoversAttributes (tree :: rest) ↔
      (∃ parts, tree = .node .attribute parts ∧ CoversAll parts) ∧ CoversAttributes rest := by
  rw [CoversAttributes, CoversAttributes, coversAll_cons, List.forall_mem_cons]
  constructor
  · rintro ⟨⟨hcovers, hrest⟩, hkind, hkinds⟩
    cases tree with
    | node kind parts =>
      obtain rfl : kind = .attribute := by simpa [Tree.isKind] using hkind
      exact ⟨⟨parts, rfl, covers_attribute.mp hcovers⟩, hrest, hkinds⟩
    | _ => cases hkind
  · rintro ⟨⟨parts, rfl, hparts⟩, hrest, hkinds⟩
    exact ⟨⟨covers_attribute.mpr hparts, hrest⟩, rfl, hkinds⟩

@[grind →] theorem coversStatements_of_attributes {trees : List Tree} (h : CoversAttributes trees) :
    CoversStatements trees := by
  induction trees with
  | nil => trivial
  | cons tree rest ih =>
    obtain ⟨⟨parts, rfl, hparts⟩, hrest⟩ := coversAttributes_cons.mp h
    rw [CoversStatements]
    · exact ⟨covers_attribute.mpr hparts, ih hrest⟩
    · nofun

@[simp, grind norm] theorem covers_name {ident : Located Ident} : Covers (Tree.name ident) ↔ True :=
  covers_leaf

@[simp, grind norm] theorem covers_pathOfName {ident : Located Ident} :
    Covers (Tree.pathOfName ident) ↔ True := by
  simp [Tree.pathOfName, covers_path, covers_segment]

@[simp, grind norm] theorem coversAll_opaqueTokens {tokens : List TokenTree} :
    CoversAll (Tree.opaqueTokens tokens) ↔ True := by
  simp [CoversAll, Tree.opaqueTokens]

@[simp, grind norm] theorem coversAll_operator {text : String} :
    CoversAll (Tree.operator text) ↔ True :=
  coversAll_opaqueTokens

/-! ## What is looked at in a covered tree -/

theorem finds_map_enclosed {outer : List Ident} {occurrences : List Occurrence} :
    Finds (occurrences.map (enclosed outer)) ↔ Finds occurrences := by
  simp [Finds, enclosed]

theorem finds_ofPath (bound : List Ident) {parts : List Tree}
    (h : FindsPaths parts) : Finds (ofPath bound parts) := by
  intro occurrence hoccurrence
  obtain ⟨part, hpart, hfound⟩ := List.mem_filterMap.mp hoccurrence
  obtain ⟨ident, hident, rfl⟩ := Option.map_eq_some_iff.mp hfound
  exact h part hpart ident hident

theorem finds_inSourceOrder {parameters : List (Nat × List Occurrence)}
    (h : ∀ parameter ∈ parameters, Finds parameter.2) : Finds (inSourceOrder parameters) := by
  intro occurrence hoccurrence
  obtain ⟨parameter, hparameter, hmem⟩ := List.mem_flatMap.mp hoccurrence
  exact h parameter (List.mem_mergeSort.mp hparameter) occurrence hmem

/-- Several trees are plain, and a scan covers each of them. -/
def CoversPlain (trees : List Tree) : Prop := ∀ tree ∈ trees, Covers tree ∧ tree.IsPlain

theorem coversPlain_cons {tree : Tree} {rest : List Tree} :
    CoversPlain (tree :: rest) ↔ (Covers tree ∧ tree.IsPlain) ∧ CoversPlain rest :=
  List.forall_mem_cons

theorem coversPlain_of_each {trees : List Tree} (h : CoversEach trees)
    (hplain : Tree.ArePlain trees) : CoversPlain trees :=
  fun tree htree => ⟨coversEach_iff.mp h tree htree, hplain tree htree⟩

theorem coversPlain_of_row {trees : List Tree} (h : CoversRow trees)
    (hlabels : Tree.labelsAmong trees = false) (hplain : Tree.ArePlain trees) :
    CoversPlain trees := by
  induction trees with
  | nil => exact fun _ htree => absurd htree List.not_mem_nil
  | cons tree rest ih =>
    rw [CoversRow] at h
    rw [Tree.labelsAmong, Bool.or_eq_false_iff] at hlabels
    rw [Tree.arePlain_cons] at hplain
    exact coversPlain_cons.mpr ⟨⟨h.1 hlabels.1, hplain.1⟩, ih h.2 hlabels.2 hplain.2⟩

/-- Of a plain construct that a scan covers, it covers the parts, unless they are looked at in a way of
their own. -/
theorem coversPlain_parts {kind : Kind} {parts : List Tree} (hcovers : Covers (.node kind parts))
    (hplain : Tree.IsPlain (.node kind parts)) (hpath : kind ≠ .expression .path)
    (hblock : kind ≠ .block) (hcall : kind ≠ .macroCall) : CoversPlain parts := by
  by_cases htarget : kind = .target
  · subst htarget
    rw [Covers] at hcovers
    cases hcovers
  obtain ⟨⟨hassigning, hlabels⟩, hparts⟩ := (Tree.isPlain_node htarget).mp hplain
  by_cases hassign : kind = .expression .assign
  · subst hassign
    cases hassigning
  by_cases hcondition : kind = .expression .letCondition
  · subst hcondition
    cases hassigning
  by_cases hbinding : kind = .binding
  · subst hbinding
    rw [Covers] at hcovers
    cases hcovers
  by_cases htyped : kind = .pattern .typed
  · subst htyped
    rw [Covers] at hcovers
    exact coversPlain_of_row hcovers hlabels hparts
  rw [Covers] at hcovers <;> try assumption
  exact coversPlain_of_each hcovers hparts

/-- A scan that covers plain code finds all that the check of expressions finds in it. -/
theorem finds_inTree (bound : List Ident) (tree : Tree) :
    Covers tree → tree.IsPlain → Finds (inTree bound tree) := by
  refine (inTree.mutual_induct
    (fun bound tree => Covers tree → tree.IsPlain → Finds (inTree bound tree))
    (fun bound parts => CoversPlain parts ∨ CoversBlock parts ∧ Tree.ArePlain parts →
      Finds (inBodyAttributes bound parts))
    (fun bound trees => CoversPlain trees ∨ CoversStatements trees ∧ Tree.ArePlain trees →
      Finds (inInner bound trees))
    (fun bound wanted parts => CoversPlain parts → Finds (inTurn bound wanted parts))
    (fun bound parts => CoversPlain parts →
      ∀ parameter ∈ inParameters bound parts, Finds parameter.2)
    (fun bound parts => CoversBlock parts → Tree.ArePlain parts →
      Finds (inBlock bound parts))
    (fun bound trees => CoversStatements trees → Tree.ArePlain trees →
      Finds (inStatements bound trees))
    (fun bound parts => CoversInitializer parts → Tree.ArePlain parts →
      Finds (inInitializer bound parts))
    (fun bound trees => CoversPlain trees → Finds (inTrees bound trees))
    ?leaf ?group ?path ?closure ?block ?call ?parameters ?other
    ?noBody ?groupBody ?blockBody ?otherBody ?noInner ?inner ?noTurn ?turn
    ?noParameters ?parameter ?otherParameter ?noBlock ?statements ?otherBlock
    ?noStatements ?binding ?statement ?noInitializer ?initializer ?otherInitializer
    ?noTrees ?trees).1 bound tree
  case leaf =>
    intro bound token _ _
    rw [inTree]
    exact finds_nil
  case group =>
    intro bound delimiter opening closing content ih hcovers hplain
    rw [Covers] at hcovers
    obtain ⟨hlabels, hcontent⟩ := Tree.isPlain_group.mp hplain
    rw [inTree]
    exact ih (coversPlain_of_row hcovers hlabels hcontent)
  case path =>
    intro bound parts ih hcovers hplain
    rw [Covers] at hcovers
    rw [inTree, finds_append]
    exact ⟨finds_ofPath bound hcovers.1,
      ih (coversPlain_of_each hcovers.2 (Tree.arePlain_parts hplain (by decide)))⟩
  case closure =>
    intro bound parts ih hcovers hplain
    rw [inTree]
    exact ih (coversPlain_parts hcovers hplain (by decide) (by decide) (by decide))
  case block =>
    intro bound parts ih hcovers hplain
    rw [Covers] at hcovers
    rw [inTree]
    exact ih hcovers (Tree.arePlain_parts hplain (by decide))
  case call =>
    intro bound parts hcovers _
    rw [Covers] at hcovers
    rw [inTree, ← List.nil_append bound, inArguments_append, finds_map_enclosed]
    exact hcovers
  case parameters =>
    intro bound parts ih hcovers hplain
    rw [inTree]
    have hparts := coversPlain_parts hcovers hplain (by decide) (by decide) (by decide)
    exact finds_inSourceOrder (ih hparts)
  case other =>
    intro bound kind parts hpath hclosure hblock hcall hparameters hattributes hbody hgenerics
      hcontent hcovers hplain
    have hcovered := coversPlain_parts hcovers hplain hpath hblock hcall
    rw [inTree] <;> try assumption
    simp only [finds_append]
    exact ⟨⟨⟨hattributes hcovered, hbody (.inl hcovered)⟩, hgenerics hcovered⟩, hcontent hcovered⟩
  case noBody => exact fun bound _ => finds_nil
  case groupBody =>
    intro bound delimiter opening closing content rest ihcontent ihrest hcovers
    rw [inBodyAttributes, finds_append]
    rcases hcovers with hcovers | ⟨hcovers, hplain⟩
    · obtain ⟨⟨hgroup, hplain⟩, hrest⟩ := coversPlain_cons.mp hcovers
      obtain ⟨hlabels, hcontent⟩ := Tree.isPlain_group.mp hplain
      rw [Covers] at hgroup
      exact ⟨ihcontent (.inl (coversPlain_of_row hgroup hlabels hcontent)), ihrest (.inl hrest)⟩
    · obtain ⟨hgroup, hrest⟩ := Tree.arePlain_cons.mp hplain
      rw [CoversBlock] at hcovers
      exact ⟨ihcontent (.inr ⟨hcovers.1, Tree.arePlain_content hgroup⟩),
        ihrest (.inr ⟨hcovers.2, hrest⟩)⟩
  case blockBody =>
    intro bound parts rest ihparts ihrest hcovers
    rw [inBodyAttributes, finds_append]
    rcases hcovers with hcovers | ⟨hcovers, hplain⟩
    · obtain ⟨⟨hblock, hplain⟩, hrest⟩ := coversPlain_cons.mp hcovers
      rw [Covers] at hblock
      exact ⟨ihparts (.inr ⟨hblock, Tree.arePlain_parts hplain (by decide)⟩), ihrest (.inl hrest)⟩
    · obtain ⟨hblock, hrest⟩ := Tree.arePlain_cons.mp hplain
      rw [CoversBlock] at hcovers
      exact ⟨ihparts (.inr ⟨hcovers.1, Tree.arePlain_parts hblock (by decide)⟩),
        ihrest (.inr ⟨hcovers.2, hrest⟩)⟩
  case otherBody =>
    intro bound tree rest hgroup hblock ih hcovers
    rw [inBodyAttributes] <;> try assumption
    rcases hcovers with hcovers | ⟨hcovers, hplain⟩
    · exact ih (.inl (coversPlain_cons.mp hcovers).2)
    · rw [CoversBlock] at hcovers <;> try assumption
      exact ih (.inr ⟨hcovers, (Tree.arePlain_cons.mp hplain).2⟩)
  case noInner => exact fun bound _ => finds_nil
  case inner =>
    intro bound tree rest ihtree ihrest hcovers
    rw [inInner, finds_append]
    rcases hcovers with hcovers | ⟨hcovers, hplain⟩
    · obtain ⟨⟨htree, hplain⟩, hrest⟩ := coversPlain_cons.mp hcovers
      refine ⟨?_, ihrest (.inl hrest)⟩
      split
      · exact ihtree htree hplain
      · exact finds_nil
    · obtain ⟨hplain, hrest⟩ := Tree.arePlain_cons.mp hplain
      by_cases hbinding : ∃ parts, tree = .node .binding parts
      · obtain ⟨parts, rfl⟩ := hbinding
        rw [CoversStatements] at hcovers
        exact ⟨finds_nil, ihrest (.inr ⟨hcovers.2, hrest⟩)⟩
      · rw [CoversStatements] at hcovers
        · refine ⟨?_, ihrest (.inr ⟨hcovers.2, hrest⟩)⟩
          split
          · exact ihtree hcovers.1 hplain
          · exact finds_nil
        · exact fun parts hparts => hbinding ⟨parts, hparts⟩
  case noTurn => exact fun bound wanted _ => finds_nil
  case turn =>
    intro bound wanted tree rest ihtree ihrest hcovers
    obtain ⟨⟨htree, hplain⟩, hrest⟩ := coversPlain_cons.mp hcovers
    rw [inTurn, finds_append]
    refine ⟨?_, ihrest hrest⟩
    split
    · exact ihtree htree hplain
    · exact finds_nil
  case noParameters => exact fun bound _ => List.forall_mem_nil _
  case parameter =>
    intro bound place parts rest hattributes hcontent ih hcovers
    obtain ⟨⟨hparameter, hplain⟩, hrest⟩ := coversPlain_cons.mp hcovers
    have hparts := coversPlain_parts hparameter hplain (by simp) (by simp) (by simp)
    rw [inParameters, List.forall_mem_cons, finds_append]
    exact ⟨⟨hattributes hparts, hcontent hparts⟩, ih hrest⟩
  case otherParameter =>
    intro bound tree rest hparameter ih hcovers
    rw [inParameters] <;> try assumption
    exact ih (coversPlain_cons.mp hcovers).2
  case noBlock => exact fun bound _ _ => finds_nil
  case statements =>
    intro bound delimiter opening closing content rest ihcontent ihrest hcovers hplain
    obtain ⟨hgroup, hrest⟩ := Tree.arePlain_cons.mp hplain
    rw [CoversBlock] at hcovers
    rw [inBlock, finds_append]
    exact ⟨ihcontent hcovers.1 (Tree.arePlain_content hgroup), ihrest hcovers.2 hrest⟩
  case otherBlock =>
    intro bound tree rest hgroup ih hcovers hplain
    obtain ⟨-, hrest⟩ := Tree.arePlain_cons.mp hplain
    rw [inBlock] <;> try assumption
    by_cases hblock : ∃ parts, tree = .node .block parts
    · obtain ⟨parts, rfl⟩ := hblock
      rw [CoversBlock] at hcovers
      exact ih hcovers.2 hrest
    · rw [CoversBlock] at hcovers
      · exact ih hcovers hrest
      · exact hgroup
      · exact fun parts hparts => hblock ⟨parts, hparts⟩
  case noStatements => exact fun bound _ _ => finds_nil
  case binding =>
    intro bound parts rest ihparts ihrest hcovers hplain
    obtain ⟨hbinding, hrest⟩ := Tree.arePlain_cons.mp hplain
    rw [CoversStatements] at hcovers
    rw [inStatements, finds_append]
    exact ⟨ihparts hcovers.1 (Tree.arePlain_parts hbinding (by decide)), ihrest hcovers.2 hrest⟩
  case statement =>
    intro bound tree rest hbinding ihtree ihrest hcovers hplain
    obtain ⟨hplain, hrest⟩ := Tree.arePlain_cons.mp hplain
    rw [CoversStatements] at hcovers <;> try assumption
    rw [inStatements, finds_append] <;> try assumption
    refine ⟨?_, ihrest hcovers.2 hrest⟩
    split
    · exact finds_nil
    · exact ihtree hcovers.1 hplain
  case noInitializer => exact fun bound _ _ => finds_nil
  case initializer =>
    intro bound parts rest ihparts ihrest hcovers hplain
    obtain ⟨hinitializer, hrest⟩ := Tree.arePlain_cons.mp hplain
    rw [CoversInitializer] at hcovers
    rw [inInitializer, finds_append]
    exact ⟨ihparts (coversPlain_of_each hcovers.1 (Tree.arePlain_parts hinitializer (by decide))),
      ihrest hcovers.2 hrest⟩
  case otherInitializer =>
    intro bound tree rest hinitializer ih hcovers hplain
    rw [CoversInitializer] at hcovers <;> try assumption
    rw [inInitializer] <;> try assumption
    exact ih hcovers (Tree.arePlain_cons.mp hplain).2
  case noTrees => exact fun bound _ => finds_nil
  case trees =>
    intro bound tree rest ihtree ihrest hcovers
    obtain ⟨⟨htree, hplain⟩, hrest⟩ := coversPlain_cons.mp hcovers
    rw [inTrees, finds_append]
    refine ⟨?_, ihrest hrest⟩
    split
    · exact finds_nil
    · exact ihtree htree hplain

end Scan

end Counterpart
