import Counterpart.Proofs.ScannedParsers

/-!
# Paths that a scan covers

Readers of attributes, blocks, arguments and paths. A path of a single word is what the check of an
expression looks at, so for a path it is also said that the scan finds it.
-/

set_option mvcgen.warning false

open Std.Do Counterpart.Occurrence Counterpart.Scan Counterpart.Parser

namespace Counterpart

variable [Scan]

/-! ## Attributes -/

theorem MetaPath.covers_tree {path : MetaPath} (h : CoversAll path.root) : Covers path.tree := by
  have hlater : ∀ segments, CoversAll (MetaPath.laterParts segments) := by
    intro segments
    induction segments with
    | nil => simp [MetaPath.laterParts]
    | cons segment rest ih =>
      rw [MetaPath.laterParts]
      grind -ring -linarith
  rw [MetaPath.tree]
  split <;> grind -ring -linarith

/-- A scan covers what stands behind the path of an attribute. -/
@[grind] def MetaArguments.Covered : MetaArguments → Prop
  | .word => True
  | .list _ _ _ _ => True
  | .value equals tree => CoversAll equals ∧ Covers tree

@[grind norm] theorem MetaItem.coversAll_trees {item : MetaItem} :
    CoversAll item.trees ↔ Covers item.path.tree ∧ item.arguments.Covered := by
  obtain ⟨path, arguments⟩ := item
  cases arguments <;> simp [MetaItem.trees, MetaArguments.Covered]

@[grind norm] theorem Attribute.covers_tree {attr : Attribute} :
    Covers attr.tree ↔ CoversAll attr.lead ∧ CoversRow attr.content.trees := by
  simp [Attribute.tree, covers_attribute]

theorem coversAttributes_filter {attributes : List Attribute}
    (h : ∀ attr ∈ attributes, Covers attr.tree) (test : Attribute → Bool) :
    CoversAttributes ((attributes.filter test).map (·.tree)) := by
  constructor
  · intro tree htree
    obtain ⟨attr, hattr, rfl⟩ := List.mem_map.mp htree
    exact h attr (List.mem_filter.mp hattr).1
  · intro tree htree
    obtain ⟨attr, hattr, rfl⟩ := List.mem_map.mp htree
    rfl

@[grind ←] theorem coversAttributes_outer {attributes : List Attribute}
    (h : ∀ attr ∈ attributes, Covers attr.tree) : CoversAttributes (Attribute.outer attributes) :=
  coversAttributes_filter h _

@[grind ←] theorem coversAll_outer {attributes : List Attribute}
    (h : ∀ attr ∈ attributes, Covers attr.tree) : CoversAll (Attribute.outer attributes) :=
  (coversAttributes_outer h).1

@[grind ←] theorem coversAttributes_inner {attributes : List Attribute}
    (h : ∀ attr ∈ attributes, Covers attr.tree) : CoversAttributes (Attribute.inner attributes) :=
  coversAttributes_filter h _

namespace Grammar

@[grind norm] theorem covers_literalExpression {parts : List Tree} :
    Covers (literalExpression parts) ↔ CoversAll parts := by
  simp [literalExpression, covers_expression]

omit [Scan] in
theorem operatorLeaves_length {characters : List Char} {tokens remaining : List TokenTree}
    {leaves : List Tree} (h : operatorLeaves? characters tokens = some (leaves, remaining)) :
    remaining.length ≤ tokens.length := by
  fun_induction operatorLeaves? characters tokens generalizing leaves remaining with
  | case1 rest =>
    cases h
    exact le_rfl
  | case2 last character joint region rest hcharacter =>
    cases h
    exact Nat.le_succ _
  | case4 wanted more character joint region rest hmore hcharacter ih =>
    obtain ⟨⟨inner, after⟩, hinner, heq⟩ := Option.map_eq_some_iff.mp h
    cases heq
    exact Nat.le_succ_of_le (ih hinner)
  | case3 => cases h
  | case5 => cases h
  | case6 => cases h

/-- A path of plain words ends in a word unless it ends in a double colon. -/
theorem plainSegments_spec (fuel : Nat) (c₀ : Cursor) :
    ⦃fun c => ⌜c = c₀⌝⦄ plainSegments fuel
      ⦃⇓? v c => ⌜c₀.rest.length < fuel → c.unread = none → c₀.unread = none ∧
        (Seen c₀.rest → Seen c.rest ∧ (v.2 = false → Fresh c.rest))⌝⦄ := by
  have hword : ∀ c₀, ⦃fun c => ⌜c = c₀⌝⦄ anyWord
      ⦃⇓? v c => ⌜Names c₀ v c ∧ c.rest.length < c₀.rest.length⌝⦄ := by
    refine fun c₀ => triple_iff.mpr fun v c h => ⟨triple_iff.mp (anyWord_spec c₀) v c h, ?_⟩
    rw [anyWord] at h
    split at h
    · rename_i hrest
      cases h
      simp [hrest]
    · cases h
  have hcolons : ∀ c₀, ⦃fun c => ⌜c = c₀⌝⦄ operator "::"
      ⦃⇓? v c => ⌜ReadsOperator "::" c₀ v c ∧ c.rest.length ≤ c₀.rest.length⌝⦄ := by
    refine fun c₀ => triple_iff.mpr fun v c h => ⟨triple_iff.mp (operator_spec _ c₀) v c h, ?_⟩
    rw [operator] at h
    split at h
    · rename_i hleaves
      cases h
      exact operatorLeaves_length hleaves
    · cases h
  induction fuel generalizing c₀ with
  | zero =>
    mvcgen [plainSegments]
    grind -ring -linarith
  | succ fuel ih =>
    mvcgen [plainSegments, -anyWord_spec, -operator_spec, hword, hcolons, ih]
    all_goals grind -ring -linarith

@[spec] theorem modulePath_spec (c₀ : Cursor) :
    ⦃fun c => ⌜c = c₀⌝⦄ modulePath ⦃⇓? v c => ⌜Reads c₀ (Covers v.tree) c⌝⦄ := by
  mvcgen [modulePath, plainSegments_spec]
  all_goals grind -ring -linarith [MetaPath.covers_tree]

variable (grammar : Grammar) [Sound grammar]

@[spec] theorem metaValue_spec (c₀ : Cursor) :
    ⦃fun c => ⌜c = c₀⌝⦄ metaValue grammar ⦃⇓? v c => ⌜Settles c₀ (Covers v) c⌝⦄ := by
  mvcgen [metaValue]
  all_goals grind -ring -linarith

@[spec] theorem metaArguments_spec (c₀ : Cursor) :
    ⦃fun c => ⌜c = c₀⌝⦄ metaArguments grammar
      ⦃⇓? v c => ⌜Lists c₀ v.Covered c⌝⦄ := by
  mvcgen [metaArguments]
  all_goals grind -ring -linarith

@[spec] theorem metaItem_spec (c₀ : Cursor) :
    ⦃fun c => ⌜c = c₀⌝⦄ metaItem grammar ⦃⇓? v c => ⌜Lists c₀ (CoversAll v.trees) c⌝⦄ := by
  mvcgen [metaItem]
  all_goals grind -ring -linarith [MetaPath.covers_tree]

@[spec] theorem outerAttribute_spec (c₀ : Cursor) :
    ⦃fun c => ⌜c = c₀⌝⦄ outerAttribute grammar ⦃⇓? v c => ⌜Reads c₀ (Covers v.tree) c⌝⦄ := by
  have hinside := inside_spec .bracket (fun item => CoversAll (MetaItem.trees item))
    (metaItem grammar)
  mvcgen [outerAttribute, hinside]
  all_goals grind -ring -linarith

@[spec] theorem innerAttribute_spec (c₀ : Cursor) :
    ⦃fun c => ⌜c = c₀⌝⦄ innerAttribute grammar ⦃⇓? v c => ⌜Reads c₀ (Covers v.tree) c⌝⦄ := by
  have hinside := inside_spec .bracket (fun item => CoversAll (MetaItem.trees item))
    (metaItem grammar)
  mvcgen [innerAttribute, hinside]
  all_goals grind -ring -linarith

/-- Attributes are covered. -/
@[spec] theorem attributeLoop_spec (fuel : Nat) {test : List TokenTree → Bool}
    {parser : Parser Attribute}
    (hentry : ∀ c₀, ⦃fun c => ⌜c = c₀⌝⦄ parser ⦃⇓? v c => ⌜Reads c₀ (Covers v.tree) c⌝⦄)
    (c₀ : Cursor) :
    ⦃fun c => ⌜c = c₀⌝⦄ attributeLoop fuel test parser
      ⦃⇓? v c => ⌜Passes c₀ (∀ attr ∈ v, Covers attr.tree) c⌝⦄ := by
  induction fuel generalizing c₀ with
  | zero =>
    mvcgen [attributeLoop]
    all_goals grind -ring -linarith
  | succ fuel ih =>
    mvcgen [attributeLoop, hentry, ih]
    all_goals grind -ring -linarith

@[spec] theorem outerAttributes_spec (c₀ : Cursor) :
    ⦃fun c => ⌜c = c₀⌝⦄ outerAttributes grammar
      ⦃⇓? v c => ⌜Passes c₀ (∀ attr ∈ v, Covers attr.tree) c⌝⦄ := by
  mvcgen [outerAttributes]
  all_goals grind -ring -linarith

@[spec] theorem innerAttributes_spec (c₀ : Cursor) :
    ⦃fun c => ⌜c = c₀⌝⦄ innerAttributes grammar
      ⦃⇓? v c => ⌜Passes c₀ (∀ attr ∈ v, Covers attr.tree) c⌝⦄ := by
  mvcgen [innerAttributes]
  all_goals grind -ring -linarith

@[spec] theorem outerTrees_spec (c₀ : Cursor) :
    ⦃fun c => ⌜c = c₀⌝⦄ outerTrees grammar ⦃⇓? v c => ⌜Passes c₀ (CoversAttributes v) c⌝⦄ := by
  mvcgen [outerTrees]
  all_goals grind -ring -linarith

@[spec] theorem innerTrees_spec (c₀ : Cursor) :
    ⦃fun c => ⌜c = c₀⌝⦄ innerTrees grammar ⦃⇓? v c => ⌜Passes c₀ (CoversAttributes v) c⌝⦄ := by
  mvcgen [innerTrees]
  all_goals grind -ring -linarith

/-! ## Blocks -/

@[spec] theorem statementLoop_spec (fuel : Nat) (c₀ : Cursor) :
    ⦃fun c => ⌜c = c₀⌝⦄ statementLoop grammar fuel
      ⦃⇓? v c => ⌜Fills c₀ (CoversStatements v) c⌝⦄ := by
  induction fuel generalizing c₀ with
  | zero =>
    mvcgen [statementLoop]
    all_goals grind -ring -linarith
  | succ fuel ih =>
    mvcgen [statementLoop, ih]
    all_goals grind -ring -linarith

@[spec] theorem statements_spec (c₀ : Cursor) :
    ⦃fun c => ⌜c = c₀⌝⦄ statements grammar ⦃⇓? v c => ⌜Fills c₀ (CoversStatements v) c⌝⦄ := by
  mvcgen [statements]
  all_goals grind -ring -linarith

@[spec] theorem block_spec (c₀ : Cursor) :
    ⦃fun c => ⌜c = c₀⌝⦄ block grammar ⦃⇓? v c => ⌜Closes c₀ (Covers v) c⌝⦄ := by
  have hinside := inside_spec .brace CoversStatements (statements grammar)
  unfold block groupOf
  mvcgen [hinside]
  all_goals grind -ring -linarith

@[spec] theorem attributedBlock_spec (c₀ : Cursor) :
    ⦃fun c => ⌜c = c₀⌝⦄ attributedBlock grammar ⦃⇓? v c => ⌜Closes c₀ (Covers v) c⌝⦄ := by
  have hinside := inside_spec .brace CoversStatements
  unfold attributedBlock groupOf
  mvcgen [hinside]
  all_goals grind -ring -linarith

/-! ## Arguments -/

@[spec] theorem constantArgument_spec (c₀ : Cursor) :
    ⦃fun c => ⌜c = c₀⌝⦄ constantArgument grammar ⦃⇓? v c => ⌜Settles c₀ (Covers v) c⌝⦄ := by
  mvcgen [constantArgument]
  all_goals grind -ring -linarith

theorem coversAll_plainSegment {tree : Tree} {parts : List Tree}
    (h : plainSegment? tree = some parts) (hcovers : Covers tree) : CoversAll parts := by
  rw [plainSegment?.eq_def] at h
  split at h
  case h_1 name =>
    cases h
    simpa [covers_typePath, covers_path, covers_segment] using hcovers
  case h_2 name arguments =>
    cases h
    simpa [covers_typePath, covers_path, covers_segment, covers_phrase] using hcovers
  case h_3 => cases h

@[spec] theorem constraintBounds_spec (c₀ : Cursor) :
    ⦃fun c => ⌜c = c₀⌝⦄ constraintBounds grammar ⦃⇓? v c => ⌜Goes c₀ (CoversAll v) c⌝⦄ := by
  mvcgen [constraintBounds]
  all_goals grind -ring -linarith

@[spec] theorem pathArgument_spec (c₀ : Cursor) :
    ⦃fun c => ⌜c = c₀⌝⦄ pathArgument grammar ⦃⇓? v c => ⌜Lists c₀ (Covers v) c⌝⦄ := by
  mvcgen [pathArgument]
  all_goals grind -ring -linarith [coversAll_plainSegment]

/-- Pieces with the commas behind them are covered. -/
def CoversPieces (pieces : List (Tree × List Tree)) : Prop :=
  ∀ piece ∈ pieces, Covers piece.1 ∧ CoversAll piece.2

@[grind norm] theorem coversPieces_nil : CoversPieces [] ↔ True := by simp [CoversPieces]

@[grind norm] theorem coversPieces_cons {piece : Tree × List Tree} {rest : List (Tree × List Tree)} :
    CoversPieces (piece :: rest) ↔ (Covers piece.1 ∧ CoversAll piece.2) ∧ CoversPieces rest :=
  List.forall_mem_cons

@[spec] theorem argumentLoop_spec (fuel : Nat) (c₀ : Cursor) :
    ⦃fun c => ⌜c = c₀⌝⦄ argumentLoop grammar fuel ⦃⇓? v c => ⌜Lists c₀ (CoversPieces v) c⌝⦄ := by
  induction fuel generalizing c₀ with
  | zero =>
    mvcgen [argumentLoop]
    all_goals grind -ring -linarith
  | succ fuel ih =>
    mvcgen [argumentLoop, ih]
    all_goals grind -ring -linarith

theorem coversAll_joinWithCommas {open? : Bool} {pieces : List (Tree × List Tree)}
    (h : CoversPieces pieces) : CoversAll (joinWithCommas open? pieces) := by
  induction pieces generalizing open? with
  | nil => simp [joinWithCommas]
  | cons piece rest ih =>
    obtain ⟨tree, comma⟩ := piece
    obtain ⟨⟨htree, hcomma⟩, hrest⟩ := List.forall_mem_cons.mp h
    rw [joinWithCommas]
    cases open? <;> grind -ring -linarith

@[grind ←] theorem coversAll_orderedArguments {pieces : List (Tree × List Tree)}
    (h : CoversPieces pieces) : CoversAll (orderedArguments pieces) := by
  rw [orderedArguments, List.partition_eq_filter_filter, coversAll_append]
  constructor
  · intro tree htree
    obtain ⟨piece, hpiece, hmem⟩ := List.mem_flatMap.mp htree
    have hcovers := h piece (List.mem_filter.mp hpiece).1
    rcases List.mem_cons.mp hmem with rfl | hcomma
    · exact hcovers.1
    · exact hcovers.2 tree hcomma
  · exact coversAll_joinWithCommas fun piece hpiece => h piece (List.mem_filter.mp hpiece).1

@[spec] theorem angleArguments_spec (c₀ : Cursor) :
    ⦃fun c => ⌜c = c₀⌝⦄ angleArguments grammar ⦃⇓? v c => ⌜Reads c₀ (Covers v) c⌝⦄ := by
  mvcgen [angleArguments]
  all_goals grind -ring -linarith

@[spec] theorem returnType_spec (sums : Bool) (c₀ : Cursor) :
    ⦃fun c => ⌜c = c₀⌝⦄ returnType grammar sums ⦃⇓? v c => ⌜Passes c₀ (CoversAll v) c⌝⦄ := by
  mvcgen [returnType]
  all_goals grind -ring -linarith

@[spec] theorem callArguments_spec (c₀ : Cursor) :
    ⦃fun c => ⌜c = c₀⌝⦄ callArguments grammar ⦃⇓? v c => ⌜Reads c₀ (Covers v) c⌝⦄ := by
  mvcgen [callArguments]
  all_goals grind -ring -linarith

/-! ## Paths -/

/-- A path that is read is covered, and a scan finds it unless it is a label. -/
@[grind] def ReadsPath (first : Cursor) (path : Tree) (second : Cursor) : Prop :=
  isLabel first.rest = false ∧ (second.unread = none → first.unread = none ∧
    (Seen first.rest → Fresh second.rest ∧ Covers path) ∧
    (Ready first.rest → isLabel second.rest = false → FindsPath path))

omit [Scan] in
theorem pathIdent?_segments {root rest : List Tree} {first : Tree} {ident : Located Ident}
    (h : Tree.pathIdent? (.node .path (root ++ first :: rest)) = some ident) :
    root = [] ∧ rest = [] := by
  cases root with
  | nil =>
    cases rest with
    | nil => exact ⟨rfl, rfl⟩
    | cons second rest => simp [Tree.pathIdent?] at h
  | cons mark root =>
    cases root <;> simp [Tree.pathIdent?] at h

@[grind ←] theorem findsPath_of_segments {root rest : List Tree} {first : Tree}
    (h : root = [] → rest = [] → FindsPath (.node .path [first])) :
    FindsPath (.node .path (root ++ first :: rest)) := by
  intro ident hident
  obtain ⟨rfl, rfl⟩ := pathIdent?_segments hident
  exact h rfl rfl ident hident

@[grind norm] theorem findsPath_qualified {parts : List Tree} :
    FindsPath (.node .qualifiedPath parts) ↔ True := by
  simp [FindsPath, Tree.pathIdent?]

@[grind norm] theorem findsPath_name {ident : Located Ident} :
    FindsPath (.node .path [.node .segment [Tree.name ident]]) ↔ finds ident :=
  findsPath_pathOfName

@[grind norm] theorem findsPath_arguments {ident : Located Ident} {arguments : Tree} :
    FindsPath (.node .path [.node .segment [Tree.name ident, arguments]]) ↔ True := by
  simp [FindsPath, Tree.pathIdent?]

@[spec] theorem pathSegment_spec (inExpression : Bool) (c₀ : Cursor) :
    ⦃fun c => ⌜c = c₀⌝⦄ pathSegment grammar inExpression
      ⦃⇓? v c => ⌜ReadsPath c₀ (.node .path [v]) c⌝⦄ := by
  mvcgen [pathSegment]
  all_goals grind -ring -linarith

@[spec] theorem path_spec (inExpression : Bool) (c₀ : Cursor) :
    ⦃fun c => ⌜c = c₀⌝⦄ path grammar inExpression
      ⦃⇓? v c => ⌜ReadsPath c₀ v c ∧ v.isKind .path = true⌝⦄ := by
  mvcgen [path, many_some_spec]
  all_goals grind -ring -linarith [List.append_eq_nil_iff]

@[spec] theorem qualifiedPath_spec (inExpression : Bool) (c₀ : Cursor) :
    ⦃fun c => ⌜c = c₀⌝⦄ qualifiedPath grammar inExpression ⦃⇓? v c => ⌜ReadsPath c₀ v c⌝⦄ := by
  mvcgen [qualifiedPath, many_some_spec]
  all_goals grind -ring -linarith [List.append_eq_nil_iff]

theorem covers_withLastArguments {path arguments : Tree} (hkind : path.isKind .path = true)
    (hpath : Covers path) (harguments : Covers arguments) :
    Covers (path.withLastArguments arguments) := by
  cases path with
  | node kind parts =>
    obtain rfl : kind = .path := by simpa [Tree.isKind] using hkind
    rw [Tree.withLastArguments]
    split
    · rename_i name hlast
      have hparts := covers_path.mp hpath
      have hname := hparts _ (List.mem_of_getLast? hlast)
      have hfront : CoversAll parts.dropLast := fun tree htree =>
        hparts tree (List.mem_of_mem_dropLast htree)
      grind -ring -linarith
    · exact hpath
  | _ => cases hkind

@[spec] theorem withCallArguments_spec (path : Tree) (c₀ : Cursor) :
    ⦃fun c => ⌜c = c₀⌝⦄ withCallArguments grammar path
      ⦃⇓? v c => ⌜Leads c₀ (Fresh c₀.rest ∧ Covers path ∧ path.isKind .path = true)
        (Fresh c.rest ∧ Covers v) c⌝⦄ := by
  mvcgen [withCallArguments]
  all_goals grind -ring -linarith [covers_withLastArguments]

@[spec] theorem builtinUse_spec (c₀ : Cursor) :
    ⦃fun c => ⌜c = c₀⌝⦄ builtinUse ⦃⇓? v c => ⌜Closes c₀ (CoversAll v) c⌝⦄ := by
  have hinside := inside_spec .parenthesis fun (_ : List Tree) => True
  mvcgen [builtinUse, hinside, many_goes_spec]
  all_goals grind -ring -linarith

@[spec] theorem macroRest_spec (path : Tree) (c₀ : Cursor) :
    ⦃fun c => ⌜c = c₀⌝⦄ macroRest path
      ⦃⇓? v c => ⌜Closes c₀ (path.isKind .path = true → Covers v) c⌝⦄ := by
  mvcgen [macroRest]
  all_goals grind -ring -linarith

end Grammar

end Counterpart
