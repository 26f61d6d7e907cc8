import Counterpart.Proofs.ScannedAtoms

/-!
# Statements that a scan covers

An expression is a statement of its own in front of a semicolon, at the end of a block, or if it is
closed. In none of these places a label's mark is behind it. Of a `let` statement the check of an
expression only looks at what is bound.
-/

set_option mvcgen.warning false

open Std.Do Counterpart.Occurrence Counterpart.Scan Counterpart.Parser

namespace Counterpart

variable [Scan]

/-! ## Statements -/

@[grind norm] theorem coversInitializer_append {first second : List Tree} :
    CoversInitializer (first ++ second) ↔ CoversInitializer first ∧ CoversInitializer second := by
  induction first with
  | nil => simp [CoversInitializer]
  | cons tree rest ih =>
    rw [List.cons_append]
    by_cases hinitializer : ∃ parts, tree = .node .initializer parts
    · obtain ⟨parts, rfl⟩ := hinitializer
      rw [CoversInitializer, CoversInitializer, ih, and_assoc]
    · have hother : ∀ parts, tree = .node .initializer parts → False :=
        fun parts hparts => hinitializer ⟨parts, hparts⟩
      rw [CoversInitializer, CoversInitializer, ih]
      all_goals exact hother

@[grind ←] theorem coversInitializer_of_all {trees : List Tree} (h : CoversAll trees) :
    CoversInitializer trees := by
  induction trees with
  | nil => simp [CoversInitializer]
  | cons tree rest ih =>
    obtain ⟨htree, hrest⟩ := coversAll_cons.mp h
    by_cases hinitializer : ∃ parts, tree = .node .initializer parts
    · obtain ⟨parts, rfl⟩ := hinitializer
      rw [CoversInitializer]
      rw [Covers] at htree
      · exact ⟨htree, ih hrest⟩
      all_goals nofun
    · rw [CoversInitializer]
      · exact ih hrest
      · exact fun parts hparts => hinitializer ⟨parts, hparts⟩

@[grind norm] theorem coversInitializer_target {parts rest : List Tree} :
    CoversInitializer (.node .target parts :: rest) ↔ CoversInitializer rest := by
  rw [CoversInitializer]
  nofun

@[grind norm] theorem coversInitializer_initializer {parts : List Tree} :
    CoversInitializer [.node .initializer parts] ↔ CoversAll parts := by
  simp [CoversInitializer, coversEach_iff]

theorem covers_prependLeft {attributes : List Tree} {tree : Tree}
    (hattributes : CoversAttributes attributes) (h : Covers tree) :
    Covers (tree.prependLeft attributes) := by
  fun_induction Tree.prependLeft attributes tree with
  | case1 left rest ih => simp [covers_expression]
  | case2 comparison left rest ih =>
    obtain ⟨hleft, hrest⟩ : Covers left ∧ CoversAll rest := by simpa [covers_expression] using h
    simpa [covers_expression] using ⟨ih hleft, hrest⟩
  | case3 left rest ih =>
    obtain ⟨hleft, hrest⟩ : Covers left ∧ CoversAll rest := by simpa [covers_expression] using h
    simpa [covers_expression] using ⟨ih hleft, hrest⟩
  | case4 tree => exact covers_attributed hattributes h

omit [Scan] in
@[simp, grind =] theorem Tree.expressionKind?_prependLeft {attributes : List Tree} {tree : Tree} :
    (tree.prependLeft attributes).expressionKind? = tree.expressionKind? := by
  rw [Tree.prependLeft.eq_def]
  split
  case h_4 => exact Tree.expressionKind?_attributed
  all_goals rfl

omit [Scan] in
@[grind =] theorem Tree.isClosed_prependLeft {attributes : List Tree} {tree : Tree} :
    (tree.prependLeft attributes).isClosed = tree.isClosed := by
  rw [Tree.isClosed, Tree.isClosed, Tree.expressionKind?_prependLeft]

omit [Scan] in
@[grind =] theorem MetaPath.isKind_tree {path : MetaPath} : path.tree.isKind .path = true := by
  rw [MetaPath.tree]
  split <;> rfl

@[grind =] theorem coversStatement_itemTree {item : Item} :
    CoversStatement item.tree ↔ CoversAll item.trees :=
  coversStatement_item

omit [Scan] in
/-- An expression that needs no semicolon behind it is closed. -/
theorem Tree.isClosed_of_wantsSemicolon {tree : Tree} (hkind : tree.expressionKind?.isSome = true)
    (h : wantsSemicolon (.node .statement [tree]) = false) : tree.isClosed = true := by
  obtain ⟨kind, hkind⟩ := Option.isSome_iff_exists.mp hkind
  have hnone : tree.expressionKind?.isNone = false := by rw [hkind]; rfl
  simp only [wantsSemicolon, List.getLast?_singleton, hnone, Bool.and_false] at h
  simp only [Bool.false_eq_true, if_false] at h
  split at h
  · next hcall =>
    cases tree with
    | node own parts =>
      obtain rfl : own = .expression .macroCall := by simpa [Tree.isKind] using hcall
      rfl
    | _ => cases hkind
  · exact isClosed_of_endsStatement (by simpa using h)

/-- An expression is a statement with a semicolon behind it, or at the end, or if it is closed. -/
theorem ends_of_holds {attributes mark : List Tree} {tree : Tree} {first second : Cursor}
    (hattributes : CoversAttributes attributes) (htree : Holds first tree) (hmark : CoversAll mark)
    (hread : mark = [] ∧ second = first ∨ ReadsOperator ";" first mark second) :
    Ends second (.node .statement (tree.prependLeft attributes :: mark)) := by
  obtain ⟨hfresh, hkind, hcovers⟩ := htree
  have hstatement (h : isLabel first.rest = false ∨ tree.isClosed = true) :
      CoversStatement (.node .statement (tree.prependLeft attributes :: mark)) :=
    coversStatement_statement.mpr
      (coversAll_cons.mpr ⟨covers_prependLeft hattributes (hcovers h), hmark⟩)
  obtain ⟨rfl, rfl⟩ | hsemicolon := hread
  · refine ⟨hfresh, fun h => hstatement ?_⟩
    obtain hover | hwants := h
    · exact .inl (by rw [hover]; rfl)
    · rw [← Tree.expressionKind?_prependLeft] at hkind
      exact .inr (Tree.isClosed_prependLeft.symm.trans (Tree.isClosed_of_wantsSemicolon hkind hwants))
  · exact ⟨by grind -ring -linarith, fun _ => hstatement (.inl (by grind -ring -linarith))⟩

namespace Grammar

variable (grammar : Grammar) [Sound grammar]

@[spec] theorem binding_spec (attributes : List Tree) (c₀ : Cursor) :
    ⦃fun c => ⌜c = c₀⌝⦄ binding grammar attributes
      ⦃⇓? v c => ⌜Reads c₀ (CoversAll attributes → CoversStatement v) c⌝⦄ := by
  mvcgen [binding]
  all_goals grind -ring -linarith

theorem statementRule_spec (c₀ : Cursor) :
    ⦃fun c => ⌜c = c₀⌝⦄ statementRule grammar
      ⦃⇓? v c => ⌜Leads c₀ (Fresh c₀.rest) (Ends c v) c⌝⦄ := by
  mvcgen [statementRule]
  all_goals grind -ring -linarith [ends_of_holds]

end Grammar

end Counterpart
