import Counterpart.Proofs.ScannedTypes

/-!
# Patterns that a scan covers

A pattern may stand in front of a colon, which a scan takes for the mark of a label. A word in front
of it is then no reference to the scan, so a pattern is covered there only if it does not end in a
word that is a path of its own.
-/

set_option mvcgen.warning false

open Std.Do Counterpart.Occurrence Counterpart.Scan Counterpart.Parser

namespace Counterpart

variable [Scan]

theorem coversAll_commaSeparated {trailing : Bool} {pieces : List (List Tree)}
    (h : ∀ piece ∈ pieces, CoversAll piece) : CoversAll (commaSeparated trailing pieces) := by
  fun_induction commaSeparated trailing pieces with
  | case1 => simp
  | case2 last =>
    refine coversAll_append.mpr ⟨h last (List.mem_singleton_self _), ?_⟩
    split <;> simp
  | case3 first rest hrest ih =>
    simp only [coversAll_append]
    exact ⟨⟨h first List.mem_cons_self, coversAll_operator.mpr trivial⟩,
      ih fun piece hpiece => h piece (List.mem_cons_of_mem _ hpiece)⟩

theorem covers_commaGroup {delimiter : Delimiter} {opening closing : Option Region}
    {trailing : Bool} {trees : List Tree} (h : ∀ tree ∈ trees, Covers tree) :
    Covers (.group delimiter opening closing (commaSeparated trailing (trees.map ([·])))) := by
  refine covers_group.mpr (coversRow_of_all (coversAll_commaSeparated fun piece hpiece => ?_))
  obtain ⟨tree, htree, rfl⟩ := List.mem_map.mp hpiece
  simpa using h tree htree

namespace Grammar

variable (grammar : Grammar) [Sound grammar]

omit [Scan] in
@[grind norm] theorem expressionNode_eq {kind : ExpressionKind} {parts : List Tree} :
    expressionNode kind parts = .node (.expression kind) parts := rfl

omit [Scan] in
@[grind norm] theorem patternNode_eq {kind : PatternKind} {parts : List Tree} :
    patternNode kind parts = .node (.pattern kind) parts := rfl

@[spec] theorem constBlock_spec (c₀ : Cursor) :
    ⦃fun c => ⌜c = c₀⌝⦄ constBlock grammar
      ⦃⇓? v c => ⌜Closes c₀ (Covers v) c ∧ v.expressionKind? = some .constBlock⌝⦄ := by
  mvcgen [constBlock]
  all_goals grind -ring -linarith

@[spec] theorem rangeDots_spec (c₀ : Cursor) :
    ⦃fun c => ⌜c = c₀⌝⦄ rangeDots ⦃⇓? v c => ⌜Closes c₀ (CoversAll v.1) c⌝⦄ := by
  mvcgen [rangeDots]
  all_goals grind -ring -linarith

@[grind ←] theorem coversAll_respelled {characters : List Char} {operator : List Tree}
    (h : CoversAll operator) : CoversAll (respelled characters operator) := by
  intro tree htree
  obtain ⟨⟨part, character⟩, hpart, rfl⟩ := List.mem_map.mp htree
  split
  · exact covers_leaf.mpr trivial
  · rename_i heq
    cases heq
    exact h part (List.of_mem_zip hpart).1

@[spec] theorem innerDots_spec (c₀ : Cursor) :
    ⦃fun c => ⌜c = c₀⌝⦄ innerDots ⦃⇓? v c => ⌜Closes c₀ (CoversAll v.1) c⌝⦄ := by
  mvcgen [innerDots]
  all_goals grind -ring -linarith

@[spec] theorem rangeBound_spec (c₀ : Cursor) :
    ⦃fun c => ⌜c = c₀⌝⦄ rangeBound grammar
      ⦃⇓? v c => ⌜Leads c₀ (Ready c₀.rest)
        ((v = [] ∧ c = c₀ ∨ Fresh c.rest) ∧
          (isLabel c.rest = false ∨ Tree.endsInWordLast v = false → CoversAll v)) c⌝⦄ := by
  mvcgen [rangeBound]
  all_goals grind -ring -linarith

@[spec] theorem rangeRest_spec (start : List Tree) (c₀ : Cursor) :
    ⦃fun c => ⌜c = c₀⌝⦄ rangeRest grammar start
      ⦃⇓? v c => ⌜Leads c₀ (Seen c₀.rest ∧ (isLabel c₀.rest = false → CoversAll start))
        (Fits c v) c⌝⦄ := by
  mvcgen [rangeRest]
  all_goals grind -ring -linarith

@[spec] theorem fieldIndex_spec (c₀ : Cursor) :
    ⦃fun c => ⌜c = c₀⌝⦄ fieldIndex ⦃⇓? v c => ⌜Closes c₀ (Covers v) c⌝⦄ := by
  mvcgen [fieldIndex]
  all_goals grind -ring -linarith

@[spec] theorem recordFields_spec (fuel : Nat) (c₀ : Cursor) :
    ⦃fun c => ⌜c = c₀⌝⦄ recordFields grammar fuel ⦃⇓? v c => ⌜Lists c₀ (CoversAll v) c⌝⦄ := by
  induction fuel generalizing c₀ with
  | zero =>
    mvcgen [recordFields]
    all_goals grind -ring -linarith
  | succ fuel ih =>
    mvcgen [recordFields, ih]
    all_goals grind -ring -linarith

@[spec] theorem bindingPattern_spec (c₀ : Cursor) :
    ⦃fun c => ⌜c = c₀⌝⦄ bindingPattern grammar
      ⦃⇓? v c => ⌜Leads c₀ (Ready c₀.rest) (Fits c v) c⌝⦄ := by
  mvcgen [bindingPattern]
  all_goals grind -ring -linarith

@[spec] theorem pathPattern_spec (c₀ : Cursor) :
    ⦃fun c => ⌜c = c₀⌝⦄ pathPattern grammar
      ⦃⇓? v c => ⌜Leads c₀ (Ready c₀.rest) (Fits c v) c⌝⦄ := by
  mvcgen [pathPattern]
  all_goals grind -ring -linarith [macroFollows, Tree.isPlainPath]

@[spec] theorem parenthesisedPattern_spec (c₀ : Cursor) :
    ⦃fun c => ⌜c = c₀⌝⦄ parenthesisedPattern grammar
      ⦃⇓? v c => ⌜Closes c₀ (Covers v) c⌝⦄ := by
  have hentry : ∀ c₀, ⦃fun c => ⌜c = c₀⌝⦄ grammar.tree .alternatives
      ⦃⇓? v c => ⌜Lists c₀ (Covers v) c⌝⦄ := by
    intro c₀
    mvcgen
    all_goals grind -ring -linarith
  have hlist := listOf_spec Covers hentry
  have hinside := inside_spec .parenthesis fun v : List Tree × Bool => ∀ tree ∈ v.1, Covers tree
  mvcgen [parenthesisedPattern, hinside, hlist]
  case vc1 => grind -ring -linarith
  all_goals
    subst_vars
    refine Closes.mono ‹_› fun helements => ?_
    rw [patternNode_eq, covers_pattern, if_neg (by simp), coversAll_cons]
    exact ⟨covers_commaGroup helements, coversAll_nil.mpr trivial⟩

@[spec] theorem slicePattern_spec (c₀ : Cursor) :
    ⦃fun c => ⌜c = c₀⌝⦄ slicePattern grammar ⦃⇓? v c => ⌜Closes c₀ (Covers v) c⌝⦄ := by
  mvcgen [slicePattern]
  all_goals grind -ring -linarith

theorem patternRule_spec (c₀ : Cursor) :
    ⦃fun c => ⌜c = c₀⌝⦄ patternRule grammar
      ⦃⇓? v c => ⌜Leads c₀ (Ready c₀.rest) (Fits c v) c⌝⦄ := by
  mvcgen [patternRule]
  case vc5 =>
    subst_vars
    grind -ring -linarith
  all_goals grind -ring -linarith

theorem alternativesRule_spec (c₀ : Cursor) :
    ⦃fun c => ⌜c = c₀⌝⦄ alternativesRule grammar
      ⦃⇓? v c => ⌜Settles c₀ (Covers v) c⌝⦄ := by
  mvcgen [alternativesRule, many_spec]
  all_goals grind -ring -linarith [furtherAlternative, isLabel_of_ahead]

end Grammar

end Counterpart
