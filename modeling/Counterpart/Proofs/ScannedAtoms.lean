import Counterpart.Proofs.ScannedExpressions

/-!
# Closures, jumps and atoms that a scan covers

Readers of the expressions that begin with a token of their own. In an input of a closure a pattern
stands in front of a colon, as in the inputs of a function.
-/

set_option mvcgen.warning false

open Std.Do Counterpart.Occurrence Counterpart.Scan Counterpart.Parser

namespace Counterpart

variable [Scan]

theorem coversStatements_filter (test : Tree → Bool) {trees : List Tree}
    (h : CoversStatements trees) : CoversStatements (trees.filter test) := by
  induction trees with
  | nil => exact h
  | cons tree rest ih =>
    rw [coversStatements_cons] at h
    rw [List.filter_cons]
    split
    · exact coversStatements_cons.mpr ⟨h.1, ih h.2⟩
    · exact ih h.2

/-- A tree in front of a colon is covered if it is whenever it does not end in a word. -/
theorem coversRow_beforeColon {tree : Tree} {colon rest : List Tree}
    (hcolon : ∀ rest, Tree.startsWithColon (colon ++ rest) = true)
    (htree : tree.endsInWord = false → Covers tree) (hcolons : CoversAll colon)
    (hrest : CoversRow rest) : CoversRow (tree :: (colon ++ rest)) := by
  refine ⟨fun hends => htree ?_, coversRow_append hcolons hrest⟩
  simpa [hcolon rest] using hends

namespace Grammar

variable (grammar : Grammar) [Sound grammar]

/-! ## Closures and jumps -/

theorem covers_withoutInnerAttributes {pattern : Tree} (h : Covers pattern) :
    Covers (withoutInnerAttributes pattern) := by
  rw [withoutInnerAttributes.eq_def]
  split
  case h_1 word delimiter opening closing content =>
    obtain ⟨hword, hblock, -⟩ : Covers word ∧ Covers (.node .block _) ∧ CoversAll [] := by
      simpa [covers_expression] using h
    have hcontent := coversStatements_filter (!·.isInnerAttribute) (covers_block.mp hblock)
    have hkept : Covers (.node .block [.group delimiter opening closing
        (content.filter (!·.isInnerAttribute))]) := covers_block.mpr hcontent
    grind -ring -linarith
  case h_2 => exact h

@[spec] theorem closureInput_spec (c₀ : Cursor) :
    ⦃fun c => ⌜c = c₀⌝⦄ closureInput grammar ⦃⇓? v c => ⌜Lists c₀ (Covers v) c⌝⦄ := by
  mvcgen [closureInput]
  all_goals grind -ring -linarith [covers_withoutInnerAttributes, covers_attributed,
    coversRow_append, coversRow_beforeColon]

@[spec] theorem closure_spec (records : Bool) (c₀ : Cursor) :
    ⦃fun c => ⌜c = c₀⌝⦄ closure grammar records
      ⦃⇓? v c => ⌜Leads c₀ (Ready c₀.rest) (Holds c v) c⌝⦄ := by
  mvcgen [closure, separatedUntil_spec]
  all_goals grind -ring -linarith

@[spec] theorem jumpValue_spec (records : Bool) (c₀ : Cursor) :
    ⦃fun c => ⌜c = c₀⌝⦄ jumpValue grammar records
      ⦃⇓? v c => ⌜Leads c₀ (Fresh c₀.rest)
        (Fresh c.rest ∧ (isLabel c.rest = false → CoversAll v)) c⌝⦄ := by
  mvcgen [jumpValue]
  all_goals grind -ring -linarith

@[spec] theorem breakJump_spec (records : Bool) (c₀ : Cursor) :
    ⦃fun c => ⌜c = c₀⌝⦄ breakJump grammar records
      ⦃⇓? v c => ⌜Leads c₀ (Seen c₀.rest) (Holds c v) c⌝⦄ := by
  mvcgen [breakJump]
  all_goals grind -ring -linarith

/-! ## Atoms -/

omit [Scan] in
@[grind =] theorem expressionKind?_literalExpression {parts : List Tree} :
    (literalExpression parts).expressionKind? = some .literal := rfl

omit [Scan] in
@[grind =] theorem isClosed_attributed {attributes : List Tree} {tree : Tree} :
    (tree.attributed attributes).isClosed = tree.isClosed := by
  rw [Tree.isClosed, Tree.isClosed, Tree.expressionKind?_attributed]

@[spec] theorem fieldValue_spec (c₀ : Cursor) :
    ⦃fun c => ⌜c = c₀⌝⦄ fieldValue grammar ⦃⇓? v c => ⌜Lists c₀ (Covers v) c⌝⦄ := by
  mvcgen [fieldValue]
  all_goals grind -ring -linarith

@[spec] theorem structFields_spec (fuel : Nat) (c₀ : Cursor) :
    ⦃fun c => ⌜c = c₀⌝⦄ structFields grammar fuel ⦃⇓? v c => ⌜Fills c₀ (CoversAll v) c⌝⦄ := by
  induction fuel generalizing c₀ with
  | zero =>
    mvcgen [structFields]
    all_goals grind -ring -linarith
  | succ fuel ih =>
    mvcgen [structFields, ih]
    all_goals grind -ring -linarith

@[spec] theorem pathExpression_spec (records : Bool) (c₀ : Cursor) :
    ⦃fun c => ⌜c = c₀⌝⦄ pathExpression grammar records
      ⦃⇓? v c => ⌜Leads c₀ (Ready c₀.rest) (Holds c v) c⌝⦄ := by
  mvcgen [pathExpression]
  all_goals grind -ring -linarith [macroFollows, Tree.isPlainPath]

@[spec] theorem parenthesised_spec (c₀ : Cursor) :
    ⦃fun c => ⌜c = c₀⌝⦄ parenthesised grammar
      ⦃⇓? v c => ⌜Closes c₀ (Covers v) c ∧ v.expressionKind?.isSome = true⌝⦄ := by
  have hentry : ∀ c₀, ⦃fun c => ⌜c = c₀⌝⦄ grammar.expression
      ⦃⇓? v c => ⌜Lists c₀ (Covers v) c⌝⦄ := by
    intro c₀
    mvcgen
    all_goals grind -ring -linarith
  have hlist := listOf_spec Covers hentry
  have hinside := inside_spec .parenthesis fun v : List Tree × Bool => ∀ tree ∈ v.1, Covers tree
  mvcgen [parenthesised, hinside, hlist]
  case vc1 => grind -ring -linarith
  all_goals
    subst_vars
    refine ⟨Closes.mono ‹_› fun helements => ?_, rfl⟩
    exact covers_expression.mpr (.inr (.inr ⟨coversAll_cons.mpr
      ⟨covers_commaGroup helements, coversAll_nil.mpr trivial⟩, by simp⟩))

@[spec] theorem bracketed_spec (c₀ : Cursor) :
    ⦃fun c => ⌜c = c₀⌝⦄ bracketed grammar
      ⦃⇓? v c => ⌜Closes c₀ (Covers v) c ∧ v.expressionKind?.isSome = true⌝⦄ := by
  have hinside := inside_spec .bracket fun v : List Tree × ExpressionKind =>
    CoversAll v.1 ∧ v.2 ≠ .path
  mvcgen [bracketed, hinside]
  all_goals grind -ring -linarith

@[spec] theorem letCondition_spec (records : Bool) (c₀ : Cursor) :
    ⦃fun c => ⌜c = c₀⌝⦄ letCondition grammar records
      ⦃⇓? v c => ⌜Leads c₀ (Seen c₀.rest) (Holds c v) c⌝⦄ := by
  mvcgen [letCondition]
  all_goals grind -ring -linarith

@[spec] theorem asyncBlock_spec (c₀ : Cursor) :
    ⦃fun c => ⌜c = c₀⌝⦄ asyncBlock grammar
      ⦃⇓? v c => ⌜Closes c₀ (Covers v) c ∧ v.expressionKind?.isSome = true⌝⦄ := by
  mvcgen [asyncBlock]
  all_goals grind -ring -linarith

@[spec] theorem atom_spec (records : Bool) (c₀ : Cursor) :
    ⦃fun c => ⌜c = c₀⌝⦄ atom grammar records
      ⦃⇓? v c => ⌜Leads c₀ (Ready c₀.rest) (Holds c v) c⌝⦄ := by
  mvcgen [atom]
  all_goals grind -ring -linarith

theorem unaryRule_spec (records : Bool) (c₀ : Cursor) :
    ⦃fun c => ⌜c = c₀⌝⦄ unaryRule grammar records
      ⦃⇓? v c => ⌜Leads c₀ (Ready c₀.rest) (Holds c v) c⌝⦄ := by
  mvcgen [unaryRule]
  all_goals grind -ring -linarith [covers_attributed]

@[spec] theorem earlyStart_spec (c₀ : Cursor) :
    ⦃fun c => ⌜c = c₀⌝⦄ earlyStart grammar
      ⦃⇓? v c => ⌜Leads c₀ (Ready c₀.rest) (Holds c v) c⌝⦄ := by
  mvcgen [earlyStart]
  all_goals grind -ring -linarith

theorem earlyRule_spec (c₀ : Cursor) :
    ⦃fun c => ⌜c = c₀⌝⦄ earlyRule grammar
      ⦃⇓? v c => ⌜Leads c₀ (Ready c₀.rest) (Holds c v) c⌝⦄ := by
  mvcgen [earlyRule]
  all_goals grind -ring -linarith [covers_attributed]

end Grammar

end Counterpart
