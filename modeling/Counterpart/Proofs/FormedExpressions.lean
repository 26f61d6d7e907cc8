import Counterpart.Proofs.FormedCode

/-!
# Expressions that were read are formed

Readers of patterns, expressions and statements. An item has a `Self` of its own, so it does not
matter what is read for it. At the end the readers are tied together.
-/

set_option mvcgen.warning false

open Std.Do Counterpart.Grammar Counterpart.Parser

namespace Counterpart

namespace Substitution

section

variable (grammar : Grammar) [Shapes grammar]

/-! ## Patterns -/

theorem shapedAll_commaSeparated {trailing : Bool} {trees : List Tree}
    (h : ∀ tree ∈ trees, Shaped tree) : ShapedAll (commaSeparated trailing (trees.map ([·]))) := by
  induction trees with
  | nil => exact shapedAll_nil.mpr trivial
  | cons first rest ih =>
    obtain ⟨hfirst, hrest⟩ := List.forall_mem_cons.mp h
    have hall := ih hrest
    cases rest with
    | nil =>
      rw [List.map_cons, List.map_nil, commaSeparated]
      split <;> grind -ring -linarith
    | cons second rest =>
      rw [List.map_cons, List.map_cons, commaSeparated]
      · grind -ring -linarith
      · nofun

@[scoped spec] theorem constBlock_shaped :
    ⦃⌜True⌝⦄ constBlock grammar ⦃⇓? v => ⌜Shaped v⌝⦄ := by
  mvcgen [constBlock]
  all_goals grind -ring -linarith

@[scoped spec] theorem rangeDots_shaped :
    ⦃⌜True⌝⦄ rangeDots ⦃⇓? v => ⌜ShapedAll v.1⌝⦄ := by
  mvcgen [rangeDots]

theorem shapedAll_respelled {characters : List Char} {operator : List Tree}
    (h : ShapedAll operator) : ShapedAll (respelled characters operator) := by
  refine shapedAll_iff.mpr fun tree htree => ?_
  obtain ⟨⟨part, character⟩, hpart, rfl⟩ := List.mem_map.mp htree
  split
  · exact shaped_leaf.mpr trivial
  · next heq =>
    cases heq
    exact shapedAll_iff.mp h part (List.of_mem_zip hpart).1

@[scoped spec] theorem innerDots_shaped :
    ⦃⌜True⌝⦄ innerDots ⦃⇓? v => ⌜ShapedAll v.1⌝⦄ := by
  mvcgen [innerDots]
  all_goals grind -ring -linarith [shapedAll_respelled]

@[scoped spec] theorem rangeBound_shaped :
    ⦃⌜True⌝⦄ rangeBound grammar ⦃⇓? v => ⌜ShapedAll v⌝⦄ := by
  mvcgen [rangeBound]
  all_goals grind -ring -linarith

@[scoped spec] theorem rangeRest_shaped (start : List Tree) :
    ⦃⌜True⌝⦄ rangeRest grammar start ⦃⇓? v => ⌜ShapedAll start → Shaped v⌝⦄ := by
  mvcgen [rangeRest]
  all_goals grind -ring -linarith

@[scoped spec] theorem fieldIndex_shaped :
    ⦃⌜True⌝⦄ fieldIndex ⦃⇓? v => ⌜Shaped v⌝⦄ := by
  mvcgen [fieldIndex]
  all_goals grind -ring -linarith

@[scoped spec] theorem recordFields_shaped (fuel : Nat) :
    ⦃⌜True⌝⦄ recordFields grammar fuel ⦃⇓? v => ⌜ShapedAll v⌝⦄ := by
  induction fuel with
  | zero =>
    mvcgen [recordFields]
  | succ fuel ih =>
    mvcgen [recordFields, ih]
    all_goals grind -ring -linarith

@[scoped spec] theorem bindingPattern_shaped :
    ⦃⌜True⌝⦄ bindingPattern grammar ⦃⇓? v => ⌜Shaped v⌝⦄ := by
  mvcgen [bindingPattern]
  all_goals grind -ring -linarith

@[scoped spec] theorem pathPattern_shaped :
    ⦃⌜True⌝⦄ pathPattern grammar ⦃⇓? v => ⌜Shaped v⌝⦄ := by
  mvcgen [pathPattern]
  all_goals grind -ring -linarith

@[scoped spec] theorem parenthesisedPattern_shaped :
    ⦃⌜True⌝⦄ parenthesisedPattern grammar ⦃⇓? v => ⌜Shaped v⌝⦄ := by
  have hlist := listOf_answers Shaped (@Shapes.alternatives grammar _)
  have hinside := inside_answers .parenthesis
    (fun v : List Tree × Bool => ∀ tree ∈ v.1, Shaped tree) hlist
  mvcgen [parenthesisedPattern, hinside]
  all_goals grind -ring -linarith [shapedAll_commaSeparated]

@[scoped spec] theorem slicePattern_shaped :
    ⦃⌜True⌝⦄ slicePattern grammar ⦃⇓? v => ⌜Shaped v⌝⦄ := by
  mvcgen [slicePattern]
  all_goals grind -ring -linarith

theorem patternRule_shaped :
    ⦃⌜True⌝⦄ patternRule grammar ⦃⇓? v => ⌜Shaped v⌝⦄ := by
  mvcgen [patternRule]
  all_goals grind -ring -linarith [→ shaped_of_single]

theorem alternativesRule_shaped :
    ⦃⌜True⌝⦄ alternativesRule grammar ⦃⇓? v => ⌜Shaped v⌝⦄ := by
  mvcgen [alternativesRule]
  all_goals grind -ring -linarith

/-! ## Operators, and what stands behind an expression -/

@[scoped spec] theorem rangeEnd_shaped (records : Bool) :
    ⦃⌜True⌝⦄ rangeEnd grammar records ⦃⇓? v => ⌜ShapedAll v⌝⦄ := by
  mvcgen [rangeEnd]
  all_goals grind -ring -linarith

@[scoped spec] theorem checkCast_any : ⦃⌜True⌝⦄ checkCast ⦃⇓? _ => ⌜True⌝⦄ := answers_any _

theorem operatorsRule_shaped (records : Bool) (floor : Precedence) (left : Tree) :
    ⦃⌜True⌝⦄ operatorsRule grammar records floor left ⦃⇓? v => ⌜Shaped left → Shaped v⌝⦄ := by
  mvcgen [operatorsRule]
  all_goals grind -ring -linarith

theorem widenedRule_shaped (records : Bool) (above : Precedence) (right : Tree) :
    ⦃⌜True⌝⦄ widenedRule grammar records above right ⦃⇓? v => ⌜Shaped right → Shaped v⌝⦄ := by
  mvcgen [widenedRule]
  all_goals grind -ring -linarith

theorem operandRule_shaped (records : Bool) (above : Precedence) :
    ⦃⌜True⌝⦄ operandRule grammar records above ⦃⇓? v => ⌜Shaped v⌝⦄ := by
  mvcgen [operandRule]
  all_goals grind -ring -linarith

theorem expressionRule_shaped (records : Bool) :
    ⦃⌜True⌝⦄ expressionRule grammar records ⦃⇓? v => ⌜Shaped v⌝⦄ := by
  mvcgen [expressionRule]
  all_goals grind -ring -linarith

theorem fractionIndices_add_shaped (dot written : List Tree) (subject : Tree)
    (parts : List (List Char × Option Region)) :
    ⦃⌜True⌝⦄ fractionIndices.add dot written subject parts
      ⦃⇓? v => ⌜ShapedAll dot → Shaped subject → Shaped v⌝⦄ := by
  induction parts generalizing subject with
  | nil =>
    mvcgen [fractionIndices.add]
    all_goals grind -ring -linarith
  | cons part rest ih =>
    mvcgen [fractionIndices.add, ih]
    all_goals grind -ring -linarith

@[scoped spec] theorem fractionIndices_shaped (subject : Tree) (dot : List Tree) :
    ⦃⌜True⌝⦄ fractionIndices subject dot
      ⦃⇓? v => ⌜ShapedAll dot → Shaped subject → Shaped v.1⌝⦄ := by
  mvcgen [fractionIndices, fractionIndices_add_shaped]
  all_goals grind -ring -linarith

@[scoped spec] theorem memberRule_shaped (subject : Tree) (dot : List Tree) :
    ⦃⌜True⌝⦄ memberRule grammar subject dot
      ⦃⇓? v => ⌜ShapedAll dot → Shaped subject → Shaped v⌝⦄ := by
  mvcgen [memberRule]
  all_goals grind -ring -linarith

theorem trailersRule_shaped (subject : Tree) :
    ⦃⌜True⌝⦄ trailersRule grammar subject ⦃⇓? v => ⌜Shaped subject → Shaped v⌝⦄ := by
  mvcgen [trailersRule]
  all_goals grind -ring -linarith

/-! ## Blocks with keywords -/

@[scoped spec] theorem condition_shaped : ⦃⌜True⌝⦄ condition grammar ⦃⇓? v => ⌜Shaped v⌝⦄ :=
  Shapes.expression false

@[scoped spec] theorem ifChain_shaped (fuel : Nat) :
    ⦃⌜True⌝⦄ ifChain grammar fuel ⦃⇓? v => ⌜Shaped v⌝⦄ := by
  induction fuel with
  | zero =>
    mvcgen [ifChain]
    all_goals grind -ring -linarith
  | succ fuel ih =>
    mvcgen [ifChain, ih]
    all_goals grind -ring -linarith

@[scoped spec] theorem ifElse_shaped :
    ⦃⌜True⌝⦄ ifElse grammar ⦃⇓? v => ⌜Shaped v⌝⦄ := by
  mvcgen [ifElse]

@[scoped spec] theorem whileLoop_shaped :
    ⦃⌜True⌝⦄ whileLoop grammar ⦃⇓? v => ⌜Shaped v⌝⦄ := by
  mvcgen [whileLoop]
  all_goals grind -ring -linarith

@[scoped spec] theorem forLoop_shaped :
    ⦃⌜True⌝⦄ forLoop grammar ⦃⇓? v => ⌜Shaped v⌝⦄ := by
  mvcgen [forLoop]
  all_goals grind -ring -linarith

@[scoped spec] theorem plainLoop_shaped :
    ⦃⌜True⌝⦄ plainLoop grammar ⦃⇓? v => ⌜Shaped v⌝⦄ := by
  mvcgen [plainLoop]
  all_goals grind -ring -linarith

@[scoped spec] theorem matchArm_shaped :
    ⦃⌜True⌝⦄ matchArm grammar ⦃⇓? v => ⌜ShapedAll v⌝⦄ := by
  mvcgen [matchArm]
  all_goals grind -ring -linarith

@[scoped spec] theorem matchArms_shaped :
    ⦃⌜True⌝⦄ matchArms grammar ⦃⇓? v => ⌜Shaped v⌝⦄ := by
  mvcgen [matchArms]
  all_goals grind -ring -linarith

@[scoped spec] theorem unsafeBlock_shaped :
    ⦃⌜True⌝⦄ unsafeBlock grammar ⦃⇓? v => ⌜Shaped v⌝⦄ := by
  mvcgen [unsafeBlock]
  all_goals grind -ring -linarith

@[scoped spec] theorem tryBlock_shaped :
    ⦃⌜True⌝⦄ tryBlock grammar ⦃⇓? v => ⌜Shaped v⌝⦄ := by
  mvcgen [tryBlock]
  all_goals grind -ring -linarith

@[scoped spec] theorem plainBlock_shaped :
    ⦃⌜True⌝⦄ plainBlock grammar ⦃⇓? v => ⌜Shaped v⌝⦄ := by
  mvcgen [plainBlock]
  all_goals grind -ring -linarith

theorem shaped_labelled {label : List Tree} {tree : Tree} (hlabel : ShapedAll label)
    (h : Shaped tree) : Shaped (tree.prepend [.node .phrase label]) := by
  cases tree with
  | node kind own =>
    have hnone : NoPath [.node .phrase label] := by
      rintro part hpart inner rfl
      cases List.mem_singleton.mp hpart
    exact shaped_behind hnone (by grind -ring -linarith) h
  | _ => exact h

@[scoped spec] theorem labelled_shaped :
    ⦃⌜True⌝⦄ labelled grammar ⦃⇓? v => ⌜Shaped v⌝⦄ := by
  mvcgen [labelled]
  all_goals grind -ring -linarith [shaped_labelled]

/-! ## Closures, jumps and atoms -/

theorem shaped_withoutInnerAttributes {pattern : Tree} (h : Shaped pattern) :
    Shaped (withoutInnerAttributes pattern) := by
  rw [withoutInnerAttributes.eq_def]
  split
  case h_1 word delimiter opening closing content =>
    obtain ⟨hword, hcontent⟩ : Shaped word ∧ ShapedAll content := by
      simpa [Shaped, ShapedAll, isPathKind] using h
    have hkept : ShapedAll (content.filter (!·.isInnerAttribute)) := shapedAll_iff.mpr
      fun tree htree => shapedAll_iff.mp hcontent tree (List.mem_filter.mp htree).1
    grind -ring -linarith
  case h_2 => exact h

@[scoped spec] theorem closureInput_shaped :
    ⦃⌜True⌝⦄ closureInput grammar ⦃⇓? v => ⌜Shaped v⌝⦄ := by
  mvcgen [closureInput]
  all_goals grind -ring -linarith [shaped_withoutInnerAttributes, shaped_attributed]

@[scoped spec] theorem closure_shaped (records : Bool) :
    ⦃⌜True⌝⦄ Grammar.closure grammar records ⦃⇓? v => ⌜Shaped v⌝⦄ := by
  mvcgen [Grammar.closure]
  all_goals grind -ring -linarith

@[scoped spec] theorem jumpValue_shaped (records : Bool) :
    ⦃⌜True⌝⦄ jumpValue grammar records ⦃⇓? v => ⌜ShapedAll v⌝⦄ := by
  mvcgen [jumpValue]

@[scoped spec] theorem breakJump_shaped (records : Bool) :
    ⦃⌜True⌝⦄ breakJump grammar records ⦃⇓? v => ⌜Shaped v⌝⦄ := by
  mvcgen [breakJump]
  all_goals grind -ring -linarith

@[scoped spec] theorem fieldValue_shaped :
    ⦃⌜True⌝⦄ fieldValue grammar ⦃⇓? v => ⌜Shaped v⌝⦄ := by
  mvcgen [fieldValue]
  all_goals grind -ring -linarith

@[scoped spec] theorem structFields_shaped (fuel : Nat) :
    ⦃⌜True⌝⦄ structFields grammar fuel ⦃⇓? v => ⌜ShapedAll v⌝⦄ := by
  induction fuel with
  | zero =>
    mvcgen [structFields]
  | succ fuel ih =>
    mvcgen [structFields, ih]
    all_goals grind -ring -linarith

@[scoped spec] theorem pathExpression_shaped (records : Bool) :
    ⦃⌜True⌝⦄ pathExpression grammar records ⦃⇓? v => ⌜Shaped v⌝⦄ := by
  mvcgen [pathExpression]
  all_goals grind -ring -linarith

@[scoped spec] theorem parenthesised_shaped :
    ⦃⌜True⌝⦄ parenthesised grammar ⦃⇓? v => ⌜Shaped v⌝⦄ := by
  have hlist := listOf_answers Shaped (wholeExpression_shaped grammar)
  have hinside := inside_answers .parenthesis
    (fun v : List Tree × Bool => ∀ tree ∈ v.1, Shaped tree) hlist
  mvcgen [parenthesised, hinside]
  all_goals grind -ring -linarith [shapedAll_commaSeparated]

@[scoped spec] theorem bracketed_shaped : ⦃⌜True⌝⦄ bracketed grammar ⦃⇓? v => ⌜Shaped v⌝⦄ := by
  have hinside {parser : Parser (List Tree × ExpressionKind)} :=
    @inside_answers _ .bracket (fun v : List Tree × ExpressionKind => ShapedAll v.1 ∧ v.2 ≠ .path)
      parser
  mvcgen [bracketed, hinside]
  all_goals grind -ring -linarith

@[scoped spec] theorem letCondition_shaped (records : Bool) :
    ⦃⌜True⌝⦄ letCondition grammar records ⦃⇓? v => ⌜Shaped v⌝⦄ := by
  mvcgen [letCondition]
  all_goals grind -ring -linarith

@[scoped spec] theorem asyncBlock_shaped :
    ⦃⌜True⌝⦄ asyncBlock grammar ⦃⇓? v => ⌜Shaped v⌝⦄ := by
  mvcgen [asyncBlock]
  all_goals grind -ring -linarith

@[scoped spec] theorem atom_shaped (records : Bool) :
    ⦃⌜True⌝⦄ atom grammar records ⦃⇓? v => ⌜Shaped v⌝⦄ := by
  mvcgen [atom]
  all_goals grind -ring -linarith

theorem unaryRule_shaped (records : Bool) :
    ⦃⌜True⌝⦄ unaryRule grammar records ⦃⇓? v => ⌜Shaped v⌝⦄ := by
  mvcgen [unaryRule]
  all_goals grind -ring -linarith [shaped_attributed]

@[scoped spec] theorem earlyStart_shaped :
    ⦃⌜True⌝⦄ earlyStart grammar ⦃⇓? v => ⌜Shaped v⌝⦄ := by
  mvcgen [earlyStart]

theorem earlyRule_shaped :
    ⦃⌜True⌝⦄ earlyRule grammar ⦃⇓? v => ⌜Shaped v⌝⦄ := by
  mvcgen [earlyRule]
  all_goals grind -ring -linarith [shaped_attributed]

/-! ## Statements -/

@[scoped spec] theorem binding_shaped (attributes : List Tree) :
    ⦃⌜True⌝⦄ binding grammar attributes ⦃⇓? v => ⌜ShapedAll attributes → Shaped v⌝⦄ := by
  mvcgen [binding]
  all_goals grind -ring -linarith

omit [Shapes grammar] in
@[scoped spec] theorem item_any : ⦃⌜True⌝⦄ grammar.item ⦃⇓? _ => ⌜True⌝⦄ := answers_any _

theorem statementRule_shaped :
    ⦃⌜True⌝⦄ statementRule grammar ⦃⇓? v => ⌜Shaped v⌝⦄ := by
  mvcgen [statementRule]
  all_goals grind -ring -linarith [shaped_prependLeft]

end

/-! ## What is read -/

theorem shapes_empty : Shapes ⟨treeWithin 0, itemWithin 0⟩ := by
  constructor
  all_goals
    intros
    refine answers_iff.mpr fun c v after h => ?_
    cases h

/-- Parsers with one more level of recursion answer with shaped code if those they refer to do. -/
theorem shapes_succ (fuel : Nat) [Shapes ⟨treeWithin fuel, itemWithin fuel⟩] :
    Shapes ⟨treeWithin (fuel + 1), itemWithin (fuel + 1)⟩ where
  type := typeRule_shaped _
  expression := expressionRule_shaped _
  operators := operatorsRule_shaped _
  operand := operandRule_shaped _
  widened := widenedRule_shaped _
  unary := unaryRule_shaped _
  trailers := trailersRule_shaped _
  early := earlyRule_shaped _
  pattern := patternRule_shaped _
  alternatives := alternativesRule_shaped _
  statement := statementRule_shaped _
  bound := boundRule_shaped _

theorem shapes_within (fuel : Nat) : Shapes ⟨treeWithin fuel, itemWithin fuel⟩ := by
  induction fuel with
  | zero => exact shapes_empty
  | succ fuel ih => exact shapes_succ fuel

/-- What is read to the end has the property that all answers of the reader have. -/
theorem answers_of_read {α : Type} {parser : Grammar → Parser α} {good : α → Prop}
    {tokens : List TokenTree} {value : α} (hparser : ⦃⌜True⌝⦄ parser (forTokens tokens) ⦃⇓? v => ⌜good v⌝⦄)
    (h : Grammar.read parser tokens = .ok value) : good value := by
  rw [Grammar.read, runAll] at h
  split at h
  · cases h
  · next hcursor =>
    split at h
    · cases h
      exact answers_iff.mp hparser _ _ _ hcursor
    · cases h

/-- An expression that was read is formed, whatever its tokens are. -/
theorem formed_of_read_expression {tokens : List TokenTree} {tree : Tree}
    (h : Grammar.read Grammar.expression tokens = .ok tree) : Formed tree := by
  have hshapes : Shapes (forTokens tokens) := shapes_within (fuelFor tokens)
  exact formed_of_shaped (answers_of_read (wholeExpression_shaped _) h)

/-- A type that was read is formed, whatever its tokens are. -/
theorem formed_of_read_type {tokens : List TokenTree} {tree : Tree}
    (h : Grammar.read Grammar.type tokens = .ok tree) : Formed tree := by
  have hshapes : Shapes (forTokens tokens) := shapes_within (fuelFor tokens)
  exact formed_of_shaped (answers_of_read (wholeType_shaped _) h)

/-- In an expression that was read, nothing but `Self` is replaced. -/
theorem replaces_of_read_expression (host : StructItem) {tokens : List TokenTree} {tree : Tree}
    (h : Grammar.read Grammar.expression tokens = .ok tree) :
    Replaces (ofHost host) (trim tree).tokens ((ofHost host).inTree tree).tokens :=
  replaces_inTree rfl (formed_of_read_expression h)

end Substitution

end Counterpart
