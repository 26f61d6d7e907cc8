import Counterpart.Proofs.ScannedPatterns

/-!
# Expressions that a scan covers

Readers of operators, of what may stand behind an expression, and of blocks with keywords. Each hands
on that the expression that is read up to a place is covered unless a label's mark follows it there.
-/

set_option mvcgen.warning false

open Std.Do Counterpart.Occurrence Counterpart.Scan Counterpart.Parser

namespace Counterpart

variable [Scan]

/-! ## Constructs with further parts -/

theorem findsCalls_of_attributes {attributes : List Tree} (h : CoversAttributes attributes) :
    FindsCalls attributes := by
  induction attributes with
  | nil => simp
  | cons tree rest ih =>
    obtain ⟨⟨parts, rfl, -⟩, hrest⟩ := coversAttributes_cons.mp h
    simpa using ih hrest

theorem findsPaths_of_attributes {attributes : List Tree} (h : CoversAttributes attributes) :
    FindsPaths attributes := by
  intro tree htree
  cases tree with
  | node kind parts =>
    obtain rfl : kind = .attribute := by simpa [Tree.isKind] using h.2 _ htree
    exact findsPath_of_none rfl
  | _ => cases h.2 _ htree

theorem coversBlock_attributes {attributes parts : List Tree} (h : CoversAttributes attributes)
    (hparts : CoversBlock parts) : CoversBlock (attributes ++ parts) := by
  induction attributes with
  | nil => exact hparts
  | cons tree rest ih =>
    obtain ⟨⟨own, rfl, -⟩, hrest⟩ := coversAttributes_cons.mp h
    rw [List.cons_append, CoversBlock]
    · exact ih hrest
    all_goals nofun

/-- A covered construct behind covered attributes is covered. -/
theorem covers_behind {attributes parts : List Tree} {kind : Kind}
    (hattributes : CoversAttributes attributes) (h : Covers (.node kind parts)) :
    Covers (.node kind (attributes ++ parts)) := by
  by_cases hordinary : kind.isOrdinary = true
  · rw [covers_node hordinary] at h ⊢
    exact coversAll_append.mpr ⟨hattributes.1, h⟩
  rw [Kind.isOrdinary.eq_def] at hordinary
  split at hordinary
  case h_1 => simp [Covers] at h
  case h_2 => simp [Covers] at h
  case h_3 =>
    rw [Covers] at h ⊢
    exact coversBlock_attributes hattributes h
  case h_4 =>
    rw [covers_macroCall] at h ⊢
    exact findsCalls_append.mpr ⟨findsCalls_of_attributes hattributes, h⟩
  case h_5 =>
    rw [Covers] at h ⊢
    exact coversRow_append hattributes.1 h
  case h_6 => simp [Covers]
  case h_7 => simp [Covers]
  case h_8 =>
    rw [Covers, coversEach_iff] at h ⊢
    exact ⟨List.forall_mem_append.mpr ⟨findsPaths_of_attributes hattributes, h.1⟩,
      coversAll_append.mpr ⟨hattributes.1, h.2⟩⟩
  case h_9 => exact (hordinary rfl).elim

@[grind norm] theorem covers_generatedGroup {delimiter : Delimiter} {content : List Tree} :
    Covers (Tree.generatedGroup delimiter content) ↔ CoversRow content :=
  covers_group

theorem covers_attributed {attributes : List Tree} {tree : Tree}
    (hattributes : CoversAttributes attributes) (h : Covers tree) :
    Covers (tree.attributed attributes) := by
  rw [Tree.attributed.eq_def]
  split
  case h_1 => exact h
  case h_2 => exact h
  case h_3 own =>
    rw [covers_expression] at h
    split <;> grind -ring -linarith
  case h_4 => exact covers_behind hattributes h
  case h_5 => exact h

omit [Scan] in
@[simp, grind =] theorem Tree.expressionKind?_attributed {attributes : List Tree} {tree : Tree} :
    (tree.attributed attributes).expressionKind? = tree.expressionKind? := by
  rw [Tree.attributed.eq_def]
  split
  case h_3 => split <;> rfl
  case h_4 => rw [Tree.expressionKind?.eq_def, Tree.expressionKind?.eq_def]; split <;> simp_all
  all_goals rfl

namespace Grammar

variable (grammar : Grammar) [Sound grammar]

/-! ## Operators -/

omit [Scan] in
/-- No binary operator is a mark of a label, and a word behind one is a reference. -/
theorem binaryOperator?_some {tokens : List TokenTree} {text : String} {precedence : Precedence}
    (h : binaryOperator? tokens = some (text, precedence)) :
    isLabel tokens = false ∧ clears text.toList = true ∧ endsOpen text.toList = true := by
  have hall : ∀ entry ∈ binaryOperators,
      clears entry.1.toList = true ∧ endsOpen entry.1.toList = true := by
    decide
  obtain ⟨hclears, hopen⟩ := hall _ (List.mem_of_find?_eq_some h)
  rw [binaryOperator?] at h
  have hahead := List.find?_some h
  exact ⟨isLabel_of_ahead hahead hclears, hclears, hopen⟩

@[spec] theorem rangeEnd_spec (records : Bool) (c₀ : Cursor) :
    ⦃fun c => ⌜c = c₀⌝⦄ rangeEnd grammar records
      ⦃⇓? v c => ⌜isLabel c₀.rest = false ∧ Leads c₀ (Seen c₀.rest)
        (Fresh c.rest ∧ (isLabel c.rest = false → CoversAll v)) c⌝⦄ := by
  mvcgen [rangeEnd]
  all_goals grind -ring -linarith

omit [Scan] in
@[spec] theorem checkCast_spec (c₀ : Cursor) :
    ⦃fun c => ⌜c = c₀⌝⦄ checkCast ⦃⇓? _ c => ⌜c = c₀⌝⦄ := by
  mvcgen [checkCast]
  all_goals grind -ring -linarith

theorem operatorsRule_spec (records : Bool) (floor : Precedence) (left : Tree) (c₀ : Cursor) :
    ⦃fun c => ⌜c = c₀⌝⦄ operatorsRule grammar records floor left
      ⦃⇓? v c => ⌜Leads c₀ (Holds c₀ left) (Holds c v) c⌝⦄ := by
  mvcgen [operatorsRule]
  all_goals grind -ring -linarith [→ binaryOperator?_some]

theorem widenedRule_spec (records : Bool) (above : Precedence) (right : Tree) (c₀ : Cursor) :
    ⦃fun c => ⌜c = c₀⌝⦄ widenedRule grammar records above right
      ⦃⇓? v c => ⌜Leads c₀ (Holds c₀ right) (Holds c v) c⌝⦄ := by
  mvcgen [widenedRule]
  all_goals grind -ring -linarith

theorem operandRule_spec (records : Bool) (above : Precedence) (c₀ : Cursor) :
    ⦃fun c => ⌜c = c₀⌝⦄ operandRule grammar records above
      ⦃⇓? v c => ⌜Leads c₀ (Ready c₀.rest) (Holds c v) c⌝⦄ := by
  mvcgen [operandRule]
  all_goals grind -ring -linarith

theorem expressionRule_spec (records : Bool) (c₀ : Cursor) :
    ⦃fun c => ⌜c = c₀⌝⦄ expressionRule grammar records
      ⦃⇓? v c => ⌜Leads c₀ (Ready c₀.rest) (Holds c v) c⌝⦄ := by
  mvcgen [expressionRule]
  all_goals grind -ring -linarith

/-! ## Behind an expression -/

theorem fractionIndices_add_spec (dot written : List Tree) (subject : Tree)
    (parts : List (List Char × Option Region)) (c₀ : Cursor) :
    ⦃fun c => ⌜c = c₀⌝⦄ fractionIndices.add dot written subject parts
      ⦃⇓? v c => ⌜c = c₀ ∧ (CoversAll dot → subject.expressionKind?.isSome = true →
        Covers subject → v.expressionKind?.isSome = true ∧ Covers v)⌝⦄ := by
  induction parts generalizing subject with
  | nil =>
    mvcgen [fractionIndices.add]
    all_goals grind -ring -linarith
  | cons part rest ih =>
    mvcgen [fractionIndices.add, ih]
    all_goals grind -ring -linarith

@[spec] theorem fractionIndices_spec (subject : Tree) (dot : List Tree) (c₀ : Cursor) :
    ⦃fun c => ⌜c = c₀⌝⦄ fractionIndices subject dot
      ⦃⇓? v c => ⌜Reads c₀ (CoversAll dot → subject.expressionKind?.isSome = true →
        Covers subject → v.1.expressionKind?.isSome = true ∧ Covers v.1) c⌝⦄ := by
  mvcgen [fractionIndices, fractionIndices_add_spec]
  all_goals grind -ring -linarith

@[spec] theorem memberRule_spec (subject : Tree) (dot : List Tree) (c₀ : Cursor) :
    ⦃fun c => ⌜c = c₀⌝⦄ memberRule grammar subject dot
      ⦃⇓? v c => ⌜Reads c₀ (CoversAll dot → Covers subject →
        v.expressionKind?.isSome = true ∧ Covers v) c⌝⦄ := by
  mvcgen [memberRule]
  all_goals grind -ring -linarith

theorem trailersRule_spec (subject : Tree) (c₀ : Cursor) :
    ⦃fun c => ⌜c = c₀⌝⦄ trailersRule grammar subject
      ⦃⇓? v c => ⌜Leads c₀ (Holds c₀ subject) (Holds c v) c⌝⦄ := by
  mvcgen [trailersRule]
  all_goals grind -ring -linarith

/-! ## Blocks with keywords -/

@[spec] theorem condition_spec (c₀ : Cursor) :
    ⦃fun c => ⌜c = c₀⌝⦄ condition grammar
      ⦃⇓? v c => ⌜Leads c₀ (Ready c₀.rest) (Holds c v) c⌝⦄ :=
  Sound.expression false c₀

@[spec] theorem ifChain_spec (fuel : Nat) (c₀ : Cursor) :
    ⦃fun c => ⌜c = c₀⌝⦄ ifChain grammar fuel
      ⦃⇓? v c => ⌜Closes c₀ (Covers v) c ∧ v.expressionKind? = some .ifElse⌝⦄ := by
  induction fuel generalizing c₀ with
  | zero =>
    mvcgen [ifChain]
    all_goals grind -ring -linarith
  | succ fuel ih =>
    mvcgen [ifChain, ih]
    all_goals grind -ring -linarith

@[spec] theorem ifElse_spec (c₀ : Cursor) :
    ⦃fun c => ⌜c = c₀⌝⦄ ifElse grammar
      ⦃⇓? v c => ⌜Closes c₀ (Covers v) c ∧ v.expressionKind? = some .ifElse⌝⦄ := by
  mvcgen [ifElse]
  all_goals grind -ring -linarith

@[spec] theorem whileLoop_spec (c₀ : Cursor) :
    ⦃fun c => ⌜c = c₀⌝⦄ whileLoop grammar
      ⦃⇓? v c => ⌜Closes c₀ (Covers v) c ∧ v.expressionKind? = some .whileLoop⌝⦄ := by
  mvcgen [whileLoop]
  all_goals grind -ring -linarith

@[spec] theorem forLoop_spec (c₀ : Cursor) :
    ⦃fun c => ⌜c = c₀⌝⦄ forLoop grammar
      ⦃⇓? v c => ⌜Closes c₀ (Covers v) c ∧ v.expressionKind? = some .forLoop⌝⦄ := by
  mvcgen [forLoop]
  all_goals grind -ring -linarith

@[spec] theorem plainLoop_spec (c₀ : Cursor) :
    ⦃fun c => ⌜c = c₀⌝⦄ plainLoop grammar
      ⦃⇓? v c => ⌜Closes c₀ (Covers v) c ∧ v.expressionKind? = some .loop⌝⦄ := by
  mvcgen [plainLoop]
  all_goals grind -ring -linarith

@[spec] theorem matchArm_spec (c₀ : Cursor) :
    ⦃fun c => ⌜c = c₀⌝⦄ matchArm grammar
      ⦃⇓? v c => ⌜Runs c₀ (CoversAll v) c⌝⦄ := by
  mvcgen [matchArm]
  all_goals
    intro hread
    refine ⟨?_, fun hfresh => ⟨?_, ?_⟩⟩
  all_goals grind -ring -linarith

@[spec] theorem unsafeBlock_spec (c₀ : Cursor) :
    ⦃fun c => ⌜c = c₀⌝⦄ unsafeBlock grammar
      ⦃⇓? v c => ⌜Closes c₀ (Covers v) c ∧ v.expressionKind? = some .unsafeBlock⌝⦄ := by
  mvcgen [unsafeBlock]
  all_goals grind -ring -linarith

@[spec] theorem tryBlock_spec (c₀ : Cursor) :
    ⦃fun c => ⌜c = c₀⌝⦄ tryBlock grammar
      ⦃⇓? v c => ⌜Closes c₀ (Covers v) c ∧ v.expressionKind? = some .tryBlock⌝⦄ := by
  mvcgen [tryBlock]
  all_goals grind -ring -linarith

@[spec] theorem plainBlock_spec (c₀ : Cursor) :
    ⦃fun c => ⌜c = c₀⌝⦄ plainBlock grammar
      ⦃⇓? v c => ⌜Closes c₀ (Covers v) c ∧ v.expressionKind? = some .block⌝⦄ := by
  mvcgen [plainBlock]
  all_goals grind -ring -linarith

@[spec] theorem matchArms_spec (c₀ : Cursor) :
    ⦃fun c => ⌜c = c₀⌝⦄ matchArms grammar
      ⦃⇓? v c => ⌜Closes c₀ (Covers v) c ∧ v.expressionKind? = some .matchArms⌝⦄ := by
  mvcgen [matchArms, many_runs_spec]
  all_goals grind -ring -linarith

theorem covers_labelled {label : List Tree} {tree : Tree} (hlabel : CoversAll label)
    (hkind : tree.expressionKind?.isSome = true) (h : Covers tree) :
    Covers (tree.prepend [.node .phrase label]) := by
  have hword : FindsPath (.node .phrase label) := findsPath_of_none rfl
  cases tree with
  | node kind parts =>
    cases kind with
    | expression kind =>
      rw [Tree.prepend, List.singleton_append]
      grind -ring -linarith
    | _ => cases hkind
  | _ => cases hkind

omit [Scan] in
@[simp, grind =] theorem Tree.expressionKind?_prepend {parts : List Tree} {tree : Tree} :
    (tree.prepend parts).expressionKind? = tree.expressionKind? := by
  cases tree with
  | node kind own => cases kind <;> rfl
  | _ => rfl

@[spec] theorem labelled_spec (c₀ : Cursor) :
    ⦃fun c => ⌜c = c₀⌝⦄ labelled grammar
      ⦃⇓? v c => ⌜Closes c₀ (Covers v) c ∧ v.expressionKind?.isSome = true⌝⦄ := by
  mvcgen [labelled]
  all_goals grind -ring -linarith [covers_labelled]

end Grammar

end Counterpart
