import Counterpart.Proofs.ScannedPaths

/-!
# Types that a scan covers

Readers of generic parameters, bounds, `where` clauses and types. A type may end in a word, but such
a word is no path of an expression, so a type is covered whatever follows.
-/

set_option mvcgen.warning false

open Std.Do Counterpart.Occurrence Counterpart.Scan Counterpart.Parser

namespace Counterpart

variable [Scan]

/-! ## Generic parameters -/

@[grind ←] theorem GenericParameter.coversAll_trees {parameter : GenericParameter}
    (hattributes : ∀ attr ∈ parameter.attributes, Covers attr.tree)
    (hkeyword : CoversAll parameter.keyword) (hname : Covers parameter.name)
    (hcolon : CoversAll parameter.colon) (hbounds : CoversAll parameter.bounds)
    (hfallback : CoversAll parameter.fallback) : CoversAll parameter.trees := by
  have houter := coversAll_outer hattributes
  rw [GenericParameter.trees]
  split <;> grind -ring -linarith

/-- A scan covers generic parameters. -/
def Generics.Covered (generics : Generics) : Prop :=
  ∀ parameter ∈ generics.parameters, CoversAll parameter.trees

@[grind norm] theorem Generics.covered_mk {parameters : List GenericParameter} {trailing : Bool}
    {clause : List Tree} : Generics.Covered ⟨parameters, trailing, clause⟩ ↔
      ∀ parameter ∈ parameters, CoversAll parameter.trees :=
  Iff.rfl

@[grind norm] theorem Generics.covered_none : Generics.none.Covered ↔ True := by
  simp [Generics.Covered, Generics.none]

theorem coversAll_commaMarked {pieces : List (List Tree × Bool)}
    (h : ∀ piece ∈ pieces, CoversAll piece.1) : CoversAll (Generics.commaMarked pieces) := by
  intro tree htree
  obtain ⟨piece, hpiece, hmem⟩ := List.mem_flatMap.mp htree
  rcases List.mem_append.mp hmem with hmem | hmem
  · exact h piece hpiece tree hmem
  · split at hmem
    · exact coversAll_operator.mpr trivial tree hmem
    · cases hmem

omit [Scan] in
theorem Generics.mem_of_mem_marked {trailing : Bool} {parameters : List GenericParameter}
    {entry : GenericParameter × Bool} (h : entry ∈ marked trailing parameters) :
    entry.1 ∈ parameters := by
  fun_induction marked trailing parameters with
  | case1 => cases h
  | case2 last =>
    cases List.mem_singleton.mp h
    exact List.mem_singleton_self _
  | case3 first rest hrest ih =>
    rcases List.mem_cons.mp h with rfl | hmem
    · exact List.mem_cons_self
    · exact List.mem_cons_of_mem _ (ih hmem)

@[grind ←] theorem Generics.coversAll_declared {generics : Generics} (h : generics.Covered) :
    CoversAll generics.declared := by
  rw [declared]
  split
  · simp
  have hwrite : ∀ test : (GenericParameter × Bool) × Nat → Bool,
      CoversAll (commaMarked (((marked generics.trailing generics.parameters).zipIdx.filter
        test).map fun entry => ([.node (.parameter entry.2) entry.1.1.trees], entry.1.2))) := by
    refine fun test => coversAll_commaMarked fun piece hpiece => ?_
    obtain ⟨entry, hentry, rfl⟩ := List.mem_map.mp hpiece
    have hmem := List.fst_mem_of_mem_zipIdx (List.mem_filter.mp hentry).1
    have hcovers := h _ (mem_of_mem_marked hmem)
    grind -ring -linarith
  have hlist : CoversAll generics.declaredList := by
    rw [declaredList, List.partition_eq_filter_filter]
    refine coversAll_append.mpr ⟨coversAll_append.mpr ⟨hwrite _, ?_⟩, hwrite _⟩
    split
    · exact coversAll_operator.mpr trivial
    · simp
  grind -ring -linarith

namespace Grammar

variable (grammar : Grammar) [Sound grammar]

@[spec] theorem lifetimeParameter_spec (attributes : List Attribute) (c₀ : Cursor) :
    ⦃fun c => ⌜c = c₀⌝⦄ lifetimeParameter attributes
      ⦃⇓? v c => ⌜Goes c₀ ((∀ attr ∈ attributes, Covers attr.tree) → CoversAll v.trees) c⌝⦄ := by
  mvcgen [lifetimeParameter]
  all_goals grind -ring -linarith

@[spec] theorem typeParameter_spec (attributes : List Attribute) (c₀ : Cursor) :
    ⦃fun c => ⌜c = c₀⌝⦄ typeParameter grammar attributes
      ⦃⇓? v c => ⌜Goes c₀ ((∀ attr ∈ attributes, Covers attr.tree) → CoversAll v.trees) c⌝⦄ := by
  mvcgen [typeParameter]
  all_goals grind -ring -linarith

@[spec] theorem constParameter_spec (attributes : List Attribute) (c₀ : Cursor) :
    ⦃fun c => ⌜c = c₀⌝⦄ constParameter grammar attributes
      ⦃⇓? v c => ⌜Lists c₀ ((∀ attr ∈ attributes, Covers attr.tree) → CoversAll v.trees) c⌝⦄ := by
  mvcgen [constParameter]
  all_goals grind -ring -linarith

@[spec] theorem genericParameter_spec (c₀ : Cursor) :
    ⦃fun c => ⌜c = c₀⌝⦄ genericParameter grammar ⦃⇓? v c => ⌜Lists c₀ (CoversAll v.trees) c⌝⦄ := by
  mvcgen [genericParameter]
  all_goals grind -ring -linarith

@[spec] theorem introducedParameter_spec (c₀ : Cursor) :
    ⦃fun c => ⌜c = c₀⌝⦄ introducedParameter grammar
      ⦃⇓? v c => ⌜Lists c₀ (CoversAll v.trees) c⌝⦄ := by
  mvcgen [introducedParameter]
  all_goals grind -ring -linarith

@[spec] theorem genericParameters_spec (c₀ : Cursor) :
    ⦃fun c => ⌜c = c₀⌝⦄ genericParameters grammar
      ⦃⇓? v c => ⌜Passes c₀ v.Covered c⌝⦄ := by
  have hvalues := separatedValues_spec (fun parameter =>
    CoversAll (GenericParameter.trees parameter)) (Lookahead.operator ">")
    (genericParameter_spec grammar)
  mvcgen [genericParameters, hvalues]
  all_goals grind -ring -linarith

/-! ## Bounds -/

@[spec] theorem binder_spec (c₀ : Cursor) :
    ⦃fun c => ⌜c = c₀⌝⦄ binder grammar ⦃⇓? v c => ⌜Reads c₀ (CoversAll v) c⌝⦄ := by
  mvcgen [binder, separatedUntil_spec]
  all_goals grind -ring -linarith

@[spec] theorem binder?_spec (c₀ : Cursor) :
    ⦃fun c => ⌜c = c₀⌝⦄ binder? grammar ⦃⇓? v c => ⌜Passes c₀ (CoversAll v) c⌝⦄ := by
  mvcgen [binder?]
  all_goals grind -ring -linarith

@[spec] theorem capturedLoop_spec (fuel : Nat) (c₀ : Cursor) :
    ⦃fun c => ⌜c = c₀⌝⦄ capturedLoop fuel ⦃⇓? v c => ⌜Lists c₀ (CoversPieces v) c⌝⦄ := by
  induction fuel generalizing c₀ with
  | zero =>
    mvcgen [capturedLoop]
    all_goals grind -ring -linarith
  | succ fuel ih =>
    mvcgen [capturedLoop, ih]
    all_goals grind -ring -linarith

@[spec] theorem capturedNames_spec (c₀ : Cursor) :
    ⦃fun c => ⌜c = c₀⌝⦄ capturedNames ⦃⇓? v c => ⌜Reads c₀ (CoversAll v) c⌝⦄ := by
  mvcgen [capturedNames]
  all_goals grind -ring -linarith

@[spec] theorem constantMark_spec (admitted : Bool) (c₀ : Cursor) :
    ⦃fun c => ⌜c = c₀⌝⦄ constantMark admitted ⦃⇓? v c => ⌜Passes c₀ (CoversAll v) c⌝⦄ := by
  mvcgen [constantMark]
  all_goals grind -ring -linarith

@[spec] theorem traitBound_spec (constants : Bool) (c₀ : Cursor) :
    ⦃fun c => ⌜c = c₀⌝⦄ traitBound grammar constants
      ⦃⇓? v c => ⌜Reads c₀ (CoversAll v.1) c⌝⦄ := by
  mvcgen [traitBound]
  all_goals grind -ring -linarith

@[spec] theorem boundRule_spec (captures constants : Bool) (c₀ : Cursor) :
    ⦃fun c => ⌜c = c₀⌝⦄ boundRule grammar captures constants
      ⦃⇓? v c => ⌜Reads c₀ (Covers v) c⌝⦄ := by
  have hinside := inside_spec .parenthesis (fun v : List Tree × Bool => CoversAll v.1)
    (traitBound grammar constants)
  mvcgen [boundRule, hinside]
  all_goals grind -ring -linarith

@[spec] theorem boundLoop_spec (fuel : Nat) (sums captures constants : Bool) (c₀ : Cursor) :
    ⦃fun c => ⌜c = c₀⌝⦄ boundLoop grammar fuel sums captures constants
      ⦃⇓? v c => ⌜Passes c₀ (CoversAll v) c ∧ (fuel ≠ 0 → Reads c₀ (CoversAll v) c)⌝⦄ := by
  induction fuel generalizing c₀ with
  | zero =>
    mvcgen [boundLoop]
    all_goals grind -ring -linarith
  | succ fuel ih =>
    mvcgen [boundLoop, ih]
    all_goals grind -ring -linarith

@[spec] theorem boundSum_spec (sums captures constants : Bool) (c₀ : Cursor) :
    ⦃fun c => ⌜c = c₀⌝⦄ boundSum grammar sums captures constants
      ⦃⇓? v c => ⌜Reads c₀ (CoversAll v) c⌝⦄ := by
  mvcgen [boundSum]
  all_goals grind -ring -linarith

/-! ## Clauses -/

@[spec] theorem predicate_spec (c₀ : Cursor) :
    ⦃fun c => ⌜c = c₀⌝⦄ predicate grammar ⦃⇓? v c => ⌜Goes c₀ (Covers v) c⌝⦄ := by
  mvcgen [predicate]
  all_goals grind -ring -linarith

@[spec] theorem predicateLoop_spec (fuel : Nat) (c₀ : Cursor) :
    ⦃fun c => ⌜c = c₀⌝⦄ predicateLoop grammar fuel ⦃⇓? v c => ⌜Goes c₀ (CoversAll v) c⌝⦄ := by
  induction fuel generalizing c₀ with
  | zero =>
    mvcgen [predicateLoop]
    all_goals grind -ring -linarith
  | succ fuel ih =>
    mvcgen [predicateLoop, ih]
    all_goals grind -ring -linarith

@[spec] theorem whereClause_spec (c₀ : Cursor) :
    ⦃fun c => ⌜c = c₀⌝⦄ whereClause grammar
      ⦃⇓? v c => ⌜Goes c₀ (CoversAll v) c ∧ isLabel c₀.rest = false⌝⦄ := by
  mvcgen [whereClause]
  all_goals grind -ring -linarith

@[spec] theorem whereClause?_spec (c₀ : Cursor) :
    ⦃fun c => ⌜c = c₀⌝⦄ whereClause? grammar
      ⦃⇓? v c => ⌜Goes c₀ (CoversAll v) c ∧ (c = c₀ ∨ isLabel c₀.rest = false)⌝⦄ := by
  mvcgen [whereClause?]
  all_goals grind -ring -linarith

/-! ## Types -/

@[grind norm] theorem covers_typeNode {parts : List Tree} :
    Covers (typeNode parts) ↔ CoversAll parts :=
  covers_type

@[spec] theorem objectBounds_spec (lead : List Tree) (sums captures constants : Bool)
    (rule : String) (c₀ : Cursor) :
    ⦃fun c => ⌜c = c₀⌝⦄ objectBounds grammar lead sums captures constants rule
      ⦃⇓? v c => ⌜Reads c₀ (CoversAll v) c⌝⦄ := by
  mvcgen [objectBounds]
  all_goals grind -ring -linarith

@[spec] theorem plusBounds_spec (c₀ : Cursor) :
    ⦃fun c => ⌜c = c₀⌝⦄ plusBounds grammar ⦃⇓? v c => ⌜Runs c₀ (CoversAll v) c⌝⦄ := by
  mvcgen [plusBounds, many_runs_spec]
  all_goals grind -ring -linarith

@[spec] theorem objectTail_spec (fuel : Nat) (c₀ : Cursor) :
    ⦃fun c => ⌜c = c₀⌝⦄ objectTail grammar fuel ⦃⇓? v c => ⌜Runs c₀ (CoversAll v) c⌝⦄ := by
  induction fuel generalizing c₀ with
  | zero =>
    mvcgen [objectTail]
    all_goals grind -ring -linarith
  | succ fuel ih =>
    mvcgen [objectTail, ih]
    all_goals grind -ring -linarith

@[spec] theorem callingConvention_spec (c₀ : Cursor) :
    ⦃fun c => ⌜c = c₀⌝⦄ callingConvention ⦃⇓? v c => ⌜Reads c₀ (CoversAll v) c⌝⦄ := by
  mvcgen [callingConvention]
  all_goals grind -ring -linarith

@[spec] theorem callingConvention?_spec (c₀ : Cursor) :
    ⦃fun c => ⌜c = c₀⌝⦄ callingConvention? ⦃⇓? v c => ⌜Passes c₀ (CoversAll v) c⌝⦄ := by
  mvcgen [callingConvention?]
  all_goals grind -ring -linarith

@[spec] theorem functionTypeInput_spec (first : Bool) (c₀ : Cursor) :
    ⦃fun c => ⌜c = c₀⌝⦄ functionTypeInput grammar first
      ⦃⇓? v c => ⌜Reads c₀ (CoversAll v) c⌝⦄ := by
  mvcgen [functionTypeInput]
  all_goals grind -ring -linarith

@[spec] theorem openFunctionTypeInput_spec (c₀ : Cursor) :
    ⦃fun c => ⌜c = c₀⌝⦄ openFunctionTypeInput ⦃⇓? v c => ⌜Reads c₀ (CoversAll v) c⌝⦄ := by
  mvcgen [openFunctionTypeInput]
  all_goals grind -ring -linarith

@[spec] theorem functionTypeInputs_spec (fuel : Nat) (first : Bool) (c₀ : Cursor) :
    ⦃fun c => ⌜c = c₀⌝⦄ functionTypeInputs grammar fuel first
      ⦃⇓? v c => ⌜Runs c₀ (CoversAll v) c⌝⦄ := by
  induction fuel generalizing c₀ first with
  | zero =>
    mvcgen [functionTypeInputs]
    all_goals grind -ring -linarith
  | succ fuel ih =>
    mvcgen [functionTypeInputs, ih]
    all_goals grind -ring -linarith

@[spec] theorem functionType_spec (introduced : List Tree) (c₀ : Cursor) :
    ⦃fun c => ⌜c = c₀⌝⦄ functionType grammar introduced
      ⦃⇓? v c => ⌜Reads c₀ (CoversAll introduced → Covers v) c⌝⦄ := by
  mvcgen [functionType]
  all_goals grind -ring -linarith

/-- A scan covers what was read in parentheses. -/
@[grind] def ParenthesisedType.Covered : ParenthesisedType → Prop
  | .complete tree => Covers tree
  | .single inner group => Covers inner ∧ Covers group
  | .bound tree => Covers tree

theorem covers_firstBound {inner group first : Tree} (h : firstBound? inner group = some first)
    (hinner : Covers inner) (hgroup : Covers group) : Covers first := by
  rw [firstBound?.eq_def] at h
  split at h
  case h_1 path =>
    split at h
    · cases h
      simpa [covers_phrase] using hgroup
    · cases h
  case h_2 delimiter opening closing content =>
    cases h
    simpa [covers_phrase, covers_type] using hinner
  case h_3 bound hbound =>
    split at h
    · cases h
      simpa [covers_phrase] using hgroup
    · cases h
  case h_4 => cases h

@[spec] theorem parenthesisedType_spec (c₀ : Cursor) :
    ⦃fun c => ⌜c = c₀⌝⦄ parenthesisedType grammar ⦃⇓? v c => ⌜Reads c₀ v.Covered c⌝⦄ := by
  have hinside := inside_spec .parenthesis fun v : List Tree × Nat => CoversAll v.1
  mvcgen [parenthesisedType, hinside]
  all_goals grind -ring -linarith [→ covers_of_single]

@[spec] theorem pathType_spec (sums : Bool) (introduced : List Tree) (c₀ : Cursor) :
    ⦃fun c => ⌜c = c₀⌝⦄ pathType grammar sums introduced
      ⦃⇓? v c => ⌜Reads c₀ (CoversAll introduced → Covers v) c⌝⦄ := by
  mvcgen [pathType]
  all_goals grind -ring -linarith [macroFollows, Tree.isPlainPath]

theorem typeRule_spec (sums : Bool) (c₀ : Cursor) :
    ⦃fun c => ⌜c = c₀⌝⦄ typeRule grammar sums ⦃⇓? v c => ⌜Reads c₀ (Covers v) c⌝⦄ := by
  mvcgen [typeRule]
  all_goals grind -ring -linarith [covers_firstBound]

end Grammar

end Counterpart
